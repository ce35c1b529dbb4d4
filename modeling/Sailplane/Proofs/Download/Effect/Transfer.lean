import Sailplane.Proofs.Download.Effect

/-!
# The effects of transfers

What a transfer does to the queue while it runs: it reads, reports, cancels, comes to rest and ends.
-/
namespace Sailplane.Download

namespace Session

variable {users : Users}

/-- Closing a transfer ends nothing but that transfer. -/
theorem shift_close (session : Session users) (serial : Nat) :
    Shift session (session.alter serial .close) session.queue
      (changeAt serial .close session.tasks) session.turns [] :=
  ⟨rfl, tasks_alter session serial .close fun _ => rfl, rfl, (List.append_nil _).symm⟩

/-- A transfer that comes to rest and was stopped is closed. -/
theorem shift_pause (session : Session users) {transfer : Transfer}
    (fetching : transfer.phase = .fetching) (stopped : transfer.stopped = true) :
    Shift session (session.pause transfer) session.queue
      (changeAt transfer.serial .close session.tasks) session.turns
      [.dropped (launchOf transfer)] := by
  have closed := shift_close session transfer.serial
  have paused : session.pause transfer =
      (session.alter transfer.serial .close).see (.dropped (launchOf transfer)) := by
    rw [pause, stopped, fetching]
    rfl
  rw [paused]
  exact ⟨closed.queue, closed.tasks, closed.turns, rfl⟩

/-- A transfer that comes to rest leaves nothing begun, and is dropped if it was stopped. -/
theorem sound_pause (session : Session users) (transfer : Transfer)
    (listed : transfer.bare ∈ session.tasks) (fetching : transfer.phase = .fetching)
    (quiet : session.queue.delivering = false) :
    Sound session none { session.pause transfer with stack := [] } := by
  cases stopped : transfer.stopped with
  | true =>
    have shift := shift_pause session fetching stopped
    refine ⟨.dropped listed (.inr rfl) fetching stopped
      ⟨shift.queue, shift.tasks, shift.turns, shift.log⟩, ?_⟩
    change Nested (session.pause transfer).tasks (session.pause transfer).queue.delivering []
    rw [shift.queue, quiet]
    exact .nil
  | false =>
    rw [pause_of_kept stopped]
    have nested : Nested session.tasks session.queue.delivering ([] : List (Frame users)) := by
      rw [quiet]
      exact .nil
    exact sound_aside rfl rfl rfl rfl rfl nested

/-- A transfer that has followed a message goes on reading, waits for a turn, or comes to rest. -/
theorem sound_readNext (session : Session users) (transfer : Transfer) (allowance : Nat)
    (found : taskAt transfer.serial session.tasks = some transfer.bare)
    (fetching : transfer.phase = .fetching)
    (quiet : session.queue.delivering = false) :
    Sound session none (session.readNext transfer allowance []) := by
  have listed := (mem_of_taskAt found).1
  cases allowance with
  | zero =>
    cases stopped : transfer.stopped with
    | true =>
      rw [readNext_zero_stopped stopped]
      exact sound_pause session transfer listed fetching quiet
    | false =>
      have scheduled := shift_schedule session transfer.serial
      have pending : transfer.bare.phase ≠ .closed := by
        rw [show transfer.bare.phase = transfer.phase from rfl, fetching]
        decide
      rw [readNext_zero_kept stopped]
      refine ⟨.woken listed pending
        ⟨scheduled.queue, scheduled.tasks, scheduled.turns, scheduled.log⟩, ?_⟩
      change Nested (session.schedule transfer.serial).tasks
        (session.schedule transfer.serial).queue.delivering []
      rw [scheduled.queue, quiet]
      exact .nil
  | succ allowance =>
    cases inbox : transfer.inbox with
    | nil =>
      rw [readNext_nil inbox]
      exact sound_pause session transfer listed fetching quiet
    | cons message inbox' =>
      have same := tasks_alter_of_bare session transfer.serial
        (fun transfer => { transfer with inbox := inbox' }) fun _ => rfl
      rw [readNext_cons inbox]
      refine sound_still (fun _ seen => absurd seen List.not_mem_nil)
        ⟨rfl, same, rfl, (List.append_nil _).symm⟩ ?_
      rw [quiet]
      exact .transfer found fetching message allowance

/-- A transfer that cancels a request that is queued takes that away. -/
theorem sound_cancel_some {session : Session users} {transfer : Transfer} {name : String}
    {again : Frame users} {change : Change} (reaches : users.reaches session.state = true)
    (call : session.call? = some (.cancel name)) (deed : session.deed? = session.asked?)
    (searched : session.queue.cancel? name = some change)
    (below : Nested session.tasks session.queue.delivering [again]) :
    Sound session session.deed? (session.follow transfer (.cancel name) again []) := by
  let seen := session.see (.followed (launchOf transfer) (.cancel name))
  obtain ⟨entry, first, _⟩ := Option.map_eq_some_iff.mp searched
  have asked : session.asked? = some (.cancelled entry) := by
    simp only [asked?, call, first, Option.map_some]
  have after : session.follow transfer (.cancel name) again [] =
      { (seen.applyAndDeliver change).2 with
        stack := (seen.applyAndDeliver change).1 ++ .show (.cancelled name true) :: [again] } :=
    follow_cancel_some reaches searched
  have shifted := shift_applyAndDeliver seen change
  have changed : Changed session (session.follow transfer (.cancel name) again []) change
      session.tasks [.followed (launchOf transfer) (.cancel name)] := by
    rw [after]
    exact ⟨shifted.queue, shifted.tasks, shifted.turns,
      shifted.log.trans (List.append_assoc _ _ _)⟩
  rw [deed, asked]
  refine ⟨.cancelled first searched (neutral_single rfl) changed, nested_changed seen change
    (cancel_delivering searched) (.shown name true below) ?_
    (congrArg Queue.delivering changed.queue) ?_⟩
  · rw [after]
    rfl
  · rw [after]

/-- A transfer that cancels a request has the effect of that call. -/
theorem sound_cancel (session : Session users) (transfer : Transfer) (name : String)
    (message : List Signal) (allowance : Nat)
    (found : session.transfer? transfer.serial = some transfer)
    (stack : session.stack = [.transfer transfer.serial (.cancel name :: message) allowance])
    (fetching : transfer.phase = .fetching) (quiet : session.queue.delivering = false) :
    Sound session session.deed? (session.follow transfer (.cancel name)
      (.transfer transfer.serial message allowance) []) := by
  have task : taskAt transfer.serial session.tasks = some transfer.bare := by
    rw [taskAt_tasks, found]
    rfl
  have again : Nested session.tasks session.queue.delivering
      [(.transfer transfer.serial message allowance : Frame users)] := by
    rw [quiet]
    exact .transfer task fetching message allowance
  have neutral : ∀ observation ∈ [(.followed (launchOf transfer) (.cancel name) :
      Observation users.Listener users.Note)], observation.isNeutral = true := neutral_single rfl
  cases reaches : users.reaches session.state with
  | false =>
    have deed : session.deed? = none := by
      simp only [deed?, asked?, call?, stack, reaches, Bool.and_false, Bool.false_eq_true, if_false]
    rw [deed, follow_cancel_unreached reaches]
    exact sound_still neutral ⟨rfl, rfl, rfl, rfl⟩ again
  | true =>
    have call : session.call? = some (.cancel name) := by
      simp only [call?, stack, found, reaches, Option.isSome_some, Bool.and_self, if_true]
    cases searched : session.queue.cancel? name with
    | none =>
      have missing := Option.map_eq_none_iff.mp searched
      have deed : session.deed? = none := by
        simp only [deed?, asked?, stack, call, missing, Option.map_none]
      rw [deed, follow_cancel_none reaches searched]
      exact sound_still neutral ⟨rfl, rfl, rfl, rfl⟩ (.shown name false again)
    | some change =>
      have deed : session.deed? = session.asked? := by simp only [deed?, stack]
      exact sound_cancel_some reaches call deed searched again

/-- A transfer that ends gives way to the next one if the queue waited for it. -/
theorem sound_finish (session : Session users) (transfer : Transfer) (failure : Option Failure)
    (again : Frame users) (listed : transfer.bare ∈ session.tasks) (message : List Signal)
    (allowance : Nat)
    (stack : session.stack = [.transfer transfer.serial (.finish failure :: message) allowance])
    (fetching : transfer.phase = .fetching) (quiet : session.queue.delivering = false) :
    Sound session none (session.follow transfer (.finish failure) again []) := by
  let ended := (session.alter transfer.serial .close).see (.ended (launchOf transfer) failure)
  have closed := shift_close session transfer.serial
  have endedTasks : ended.tasks = changeAt transfer.serial .close session.tasks := closed.tasks
  have below : Nested ended.tasks ended.queue.delivering ([] : List (Frame users)) := by
    rw [show ended.queue.delivering = false from quiet]
    exact .nil
  cases completed : session.queue.complete? transfer.serial failure with
  | none =>
    rw [follow_finish_none completed]
    exact ⟨.outlived listed fetching completed ⟨message, allowance, stack⟩
      ⟨closed.queue, closed.tasks, closed.turns, rfl⟩, below⟩
  | some change =>
    have after : session.follow transfer (.finish failure) again [] =
        { (ended.applyAndDeliver change).2 with
          stack := (ended.applyAndDeliver change).1 ++ [] } := follow_finish_some completed
    have shifted := shift_applyAndDeliver ended change
    have changed : Changed session (session.follow transfer (.finish failure) again []) change
        (changeAt transfer.serial .close session.tasks)
        [.ended (launchOf transfer) failure] := by
      rw [after, ← endedTasks]
      exact ⟨shifted.queue, shifted.tasks, shifted.turns,
        shifted.log.trans (List.append_assoc _ _ _)⟩
    refine ⟨.finished listed fetching completed changed, nested_changed ended change
      (complete_delivering completed) below ?_ (congrArg Queue.delivering changed.queue) ?_⟩
    · rw [after]
      rfl
    · rw [after]

/-- A transfer that follows a signal reports, fills a slot, cancels a request or ends. -/
theorem sound_follow (session : Session users) (transfer : Transfer) (signal : Signal)
    (message : List Signal) (allowance : Nat)
    (found : session.transfer? transfer.serial = some transfer)
    (stack : session.stack = [.transfer transfer.serial (signal :: message) allowance])
    (fetching : transfer.phase = .fetching) (quiet : session.queue.delivering = false) :
    Sound session session.deed?
      (session.follow transfer signal (.transfer transfer.serial message allowance) []) := by
  have task : taskAt transfer.serial session.tasks = some transfer.bare := by
    rw [taskAt_tasks, found]
    rfl
  have again : Nested session.tasks session.queue.delivering
      [(.transfer transfer.serial message allowance : Frame users)] := by
    rw [quiet]
    exact .transfer task fetching message allowance
  have neutral : ∀ observation ∈
      [(.followed (launchOf transfer) signal : Observation users.Listener users.Note)],
      observation.isNeutral = true := neutral_single rfl
  cases signal with
  | size bytes =>
    have deed : session.deed? = none := by simp only [deed?, asked?, call?, stack]
    have same := tasks_alter_of_bare session transfer.serial
      (fun transfer => { transfer with status := transfer.status.withSize bytes }) fun _ => rfl
    rw [deed]
    exact sound_still neutral ⟨rfl, same, rfl, rfl⟩ again
  | position bytes =>
    have deed : session.deed? = none := by simp only [deed?, asked?, call?, stack]
    have same := tasks_alter_of_bare session transfer.serial
      (fun transfer => { transfer with status := transfer.status.withPosition bytes })
      fun _ => rfl
    rw [deed]
    exact sound_still neutral ⟨rfl, same, rfl, rfl⟩ again
  | fill content =>
    have deed : session.deed? = none := by simp only [deed?, asked?, call?, stack]
    rw [deed]
    cases place : transfer.entry.request.slotFor content with
    | none =>
      rw [follow_fill_none place]
      exact sound_still neutral ⟨rfl, rfl, rfl, rfl⟩ again
    | some slot =>
      rw [follow_fill_some place]
      exact sound_still neutral ⟨rfl, rfl, rfl, rfl⟩ again
  | cancel name =>
    exact sound_cancel session transfer name message allowance found stack fetching quiet
  | finish failure =>
    have deed : session.deed? = none := by simp only [deed?, asked?, call?, stack]
    rw [deed]
    exact sound_finish session transfer failure _ (mem_of_taskAt task).1 message allowance stack
      fetching quiet

end Session

end Sailplane.Download
