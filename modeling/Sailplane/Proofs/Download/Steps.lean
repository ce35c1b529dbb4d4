import Sailplane.Proofs.Download.Outline

/-!
# Steps

What each kind of step comes to: equations for the tasks that run and the transfers that read, and
what a step leaves begun.
-/
namespace Sailplane.Download

namespace Session

variable {users : Users} {session next : Session users} {transfer : Transfer} {serial : Nat}

/-- A step is one of the innermost thing that has begun, or a task that runs. -/
theorem step_cases (taken : session.step? = some next) :
    (∃ frame rest, session.stack = frame :: rest ∧ next = session.advance frame rest) ∨
      ∃ job ready, session.stack = [] ∧ session.ready = job :: ready ∧
        next = ({ session with ready } : Session users).run job := by
  cases stack : session.stack with
  | cons frame rest =>
    simp only [step?, stack, Option.some.injEq] at taken
    exact .inl ⟨frame, rest, rfl, taken.symm⟩
  | nil =>
    cases jobs : session.ready with
    | nil => simp [step?, stack, jobs] at taken
    | cons job ready =>
      simp only [step?, stack, jobs, Option.some.injEq] at taken
      exact .inr ⟨job, ready, rfl, rfl, taken.symm⟩

/-- Something that has begun goes on. -/
theorem step_of_stack {frame : Frame users} {rest : List (Frame users)}
    (stack : session.stack = frame :: rest) :
    session.step? = some (session.advance frame rest) := by
  rw [step?, stack]

/-- A call is answered, and what it sets off comes before the rest of its script. -/
theorem step_of_call {operation : Operation users.Listener}
    {script : operation.Reply → users.Script Unit} {rest : List (Frame users)}
    (stack : session.stack = .script (.call operation script) :: rest) :
    session.step? = some
      { (session.perform operation).2.2 with
        stack := (session.perform operation).2.1 ++
          .script (script (session.perform operation).1) :: rest } :=
  step_of_stack stack

/-- A task that is ready runs when nothing has begun. -/
theorem step_of_ready {job : Job} {ready : List Job} (stack : session.stack = [])
    (jobs : session.ready = job :: ready) :
    session.step? = some (({ session with ready } : Session users).run job) := by
  rw [step?, stack, jobs]

/-! ## Tasks that run -/

/-- A transfer that is not there does nothing at its turn. -/
theorem run_missing (missing : session.transfer? serial = none) :
    session.run (.transfer serial) = session := by
  simp only [run, missing]

/-- A transfer that is over does nothing at its turn. -/
theorem run_closed (stored : session.transfer? serial = some transfer)
    (closed : transfer.phase = .closed) : session.run (.transfer serial) = session := by
  simp only [run, stored, closed]

/-- A transfer that was stopped before it began is over at its turn. -/
theorem run_discarded (stored : session.transfer? serial = some transfer)
    (waiting : transfer.phase = .waiting) (stopped : transfer.stopped = true) :
    session.run (.transfer serial) = session.alter serial .close := by
  simp only [run, stored, waiting, stopped, if_true]

/-- A transfer that waits begins at its turn. -/
theorem run_begun (stored : session.transfer? serial = some transfer)
    (waiting : transfer.phase = .waiting) (kept : transfer.stopped = false) :
    session.run (.transfer serial) =
      { (session.alter serial .enter).see (.started (launchOf transfer)) with
        stack := [.transfer serial [] turn] } := by
  simp only [run, stored, waiting, kept, Bool.false_eq_true, if_false]
  rfl

/-- A transfer that was stopped while it ran comes to rest at its turn. -/
theorem run_dropped (stored : session.transfer? serial = some transfer)
    (fetching : transfer.phase = .fetching) (stopped : transfer.stopped = true) :
    session.run (.transfer serial) = session.pause transfer := by
  simp only [run, stored, fetching, stopped, if_true]

/-- A transfer that runs goes on at its turn. -/
theorem run_resumed (stored : session.transfer? serial = some transfer)
    (fetching : transfer.phase = .fetching) (kept : transfer.stopped = false) :
    session.run (.transfer serial) = { session with stack := [.transfer serial [] turn] } := by
  simp only [run, stored, fetching, kept, Bool.false_eq_true, if_false]

/-- The task of a stored transfer is found by its serial. -/
theorem taskAt_of_stored (stored : session.transfer? serial = some transfer) :
    taskAt serial session.tasks = some transfer.bare ∧ transfer.serial = serial := by
  have found : taskAt serial session.tasks = some transfer.bare := by
    rw [taskAt_tasks, stored]
    rfl
  exact ⟨found, (mem_of_taskAt found).2⟩

/-- A transfer that has begun is found among the tasks. -/
theorem taskAt_enter (stored : session.transfer? serial = some transfer) :
    taskAt serial (changeAt serial .enter session.tasks) = some transfer.bare.enter := by
  obtain ⟨found, same⟩ := taskAt_of_stored stored
  rw [taskAt_changeAt serial serial .enter _ fun _ => rfl, found]
  simp [Transfer.bare, same]

/-- To come to rest leaves what has begun. -/
theorem stack_pause (session : Session users) (transfer : Transfer) :
    (session.pause transfer).stack = session.stack := by
  rw [pause]
  split
  · rfl
  · rfl

/-- A task that runs leaves nothing begun but a transfer that was not stopped. -/
theorem stack_run (quiet : session.stack = []) (job : Job) :
    (session.run job).stack = [] ∨
      ∃ serial task, (session.run job).stack = [.transfer serial [] turn] ∧
        taskAt serial (session.run job).tasks = some task ∧ task.stopped = false := by
  cases job with
  | watcher label =>
    rw [run]
    split
    · exact .inl quiet
    · exact .inl quiet
  | transfer serial =>
    cases stored : session.transfer? serial with
    | none =>
      rw [run_missing stored]
      exact .inl quiet
    | some transfer =>
      cases phase : transfer.phase with
      | closed =>
        rw [run_closed stored phase]
        exact .inl quiet
      | waiting =>
        cases stopped : transfer.stopped with
        | true =>
          rw [run_discarded stored phase stopped]
          exact .inl quiet
        | false =>
          have entered := tasks_alter session serial .enter fun _ => rfl
          rw [run_begun stored phase stopped]
          exact .inr ⟨serial, transfer.bare.enter, rfl,
            (congrArg (taskAt serial) entered).trans (taskAt_enter stored), stopped⟩
      | fetching =>
        cases stopped : transfer.stopped with
        | true =>
          rw [run_dropped stored phase stopped, stack_pause]
          exact .inl quiet
        | false =>
          rw [run_resumed stored phase stopped]
          exact .inr ⟨serial, transfer.bare, rfl, (taskAt_of_stored stored).1, stopped⟩

/-! ## What calls set off -/

/-- What a change of the queue sets off hands out notices, or is nothing. -/
theorem frames_applyAndDeliver (session : Session users) (change : Change) :
    (session.applyAndDeliver change).1 = [] ∨ (session.applyAndDeliver change).1 = [.drain] := by
  rw [applyAndDeliver]
  split
  · exact .inr rfl
  · exact .inl rfl

/-- A cancel that finds no request sets off nothing. -/
theorem perform_cancel_none {name : String} (missing : session.queue.cancel? name = none) :
    session.perform (.cancel name) = (false, [], session) := by
  simp only [perform, missing]
  rfl

/-- A cancel that finds a request changes the queue. -/
theorem perform_cancel_some {name : String} {change : Change}
    (found : session.queue.cancel? name = some change) :
    session.perform (.cancel name) = (true, session.applyAndDeliver change) := by
  simp only [perform, found]
  rfl

/-- What a call sets off hands out notices or tells a listener something, or is nothing. -/
theorem frames_perform (session : Session users) (operation : Operation users.Listener) :
    (session.perform operation).2.1 = [] ∨ (session.perform operation).2.1 = [.drain] ∨
      ∃ calls, (session.perform operation).2.1 = [.tell calls] := by
  have delivery (change : Change) (reached : Session users) :
      (reached.applyAndDeliver change).1 = [] ∨ (reached.applyAndDeliver change).1 = [.drain] ∨
        ∃ calls, (reached.applyAndDeliver change).1 = [.tell calls] :=
    (frames_applyAndDeliver reached change).imp_right .inl
  cases operation with
  | enqueue request => exact delivery _ session
  | cancel name =>
    cases found : session.queue.cancel? name with
    | none =>
      rw [perform_cancel_none found]
      exact .inl rfl
    | some change =>
      rw [perform_cancel_some found]
      exact delivery change session
  | enumerate listener => exact .inr (.inr ⟨_, rfl⟩)
  | signal message =>
    rw [perform]
    split
    · exact .inl rfl
    · exact .inl rfl
  | shutdown | entries | isIdle | watchIdle label | newSlot => exact .inl rfl
  | register listener | unregister number | readSlot slot | takeSlot slot => exact .inl rfl

/-! ## Transfers that read -/

/-- A transfer that has followed a message reads on. -/
theorem advance_read_nil {allowance : Nat} {rest : List (Frame users)}
    (stored : session.transfer? serial = some transfer) :
    session.advance (.transfer serial [] allowance) rest =
      session.readNext transfer allowance rest := by
  simp only [advance, stored]

/-- A transfer follows the next signal of a message. -/
theorem advance_read_cons {allowance : Nat} {rest : List (Frame users)} {signal : Signal}
    {message : List Signal} (stored : session.transfer? serial = some transfer) :
    session.advance (.transfer serial (signal :: message) allowance) rest =
      session.follow transfer signal (.transfer serial message allowance) rest := by
  simp only [advance, stored]

/-- A transfer that is not there leaves what lies below. -/
theorem advance_read_missing {message : List Signal} {allowance : Nat}
    {rest : List (Frame users)} (missing : session.transfer? serial = none) :
    session.advance (.transfer serial message allowance) rest =
      { session with stack := rest } := by
  simp only [advance, missing]

/-- A transfer that was stopped comes to rest when it has read as much as it may. -/
theorem readNext_zero_stopped {rest : List (Frame users)} (stopped : transfer.stopped = true) :
    session.readNext transfer 0 rest = { session.pause transfer with stack := rest } := by
  simp only [readNext, stopped, if_true]

/-- A transfer that comes to rest and was not stopped stays as it is. -/
theorem pause_of_kept (kept : transfer.stopped = false) : session.pause transfer = session := by
  rw [pause, kept]
  rfl

/-- A transfer that has read as much as it may waits for its next turn. -/
theorem readNext_zero_kept {rest : List (Frame users)} (kept : transfer.stopped = false) :
    session.readNext transfer 0 rest =
      { session.schedule transfer.serial with stack := rest } := by
  simp only [readNext, kept, Bool.false_eq_true, if_false, pause_of_kept kept]

/-- A transfer that has nothing to read comes to rest. -/
theorem readNext_nil {allowance : Nat} {rest : List (Frame users)} (empty : transfer.inbox = []) :
    session.readNext transfer (allowance + 1) rest =
      { session.pause transfer with stack := rest } := by
  simp only [readNext, empty]

/-- A transfer reads the next message. -/
theorem readNext_cons {allowance : Nat} {rest : List (Frame users)} {message : List Signal}
    {inbox : List (List Signal)} (first : transfer.inbox = message :: inbox) :
    session.readNext transfer (allowance + 1) rest =
      { session.alter transfer.serial fun transfer => { transfer with inbox } with
        stack := .transfer transfer.serial message allowance :: rest } := by
  simp only [readNext, first]

/-- A transfer that has followed a message reads on, or nothing is left begun. -/
theorem stack_readNext (session : Session users) (transfer : Transfer) (allowance : Nat) :
    (session.readNext transfer allowance []).stack = [] ∨
      ∃ message left, (session.readNext transfer allowance []).stack =
          [.transfer transfer.serial message left] ∧
        (session.readNext transfer allowance []).tasks = session.tasks := by
  cases allowance with
  | zero => exact .inl rfl
  | succ allowance =>
    cases inbox : transfer.inbox with
    | nil =>
      rw [readNext_nil inbox]
      exact .inl rfl
    | cons message others =>
      have same := tasks_alter_of_bare session transfer.serial
        (fun transfer => { transfer with inbox := others }) fun _ => rfl
      rw [readNext_cons inbox]
      exact .inr ⟨message, allowance, rfl, same⟩

/-- A transfer goes on when there is no slot for what it brings. -/
theorem follow_fill_none {content : Content} {again : Frame users} {rest : List (Frame users)}
    (missing : transfer.entry.request.slotFor content = none) :
    session.follow transfer (.fill content) again rest =
      { session.see (.followed (launchOf transfer) (.fill content)) with
        stack := again :: rest } := by
  simp only [follow, missing]

/-- A transfer fills a slot of its request and goes on. -/
theorem follow_fill_some {content : Content} {slot : Slot} {again : Frame users}
    {rest : List (Frame users)} (place : transfer.entry.request.slotFor content = some slot) :
    session.follow transfer (.fill content) again rest =
      { session.see (.followed (launchOf transfer) (.fill content)) with
        slots := session.slots.put slot content, stack := again :: rest } := by
  simp only [follow, place]
  rfl

/-- A transfer that does not reach the queue cancels nothing. -/
theorem follow_cancel_unreached {name : String} {again : Frame users} {rest : List (Frame users)}
    (never : users.reaches session.state = false) :
    session.follow transfer (.cancel name) again rest =
      { session.see (.followed (launchOf transfer) (.cancel name)) with
        stack := again :: rest } := by
  simp only [follow, never, Bool.false_eq_true, if_false]

/-- A transfer that cancels what is not there goes on. -/
theorem follow_cancel_none {name : String} {again : Frame users} {rest : List (Frame users)}
    (reaches : users.reaches session.state = true)
    (missing : session.queue.cancel? name = none) :
    session.follow transfer (.cancel name) again rest =
      { session.see (.followed (launchOf transfer) (.cancel name)) with
        stack := .show (.cancelled name false) :: again :: rest } := by
  simp only [follow, reaches, if_true, perform, see, missing, List.nil_append]

/-- A transfer that cancels a request goes on when all that sets off has ended. -/
theorem follow_cancel_some {name : String} {again : Frame users} {rest : List (Frame users)}
    {change : Change} (reaches : users.reaches session.state = true)
    (found : session.queue.cancel? name = some change) :
    session.follow transfer (.cancel name) again rest =
      let seen := session.see (.followed (launchOf transfer) (.cancel name))
      { (seen.applyAndDeliver change).2 with
        stack := (seen.applyAndDeliver change).1 ++ .show (.cancelled name true) ::
          again :: rest } := by
  simp only [follow, reaches, if_true, perform, see, found]

/-- A transfer that the queue does not wait for ends alone. -/
theorem follow_finish_none {failure : Option Failure} {again : Frame users}
    {rest : List (Frame users)} (late : session.queue.complete? transfer.serial failure = none) :
    session.follow transfer (.finish failure) again rest =
      { (session.alter transfer.serial .close).see (.ended (launchOf transfer) failure) with
        stack := rest } := by
  simp only [follow, see, alter, late]

/-- The end of the transfer that the queue waits for changes the queue. -/
theorem follow_finish_some {failure : Option Failure} {again : Frame users}
    {rest : List (Frame users)} {change : Change}
    (completed : session.queue.complete? transfer.serial failure = some change) :
    session.follow transfer (.finish failure) again rest =
      let ended :=
        (session.alter transfer.serial .close).see (.ended (launchOf transfer) failure)
      { (ended.applyAndDeliver change).2 with
        stack := (ended.applyAndDeliver change).1 ++ rest } := by
  simp only [follow, see, alter, completed]

/-- A transfer that follows a signal goes on as it was, or it ends, unless it reaches the queue. -/
theorem stack_follow (session : Session users) (transfer : Transfer) (signal : Signal)
    (again : Frame users) :
    ((session.follow transfer signal again []).stack = [again] ∧
        (session.follow transfer signal again []).tasks = session.tasks) ∨
      (session.follow transfer signal again []).stack = [] ∨
      (session.follow transfer signal again []).stack = [.drain] ∨
      users.reaches session.state = true ∧ ∃ frames name found,
        (session.follow transfer signal again []).stack =
          frames ++ [.show (.cancelled name found), again] ∧
        (frames = [] ∨ frames = [.drain]) := by
  cases signal with
  | size bytes =>
    exact .inl ⟨rfl, tasks_alter_of_bare session transfer.serial
      (fun transfer => { transfer with status := transfer.status.withSize bytes }) fun _ => rfl⟩
  | position bytes =>
    exact .inl ⟨rfl, tasks_alter_of_bare session transfer.serial
      (fun transfer => { transfer with status := transfer.status.withPosition bytes })
      fun _ => rfl⟩
  | fill content =>
    cases place : transfer.entry.request.slotFor content with
    | none =>
      rw [follow_fill_none place]
      exact .inl ⟨rfl, rfl⟩
    | some slot =>
      rw [follow_fill_some place]
      exact .inl ⟨rfl, rfl⟩
  | cancel name =>
    cases reaches : users.reaches session.state with
    | false =>
      rw [follow_cancel_unreached reaches]
      exact .inl ⟨rfl, rfl⟩
    | true =>
      refine .inr (.inr (.inr ⟨rfl, ?_⟩))
      cases searched : session.queue.cancel? name with
      | none =>
        rw [follow_cancel_none reaches searched]
        exact ⟨[], name, false, rfl, .inl rfl⟩
      | some change =>
        rw [follow_cancel_some reaches searched]
        exact ⟨_, name, true, rfl, frames_applyAndDeliver _ change⟩
  | finish failure =>
    cases completed : session.queue.complete? transfer.serial failure with
    | none =>
      rw [follow_finish_none completed]
      exact .inr (.inl rfl)
    | some change =>
      rw [follow_finish_some completed]
      dsimp only
      rw [List.append_nil]
      exact .inr ((frames_applyAndDeliver _ change).imp_right .inl)

/-! ## Messages that come in -/

/-- A message that is posted leaves what has begun. -/
theorem stack_post (session : Session users) (serial : Nat) (message : List Signal) :
    (session.post serial message).stack = session.stack := by
  rw [post, schedule]
  split
  · rfl
  · rfl

/-- A message that comes in is posted, or nothing happens. -/
theorem arrive_cases (session : Session users) (serial : Nat) (message : List Signal) :
    session.arrive serial message = session ∨
      ∃ transfer, session.transfer? serial = some transfer ∧ transfer.phase ≠ .closed ∧
        session.arrive serial message = session.post serial message := by
  cases stored : session.transfer? serial with
  | none => exact .inl (by simp only [arrive, stored])
  | some transfer =>
    by_cases closed : transfer.phase = .closed
    · exact .inl (by simp only [arrive, stored, closed, beq_self_eq_true, if_true])
    · exact .inr ⟨transfer, rfl, closed, by simp only [arrive, stored, beq_iff_eq, if_neg closed]⟩

/-- A message that comes in leaves what has begun. -/
theorem stack_arrive (session : Session users) (serial : Nat) (message : List Signal) :
    (session.arrive serial message).stack = session.stack := by
  rcases arrive_cases session serial message with same | ⟨_, _, _, posted⟩
  · rw [same]
  · rw [posted, stack_post]

/-! ## The handing out of notices -/

/-- Without a notice the handing out ends. -/
theorem shift_drain_nil (rest : List (Frame users)) (empty : session.queue.outbox = []) :
    Shift session (session.advance .drain rest) { session.queue with delivering := false }
        session.tasks session.turns [] ∧
      (session.advance .drain rest).stack = rest := by
  simp only [advance, Queue.nextNotice, empty]
  split
  · exact ⟨⟨rfl, rfl, turns_wake _, (List.append_nil _).symm⟩, rfl⟩
  · exact ⟨⟨rfl, rfl, rfl, (List.append_nil _).symm⟩, rfl⟩

/-- Without a notice the handing out ends, and all are woken if the queue is idle then. -/
theorem advance_drain_nil {rest : List (Frame users)} (empty : session.queue.outbox = []) :
    session.advance .drain rest =
      let rested : Session users :=
        { session with queue := { session.queue with delivering := false }, stack := rest }
      if rested.queue.isIdle then rested.wake else rested := by
  have last : session.queue.nextNotice =
      (none, { session.queue with delivering := false }) := by
    simp only [Queue.nextNotice, empty]
  simp only [advance, last]

/-- The first notice is told to all who are registered. -/
theorem advance_drain_cons {rest : List (Frame users)} {notice : Notice} {others : List Notice}
    (first : session.queue.outbox = notice :: others) :
    session.advance .drain rest =
      { ({ session with queue := { session.queue with outbox := others } } :
          Session users).see (.announced notice) with
        stack := .tell (callsFor (notice, session.registry.listeners)) :: .drain :: rest } := by
  simp only [advance, Queue.nextNotice, first]
  rfl

end Session

end Sailplane.Download
