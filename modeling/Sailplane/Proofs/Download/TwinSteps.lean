import Sailplane.Proofs.Download.Orderly
import Sailplane.Proofs.Download.Twins

/-!
# Steps of twins

Calls get the same replies from twins and set off the same, transfers do the same in both, and a
step of both leaves twins. A turn of a transfer of the past leaves twins without a step of the
other.
-/
namespace Sailplane.Download

/-! ## Serials of changes -/

section

variable {queue : Queue} {change : Change}

/-- A transfer that is started has a serial. -/
theorem numbered_record {notice : Notice} {stopped : Option Nat}
    (positive : ∀ serial, stopped = some serial → 0 < serial) :
    (queue.record notice stopped).Numbered := by
  obtain ⟨entries, active, serial, issued, outbox, delivering⟩ := queue
  refine ⟨positive, fun launch started => ?_⟩
  cases active with
  | some running => exact absurd started (by simp [Queue.record, Queue.startHead])
  | none =>
    cases entries with
    | nil => exact absurd started (by simp [Queue.record, Queue.startHead])
    | cons entry rest =>
      obtain rfl := Option.some.inj started
      exact Nat.succ_pos serial

/-- To cancel a request stops and starts transfers that have serials. -/
theorem numbered_cancel {name : String} (found : queue.cancel? name = some change)
    (positive : ∀ serial, queue.active = some serial → 0 < serial) : change.Numbered := by
  obtain ⟨entry, _, rfl⟩ := Option.map_eq_some_iff.mp found
  dsimp only
  split
  · exact numbered_record positive
  · exact numbered_record fun _ none => absurd none (by simp)

/-- The end of a transfer starts one that has a serial. -/
theorem numbered_complete {serial : Nat} {failure : Option Failure}
    (completed : queue.complete? serial failure = some change) : change.Numbered := by
  rw [Queue.complete?] at completed
  split at completed
  · split at completed
    · obtain rfl := Option.some.inj completed
      exact ⟨fun _ none => absurd none (by simp), fun _ none => absurd none (by simp)⟩
    · obtain rfl := Option.some.inj completed
      exact numbered_record fun _ none => absurd none (by simp)
  · exact absurd completed (by simp)

end

namespace Session

variable {users : Users} {lead : Lead} {before : List (Observation users.Listener users.Note)}
  {old fresh : Session users} {transfer : Transfer} {serial : Nat}

/-- Whether all transfers have serials. -/
structure Numbered (session : Session users) : Prop where
  /-- The transfers that were started. -/
  transfers : ∀ transfer ∈ session.transfers, 0 < transfer.serial
  /-- The one that runs. -/
  active : ∀ serial, session.queue.active = some serial → 0 < serial

/-- In a session that is in order all transfers have serials. -/
theorem Orderly.numbered (orderly : Orderly fresh) : Numbered fresh where
  transfers := by
    intro transfer listed
    have given : transfer.bare.serial ∈ fresh.tasks.map (·.serial) :=
      List.mem_map_of_mem (List.mem_map_of_mem listed)
    rw [orderly.steady.numbered, List.mem_range'_1] at given
    exact given.1
  active := by
    intro serial runs
    obtain ⟨_, task, found, _⟩ := orderly.steady.current serial runs
    obtain ⟨listed, rfl⟩ := mem_of_taskAt found
    have given : task.serial ∈ fresh.tasks.map (·.serial) := List.mem_map_of_mem listed
    rw [orderly.steady.numbered, List.mem_range'_1] at given
    exact given.1

/-- A transfer that is found among the tasks is there, and has a serial. -/
theorem Numbered.stored (numbered : Numbered fresh) {task : Transfer}
    (found : taskAt serial fresh.tasks = some task) :
    ∃ transfer, fresh.transfer? serial = some transfer ∧ transfer.serial = serial ∧
      0 < transfer.serial := by
  rw [taskAt_tasks] at found
  obtain ⟨transfer, stored, _⟩ := Option.map_eq_some_iff.mp found
  exact ⟨transfer, stored, (taskAt_of_stored stored).2,
    numbered.transfers transfer (List.mem_of_find?_eq_some stored)⟩

namespace Alike

variable (alike : Alike lead before old fresh)
include alike

/-! ## Calls -/

/-- Both sessions say the same of the requests. -/
theorem entries_eq (numbered : Numbered fresh) : old.entries = fresh.entries := by
  have running : old.queue.active.bind old.transfer? =
      (fresh.queue.active.bind fresh.transfer?).map (Transfer.behind lead) := by
    rw [alike.queue, Queue.behind]
    cases active : fresh.queue.active with
    | none => rfl
    | some serial => exact alike.transfer_eq (numbered.active serial active)
  have status : (old.queue.active.bind old.transfer?).map (·.status) =
      (fresh.queue.active.bind fresh.transfer?).map (·.status) := by
    rw [running, Option.map_map]
    rfl
  have queued : old.queue.entries = fresh.queue.entries.map (Entry.behind lead) := by
    rw [alike.queue, Queue.behind]
  rw [Session.entries, Session.entries, queued]
  cases fresh.queue.entries with
  | nil => rfl
  | cons first rest =>
    simp only [List.map_cons, status, Entry.name_behind, List.map_map]
    rfl

/-- The transfer that messages of signals are sent to is the same, or there is none but of the
past. -/
theorem fetching_cases :
    (∃ transfer ∈ fresh.transfers, fresh.fetching? = some transfer ∧
        old.fetching? = some (transfer.behind lead)) ∨
      fresh.fetching? = none ∧
        ∀ transfer, old.fetching? = some transfer → transfer.serial ≤ lead.serials := by
  obtain ⟨gone, transfers, past⟩ := alike.transfers
  have search : old.fetching? = (fresh.fetching?.map (Transfer.behind lead)).or
      (gone.reverse.find? fun transfer => transfer.phase == .fetching) := by
    rw [Session.fetching?, transfers, List.reverse_append, List.find?_append, ← List.map_reverse,
      List.find?_map]
    rfl
  cases found : fresh.fetching? with
  | some transfer =>
    rw [found] at search
    have listed : transfer ∈ fresh.transfers.reverse := List.mem_of_find?_eq_some found
    exact .inl ⟨transfer, List.mem_reverse.mp listed, rfl, search⟩
  | none =>
    rw [found, Option.map_none, Option.none_or] at search
    refine .inr ⟨rfl, fun transfer there => ?_⟩
    have listed : transfer ∈ gone.reverse := List.mem_of_find?_eq_some (search.symm.trans there)
    exact (past transfer (List.mem_reverse.mp listed)).1

/-- A cancel gets the same reply and sets off the same. -/
theorem cancel (numbered : Numbered fresh) (name : String) :
    (old.perform (.cancel name)).1 = (fresh.perform (.cancel name)).1 ∧
      (old.perform (.cancel name)).2.1 =
        (fresh.perform (.cancel name)).2.1.map (Frame.behind lead) ∧
      Alike lead before (old.perform (.cancel name)).2.2 (fresh.perform (.cancel name)).2.2 := by
  have search := fresh.queue.cancel_behind lead name
  rw [← alike.queue] at search
  cases found : fresh.queue.cancel? name with
  | none =>
    rw [found] at search
    rw [perform_cancel_none found, perform_cancel_none search]
    exact ⟨rfl, rfl, alike⟩
  | some change =>
    rw [found] at search
    rw [perform_cancel_some found, perform_cancel_some search]
    exact ⟨rfl, alike.applyAndDeliver (numbered_cancel found numbered.active)⟩

/-- Every call gets the same reply and sets off the same. -/
theorem perform (numbered : Numbered fresh) (operation : Operation users.Listener) :
    (old.perform operation).1 = (fresh.perform operation).1 ∧
      (old.perform operation).2.1 =
        (fresh.perform operation).2.1.map (Frame.behind lead) ∧
      Alike lead before (old.perform operation).2.2 (fresh.perform operation).2.2 := by
  cases operation with
  | enqueue request =>
    have queued := fresh.queue.enqueue_behind lead request
    rw [← alike.queue] at queued
    simp only [Session.perform, queued]
    exact ⟨rfl, alike.applyAndDeliver (numbered_record fun _ none => absurd none (by simp))⟩
  | cancel name => exact alike.cancel numbered name
  | shutdown =>
    have seen := alike.see (.emptied fresh.queue.entries) rfl
    have same : old.queue.shutdown = fresh.queue.shutdown.behind lead := by
      rw [alike.queue, Queue.shutdown_behind]
    have entries : old.queue.entries = fresh.queue.entries.map (Entry.behind lead) := by
      rw [alike.queue, Queue.behind]
    have cleared : Alike lead before _ (Session.apply _ fresh.queue.shutdown) := seen.apply
      ⟨numbered.active, fun _ none => absurd none (by simp [Queue.shutdown])⟩
    have emptied : Alike lead before old.empty fresh.empty := by
      rw [Session.empty, Session.empty, same, entries]
      exact cleared
    exact ⟨rfl, rfl, emptied.wake⟩
  | entries => exact ⟨alike.entries_eq numbered, rfl, alike⟩
  | enumerate listener =>
    simp only [Session.perform, alike.entries_eq numbered]
    exact ⟨rfl, rfl, alike⟩
  | isIdle =>
    have idle : old.queue.isIdle = fresh.queue.isIdle :=
      (congrArg Queue.isIdle alike.queue).trans (fresh.queue.isIdle_behind lead)
    exact ⟨idle, rfl, alike⟩
  | register listener =>
    simp only [Session.perform, alike.registry]
    exact ⟨rfl, rfl, { alike with registry := rfl }⟩
  | unregister number =>
    simp only [Session.perform, alike.registry]
    exact ⟨rfl, rfl, { alike with registry := rfl }⟩
  | watchIdle label =>
    have ready : (old.ready ++ [Job.watcher label]).filter (Job.isSince lead) =
        (fresh.ready ++ [Job.watcher label]).map (Job.behind lead) := by
      rw [List.filter_append, alike.ready, List.map_append]
      rfl
    exact ⟨rfl, rfl, { alike with ready }⟩
  | newSlot =>
    simp only [Session.perform, alike.slots]
    exact ⟨rfl, rfl, { alike with slots := rfl }⟩
  | readSlot slot =>
    simp only [Session.perform, alike.slots]
    exact ⟨rfl, rfl, alike⟩
  | takeSlot slot =>
    simp only [Session.perform, alike.slots]
    exact ⟨rfl, rfl, { alike with slots := rfl }⟩
  | signal message =>
    rcases alike.fetching_cases with ⟨transfer, listed, found, same⟩ | ⟨missing, past⟩
    · simp only [Session.perform, found, same]
      exact ⟨rfl, rfl, alike.post (numbered.transfers transfer listed) message⟩
    · cases there : old.fetching? with
      | none =>
        simp only [Session.perform, missing, there]
        exact ⟨rfl, rfl, alike⟩
      | some transfer =>
        simp only [Session.perform, missing, there]
        exact ⟨rfl, rfl, alike.post_gone numbered.transfers (past transfer there) message⟩

/-! ## Transfers -/

/-- A transfer that comes to rest keeps the sessions alike. -/
theorem pause (positive : 0 < transfer.serial) :
    Alike lead before (old.pause (transfer.behind lead)) (fresh.pause transfer) := by
  have closed := alike.alter positive .close fun _ => rfl
  have since : (Observation.behind lead (.dropped (launchOf transfer)) :
      Observation users.Listener users.Note).isSince lead = true :=
    decide_eq_true (lt_shift lead positive)
  rw [Session.pause, Session.pause]
  by_cases drops : (transfer.stopped && transfer.phase == .fetching) = true
  · rw [if_pos drops, if_pos (show ((transfer.behind lead).stopped &&
      (transfer.behind lead).phase == .fetching) = true from drops)]
    exact closed.see (.dropped (launchOf transfer)) since
  · rw [if_neg drops, if_neg (show ¬((transfer.behind lead).stopped &&
      (transfer.behind lead).phase == .fetching) = true from drops)]
    exact alike

/-- A transfer that reads on leaves twins. -/
theorem readNext (positive : 0 < transfer.serial) (allowance : Nat) (rest : List (Frame users)) :
    Twins lead before
      (old.readNext (transfer.behind lead) allowance (rest.map (Frame.behind lead)))
      (fresh.readNext transfer allowance rest) := by
  cases allowance with
  | zero =>
    cases stopped : transfer.stopped with
    | true =>
      rw [readNext_zero_stopped stopped, readNext_zero_stopped
        (show (transfer.behind lead).stopped = true from stopped)]
      exact { alike.pause positive with stack := rfl }
    | false =>
      rw [readNext_zero_kept stopped, readNext_zero_kept
        (show (transfer.behind lead).stopped = false from stopped)]
      exact { alike.schedule positive with stack := rfl }
  | succ allowance =>
    cases inbox : transfer.inbox with
    | nil =>
      rw [readNext_nil inbox, readNext_nil (show (transfer.behind lead).inbox = [] from inbox)]
      exact { alike.pause positive with stack := rfl }
    | cons message others =>
      have read := alike.alter positive
        (fun transfer => { transfer with inbox := others }) fun _ => rfl
      rw [readNext_cons inbox, readNext_cons
        (show (transfer.behind lead).inbox = message :: others from inbox)]
      exact { read with stack := rfl }

/-- A transfer that follows a signal leaves twins. -/
theorem follow (numbered : Numbered fresh) (positive : 0 < transfer.serial) (signal : Signal)
    (again : Frame users) (rest : List (Frame users)) :
    Twins lead before
      (old.follow (transfer.behind lead) signal (again.behind lead)
        (rest.map (Frame.behind lead)))
      (fresh.follow transfer signal again rest) := by
  have seen : Alike lead before (old.see (.followed (launchOf (transfer.behind lead)) signal))
      (fresh.see (.followed (launchOf transfer) signal)) :=
    alike.see (.followed (launchOf transfer) signal) rfl
  cases signal with
  | size bytes =>
    have known := seen.alter positive (fun transfer =>
      { transfer with status := transfer.status.withSize bytes }) fun _ => rfl
    exact { known with stack := rfl }
  | position bytes =>
    have known := seen.alter positive (fun transfer =>
      { transfer with status := transfer.status.withPosition bytes }) fun _ => rfl
    exact { known with stack := rfl }
  | fill content =>
    cases place : transfer.entry.request.slotFor content with
    | none =>
      rw [follow_fill_none place, follow_fill_none
        (show (transfer.behind lead).entry.request.slotFor content = none from place)]
      exact { seen with stack := rfl }
    | some slot =>
      rw [follow_fill_some place, follow_fill_some
        (show (transfer.behind lead).entry.request.slotFor content = some slot from place),
        alike.slots]
      exact { seen with slots := rfl, stack := rfl }
  | cancel name =>
    cases reaches : users.reaches fresh.state with
    | false =>
      rw [follow_cancel_unreached reaches, follow_cancel_unreached (alike.state ▸ reaches)]
      exact { seen with stack := rfl }
    | true =>
      have reached : users.reaches old.state = true := alike.state ▸ reaches
      obtain ⟨reply, frames, after⟩ := seen.cancel ⟨numbered.transfers, numbered.active⟩ name
      simp only [Session.follow, reaches, reached, if_true]
      refine { after with stack := ?_ }
      rw [frames, reply, List.map_append]
      rfl
  | finish failure =>
    have ended := (alike.alter positive .close fun _ => rfl).see
      (.ended (launchOf transfer) failure) rfl
    have completes := fresh.queue.complete_behind lead transfer.serial failure
    rw [← alike.queue] at completes
    cases completed : fresh.queue.complete? transfer.serial failure with
    | none =>
      rw [completed] at completes
      rw [follow_finish_none completed, follow_finish_none completes]
      exact { ended with stack := rfl }
    | some change =>
      rw [completed] at completes
      obtain ⟨frames, after⟩ := ended.applyAndDeliver (numbered_complete completed)
      rw [follow_finish_some completed, follow_finish_some completes]
      refine { after with stack := ?_ }
      rw [List.map_append, ← frames]
      rfl

/-- A task whose turn has come in both leaves twins. -/
theorem run (quiet : old.stack = []) (still : fresh.stack = []) {job : Job}
    (since : (job.behind lead).isSince lead = true) :
    Twins lead before (old.run (job.behind lead)) (fresh.run job) := by
  have twins : Twins lead before old fresh := { alike with stack := by rw [quiet, still]; rfl }
  cases job with
  | watcher label =>
    have idle : old.queue.isIdle = fresh.queue.isIdle :=
      (congrArg Queue.isIdle alike.queue).trans (fresh.queue.isIdle_behind lead)
    simp only [Job.behind, Session.run, idle]
    split
    · exact { alike.see (.idle label) rfl with stack := twins.stack }
    · exact { alike with
        waiting := congrArg (· ++ [label]) alike.waiting
        stack := twins.stack }
  | transfer serial =>
    have positive : 0 < serial := by
      have later : lead.serials < lead.serials + serial := of_decide_eq_true since
      omega
    have same := alike.transfer_eq positive
    rw [Job.behind]
    cases stored : fresh.transfer? serial with
    | none =>
      rw [stored] at same
      rw [run_missing stored, run_missing same]
      exact twins
    | some transfer =>
      rw [stored] at same
      obtain rfl := (taskAt_of_stored stored).2
      have closed := alike.alter positive .close fun _ => rfl
      have entered := (alike.alter positive .enter fun _ => rfl).see
        (.started (launchOf transfer)) rfl
      cases phase : transfer.phase with
      | closed =>
        rw [run_closed stored phase, run_closed same phase]
        exact twins
      | waiting =>
        cases stopped : transfer.stopped with
        | true =>
          rw [run_discarded stored phase stopped, run_discarded same phase stopped]
          exact { closed with stack := twins.stack }
        | false =>
          rw [run_begun stored phase stopped, run_begun same phase stopped]
          exact { entered with stack := rfl }
      | fetching =>
        cases stopped : transfer.stopped with
        | true =>
          have stack := twins.stack
          rw [← stack_pause old (transfer.behind lead), ← stack_pause fresh transfer] at stack
          rw [run_dropped stored phase stopped, run_dropped same phase stopped]
          exact { alike.pause positive with stack := stack }
        | false =>
          rw [run_resumed stored phase stopped, run_resumed same phase stopped]
          exact { alike with stack := rfl }

/-! ## The past -/

/-- A transfer of the past is stopped or over. -/
theorem gone_of_stored (numbered : Numbered fresh) (late : serial ≤ lead.serials)
    (stored : old.transfer? serial = some transfer) : transfer.Gone lead := by
  obtain ⟨gone, transfers, past⟩ := alike.transfers
  have same := (taskAt_of_stored stored).2
  have listed : transfer ∈ old.transfers := List.mem_of_find?_eq_some stored
  rw [transfers, List.mem_append] at listed
  rcases listed with there | since
  · exact past transfer there
  · obtain ⟨other, among, rfl⟩ := List.mem_map.mp since
    rw [← same] at late
    exact absurd (lt_shift lead (numbered.transfers other among)) (Nat.not_lt.mpr late)

/-- A turn of a transfer of the past keeps the sessions alike, sets nothing off and makes no task
ready. -/
theorem run_gone (numbered : Numbered fresh) (quiet : old.stack = [])
    (late : serial ≤ lead.serials) :
    Alike lead before (old.run (.transfer serial)) fresh ∧
      (old.run (.transfer serial)).stack = [] ∧
      (old.run (.transfer serial)).ready = old.ready := by
  cases stored : old.transfer? serial with
  | none =>
    rw [run_missing stored]
    exact ⟨alike, quiet, rfl⟩
  | some transfer =>
    have past := alike.gone_of_stored numbered late stored
    obtain rfl := (taskAt_of_stored stored).2
    have closed := alike.alter_gone numbered.transfers late .close
      fun _ gone => ⟨gone.1, .inr rfl⟩
    cases phase : transfer.phase with
    | closed =>
      rw [run_closed stored phase]
      exact ⟨alike, quiet, rfl⟩
    | waiting =>
      have stopped := past.2.resolve_right (by rw [phase]; decide)
      rw [run_discarded stored phase stopped]
      exact ⟨closed, quiet, rfl⟩
    | fetching =>
      have stopped := past.2.resolve_right (by rw [phase]; decide)
      have rests : (transfer.stopped && transfer.phase == .fetching) = true := by
        rw [stopped, phase]
        rfl
      rw [run_dropped stored phase stopped, stack_pause, Session.pause, if_pos rests]
      exact ⟨closed.see_gone late, quiet, rfl⟩

end Alike

/-! ## Steps -/

namespace Twins

variable (twins : Twins lead before old fresh)
include twins

/-- A step of the handing out of notices in both leaves twins. -/
theorem drain (rest : List (Frame users)) :
    Twins lead before (old.advance .drain (rest.map (Frame.behind lead)))
      (fresh.advance .drain rest) := by
  have alike := twins.toAlike
  have outbox : old.queue.outbox = fresh.queue.outbox.map (Notice.behind lead) := by
    rw [alike.queue, Queue.behind]
  cases waits : fresh.queue.outbox with
  | cons notice others =>
    rw [waits, List.map_cons] at outbox
    have taken : ({ old.queue with outbox := others.map (Notice.behind lead) } : Queue) =
        ({ fresh.queue with outbox := others } : Queue).behind lead := by
      rw [alike.queue]
      rfl
    have popped : Alike lead before
        { old with queue := { old.queue with outbox := others.map (Notice.behind lead) } }
        { fresh with queue := { fresh.queue with outbox := others } } :=
      { alike with queue := taken }
    have seen := popped.see (.announced notice) rfl
    rw [advance_drain_cons waits, advance_drain_cons outbox]
    refine { seen with stack := ?_ }
    rw [callsFor, Notice.event_behind, alike.registry]
    rfl
  | nil =>
    rw [waits, List.map_nil] at outbox
    have closed : Alike lead before
        { old with
          queue := { old.queue with delivering := false }
          stack := rest.map (Frame.behind lead) }
        { fresh with queue := { fresh.queue with delivering := false }, stack := rest } :=
      { alike with queue := by rw [alike.queue]; rfl }
    have idle := (congrArg Queue.isIdle closed.queue).trans (Queue.isIdle_behind lead _)
    rw [advance_drain_nil waits, advance_drain_nil outbox]
    dsimp only at idle ⊢
    rw [idle]
    split
    · exact { closed.wake with stack := rfl }
    · exact { closed with stack := rfl }

/-- A step of a script in both leaves twins. -/
theorem script (numbered : Numbered fresh) (script : users.Script Unit)
    (rest : List (Frame users)) :
    Twins lead before (old.advance (.script script) (rest.map (Frame.behind lead)))
      (fresh.advance (.script script) rest) := by
  have alike := twins.toAlike
  cases script with
  | done result => exact { alike with stack := rfl }
  | get next =>
    have same : Frame.script (next old.state) = (.script (next fresh.state) : Frame users) := by
      rw [alike.state]
    exact { alike with stack := congrArg (· :: rest.map (Frame.behind lead)) same }
  | set state next => exact { alike with state := rfl, stack := rfl }
  | note note next => exact { alike.see (.note note) rfl with stack := rfl }
  | call operation next =>
    obtain ⟨reply, frames, after⟩ := alike.perform numbered operation
    simp only [advance]
    refine { after with stack := ?_ }
    rw [frames, reply, List.map_append]
    rfl

/-- A step of what has begun in both leaves twins. -/
theorem advance (numbered : Numbered fresh) (framed : Framed fresh) {frame : Frame users}
    {rest : List (Frame users)} (stack : fresh.stack = frame :: rest) :
    Twins lead before (old.advance (frame.behind lead) (rest.map (Frame.behind lead)))
      (fresh.advance frame rest) := by
  have alike := twins.toAlike
  have nested := framed.nested
  rw [stack] at nested
  generalize fresh.queue.delivering = delivering at nested
  cases nested with
  | script script below => exact twins.script numbered script rest
  | tell calls below =>
    cases calls with
    | nil => exact { alike with stack := rfl }
    | cons call calls =>
      exact { alike.see (.heard call.1 call.2) rfl with stack := rfl }
  | shown name found below =>
    exact { alike.see (.cancelled name found) rfl with stack := rfl }
  | drain below => exact twins.drain rest
  | @transfer serial task found fetching message allowance =>
    obtain ⟨transfer, stored, rfl, positive⟩ := numbered.stored found
    have same := alike.transfer_eq positive
    rw [stored] at same
    rw [Frame.behind]
    cases message with
    | nil =>
      rw [advance_read_nil stored, advance_read_nil same]
      exact alike.readNext positive allowance []
    | cons signal message =>
      rw [advance_read_cons stored, advance_read_cons same]
      exact alike.follow numbered positive signal (.transfer transfer.serial message allowance) []

end Twins

end Session

end Sailplane.Download
