import Sailplane.Proofs.Download.Lifecycle
import Sailplane.Proofs.Download.Restart

/-!
# What a cancel does

A cancel takes the first request of a name away or does nothing at all. It records one notice, and
in the same step it stops the transfer of the request if that ran and starts the next request.
-/
namespace Sailplane.Download

/-! ## Changes of the queue -/

namespace Queue

variable {queue : Queue} {name : String} {before after : List Entry} {entry : Entry}

/-- No request is found exactly if none has the name. -/
theorem cancel?_eq_none :
    queue.cancel? name = none ↔ ∀ entry ∈ queue.entries, entry.name ≠ name := by
  rw [cancel?, Option.map_eq_none_iff, List.find?_eq_none]
  simp only [beq_iff_eq, ne_eq]

/-- The first request of a name is the one that is found and taken away. -/
theorem first_named (queued : queue.entries = before ++ entry :: after) (same : entry.name = name)
    (others : ∀ earlier ∈ before, earlier.name ≠ name) :
    (queue.entries.find? fun entry => entry.name == name) = some entry ∧
      (queue.entries.eraseP fun entry => entry.name == name) = before ++ after := by
  have skipped : ∀ earlier ∈ before, ¬(earlier.name == name) = true := by
    simpa only [beq_iff_eq] using others
  have met : (entry.name == name) = true := beq_iff_eq.mpr same
  constructor
  · rw [queued, List.find?_append, List.find?_eq_none.mpr skipped, Option.none_or]
    exact List.find?_cons_of_pos met
  · rw [queued, List.eraseP_append_right _ skipped]
    exact congrArg (before ++ ·) (List.eraseP_cons_of_pos met)

/-- A request that waits behind others leaves them and the transfer that runs alone. -/
theorem cancel?_behind (queued : queue.entries = before ++ entry :: after)
    (same : entry.name = name) (others : ∀ earlier ∈ before, earlier.name ≠ name)
    (behind : before ≠ []) (runs : queue.active.isSome = true) :
    queue.cancel? name = some
      ⟨{ queue with entries := before ++ after, outbox := queue.outbox ++ [.error entry none] },
        [.error entry none], none, none⟩ := by
  obtain ⟨serial, active⟩ := Option.isSome_iff_exists.mp runs
  obtain ⟨head, rest, rfl⟩ := List.exists_cons_of_ne_nil behind
  obtain ⟨found, erased⟩ := first_named queued same others
  have front : (queue.entries.head?.any fun first => first.name == name) = false := by
    rw [queued]
    simpa using others head List.mem_cons_self
  rw [cancel?, found, Option.map_some, front, erased]
  simp only [Bool.false_and, Bool.false_eq_true, if_false, record, startHead, active]

/-- The first request goes together with its transfer, and the next one is started. -/
theorem cancel?_head (queued : queue.entries = entry :: after) (same : entry.name = name)
    {serial : Nat} (active : queue.active = some serial) :
    queue.cancel? name = some
      ⟨{ queue with
          entries := after
          active := after.head?.map fun _ => queue.serial + 1
          serial := queue.serial + after.head?.toList.length
          outbox := queue.outbox ++ [.error entry none] },
        [.error entry none], some serial,
        after.head?.map fun successor => ⟨queue.serial + 1, successor⟩⟩ := by
  have others : ∀ earlier ∈ [], Entry.name earlier ≠ name := by simp
  obtain ⟨found, erased⟩ := first_named queued same others
  have front : (queue.entries.head?.any fun first => first.name == name) = true := by
    rw [queued]
    simpa using same
  rw [cancel?, found, Option.map_some, front, erased, active]
  cases after with
  | nil => rfl
  | cons successor rest => rfl

end Queue

namespace Session

variable {users : Users} {session next : Session users} {name : String}
  {before after : List Entry} {entry : Entry}

/-! ## The call -/

/-- A call to cancel: whether there was a request of the name, what the call sets off, and the
session after it. -/
def cancel (session : Session users) (name : String) : Bool × List (Frame users) × Session users :=
  session.perform (.cancel name)

/-- What becomes of the transfers when a request is cancelled that waits behind others: nothing. -/
structure KeepsTransfers (session next : Session users) : Prop where
  /-- The same transfer runs. -/
  active : next.queue.active = session.queue.active
  /-- None was started. -/
  serial : next.queue.serial = session.queue.serial
  /-- All are as they were. -/
  transfers : next.transfers = session.transfers
  /-- So are the tasks that are ready. -/
  ready : next.ready = session.ready

/-- What becomes of the transfers when the first request is cancelled and some are left. -/
structure Succeeded (session : Session users) (entry : Entry) (left : List Entry)
    (next : Session users) : Prop where
  /-- The transfer of the request was the last one started and runs. -/
  ran : session.queue.active = some session.queue.serial ∧
    ∃ transfer, session.transfer? session.queue.serial = some transfer ∧
      transfer.entry = entry ∧ transfer.stopped = false ∧ transfer.phase ≠ .closed
  /-- It is stopped, and the first one that is left is given a transfer of its own. -/
  transfers : next.transfers = (session.alter session.queue.serial .stop).transfers ++
    left.head?.toList.map fun successor => .new ⟨session.queue.serial + 1, successor⟩
  /-- The serial of that was never used. -/
  fresh : session.transfer? (session.queue.serial + 1) = none
  /-- That runs now, or nothing if nothing is left. -/
  active : next.queue.active = left.head?.map fun _ => session.queue.serial + 1
  /-- No other serial was given out. -/
  serial : next.queue.serial = session.queue.serial + left.head?.toList.length
  /-- Both transfers are ready, the one to be dropped and the other to begin. -/
  ready : next.ready = (session.schedule session.queue.serial).ready ++
    left.head?.toList.map fun _ => .transfer (session.queue.serial + 1)
  /-- Nothing has come in for the request that is first now, and its size is not known. -/
  shown : next.entries.head? = left.head?.map fun successor => (successor.name, ⟨-1, 0⟩)

/-- What a cancel makes of a session in which a request lies between others. -/
structure Removes (session : Session users) (before : List Entry) (entry : Entry)
    (after : List Entry) (next : Session users) : Prop where
  /-- The request is gone, and the others are left in order. -/
  queued : next.queue.entries = before ++ after
  /-- No ticket was given out. -/
  issued : next.queue.issued = session.queue.issued
  /-- One notice is recorded. -/
  log : next.log = session.log ++ [.recorded (.error entry none)]
  /-- It waits behind those that were recorded before. -/
  outbox : next.queue.outbox = session.queue.outbox ++ [.error entry none]
  /-- Somebody hands the notices out. -/
  delivering : next.queue.delivering = true
  /-- Nothing else is touched. -/
  surroundings : next.surroundings = session.surroundings
  /-- What has begun is still under way. -/
  stack : next.stack = session.stack
  /-- A request that waited leaves the transfers alone. -/
  behind : before ≠ [] → KeepsTransfers session next
  /-- The first request goes together with its transfer. -/
  head : before = [] → Succeeded session entry after next

/-- Whether a step does what a call to cancel does, for whoever makes the call. -/
structure Answers (session : Session users) (name : String) (next : Session users) : Prop where
  /-- The queue. -/
  queue : next.queue = (session.cancel name).2.2.queue
  /-- The transfers. -/
  transfers : next.transfers = (session.cancel name).2.2.transfers
  /-- The tasks that are ready. -/
  ready : next.ready = (session.cancel name).2.2.ready
  /-- All that goes on around the queue. -/
  surroundings : next.surroundings = session.surroundings
  /-- The notices recorded. -/
  recorded : next.recorded = (session.cancel name).2.2.recorded
  /-- A script goes on with the answer, after what the call has set off. -/
  script : ∀ goesOn rest, session.stack = .script (.call (.cancel name) goesOn) :: rest →
    next.stack = (session.cancel name).2.1 ++ .script (goesOn (session.cancel name).1) :: rest
  /-- So does a transfer, which shows the answer. -/
  transfer : ∀ serial message allowance rest,
    session.stack = .transfer serial (.cancel name :: message) allowance :: rest →
      next.stack = (session.cancel name).2.1 ++
        .show (.cancelled name (session.cancel name).1) ::
          .transfer serial message allowance :: rest

/-- What it means that a cancel is exact in a session that has come about by a run. -/
structure CancelsExactly (past : History users) (session : Session users) (name : String) :
    Prop where
  /-- It is refused exactly if no request has the name. -/
  refused : (session.cancel name).1 = false ↔ ∀ entry ∈ session.queue.entries, entry.name ≠ name
  /-- Then nothing at all happens. -/
  nothing : (session.cancel name).1 = false → session.cancel name = (false, [], session)
  /-- Otherwise the first request of the name goes, with all that has to do with it. -/
  removed : (session.cancel name).1 = true → ∃ before entry after,
    session.queue.entries = before ++ entry :: after ∧ entry.name = name ∧
      (∀ earlier ∈ before, earlier.name ≠ name) ∧
      Removes session before entry after (session.cancel name).2.2
  /-- It hands the notice out, unless somebody hands notices out already. -/
  delivers : (session.cancel name).1 = true →
    (session.cancel name).2.1 = if session.queue.delivering = true then [] else [.drain]
  /-- Whoever makes the call does so in one step. -/
  answered : session.call? = some (.cancel name) →
    ∃ next, session.step? = some next ∧ Answers session name next
  /-- Its notice comes behind those that were recorded before and ahead of all that follow. -/
  ahead : ∀ entry next, (session.queue.entries.find? fun entry => entry.name == name) = some entry →
    session.call? = some (.cancel name) → session.step? = some next →
      ∀ more later, Run next more later → noticed past session ++ [.error entry none] <+:
        noticed (past ++ session :: more) later

/-- A cancel is answered with whether there was a request of the name. -/
theorem cancel_eq (session : Session users) (name : String) : session.cancel name =
    match session.queue.cancel? name with
    | some change => (true, session.applyAndDeliver change)
    | none => (false, [], session) := by
  cases found : session.queue.cancel? name with
  | none => exact perform_cancel_none found
  | some change => exact perform_cancel_some found

/-- A transfer of a serial that was not given out yet is not there. -/
theorem Orderly.fresh (orderly : Orderly session) :
    session.transfer? (session.queue.serial + 1) = none := by
  by_contra there
  obtain ⟨transfer, stored⟩ := Option.ne_none_iff_exists'.mp there
  obtain ⟨found, same⟩ := taskAt_of_stored stored
  have bound := orderly.steady.serial_le (mem_of_taskAt found).1
  have number : transfer.bare.serial = session.queue.serial + 1 := same
  omega

/-- A transfer that was just started is found by its serial. -/
theorem taskAt_launched {serial : Nat} (fresh : session.transfer? serial = none)
    (stopped : Option Nat) (entry : Entry) :
    taskAt serial (halt stopped session.transfers ++ [.new ⟨serial, entry⟩]) =
      some (.new ⟨serial, entry⟩) := by
  have missing : taskAt serial (halt stopped session.transfers) = none := by
    cases stopped with
    | none => exact fresh
    | some other =>
      rw [halt, taskAt_changeAt other serial .stop session.transfers fun _ => rfl]
      exact congrArg _ fresh
  rw [taskAt] at missing ⊢
  rw [List.find?_append, missing, Option.none_or]
  exact List.find?_cons_of_pos (beq_self_eq_true serial)

/-- A request that waits behind others is taken away alone. -/
theorem Orderly.removes_behind (orderly : Orderly session)
    (queued : session.queue.entries = before ++ entry :: after) (behind : before ≠ [])
    (same : entry.name = name) (others : ∀ earlier ∈ before, earlier.name ≠ name) :
    (session.cancel name).1 = true ∧
      Removes session before entry after (session.cancel name).2.2 := by
  have runs : session.queue.active.isSome = true := by
    rw [Option.isSome_iff_ne_none]
    intro idle
    exact absurd (queued ▸ orderly.busy idle) (by simp)
  have surroundings := surroundings_cancel session name
  rw [← cancel, cancel_eq, Queue.cancel?_behind queued same others behind runs] at surroundings
  rw [cancel_eq, Queue.cancel?_behind queued same others behind runs]
  dsimp only at surroundings ⊢
  rw [applyAndDeliver_eq, apply_eq] at surroundings ⊢
  refine ⟨rfl, rfl, rfl, rfl, rfl, rfl, surroundings, rfl, fun _ => ?_,
    fun first => absurd first behind⟩
  exact ⟨rfl, rfl, List.append_nil _, List.append_nil _⟩

/-- The first request is taken away together with its transfer. -/
theorem Orderly.removes_head (orderly : Orderly session)
    (queued : session.queue.entries = entry :: after) (same : entry.name = name) :
    (session.cancel name).1 = true ∧
      Removes session [] entry after (session.cancel name).2.2 := by
  have runs : session.queue.active ≠ none := by
    intro idle
    exact absurd (queued ▸ orderly.busy idle) (by simp)
  obtain ⟨serial, active⟩ := Option.ne_none_iff_exists'.mp runs
  obtain ⟨rfl, task, found, kept, pending, head⟩ := orderly.steady.current serial active
  rw [taskAt_tasks] at found
  obtain ⟨transfer, stored, rfl⟩ := Option.map_eq_some_iff.mp found
  have owner : transfer.entry = entry := by
    rw [queued, List.head?_cons] at head
    exact (Option.some.inj head).symm
  have surroundings := surroundings_cancel session name
  rw [← cancel, cancel_eq, Queue.cancel?_head queued same active] at surroundings
  rw [cancel_eq, Queue.cancel?_head queued same active]
  dsimp only at surroundings ⊢
  rw [applyAndDeliver_eq, apply_eq] at surroundings ⊢
  refine ⟨rfl, rfl, rfl, rfl, rfl, rfl, surroundings, rfl, fun behind => absurd rfl behind,
    fun _ => ?_⟩
  refine ⟨⟨active, transfer, stored, owner, kept, pending⟩, ?_, orderly.fresh, rfl, rfl, ?_, ?_⟩
  · cases after <;> rfl
  · rw [schedule_eq]
    cases after <;> rfl
  · cases after with
    | nil => rfl
    | cons successor rest =>
      have launched := taskAt_launched orderly.fresh (some session.queue.serial) successor
      exact congrArg (fun running => some (successor.name, (running.map (·.status)).getD .queued))
        launched

/-- A cancel finds no request, or takes the first one of the name away. -/
theorem Orderly.cancel_cases (orderly : Orderly session) (name : String) :
    (session.cancel name = (false, [], session) ∧
        ∀ entry ∈ session.queue.entries, entry.name ≠ name) ∨
      (session.cancel name).1 = true ∧ ∃ before entry after,
        session.queue.entries = before ++ entry :: after ∧ entry.name = name ∧
          (∀ earlier ∈ before, earlier.name ≠ name) ∧
          Removes session before entry after (session.cancel name).2.2 := by
  cases found : session.queue.entries.find? fun entry => entry.name == name with
  | none =>
    have missing := Queue.cancel?_eq_none.mp (Option.map_eq_none_iff.mpr found)
    refine .inl ⟨?_, missing⟩
    rw [cancel_eq, Queue.cancel?_eq_none.mpr missing]
  | some entry =>
    obtain ⟨met, before, after, queued, skipped⟩ := List.find?_eq_some_iff_append.mp found
    have same : entry.name = name := beq_iff_eq.mp met
    have others : ∀ earlier ∈ before, earlier.name ≠ name := by simpa using skipped
    cases before with
    | nil =>
      obtain ⟨answer, removes⟩ := orderly.removes_head queued same
      exact .inr ⟨answer, [], entry, after, queued, same, others, removes⟩
    | cons head rest =>
      have behind : head :: rest ≠ [] := List.cons_ne_nil head rest
      obtain ⟨answer, removes⟩ := orderly.removes_behind queued behind same others
      exact .inr ⟨answer, head :: rest, entry, after, queued, same, others, removes⟩

/-- A cancel that finds a request hands notices out unless that is being done. -/
theorem delivers_of_cancel (found : (session.cancel name).1 = true) :
    (session.cancel name).2.1 = if session.queue.delivering = true then [] else [.drain] := by
  rw [cancel_eq] at found ⊢
  cases change? : session.queue.cancel? name with
  | none =>
    rw [change?] at found
    exact Bool.noConfusion found
  | some change =>
    dsimp only
    rw [applyAndDeliver_eq, cancel_delivering change?]

/-- What was seen before makes no difference to a cancel, which adds notices only. -/
theorem cancel_log (session : Session users) (log : List (Observation users.Listener users.Note))
    (name : String) : ∃ notices : List Notice,
      (session.cancel name).2.2.log = session.log ++ notices.map .recorded ∧
        ({ session with log } : Session users).cancel name =
          ((session.cancel name).1, (session.cancel name).2.1,
            { (session.cancel name).2.2 with log := log ++ notices.map .recorded }) := by
  rw [cancel_eq, cancel_eq]
  dsimp only
  cases session.queue.cancel? name with
  | none => exact ⟨[], (List.append_nil _).symm, by rw [List.map_nil, List.append_nil]⟩
  | some change =>
    refine ⟨change.recorded, ?_⟩
    simp only [applyAndDeliver_eq, apply_eq, and_self]

/-- A script that calls to cancel is answered. -/
theorem answers_of_script {goesOn : Bool → users.Script Unit} {rest : List (Frame users)}
    (stack : session.stack = .script (.call (.cancel name) goesOn) :: rest) :
    ∃ next, session.step? = some next ∧ Answers session name next := by
  refine ⟨_, step_of_call stack, rfl, rfl, rfl, surroundings_cancel session name, rfl, ?_, ?_⟩
  · intro others below same
    rw [stack] at same
    cases same
    rfl
  · intro serial message allowance below same
    rw [stack] at same
    cases same

/-- A transfer that cancels a request makes the call after the signal was seen. -/
theorem follow_cancel_eq (transfer : Transfer) (again : Frame users) (rest : List (Frame users))
    (reaches : users.reaches session.state = true) :
    session.follow transfer (.cancel name) again rest =
      let seen := session.see (.followed (launchOf transfer) (.cancel name))
      { (seen.cancel name).2.2 with
        stack := (seen.cancel name).2.1 ++ .show (.cancelled name (seen.cancel name).1) ::
          again :: rest } := by
  simp only [follow, reaches, if_true]
  rfl

/-- A transfer that calls to cancel is answered. -/
theorem answers_of_transfer {serial allowance : Nat}
    {transfer : Transfer} {message : List Signal} {rest : List (Frame users)}
    (stack : session.stack = .transfer serial (.cancel name :: message) allowance :: rest)
    (stored : session.transfer? serial = some transfer)
    (reaches : users.reaches session.state = true) :
    ∃ next, session.step? = some next ∧ Answers session name next := by
  have taken := step_of_stack stack
  rw [advance_read_cons stored, follow_cancel_eq _ _ _ reaches, see] at taken
  obtain ⟨notices, grown, same⟩ := cancel_log session
    (session.log ++ [.followed (launchOf transfer) (.cancel name)]) name
  dsimp only at taken
  rw [same] at taken
  refine ⟨_, taken, rfl, rfl, rfl, surroundings_cancel session name, ?_, ?_, ?_⟩
  · -- The signal that is seen is not a notice.
    have unnoticed : [(.followed (launchOf transfer) (.cancel name) :
        Observation users.Listener users.Note)].filterMap Observation.recorded? = [] := rfl
    rw [recorded, recorded, grown, List.filterMap_append, List.filterMap_append,
      List.filterMap_append, unnoticed, List.append_nil]
  · intro goesOn below same
    rw [stack] at same
    cases same
  · intro other words left below same
    rw [stack] at same
    cases same
    rfl

/-- Whoever calls to cancel is answered. -/
theorem answers_of_call (call : session.call? = some (.cancel name)) :
    ∃ next, session.step? = some next ∧ Answers session name next := by
  rw [call?] at call
  split at call
  · rename_i operation goesOn rest stack
    obtain rfl := Option.some.inj call
    exact answers_of_script stack
  · rename_i serial words message allowance rest stack
    split at call
    · rename_i able
      obtain ⟨there, reaches⟩ := Bool.and_eq_true_iff.mp able
      obtain ⟨transfer, stored⟩ := Option.isSome_iff_exists.mp there
      obtain rfl : words = name := by simpa using call
      exact answers_of_transfer stack stored reaches
    · exact absurd call (by simp)
  · exact absurd call (by simp)

/-- The notice of a cancel comes behind those recorded before and ahead of all that follow. -/
theorem Run.ahead {state : users.State} {past : History users} (run : Run (.new state) past session)
    (taken : session.step? = some next) (answers : Answers session name next)
    (removes : Removes session before entry after (session.cancel name).2.2)
    {more : History users} {later : Session users} (onward : Run next more later) :
    noticed past session ++ [.error entry none] <+: noticed (past ++ session :: more) later := by
  have stepped := run.step taken
  have whole : Run (.new state) (past ++ session :: more) later := by
    have appended := stepped.append onward
    rwa [List.append_assoc] at appended
  have recorded_next : next.recorded = session.recorded ++ [.error entry none] := by
    rw [answers.recorded, recorded, removes.log, List.filterMap_append]
    rfl
  have remains := onward.recorded_mono (stepped.framed (framed_new state))
  rw [noticed, ← run.pushed, noticed, ← whole.pushed, ← recorded_next]
  exact remains

/-- In every session that can come about a cancel takes exactly the first request of the name away,
or does nothing. -/
theorem cancels_exactly {state : users.State} {past : History users}
    (run : Run (.new state) past session) (name : String) : CancelsExactly past session name := by
  have orderly : Orderly session := Reachable.orderly ⟨state, past, run⟩
  refine ⟨?_, ?_, ?_, delivers_of_cancel, answers_of_call, ?_⟩
  · rcases orderly.cancel_cases name with ⟨refused, missing⟩ | ⟨found, before, entry, after, parts⟩
    · exact iff_of_true (by rw [refused]) missing
    · obtain ⟨queued, same, _⟩ := parts
      refine iff_of_false (by rw [found]; exact Bool.noConfusion) fun missing => ?_
      exact missing entry (queued ▸ List.mem_append_right _ List.mem_cons_self) same
  · intro refused
    rcases orderly.cancel_cases name with ⟨nothing, _⟩ | ⟨found, _⟩
    · exact nothing
    · rw [found] at refused
      exact Bool.noConfusion refused
  · intro found
    rcases orderly.cancel_cases name with ⟨refused, _⟩ | ⟨_, removed⟩
    · rw [refused] at found
      exact Bool.noConfusion found
    · exact removed
  · intro entry next first call taken more later onward
    obtain ⟨other, stepped, answers⟩ := answers_of_call call
    obtain rfl := Option.some.inj (taken.symm.trans stepped)
    rcases orderly.cancel_cases name with ⟨_, missing⟩ | ⟨_, before, found, after, parts⟩
    · have met := List.find?_some first
      exact absurd (beq_iff_eq.mp met) (missing entry (List.mem_of_find?_eq_some first))
    · obtain ⟨queued, same, others, removes⟩ := parts
      obtain rfl := Option.some.inj (first.symm.trans (Queue.first_named queued same others).1)
      exact run.ahead taken answers removes onward

/-! ## A transfer that cancels itself -/

/-- The first of two requests of one name has received something when its transfer is about to
cancel that name. -/
def withdrawing : Session (callers true) :=
  let queued := repeatedly step? 40 ((Session.new ()).begin (queueAll true ["same", "same"]))
  repeatedly step? 3 (queued.arrive 1 [.position 7, .cancel "same"])

/-- The request that runs is taken away by its own transfer, and the other one is started. -/
theorem cancels_exactly_withdrawing : ∃ past, Run (.new ()) past withdrawing ∧
    withdrawing.call? = some (.cancel "same") ∧
    withdrawing.entries = [("same", ⟨-1, 7⟩), ("same", .queued)] ∧
    (withdrawing.cancel "same").1 = true ∧
    (withdrawing.cancel "same").2.2.entries = [("same", ⟨-1, 0⟩)] ∧
    CancelsExactly past withdrawing "same" := by
  have start : Run (.new () : Session (callers true)) [] (.new ()) := .refl
  have queued := start.play rfl (queueAll true ["same", "same"]) 40
  have run := (queued.input (.arrive _ 1 [.position 7, .cancel "same"])).repeatedly 3
  exact ⟨_, run, rfl, rfl, rfl, rfl, cancels_exactly run "same"⟩

end Session

end Sailplane.Download
