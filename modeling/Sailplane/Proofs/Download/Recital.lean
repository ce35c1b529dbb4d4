import Mathlib.Data.List.Infix
import Sailplane.Proofs.Download.Gauges
import Sailplane.Proofs.Download.Stopped
import Sailplane.Proofs.Download.Strides

/-!
# Telling one listener of every request

A listener that asks is told of the requests as they are at that moment, one after the other. What
it does meanwhile lies above what is left to tell, so that it changes nothing of that.
-/
namespace Sailplane.Download.Session

variable {users : Users} {session next reached : Session users} {base : List (Frame users)}
  {calls left : List (users.Listener × Event)} {listener : users.Listener}

/-! ## What lies below -/

/-- A transfer that reads on leaves what lies below it. -/
theorem suffix_readNext (session : Session users) (transfer : Transfer) (allowance : Nat)
    (rest : List (Frame users)) :
    rest <:+ (session.readNext transfer allowance rest).stack := by
  cases allowance with
  | zero => exact List.suffix_refl rest
  | succ allowance =>
    cases inbox : transfer.inbox with
    | nil =>
      rw [readNext_nil inbox]
    | cons message others =>
      rw [readNext_cons inbox]
      exact List.suffix_cons _ rest

/-- A transfer that follows a signal leaves what lies below it. -/
theorem suffix_follow (session : Session users) (transfer : Transfer) (signal : Signal)
    (again : Frame users) (rest : List (Frame users)) :
    rest <:+ (session.follow transfer signal again rest).stack := by
  cases signal with
  | size | position => exact List.suffix_cons again rest
  | fill content =>
    cases place : transfer.entry.request.slotFor content with
    | none =>
      rw [follow_fill_none place]
      exact List.suffix_cons again rest
    | some slot =>
      rw [follow_fill_some place]
      exact List.suffix_cons again rest
  | cancel name =>
    rw [follow]
    split
    · exact ((List.suffix_cons again rest).trans (List.suffix_cons _ _)).trans
        (List.suffix_append _ _)
    · exact List.suffix_cons again rest
  | finish failure =>
    cases completed : session.queue.complete? transfer.serial failure with
    | none =>
      rw [follow_finish_none completed]
    | some change =>
      rw [follow_finish_some completed]
      exact List.suffix_append _ rest

/-- A step leaves what lies below the innermost thing that has begun. -/
theorem suffix_advance (session : Session users) (frame : Frame users)
    (rest : List (Frame users)) : rest <:+ (session.advance frame rest).stack := by
  cases frame with
  | script script =>
    cases script with
    | done result => exact List.suffix_refl rest
    | call operation goesOn =>
      exact (List.suffix_cons _ rest).trans (List.suffix_append _ _)
    | get | set | note => exact List.suffix_cons _ rest
  | drain =>
    cases outbox : session.queue.outbox with
    | cons notice others =>
      rw [advance_drain_cons outbox]
      exact (List.suffix_cons _ rest).trans (List.suffix_cons _ _)
    | nil =>
      rw [(shift_drain_nil rest outbox).2]
  | tell calls =>
    cases calls with
    | nil => exact List.suffix_refl rest
    | cons call calls => exact (List.suffix_cons _ rest).trans (List.suffix_cons _ _)
  | transfer serial message allowance =>
    cases stored : session.transfer? serial with
    | none =>
      rw [advance_read_missing stored]
    | some transfer =>
      cases message with
      | nil =>
        rw [advance_read_nil stored]
        exact suffix_readNext session transfer allowance rest
      | cons signal message =>
        rw [advance_read_cons stored]
        exact suffix_follow session transfer signal _ rest
  | «show» observation => exact List.suffix_refl rest

/-! ## The calls -/

/-- The call to a listener that the next step makes with so much below it. -/
def callAt? (depth : Nat) (session : Session users) : Option (users.Listener × Event) :=
  match session.stack with
  | .tell (call :: _) :: below => if below.length = depth then some call else none
  | _ => none

/-- The calls to listeners that were made with so much below them, in order. -/
def callsAt (depth : Nat) (past : History users) : List (users.Listener × Event) :=
  past.filterMap (callAt? depth)

/-- Whether calls are left to make above a stack, or all have been made. -/
def Stands (base : List (Frame users)) (left : List (users.Listener × Event))
    (session : Session users) : Prop :=
  (∃ above, session.stack = above ++ .tell left :: base) ∨ left = [] ∧ session.stack = base

/-- A step above a stack makes the next call that is left, or none. -/
theorem Stands.step (stands : Stands base left session)
    (deep : base.length < session.stack.length) (taken : session.step? = some next) :
    ∃ others, left = (callAt? base.length session).toList ++ others ∧ Stands base others next := by
  rcases stands with ⟨above, stack⟩ | ⟨_, stack⟩
  · cases above with
    | nil =>
      have advanced := taken.symm.trans (step_of_stack stack)
      obtain rfl := Option.some.inj advanced
      cases left with
      | nil =>
        have uncalled : callAt? base.length session = none := by
          simp only [callAt?, stack, List.nil_append]
        exact ⟨[], by rw [uncalled]; rfl, .inr ⟨rfl, rfl⟩⟩
      | cons call left =>
        have called : callAt? base.length session = some call := by
          simp only [callAt?, stack, List.nil_append, if_true]
        exact ⟨left, by rw [called]; rfl, .inl ⟨[.script (users.react call.1 call.2)], rfl⟩⟩
    | cons frame above =>
      rw [List.cons_append] at stack
      have advanced := taken.symm.trans (step_of_stack stack)
      obtain rfl := Option.some.inj advanced
      obtain ⟨more, same⟩ := suffix_advance session frame (above ++ .tell left :: base)
      have uncalled : callAt? base.length session = none := by
        rw [callAt?, stack]
        split
        · rename_i call calls below split
          obtain ⟨_, rfl⟩ := List.cons.inj split
          rw [if_neg]
          rw [List.length_append, List.length_cons]
          omega
        · rfl
      refine ⟨left, by rw [uncalled]; rfl, .inl ⟨more ++ above, ?_⟩⟩
      rw [← List.append_assoc] at same
      exact same.symm
  · rw [stack] at deep
    exact absurd deep (Nat.lt_irrefl _)

/-- What comes from outside leaves what lies on a stack with something to go on with. -/
theorem Stands.input (stands : Stands base left session) (nonempty : base ≠ [])
    (input : Input session next) : Stands base left next := by
  have begun : session.stack ≠ [] := by
    rcases stands with ⟨above, stack⟩ | ⟨_, stack⟩
    · rw [stack]
      simp
    · rwa [stack]
  have same : next.stack = session.stack := by
    cases input with
    | begin quiet script => exact absurd quiet begun
    | arrive serial message => exact stack_arrive session serial message
  rw [Stands, same]
  exact stands

/-- As long as the stack is not reached the calls are made in order. -/
theorem Run.recited {more : History users} (run : Run session more reached)
    (begins : Stands base calls session) (nonempty : base ≠ [])
    (deep : ∀ visited ∈ more, base.length < visited.stack.length) :
    ∃ left, callsAt base.length more ++ left = calls ∧ Stands base left reached := by
  induction run with
  | refl => exact ⟨calls, rfl, begins⟩
  | @step past session next before taken ih =>
    obtain ⟨left, made, stands⟩ := ih fun visited listed =>
      deep visited (List.mem_append_left _ listed)
    have above := deep session (List.mem_append_right _ (List.mem_singleton.mpr rfl))
    obtain ⟨others, split, after⟩ := stands.step above taken
    refine ⟨others, ?_, after⟩
    have now : [session].filterMap (callAt? base.length) =
        (callAt? base.length session).toList := by
      cases call : callAt? base.length session with
      | none => exact List.filterMap_cons_none call
      | some made => exact List.filterMap_cons_some call
    rw [← made, split, callsAt, List.filterMap_append, now, List.append_assoc]
    rfl
  | input before input ih =>
    obtain ⟨left, made, stands⟩ := ih deep
    exact ⟨left, made, stands.input nonempty input⟩

/-! ## Listeners that come back -/

/-- The sessions in which steps are taken and then others. -/
theorem Strides.visited_add {count : Nat} (strides : Strides count session reached) (more : Nat) :
    visited (count + more) session = visited count session ++ visited more reached := by
  induction strides with
  | stay session => rw [Nat.zero_add]; rfl
  | @onward first second third count taken rest ih =>
    rw [Nat.add_right_comm]
    simp only [visited, taken, ih, List.cons_append]

/-- Whether steps lead from a session to where only a stack is left, never before. -/
def LeadsTo (base : List (Frame users)) (session : Session users) : Prop :=
  ∃ count reached, Strides count session reached ∧ reached.stack = base ∧
    ∀ earlier ∈ visited count session, base.length < earlier.stack.length

/-- Whether a listener always comes back: what it does when it is told something ends, with all that
it sets off. -/
def ComesBack (listener : users.Listener) : Prop :=
  ∀ (session : Session users) (event : Event) (below : List (Frame users)),
    session.stack = .script (users.react listener event) :: below → LeadsTo below session

/-- To tell a listener that comes back of some events ends. -/
theorem ComesBack.tells (comesBack : ComesBack listener) (events : List Event)
    (stack : session.stack = .tell (events.map fun event => (listener, event)) :: base) :
    LeadsTo base session := by
  induction events generalizing session with
  | nil =>
    have taken := step_of_stack stack
    refine ⟨1, _, .single taken, rfl, ?_⟩
    intro earlier listed
    simp only [visited, taken, List.mem_singleton] at listed
    rw [listed, stack]
    exact Nat.lt_succ_self _
  | cons event events ih =>
    have taken := step_of_stack stack
    have begun : (session.advance (.tell ((event :: events).map fun event => (listener, event)))
        base).stack = .script (users.react listener event) ::
          .tell (events.map fun event => (listener, event)) :: base := rfl
    obtain ⟨count, told, reacts, ended, deep⟩ := comesBack _ event _ begun
    obtain ⟨more, reached, tells, stands, onward⟩ := ih ended
    refine ⟨1 + (count + more), reached, (Strides.single taken).trans (reacts.trans tells),
      stands, ?_⟩
    intro earlier listed
    rw [(Strides.single taken).visited_add, reacts.visited_add, List.mem_append,
      List.mem_append] at listed
    rcases listed with first | during | after
    · simp only [visited, taken, List.mem_singleton] at first
      rw [first, stack]
      exact Nat.lt_succ_self _
    · have above := deep earlier during
      rw [List.length_cons] at above
      omega
    · exact onward earlier after

/-! ## What is shown and told -/

/-- What a listener is told that asks for the requests. -/
def recital (session : Session users) (listener : users.Listener) :
    List (users.Listener × Event) :=
  session.entries.map fun shown => (listener, .added shown.1 shown.2)

/-- What it means that a listener is told of the requests of a session, from the session in which
the call was made until only what it was made from is left. -/
structure Recites (session : Session users) (listener : users.Listener)
    (base : List (Frame users)) (called : Session users) : Prop where
  /-- The call changes nothing but what is under way. -/
  begun : called = { session with stack := .tell (session.recital listener) :: base }
  /-- The listener and nobody else is told of the requests, of one after the other. -/
  told : ∀ more later, Run called more later →
    (∀ reached ∈ more, base.length < reached.stack.length) →
      ∃ left, callsAt base.length more ++ left = session.recital listener ∧
        Stands base left later
  /-- When only what the call was made from is left it was told of all. -/
  whole : ∀ more later, Run called more later →
    (∀ reached ∈ more, base.length < reached.stack.length) → later.stack = base →
      callsAt base.length more = session.recital listener
  /-- A call to tell a listener that comes back returns. -/
  returns : ComesBack listener → LeadsTo base called

/-- What it means that the queue shows the progress of its first request and of no other. -/
structure ShowsProgress (session : Session users) : Prop where
  /-- The requests are shown in order. -/
  names : session.entries.map (·.1) = session.queue.entries.map (·.name)
  /-- The first one is shown with what the transfer that runs has reported since it was started. -/
  first : ∀ entry rest, session.queue.entries = entry :: rest → ∃ transfer,
    session.queue.active = some transfer.serial ∧
      session.transfer? transfer.serial = some transfer ∧ transfer.entry = entry ∧
      transfer.stopped = false ∧ transfer.phase ≠ .closed ∧
      session.entries.head? =
        some (entry.name, .reported (session.reports ⟨transfer.serial, entry⟩))
  /-- So its position is never negative. -/
  positive : ∀ shown ∈ session.entries.head?, 0 ≤ shown.2.position
  /-- All others are shown with nothing. -/
  waiting : ∀ shown ∈ session.entries.tail, shown.2 = ⟨-1, -1⟩
  /-- So exactly the first one does not wait. -/
  queued : ∀ index shown, session.entries[index]? = some shown →
    (shown.2.isQueued = false ↔ index = 0)
  /-- A report of the transfer that runs shows at once, and that of any other does not. -/
  shows : ∀ serial signal message allowance rest next,
    session.stack = .transfer serial (signal :: message) allowance :: rest →
      signal.isReport = true → session.step? = some next →
        next.entries = if session.queue.active = some serial then
            session.entries.modifyHead fun shown => (shown.1, shown.2.hear signal)
          else session.entries
  /-- A listener that asks is told of just this. -/
  tells : ∀ listener goesOn rest,
    session.stack = .script (.call (.enumerate listener) goesOn) :: rest →
      ∃ called, session.step? = some called ∧
        Recites session listener (.script (goesOn ()) :: rest) called

/-- A listener that asks is told of what is shown. -/
theorem recites_of_call {goesOn : Unit → users.Script Unit} {rest : List (Frame users)}
    (stack : session.stack = .script (.call (.enumerate listener) goesOn) :: rest) :
    ∃ called, session.step? = some called ∧
      Recites session listener (.script (goesOn ()) :: rest) called := by
  have taken := step_of_call stack
  generalize base_eq : Frame.script (goesOn ()) :: rest = base
  have nonempty : base ≠ [] := base_eq ▸ List.cons_ne_nil _ rest
  obtain ⟨called, stepped, begun⟩ : ∃ called, session.step? = some called ∧
      called = { session with stack := .tell (session.recital listener) :: base } :=
    ⟨_, taken, by rw [← base_eq]; rfl⟩
  have begins : Stands base (session.recital listener) called := .inl ⟨[], by rw [begun]; rfl⟩
  refine ⟨called, stepped, begun, ?_, ?_, ?_⟩
  · intro more later run deep
    exact run.recited begins nonempty deep
  · intro more later run deep ended
    obtain ⟨left, made, ⟨above, stack⟩ | ⟨rfl, _⟩⟩ := run.recited begins nonempty deep
    · -- Something above the stack would still be there.
      rw [ended] at stack
      have longer := congrArg List.length stack
      rw [List.length_append, List.length_cons] at longer
      omega
    · rw [← made, List.append_nil]
  · intro comesBack
    refine comesBack.tells (session.entries.map fun shown => .added shown.1 shown.2) ?_
    rw [begun, List.map_map]
    rfl

/-- Every session that can come about shows the progress of its first request only. -/
theorem shows_progress (reachable : Reachable session) : ShowsProgress session := by
  have framed : Framed session := by
    obtain ⟨state, past, run⟩ := reachable
    exact run.framed (framed_new state)
  have shown {entry : Entry} {rest : List Entry} (queued : session.queue.entries = entry :: rest) :=
    reachable.shows queued
  have nothing (empty : session.queue.entries = []) : session.entries = [] := by
    simp only [entries, empty]
  refine ⟨?_, ?_, ?_, ?_, ?_, ?_, fun _ _ _ => recites_of_call⟩
  · cases queued : session.queue.entries with
    | nil => rw [nothing queued]; rfl
    | cons entry rest =>
      obtain ⟨_, _, _, _, _, _, same⟩ := shown queued
      rw [same, List.map_cons, List.map_map]
      rfl
  · intro entry rest queued
    obtain ⟨transfer, active, stored, owner, running, pending, same⟩ := shown queued
    exact ⟨transfer, active, stored, owner, running, pending, by rw [same]; rfl⟩
  · intro first listed
    cases queued : session.queue.entries with
    | nil => exact absurd listed (by rw [nothing queued]; simp)
    | cons entry rest =>
      obtain ⟨_, _, _, _, _, _, same⟩ := shown queued
      rw [same, List.head?_cons] at listed
      obtain rfl := Option.some.inj listed
      exact Status.reported_nonneg _
  · intro waits listed
    cases queued : session.queue.entries with
    | nil => exact absurd listed (by rw [nothing queued]; simp)
    | cons entry rest =>
      obtain ⟨_, _, _, _, _, _, same⟩ := shown queued
      rw [same, List.tail_cons] at listed
      obtain ⟨_, _, rfl⟩ := List.mem_map.mp listed
      rfl
  · intro index some_shown listed
    cases queued : session.queue.entries with
    | nil => exact absurd listed (by rw [nothing queued]; simp)
    | cons entry rest =>
      obtain ⟨_, _, _, _, _, _, same⟩ := shown queued
      rw [same] at listed
      cases index with
      | zero =>
        obtain rfl := Option.some.inj listed
        exact iff_of_true (decide_eq_false (Int.not_lt.mpr (Status.reported_nonneg _))) rfl
      | succ index =>
        rw [List.getElem?_cons_succ] at listed
        obtain ⟨_, _, rfl⟩ := List.mem_map.mp (List.mem_of_getElem? listed)
        have waits : Status.queued.isQueued ≠ false := by decide
        exact iff_of_false waits (Nat.succ_ne_zero index)
  · intro serial signal message allowance rest next stack report taken
    exact entries_of_report framed stack report taken

/-! ## A late report -/

/-- The transfer of the first request has cancelled it and reported something after that; the one
of the second request has reported a size that is too large; then a listener asks. -/
def curious : Session (callers true) :=
  let queued := repeatedly step? 40
    ((Session.new ()).begin (queueAll true ["first", "second", "third"]))
  let withdrawn := repeatedly step? 40 (queued.arrive 1 [.size 10, .cancel "first", .position 99])
  let received := repeatedly step? 40 (withdrawn.arrive 2 [.size (-1), .position 4])
  received.begin (Script.ask (.enumerate ()))

/-- What was reported of a request that was cancelled is not shown, nor told. -/
theorem shows_progress_late :
    curious.reports ⟨1, 0, bytesOf "first"⟩ = [.size 10, .cancel "first", .position 99] ∧
      curious.entries = [("second", ⟨9223372036854775807, 4⟩), ("third", ⟨-1, -1⟩)] ∧
      curious.stack = [.script (.call (.enumerate ()) .done)] ∧ ShowsProgress curious := by
  have start : Run (.new () : Session (callers true)) [] (.new ()) := .refl
  have queued := start.play rfl (queueAll true ["first", "second", "third"]) 40
  have withdrawn :=
    (queued.input (.arrive _ 1 [.size 10, .cancel "first", .position 99])).repeatedly 40
  have received := (withdrawn.input (.arrive _ 2 [.size (-1), .position 4])).repeatedly 40
  have run := received.input (.begin rfl (Script.ask (.enumerate ())))
  exact ⟨rfl, rfl, rfl, shows_progress ⟨(), _, run⟩⟩

end Sailplane.Download.Session
