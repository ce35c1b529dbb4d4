import Sailplane.Proofs.Download.Changes
import Sailplane.Proofs.Download.Effect.Move

/-!
# Delivery

Notices are handed out in the order in which they were recorded, one at a time, each to all who were
registered when it was its turn; none is left behind. The invariant counts the listeners that are
still to be told of the notice being handed out as if they had been told.

A session runs on one thread: to record a notice and to begin its delivery is one step, and all
calls that come meanwhile come from the listeners that are being told.
-/
namespace Sailplane.Download

/-- What was handed out goes on with what is handed out. -/
theorem handedOut_append {Listener : Type} (deeds more : List (Deed Listener)) :
    handedOut (deeds ++ more) = handedOut deeds ++ handedOut more :=
  List.filterMap_append

/-- What was told goes on with what is told. -/
theorem told_append {Listener : Type} (deeds more : List (Deed Listener)) :
    told (deeds ++ more) = told deeds ++ told more :=
  List.filterMap_append

namespace Session

variable {users : Users}

/-! ## Who is still to be told -/

/-- While no notices are being handed out nobody is still to be told of one. -/
theorem dueCalls_of_nested {tasks : List Transfer} {delivering : Bool} {stack : List (Frame users)}
    (nested : Nested tasks delivering stack) (quiet : delivering = false) :
    dueCalls stack = [] := by
  induction nested with
  | nil => rfl
  | script script _ ih => exact ih quiet
  | shown name found _ ih => exact ih quiet
  | drain _ _ => exact Bool.noConfusion quiet
  | transfer found fetching message allowance => rfl
  | @tell _ rest calls below ih =>
    cases below with
    | nil => exact ih quiet
    | script script below => exact ih quiet
    | tell others below => exact ih quiet
    | shown name found below => exact ih quiet
    | drain below => exact Bool.noConfusion quiet
    | transfer found fetching message allowance => exact ih quiet

/-- What a call sets off tells nobody of a notice at once. -/
theorem dueCalls_perform (session : Session users) (operation : Operation users.Listener)
    (script : users.Script Unit) (rest : List (Frame users)) :
    dueCalls ((session.perform operation).2.1 ++ .script script :: rest) = dueCalls rest := by
  rcases frames_perform session operation with none | drain | ⟨calls, tell⟩
  · rw [none]
    rfl
  · rw [drain]
    rfl
  · rw [tell]
    rfl

/-- What is asked for the requests tells nobody anything. -/
theorem told_asked (session : Session users) :
    told session.asked?.toList = [] ∧ handedOut session.asked?.toList = [] := by
  rw [asked?]
  split
  · exact ⟨rfl, rfl⟩
  · cases session.queue.entries.find? _ with
    | none => exact ⟨rfl, rfl⟩
    | some entry => exact ⟨rfl, rfl⟩
  · exact ⟨rfl, rfl⟩
  · exact ⟨rfl, rfl⟩

/-- How a step settles what is due: what is told comes off it, and what is announced goes on. -/
def Settles (session : Session users) (deed : Option (Deed users.Listener))
    (next : Session users) : Prop :=
  told deed.toList ++ next.due = session.due ++ (handedOut deed.toList).flatMap callsFor

/-- A step that neither tells nor announces keeps what is due. -/
theorem settles_of_due {session next : Session users} {deed : Option (Deed users.Listener)}
    (silent : told deed.toList = [] ∧ handedOut deed.toList = [])
    (same : next.due = session.due) : Settles session deed next := by
  rw [Settles, silent.1, silent.2, same, List.flatMap_nil, List.append_nil, List.nil_append]

/-- A transfer leaves nobody to be told of a notice. -/
theorem due_follow (session : Session users) (transfer : Transfer) (signal : Signal)
    (serial : Nat) (message : List Signal) (allowance : Nat) :
    (session.follow transfer signal (.transfer serial message allowance) []).due = [] := by
  rw [due]
  rcases stack_follow session transfer signal (.transfer serial message allowance) with
    ⟨again, _⟩ | ended | delivers | ⟨_, frames, name, found, set_off, none | drain⟩
  · rw [again]
    rfl
  · rw [ended]
    rfl
  · rw [delivers]
    rfl
  · rw [set_off, none]
    rfl
  · rw [set_off, drain]
    rfl

/-- A transfer that reads on leaves nobody to be told of a notice. -/
theorem due_readNext (session : Session users) (transfer : Transfer) (allowance : Nat) :
    (session.readNext transfer allowance []).due = [] := by
  rw [due]
  rcases stack_readNext session transfer allowance with rests | ⟨message, left, reads, _⟩
  · rw [rests]
    rfl
  · rw [reads]
    rfl

/-- A task that runs leaves nobody to be told of a notice. -/
theorem due_run (session : Session users) (quiet : session.stack = []) (job : Job) :
    (session.run job).due = [] := by
  rw [due]
  rcases stack_run quiet job with rests | ⟨serial, task, reads, _⟩
  · rw [rests]
    rfl
  · rw [reads]
    rfl

/-- Telling a listener settles what is due if notices are being handed out. -/
theorem settles_tell (session : Session users) (calls : List (users.Listener × Event))
    (rest : List (Frame users)) (stack : session.stack = .tell calls :: rest) {delivering : Bool}
    (below : Nested session.tasks delivering rest) :
    Settles session session.deed? (session.advance (.tell calls) rest) := by
  have aside (deed : session.deed? = session.asked?)
      (before : session.due = dueCalls rest)
      (skipped : ∀ others, dueCalls (.tell others :: rest) = dueCalls rest) :
      Settles session session.deed? (session.advance (.tell calls) rest) := by
    rw [deed]
    refine settles_of_due (told_asked session) ?_
    rw [before]
    cases calls with
    | nil => rfl
    | cons call calls => exact skipped calls
  cases below with
  | nil | script | tell | shown | transfer =>
    refine aside (by simp only [deed?, stack]) ?_ fun _ => rfl
    rw [due, stack]
    rfl
  | @drain rest below =>
    have quiet : dueCalls rest = [] := dueCalls_of_nested below rfl
    cases calls with
    | nil =>
      have deed : session.deed? = session.asked? := by simp only [deed?, stack]
      rw [deed]
      refine settles_of_due (told_asked session) ?_
      rw [due, due, stack]
      exact quiet
    | cons call calls =>
      have deed : session.deed? = some (.told call.1 call.2) := by simp only [deed?, stack]
      have before : session.due = call :: calls := by
        rw [due, stack]
        rfl
      rw [deed, Settles, before]
      exact (List.append_nil _).symm

/-- Handing out a notice makes it due, and the end of that changes nothing. -/
theorem settles_drain (session : Session users) (rest : List (Frame users))
    (stack : session.stack = .drain :: rest) (below : Nested session.tasks false rest) :
    Settles session session.deed? (session.advance .drain rest) := by
  have before : session.due = [] := by
    rw [due, stack]
    exact (dueCalls_of_nested below rfl : dueCalls rest = [])
  cases outbox : session.queue.outbox with
  | nil =>
    have deed : session.deed? = none := by
      simp only [deed?, stack, outbox, List.head?_nil, Option.map_none]
    rw [deed]
    refine settles_of_due ⟨rfl, rfl⟩ ?_
    rw [before, due, (shift_drain_nil rest outbox).2]
    exact dueCalls_of_nested below rfl
  | cons notice others =>
    have deed : session.deed? = some (.announced notice session.registry.listeners) := by
      simp only [deed?, stack, outbox, List.head?_cons, Option.map_some]
    rw [deed, Settles, before, advance_drain_cons outbox]
    exact (List.append_nil _).symm

/-- A step of the innermost thing that has begun settles what is due. -/
theorem settles_advance (session : Session users) (frame : Frame users)
    (rest : List (Frame users)) (stack : session.stack = frame :: rest)
    (nested : Nested session.tasks session.queue.delivering (frame :: rest)) :
    Settles session session.deed? (session.advance frame rest) := by
  have aside (deed : session.deed? = session.asked?)
      (same : (session.advance frame rest).due = session.due) :
      Settles session session.deed? (session.advance frame rest) := by
    rw [deed]
    exact settles_of_due (told_asked session) same
  generalize session.queue.delivering = opened at nested
  cases nested with
  | script script below =>
    refine aside (by simp only [deed?, stack]) ?_
    rw [due, due, stack]
    cases script with
    | done result => rfl
    | get next => rfl
    | set state next => rfl
    | note note next => rfl
    | call operation next => exact dueCalls_perform session operation _ rest
  | shown name found below =>
    refine aside (by simp only [deed?, stack]) ?_
    rw [due, due, stack]
    rfl
  | tell calls below => exact settles_tell session calls rest stack below
  | drain below => exact settles_drain session rest stack below
  | @transfer serial task found fetching message allowance =>
    have before : session.due = [] := by
      rw [due, stack]
      rfl
    refine aside (by simp only [deed?, stack]) ?_
    rw [before]
    cases stored : session.transfer? serial with
    | none =>
      rw [advance_read_missing stored]
      rfl
    | some transfer =>
      cases message with
      | nil =>
        rw [advance_read_nil stored]
        exact due_readNext session transfer allowance
      | cons signal message =>
        rw [advance_read_cons stored]
        exact due_follow session transfer signal serial message allowance

/-- Every step settles what is due. -/
theorem settles_step {session next : Session users} (taken : session.step? = some next)
    (framed : Framed session) : Settles session session.deed? next := by
  have nested := framed.nested
  rcases step_cases taken with ⟨frame, rest, stack, rfl⟩ | ⟨job, ready, stack, jobs, rfl⟩
  · rw [stack] at nested
    exact settles_advance session frame rest stack nested
  · have deed : session.deed? = session.asked? := by simp only [deed?, stack]
    rw [deed]
    refine settles_of_due (told_asked session) ?_
    rw [due_run { session with ready } stack job, due, stack]
    rfl

/-- What comes from outside leaves everybody to be told who was. -/
theorem due_input {session next : Session users} (input : Input session next) :
    next.due = session.due := by
  cases input with
  | begin quiet script => rfl
  | arrive serial message => rw [due, stack_arrive, due]

/-- In every run what was told, and what is due, is what was announced to those registered. -/
theorem Run.settled {state : users.State} {past : History users} {session : Session users}
    (run : Run (.new state) past session) :
    told past.deeds ++ session.due = (handedOut past.deeds).flatMap callsFor := by
  induction run with
  | refl => rfl
  | @step past session next before taken ih =>
    have settles := settles_step taken (before.framed (framed_new state))
    rw [Settles] at settles
    rw [deeds_append, told_append, handedOut_append, List.flatMap_append]
    calc told past.deeds ++ told session.deed?.toList ++ next.due
        = told past.deeds ++ (told session.deed?.toList ++ next.due) := List.append_assoc _ _ _
      _ = told past.deeds ++
          (session.due ++ (handedOut session.deed?.toList).flatMap callsFor) := by
        rw [settles]
      _ = told past.deeds ++ session.due ++ (handedOut session.deed?.toList).flatMap callsFor :=
        (List.append_assoc _ _ _).symm
      _ = (handedOut past.deeds).flatMap callsFor ++
          (handedOut session.deed?.toList).flatMap callsFor := by
        rw [ih]
  | input before input ih =>
    rw [due_input input]
    exact ih

/-! ## What is recorded -/

/-- No notice is recorded among neutral observations. -/
theorem recorded_of_neutral {seen : List (Observation users.Listener users.Note)}
    (neutral : ∀ observation ∈ seen, observation.isNeutral = true) :
    seen.filterMap Observation.recorded? = [] := by
  rw [List.filterMap_eq_nil_iff]
  intro observation listed
  have plain := neutral observation listed
  cases observation with
  | recorded notice => exact Bool.noConfusion plain
  | _ => rfl

/-- What is recorded among notices that are recorded. -/
theorem recorded_map (notices : List Notice) :
    (notices.map (.recorded : Notice → Observation users.Listener users.Note)).filterMap
      Observation.recorded? = notices := by
  rw [List.filterMap_map]
  exact List.filterMap_some

/-- What is recorded meanwhile is recorded last. -/
theorem Shift.recorded {session next : Session users} {queue : Queue} {tasks : List Transfer}
    {turns : List Nat} {seen : List (Observation users.Listener users.Note)}
    (shift : Shift session next queue tasks turns seen) :
    next.recorded = session.recorded ++ seen.filterMap Observation.recorded? := by
  rw [Session.recorded, shift.log, List.filterMap_append]
  rfl

/-- A change of the queue records its notices. -/
theorem Changed.recorded {session next : Session users} {change : Change} {tasks : List Transfer}
    {seen : List (Observation users.Listener users.Note)}
    (changed : Changed session next change tasks seen)
    (silent : seen.filterMap Observation.recorded? = []) :
    next.recorded = session.recorded ++ change.recorded := by
  have recorded := Shift.recorded changed
  rwa [List.filterMap_append, silent, recorded_map, List.nil_append] at recorded

/-- Whether what was recorded is what was handed out and then what waits. -/
def Pushed (deeds : List (Deed users.Listener)) (session : Session users) : Prop :=
  session.recorded = (handedOut deeds).map (·.1) ++ session.queue.outbox

/-- A change of the queue puts what it records behind what waits. -/
theorem Pushed.changed {deeds : List (Deed users.Listener)} {session next : Session users}
    {deed : Option (Deed users.Listener)} {change : Change} {tasks : List Transfer}
    {seen : List (Observation users.Listener users.Note)} {entries : List Entry} {issued : Nat}
    {notices : List Notice} (pushed : Pushed deeds session)
    (changed : Changed session next change tasks seen)
    (yields : Yields session.queue change entries issued notices)
    (silent : seen.filterMap Observation.recorded? = []) (unsent : handedOut deed.toList = []) :
    Pushed (deeds ++ deed.toList) next := by
  have outbox : next.queue.outbox = session.queue.outbox ++ notices := by
    rw [changed.queue]
    exact yields.outbox
  rw [Pushed, Changed.recorded changed silent, yields.recorded, outbox, handedOut_append, unsent,
    List.append_nil, pushed, List.append_assoc]

/-- What leaves the waiting notices alone records nothing. -/
theorem Pushed.shifted {deeds : List (Deed users.Listener)} {session next : Session users}
    {deed : Option (Deed users.Listener)} {queue : Queue} {tasks : List Transfer}
    {turns : List Nat} {seen : List (Observation users.Listener users.Note)}
    (pushed : Pushed deeds session) (shift : Shift session next queue tasks turns seen)
    (same : queue.outbox = session.queue.outbox)
    (silent : seen.filterMap Observation.recorded? = []) (unsent : handedOut deed.toList = []) :
    Pushed (deeds ++ deed.toList) next := by
  rw [Pushed, Shift.recorded shift, silent, shift.queue, same, handedOut_append, unsent,
    List.append_nil, List.append_nil, pushed]

/-- Every effect keeps the order in which notices are recorded. -/
theorem Pushed.next {deeds : List (Deed users.Listener)} {session next : Session users}
    {deed : Option (Deed users.Listener)} (pushed : Pushed deeds session)
    (effect : Effect session deed next) : Pushed (deeds ++ deed.toList) next := by
  cases effect with
  | still neutral shift => exact pushed.shifted shift rfl (recorded_of_neutral neutral) rfl
  | rested empty shift => exact pushed.shifted shift rfl rfl rfl
  | woken _ _ shift | told shift | emptied shift | begun _ _ _ _ shift | passed _ _ shift
  | discarded _ _ _ _ shift | dropped _ _ _ _ shift | outlived _ _ _ _ shift =>
    exact pushed.shifted shift rfl rfl rfl
  | @announced _ notice rest listeners first shift =>
    have silent : [(.announced notice : Observation users.Listener users.Note)].filterMap
        Observation.recorded? = [] := rfl
    have handed : handedOut [Deed.announced notice listeners] = [(notice, listeners)] := rfl
    rw [Pushed] at pushed ⊢
    rw [Shift.recorded shift, silent, List.append_nil, pushed, first, shift.queue,
      handedOut_append, Option.toList_some, handed, List.map_append, List.append_assoc]
    rfl
  | queued request changed =>
    exact pushed.changed changed (yields_enqueue session.queue request) rfl rfl
  | cancelled first found neutral changed =>
    exact pushed.changed changed (yields_cancel first found) (recorded_of_neutral neutral) rfl
  | finished listed fetching completed changed =>
    exact pushed.changed changed (yields_complete completed) rfl rfl

/-- In every run what was recorded is what was handed out and then what waits. -/
theorem Run.pushed {state : users.State} {past : History users} {session : Session users}
    (run : Run (.new state) past session) : Pushed past.deeds session :=
  Run.induct Pushed rfl (fun _ _ _ _ _ pushed effect => pushed.next effect) run

/-! ## Delivery in order -/

/-- Notices are being handed out exactly while that has begun and not ended. -/
theorem delivering_iff_of_nested {tasks : List Transfer} {delivering : Bool}
    {stack : List (Frame users)} (nested : Nested tasks delivering stack) :
    delivering = true ↔ .drain ∈ stack := by
  induction nested with
  | nil => simp
  | script script _ ih => simpa using ih
  | tell calls _ ih => simpa using ih
  | shown name found _ ih => simpa using ih
  | drain _ _ => simp
  | transfer found fetching message allowance => simp

/-- A notice begins to be handed out only by what does that, and by nothing else meanwhile. -/
theorem drain_of_announced {session : Session users} {notice : Notice}
    {listeners : List users.Listener} (deed : session.deed? = some (.announced notice listeners)) :
    ∃ rest, session.stack = .drain :: rest := by
  rw [deed?] at deed
  split at deed
  · rename_i rest stack
    exact ⟨rest, stack⟩
  · exact absurd deed (by simp)
  · have silent := (told_asked session).2
    rw [deed] at silent
    exact absurd silent (by simp [handedOut, Deed.announced?])

/-- While a notice is handed out nobody is left to be told of an earlier one. -/
theorem due_of_announced {session : Session users} {notice : Notice}
    {listeners : List users.Listener} (framed : Framed session)
    (deed : session.deed? = some (.announced notice listeners)) : session.due = [] := by
  obtain ⟨rest, stack⟩ := drain_of_announced deed
  have nested := framed.nested
  rw [stack] at nested
  rw [due, stack]
  generalize session.queue.delivering = delivering at nested
  cases nested with
  | drain below => exact (dueCalls_of_nested below rfl : dueCalls rest = [])

/-- In every run all who were to be told of earlier notices had been told when a notice began to be
handed out. -/
theorem Run.whole {state : users.State} {past : History users} {session : Session users}
    (run : Run (.new state) past session) (before after : List (Deed users.Listener))
    (notice : Notice) (listeners : List users.Listener)
    (split : past.deeds = before ++ .announced notice listeners :: after) :
    told before = (handedOut before).flatMap callsFor := by
  induction run generalizing after with
  | refl => exact absurd split (by simp [History.deeds])
  | @step past session next run taken ih =>
    rw [deeds_append] at split
    cases deed : session.deed? with
    | none =>
      rw [deed, Option.toList_none, List.append_nil] at split
      exact ih after split
    | some last =>
      rw [deed, Option.toList_some] at split
      rcases List.eq_nil_or_concat after with rfl | ⟨others, final, rfl⟩
      · obtain ⟨same, ends⟩ := List.append_inj' split rfl
        rw [List.cons.injEq] at ends
        have settled := run.settled
        rwa [due_of_announced (run.framed (framed_new state)) (deed.trans (by rw [ends.1])),
          List.append_nil, same] at settled
      · rw [List.concat_eq_append, ← List.cons_append, ← List.append_assoc] at split
        exact ih others (List.append_inj' split rfl).1
  | input run input ih => exact ih after split

/-- What it means that a run delivers its notices in order, one at a time, and all of them. -/
structure Delivers (past : History users) (session : Session users) : Prop where
  /-- What was handed out is a prefix of what was recorded, and the rest waits. -/
  pushed : session.recorded = (handedOut past.deeds).map (·.1) ++ session.queue.outbox
  /-- What listeners were told, and then what those are told who are still to be told of the notice
  being handed out, is each notice in turn for all who were registered when it began. -/
  told : told past.deeds ++ session.due = (handedOut past.deeds).flatMap callsFor
  /-- When a notice began to be handed out, all before it had reached all their listeners. -/
  whole : ∀ before notice listeners after,
    past.deeds = before ++ .announced notice listeners :: after →
      Download.told before = (handedOut before).flatMap callsFor
  /-- While a notice is being handed out no other one begins to be. -/
  alone : session.HandingOut → ∀ notice listeners,
    session.deed? ≠ some (.announced notice listeners)
  /-- When no call is under way no notice waits, and none is being handed out. -/
  idle : (∀ frame ∈ session.stack, frame.isCall = false) →
    session.queue.outbox = [] ∧ session.queue.delivering = false

/-- Every run delivers its notices in order, one at a time, and all of them. -/
theorem delivers {state : users.State} {past : History users} {session : Session users}
    (run : Run (.new state) past session) : Delivers past session := by
  have framed := run.framed (framed_new state)
  refine ⟨run.pushed, run.settled, ?_, ?_, ?_⟩
  · intro before notice listeners after split
    exact run.whole before after notice listeners split
  · rintro ⟨above, below, covered, split⟩ notice listeners deed
    obtain ⟨rest, stack⟩ := drain_of_announced deed
    have nested := framed.nested
    rw [stack] at nested split
    cases above with
    | nil => exact covered rfl
    | cons frame above =>
      rw [List.cons_append, List.cons.injEq] at split
      generalize session.queue.delivering = delivering at nested
      cases nested with
      | drain under =>
        have again := (delivering_iff_of_nested under).mpr (by rw [split.2]; simp)
        exact Bool.noConfusion again
  · intro quiet
    have closed : session.queue.delivering = false := by
      rw [← Bool.not_eq_true, delivering_iff_of_nested framed.nested]
      exact fun busy => Bool.noConfusion (quiet _ busy)
    refine ⟨?_, closed⟩
    by_contra waits
    have opened := framed.pending waits
    rw [closed] at opened
    exact Bool.noConfusion opened

/-! ## A listener that calls back -/

/-- Two listeners, of which the first queues another request when it is told of one. -/
def pair : Users where
  State := Unit
  Listener := Bool
  Note := Unit
  react
    | true, .added "first" _ => .call (.enqueue (.buffer "" "second" ⟨1⟩ .none)) .done
    | _, _ => .done ()
  reaches := fun _ => false

/-- Both listeners are registered, and a request is queued. -/
def queueFirst : pair.Script Unit :=
  .call (.register true) fun _ => .call (.register false) fun _ =>
    .call (.enqueue (.buffer "" "first" ⟨0⟩ .none)) .done

/-- The request that a listener queued is told after the one it was told of has reached both. -/
theorem delivers_nested :
    let begun := (Session.new () : Session pair).begin queueFirst
    told (visited 40 begun).deeds =
        [(true, .added "first" .queued), (false, .added "first" .queued),
          (true, .added "second" .queued), (false, .added "second" .queued)] ∧
      Delivers (visited 40 begun) (repeatedly step? 40 begun) := by
  have start : Run (.new () : Session pair) [] (.new ()) := .refl
  exact ⟨rfl, delivers (start.play rfl queueFirst 40)⟩

end Session

end Sailplane.Download
