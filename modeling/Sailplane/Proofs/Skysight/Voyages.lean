import Sailplane.Proofs.Skysight.Hearing
import Sailplane.Proofs.Skysight.Onward

/-!
# Runs of a client

The runs of a queue with a client among its users, whatever the others do: they use any names, they
empty the queue, and they move the clock. What the client was told and which requests it has made
are read off the steps of a run. Whenever no script runs its standing is sound, and whatever script
runs is safe, or will be before others may look.
-/
namespace Sailplane.Skysight

open Download (Operation Slot Event Session Frame History Signal)

variable {Others Listener Note : Type} {handler : Handler Others Listener Note}
  {react : Listener → Event → Act Others Listener Note Unit} {reaches : Others → Bool}
  {past : History (users handler react reaches)} {session after : Service handler react reaches}
  {start : (users handler react reaches).State}

/-! ## What a run has done -/

/-- What the next step notes down. -/
def note? (session : Service handler react reaches) : Option (Mark Note) :=
  match session.stack with
  | .script (.note written _) :: _ => some written
  | _ => none

/-- What was noted down, in order. -/
def marks (past : History (users handler react reaches)) : List (Mark Note) := past.filterMap note?

/-- When the client asked for a key, in order. -/
def asked (past : History (users handler react reaches)) : List Instant :=
  (marks past).filterMap Mark.asked?

/-- What the client is told by the next step of a request for which it keeps a slot. -/
def report? (session : Service handler react reaches) : Option Report :=
  match session.stack with
  | .tell ((.client, event) :: _) :: _ => reportOf session.state session.slots event
  | _ => none

/-- What the client was told of requests for which it kept a slot, in order. -/
def reports (past : History (users handler react reaches)) : List Report := past.filterMap report?

/-- The requests for documents that the client has made after one step more. -/
def claim (owned : List (String × Slot)) (session : Service handler react reaches) :
    List (String × Slot) :=
  match session.stack with
  | .script (.call (.enqueue request) _) :: _ => claimed session.state owned request
  | _ => owned

/-- The requests for documents that the client has made, in order: their names and their slots. -/
def owned (past : History (users handler react reaches)) : List (String × Slot) :=
  past.foldl claim []

/-- How the client stands. -/
def standing (past : History (users handler react reaches))
    (session : Service handler react reaches) : Standing Others Note where
  shared := session.state
  slots := session.slots
  marks := marks past
  reports := reports past
  owned := owned past

/-! ## Runs -/

/-- The runs of a queue with a client and others: the client starts once, callers begin civil
scripts, messages come in, and steps are taken. -/
inductive Voyage :
    History (users handler react reaches) → Service handler react reaches → Prop where
  /-- Nothing has happened, and there is no client. -/
  | new {shared : Shared Others} (absent : shared.client = none) : Voyage [] (.new shared)
  /-- A client starts; it is the first one. -/
  | connect {past : History (users handler react reaches)}
    {session : Service handler react reaches} (before : Voyage past session)
    (quiet : session.stack = []) (first : asked past = []) (account : Config.Account) :
    Voyage past (session.begin (Client.connect account))
  /-- A caller begins a script. -/
  | begin {past : History (users handler react reaches)}
    {session : Service handler react reaches} (before : Voyage past session)
    (quiet : session.stack = []) {script : Act Others Listener Note Unit} (civil : Civil script) :
    Voyage past (session.begin script)
  /-- A message comes in for a transfer. -/
  | arrive {past : History (users handler react reaches)}
    {session : Service handler react reaches} (before : Voyage past session) (serial : Nat)
    (message : List Signal) : Voyage past (session.arrive serial message)
  /-- One step more. -/
  | step {past : History (users handler react reaches)}
    {session after : Service handler react reaches} (before : Voyage past session)
    (taken : session.step? = some after) : Voyage (past ++ [session]) after

/-- A voyage is a run. -/
theorem Voyage.run (voyage : Voyage past session) :
    ∃ start, Session.Run (.new start) past session := by
  induction voyage with
  | @new shared absent => exact ⟨shared, .refl⟩
  | connect before quiet first account ih =>
    exact ih.imp fun _ run => run.input (.begin quiet _)
  | begin before quiet civil ih => exact ih.imp fun _ run => run.input (.begin quiet _)
  | arrive before serial message ih =>
    exact ih.imp fun _ run => run.input (.arrive _ serial message)
  | step before taken ih => exact ih.imp fun _ run => run.step taken

/-- To take steps until there is none goes on with a voyage. -/
theorem Voyage.repeatedly (voyage : Voyage past session) (fuel : Nat) :
    Voyage (past ++ Session.visited fuel session)
      (Session.repeatedly Session.step? fuel session) := by
  induction fuel generalizing past session with
  | zero =>
    rw [Session.visited, List.append_nil]
    exact voyage
  | succ fuel ih =>
    rw [Session.visited, Session.repeatedly]
    cases taken : session.step? with
    | none =>
      rw [List.append_nil]
      exact voyage
    | some next =>
      have further := ih (voyage.step taken)
      rwa [List.append_assoc] at further

/-- Every session in which a step was taken was reached by a voyage. -/
theorem Voyage.earlier (voyage : Voyage past session) {earlier : Service handler react reaches}
    (listed : earlier ∈ past) : ∃ before, Voyage before earlier := by
  induction voyage with
  | new absent => exact absurd listed List.not_mem_nil
  | connect before quiet first account ih => exact ih listed
  | begin before quiet civil ih => exact ih listed
  | arrive before serial message ih => exact ih listed
  | step before taken ih =>
    rcases List.mem_append.mp listed with old | last
    · exact ih old
    · exact ⟨_, List.mem_singleton.mp last ▸ before⟩

/-! ## How a step changes the standing -/

/-- How the client stands after a step: what is shared and the slots are as the step leaves them,
and what the step has done is added. -/
theorem standing_step (past : History (users handler react reaches))
    (session after : Service handler react reaches) :
    standing (past ++ [session]) after =
      { shared := after.state
        slots := after.slots
        marks := marks past ++ (note? session).toList
        reports := reports past ++ (report? session).toList
        owned := claim (owned past) session } := by
  have added {α : Type} (read : Service handler react reaches → Option α) :
      (past ++ [session]).filterMap read = past.filterMap read ++ (read session).toList := by
    rw [List.filterMap_append, List.filterMap_cons, List.filterMap_nil]
    cases read session with
    | _ => rfl
  rw [standing, marks, reports, owned, added, added, List.foldl_append]
  rfl

/-- What comes from outside leaves how the client stands. -/
theorem standing_input (input : Session.Input session after) :
    standing past after = standing past session := by
  have same := untouched_of_surroundings (Session.surroundings_input input)
  rw [standing, standing, same.state, same.slots]

/-- Whether the next step has nothing to do with the past of the client. -/
structure Aside (session : Service handler react reaches) : Prop where
  /-- Nothing is noted down. -/
  unnoted : note? session = none
  /-- The client is told nothing. -/
  untold : report? session = none
  /-- No call is made. -/
  uncalled : ∀ operation next rest, session.stack ≠ .script (.call operation next) :: rest

/-- A step that makes no call makes no request. -/
theorem claim_of_uncalled (uncalled : ∀ operation next rest,
    session.stack ≠ .script (.call operation next) :: rest) (made : List (String × Slot)) :
    claim made session = made := by
  rw [claim]
  split
  · rename_i request next rest stack
    exact absurd stack (uncalled _ _ _)
  · rfl

/-- A step that is aside changes no more of the standing than what is shared and the slots. -/
theorem standing_aside (past : History (users handler react reaches)) (aside : Aside session)
    (after : Service handler react reaches) :
    standing (past ++ [session]) after =
      { standing past session with shared := after.state, slots := after.slots } := by
  rw [standing_step, aside.unnoted, aside.untold, claim_of_uncalled aside.uncalled,
    Option.toList_none, List.append_nil, Option.toList_none, List.append_nil]
  rfl

/-- How the client stands after a call. -/
theorem standing_call {operation : Operation (Member Listener)}
    {next : operation.Reply → Act Others Listener Note Unit}
    {rest : List (Frame (users handler react reaches))}
    (past : History (users handler react reaches))
    (stack : session.stack = .script (.call operation next) :: rest)
    (after : Service handler react reaches) :
    standing (past ++ [session]) after =
      { standing past session with
        shared := after.state, slots := after.slots, owned := claim (owned past) session } := by
  have unnoted : note? session = none := by simp only [note?, stack]
  have untold : report? session = none := by simp only [report?, stack]
  rw [standing_step, unnoted, untold, Option.toList_none, List.append_nil, Option.toList_none,
    List.append_nil]
  rfl

/-! ## A client alone -/

/-- A handler that does nothing. -/
def unmoved : Handler Unit Unit Unit where
  update _ _ := .done true
  flag := .done ()
  newKey := .done ()

/-- A handler that does nothing is considerate. -/
theorem considerate_unmoved : Considerate unmoved :=
  ⟨fun _ _ => .done true, .done (), .done ()⟩

/-- A queue with a client alone whose handler does nothing. -/
abbrev Alone : Type := Service unmoved (fun _ _ => .done ()) fun _ => false

/-- To set the clock. -/
def setClock (now : Instant) : Act Unit Unit Unit Unit :=
  .get fun shared => .set { shared with now } (.done ())

/-- To set the clock is civil. -/
theorem civil_setClock (now : Instant) : Civil (setClock now) :=
  .change (fun _ => rfl) fun _ => .done ()

/-- To ask for a key. -/
def askForKey : Act Unit Unit Unit Unit := Client.requestKey.bind fun _ => .done ()

/-- To ask for a key is civil. -/
theorem civil_askForKey : Civil askForKey := .requestKey fun _ => .done ()

/-- The client starts, and asks for a key. -/
def Alone.connecting : Alone :=
  (.new ⟨none, 0, ()⟩ : Alone).begin (Client.connect ⟨"pilot", "secret", "", "key", "agent"⟩)

/-- The client has started. -/
theorem Alone.connected : Voyage (Session.visited 60 Alone.connecting)
    (Session.repeatedly Session.step? 60 Alone.connecting) :=
  have start : Voyage [] (.new ⟨none, 0, ()⟩ : Alone) := .new rfl
  (start.connect rfl rfl ⟨"pilot", "secret", "", "key", "agent"⟩).repeatedly 60

end Sailplane.Skysight
