import Sailplane.Proofs.Skysight.Login
import Sailplane.Proofs.Skysight.Routing

/-!
# Requests of others

A client knows the requests of its queue by their names alone. Of a request under a name for which
it keeps no slot it takes no notice, whoever has made it. Under any other name it takes the oldest
slot, whoever has made the request: when it is told for the nth time that a request of a name is
over, it takes the slot of the nth request of that name that it has made itself. So a request of
somebody else under the same name comes between a client and its own documents.
-/
namespace Sailplane.Skysight

open Download (Slot Event Failure Session Frame History)

variable {Others Listener Note : Type} {handler : Handler Others Listener Note}
  {react : Listener → Event → Act Others Listener Note Unit} {reaches : Others → Bool}
  {past : History (users handler react reaches)} {session after : Service handler react reaches}
  {rest : List (Frame (users handler react reaches))}

/-! ## Names without slots -/

/-- The slot that a client takes for a name is the first one under it. -/
theorem head?_slotsOf (name : String) (kept : List (String × Slot)) :
    (slotsOf name kept).head? =
      (kept.find? fun entry => entry.1 == name).map (·.2) := by
  rw [slotsOf, List.head?_map, List.head?_filter]

/-- Under a name without slots there is none to take. -/
theorem find?_eq_none_of_slotsOf {name : String} {kept : List (String × Slot)}
    (unkept : slotsOf name kept = []) : (kept.find? fun entry => entry.1 == name) = none := by
  have first := head?_slotsOf name kept
  rw [unkept, List.head?_nil] at first
  exact Option.map_eq_none_iff.mp first.symm

/-- What is to be done with a slot under a name without slots is not done. -/
theorem later_withPending {name : String} {act : Slot → Act Others Listener Note Unit}
    (stack : session.stack = .script (Client.withPending name act) :: rest)
    (unkept : slotsOf name (Shared.pending session.state) = []) :
    Later session { session with stack := rest } := by
  rw [Client.withPending, Client.withClient_eq] at stack
  have unkept := find?_eq_none_of_slotsOf unkept
  refine later_script stack ?_
  refine later_script (?_ : _ = .script (.done ()) :: rest) .refl
  cases present : Shared.client session.state with
  | none => simp [Session.advance, present]
  | some client =>
    have untaken : client.takePending? name = none := by
      rw [Shared.pending, present] at unkept
      rw [Client.takePending?, Option.map_eq_none_iff]
      exact unkept
    simp only [Session.advance, present, untaken, Option.elim_some]
    rfl

/-- A client that is told of a request under whose name it keeps no slot does nothing. -/
theorem later_unkept {event : Event} {calls : List (Member Listener × Event)}
    (stack : session.stack = .tell ((.client, event) :: calls) :: rest)
    (unkept : slotsOf event.name (Shared.pending session.state) = []) :
    Later session { session with
      stack := .tell calls :: rest, log := session.log ++ [.heard .client event] } := by
  refine .head (b := session.advance (.tell ((.client, event) :: calls)) rest)
    (by simp only [Session.step?, stack]) ?_
  cases event with
  | added name status => exact later_script rfl .refl
  | complete name => exact later_withPending rfl unkept
  | error name failure => exact later_withPending rfl unkept

/-! ## What is taken under a name -/

/-- How often the client was told that a request of a name is over while it kept a slot for it. -/
def heardOf (name : String) (past : History (users handler react reaches)) : Nat :=
  ((reports past).filter fun report => report.name == name).length

/-- The slot of the request whose turn it is under a name: of those that the client has made, the
first one after as many as it was told of. -/
def inTurn? (name : String) (past : History (users handler react reaches)) : Option Slot :=
  (slotsOf name (owned past))[heardOf name past]?

/-- In every voyage, while no script runs, the client keeps under every name the slots of its own
requests but for the first ones, as many as it was told of. -/
theorem Voyage.keeps (considerate : Considerate handler)
    (civil : ∀ listener event, Civil (react listener event)) (voyage : Voyage past session)
    (still : ∀ script rest, session.stack ≠ .script script :: rest) {client : Client}
    (present : Shared.client session.state = some client) (name : String) :
    slotsOf name client.pending = (slotsOf name (owned past)).drop (heardOf name past) := by
  have afloat := voyage.afloat considerate civil
  cases stack : session.stack with
  | nil =>
    rw [stack] at afloat
    exact afloat.1.kept client present name
  | cons frame rest =>
    rw [stack] at afloat
    cases frame with
    | script script => exact absurd stack (still script rest)
    | drain | tell | transfer | «show» => exact afloat.1.kept client present name

/-- In every voyage a client that is told something finds under a name the slot whose turn it is. -/
theorem Voyage.finds_turn (considerate : Considerate handler)
    (civil : ∀ listener event, Civil (react listener event)) (voyage : Voyage past session)
    {calls : List (Member Listener × Event)} (stack : session.stack = .tell calls :: rest)
    {client : Client} (present : Shared.client session.state = some client) (name : String) :
    ((Shared.pending session.state).find? fun kept => kept.1 == name).map (·.2) =
      inTurn? name past := by
  have kept := voyage.keeps considerate civil (by simp [stack]) present name
  rw [Shared.pending, present, Option.elim_some, ← head?_slotsOf, kept, List.head?_drop, inTurn?]

/-- In every voyage a client that is told that a request is complete is told of what is in the slot
whose turn it is. -/
theorem Voyage.report_complete (considerate : Considerate handler)
    (civil : ∀ listener event, Civil (react listener event)) (voyage : Voyage past session)
    {name : String} {calls : List (Member Listener × Event)}
    (stack : session.stack = .tell ((.client, .complete name) :: calls) :: rest)
    {client : Client} (present : Shared.client session.state = some client) :
    report? session = (inTurn? name past).map fun slot =>
      .came name (documentIn session.slots slot) (Shared.now session.state) := by
  rw [← voyage.finds_turn considerate civil stack present name, Option.map_map]
  simp only [report?, stack]
  rfl

/-- In every voyage a client that is told that a request has failed or was cancelled takes that for
the one whose turn it is. -/
theorem Voyage.report_error (considerate : Considerate handler)
    (civil : ∀ listener event, Civil (react listener event)) (voyage : Voyage past session)
    {name : String} {failure : Option Failure} {calls : List (Member Listener × Event)}
    (stack : session.stack = .tell ((.client, .error name failure) :: calls) :: rest)
    {client : Client} (present : Shared.client session.state = some client) :
    report? session = (inTurn? name past).map fun _ => .lost name := by
  rw [← voyage.finds_turn considerate civil stack present name, Option.map_map]
  simp only [report?, stack]
  rfl

/-- What it means that a client takes no notice of requests under whose names it keeps no slots, and
takes the slots of its own requests in turn when it is told of others. -/
structure TakesInTurn (past : History (users handler react reaches))
    (session : Service handler react reaches) : Prop where
  /-- Of a request under whose name it keeps no slot it takes no notice: a few steps later nothing
  has changed but that it was told. -/
  ignores : ∀ event calls rest, session.stack = .tell ((.client, event) :: calls) :: rest →
    slotsOf event.name (Shared.pending session.state) = [] →
      Later session { session with
        stack := .tell calls :: rest, log := session.log ++ [.heard .client event] }
  /-- While no script runs it keeps under every name the slots of its own requests but for the first
  ones, as many as it was told of. -/
  keeps : (∀ script rest, session.stack ≠ .script script :: rest) →
    ∀ client, Shared.client session.state = some client → ∀ name,
      slotsOf name client.pending = (slotsOf name (owned past)).drop (heardOf name past)
  /-- When it is told that a request is complete, it is told of what is in the slot whose turn it is
  under that name. -/
  completes : ∀ name calls rest,
    session.stack = .tell ((.client, .complete name) :: calls) :: rest →
    ∀ client, Shared.client session.state = some client →
      report? session = (inTurn? name past).map fun slot =>
        .came name (documentIn session.slots slot) (Shared.now session.state)
  /-- When it is told that a request has failed or was cancelled, that goes for the slot whose turn
  it is as well. -/
  fails : ∀ name failure calls rest,
    session.stack = .tell ((.client, .error name failure) :: calls) :: rest →
    ∀ client, Shared.client session.state = some client →
      report? session = (inTurn? name past).map fun _ => .lost name
  /-- Whenever others may look it has handed on what it was told of, and nothing else. -/
  handsOn : Open session →
    (marks past).filterMap Mark.routed? = (reports past).filterMap Report.document?

/-- In every voyage, whatever requests others make, the client takes the slots of its own requests
in turn. -/
theorem Voyage.takes_in_turn (considerate : Considerate handler)
    (civil : ∀ listener event, Civil (react listener event)) (voyage : Voyage past session) :
    TakesInTurn past session where
  ignores _ _ _ stack := later_unkept stack
  keeps still _ present := voyage.keeps considerate civil still present
  completes _ _ _ stack _ present := voyage.report_complete considerate civil stack present
  fails _ _ _ _ stack _ present := voyage.report_error considerate civil stack present
  handsOn opened := (voyage.current considerate civil opened).routed

/-! ## A request between a client and its document -/

namespace Crossing

open Download.Session (step? visited repeatedly)

/-- Somebody else asks for bytes under the name of the regions. -/
def askForBytes : Act Unit Unit Unit Unit :=
  .call .newSlot fun slot => .call (.enqueue (.buffer "" "regions" slot .none)) fun _ => .done ()

/-- To ask for bytes is civil. -/
theorem civil_askForBytes : Civil askForBytes :=
  .call trivial fun _ => .call trivial fun _ => .done ()

/-- The login fails. -/
def refused : Alone :=
  (repeatedly step? 60 Alone.connecting).arrive 1 [.finish (some (.network "lost"))]

/-- Somebody else asks first. -/
def crossing : Alone := (repeatedly step? 60 refused).begin askForBytes

/-- The client asks for the regions. -/
def asking : Alone :=
  (repeatedly step? 60 crossing).begin ((Client.requestJson "regions" "regions").bind .done)

/-- The request of the other is complete. -/
def crossed : Alone := (repeatedly step? 60 asking).arrive 2 [.finish none]

/-- The request of the client is complete. -/
def served : Alone :=
  (repeatedly step? 60 crossed).arrive 3 [.fill (.document (.list [.integer 1])), .finish none]

/-- The steps that were taken before that. -/
def steps : History (users unmoved (fun _ _ => .done ()) fun _ => false) :=
  visited 60 Alone.connecting ++ visited 60 refused ++ visited 60 crossing ++ visited 60 asking ++
    visited 60 crossed

/-- The request of the client is about to be complete. -/
theorem voyage_served : Voyage steps served := by
  have failed : Voyage _ (repeatedly step? 60 refused) :=
    (Alone.connected.arrive 1 [.finish (some (.network "lost"))]).repeatedly 60
  have other : Voyage _ (repeatedly step? 60 crossing) :=
    (failed.begin rfl civil_askForBytes).repeatedly 60
  have own : Voyage _ (repeatedly step? 60 asking) :=
    (other.begin rfl (.requestJson "regions" "regions" (.done ()))).repeatedly 60
  have first : Voyage steps (repeatedly step? 60 crossed) :=
    (own.arrive 2 [.finish none]).repeatedly 60
  exact first.arrive 3 [.fill (.document (.list [.integer 1])), .finish none]

end Crossing

open Crossing Download.Session in
/-- A client that has asked for the regions after somebody else is told that its own request is
complete when it has taken its only slot for the other one. -/
theorem takes_in_turn_crossed :
    let past := steps ++ visited 5 served
    let session := repeatedly step? 5 served
    slotsOf "regions" (owned past) = [⟨2⟩] ∧ heardOf "regions" past = 1 ∧ report? session = none ∧
      TakesInTurn past session := by
  refine ⟨by decide +kernel, rfl, rfl, ?_⟩
  exact (voyage_served.repeatedly 5).takes_in_turn considerate_unmoved fun _ _ => .done ()

open Crossing Download.Session in
/-- The client's own request was complete and its document was there, but it was not handed on: the
client had taken the slot for the request of somebody else. -/
theorem own_document_lost :
    let past := steps ++ visited 60 served
    let session := repeatedly step? 60 served
    Voyage past session ∧ session.stack = [] ∧ ("regions", ⟨2⟩) ∈ owned past ∧
      (∃ entry, .complete entry ∈ delivered past ∧ entry.request.destination = .json ⟨2⟩ ∧
        session.brought entry = some (.list [.integer 1])) ∧
      (marks past).filterMap Mark.routed? = [] := by
  refine ⟨voyage_served.repeatedly 60, rfl, by decide +kernel, ?_, rfl⟩
  refine ⟨⟨2, .json "/regions" "regions" ⟨2⟩
    (Client.headers ⟨"pilot", "secret", "", "key", "agent"⟩ "key")⟩, ?_, rfl, rfl⟩
  decide +kernel

end Sailplane.Skysight
