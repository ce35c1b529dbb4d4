import Sailplane.Proofs.Download.Brought
import Sailplane.Proofs.Download.Grounded
import Sailplane.Proofs.Download.Sources
import Sailplane.Proofs.Download.Surroundings
import Sailplane.Proofs.Skysight.Polite
import Sailplane.Proofs.Skysight.Shelves

/-!
# The client at work

The desk of a client while its queue is at work. Whenever no script runs it is level, and whatever
script runs is well-behaved. This is kept by every step, as long as the other users are polite, use
only slots of their own, and transfers bring what they were asked for.
-/
namespace Sailplane.Skysight

open Download (Script Operation Slot Slots Content Event Entry Notice Destination Request Failure
  Users Session Frame Job Observation Deed History Signal Transfer Launch enqueued handedOut told
  ended reached awaited completed)

variable {Others Listener Note : Type} {json : String → Bool}
  {handler : Handler Others Listener Note}
  {react : Listener → Event → Act Others Listener Note Unit}
  {reaches : Others → Bool}

/-- A queue with a client among its users. -/
abbrev Service (handler : Handler Others Listener Note)
    (react : Listener → Event → Act Others Listener Note Unit) (reaches : Others → Bool) : Type :=
  Session (users handler react reaches)

/-- The document that is seen to be handed on, with the name of its request. -/
def routed? : Observation (Member Listener) (Mark Note) → Option (String × Json)
  | .note (.routed name document) => some (name, document)
  | _ => none

/-- A transfer that follows a signal hands nothing on. -/
theorem unrouted_following (transfer : Transfer) (signal : Signal) :
    routed? (Session.following transfer signal :
      Observation (users handler react reaches).Listener (users handler react reaches).Note) =
        none := by
  cases signal with
  | _ => rfl

/-- The documents that were handed on, in order, with the names of their requests. -/
def routed (session : Service handler react reaches) : List (String × Json) :=
  session.log.filterMap routed?

/-- The notices of which the client was told. -/
def known (deeds : List (Deed (Member Listener))) (session : Service handler react reaches) :
    List Notice :=
  reached Member.isClient deeds session.due

/-- The requests for documents of which the client was not told that they are over. -/
def waiting (json : String → Bool) (deeds : List (Deed (Member Listener)))
    (session : Service handler react reaches) : List Entry :=
  awaited json (enqueued deeds) (known deeds session)

/-- The desk of the client. -/
def deskOf (json : String → Bool) (deeds : List (Deed (Member Listener)))
    (session : Service handler react reaches) : Desk Others Listener where
  shared := session.state
  slots := session.slots
  registry := session.registry
  requests := enqueued deeds
  due := (waiting json deeds session).map fun entry => (entry.name, entry.request.destination)
  routed := routed session
  answered := (completed json (known deeds session)).map fun entry =>
    (entry.name, session.brought entry)

/-! ## What has begun -/

/-- Whether a stack starts with handing out notices. -/
def startsDrain : List (Frame (users handler react reaches)) → Bool
  | .drain :: _ => true
  | _ => false

/-- Whether what has begun may go on from any level desk. Only notices are told to the client. -/
def Fitting (json : String → Bool) : List (Frame (users handler react reaches)) → Prop
  | [] => True
  | .script rest :: below =>
    (∀ desk, Desk.Level json desk → Desk.Behaves json handler rest desk) ∧ Fitting json below
  | .tell calls :: below =>
    (startsDrain below = false → ∀ call ∈ calls, Member.isClient call.1 = false) ∧
      Fitting json below
  | _ :: below => Fitting json below

/-- Whether a desk is level, unless a script runs, which is well-behaved then. -/
def Manned (json : String → Bool) (desk : Desk Others Listener) :
    List (Frame (users handler react reaches)) → Prop
  | .script rest :: below =>
    Desk.Behaves json handler rest desk ∧ Fitting json below
  | stack => Desk.Level json desk ∧ Fitting json stack

variable {desk : Desk Others Listener} {stack : List (Frame (users handler react reaches))}

/-- At a level desk whatever may go on does. -/
theorem manned_of_level (level : Desk.Level json desk) (fitting : Fitting json stack) :
    Manned json desk stack := by
  cases stack with
  | nil => exact ⟨level, fitting⟩
  | cons frame below =>
    cases frame with
    | script rest => exact ⟨fitting.1 desk level, fitting.2⟩
    | drain | tell | transfer | «show» => exact ⟨level, fitting⟩

/-- Where there are no scripts and nobody is told anything whatever has begun may go on. -/
theorem fitting_of_bare (bare : ∀ frame ∈ stack, frame.isPlain = false) : Fitting json stack := by
  induction stack with
  | nil => trivial
  | cons frame below ih =>
    have rest := ih fun other listed => bare other (List.mem_cons_of_mem _ listed)
    have first := bare frame List.mem_cons_self
    cases frame with
    | script | tell => exact Bool.noConfusion first
    | drain | transfer | «show» => exact rest

/-- What lies under what has begun may go on if that may. -/
theorem Fitting.below {frame : Frame (users handler react reaches)}
    (fitting : Fitting json (frame :: stack)) : Fitting json stack := by
  cases frame with
  | script | tell => exact fitting.2
  | drain | transfer | «show» => exact fitting

/-! ## The invariant -/

/-- Whether the next step takes nothing out of the client's slots, brings nothing else to them,
leaves its registration alone, and ends no transfer for a document that was not brought. -/
def Fair (json : String → Bool) (session : Service handler react reaches) : Prop :=
  match session.stack with
  | .script (.call (.takeSlot slot) _) :: _ =>
    slot ∈ keptSlots session.state → session.slots.get slot = none
  | .script (.call (.enqueue request) _) :: _ => json request.name = false →
    ∀ slot ∈ request.slots,
      slot.number < session.slots.contents.length ∧ slot ∉ keptSlots session.state
  | .script (.call (.unregister number) _) :: _ =>
    ∀ client ∈ Shared.client session.state, client.registration ≠ number
  | .transfer serial (.finish none :: _) _ :: _ =>
    ∀ transfer ∈ session.transfer? serial, json transfer.entry.name = true →
      (session.brought transfer.entry).isSome = true
  | _ => True

/-- Whether a step is fair can be decided. -/
instance (session : Service handler react reaches) : Decidable (Fair json session) := by
  unfold Fair
  split <;> infer_instance

/-- Whether the client is served: its desk is level whenever no script runs, the documents it awaits
are where it will look for them, it is told of every notice once, and no complete request has
brought nothing. -/
structure Serving (json : String → Bool) (deeds : List (Deed (Member Listener)))
    (session : Service handler react reaches) : Prop where
  /-- The desk is level, unless a script runs. -/
  manned : Manned json (deskOf json deeds session) session.stack
  /-- The documents awaited are where the client will look for them. -/
  shelved : Shelved json (enqueued deeds) (waiting json deeds session) session.slots session.brought
  /-- The client is told once. -/
  single : (session.due.filter fun call => Member.isClient call.1).length ≤ 1
  /-- Requests for documents that have ended without a failure have brought one. -/
  answerable : ∀ entry, (entry, none) ∈ session.results → json entry.name = true →
    (session.brought entry).isSome = true
  /-- Nothing was taken away by a shutdown. -/
  undropped : Download.dropped deeds = []

/-! ## What a step leaves as it is -/

section Step

variable {past : History (users handler react reaches)}
  {session after : Service handler react reaches} {start : (users handler react reaches).State}

/-- The client was told of nothing but what was recorded. -/
theorem recorded_of_known (run : Session.Run (.new start) past session) {notice : Notice}
    (listed : notice ∈ known past.deeds session) : notice ∈ session.recorded := by
  have handed : notice ∈ (handedOut past.deeds).map (·.1) := by
    rw [known, reached] at listed
    split at listed
    · exact List.dropLast_subset _ listed
    · exact listed
  rw [run.pushed]
  exact List.mem_append_left _ handed

/-- Every request of which the client was told was queued. -/
theorem queued_of_known (run : Session.Run (.new start) past session) {entry : Entry}
    (past_ : entry ∈ ended (known past.deeds session)) : entry ∈ enqueued past.deeds := by
  obtain ⟨notice, listed, _, same⟩ := Download.mem_ended.mp past_
  rw [← same]
  exact run.booked.balanced.known notice (recorded_of_known run listed)

/-- What the requests have brought of which the client was told that they are complete stays as it
is. -/
theorem brought_of_completed (run : Session.Run (.new start) past session)
    (taken : session.step? = some after) {entry : Entry}
    (told : entry ∈ completed json (known past.deeds session)) :
    after.brought entry = session.brought entry :=
  run.brought_kept taken (recorded_of_known run (Download.complete_of_completed told))

/-- A step that neither hands out a notice nor tells of one leaves whom it was to tell. -/
theorem due_of_silent (run : Session.Run (.new start) past session)
    (taken : session.step? = some after) (untold : told session.deed?.toList = [])
    (unsent : handedOut session.deed?.toList = []) : after.due = session.due := by
  have settles := Session.settles_step taken (run.framed (Session.framed_new start))
  rw [Session.Settles, untold, unsent, List.flatMap_nil, List.append_nil] at settles
  exact settles

/-- What the client knows stays the same while nothing is handed out and those who are to be told
stay the same. -/
theorem known_of_due {deed : Option (Deed (Member Listener))}
    (unsent : handedOut deed.toList = []) (same : after.due = session.due)
    {deeds : List (Deed (Member Listener))} :
    known (deeds ++ deed.toList) after = known deeds session := by
  rw [known, known, same, reached, reached, Download.handedOut_append, unsent, List.append_nil]

/-- The documents handed on go on with the one that a step hands on. -/
theorem routed_step (run : Session.Run (.new start) past session)
    (taken : session.step? = some after) :
    routed after = routed session ++ session.utterance?.toList.filterMap routed? := by
  refine Session.said_step routed? ?_ taken (run.framed (Session.framed_new start))
  intro observation unheard
  cases observation with
  | note written => exact Bool.noConfusion unheard
  | _ => rfl

/-- What requests have brought stays the same when a step brings nothing. -/
theorem brought_step_none (run : Session.Run (.new start) past session)
    (taken : session.step? = some after)
    (nothing : ∀ entry, session.utterance?.bind (Observation.brings? entry) = none) :
    after.brought = session.brought := by
  funext entry
  rw [Session.brought_step taken (run.framed (Session.framed_new start)), nothing entry]
  rfl

/-- After a fair step every request for a document that has ended without a failure has brought
one. -/
theorem answerable_step (run : Session.Run (.new start) past session)
    (taken : session.step? = some after) (fair : Fair json session)
    (answerable : ∀ entry, (entry, none) ∈ session.results → json entry.name = true →
      (session.brought entry).isSome = true) :
    ∀ entry, (entry, none) ∈ after.results → json entry.name = true →
      (after.brought entry).isSome = true := by
  intro entry listed own
  have framed := run.framed (Session.framed_new start)
  have results : after.results =
      session.results ++ session.utterance?.toList.filterMap Observation.result? := by
    refine Session.said_step Observation.result? ?_ taken framed
    intro observation unheard
    cases observation with
    | ended launch failure => exact Bool.noConfusion unheard
    | _ => rfl
  have before : (session.brought entry).isSome = true := by
    rw [results, List.mem_append] at listed
    rcases listed with old | new
    · exact answerable entry old own
    · obtain ⟨observation, said, result⟩ := List.mem_filterMap.mp new
      obtain ⟨serial, message, allowance, rest, transfer, stack, stored, rfl⟩ :=
        Session.ending_of_result (Option.mem_toList.mp said) result
      rw [Fair, stack] at fair
      exact fair transfer stored own
  rw [Session.brought_step taken framed, Option.isSome_or, before, Bool.or_true]

end Step

end Sailplane.Skysight
