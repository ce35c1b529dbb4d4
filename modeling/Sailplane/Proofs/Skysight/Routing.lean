import Sailplane.Proofs.Skysight.Courses

/-!
# Documents reach their handlers

A client takes the slots of its requests by their names alone. As long as nobody else uses these
names, and the queue is not emptied, every complete request has its own document handed on, once,
and no other request has any.

A session runs on one thread: the client keeps a slot and then queues the request for it, and no
other call to the client comes between the two.
-/
namespace Sailplane.Skysight

open Download (Script Operation Slot Slots Content Event Entry Notice Destination Request Failure
  Users Session Frame Job Observation Deed History Signal Transfer Launch enqueued handedOut told
  ended reached awaited completed)

variable {Others Listener Note : Type} {json : String → Bool}
  {handler : Handler Others Listener Note}
  {react : Listener → Event → Act Others Listener Note Unit}
  {reaches : Others → Bool} {past : History (users handler react reaches)}
  {session after : Service handler react reaches} {start : (users handler react reaches).State}

/-! ## Where documents go -/

/-- What it means that something is done with a document as the name of its request says: a name in
full, or what it starts with. -/
structure Goes (handler : Handler Others Listener Note) (name : String) (document : Json)
    (act : Act Others Listener Note Bool) : Prop where
  /-- A key goes to the credential. -/
  key : name = "authent" → act = Client.adopt handler document
  /-- The regions go to the handler. -/
  regions : name = "regions" → act = handler.update .regions document
  /-- So do the layers of a region. -/
  layers : "layers".toList <+: name.toList → act = handler.update .layers document
  /-- So does when layers were made. -/
  lastUpdates : "last_updated".toList <+: name.toList → act = handler.update .lastUpdates document
  /-- So do the files of a layer. -/
  datafiles : "datafiles".toList <+: name.toList → act = handler.update .datafiles document
  /-- Of anything else the handler is told that it came in. -/
  other : name ≠ "authent" → name ≠ "regions" → ¬ "layers".toList <+: name.toList →
    ¬ "last_updated".toList <+: name.toList → ¬ "datafiles".toList <+: name.toList →
    act = handler.flag.bind fun _ => .done true

/-- A word stands at the start of a name if its characters do. -/
theorem starts_iff {word name : String} :
    word.isPrefixOf name = true ↔ word.toList <+: name.toList :=
  String.startsWith_string_iff

/-- Two words at the start of a name are one at the start of the other. -/
theorem starts_apart {first second name : String} (apart : ¬ first.toList <+: second.toList)
    (apart' : ¬ second.toList <+: first.toList) (starts : first.toList <+: name.toList) :
    second.isPrefixOf name = false := by
  rw [← Bool.not_eq_true, starts_iff]
  intro other
  rcases List.prefix_or_prefix_of_prefix starts other with inner | inner
  · exact apart inner
  · exact apart' inner

/-- What is done with a document is what the name of its request says. -/
theorem goes_dispatch (handler : Handler Others Listener Note) (name : String) (document : Json) :
    Goes handler name document (Client.dispatch handler name document) := by
  have different {word other : String} (starts : word.toList <+: name.toList)
      (apart : ¬ word.toList <+: other.toList) : (name == other) = false := by
    rw [beq_eq_false_iff_ne]
    rintro rfl
    exact apart starts
  refine ⟨?_, ?_, fun starts => ?_, fun starts => ?_, fun starts => ?_, ?_⟩
  · rintro rfl
    rfl
  · rintro rfl
    rfl
  · have route : Route.of name = .topic .layers := by
      rw [Route.of, different starts (by decide), different starts (by decide),
        starts_iff.mpr starts]
      rfl
    rw [Client.dispatch, route]
  · have route : Route.of name = .topic .lastUpdates := by
      rw [Route.of, different starts (by decide), different starts (by decide),
        starts_apart (by decide) (by decide) starts, starts_iff.mpr starts]
      rfl
    rw [Client.dispatch, route]
  · have route : Route.of name = .topic .datafiles := by
      rw [Route.of, different starts (by decide), different starts (by decide),
        starts_apart (by decide) (by decide) starts,
        starts_apart (by decide) (by decide) starts, starts_iff.mpr starts]
      rfl
    rw [Client.dispatch, route]
  · intro key regions layers lastUpdates datafiles
    have route : Route.of name = .flag := by
      rw [← starts_iff, Bool.not_eq_true] at layers lastUpdates datafiles
      rw [Route.of, authRequest, beq_eq_false_iff_ne.mpr key, beq_eq_false_iff_ne.mpr regions,
        layers, lastUpdates, datafiles]
      rfl
    rw [Client.dispatch, route]

/-! ## Documents and their handlers -/

/-- Whether no script runs and the client was told of all notices that were handed out. -/
structure Between (session : Service handler react reaches) : Prop where
  /-- No script runs. -/
  still : ∀ script rest, session.stack ≠ .script script :: rest
  /-- The client is not still to be told of anything. -/
  aware : ∀ call ∈ session.due, Member.isClient call.1 = false

/-- When nothing has begun no script runs, and everybody was told. -/
theorem between_of_quiet (quiet : session.stack = []) : Between session where
  still := by
    simp [quiet]
  aware := by
    simp [Session.due, quiet, Download.dueCalls]

/-- The notices that were handed out. -/
def delivered (past : History (users handler react reaches)) : List Notice :=
  (handedOut past.deeds).map (·.1)

/-- What it means that the documents of a client reach their handlers. -/
structure Routed (json : String → Bool) (past : History (users handler react reaches))
    (session : Service handler react reaches) : Prop where
  /-- Between notices the slots that the client keeps are, in order, those of its requests of which
  no notice tells that they are over. -/
  pending : Between session →
    (Shared.pending session.state).map (fun kept => (kept.1, Destination.json kept.2)) =
      (awaited json (enqueued past.deeds) (delivered past)).map fun entry =>
        (entry.name, entry.request.destination)
  /-- Between notices what was handed on is, in order, the document of each request that a notice
  tells to be complete. -/
  routed : Between session →
    (routed session).map (fun given => (given.1, some given.2)) =
      (completed json (delivered past)).map fun entry => (entry.name, session.brought entry)
  /-- A request that has failed or was cancelled is not among those. -/
  failed : ∀ entry failure, .error entry failure ∈ delivered past →
    entry ∉ completed json (delivered past)
  /-- Whenever a document is handed on, it goes where the name of its request says, and nowhere
  else. -/
  goes : ∀ earlier ∈ past, ∀ name document next rest,
    earlier.stack = .script (.note (.routed name document) next) :: rest →
    ∃ act, Goes handler name document act ∧ next = act.bind fun _ => .done ()

/-- In every course whenever a document is handed on it goes where the name of its request says. -/
theorem Course.goes (own : json authRequest = true) (courteous : Desk.Courteous json handler)
    (polite : ∀ listener event, Polite json (react listener event))
    (course : Course json past session) : ∀ earlier ∈ past, ∀ name document next rest,
      earlier.stack = .script (.note (.routed name document) next) :: rest →
      ∃ act, Goes handler name document act ∧ next = act.bind fun _ => .done () := by
  induction course with
  | new absent => exact fun _ listed => absurd listed List.not_mem_nil
  | connect before quiet absent account ih => exact ih
  | begin before quiet courtesy ih => exact ih
  | arrive before serial message ih => exact ih
  | step before fair taken ih =>
    intro earlier listed name document next rest stack
    rcases List.mem_append.mp listed with old | last
    · exact ih earlier old name document next rest stack
    · obtain rfl := List.mem_singleton.mp last
      have manned := (before.serving own courteous polite).manned
      rw [stack] at manned
      obtain ⟨⟨receiver, receives, leads⟩, _⟩ := manned
      obtain ⟨other, among, _, dispatched⟩ := leads.1 name document rfl
      rw [receives other among] at dispatched
      exact ⟨_, goes_dispatch handler name document, dispatched⟩

/-- In every course of a client with a polite handler and polite others its documents reach their
handlers. -/
theorem Course.documents_routed (own : json authRequest = true)
    (update : ∀ topic document, Polite json (handler.update topic document))
    (flag : Polite json handler.flag) (newKey : Polite json handler.newKey)
    (polite : ∀ listener event, Polite json (react listener event))
    (course : Course json past session) : Routed json past session := by
  have courteous := Desk.courteous_of_polite own update flag newKey
  have serving := course.serving own courteous polite
  obtain ⟨start, run⟩ := course.run
  have level (between : Between session) : Desk.Level json (deskOf json past.deeds session) := by
    have manned := serving.manned
    cases begun : session.stack with
    | nil =>
      rw [begun] at manned
      exact manned.1
    | cons frame rest =>
      rw [begun] at manned
      cases frame with
      | script script => exact absurd begun (between.still script rest)
      | drain | tell | transfer | «show» => exact manned.1
  have knows (between : Between session) : known past.deeds session = delivered past :=
    Download.reached_settled between.aware
  refine ⟨fun between => ?_, fun between => ?_, ?_, course.goes own courteous polite⟩
  · rw [← knows between]
    exact (level between).kept
  · rw [← knows between]
    exact (level between).settled
  · intro entry failure listed complete
    have recorded {notice : Notice} (among : notice ∈ delivered past) :
        notice ∈ session.recorded := by
      rw [run.pushed]
      exact List.mem_append_left _ among
    exact Notice.noConfusion (run.ends_once (recorded listed)
      (recorded (Download.complete_of_completed complete)) rfl rfl rfl)

/-! ## A handler that asks again -/

/-- A handler that asks for the regions again whenever it has received a document. -/
def asksAgain : Handler Unit Unit Unit where
  update _ _ := (Client.requestJson "regions" "again").bind fun _ => .done true
  flag := .done ()
  newKey := .done ()

/-- The names for its client's documents. -/
def regionNames (name : String) : Bool := name == authRequest || name == "regions"

/-- A queue with its client alone. -/
abbrev Asking : Type := Service asksAgain (fun _ _ => .done ()) fun _ => false

namespace Asking

open Download.Session (step? visited)

/-- Before anything has happened. -/
def fresh : Asking := .new ⟨none, 0, ()⟩

/-- The client starts, and asks for a key. -/
def connecting : Asking := fresh.begin (Client.connect ⟨"pilot", "secret", "", "key", "agent"⟩)

/-- A caller asks for the regions twice. -/
def asking : Asking :=
  (Session.repeatedly step? 60 connecting).begin
    ((Client.requestJson "regions" "first").bind fun _ =>
      (Client.requestJson "regions" "second").bind fun _ => .done ())

/-- The request for a key fails. -/
def refused : Asking :=
  (Session.repeatedly step? 60 asking).arrive 1 [.finish (some (.network "lost"))]

/-- The first request for the regions is complete. -/
def served : Asking :=
  (Session.repeatedly step? 60 refused).arrive 2 [.fill (.document (.integer 1)), .finish none]

/-- The second one is cancelled; the third one is the handler's. -/
def cancelling : Asking :=
  (Session.repeatedly step? 60 served).begin (.call (.cancel "regions") fun _ => .done ())

/-- The third one is complete, and the handler asks once more. -/
def servedAgain : Asking :=
  (Session.repeatedly step? 60 cancelling).arrive 4
    [.fill (.document (.integer 2)), .finish none]

/-- The steps that are taken. -/
def steps : History (users asksAgain (fun _ _ => .done ()) fun _ => false) :=
  visited 60 connecting ++ visited 60 asking ++ visited 60 refused ++ visited 60 served ++
    visited 60 cancelling ++ visited 60 servedAgain

end Asking

open Asking in
/-- Of four requests for the regions the second one was cancelled and the last one waits; the
documents of the others were handed on. -/
theorem documents_routed_again :
    let session := Session.repeatedly Session.step? 60 servedAgain
    Between session ∧ (Shared.pending session.state).map (·.1) = ["regions"] ∧
      routed session = [("regions", .integer 1), ("regions", .integer 2)] ∧
      Routed regionNames Asking.steps session := by
  have fair : ∀ earlier ∈ Asking.steps, Fair regionNames earlier := by decide +kernel
  simp only [Asking.steps, List.forall_mem_append] at fair
  obtain ⟨⟨⟨⟨⟨first, second⟩, third⟩, fourth⟩, fifth⟩, sixth⟩ := fair
  have start : Course regionNames [] fresh := .new rfl
  have connected :=
    (start.connect rfl rfl ⟨"pilot", "secret", "", "key", "agent"⟩).repeatedly 60 first
  have asked := (connected.begin rfl
    (.requestJson rfl "first" (.requestJson rfl "second" (.done ())))).repeatedly 60 second
  have failed := (asked.arrive 1 [.finish (some (.network "lost"))]).repeatedly 60 third
  have complete := (failed.arrive 2
    [.fill (.document (.integer 1)), .finish none]).repeatedly 60 fourth
  have cancels : Polite regionNames
      (.call (.cancel "regions") fun _ => .done () : Act Unit Unit Unit Unit) :=
    .call trivial fun _ => .done ()
  have cancelled := (complete.begin rfl cancels).repeatedly 60 fifth
  have again := (cancelled.arrive 4
    [.fill (.document (.integer 2)), .finish none]).repeatedly 60 sixth
  refine ⟨between_of_quiet rfl, rfl, rfl, Course.documents_routed rfl (fun _ _ => ?_) (.done ())
    (.done ()) (fun _ _ => .done ()) again⟩
  exact .requestJson rfl "again" (.done true)

end Sailplane.Skysight
