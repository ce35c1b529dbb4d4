import Sailplane.Proofs.Download.Accounts

/-!
# The life of a request

Of every request it is told exactly once that it was queued, and after that at most once that it is
over: with the result of its own transfer, or because it was cancelled. When nothing is queued both
have reached the listeners, unless a shutdown took the request away.

A session runs on one thread, so that the end of a transfer and what the queue makes of it are one
step. A request that is cancelled or taken away while its transfer comes to its end is one here
whose transfer does that itself; with several threads it may be any, and its result is passed over
in the same way.
-/
namespace Sailplane.Download

namespace Session

variable {users : Users}

/-- The notices recorded so far: those that were handed out, and then those that wait. -/
def noticed (past : History users) (session : Session users) : List Notice :=
  (handedOut past.deeds).map (·.1) ++ session.queue.outbox

/-- What it means that every request is told of exactly once. -/
structure Lifecycle (past : History users) (session : Session users) : Prop where
  /-- Only requests that were queued are told of. -/
  known : ∀ notice ∈ noticed past session, notice.entry ∈ enqueued past.deeds
  /-- Of every request it is told once that it was queued, and then at most once that it is over. -/
  once : ∀ entry ∈ enqueued past.deeds, ∃ last : Option Notice,
    ((noticed past session).filter fun notice => notice.entry == entry) =
        .added entry :: last.toList ∧
      ∀ notice ∈ last, notice.isTerminal = true
  /-- It is told that a request is over exactly if it has left the queue other than by a
  shutdown. -/
  left : ∀ entry ∈ enqueued past.deeds,
    (∃ notice ∈ noticed past session, notice.isTerminal = true ∧ notice.entry = entry) ↔
      entry ∉ session.queue.entries ∧ entry ∉ dropped past.deeds
  /-- It is told that a request was cancelled exactly if it was. -/
  withdrawn : ∀ entry, .error entry none ∈ noticed past session ↔ entry ∈ cancelled past.deeds
  /-- A result is told exactly if the transfer of that request came to it, unless the request had
  been cancelled or taken away. -/
  reported : ∀ entry failure, .ending entry failure ∈ noticed past session ↔
    (entry, failure) ∈ session.results ∧ entry ∉ cancelled past.deeds ∧
      entry ∉ dropped past.deeds
  /-- When nothing is queued the listeners were told that each request was queued and that it is
  over, unless a shutdown took it away. -/
  delivered : session.queue.isIdle = true → ∀ entry ∈ enqueued past.deeds,
    entry ∉ dropped past.deeds → Delivered past.deeds (.added entry) ∧
      ∃ notice, notice.isTerminal = true ∧ notice.entry = entry ∧ Delivered past.deeds notice

/-- When nothing is queued every notice that was recorded has been delivered. -/
theorem delivered_of_idle {state : users.State} {past : History users} {session : Session users}
    (run : Run (.new state) past session) (quiet : session.queue.delivering = false)
    (empty : session.queue.outbox = []) {notice : Notice}
    (listed : notice ∈ noticed past session) : Delivered past.deeds notice := by
  rw [noticed, empty, List.append_nil, List.mem_map] at listed
  obtain ⟨⟨_, listeners⟩, handed, rfl⟩ := listed
  refine ⟨listeners, handed, ?_⟩
  have framed := run.framed (framed_new state)
  have due : session.due = [] := dueCalls_of_nested framed.nested quiet
  have settled := run.settled
  rw [due, List.append_nil] at settled
  obtain ⟨before, after, split⟩ := List.append_of_mem handed
  rw [settled, split, List.flatMap_append, List.flatMap_cons]
  exact ⟨before.flatMap callsFor, after.flatMap callsFor, List.append_assoc _ _ _⟩

/-- It is told that a request is over exactly if it has left the queue other than by a shutdown. -/
theorem terminal_iff_left {deeds : List (Deed users.Listener)} {session : Session users}
    (booked : Booked deeds session) {entry : Entry} (listed : entry ∈ enqueued deeds) :
    (∃ notice ∈ session.recorded, notice.isTerminal = true ∧ notice.entry = entry) ↔
      entry ∉ session.queue.entries ∧ entry ∉ dropped deeds := by
  have waits : entry ∈ session.queue.entries ↔ entry ∈ enqueued deeds ∧
      entry ∉ dropped deeds ∧ entry ∉ ended session.recorded := booked.balanced.mem_queue
  rw [← mem_ended, waits]
  constructor
  · intro finished
    exact ⟨fun all => all.2.2 finished, fun gone => (booked.balanced.gone entry gone).2 finished⟩
  · rintro ⟨away, kept⟩
    by_contra unfinished
    exact away ⟨listed, kept, unfinished⟩

/-- It is told of every request that it was queued. -/
theorem added_of_enqueued {deeds : List (Deed users.Listener)} {session : Session users}
    (booked : Booked deeds session) {entry : Entry} (listed : entry ∈ enqueued deeds) :
    .added entry ∈ session.recorded := by
  obtain ⟨last, told, _⟩ := booked.balanced.once entry listed
  have among : .added entry ∈ (session.ledger deeds).about entry := by
    rw [told]
    exact List.mem_cons_self
  exact (List.mem_filter.mp among).1

/-- In every run every request is told of exactly once. -/
theorem lifecycle {state : users.State} {past : History users} {session : Session users}
    (run : Run (.new state) past session) : Lifecycle past session := by
  have booked := run.booked
  have balanced := booked.balanced
  have same : noticed past session = session.recorded := run.pushed.symm
  refine ⟨?_, ?_, ?_, ?_, ?_, ?_⟩
  · rw [same]
    exact balanced.known
  · rw [same]
    exact balanced.once
  · rw [same]
    exact fun entry listed => terminal_iff_left booked listed
  · rw [same]
    exact balanced.withdrawn
  · rw [same]
    exact balanced.reported
  · intro idle entry listed kept
    rw [Queue.isIdle] at idle
    simp only [Bool.and_eq_true, List.isEmpty_iff, Bool.not_eq_true'] at idle
    obtain ⟨⟨⟨_, unqueued⟩, empty⟩, quiet⟩ := idle
    have away : entry ∉ session.queue.entries := by
      rw [unqueued]
      exact List.not_mem_nil
    obtain ⟨notice, among, terminal, about⟩ :=
      (terminal_iff_left booked listed).mpr ⟨away, kept⟩
    have delivered {notice : Notice} (among : notice ∈ session.recorded) :
        Delivered past.deeds notice :=
      delivered_of_idle run quiet empty (same ▸ among)
    exact ⟨delivered (added_of_enqueued booked listed), notice, terminal, about, delivered among⟩

/-! ## Requests of one name, and a transfer that cancels itself -/

/-- Two requests of one name, of which the first is cancelled and the second has its result. -/
theorem lifecycle_same_name :
    let queued := repeatedly step? 40
      ((Session.new () : Session (callers true)).begin (queueAll true ["same", "same"]))
    let cancelled := repeatedly step? 40 (queued.begin (cancelOne true "same"))
    let posted := cancelled.arrive 2 [.finish none]
    let past := visited 40 ((Session.new ()).begin (queueAll true ["same", "same"])) ++
      visited 40 (queued.begin (cancelOne true "same")) ++ visited 40 posted
    noticed past (repeatedly step? 40 posted) =
        [.added ⟨0, bytesOf "same"⟩, .added ⟨1, bytesOf "same"⟩,
          .error ⟨0, bytesOf "same"⟩ none, .complete ⟨1, bytesOf "same"⟩] ∧
      Lifecycle past (repeatedly step? 40 posted) := by
  have start : Run (.new () : Session (callers true)) [] (.new ()) := .refl
  have queued := start.play rfl (queueAll true ["same", "same"]) 40
  have cancelled := queued.play rfl (cancelOne true "same") 40
  exact ⟨rfl, lifecycle ((cancelled.input (.arrive _ 2 [.finish none])).repeatedly 40)⟩

/-- A transfer that cancels its own request and then comes to its result is not told to have. -/
theorem result_of_cancelled_untold :
    ¬∀ (users : Users) (state : users.State) (past : History users) (session : Session users),
      Run (.new state) past session → ∀ entry,
        .complete entry ∈ noticed past session ↔ (entry, none) ∈ session.results := by
  intro claim
  have start : Run (.new () : Session (callers true)) [] (.new ()) := .refl
  have waiting := start.play rfl (queueAll true ["only"]) 40
  have finished := (waiting.input (.arrive _ 1 [.cancel "only", .finish none])).repeatedly 40
  have told := (claim _ _ _ _ finished ⟨0, bytesOf "only"⟩).mpr (by decide)
  exact absurd told (by decide)

end Session

end Sailplane.Download
