import Sailplane.Download.Queue

/-!
# What changes of a queue come to

Every change of a queue puts the notices it records behind those that wait, and says which requests
are left.
-/
namespace Sailplane.Download

/-- What a change leaves of a queue, with the notices it records. -/
structure Yields (queue : Queue) (change : Change) (entries : List Entry) (issued : Nat)
    (notices : List Notice) : Prop where
  /-- The requests. -/
  entries : change.queue.entries = entries
  /-- How many tickets were given out. -/
  issued : change.queue.issued = issued
  /-- The notices recorded. -/
  recorded : change.recorded = notices
  /-- The notices that wait. -/
  outbox : change.queue.outbox = queue.outbox ++ notices

/-- Recording a notice changes nothing else of the requests and notices. -/
theorem yields_record (queue : Queue) (notice : Notice) (stopped : Option Nat) :
    Yields queue (queue.record notice stopped) queue.entries queue.issued [notice] := by
  obtain ⟨entries, active, serial, issued, outbox, delivering⟩ := queue
  cases active with
  | some running => exact ⟨rfl, rfl, rfl, rfl⟩
  | none =>
    cases entries with
    | nil => exact ⟨rfl, rfl, rfl, rfl⟩
    | cons entry rest => exact ⟨rfl, rfl, rfl, rfl⟩

/-- A request is queued behind the others, and it is recorded. -/
theorem yields_enqueue (queue : Queue) (request : Request) :
    Yields queue (queue.enqueue request) (queue.entries ++ [⟨queue.issued, request⟩])
      (queue.issued + 1) [.added ⟨queue.issued, request⟩] := by
  have recorded := yields_record
    { queue with
      entries := queue.entries ++ [⟨queue.issued, request⟩], issued := queue.issued + 1 }
    (.added ⟨queue.issued, request⟩) none
  exact ⟨recorded.entries, recorded.issued, recorded.recorded, recorded.outbox⟩

/-- To erase by a property the first entry has is to erase that entry. -/
theorem eraseP_of_find? {entries : List Entry} {which : Entry → Bool} {entry : Entry}
    (first : entries.find? which = some entry) : entries.eraseP which = entries.erase entry := by
  induction entries with
  | nil => exact absurd first (by simp)
  | cons head rest ih =>
    cases chosen : which head with
    | true =>
      rw [List.find?_cons_of_pos chosen, Option.some.injEq] at first
      rw [List.eraseP_cons_of_pos chosen, first, List.erase_cons_head]
    | false =>
      have skipped : ¬which head = true := by
        rw [chosen]
        exact Bool.false_ne_true
      have found := List.find?_some first
      rw [List.find?_cons_of_neg skipped] at first
      have different : ¬(head == entry) = true := by
        intro same
        rw [beq_iff_eq.mp same] at chosen
        rw [chosen] at found
        exact Bool.false_ne_true found
      rw [List.eraseP_cons_of_neg skipped, List.erase_cons_tail different, ih first]

/-- The request of a name is taken away, and that is recorded. -/
theorem yields_cancel {queue : Queue} {name : String} {entry : Entry} {change : Change}
    (first : (queue.entries.find? fun entry => entry.name == name) = some entry)
    (found : queue.cancel? name = some change) :
    Yields queue change (queue.entries.erase entry) queue.issued [.error entry none] := by
  have erased := eraseP_of_find? first
  rw [Queue.cancel?, first, Option.map_some, Option.some.injEq] at found
  subst found
  dsimp only
  split
  · have recorded := yields_record { queue with
      entries := queue.entries.eraseP fun entry => entry.name == name, active := none }
      (.error entry none) queue.active
    exact ⟨recorded.entries.trans erased, recorded.issued, recorded.recorded, recorded.outbox⟩
  · have recorded := yields_record { queue with
      entries := queue.entries.eraseP fun entry => entry.name == name } (.error entry none) none
    exact ⟨recorded.entries.trans erased, recorded.issued, recorded.recorded, recorded.outbox⟩

/-- The first request is taken away when its transfer has ended, and that is recorded. -/
theorem yields_complete {queue : Queue} {serial : Nat} {failure : Option Failure}
    {change : Change} (completed : queue.complete? serial failure = some change) :
    Yields queue change queue.entries.tail queue.issued
      (queue.entries.head?.toList.map fun entry => .ending entry failure) := by
  rw [Queue.complete?] at completed
  split at completed
  · split at completed
    · rename_i empty
      obtain rfl := Option.some.inj completed
      rw [empty]
      exact ⟨rfl, rfl, rfl, (List.append_nil _).symm⟩
    · rename_i entry rest queued
      obtain rfl := Option.some.inj completed
      have recorded := yields_record { queue with entries := rest, active := none }
        (.ending entry failure) none
      rw [queued]
      exact ⟨recorded.entries, recorded.issued, recorded.recorded, recorded.outbox⟩
  · exact absurd completed (by simp)

end Sailplane.Download
