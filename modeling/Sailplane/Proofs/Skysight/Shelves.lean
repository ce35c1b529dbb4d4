import Sailplane.Proofs.Download.Brought
import Sailplane.Proofs.Download.Slots
import Sailplane.Proofs.Download.Surroundings
import Sailplane.Proofs.Skysight.Desk

/-!
# Slots of awaited requests

As long as a document is awaited its slot is its own: no other request brings anything to it, and it
holds what its request has brought last.
-/
namespace Sailplane.Download

/-- What is brought goes to a slot of the request. -/
theorem Request.mem_slots_of_slotFor {request : Request} {content : Content} {slot : Slot}
    (place : request.slotFor content = some slot) : slot ∈ request.slots := by
  rw [Request.slots]
  cases content with
  | digest bytes =>
    exact List.mem_append_right _ (Option.mem_toList.mpr place)
  | document value | bytes bytes =>
    refine List.mem_append_left _ ?_
    cases destination : request.destination with
    | _ => simp_all [Request.slotFor]

/-- A request for a document that brings nothing else has one slot. -/
theorem Request.slots_of_json {request : Request} {slot : Slot}
    (place : request.destination = .json slot) (alone : request.data.digest = none) :
    request.slots = [slot] := by
  rw [Request.slots, place, alone]
  rfl

end Sailplane.Download

namespace Sailplane.Skysight

open Download (Slot Slots Content Entry Request Transfer Signal Session)

variable {json : String → Bool} {requests waiting : List Entry} {slots : Slots Content}
  {brought : Entry → Option Json}

/-- Whether every document that is awaited has its own slot, which holds what was brought. -/
structure Shelved (json : String → Bool) (requests waiting : List Entry) (slots : Slots Content)
    (brought : Entry → Option Json) : Prop where
  /-- What is awaited was requested. -/
  asked : ∀ entry ∈ waiting, entry ∈ requests ∧ json entry.name = true
  /-- The requests for documents have a slot for it and no other. -/
  placed : ∀ entry ∈ requests, json entry.name = true →
    ∃ slot, entry.request.destination = .json slot ∧ entry.request.data.digest = none
  /-- No other request brings anything to the slot of an awaited document. -/
  apart : ∀ entry ∈ waiting, ∀ other ∈ requests, other ≠ entry →
    ∀ slot ∈ entry.request.slots, slot ∉ other.request.slots
  /-- The slot of an awaited document holds what was brought. -/
  filled : ∀ entry ∈ waiting, ∀ slot ∈ entry.request.slots,
    slots.get slot = (brought entry).map .document

namespace Shelved

/-- The slot of an awaited document. -/
theorem slot (shelved : Shelved json requests waiting slots brought) {entry : Entry}
    (listed : entry ∈ waiting) : ∃ slot, entry.request.destination = .json slot ∧
      entry.request.slots = [slot] ∧ slots.get slot = (brought entry).map .document := by
  obtain ⟨there, own⟩ := shelved.asked entry listed
  obtain ⟨slot, place, alone⟩ := shelved.placed entry there own
  have only := Request.slots_of_json place alone
  refine ⟨slot, place, only, shelved.filled entry listed slot ?_⟩
  rw [only]
  exact List.mem_singleton_self slot

/-- Documents that are awaited go to different places. -/
theorem distinct (shelved : Shelved json requests waiting slots brought) (once : waiting.Nodup) :
    (waiting.map fun entry => entry.request.destination).Nodup := by
  refine once.map_on fun first listed second among same => ?_
  by_contra different
  obtain ⟨slot, place, only, _⟩ := shelved.slot listed
  obtain ⟨other, there, also, _⟩ := shelved.slot among
  rw [place, there] at same
  have asked := (shelved.asked second among).1
  refine shelved.apart first listed second asked (Ne.symm different) slot ?_ ?_
  · rw [only]
    exact List.mem_singleton_self slot
  · rw [also, Download.Destination.json.inj same]
    exact List.mem_singleton_self other

/-- Fewer documents are awaited. -/
theorem fewer (shelved : Shelved json requests waiting slots brought) {others : List Entry}
    (less : ∀ entry ∈ others, entry ∈ waiting) : Shelved json requests others slots brought where
  asked := fun entry listed => shelved.asked entry (less entry listed)
  placed := shelved.placed
  apart := fun entry listed => shelved.apart entry (less entry listed)
  filled := fun entry listed => shelved.filled entry (less entry listed)

/-- The slots of awaited documents hold what they held. -/
theorem same (shelved : Shelved json requests waiting slots brought) {others : Slots Content}
    (kept : ∀ entry ∈ waiting, ∀ slot ∈ entry.request.slots, others.get slot = slots.get slot) :
    Shelved json requests waiting others brought :=
  { shelved with
    filled := fun entry listed slot used =>
      (kept entry listed slot used).trans (shelved.filled entry listed slot used) }

/-- A document is requested whose slot is new. -/
theorem queue (shelved : Shelved json requests waiting slots brought) {entry : Entry} {slot : Slot}
    (own : json entry.name = true) (place : entry.request.destination = .json slot)
    (alone : entry.request.data.digest = none) (empty : slots.get slot = none)
    (nothing : brought entry = none)
    (fresh : ∀ other ∈ requests, ∀ used ∈ other.request.slots, used.number < slot.number) :
    Shelved json (requests ++ [entry]) (waiting ++ [entry]) slots brought := by
  have only := Request.slots_of_json place alone
  have unused : ∀ other ∈ requests, slot ∉ other.request.slots := fun other listed used =>
    Nat.lt_irrefl _ (fresh other listed slot used)
  refine ⟨?_, ?_, ?_, ?_⟩
  · intro other listed
    rcases List.mem_append.mp listed with before | last
    · exact (shelved.asked other before).imp_left (List.mem_append_left _)
    · rw [List.mem_singleton.mp last]
      exact ⟨List.mem_append_right _ (List.mem_singleton_self _), own⟩
  · intro other listed named
    rcases List.mem_append.mp listed with before | last
    · exact shelved.placed other before named
    · rw [List.mem_singleton.mp last]
      exact ⟨slot, place, alone⟩
  · intro first listed second among different used uses
    rcases List.mem_append.mp listed with before | last
    · rcases List.mem_append.mp among with old | new
      · exact shelved.apart first before second old different used uses
      · rw [List.mem_singleton.mp new, only, List.mem_singleton]
        rintro rfl
        exact unused first (shelved.asked first before).1 uses
    · rw [List.mem_singleton.mp last] at uses different
      rw [only, List.mem_singleton] at uses
      subst uses
      rcases List.mem_append.mp among with old | new
      · exact unused second old
      · exact absurd (List.mem_singleton.mp new) different
  · intro other listed used uses
    rcases List.mem_append.mp listed with before | last
    · exact shelved.filled other before used uses
    · rw [List.mem_singleton.mp last] at uses ⊢
      rw [only, List.mem_singleton] at uses
      rw [uses, empty, nothing]
      rfl

/-- Something else is requested that brings nothing to the slots of awaited documents. -/
theorem queueOther (shelved : Shelved json requests waiting slots brought) {entry : Entry}
    (other : json entry.name = false)
    (unused : ∀ waits ∈ waiting, ∀ slot ∈ waits.request.slots, slot ∉ entry.request.slots) :
    Shelved json (requests ++ [entry]) waiting slots brought := by
  refine ⟨?_, ?_, ?_, shelved.filled⟩
  · exact fun waits listed => (shelved.asked waits listed).imp_left (List.mem_append_left _)
  · intro asked listed own
    rcases List.mem_append.mp listed with before | last
    · exact shelved.placed asked before own
    · rw [List.mem_singleton.mp last, other] at own
      exact absurd own Bool.false_ne_true
  · intro waits listed second among different slot uses
    rcases List.mem_append.mp among with old | new
    · exact shelved.apart waits listed second old different slot uses
    · rw [List.mem_singleton.mp new]
      exact unused waits listed slot uses

/-- A request brings something to one of its slots. -/
theorem bring (shelved : Shelved json requests waiting slots brought) {entry : Entry}
    (asked : entry ∈ requests) {content : Content} {slot : Slot}
    (place : entry.request.slotFor content = some slot)
    (handed : slot.number < slots.contents.length) {after : Entry → Option Json}
    (others : ∀ other, other ≠ entry → after other = brought other)
    (mine : ∀ document, content = .document document → after entry = some document) :
    Shelved json requests waiting (slots.put slot content) after := by
  refine { shelved with filled := ?_ }
  intro waits listed used uses
  -- What is brought goes to the request's own slot, which no other awaited one shares.
  by_cases same : waits = entry
  · subst same
    obtain ⟨own, there, only, _⟩ := shelved.slot listed
    obtain ⟨_, _, alone⟩ := shelved.placed waits asked (shelved.asked waits listed).2
    cases content with
    | digest bytes =>
      have place : waits.request.data.digest = some slot := place
      rw [alone] at place
      exact absurd place (by simp)
    | bytes bytes => exact absurd place (by simp [Request.slotFor, there])
    | document document =>
      have place : slot = own := by simpa [Request.slotFor, there, eq_comm] using place
      rw [only, List.mem_singleton] at uses
      rw [uses, ← place, Slots.get_put _ _ handed, mine document rfl]
      rfl
  · have different : used ≠ slot := by
      rintro rfl
      exact shelved.apart waits listed entry asked (fun equal => same equal.symm) used uses
        (Request.mem_slots_of_slotFor place)
    rw [Slots.get_put_of_ne _ _ different, others waits same]
    exact shelved.filled waits listed used uses

/-- A transfer follows a signal. -/
theorem follow (shelved : Shelved json requests waiting slots brought) {transfer : Transfer}
    {signal : Signal} (asked : transfer.entry ∈ requests)
    (handed : ∀ slot ∈ transfer.entry.request.slots, slot.number < slots.contents.length)
    {after : Entry → Option Json}
    (brings : ∀ entry, after entry =
      (if transfer.entry = entry then signal.document? else none).or (brought entry)) :
    Shelved json requests waiting (Session.fillWith slots (Session.filling? transfer signal))
      after := by
  have others (other : Entry) (different : other ≠ transfer.entry) :
      after other = brought other := by
    rw [brings, if_neg fun same => different same.symm]
    rfl
  cases signal with
  | fill content =>
    have mine (document : Json) (is : content = .document document) :
        after transfer.entry = some document := by
      rw [brings, if_pos rfl, is]
      rfl
    cases place : transfer.entry.request.slotFor content with
    | some slot =>
      rw [Session.filling?, place]
      exact shelved.bring asked place (handed slot (Request.mem_slots_of_slotFor place)) others mine
    | none =>
      rw [Session.filling?, place]
      -- A content without a place is no document, since every awaited one has a place.
      refine { shelved with filled := fun waits listed slot uses => ?_ }
      have same : after waits = brought waits := by
        by_cases equal : waits = transfer.entry
        · obtain ⟨own, there, _⟩ := shelved.slot listed
          rw [brings]
          cases content with
          | document document =>
            rw [← equal] at place
            exact absurd place (by simp [Request.slotFor, there])
          | bytes | digest => exact congrArg (Option.or · _) (ite_self none)
        · exact others waits equal
      rw [same]
      exact shelved.filled waits listed slot uses
  | size | position | cancel | finish =>
    have same : after = brought := by
      funext entry
      rw [brings]
      exact congrArg (Option.or · _) (ite_self none)
    rw [same]
    exact shelved

end Shelved

end Sailplane.Skysight
