import Sailplane.Download.Slot

/-!
# What slots hold

Handing out a slot, putting something into one and emptying one leave what the others hold.
-/
namespace Sailplane.Download.Slots

variable {α : Type}

/-- A new slot is empty, and the others hold what they held. -/
@[simp] theorem get_fresh (slots : Slots α) (slot : Slot) :
    slots.fresh.2.get slot = slots.get slot := by
  rw [get, get]
  change ((slots.contents ++ [none])[slot.number]?).join = _
  rcases Nat.lt_trichotomy slot.number slots.contents.length with old | new | none
  · rw [List.getElem?_append_left old]
  · rw [new, List.getElem?_concat_length, List.getElem?_eq_none (Nat.le_refl _)]
    rfl
  · have beyond : (slots.contents ++ [Option.none]).length ≤ slot.number := by
      rw [List.length_append]
      exact none
    rw [List.getElem?_eq_none beyond, List.getElem?_eq_none (Nat.le_of_lt none)]

/-- To empty a slot leaves what the others hold. -/
theorem get_take_of_ne (slots : Slots α) {slot other : Slot} (different : other ≠ slot) :
    (slots.take slot).2.get other = slots.get other := by
  have apart : slot.number ≠ other.number := fun same =>
    different (congrArg Slot.mk same.symm)
  rw [get, get, take, List.getElem?_set_ne apart]

/-- To empty a slot that is empty leaves what all hold. -/
theorem get_take_of_none (slots : Slots α) {slot : Slot} (empty : slots.get slot = none)
    (other : Slot) : (slots.take slot).2.get other = slots.get other := by
  by_cases same : other = slot
  · rw [same, empty, get, take]
    by_cases handed : slot.number < slots.contents.length
    · rw [List.getElem?_set_self handed]
      rfl
    · rw [List.getElem?_eq_none]
      · rfl
      · rw [List.length_set]
        exact Nat.not_lt.mp handed
  · exact get_take_of_ne slots same

/-- A slot holds what was put into it. -/
theorem get_put (slots : Slots α) {slot : Slot} (value : α)
    (handed : slot.number < slots.contents.length) :
    (slots.put slot value).get slot = some value := by
  rw [get, put, List.getElem?_set_self handed]
  rfl

/-- To put something into a slot leaves what the others hold. -/
theorem get_put_of_ne (slots : Slots α) {slot other : Slot} (value : α)
    (different : other ≠ slot) : (slots.put slot value).get other = slots.get other := by
  have apart : slot.number ≠ other.number := fun same =>
    different (congrArg Slot.mk same.symm)
  rw [get, get, put, List.getElem?_set_ne apart]

end Sailplane.Download.Slots
