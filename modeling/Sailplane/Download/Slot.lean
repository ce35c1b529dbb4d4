/-!
# Result slots

A slot is a place for one result. It is known by its number, so a request and whoever waits for
its result share the same place. A slot that was never handed out is empty.
-/
namespace Sailplane.Download

/-- The number of a slot. -/
structure Slot where
  /-- Its number, counted from zero. -/
  number : Nat
  deriving Repr, DecidableEq

/-- The slots handed out so far and what they hold. -/
structure Slots (α : Type) where
  /-- What each slot holds. -/
  contents : List (Option α)
  deriving Repr

namespace Slots

variable {α : Type}

/-- No slot has been handed out. -/
def empty : Slots α := ⟨[]⟩

/-- Hand out a new slot, which is empty. -/
def fresh (slots : Slots α) : Slot × Slots α :=
  (⟨slots.contents.length⟩, ⟨slots.contents ++ [none]⟩)

/-- What a slot holds. -/
def get (slots : Slots α) (slot : Slot) : Option α := (slots.contents[slot.number]?).join

/-- Put a value into a slot in place of what it held. -/
def put (slots : Slots α) (slot : Slot) (value : α) : Slots α :=
  ⟨slots.contents.set slot.number (some value)⟩

/-- Take the value out of a slot. -/
def take (slots : Slots α) (slot : Slot) : Option α × Slots α :=
  (slots.get slot, ⟨slots.contents.set slot.number none⟩)

/-- Whether a slot holds a value. -/
def isFilled (slots : Slots α) (slot : Slot) : Bool := (slots.get slot).isSome

/-- A slot in words. -/
def describe (slots : Slots α) (slot : Slot) : String :=
  "ResultSlot \x7b filled: " ++ (if slots.isFilled slot then "true" else "false") ++ " \x7d"

end Slots

end Sailplane.Download
