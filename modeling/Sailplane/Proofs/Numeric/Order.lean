import Mathlib
import Sailplane.Numeric.Binary64

/-!
# The order of doubles

Doubles are compared by their signs, then by their exponents, then by their significands, so those
that are numbers stand in a line, on which both zeros have one place. What is no number compares
with nothing. So the order is transitive for all doubles, and total for those that are numbers.
-/
open Float.Model (UnpackedFloat)

namespace Sailplane.Binary64

/-- The place of a value on the line of doubles. What is no number is given the place of zero, but
compares with nothing. -/
def rank : UnpackedFloat → Int ×ₗ Int ×ₗ Int
  | .infinity .negative => toLex (-2, toLex (0, 0))
  | .finite .negative mantissa exponent _ => toLex (-1, toLex (-exponent, -(mantissa : Int)))
  | .zero _ => toLex (0, toLex (0, 0))
  | .notANumber => toLex (0, toLex (0, 0))
  | .finite .positive mantissa exponent _ => toLex (1, toLex (exponent, (mantissa : Int)))
  | .infinity .positive => toLex (2, toLex (0, 0))

/-! ## Comparing -/

/-- Pairs are compared by their first parts, and if these are the same by the second ones. -/
theorem compare_toLex {α β : Type} [LinearOrder α] [LinearOrder β] (first first' : α)
    (second second' : β) : compare (toLex (first, second)) (toLex (first', second')) =
      (compare first first').then (compare second second') := by
  rw [Prod.Lex.compare_def]
  rfl

/-- Opposite numbers compare the other way. -/
theorem compare_neg (left right : Int) :
    compare (-left) (-right) = (compare left right).swap := by
  rw [Int.compare_swap]
  rcases lt_trichotomy left right with less | same | greater
  · rw [compare_gt_iff_gt.mpr less, compare_gt_iff_gt.mpr (neg_lt_neg less)]
  · rw [same, compare_eq_iff_eq.mpr rfl, compare_eq_iff_eq.mpr rfl]
  · rw [compare_lt_iff_lt.mpr greater, compare_lt_iff_lt.mpr (neg_lt_neg greater)]

/-- Naturals compare as integers do. -/
theorem compare_natCast (left right : Nat) :
    compare (left : Int) (right : Int) = compare left right := by
  rcases lt_trichotomy left right with less | same | greater
  · rw [compare_lt_iff_lt.mpr less, compare_lt_iff_lt.mpr (Int.ofNat_lt.mpr less)]
  · rw [same, compare_eq_iff_eq.mpr rfl, compare_eq_iff_eq.mpr rfl]
  · rw [compare_gt_iff_gt.mpr greater, compare_gt_iff_gt.mpr (Int.ofNat_lt.mpr greater)]

/-- Finite values compare by their places. -/
theorem compare_finite (sign sign' : UnpackedFloat.Sign) {mantissa mantissa' : Nat}
    {exponent exponent' : Int} (positive : 0 < mantissa) (positive' : 0 < mantissa') :
    (UnpackedFloat.finite sign mantissa exponent positive).compare
        (.finite sign' mantissa' exponent' positive') =
      some (compare (rank (.finite sign mantissa exponent positive))
        (rank (.finite sign' mantissa' exponent' positive'))) := by
  cases sign with
  | negative =>
    cases sign' with
    | negative =>
      simp only [rank, compare_toLex, compare_neg, compare_natCast, ← Ordering.swap_then]
      rfl
    | positive =>
      simp only [rank, compare_toLex]
      rfl
  | positive =>
    cases sign' with
    | negative =>
      simp only [rank, compare_toLex]
      rfl
    | positive =>
      simp only [rank, compare_toLex, compare_natCast]
      rfl

/-- Values that are numbers compare by their places. -/
theorem compare_eq_rank {left right : UnpackedFloat} (defined : left.isNaN = false)
    (defined' : right.isNaN = false) :
    left.compare right = some (compare (rank left) (rank right)) := by
  cases left with
  | notANumber => exact Bool.noConfusion defined
  | infinity sign =>
    cases right with
    | notANumber => exact Bool.noConfusion defined'
    | infinity sign' => cases sign <;> cases sign' <;> rfl
    | zero sign' => cases sign <;> rfl
    | finite sign' mantissa exponent positive =>
      cases sign <;> cases sign' <;> (simp only [rank, compare_toLex]; rfl)
  | zero sign =>
    cases right with
    | notANumber => exact Bool.noConfusion defined'
    | infinity sign' => cases sign' <;> rfl
    | zero sign' => rfl
    | finite sign' mantissa exponent positive =>
      cases sign' <;> (simp only [rank, compare_toLex]; rfl)
  | finite sign mantissa exponent positive =>
    cases right with
    | notANumber => exact Bool.noConfusion defined'
    | infinity sign' => cases sign <;> cases sign' <;> (simp only [rank, compare_toLex]; rfl)
    | zero sign' => cases sign <;> (simp only [rank, compare_toLex]; rfl)
    | finite sign' mantissa' exponent' positive' => exact compare_finite sign sign' _ _

/-! ## The order -/

/-- The place of a double on the line. -/
def place (value : Float) : Int ×ₗ Int ×ₗ Int := rank value.toModel.unpack

section

variable {left right other : Float}

/-- Two doubles compare by their places if both are numbers, and else not at all. -/
theorem compare_place (left right : Float) :
    left.toModel.unpack.compare right.toModel.unpack =
      if left.isNaN = false ∧ right.isNaN = false then some (compare (place left) (place right))
      else none := by
  split
  · rename_i defined
    exact compare_eq_rank defined.1 defined.2
  · rename_i undefined
    change ¬ (left.toModel.unpack.isNaN = false ∧ right.toModel.unpack.isNaN = false) at undefined
    cases same : left.toModel.unpack with
    | notANumber => rfl
    | _ =>
      rw [same] at undefined
      cases same' : right.toModel.unpack with
      | notANumber => rfl
      | _ => exact absurd ⟨rfl, by rw [same']; rfl⟩ undefined

/-- Doubles are ordered by their places if both are numbers. -/
theorem le_iff : left ≤ right ↔
    left.isNaN = false ∧ right.isNaN = false ∧ place left ≤ place right := by
  have unfolded : left ≤ right ↔
      (left.toModel.unpack.compare right.toModel.unpack).any (·.isLE) = true :=
    decide_eq_true_iff
  rw [unfolded, compare_place, ← and_assoc]
  split
  · rename_i defined
    rw [and_iff_right defined]
    exact Ordering.isLE_iff_ne_gt.trans compare_le_iff_le
  · rename_i undefined
    exact ⟨fun none => Bool.noConfusion none, fun both => absurd both.1 undefined⟩

/-- Doubles are strictly ordered by their places if both are numbers. -/
theorem lt_iff : left < right ↔
    left.isNaN = false ∧ right.isNaN = false ∧ place left < place right := by
  have unfolded : left < right ↔
      (left.toModel.unpack.compare right.toModel.unpack == some .lt) = true :=
    decide_eq_true_iff
  rw [unfolded, compare_place, ← and_assoc]
  split
  · rename_i defined
    rw [and_iff_right defined, beq_iff_eq, Option.some.injEq]
    exact compare_lt_iff_lt
  · rename_i undefined
    exact ⟨fun none => Bool.noConfusion none, fun both => absurd both.1 undefined⟩

/-- The order of doubles is transitive. -/
theorem le_trans (first : left ≤ right) (second : right ≤ other) : left ≤ other := by
  obtain ⟨defined, -, below⟩ := le_iff.mp first
  obtain ⟨-, defined', above⟩ := le_iff.mp second
  exact le_iff.mpr ⟨defined, defined', below.trans above⟩

/-- A number is at most itself. -/
theorem le_refl (defined : left.isNaN = false) : left ≤ left :=
  le_iff.mpr ⟨defined, defined, le_rfl⟩

/-- What is less is at most. -/
theorem le_of_lt (less : left < right) : left ≤ right := by
  have ⟨defined, defined', below⟩ := lt_iff.mp less
  exact le_iff.mpr ⟨defined, defined', below.le⟩

/-- What is less than something is less than all that is at least that. -/
theorem lt_of_lt_of_le (first : left < right) (second : right ≤ other) : left < other := by
  have ⟨defined, _, below⟩ := lt_iff.mp first
  have ⟨_, defined', above⟩ := le_iff.mp second
  exact lt_iff.mpr ⟨defined, defined', below.trans_le above⟩

/-- What is at most something is not greater. -/
theorem not_lt_of_le (most : left ≤ right) : ¬ right < left := by
  intro less
  have below := (le_iff.mp most).2.2
  have above := (lt_iff.mp less).2.2
  exact absurd below above.not_ge

/-- Of two numbers one that is not at least the other is less than it. -/
theorem lt_of_not_le (defined : left.isNaN = false) (defined' : right.isNaN = false)
    (not : ¬ right ≤ left) : left < right :=
  lt_iff.mpr ⟨defined, defined', not_le.mp fun above => not (le_iff.mpr ⟨defined', defined, above⟩)⟩

/-- Of two numbers one that is not more than the other is at most it. -/
theorem le_of_not_lt (defined : left.isNaN = false) (defined' : right.isNaN = false)
    (not : ¬ right < left) : left ≤ right :=
  le_iff.mpr ⟨defined, defined', not_lt.mp fun above => not (lt_iff.mpr ⟨defined', defined, above⟩)⟩

end

end Sailplane.Binary64
