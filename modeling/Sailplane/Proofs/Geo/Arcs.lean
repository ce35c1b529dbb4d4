import Mathlib
import Sailplane.Proofs.Geo.Bearings

/-!
# Clockwise arcs

Bearings that differ by whole turns are one direction, a point of the circle of 360 degrees. A
bearing lies on the clockwise arc between two radials exactly if the three directions follow each
other in the order of that circle. What is said here of two arcs with the same ends is therefore
what holds in every circular order.
-/
namespace Sailplane.Bearing

/-- The circle of directions has a positive length. -/
instance instFactTurn : Fact ((0 : ℚ) < 360) := ⟨turn_pos⟩

variable {bearing start finish : ℚ}

/-! ## The order of the circle -/

/-- Bearings are one direction exactly if they differ by whole turns. -/
theorem direction_eq_iff {left right : ℚ} :
    (left : AddCircle (360 : ℚ)) = right ↔ left ≡ right [PMOD 360] :=
  AddCommGroup.modEq_iff_eq_mod_zmultiples.symm

/-- Nothing is left of a bearing exactly if it is a number of whole turns. -/
theorem normalize_eq_zero_iff {degrees : ℚ} : normalize degrees = 0 ↔ degrees ≡ 0 [PMOD 360] := by
  have north : normalize (0 : ℚ) = 0 := normalize_of_lt le_rfl turn_pos
  rw [← normalize_inj, north]

/-- The residue that counts a full circle as a whole turn. -/
theorem toIocMod_turn (degrees : ℚ) :
    toIocMod turn_pos 0 degrees = if normalize degrees = 0 then 360 else normalize degrees := by
  by_cases whole : normalize degrees = 0
  · have leads := normalize_eq_zero_iff.mp whole
    rw [if_pos whole, (AddCommGroup.modEq_iff_toIocMod_eq_right turn_pos).mp leads.symm, zero_add]
  · have apart : ¬ 0 ≡ degrees [PMOD 360] := fun leads =>
      whole (normalize_eq_zero_iff.mpr leads.symm)
    rw [if_neg whole, normalize_eq]
    exact ((AddCommGroup.not_modEq_iff_toIcoMod_eq_toIocMod turn_pos).mp apart).symm

/-- **A bearing is on an arc exactly if its direction lies between those of the ends**, in the order
of the circle. -/
theorem within_iff_btw : within bearing start finish = true ↔
    btw (start : AddCircle (360 : ℚ)) bearing finish := by
  rw [within_iff, QuotientAddGroup.btw_coe_iff', ← normalize_eq, toIocMod_turn]
  by_cases full : normalize (finish - start) = 0
  · rw [if_pos full]
    exact iff_of_true (.inl full) (normalize_lt _).le
  · rw [if_neg full]
    exact or_iff_right full

/-- Whether a bearing is on an arc depends on directions only. -/
theorem within_congr {bearing' start' finish' : ℚ} (aimed : bearing' ≡ bearing [PMOD 360])
    (begins : start' ≡ start [PMOD 360]) (ends : finish' ≡ finish [PMOD 360]) :
    within bearing' start' finish' = within bearing start finish := by
  rw [Bool.eq_iff_iff, within_iff_btw, within_iff_btw, direction_eq_iff.mpr aimed,
    direction_eq_iff.mpr begins, direction_eq_iff.mpr ends]

/-- What lies on an arc still does when all is turned alike. -/
theorem within_add (bearing start finish turn : ℚ) :
    within (bearing + turn) (start + turn) (finish + turn) = within bearing start finish := by
  rw [Bool.eq_iff_iff, within_iff, within_iff, add_sub_add_right_eq_sub, add_sub_add_right_eq_sub]

/-- Radials in one direction bound the full circle. -/
theorem within_of_modEq (same : start ≡ finish [PMOD 360]) : within bearing start finish = true := by
  rw [within_iff_btw, direction_eq_iff.mpr same]
  exact btw_refl_left_right _ _

/-- Of two arcs with the same ends, a bearing is on one at least. -/
theorem within_or_within (bearing start finish : ℚ) :
    within bearing start finish = true ∨ within bearing finish start = true := by
  rw [within_iff_btw, within_iff_btw]
  exact btw_total _ _ _

/-- The first radial of an arc is on it. -/
theorem within_start (aimed : bearing ≡ start [PMOD 360]) : within bearing start finish = true := by
  rw [within_iff_btw, direction_eq_iff.mpr aimed]
  exact btw_refl_left _ _

/-- The last radial of an arc is on it. -/
theorem within_finish (aimed : bearing ≡ finish [PMOD 360]) :
    within bearing start finish = true := by
  rw [within_iff_btw, direction_eq_iff.mpr aimed]
  exact btw_refl_right _ _

/-- Two arcs between radials in different directions share their radials only. -/
theorem within_and_within (apart : ¬ start ≡ finish [PMOD 360]) :
    within bearing start finish = true ∧ within bearing finish start = true ↔
      bearing ≡ start [PMOD 360] ∨ bearing ≡ finish [PMOD 360] := by
  constructor
  · rintro ⟨onward, back⟩
    have sides := (within_iff_btw.mp onward).antisymm (within_iff_btw.mp back)
    rw [direction_eq_iff, direction_eq_iff, direction_eq_iff] at sides
    obtain first | last | same := sides
    · exact .inl first.symm
    · exact .inr last
    · exact absurd same.symm apart
  · rintro (first | last)
    · exact ⟨within_start first, within_finish first⟩
    · exact ⟨within_finish last, within_start last⟩

/-- A turn to the right leads to a bearing on an arc exactly if the arc goes on as far. -/
theorem within_iff_le {turn span : ℚ} (aimed : bearing - start ≡ turn [PMOD 360])
    (ends : finish - start ≡ span [PMOD 360]) (nonneg : 0 ≤ turn) (below : turn < 360)
    (positive : 0 < span) (most : span < 360) :
    within bearing start finish = true ↔ turn ≤ span := by
  rw [within_iff, normalize_inj.mpr aimed, normalize_inj.mpr ends,
    normalize_of_lt nonneg below, normalize_of_lt positive.le most]
  exact or_iff_right positive.ne'

/-! ## Angles -/

/-- The angle between two bearings depends on their directions only. -/
theorem difference_congr {left right left' right' : ℚ} (leftward : left' ≡ left [PMOD 360])
    (rightward : right' ≡ right [PMOD 360]) : difference left' right' = difference left right := by
  rw [difference_eq_min, difference_eq_min, normalize_inj.mpr (leftward.sub rightward)]

/-- The angle between two bearings is kept when both are turned alike. -/
theorem difference_add (left right turn : ℚ) :
    difference (left + turn) (right + turn) = difference left right := by
  rw [difference_eq_min, difference_eq_min, add_sub_add_right_eq_sub]

/-- No angle between bearings is negative. -/
theorem difference_nonneg (left right : ℚ) : 0 ≤ difference left right := by
  rw [difference_eq_abs_turn]
  exact abs_nonneg _

/-- There is no angle between bearings exactly if they are one direction. -/
theorem difference_eq_zero_iff {left right : ℚ} :
    difference left right = 0 ↔ left ≡ right [PMOD 360] := by
  have leads := turn_modEq right left
  rw [difference_eq_abs_turn, abs_eq_zero]
  constructor
  · intro zero
    rw [zero] at leads
    exact AddCommGroup.sub_modEq_zero.mp leads
  · intro same
    exact turn_eq_of_modEq (AddCommGroup.sub_modEq_zero.mpr same) (by norm_num) (by norm_num)

/-- On the arc about a direction lies what is no farther from it than half of the angle that the arc
opens by. -/
theorem within_about_iff {direction angle : ℚ} (positive : 0 < angle) (most : angle ≤ 360) :
    within bearing (normalize (direction - angle / 2)) (normalize (direction + angle / 2)) = true ↔
      difference bearing direction ≤ angle / 2 := by
  rw [within_congr AddCommGroup.modEq_rfl (normalize_modEq _) (normalize_modEq _)]
  have opens : direction + angle / 2 - (direction - angle / 2) = angle := by ring
  by_cases round : angle = 360
  · subst round
    have full := AddCommGroup.modEq_sub (direction - 360 / 2) (direction + 360 / 2)
    rw [opens] at full
    apply iff_of_true (within_of_modEq full)
    exact (difference_le_half bearing direction).trans (by norm_num)
  · have narrow : angle < 360 := lt_of_le_of_ne most round
    have ends : direction + angle / 2 - (direction - angle / 2) ≡ angle [PMOD 360] := by rw [opens]
    have left := neg_half_lt_turn direction bearing
    have right := turn_le_half direction bearing
    -- Seen from the start of the arc, the turn from its direction begins half the angle later.
    have leads : bearing - (direction - angle / 2) ≡
        turn direction bearing + angle / 2 [PMOD 360] := by
      have whole : bearing - direction + angle / 2 = bearing - (direction - angle / 2) := by ring
      rw [← whole]
      exact (turn_modEq direction bearing).add_right (angle / 2)
    rw [difference_eq_abs_turn, abs_le]
    by_cases behind : turn direction bearing + angle / 2 < 0
    · -- It ends before the arc begins, which is to go round nearly all of the circle.
      have onward : bearing - (direction - angle / 2) ≡
          turn direction bearing + angle / 2 + 360 [PMOD 360] :=
        leads.trans (add_turn_modEq _).symm
      rw [within_iff_le onward ends (by linarith) (by linarith) positive narrow]
      constructor
      · intro within
        linarith
      · rintro ⟨above, -⟩
        linarith
    · rw [within_iff_le leads ends (not_lt.mp behind) (by linarith) positive narrow]
      constructor
      · intro within
        constructor <;> linarith
      · rintro ⟨-, below⟩
        linarith

/-! ## Partition -/

/-- How a bearing lies to the two arcs between two radials. -/
structure Parted (bearing start finish : ℚ) : Prop where
  /-- Whole turns of any of the three make no difference. -/
  whole : ∀ turns turns' turns'' : ℤ,
    within (bearing + turns * 360) (start + turns' * 360) (finish + turns'' * 360) =
      within bearing start finish
  /-- Nor does it make a difference to turn all of them alike. -/
  turned : ∀ turn : ℚ,
    within (bearing + turn) (start + turn) (finish + turn) = within bearing start finish
  /-- The bearing is on one of the arcs. -/
  covered : within bearing start finish = true ∨ within bearing finish start = true
  /-- Between radials in different directions, it is on both arcs exactly in the direction of one of
  the radials. -/
  shared : ¬ start ≡ finish [PMOD 360] →
    (within bearing start finish = true ∧ within bearing finish start = true ↔
      bearing ≡ start [PMOD 360] ∨ bearing ≡ finish [PMOD 360])
  /-- Radials in one direction bound the full circle. -/
  full : start ≡ finish [PMOD 360] → within bearing start finish = true
  /-- An arc runs clockwise: of what is reached from its start by turns to the right, that is on it
  which is reached no later than its end. -/
  clockwise : ∀ turn span : ℚ, bearing ≡ start + turn [PMOD 360] →
    finish ≡ start + span [PMOD 360] → 0 ≤ turn → turn < 360 → 0 < span → span < 360 →
      (within bearing start finish = true ↔ turn ≤ span)

/-- How wide the angle between two bearings is. -/
structure Spread (left right : ℚ) : Prop where
  /-- It is the same from either side. -/
  comm : difference left right = difference right left
  /-- It is not negative. -/
  nonneg : 0 ≤ difference left right
  /-- It is half a turn at most. -/
  most : difference left right ≤ 180
  /-- Whole turns of either bearing make no difference. -/
  whole : ∀ turns turns' : ℤ,
    difference (left + turns * 360) (right + turns' * 360) = difference left right
  /-- Nor does it make a difference to turn both alike. -/
  turned : ∀ turn : ℚ, difference (left + turn) (right + turn) = difference left right
  /-- There is none exactly between bearings in one direction. -/
  aligned : difference left right = 0 ↔ left ≡ right [PMOD 360]
  /-- It is as wide as any turn from one to the other that is not more than half a turn. -/
  wide : ∀ turn : ℚ, left ≡ right + turn [PMOD 360] → |turn| ≤ 180 → difference left right = |turn|

/-- Every bearing lies so to any two radials. -/
theorem parted (bearing start finish : ℚ) : Parted bearing start finish where
  whole := fun _ _ _ =>
    within_congr (add_turns_modEq _ _) (add_turns_modEq _ _) (add_turns_modEq _ _)
  turned := within_add bearing start finish
  covered := within_or_within bearing start finish
  shared := within_and_within
  full := within_of_modEq
  clockwise := fun _ _ aimed ends => within_iff_le
    (AddCommGroup.sub_modEq_iff_modEq_add'.mpr aimed)
    (AddCommGroup.sub_modEq_iff_modEq_add'.mpr ends)

/-- The angle between any two bearings is as wide as that. -/
theorem spread (left right : ℚ) : Spread left right where
  comm := difference_comm left right
  nonneg := difference_nonneg left right
  most := difference_le_half left right
  whole := fun _ _ => difference_congr (add_turns_modEq _ _) (add_turns_modEq _ _)
  turned := difference_add left right
  aligned := difference_eq_zero_iff
  wide := fun _ leads => difference_eq_abs (AddCommGroup.sub_modEq_iff_modEq_add'.mpr leads)

/-- **Clockwise arcs part the circle**: two radials in different directions bound two arcs, which
cover it and share nothing but the radials. The angle between two bearings is the shorter way round
from one to the other. Nothing depends on how often the bearings go round. -/
theorem parts_circle (bearing start finish : ℚ) :
    Parted bearing start finish ∧ Spread start finish :=
  ⟨parted bearing start finish, spread start finish⟩

/-- North is on the arc from northwest to northeast, and not on the arc back. -/
theorem parts_circle_across_north : ¬ (315 : ℚ) ≡ 45 [PMOD 360] ∧
    within (0 : ℚ) 315 45 = true ∧ ¬ within (0 : ℚ) 45 315 = true := by
  have ⟨parted, _⟩ := parts_circle 0 315 45
  have apart : ¬ (315 : ℚ) ≡ 45 [PMOD 360] := by
    rw [← normalize_inj]
    decide +kernel
  have onward : within (0 : ℚ) 315 45 = true := by
    apply (parted.clockwise 45 90 _ _ _ _ _ _).mpr
    · norm_num
    · exact modEq_iff_turns.mpr ⟨-1, by norm_num⟩
    · exact modEq_iff_turns.mpr ⟨-1, by norm_num⟩
    all_goals norm_num
  refine ⟨apart, onward, fun back => ?_⟩
  obtain first | last := (parted.shared apart).mp ⟨onward, back⟩
  · rw [← normalize_inj] at first
    exact absurd first (by decide +kernel)
  · rw [← normalize_inj] at last
    exact absurd last (by decide +kernel)

end Sailplane.Bearing
