import Mathlib
import Sailplane.Geo.Bearing

/-!
# Bearings in exact arithmetic

Over the rationals a bearing is a residue of whole turns. So what is computed of bearings depends
only on where they point, and the angle between two of them is the least turn that leads from one to
the other, in either direction.
-/
namespace Sailplane.Bearing

/-- A whole turn is positive. -/
theorem turn_pos : (0 : ℚ) < 360 := by norm_num

/-! ## Whole turns -/

/-- The remainder after whole turns is the residue from zero on. -/
theorem exactResidue_turn (degrees : ℚ) :
    exactResidue degrees 360 = toIcoMod turn_pos 0 degrees := by
  have whole := self_sub_toIcoDiv_zsmul turn_pos 0 degrees
  have quotient : toIcoDiv turn_pos 0 degrees = ⌊degrees / 360⌋ := by
    rw [toIcoDiv_eq_floor, sub_zero]
  rw [quotient, zsmul_eq_mul, mul_comm] at whole
  exact whole

/-- A normalized bearing is the residue of whole turns. -/
theorem normalize_eq (degrees : ℚ) : normalize degrees = toIcoMod turn_pos 0 degrees := by
  have below := (toIcoMod_mem_Ico' turn_pos degrees).2
  rw [← exactResidue_turn] at below ⊢
  exact if_neg below.not_ge

/-- A normalized bearing is not negative. -/
theorem normalize_nonneg (degrees : ℚ) : 0 ≤ normalize degrees := by
  rw [normalize_eq]
  exact (toIcoMod_mem_Ico' turn_pos degrees).1

/-- A normalized bearing is less than a whole turn. -/
theorem normalize_lt (degrees : ℚ) : normalize degrees < 360 := by
  rw [normalize_eq]
  exact (toIcoMod_mem_Ico' turn_pos degrees).2

/-- Less than a whole turn is normalized. -/
theorem normalize_of_lt {degrees : ℚ} (nonneg : 0 ≤ degrees) (below : degrees < 360) :
    normalize degrees = degrees := by
  rw [normalize_eq, toIcoMod_eq_self, zero_add]
  exact ⟨nonneg, below⟩

/-- Bearings are normalized alike exactly if whole turns lead from one to the other. -/
theorem normalize_inj {left right : ℚ} :
    normalize left = normalize right ↔ left ≡ right [PMOD 360] := by
  rw [normalize_eq, normalize_eq]
  exact toIcoMod_inj turn_pos

/-- A normalized bearing points where the bearing does. -/
theorem normalize_modEq (degrees : ℚ) : normalize degrees ≡ degrees [PMOD 360] := by
  apply normalize_inj.mp
  exact normalize_of_lt (normalize_nonneg degrees) (normalize_lt degrees)

/-- To normalize a normalized bearing changes nothing. -/
theorem normalize_normalize (degrees : ℚ) : normalize (normalize degrees) = normalize degrees :=
  normalize_inj.mpr (normalize_modEq degrees)

/-- Bearings point the same way exactly if they differ by a number of whole turns. -/
theorem modEq_iff_turns {left right : ℚ} :
    left ≡ right [PMOD 360] ↔ ∃ turns : ℤ, left = right + turns * 360 := by
  rw [AddCommGroup.modEq_comm, AddCommGroup.modEq_iff_eq_add_zsmul]
  simp only [zsmul_eq_mul]

/-- A number of whole turns further is the same direction. -/
theorem add_turns_modEq (degrees : ℚ) (turns : ℤ) : degrees + turns * 360 ≡ degrees [PMOD 360] :=
  modEq_iff_turns.mpr ⟨turns, rfl⟩

/-- A whole turn further is the same direction. -/
theorem add_turn_modEq (degrees : ℚ) : degrees + 360 ≡ degrees [PMOD 360] :=
  AddCommGroup.add_modEq_left.mpr AddCommGroup.self_modEq_zero

/-- What is left of north by a whole turn at most is normalized by a whole turn. -/
theorem normalize_of_neg {degrees : ℚ} (above : -360 ≤ degrees) (neg : degrees < 0) :
    normalize degrees = degrees + 360 := by
  rw [← normalize_inj.mpr (add_turn_modEq degrees)]
  exact normalize_of_lt (by linarith) (by linarith)

/-! ## Arcs and angles -/

/-- A bearing is on an arc if the arc is a full circle or the bearing is not behind its end. -/
theorem within_iff {bearing start finish : ℚ} : within bearing start finish = true ↔
    normalize (finish - start) = 0 ∨
      normalize (bearing - start) ≤ normalize (finish - start) := by
  have unfolded : within bearing start finish = (normalize (finish - start) == 0 ||
      decide (normalize (bearing - start) ≤ normalize (finish - start))) := rfl
  rw [unfolded, Bool.or_eq_true, beq_iff_eq, decide_eq_true_iff]

/-- The angle between two bearings is the lesser of the turns to the right and to the left. -/
theorem difference_eq_min (left right : ℚ) :
    difference left right = min (normalize (left - right)) (360 - normalize (left - right)) := by
  have unfolded : difference left right = if 180 < normalize (left - right)
      then 360 - normalize (left - right) else normalize (left - right) := rfl
  rw [unfolded]
  split
  · rename_i beyond
    rw [min_eq_right (by linarith)]
  · rename_i most
    rw [min_eq_left (by linarith)]

/-- No angle between bearings is more than half a turn. -/
theorem difference_le_half (left right : ℚ) : difference left right ≤ 180 := by
  rw [difference_eq_min, min_le_iff]
  by_cases most : normalize (left - right) ≤ 180
  · exact .inl most
  · exact .inr (by linarith)

/-- A turn of at most half a turn is the angle between the bearings that it leads between. -/
theorem difference_eq_abs {left right turn : ℚ} (leads : left - right ≡ turn [PMOD 360])
    (most : |turn| ≤ 180) : difference left right = |turn| := by
  have ⟨above, below⟩ := abs_le.mp most
  rw [difference_eq_min, normalize_inj.mpr leads]
  by_cases onward : 0 ≤ turn
  · have same : normalize turn = turn := normalize_of_lt onward (by linarith)
    rw [same, abs_of_nonneg onward]
    exact min_eq_left (by linarith)
  · have behind : normalize turn = turn + 360 := normalize_of_neg (by linarith) (by linarith)
    rw [behind, abs_of_neg (by linarith), min_eq_right (by linarith)]
    ring

/-! ## The shorter way round -/

/-- The turn from one bearing to another the shorter way round, positive to the right. Half a turn
is made to the right. -/
def turn (start finish : ℚ) : ℚ :=
  if normalize (finish - start) ≤ 180 then normalize (finish - start)
  else normalize (finish - start) - 360

variable {start finish : ℚ}

/-- The turn from one bearing to another leads there. -/
theorem turn_modEq (start finish : ℚ) : finish - start ≡ turn start finish [PMOD 360] := by
  have onward := (normalize_modEq (finish - start)).symm
  by_cases right : normalize (finish - start) ≤ 180
  · rw [turn, if_pos right]
    exact onward
  · rw [turn, if_neg right]
    exact onward.trans (AddCommGroup.modEq_sub_iff_add_modEq.mpr (add_turn_modEq _))

/-- No turn to the left is as much as half a turn. -/
theorem neg_half_lt_turn (start finish : ℚ) : -180 < turn start finish := by
  have nonneg := normalize_nonneg (finish - start)
  unfold turn
  split <;> linarith

/-- No turn to the right is more than half a turn. -/
theorem turn_le_half (start finish : ℚ) : turn start finish ≤ 180 := by
  have below := normalize_lt (finish - start)
  unfold turn
  split <;> linarith

/-- A turn that leads from one bearing to another, and is not too far, is the shorter way round. -/
theorem turn_eq_of_modEq {other : ℚ} (leads : finish - start ≡ other [PMOD 360])
    (left : -180 < other) (right : other ≤ 180) : turn start finish = other := by
  rw [turn, normalize_inj.mpr leads]
  by_cases onward : 0 ≤ other
  · rw [normalize_of_lt onward (by linarith), if_pos right]
  · rw [normalize_of_neg (by linarith) (by linarith), if_neg (by linarith), add_sub_cancel_right]

/-- The angle between two bearings is as wide as the turn from one to the other. -/
theorem difference_eq_abs_turn (start finish : ℚ) :
    difference finish start = |turn start finish| := by
  apply difference_eq_abs (turn_modEq start finish)
  exact abs_le.mpr ⟨(neg_half_lt_turn start finish).le, turn_le_half start finish⟩

/-- The angle between two bearings is the same from either side. -/
theorem difference_comm (left right : ℚ) : difference left right = difference right left := by
  have back := (turn_modEq left right).neg
  rw [neg_sub] at back
  have narrow : |-turn left right| ≤ 180 := by
    rw [abs_neg, ← difference_eq_abs_turn]
    exact difference_le_half right left
  rw [difference_eq_abs back narrow, abs_neg, difference_eq_abs_turn]

end Sailplane.Bearing
