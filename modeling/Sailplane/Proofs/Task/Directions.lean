import Mathlib
import Sailplane.Proofs.Task.Border

/-!
# The direction of a zone

Legs turn a zone away from its only neighbour, or outward between two of them: the direction lies on
the bisector of the legs, on the side where they open wider. A symmetric sector in a direction is the
sector between two radials, half of its angle to the left and to the right of it.
-/
namespace Sailplane

open Geodesy (distance bearing)

namespace Bearing

variable {toPrevious toNext direction leg short : ℚ}

/-! ## Opposite bearings -/

/-- Half a turn leads from one bearing to the other. -/
def Opposed (left right : ℚ) : Prop := left ≡ right + 180 [PMOD 360]

/-- Bearings are opposite exactly if the turn from one to the other is half a turn. -/
theorem opposed_iff_turn : Opposed toNext toPrevious ↔ turn toPrevious toNext = 180 := by
  rw [Opposed, ← AddCommGroup.sub_modEq_iff_modEq_add']
  constructor
  · intro half
    exact turn_eq_of_modEq half (by norm_num) (by norm_num)
  · intro half
    rw [← half]
    exact turn_modEq toPrevious toNext

/-- Each of two opposite bearings is opposite to the other. -/
theorem Opposed.symm {left right : ℚ} (opposed : Opposed left right) : Opposed right left := by
  have back := (AddCommGroup.ModEq.symm opposed).add_right 180
  have round : right + 180 + 180 = right + 360 := by ring
  rw [round] at back
  exact (add_turn_modEq right).symm.trans back

/-- What is short of opposite makes an angle that is short of half a turn by as much. -/
theorem difference_of_short (leads : direction - leg ≡ 180 + short [PMOD 360])
    (most : |short| ≤ 180) : difference direction leg = 180 - |short| := by
  have ⟨above, below⟩ := abs_le.mp most
  by_cases onward : 0 < short
  · have back : direction - leg ≡ short - 180 [PMOD 360] := by
      have whole : short - 180 + 360 = 180 + short := by ring
      rw [← whole] at leads
      exact leads.trans (add_turn_modEq _)
    have width : |short - 180| = 180 - |short| := by
      rw [abs_of_pos onward, abs_of_nonpos (by linarith), neg_sub]
    rw [difference_eq_abs back (by rw [width]; linarith [abs_nonneg short]), width]
  · have width : |180 + short| = 180 - |short| := by
      rw [abs_of_nonpos (not_lt.mp onward), abs_of_nonneg (by linarith), sub_neg_eq_add]
    rw [difference_eq_abs leads (by rw [width]; linarith [abs_nonneg short]), width]

/-! ## Between two legs -/

/-- The outward direction is opposite to where half of the turn between the legs leads. -/
theorem outward_eq (toPrevious toNext : ℚ) : outward toPrevious toNext =
    normalize (toPrevious + turn toPrevious toNext / 2 + 180) := by
  have unfolded : outward toPrevious toNext = normalize (toPrevious +
      (if normalize (toNext - toPrevious) ≤ 180 then normalize (toNext - toPrevious) / 2
        else (normalize (toNext - toPrevious) - 360) / 2) + 180) := rfl
  rw [unfolded, turn]
  split <;> rfl

/-- Half of the turn between the legs leads from the opposite of the first to the outward
direction. -/
theorem outward_sub_previous (toPrevious toNext : ℚ) : outward toPrevious toNext - toPrevious ≡
    180 + turn toPrevious toNext / 2 [PMOD 360] := by
  have leads := (normalize_modEq (toPrevious + turn toPrevious toNext / 2 + 180)).sub_right
    toPrevious
  have short : toPrevious + turn toPrevious toNext / 2 + 180 - toPrevious =
      180 + turn toPrevious toNext / 2 := by ring
  rwa [← outward_eq, short] at leads

/-- The other half leads back to it from the opposite of the second. -/
theorem outward_sub_next (toPrevious toNext : ℚ) : outward toPrevious toNext - toNext ≡
    180 + -(turn toPrevious toNext / 2) [PMOD 360] := by
  have leads := (outward_sub_previous toPrevious toNext).sub (turn_modEq toPrevious toNext)
  have left : outward toPrevious toNext - toPrevious - (toNext - toPrevious) =
      outward toPrevious toNext - toNext := by ring
  have right : 180 + turn toPrevious toNext / 2 - turn toPrevious toNext =
      180 + -(turn toPrevious toNext / 2) := by ring
  rwa [left, right] at leads

/-- How a direction lies to two legs if it is outward on their bisector. -/
structure Bisects (direction toPrevious toNext : ℚ) : Prop where
  /-- The direction is normalized: not negative, -/
  nonneg : 0 ≤ direction
  /-- and less than a whole turn. -/
  below : direction < 360
  /-- It is short of opposite to the first leg by half of the angle between the legs, -/
  previous : difference toPrevious direction = 180 - difference toPrevious toNext / 2
  /-- and of opposite to the second by as much. -/
  next : difference toNext direction = 180 - difference toPrevious toNext / 2
  /-- So it lies behind both: a right angle off at least. -/
  behind : 90 ≤ difference toPrevious direction

/-- The outward direction bisects the legs. -/
theorem bisects_outward (toPrevious toNext : ℚ) :
    Bisects (outward toPrevious toNext) toPrevious toNext := by
  have angle : |turn toPrevious toNext / 2| = difference toPrevious toNext / 2 := by
    rw [abs_div, ← difference_eq_abs_turn, difference_comm, abs_two]
  have half := difference_le_half toPrevious toNext
  have previous : difference toPrevious (outward toPrevious toNext) =
      180 - difference toPrevious toNext / 2 := by
    rw [difference_comm, ← angle]
    exact difference_of_short (outward_sub_previous toPrevious toNext) (by rw [angle]; linarith)
  have next : difference toNext (outward toPrevious toNext) =
      180 - difference toPrevious toNext / 2 := by
    rw [difference_comm, ← angle, ← abs_neg]
    exact difference_of_short (outward_sub_next toPrevious toNext)
      (by rw [abs_neg, angle]; linarith)
  refine ⟨?_, ?_, previous, next, ?_⟩
  · rw [outward_eq]
    exact normalize_nonneg _
  · rw [outward_eq]
    exact normalize_lt _
  · rw [previous]
    linarith

/-- Legs that are turned alike turn the outward direction as well. -/
theorem outward_rotate {toPrevious' toNext' rotation : ℚ}
    (first : toPrevious' ≡ toPrevious + rotation [PMOD 360])
    (second : toNext' ≡ toNext + rotation [PMOD 360]) :
    outward toPrevious' toNext' ≡ outward toPrevious toNext + rotation [PMOD 360] := by
  have kept := second.sub first
  rw [add_sub_add_right_eq_sub] at kept
  have same : turn toPrevious' toNext' = turn toPrevious toNext := by
    rw [turn, turn, normalize_inj.mpr kept]
  have leads := (outward_sub_previous toPrevious' toNext').add first
  have back := (outward_sub_previous toPrevious toNext).add_right (toPrevious + rotation)
  have plain : outward toPrevious toNext - toPrevious + (toPrevious + rotation) =
      outward toPrevious toNext + rotation := by ring
  rw [sub_add_cancel, same] at leads
  rw [plain] at back
  exact leads.trans back.symm

/-- The way back between two bearings is the way there, unless it is half a turn. -/
theorem turn_swap (apart : ¬ Opposed toNext toPrevious) :
    turn toNext toPrevious = -turn toPrevious toNext := by
  have above := neg_half_lt_turn toPrevious toNext
  have below : turn toPrevious toNext < 180 :=
    lt_of_le_of_ne (turn_le_half toPrevious toNext) fun half => apart (opposed_iff_turn.mpr half)
  have leads := (turn_modEq toPrevious toNext).neg
  rw [neg_sub] at leads
  exact turn_eq_of_modEq leads (by linarith) (by linarith)

/-- Between legs that are not opposite, it makes no difference which of them is the first. -/
theorem outward_comm (apart : ¬ Opposed toNext toPrevious) :
    outward toNext toPrevious = outward toPrevious toNext := by
  have leads := outward_sub_previous toNext toPrevious
  rw [turn_swap apart, neg_div] at leads
  have same := (leads.trans (outward_sub_next toPrevious toNext).symm).sub_right_cancel'
  rw [outward_eq, outward_eq, normalize_inj]
  rw [outward_eq, outward_eq] at same
  exact (normalize_modEq _).symm.trans (same.trans (normalize_modEq _))

/-- Between opposite legs, the outward direction is to one side if one of them is the first, and to
the other side otherwise. -/
theorem opposed_outward (opposed : Opposed toNext toPrevious) :
    Opposed (outward toNext toPrevious) (outward toPrevious toNext) := by
  have there := outward_sub_previous toPrevious toNext
  have back := (outward_sub_previous toNext toPrevious).add opposed
  rw [opposed_iff_turn.mp opposed] at there
  rw [opposed_iff_turn.mp opposed.symm, sub_add_cancel] at back
  have onward := there.add_right (toPrevious + 180)
  have left : outward toPrevious toNext - toPrevious + (toPrevious + 180) =
      outward toPrevious toNext + 180 := by ring
  rw [left] at onward
  exact back.trans onward.symm

end Bearing

namespace Shape

/-- A sector that opens by an angle, half of it to either side of a direction. -/
def sectorAbout (radius angle direction : ℚ) : Shape ℚ :=
  .sector radius (Bearing.normalize (direction - angle / 2))
    (Bearing.normalize (direction + angle / 2))

end Shape

namespace Zone

variable {P : Type} [Geodesy P ℚ]

/-! ## Legs -/

/-- How legs to its neighbours turn a zone. -/
structure FacesOutward (zone : Zone P ℚ) : Prop where
  /-- Between two neighbours it faces outward on the bisector of the legs to them. -/
  bisects : ∀ previous next, Bearing.Bisects (zone.orient (some previous) (some next)).direction
    (bearing zone.center previous) (bearing zone.center next)
  /-- It makes no difference which neighbour is the next one, unless they are opposite. -/
  swapped : ∀ previous next,
    ¬ Bearing.Opposed (bearing zone.center next) (bearing zone.center previous) →
      (zone.orient (some next) (some previous)).direction =
        (zone.orient (some previous) (some next)).direction
  /-- If they are opposite, it faces the opposite way. -/
  straight : ∀ previous next,
    Bearing.Opposed (bearing zone.center next) (bearing zone.center previous) →
      Bearing.Opposed (zone.orient (some next) (some previous)).direction
        (zone.orient (some previous) (some next)).direction
  /-- Between neighbours in directions that are turned alike, it is turned as well. -/
  rotated : ∀ (previous next previous' next' : P) (rotation : ℚ),
    bearing zone.center previous' ≡ bearing zone.center previous + rotation [PMOD 360] →
    bearing zone.center next' ≡ bearing zone.center next + rotation [PMOD 360] →
      (zone.orient (some previous') (some next')).direction ≡
        (zone.orient (some previous) (some next)).direction + rotation [PMOD 360]
  /-- With one neighbour only, next or previous, it faces exactly away from it. -/
  away : ∀ neighbour, ∀ turned ∈ [zone.orient none (some neighbour),
      zone.orient (some neighbour) none],
    0 ≤ turned.direction ∧ turned.direction < 360 ∧
      Bearing.Opposed turned.direction (bearing zone.center neighbour)

/-- **Zones face outward**: on the bisector of the legs to both neighbours, or away from the only
neighbour, whatever the bearings to them are. -/
theorem faces_outward (zone : Zone P ℚ) : FacesOutward zone where
  bisects := fun _ _ => Bearing.bisects_outward _ _
  swapped := fun _ _ => Bearing.outward_comm
  straight := fun _ _ => Bearing.opposed_outward
  rotated := fun _ _ _ _ _ => Bearing.outward_rotate
  away := fun neighbour turned listed => by
    have facing : turned.direction = Bearing.opposite (bearing zone.center neighbour) := by
      obtain rfl | rfl := List.mem_pair.mp listed <;> rfl
    rw [facing]
    exact ⟨Bearing.normalize_nonneg _, Bearing.normalize_lt _, Bearing.normalize_modEq _⟩

/-! ## Symmetric sectors -/

/-- **A symmetric sector is the sector between its radials**: those half of its angle to either side
of its direction, along which its border is listed. They contain the same places, whatever the
distances and the bearings between places are. -/
theorem symmetric_is_sector (center : P) (radius direction facing : ℚ) {angle : ℚ}
    (positive : 0 < angle) (most : angle ≤ 360) :
    let symmetric : Zone P ℚ := ⟨.symmetricSector radius angle, center, direction⟩
    let explicit : Zone P ℚ := ⟨.sectorAbout radius angle direction, center, facing⟩
    (∀ place, symmetric.contains place = true ↔ explicit.contains place = true) ∧
      symmetric.boundary = explicit.boundary := by
  intro symmetric explicit
  have admitted (course : ℚ) : decide (Bearing.difference course direction ≤ angle / 2) =
      Bearing.within course (Bearing.normalize (direction - angle / 2))
        (Bearing.normalize (direction + angle / 2)) := by
    rw [Bool.eq_iff_iff, decide_eq_true_iff, Bearing.within_about_iff positive most]
  constructor
  · intro place
    have inside : symmetric.contains place = symmetric.reaches radius
        (fun course => decide (Bearing.difference course direction ≤ angle / 2)) place := rfl
    simp only [inside, admitted]
    exact Iff.rfl
  · rfl

end Zone

namespace Plot

/-- A turn point at the beacon. -/
def corner : Zone Plot ℚ := ⟨.symmetricSector 10000 90, beacon, 0⟩

/-- A leg from the west and one to the north turn the zone to the southeast, in either order. Turned
alike, past a whole turn, they turn it as well. Legs from the west and to the east turn it to the
south, and to the north in the other order. -/
theorem faces_outward_from_corner :
    let west : Plot := ⟨270, 30000⟩
    let north : Plot := ⟨0, 30000⟩
    let east : Plot := ⟨90, 20000⟩
    (¬ Bearing.Opposed (bearing beacon north) (bearing beacon west) ∧
      (corner.orient (some west) (some north)).direction = 135 ∧
      (corner.orient (some north) (some west)).direction = 135) ∧
    (bearing beacon north ≡ bearing beacon west + 90 [PMOD 360] ∧
      bearing beacon east ≡ bearing beacon north + 90 [PMOD 360] ∧
      (corner.orient (some north) (some east)).direction ≡ 135 + 90 [PMOD 360]) ∧
    Bearing.Opposed (bearing beacon east) (bearing beacon west) ∧
      (corner.orient (some west) (some east)).direction = 180 ∧
      Bearing.Opposed (corner.orient (some east) (some west)).direction 180 := by
  intro west north east
  have law := Zone.faces_outward corner
  have southeast : (corner.orient (some west) (some north)).direction = 135 := by decide +kernel
  have south : (corner.orient (some west) (some east)).direction = 180 := by decide +kernel
  have apart : ¬ Bearing.Opposed (bearing beacon north) (bearing beacon west) := by
    rw [Bearing.Opposed, ← Bearing.normalize_inj]
    decide +kernel
  have first : bearing beacon north ≡ bearing beacon west + 90 [PMOD 360] := by
    rw [← Bearing.normalize_inj]
    decide +kernel
  have second : bearing beacon east ≡ bearing beacon north + 90 [PMOD 360] := by
    rw [← Bearing.normalize_inj]
    decide +kernel
  have opposed : Bearing.Opposed (bearing beacon east) (bearing beacon west) := by
    rw [Bearing.Opposed, ← Bearing.normalize_inj]
    decide +kernel
  have swapped := law.swapped west north apart
  have rotated := law.rotated west north north east 90 first second
  have straight := law.straight west east opposed
  rw [southeast] at swapped rotated
  rw [south] at straight
  exact ⟨⟨apart, southeast, swapped⟩, ⟨first, second, rotated⟩, opposed, south, straight⟩

/-- The sector across north contains the places up to its right edge, and no farther. -/
theorem symmetric_is_sector_across_north : (0 : ℚ) < 90 ∧ (90 : ℚ) ≤ 360 ∧
    let explicit : Zone Plot ℚ := ⟨.sectorAbout 3000 90 350, beacon, 0⟩
    explicit.contains ⟨35, 3000⟩ = true ∧ ¬ explicit.contains ⟨36, 3000⟩ = true ∧
      acrossNorth.boundary = explicit.boundary := by
  have positive : (0 : ℚ) < 90 := by norm_num
  have most : (90 : ℚ) ≤ 360 := by norm_num
  have ⟨same, border⟩ := Zone.symmetric_is_sector beacon 3000 350 0 positive most
  have edge : acrossNorth.contains ⟨35, 3000⟩ = true := by decide +kernel
  have beyond : ¬ acrossNorth.contains ⟨36, 3000⟩ = true := by decide +kernel
  exact ⟨positive, most, (same _).mp edge, fun inside => beyond ((same _).mpr inside), border⟩

end Plot

end Sailplane
