import Mathlib
import Sailplane.Proofs.Geo.Arcs
import Sailplane.Task.Zone

/-!
# The border of a zone

The places that are listed along the border of a zone belong to the zone: they are reached from its
center on courses that it admits, over distances that it admits. This is shown in exact arithmetic,
for every geodesy in which a course leads as far as it is said to, and in the direction in which it
is set.
-/
namespace Sailplane

open Geodesy (distance bearing destination)

/-- Whether courses from a place lead as far as they are said to, and in the direction in which they
are set. -/
structure Geodesy.Surveyed {P : Type} [Geodesy P ℚ] (center : P) : Prop where
  /-- The place is where it is. -/
  distance_self : distance center center = 0
  /-- A course leads as far as it is said to. -/
  distance_destination : ∀ course reach : ℚ, 0 ≤ reach →
    distance center (destination center course reach) = reach
  /-- What is reached on a course lies in its direction. -/
  bearing_destination : ∀ course reach : ℚ, 0 < reach →
    bearing center (destination center course reach) = Bearing.normalize course

namespace Shape

/-- Whether a shape has a size: its radius or length is positive, and so is the angle that it lies
within. -/
def IsProper : Shape ℚ → Prop
  | cylinder radius => 0 < radius
  | sector radius _ _ => 0 < radius
  | symmetricSector radius angle => 0 < radius ∧ 0 < angle
  | line length => 0 < length

/-- The radius of an area. -/
def radius? {K : Type} : Shape K → Option K
  | cylinder radius => some radius
  | sector radius _ _ => some radius
  | symmetricSector radius _ => some radius
  | line _ => none

end Shape

namespace Zone

/-- There are places along the border of every zone. -/
theorem boundary_ne_nil {P K : Type} [Scalar K] [Geodesy P K] (zone : Zone P K) :
    zone.boundary ≠ [] := by
  obtain ⟨shape, center, direction⟩ := zone
  cases shape <;> exact List.cons_ne_nil _ _

variable {P : Type} [Geodesy P ℚ] {zone : Zone P ℚ} {place : P}

/-! ## What is reached -/

section Reached

variable (surveyed : Geodesy.Surveyed zone.center) {reach : ℚ} {admitted : ℚ → Bool}
include surveyed

/-- The center is reached. -/
theorem reaches_center (nonneg : 0 ≤ reach) : zone.reaches reach admitted zone.center = true := by
  have away := surveyed.distance_self
  rw [reaches, Bool.and_eq_true, Bool.or_eq_true]
  exact ⟨decide_eq_true (away ▸ nonneg), .inl (beq_iff_eq.mpr away)⟩

/-- What lies on an admitted course, not too far, is reached. -/
theorem reaches_destination {course away : ℚ} (nonneg : 0 ≤ away) (within : away ≤ reach)
    (admits : admitted (Bearing.normalize course) = true) :
    zone.reaches reach admitted (destination zone.center course away) = true := by
  have far := surveyed.distance_destination course away nonneg
  rw [reaches, Bool.and_eq_true, Bool.or_eq_true]
  refine ⟨decide_eq_true (far.le.trans within), ?_⟩
  by_cases here : away = 0
  · exact .inl (beq_iff_eq.mpr (far.trans here))
  · have positive : 0 < away := lt_of_le_of_ne nonneg (Ne.symm here)
    rw [surveyed.bearing_destination course away positive]
    exact .inr admits

end Reached

/-! ## Arcs -/

/-- How far an arc goes round. -/
def arcSpan (start finish : ℚ) : ℚ :=
  if Bearing.normalize (finish - start) = 0 then 360 else Bearing.normalize (finish - start)

/-- The courses to the places of an arc share it out. -/
theorem arcBoundary_eq (zone : Zone P ℚ) (radius start finish : ℚ) :
    zone.arcBoundary radius start finish = zone.center :: (List.range 21).map fun step : ℕ =>
      destination zone.center
        (Bearing.normalize (start + arcSpan start finish * (step / 20))) radius := by
  have span : (if Bearing.normalize (finish - start) == 0 then (360 : ℚ)
      else Bearing.normalize (finish - start)) = arcSpan start finish := by
    simp only [arcSpan, beq_iff_eq]
  have course (step : ℕ) : start + arcSpan start finish * (step / 20) =
      start + arcSpan start finish * step / 20 := by ring
  simp only [course]
  rw [← span]
  rfl

/-- The places of an arc are the center, and those on the courses that share it out. -/
theorem mem_arcBoundary {radius start finish : ℚ}
    (listed : place ∈ zone.arcBoundary radius start finish) : place = zone.center ∨
      ∃ share : ℚ, 0 ≤ share ∧ share ≤ 1 ∧ place = destination zone.center
        (Bearing.normalize (start + arcSpan start finish * share)) radius := by
  rw [arcBoundary_eq] at listed
  rcases List.mem_cons.mp listed with here | round
  · exact .inl here
  · right
    have ⟨step, counted, made⟩ := List.mem_map.mp round
    have most : (step : ℚ) ≤ 20 := by
      exact_mod_cast Nat.le_of_lt_succ (List.mem_range.mp counted)
    exact ⟨step / 20, by positivity, by linarith, made.symm⟩

/-- A course that shares out an arc is on it. -/
theorem within_of_share (start finish : ℚ) {share : ℚ} (nonneg : 0 ≤ share) (most : share ≤ 1) :
    Bearing.within (Bearing.normalize (start + arcSpan start finish * share)) start finish =
      true := by
  rw [Bearing.within_iff]
  by_cases full : Bearing.normalize (finish - start) = 0
  · exact .inl full
  · right
    have span : arcSpan start finish = Bearing.normalize (finish - start) := if_neg full
    have positive := Bearing.normalize_nonneg (finish - start)
    have below := Bearing.normalize_lt (finish - start)
    rw [span]
    have shared : Bearing.normalize (finish - start) * share ≤ Bearing.normalize (finish - start) :=
      mul_le_of_le_one_right positive most
    have leads := (Bearing.normalize_modEq
      (start + Bearing.normalize (finish - start) * share)).sub_right start
    rw [add_sub_cancel_left] at leads
    rw [Bearing.normalize_inj.mpr leads,
      Bearing.normalize_of_lt (mul_nonneg positive nonneg) (shared.trans_lt below)]
    exact shared

/-- A course that shares out the arc about a direction is within half its angle of it. -/
theorem difference_of_share (direction : ℚ) {angle share : ℚ} (positive : 0 < angle)
    (nonneg : 0 ≤ share) (most : share ≤ 1) :
    let start := Bearing.normalize (direction - angle / 2)
    let finish := Bearing.normalize (direction + angle / 2)
    Bearing.difference (Bearing.normalize (start + arcSpan start finish * share)) direction ≤
      angle / 2 := by
  intro start finish
  by_cases wide : 360 < angle
  · have half := Bearing.difference_le_half
      (Bearing.normalize (start + arcSpan start finish * share)) direction
    linarith
  · rw [← Bearing.within_about_iff positive (not_lt.mp wide)]
    exact within_of_share start finish nonneg most

/-! ## Lines -/

/-- The places on a line lie to its left and to its right, by their offsets from its center. -/
theorem onLine_eq (zone : Zone P ℚ) (offset : ℚ) :
    zone.onLine offset = destination zone.center
      (Bearing.normalize (zone.direction + if offset < 0 then -90 else 90)) |offset| := by
  by_cases left : offset < 0
  · rw [if_pos left, abs_of_neg left, ← sub_eq_add_neg]
    exact if_pos left
  · rw [if_neg left, abs_of_nonneg (not_lt.mp left)]
    exact if_neg left

/-- A line is shared out from its left end to its right one. -/
theorem boundary_of_line {length : ℚ} (line : zone.shape = .line length) :
    zone.boundary = (List.range 11).map fun step : ℕ =>
      zone.onLine (-(length / 2) + length * step / 10) := by
  rw [boundary, line]
  rfl

/-- The end of a line to one side of its direction. -/
def lineEnd (zone : Zone P ℚ) (length side : ℚ) : P :=
  destination zone.center (Bearing.normalize (zone.direction + side)) (length / 2)

/-- A line is listed from its left end to its right one. -/
theorem ends_of_line {length : ℚ} (line : zone.shape = .line length) (positive : 0 < length) :
    zone.boundary.head? = some (zone.lineEnd length (-90)) ∧
      zone.boundary.getLast? = some (zone.lineEnd length 90) := by
  have half : 0 < length / 2 := by linarith
  have left : -(length / 2) + length * ((0 : ℕ) : ℚ) / 10 = -(length / 2) := by
    push_cast
    ring
  have right : -(length / 2) + length * ((10 : ℕ) : ℚ) / 10 = length / 2 := by
    push_cast
    ring
  have first : zone.onLine (-(length / 2)) = zone.lineEnd length (-90) := by
    rw [onLine_eq, if_pos (by linarith), abs_neg, abs_of_pos half, lineEnd]
  have final : zone.onLine (length / 2) = zone.lineEnd length 90 := by
    rw [onLine_eq, if_neg half.not_gt, abs_of_pos half, lineEnd]
  rw [boundary_of_line line, ← first, ← final]
  exact ⟨congrArg (fun offset => some (zone.onLine offset)) left,
    congrArg (fun offset => some (zone.onLine offset)) right⟩

/-- The two sides of a direction are opposite. -/
theorem difference_sides (direction : ℚ) :
    Bearing.difference (Bearing.normalize (direction + -90))
      (Bearing.normalize (direction + 90)) = 180 := by
  have leads := (Bearing.normalize_modEq (direction + -90)).sub
    (Bearing.normalize_modEq (direction + 90))
  have turn : direction + -90 - (direction + 90) = -180 := by ring
  rw [turn] at leads
  have half : |(-180 : ℚ)| = 180 := by norm_num
  rw [Bearing.difference_eq_abs leads half.le, half]

/-- What is a right angle off a direction differs from it by a right angle. -/
theorem difference_side (direction : ℚ) {side : ℚ} (right : |side| = 90) :
    Bearing.difference (Bearing.normalize (direction + side)) direction = 90 := by
  have leads := (Bearing.normalize_modEq (direction + side)).sub_right direction
  rw [add_sub_cancel_left] at leads
  rw [Bearing.difference_eq_abs leads (by rw [right]; norm_num), right]

/-! ## Borders -/

section Listed

variable (surveyed : Geodesy.Surveyed zone.center)
include surveyed

/-- The places of a circle are reached. -/
theorem listed_of_cylinder {radius : ℚ} (circle : zone.shape = .cylinder radius)
    (positive : 0 < radius) (listed : place ∈ zone.boundary) :
    zone.contains place = true ∧ distance zone.center place = radius := by
  rw [boundary, circle] at listed
  have ⟨step, _, made⟩ := List.mem_map.mp listed
  have far : distance zone.center place = radius := by
    rw [← made]
    exact surveyed.distance_destination _ radius positive.le
  rw [contains, circle]
  exact ⟨decide_eq_true far.le, far⟩

/-- The places of an arc whose courses are admitted are reached. -/
theorem listed_of_arc {radius start finish : ℚ} {admitted : ℚ → Bool} (positive : 0 < radius)
    (admits : ∀ share, 0 ≤ share → share ≤ 1 →
      admitted (Bearing.normalize (start + arcSpan start finish * share)) = true)
    (listed : place ∈ zone.arcBoundary radius start finish) :
    zone.reaches radius admitted place = true ∧
      (place = zone.center ∨ distance zone.center place = radius) := by
  rcases mem_arcBoundary listed with here | ⟨share, nonneg, most, there⟩
  · rw [here]
    exact ⟨reaches_center surveyed positive.le, .inl rfl⟩
  · have admits := admits share nonneg most
    rw [← Bearing.normalize_normalize] at admits
    rw [there]
    exact ⟨reaches_destination surveyed positive.le le_rfl admits,
      .inr (surveyed.distance_destination _ radius positive.le)⟩

/-- The places of an area are inside, and but for the center they lie at its radius. -/
theorem listed_of_area {radius : ℚ} (area : zone.shape.radius? = some radius)
    (proper : zone.shape.IsProper) (listed : place ∈ zone.boundary) :
    zone.contains place = true ∧ (place = zone.center ∨ distance zone.center place = radius) := by
  cases shape : zone.shape with
  | cylinder reach =>
    rw [shape] at area proper
    obtain rfl : reach = radius := Option.some.inj area
    have ⟨inside, far⟩ := listed_of_cylinder surveyed shape proper listed
    exact ⟨inside, .inr far⟩
  | sector reach start finish =>
    rw [shape] at area proper
    obtain rfl : reach = radius := Option.some.inj area
    rw [boundary, shape] at listed
    rw [contains, shape]
    exact listed_of_arc surveyed proper (fun _ => within_of_share start finish) listed
  | symmetricSector reach angle =>
    rw [shape] at area proper
    obtain rfl : reach = radius := Option.some.inj area
    rw [boundary, shape] at listed
    rw [contains, shape]
    exact listed_of_arc surveyed proper.1 (fun _ nonneg most =>
      decide_eq_true (difference_of_share zone.direction proper.2 nonneg most)) listed
  | line length =>
    rw [shape] at area
    cases area

/-- The places of a line are reached. -/
theorem listed_of_line {length : ℚ} (line : zone.shape = .line length) (positive : 0 < length)
    (listed : place ∈ zone.boundary) : zone.contains place = true := by
  rw [boundary_of_line line] at listed
  have ⟨step, counted, made⟩ := List.mem_map.mp listed
  have nonneg : 0 ≤ length * step := by positivity
  have most : length * step ≤ length * 10 := by
    have count : (step : ℚ) ≤ 10 := by
      exact_mod_cast Nat.le_of_lt_succ (List.mem_range.mp counted)
    exact mul_le_mul_of_nonneg_left count positive.le
  have near : |-(length / 2) + length * step / 10| ≤ length / 2 := by
    rw [abs_le]
    constructor <;> linarith
  rw [contains, line, ← made, onLine_eq]
  apply reaches_destination surveyed (abs_nonneg _) near
  apply decide_eq_true
  have right : |if -(length / 2) + length * (step : ℚ) / 10 < 0 then -90 else 90| = (90 : ℚ) := by
    split <;> norm_num
  rw [Bearing.normalize_normalize]
  exact (difference_side zone.direction right).le

/-- An end of a line lies half its length away, at a right angle off the direction. -/
theorem lineEnd_away {length : ℚ} (positive : 0 < length) (side : ℚ) :
    distance zone.center (zone.lineEnd length side) = length / 2 ∧
      bearing zone.center (zone.lineEnd length side) =
        Bearing.normalize (zone.direction + side) := by
  have half : 0 < length / 2 := by linarith
  have course := surveyed.bearing_destination (Bearing.normalize (zone.direction + side)) _ half
  rw [Bearing.normalize_normalize] at course
  exact ⟨surveyed.distance_destination _ _ half.le, course⟩

end Listed

/-- What is listed along the border of a zone. -/
structure Bordered (zone : Zone P ℚ) : Prop where
  /-- There are places. -/
  nonempty : zone.boundary ≠ []
  /-- All of them are inside. -/
  inside : ∀ place ∈ zone.boundary, zone.contains place = true
  /-- Those of an area are the center, or lie at the distance of its radius. -/
  round : ∀ radius, zone.shape.radius? = some radius → ∀ place ∈ zone.boundary,
    place = zone.center ∨ distance zone.center place = radius
  /-- Those of a circle all lie at that distance. -/
  circle : ∀ radius, zone.shape = .cylinder radius → ∀ place ∈ zone.boundary,
    distance zone.center place = radius
  /-- The ends of a line lie half its length away, on opposite sides of the center. -/
  ends : ∀ length, zone.shape = .line length → ∃ left right,
    zone.boundary.head? = some left ∧ zone.boundary.getLast? = some right ∧
      distance zone.center left = length / 2 ∧ distance zone.center right = length / 2 ∧
      Bearing.difference (bearing zone.center left) zone.direction = 90 ∧
      Bearing.difference (bearing zone.center right) zone.direction = 90 ∧
      Bearing.difference (bearing zone.center left) (bearing zone.center right) = 180

/-- **The listed border of a zone belongs to it**, whatever its radials and its direction are and
however wide its angle is, if it has a size. -/
theorem bordered (surveyed : Geodesy.Surveyed zone.center) (proper : zone.shape.IsProper) :
    Bordered zone where
  nonempty := zone.boundary_ne_nil
  inside := fun place listed => by
    cases shape : zone.shape with
    | line length =>
      rw [shape] at proper
      exact listed_of_line surveyed shape proper listed
    | _ => exact (listed_of_area surveyed (by rw [shape]; rfl) proper listed).1
  round := fun radius area place listed => (listed_of_area surveyed area proper listed).2
  circle := fun radius circle place listed => by
    rw [circle] at proper
    exact (listed_of_cylinder surveyed circle proper listed).2
  ends := fun length line => by
    rw [line] at proper
    have ⟨first, final⟩ := ends_of_line line proper
    have ⟨leftAway, left⟩ := lineEnd_away surveyed proper (-90)
    have ⟨rightAway, right⟩ := lineEnd_away surveyed proper 90
    refine ⟨_, _, first, final, leftAway, rightAway, ?_, ?_, ?_⟩
    · rw [left]
      exact difference_side zone.direction (by norm_num)
    · rw [right]
      exact difference_side zone.direction (by norm_num)
    · rw [left, right]
      exact difference_sides zone.direction

end Zone

/-! ## Around a beacon -/

/-- A place as it is seen from a beacon: in a direction, and so far away. -/
structure Plot where
  /-- The direction. -/
  course : ℚ
  /-- How far away it is. -/
  reach : ℚ
  deriving Repr, DecidableEq

/-- Ways between places lead over the beacon, unless both are in one direction. -/
instance instGeodesyPlot : Geodesy Plot ℚ where
  distance a b := if a.course = b.course then max a.reach b.reach - min a.reach b.reach
    else a.reach + b.reach
  bearing a b := if a.reach = 0 then b.course
    else if a.course = b.course ∧ a.reach ≤ b.reach then a.course
    else Bearing.opposite a.course
  destination a course reach :=
    if a.reach = 0 then ⟨Bearing.normalize course, reach⟩
    else if Bearing.normalize course = a.course then ⟨a.course, a.reach + reach⟩
    else if reach ≤ a.reach then ⟨a.course, a.reach - reach⟩
    else ⟨Bearing.opposite a.course, reach - a.reach⟩

namespace Plot

/-- The beacon. -/
def beacon : Plot := ⟨0, 0⟩

/-- Courses from the beacon lead as far as they are said to, in the direction in which they are
set. -/
theorem surveyed_beacon : Geodesy.Surveyed beacon where
  distance_self := by decide +kernel
  distance_destination := fun course reach nonneg => by
    change (if (0 : ℚ) = Bearing.normalize course then max 0 reach - min 0 reach
      else 0 + reach) = reach
    rw [max_eq_right nonneg, min_eq_left nonneg, sub_zero, zero_add, ite_self]
  bearing_destination := fun _ _ _ => rfl

/-- A sector of a right angle across north. -/
def acrossNorth : Zone Plot ℚ := ⟨.symmetricSector 3000 90, beacon, 350⟩

/-- The listed border of a sector across north belongs to it. -/
theorem bordered_across_north : Geodesy.Surveyed acrossNorth.center ∧
    acrossNorth.shape.IsProper ∧ acrossNorth.Bordered := by
  have proper : acrossNorth.shape.IsProper := by
    constructor <;> norm_num
  exact ⟨surveyed_beacon, proper, Zone.bordered surveyed_beacon proper⟩

end Plot

end Sailplane
