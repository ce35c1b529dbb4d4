import Mathlib
import Sailplane.Proofs.Task.Progress
import Sailplane.Proofs.Task.Starting

/-!
# Crossings of a zone

To enter a zone is to leave it the other way round. On a track, entries and exits of an area take
turns: each one is a change between inside and outside, and no change is passed over. A line passes
over a change whose place outside is beyond its ends, so its entries and exits need not balance. All
this holds whatever the places and lengths are, numbers or not.
-/
namespace Sailplane.Zone

open Geodesy (distance)

variable {P K : Type} [Scalar K] [Geodesy P K] {zone : Zone P K} {now last : P}

/-! ## A pair of places -/

/-- To enter from one place to another is to leave the other way. -/
theorem isEntered_eq_isLeft (zone : Zone P K) (now last : P) :
    zone.isEntered now last = zone.isLeft last now := by
  have sides : zone.admitsCrossing now last = zone.admitsCrossing last now := by
    unfold admitsCrossing
    split
    · exact Bool.and_comm _ _
    · rfl
  rw [isEntered, isLeft, sides, Bool.and_comm (!zone.contains last)]

/-- An exit that counts leads from inside to outside. -/
theorem isLeft_iff : zone.isLeft now last = true ↔
    zone.contains last = true ∧ zone.contains now = false ∧
      zone.admitsCrossing now last = true := by
  rw [isLeft, Bool.and_eq_true, Bool.and_eq_true, Bool.not_eq_true', and_assoc]

/-- An entry that counts leads from outside to inside. -/
theorem isEntered_iff : zone.isEntered now last = true ↔
    zone.contains last = false ∧ zone.contains now = true ∧
      zone.admitsCrossing now last = true := by
  rw [isEntered, Bool.and_eq_true, Bool.and_eq_true, Bool.not_eq_true', and_assoc]

/-- Between two places a zone is crossed in one way at most. -/
theorem not_isEntered_and_isLeft (zone : Zone P K) (now last : P) :
    ¬ (zone.isEntered now last = true ∧ zone.isLeft now last = true) := by
  rintro ⟨entered, left⟩
  have outside := (isEntered_iff.mp entered).1
  have inside := (isLeft_iff.mp left).1
  rw [outside] at inside
  exact Bool.noConfusion inside

/-- A crossing counts exactly if one of the two places is inside, and the crossing is admitted. -/
theorem isCrossed_iff : zone.isEntered now last = true ∨ zone.isLeft now last = true ↔
    zone.contains now ≠ zone.contains last ∧ zone.admitsCrossing now last = true := by
  rw [isEntered_iff, isLeft_iff]
  cases zone.contains now <;> cases zone.contains last <;> simp

/-- What lies in a line is within half its length of the center. -/
theorem distance_le_of_line {length : K} (line : zone.shape = .line length) {place : P}
    (inside : zone.contains place = true) : distance zone.center place ≤ length / 2 := by
  rw [contains, line] at inside
  exact of_decide_eq_true (Bool.and_eq_true_iff.mp inside).1

/-- A change that a line passes over has its place outside beyond the ends of the line. -/
theorem beyond_of_uncounted {length : K} (line : zone.shape = .line length)
    (change : zone.contains now ≠ zone.contains last)
    (uncounted : ¬ (zone.isEntered now last = true ∨ zone.isLeft now last = true)) :
    ∀ outside ∈ [now, last], zone.contains outside = false →
      ¬ distance zone.center outside ≤ length / 2 := by
  intro outside listed out near
  apply uncounted
  rw [isCrossed_iff, admitsCrossing_of_line line]
  have inside {place : P} : zone.contains place = true → distance zone.center place ≤ length / 2 :=
    distance_le_of_line line
  rcases List.mem_pair.mp listed with rfl | rfl
  · have within : zone.contains last = true := by
      rw [out] at change
      simpa using change.symm
    exact ⟨change, near, inside within⟩
  · have within : zone.contains now = true := by
      rw [out] at change
      simpa using change
    exact ⟨change, inside within, near⟩

/-! ## A track -/

/-- A crossing that counts. -/
inductive Crossing where
  /-- From outside to inside. -/
  | entry
  /-- From inside to outside. -/
  | exit
  deriving Repr, DecidableEq

/-- The crossings that count between two consecutive places. -/
def crossingsBetween (zone : Zone P K) (now last : P) : List Crossing :=
  (if zone.isEntered now last then [.entry] else []) ++
    (if zone.isLeft now last then [.exit] else [])

/-- The crossings that count on a track, in order. -/
def crossings (zone : Zone P K) : List P → List Crossing
  | last :: now :: rest => zone.crossingsBetween now last ++ zone.crossings (now :: rest)
  | _ => []

/-- The crossing by which a place is left for the other side. -/
def Crossing.awayFrom (inside : Bool) : Crossing := if inside then exit else entry

/-- Between two places an area is crossed exactly if one of them is inside. -/
theorem crossingsBetween_of_area (area : zone.isLine = false) (now last : P) :
    zone.crossingsBetween now last =
      if zone.contains now = zone.contains last then []
      else [.awayFrom (zone.contains last)] := by
  have admitted := admitsCrossing_of_area area now last
  rw [crossingsBetween, isEntered, isLeft, admitted]
  cases zone.contains now <;> cases zone.contains last <;> rfl

/-- The crossings of an area take turns, and the first of them leads away from where the track
begins. -/
theorem crossings_alternate (area : zone.isLine = false) (first : P) (rest : List P) :
    (zone.crossings (first :: rest)).IsChain (· ≠ ·) ∧
      ∀ crossing ∈ (zone.crossings (first :: rest)).head?,
        crossing = .awayFrom (zone.contains first) := by
  -- A crossing leads to the other side, and the next one leads away from there.
  induction rest generalizing first with
  | nil => exact ⟨List.isChain_nil, fun crossing listed => nomatch listed⟩
  | cons next rest ih =>
    have ⟨chain, starts⟩ := ih next
    rw [crossings, crossingsBetween_of_area area]
    by_cases same : zone.contains next = zone.contains first
    · rw [if_pos same, List.nil_append, ← same]
      exact ⟨chain, starts⟩
    · rw [if_neg same, List.singleton_append]
      have turns : Crossing.awayFrom (zone.contains first) ≠ .awayFrom (zone.contains next) := by
        revert same
        cases zone.contains next <;> cases zone.contains first <;> decide
      constructor
      · apply List.isChain_cons.mpr
        refine ⟨fun crossing listed => ?_, chain⟩
        rw [starts crossing listed]
        exact turns
      · intro crossing listed
        exact (Option.some.inj listed).symm

/-- On a track there are as many entries of an area more than exits as places inside at its end more
than at its beginning. -/
theorem count_entry_sub_count_exit (area : zone.isLine = false) (first : P) (rest : List P) :
    ((zone.crossings (first :: rest)).count .entry : Int) -
        (zone.crossings (first :: rest)).count .exit =
      (zone.contains ((first :: rest).getLast (List.cons_ne_nil first rest))).toInt -
        (zone.contains first).toInt := by
  induction rest generalizing first with
  | nil => simp [crossings]
  | cons next rest ih =>
    have onward := ih next
    have step : ((zone.crossingsBetween next first).count .entry : Int) -
        (zone.crossingsBetween next first).count .exit =
          (zone.contains next).toInt - (zone.contains first).toInt := by
      rw [crossingsBetween_of_area area]
      cases zone.contains next <;> cases zone.contains first <;> rfl
    rw [List.getLast_cons (List.cons_ne_nil next rest), crossings, List.count_append,
      List.count_append]
    push_cast
    omega

/-! ## Crossings in turn -/

/-- How a zone is crossed. -/
structure CrossedInTurn (zone : Zone P K) : Prop where
  /-- To enter is to leave the other way. -/
  dual : ∀ now last, zone.isEntered now last = zone.isLeft last now
  /-- No pair of places is both an entry and an exit. -/
  apart : ∀ now last, ¬ (zone.isEntered now last = true ∧ zone.isLeft now last = true)
  /-- A pair is one of them only if one of the two places is inside. -/
  changes : ∀ now last, zone.isEntered now last = true ∨ zone.isLeft now last = true →
    zone.contains now ≠ zone.contains last
  /-- Entries and exits of an area take turns on every track. -/
  alternate : zone.isLine = false → ∀ track, (zone.crossings track).IsChain (· ≠ ·)
  /-- They balance but for where the track begins and ends. -/
  balance : zone.isLine = false → ∀ track first final, track.head? = some first →
    track.getLast? = some final →
      ((zone.crossings track).count .entry : Int) - (zone.crossings track).count .exit =
        (zone.contains final).toInt - (zone.contains first).toInt
  /-- A line counts an entry if both places are within half its length of the center. -/
  entered : ∀ length, zone.shape = .line length → ∀ now last,
    (zone.isEntered now last = true ↔ zone.contains last = false ∧ zone.contains now = true ∧
      distance zone.center now ≤ length / 2 ∧ distance zone.center last ≤ length / 2)
  /-- It counts an exit if both are. -/
  left : ∀ length, zone.shape = .line length → ∀ now last,
    (zone.isLeft now last = true ↔ zone.contains last = true ∧ zone.contains now = false ∧
      distance zone.center now ≤ length / 2 ∧ distance zone.center last ≤ length / 2)
  /-- A change that it does not count has its place outside farther away. -/
  uncounted : ∀ length, zone.shape = .line length → ∀ now last,
    zone.contains now ≠ zone.contains last →
      ¬ (zone.isEntered now last = true ∨ zone.isLeft now last = true) →
        ∀ outside ∈ [now, last], zone.contains outside = false →
          ¬ distance zone.center outside ≤ length / 2

/-- Every zone of any shape is crossed in turn. -/
theorem crossed_in_turn (zone : Zone P K) : CrossedInTurn zone where
  dual := zone.isEntered_eq_isLeft
  apart := zone.not_isEntered_and_isLeft
  changes := fun _ _ crossed => (isCrossed_iff.mp crossed).1
  alternate := fun area track => by
    cases track with
    | nil => exact List.isChain_nil
    | cons first rest => exact (crossings_alternate area first rest).1
  balance := fun area track first final begins ends => by
    cases track with
    | nil => cases begins
    | cons head rest =>
      obtain rfl : head = first := Option.some.inj begins
      have last := List.getLast?_eq_some_getLast (List.cons_ne_nil head rest)
      obtain rfl := Option.some.inj (last.symm.trans ends)
      exact count_entry_sub_count_exit area head rest
  entered := fun _ line now last => by rw [isEntered_iff, admitsCrossing_of_line line]
  left := fun _ line now last => by rw [isLeft_iff, admitsCrossing_of_line line]
  uncounted := fun _ line _ _ change uncounted => beyond_of_uncounted line change uncounted

-- Out beyond the end of a line, round behind it and in again: only the entry counts.
example : crossings (⟨.line 10, ⟨0⟩, 0⟩ : Zone Milestone Rat) [⟨1⟩, ⟨9⟩, ⟨-1⟩, ⟨1⟩] = [.entry] := by
  decide +kernel

end Sailplane.Zone
