import Sailplane.Task.Sample

/-!
# Rules of a task

The limits that gate a start and a finish, and the pilot's own preferences. A limit of zero is no
limit, and an absent bound is open. A time span that ends before it begins cannot be built.
-/
namespace Sailplane

/-- Why a task or a part of it is refused. -/
inductive TaskError (K : Type) where
  /-- A time span begins after it ends. -/
  | reversedSpan (begins ends : K)
  /-- A task has fewer points than a start and a finish. -/
  | tooFewPoints (count : Nat)
  /-- A point stands where a point of its kind cannot stand. -/
  | misplacedPoint (name : String) (position : Nat)
  deriving Repr, DecidableEq

variable {P K : Type} [Scalar K]

/-- A window of times; an absent bound is open. -/
structure TimeSpan (K : Type) [Scalar K] where
  /-- The first time inside. -/
  begins : Option K
  /-- The first time after it. -/
  ends : Option K
  /-- It does not begin after it ends. -/
  ordered : ∀ b ∈ begins, ∀ e ∈ ends, ¬ e < b

namespace TimeSpan

/-- The window without any bound. -/
def unbounded : TimeSpan K := ⟨none, none, by simp⟩

/-- The window between two bounds, refused if it begins after it ends. -/
def new : (begins ends : Option K) → Except (TaskError K) (TimeSpan K)
  | none, ends => .ok ⟨none, ends, by simp⟩
  | some b, none => .ok ⟨some b, none, by simp⟩
  | some b, some e =>
    if reversed : e < b then .error (.reversedSpan b e)
    else .ok ⟨some b, some e, by simpa using reversed⟩

/-- Whether a time is not before the window. -/
def hasBegun (span : TimeSpan K) (time : K) : Bool :=
  match span.begins with
  | none => true
  | some begins => decide (begins ≤ time)

/-- Whether a time is after the window. -/
def hasEnded (span : TimeSpan K) (time : K) : Bool :=
  match span.ends with
  | none => false
  | some ends => decide (ends ≤ time)

end TimeSpan

/-- The surface a height limit is measured from. -/
inductive HeightReference where
  /-- Mean sea level. -/
  | seaLevel
  /-- The elevation of the task point. -/
  | ground
  deriving Repr, DecidableEq

/-- The height of a sample over a reference surface. -/
def HeightReference.heightOf (reference : HeightReference) (sample : Sample P K)
    (elevation : K) : K :=
  match reference with
  | seaLevel => sample.altitude
  | ground => sample.altitude - elevation

/-- Tolerances on top of the published limits. -/
structure StartMargins (K : Type) where
  /-- Added to the greatest speed. -/
  speed : K
  /-- Added to the greatest height. -/
  height : K
  deriving Repr

/-- The limits that gate a start. -/
structure StartRules (K : Type) [Scalar K] where
  /-- When the start is open. -/
  openSpan : TimeSpan K
  /-- The least ground speed. -/
  minSpeed : K
  /-- The greatest ground speed, zero for none. -/
  maxSpeed : K
  /-- The greatest height, zero for none. -/
  maxHeight : K
  /-- The surface the greatest height is measured from. -/
  maxHeightReference : HeightReference
  /-- A pilot event opens the start at this time. -/
  pilotOpens : Option K
  /-- A pilot event closes the start after this time. -/
  pilotCloses : Option K

namespace StartRules

/-- No limits at all. -/
def none : StartRules K := ⟨.unbounded, 0, 0, 0, .seaLevel, .none, .none⟩

/-- Whether a ground speed is within the limits. -/
def admitsSpeed (rules : StartRules K) (margins : Option (StartMargins K)) (speed : K) : Bool :=
  !decide (speed < rules.minSpeed) &&
    (decide (rules.maxSpeed ≤ 0) ||
      decide (speed ≤ rules.maxSpeed + (margins.map (·.speed)).getD 0))

/-- Whether a sample is not above the height limit. -/
def admitsHeight (rules : StartRules K) (margins : Option (StartMargins K)) (elevation : K)
    (sample : Sample P K) : Bool :=
  decide (rules.maxHeight ≤ 0) ||
    decide (rules.maxHeightReference.heightOf sample elevation ≤
      rules.maxHeight + (margins.map (·.height)).getD 0)

/-- Whether the pilot events admit a time. -/
def admitsPilotEvent (rules : StartRules K) (time : K) : Bool :=
  !(rules.pilotOpens.any fun opens => decide (time < opens)) &&
    !(rules.pilotCloses.any fun closes => decide (closes < time))

end StartRules

/-- The limit that gates a finish. -/
structure FinishRules (K : Type) where
  /-- The least height, zero for none. -/
  minHeight : K
  /-- The surface the least height is measured from. -/
  minHeightReference : HeightReference
  deriving Repr

namespace FinishRules

/-- No limit. -/
def none : FinishRules K := ⟨0, .seaLevel⟩

/-- Whether a sample is not below the height limit. -/
def admitsHeight (rules : FinishRules K) (elevation : K) (sample : Sample P K) : Bool :=
  decide (rules.minHeight ≤ 0) ||
    decide (rules.minHeight ≤ rules.minHeightReference.heightOf sample elevation)

end FinishRules

/-- A pilot's preferences. -/
structure Preferences (K : Type) where
  /-- The height reserve added to the start elevation. -/
  safetyHeight : K
  /-- Tolerances on the start limits. -/
  margins : StartMargins K
  /-- Whether climbing out through the top of an area counts as a start. -/
  startThroughTop : Bool
  deriving Repr

/-- No reserve, no tolerance, no start through the top. -/
def Preferences.none : Preferences K := ⟨0, ⟨0, 0⟩, false⟩

/-- The rules of a task. -/
structure Rules (K : Type) [Scalar K] where
  /-- What gates the start. -/
  start : StartRules K
  /-- What gates the finish. -/
  finish : FinishRules K

/-- No limits at all. -/
def Rules.none : Rules K := ⟨.none, .none⟩

end Sailplane
