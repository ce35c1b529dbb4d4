import Sailplane.Geo.Geodesy

/-!
# Observation zones

A zone is a shape anchored at a waypoint and turned along the legs of the task. It answers
whether a place lies inside, whether a pair of places crosses its border, and lists places on its
border. Everything here holds over any scalar and any geodesy.
-/
namespace Sailplane

/-- The shape of an observation zone; lengths in metres, angles in degrees. -/
inductive Shape (K : Type) where
  /-- A circle round the waypoint. -/
  | cylinder (radius : K)
  /-- The part of a circle between two fixed radials, clockwise. -/
  | sector (radius startRadial endRadial : K)
  /-- The part of a circle within half an angle of the zone's direction. -/
  | symmetricSector (radius angle : K)
  /-- A line through the waypoint, across the zone's direction. -/
  | line (length : K)
  deriving Repr, BEq, DecidableEq

namespace Shape

variable {K : Type}

/-- Whether the shape is a line. -/
def isLine : Shape K → Bool
  | line _ => true
  | _ => false

/-- Whether a zone of the shape has a top through which it can be left. -/
def hasTop (shape : Shape K) : Bool := !shape.isLine

end Shape

/-- A shape at a place, turned in a direction. -/
structure Zone (P K : Type) where
  /-- The shape. -/
  shape : Shape K
  /-- The place the shape is anchored at. -/
  center : P
  /-- The bearing from the center into the half plane of a line, or along the bisector of a
  symmetric sector. -/
  direction : K
  deriving Repr, BEq, DecidableEq

namespace Zone

variable {P K : Type} [Scalar K]

/-- A zone that has not been turned yet faces north. -/
def new (shape : Shape K) (center : P) : Zone P K := ⟨shape, center, 0⟩

/-- Whether the zone is a line. -/
def isLine (zone : Zone P K) : Bool := zone.shape.isLine

/-- Whether the zone has a top through which it can be left. -/
def hasTop (zone : Zone P K) : Bool := zone.shape.hasTop

variable [Geodesy P K]

open Geodesy (distance bearing destination)

/-- The direction of a zone between its neighbours: away from the only neighbour, or outward
between two; a zone without neighbours keeps its direction. -/
def facing (zone : Zone P K) : Option P → Option P → K
  | none, none => zone.direction
  | none, some next => Bearing.opposite (bearing zone.center next)
  | some previous, none => Bearing.opposite (bearing zone.center previous)
  | some previous, some next =>
    Bearing.outward (bearing zone.center previous) (bearing zone.center next)

/-- The zone turned along the legs to its neighbours. -/
def orient (zone : Zone P K) (previous next : Option P) : Zone P K :=
  { zone with direction := zone.facing previous next }

/-! ## Inside and outside -/

/-- Whether a place is no farther from the center than a reach, and is the center itself or in a
direction that is admitted. -/
def reaches (zone : Zone P K) (reach : K) (admitted : K → Bool) (place : P) : Bool :=
  let away := distance zone.center place
  decide (away ≤ reach) && (away == 0 || admitted (bearing zone.center place))

/-- Whether a place lies in the zone. -/
def contains (zone : Zone P K) (place : P) : Bool :=
  match zone.shape with
  | .cylinder radius => decide (distance zone.center place ≤ radius)
  | .sector radius startRadial endRadial =>
    zone.reaches radius (fun b => Bearing.within b startRadial endRadial) place
  | .symmetricSector radius angle =>
    zone.reaches radius (fun b => decide (Bearing.difference b zone.direction ≤ angle / 2)) place
  | .line length =>
    zone.reaches (length / 2) (fun b => decide (Bearing.difference b zone.direction ≤ 90)) place

/-! ## Crossings -/

/-- Whether a crossing between two places can count: always for an area, and for a line when both
places lie within half its length of the center. -/
def admitsCrossing (zone : Zone P K) (now last : P) : Bool :=
  match zone.shape with
  | .line length =>
    decide (distance zone.center now ≤ length / 2) &&
      decide (distance zone.center last ≤ length / 2)
  | _ => true

/-- The zone is left between two places. -/
def isLeft (zone : Zone P K) (now last : P) : Bool :=
  zone.contains last && !zone.contains now && zone.admitsCrossing now last

/-- The zone is entered between two places. -/
def isEntered (zone : Zone P K) (now last : P) : Bool :=
  !zone.contains last && zone.contains now && zone.admitsCrossing now last

/-! ## Border -/

/-- The places listed on a full circle. -/
def circleSteps : Nat := 40

/-- The parts an arc is divided into. -/
def arcSteps : Nat := 20

/-- The parts a line is divided into. -/
def lineSteps : Nat := 10

/-- The center and the places on the arc from one radial clockwise to another; equal radials
bound the full circle. -/
def arcBoundary (zone : Zone P K) (radius start finish : K) : List P :=
  let turn := Bearing.normalize (finish - start)
  let span := if turn == 0 then 360 else turn
  zone.center :: (List.range (arcSteps + 1)).map fun step =>
    destination zone.center
      (Bearing.normalize (start + span * Scalar.ofNat step / Scalar.ofNat arcSteps)) radius

/-- The place on a line at an offset from its center, negative to the left of its direction. -/
def onLine (zone : Zone P K) (offset : K) : P :=
  if offset < 0 then
    destination zone.center (Bearing.normalize (zone.direction - 90)) (-offset)
  else destination zone.center (Bearing.normalize (zone.direction + 90)) offset

/-- Places along the border of the zone, never none. -/
def boundary (zone : Zone P K) : List P :=
  match zone.shape with
  | .cylinder radius =>
    (List.range circleSteps).map fun step =>
      destination zone.center (Scalar.ofNat step * 360 / Scalar.ofNat circleSteps) radius
  | .sector radius startRadial endRadial => zone.arcBoundary radius startRadial endRadial
  | .symmetricSector radius angle =>
    zone.arcBoundary radius (Bearing.normalize (zone.direction - angle / 2))
      (Bearing.normalize (zone.direction + angle / 2))
  | .line length =>
    (List.range (lineSteps + 1)).map fun step =>
      zone.onLine (-(length / 2) + length * Scalar.ofNat step / Scalar.ofNat lineSteps)

end Zone

end Sailplane
