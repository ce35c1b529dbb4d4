import Sailplane.Numeric.Scalar

/-!
# Bearings

A bearing is an angle in degrees, clockwise from north. Bearings are compared after whole turns
have been taken away, so the arithmetic accepts any angle.
-/
namespace Sailplane.Bearing

variable {K : Type} [Scalar K]

/-- The same direction as an angle in `[0, 360)`. Taking whole turns away from a tiny negative
double rounds to a full turn, which is north again. -/
def normalize (degrees : K) : K :=
  let rest := Scalar.residue degrees 360
  if 360 ≤ rest then 0 else rest

/-- The opposite direction. -/
def opposite (degrees : K) : K := normalize (degrees + 180)

/-- The angle between two bearings, in `[0, 180]`. -/
def difference (left right : K) : K :=
  let turn := normalize (left - right)
  if 180 < turn then 360 - turn else turn

/-- Whether a bearing lies on the clockwise arc between two radials. Equal radials bound the
full circle. -/
def within (bearing start finish : K) : Bool :=
  let span := normalize (finish - start)
  span == 0 || decide (normalize (bearing - start) ≤ span)

/-- The outward direction between the bearings to the previous and to the next point: opposite to
the bisector of the smaller angle between them. -/
def outward (toPrevious toNext : K) : K :=
  let turn := normalize (toNext - toPrevious)
  let half := if turn ≤ 180 then turn / 2 else (turn - 360) / 2
  normalize (toPrevious + half + 180)

end Sailplane.Bearing
