import Sailplane.Geo.Geodesy
import Sailplane.Numeric.Binary64

/-!
# The spherical earth

Positions in degrees on a sphere of the mean earth radius. Distances use the half-angle formula,
which is exact for short legs; the order of the operations below fixes the last digit of every
result.
-/
namespace Sailplane

/-- A place on the earth, in degrees. -/
structure Position where
  /-- Degrees north of the equator. -/
  latitude : Float
  /-- Degrees east of the zero meridian. -/
  longitude : Float
  deriving Repr

namespace Sphere

/-- The mean radius of the earth in metres. -/
def radius : Float := 6371000.0

/-- Half a turn in radians. -/
def pi : Float := 3.141592653589793

/-- An angle in degrees as radians. -/
def radians (degrees : Float) : Float := degrees * (pi / 180.0)

/-- An angle in radians as degrees. -/
def degrees (radians : Float) : Float := radians * (180.0 / pi)

/-- The square of a number. -/
def square (value : Float) : Float := value * value

/-- A number, but at most one; an undefined number counts as one. -/
def atMostOne (value : Float) : Float :=
  if value.isNaN then 1.0 else if value < 1.0 then value else 1.0

/-- The great-circle distance of two positions. -/
def distance (origin target : Position) : Float :=
  let latitude := radians origin.latitude
  let latitude' := radians target.latitude
  let northing := radians (target.latitude - origin.latitude)
  let easting := radians (target.longitude - origin.longitude)
  let haversine := square (northing / 2.0).sin
    + latitude.cos * latitude'.cos * square (easting / 2.0).sin
  2.0 * radius * (atMostOne haversine.sqrt).asin

/-- The initial bearing of the great circle from one position to another. -/
def bearing (origin target : Position) : Float :=
  let latitude := radians origin.latitude
  let latitude' := radians target.latitude
  let easting := radians (target.longitude - origin.longitude)
  let across := easting.sin * latitude'.cos
  let along := latitude.cos * latitude'.sin - latitude.sin * latitude'.cos * easting.cos
  Bearing.normalize (degrees (Float.atan2 across along))

/-- A longitude in `(-180, 180]`. -/
def normalizeLongitude (longitude : Float) : Float :=
  let shifted := Bearing.normalize (longitude + 180.0) - 180.0
  if shifted == -180.0 then 180.0 else shifted

/-- The position reached on a great circle from an origin on an initial bearing. -/
def destination (origin : Position) (bearing distance : Float) : Position :=
  let arc := distance / radius
  let course := radians bearing
  let latitude := radians origin.latitude
  let latitude' := (latitude.sin * arc.cos + latitude.cos * arc.sin * course.cos).asin
  let longitude' := radians origin.longitude
    + Float.atan2 (course.sin * arc.sin * latitude.cos)
      (arc.cos - latitude.sin * latitude'.sin)
  ⟨degrees latitude', normalizeLongitude (degrees longitude')⟩

end Sphere

/-- The geodesy flights are evaluated with. -/
instance : Geodesy Position Float where
  distance := Sphere.distance
  bearing := Sphere.bearing
  destination := Sphere.destination

end Sailplane
