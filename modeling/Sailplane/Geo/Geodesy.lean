import Sailplane.Geo.Bearing

/-!
# Geodesy

What the task geometry needs to know of the earth: how far two places are apart, in which
direction one lies from the other, and where a course of some length ends. Flights use the
sphere of `Sailplane.Geo.Sphere`; laws of zones hold over any geodesy with the stated properties.
-/
namespace Sailplane

/-- Distances, bearings and courses between places. Distances are metres, bearings degrees. -/
class Geodesy (P : Type) (K : outParam Type) where
  /-- The length of the shortest path between two places. -/
  distance : P → P → K
  /-- The initial bearing of the shortest path from the first place to the second. -/
  bearing : P → P → K
  /-- The place reached from an origin on an initial bearing after a distance. -/
  destination : P → K → K → P

namespace Geodesy

variable {P K : Type} [Scalar K] [Geodesy P K]

/-- The length of the path from the first place through the second to the third. -/
def distanceVia (origin via target : P) : K :=
  distance origin via + distance via target

end Geodesy

end Sailplane
