import Sailplane.Geo.Geodesy

/-!
# Waypoints and samples

What a task is made of and what it is flown with: named places with their terrain elevation, and
the fixes a flight recorder writes.
-/
namespace Sailplane

/-- A named place of a task. -/
structure Waypoint (P K : Type) where
  /-- The name pilots use. -/
  name : String
  /-- Where it lies. -/
  place : P
  /-- The terrain elevation above mean sea level, in metres. -/
  elevation : K
  deriving Repr

/-- One recorded fix of a flight. -/
structure Sample (P K : Type) where
  /-- Where the glider is. -/
  place : P
  /-- Altitude above mean sea level, in metres. -/
  altitude : K
  /-- Speed over ground, in metres per second. -/
  groundSpeed : K
  /-- Seconds of the day. -/
  time : K
  deriving Repr

end Sailplane
