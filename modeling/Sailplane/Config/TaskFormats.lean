import Sailplane.Json.Record
import Sailplane.Task.Message
import Sailplane.Task.OrderedTask
import Sailplane.Geo.Sphere

/-!
# Formats of task values

How positions, zones, rules and samples are stored. Rules and preferences may leave out any part,
which then has the value of no limit; margins have to be complete.
-/
namespace Sailplane.Config

open Json (Format Record Alternative)

/-- A position. -/
def position : Format Position :=
  ((Record.field "latitude" .real).pair (.field "longitude" .real)
    |>.map (fun (latitude, longitude) => ⟨latitude, longitude⟩)
      (fun place => (place.latitude, place.longitude))).format "GeoPoint"

/-- A waypoint; without an elevation it lies at sea level. -/
def waypoint : Format (Waypoint Position Float) :=
  ((Record.field "name" .text).pair (.pair (.field "location" position)
      (.field "elevation" .real (some 0)))
    |>.map (fun (name, place, elevation) => ⟨name, place, elevation⟩)
      (fun waypoint => (waypoint.name, waypoint.place, waypoint.elevation))).format "Waypoint"

/-- A sample of a track. -/
def sample : Format (Sample Position Float) :=
  ((Record.field "location" position).pair (.pair (.field "altitude" .real)
      (.pair (.field "ground_speed" .real) (.field "time" .real)))
    |>.map (fun (place, altitude, groundSpeed, time) => ⟨place, altitude, groundSpeed, time⟩)
      (fun sample => (sample.place, sample.altitude, sample.groundSpeed, sample.time))).format
    "AircraftState"

/-! ## Zones -/

/-- The content of a cylinder. -/
def cylinder : Record Float := .field "radius" .real

/-- The content of a sector. -/
def sector : Record (Float × Float × Float) :=
  .pair (.field "radius" .real) (.pair (.field "start_radial" .real) (.field "end_radial" .real))

/-- The content of a symmetric sector. -/
def symmetricSector : Record (Float × Float) :=
  .pair (.field "radius" .real) (.field "angle" .real)

/-- The content of a line. -/
def line : Record Float := .field "length" .real

/-- The shapes a stored zone can have. -/
def shapes : List (Alternative (Shape Float)) :=
  [⟨"cylinder", "Cylinder", _, cylinder, .cylinder⟩,
    ⟨"sector", "Sector", _, sector,
      fun (radius, startRadial, endRadial) => .sector radius startRadial endRadial⟩,
    ⟨"symmetric_sector", "SymmetricSector", _, symmetricSector,
      fun (radius, angle) => .symmetricSector radius angle⟩,
    ⟨"line", "Line", _, line, .line⟩]

/-- The shape of a zone. -/
def shape : Format (Shape Float) :=
  .tagged "type" "ObservationZone" shapes fun
    | .cylinder radius => ("cylinder", cylinder.encode radius)
    | .sector radius startRadial endRadial =>
      ("sector", sector.encode (radius, startRadial, endRadial))
    | .symmetricSector radius angle => ("symmetric_sector", symmetricSector.encode (radius, angle))
    | .line length => ("line", line.encode length)

/-! ## Rules -/

/-- The bounds of a time span, which may be out of order. -/
def bounds : Format (Option Float × Option Float) :=
  ((Record.field "begin" (.option .real) (some none)).pair
    (.field "end" (.option .real) (some none))).format "RawTimeSpan"

/-- A time span; one that ends before it begins is refused. -/
def timeSpan : Format (TimeSpan Float) :=
  bounds.checked (fun (begins, ends) => (TimeSpan.new begins ends).mapError TaskError.message)
    (fun span => (span.begins, span.ends))

/-- The surface a height limit is measured from. -/
def heightReference : Format HeightReference :=
  .variant [("msl", .seaLevel), ("agl", .ground)] fun
    | .seaLevel => "msl"
    | .ground => "agl"

/-- Start margins, both of them. -/
def startMargins : Format (StartMargins Float) :=
  ((Record.field "max_speed_margin" .real).pair (.field "max_height_margin" .real)
    |>.map (fun (speed, height) => ⟨speed, height⟩)
      (fun margins => (margins.speed, margins.height))).format "StartMargins"

/-- The limits of a start. -/
def startRules : Format (StartRules Float) :=
  ((Record.field "open_time_span" timeSpan (some .unbounded)).pair
      (.pair (.field "min_speed" .real (some 0))
        (.pair (.field "max_speed" .real (some 0))
          (.pair (.field "max_height" .real (some 0))
            (.pair (.field "max_height_ref" heightReference (some .seaLevel))
              (.pair (.field "pev_open" (.option .real) (some none))
                (.field "pev_closed" (.option .real) (some none)))))))
    |>.map (fun (openSpan, minSpeed, maxSpeed, maxHeight, reference, opens, closes) =>
        ⟨openSpan, minSpeed, maxSpeed, maxHeight, reference, opens, closes⟩)
      (fun rules => (rules.openSpan, rules.minSpeed, rules.maxSpeed, rules.maxHeight,
        rules.maxHeightReference, rules.pilotOpens, rules.pilotCloses))).format "StartConstraints"

/-- The limit of a finish. -/
def finishRules : Format (FinishRules Float) :=
  ((Record.field "min_height" .real (some 0)).pair
      (.field "min_height_ref" heightReference (some .seaLevel))
    |>.map (fun (minHeight, reference) => ⟨minHeight, reference⟩)
      (fun rules => (rules.minHeight, rules.minHeightReference))).format "FinishConstraints"

/-- The rules of a task. -/
def rules : Format (Rules Float) :=
  ((Record.field "start_constraints" startRules (some .none)).pair
      (.field "finish_constraints" finishRules (some .none))
    |>.map (fun (start, finish) => ⟨start, finish⟩)
      (fun rules => (rules.start, rules.finish))).format "OrderedTaskSettings"

/-- A pilot's preferences. -/
def preferences : Format (Preferences Float) :=
  ((Record.field "safety_height_arrival" .real (some 0)).pair
      (.pair (.field "start_margins" startMargins (some ⟨0, 0⟩))
        (.field "start_through_top" .bool (some false)))
    |>.map (fun (safetyHeight, margins, startThroughTop) =>
        ⟨safetyHeight, margins, startThroughTop⟩)
      (fun preferences => (preferences.safetyHeight, preferences.margins,
        preferences.startThroughTop))).format "TaskBehaviour"

end Sailplane.Config
