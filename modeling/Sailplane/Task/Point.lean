import Sailplane.Task.Rules
import Sailplane.Task.Zone

/-!
# Points of a task

A task point is a waypoint with an observation zone. A start point also carries the start gate
and remembers whether it was passed; a finish point carries a height limit. A turn point is
nothing but its zone.
-/
namespace Sailplane

variable {P K : Type} [Scalar K]

/-- A waypoint with the zone anchored at it. -/
structure Anchor (P K : Type) where
  /-- The waypoint. -/
  waypoint : Waypoint P K
  /-- The zone round it. -/
  zone : Zone P K
  deriving Repr

namespace Anchor

/-- A waypoint with a zone of a shape that has not been turned yet. -/
def new (shape : Shape K) (waypoint : Waypoint P K) : Anchor P K :=
  ⟨waypoint, Zone.new shape waypoint.place⟩

variable [Geodesy P K]

/-- The zone turned along the legs to its neighbours. -/
def orient (anchor : Anchor P K) (previous next : Option P) : Anchor P K :=
  { anchor with zone := anchor.zone.orient previous next }

/-- Whether a sample lies in the zone, at any height. -/
def contains (anchor : Anchor P K) (sample : Sample P K) : Bool :=
  anchor.zone.contains sample.place

/-- Whether the zone is left between two samples. -/
def isLeft (anchor : Anchor P K) (now last : Sample P K) : Bool :=
  anchor.zone.isLeft now.place last.place

/-- Whether the zone is entered between two samples. -/
def isEntered (anchor : Anchor P K) (now last : Sample P K) : Bool :=
  anchor.zone.isEntered now.place last.place

end Anchor

/-! ## Start -/

/-- Whether a start point was passed. -/
inductive StartState (K : Type) where
  /-- Not yet. -/
  | notStarted
  /-- At the time of the first sample outside. -/
  | started (time : K)
  deriving Repr, DecidableEq

/-- The first point of a task, with the gate a start has to pass. -/
structure StartPoint (P K : Type) [Scalar K] where
  /-- Waypoint and zone. -/
  anchor : Anchor P K
  /-- The pilot's preferences. -/
  preferences : Preferences K
  /-- The start limits. -/
  rules : StartRules K
  /-- The result of the last search for the best start. -/
  bestStart : Option P
  /-- Whether it was passed. -/
  state : StartState K

namespace StartPoint

/-- A start point that was not passed. -/
def new (shape : Shape K) (waypoint : Waypoint P K) (preferences : Preferences K)
    (rules : StartRules K) : StartPoint P K :=
  ⟨Anchor.new shape waypoint, preferences, rules, none, .notStarted⟩

/-- Whether the start was made. -/
def isStarted (start : StartPoint P K) : Bool :=
  match start.state with
  | .notStarted => false
  | .started _ => true

/-- The elevation to arrive at when coming back to the start. -/
def elevation (start : StartPoint P K) : K :=
  start.anchor.waypoint.elevation + start.preferences.safetyHeight

/-- Whether a sample is not above the start height. -/
def admitsHeight (start : StartPoint P K) (sample : Sample P K) : Bool :=
  start.rules.admitsHeight (some start.preferences.margins) start.anchor.waypoint.elevation sample

/-- Whether a sample is within the start speeds. -/
def admitsSpeed (start : StartPoint P K) (sample : Sample P K) : Bool :=
  start.rules.admitsSpeed (some start.preferences.margins) sample.groundSpeed

/-- Whether the start is open while the zone is left: it was open at the sample inside, and is
neither over nor closed by a pilot event at the sample outside. -/
def isOpen (start : StartPoint P K) (now last : Sample P K) : Bool :=
  start.rules.openSpan.hasBegun last.time && !start.rules.openSpan.hasEnded now.time &&
    start.rules.admitsPilotEvent now.time

variable [Geodesy P K]

/-- The zone turned away from the first leg. -/
def orient (start : StartPoint P K) (next : Option P) : StartPoint P K :=
  { start with anchor := start.anchor.orient none next }

/-- Whether a sample lies in the zone and below the start height. -/
def contains (start : StartPoint P K) (sample : Sample P K) : Bool :=
  start.anchor.contains sample && start.admitsHeight sample

/-- Whether the zone is left through its top: from a sample inside to one above the start
height, where the shape has a top and the pilot wants such starts. -/
def isLeftThroughTop (start : StartPoint P K) (now last : Sample P K) : Bool :=
  !start.anchor.zone.isLine && start.anchor.zone.admitsCrossing now.place last.place &&
    !start.admitsHeight now && start.admitsHeight last && start.anchor.contains last &&
    start.anchor.zone.hasTop && start.preferences.startThroughTop

/-- Whether a pair of samples is a start: the gate is open, both speeds are within the limits,
and the zone is left sideways below the start height or through its top. -/
def isExit (start : StartPoint P K) (now last : Sample P K) : Bool :=
  start.isOpen now last && start.admitsSpeed now && start.admitsSpeed last &&
    if start.admitsHeight now && start.admitsHeight last then start.anchor.isLeft now last
    else start.isLeftThroughTop now last

/-- Feed a pair of samples: whether it makes the start, and the start point after it. -/
def update (start : StartPoint P K) (now last : Sample P K) : Bool × StartPoint P K :=
  if !start.isStarted && start.isExit now last then
    (true, { start with state := .started now.time })
  else (false, start)

/-- The first of the shortest: an element that is shorter than all before it and not longer than
any after it. -/
def firstShortest (length : P → K) (best : P) : List P → P
  | [] => best
  | next :: rest =>
    firstShortest length (if length next < length best then next else best) rest

/-- The place on the border that makes the path from a sample through the start to the next point
shortest; the first of several such places. -/
def bestStartFor (start : StartPoint P K) (sample : Sample P K) (next : P) : P :=
  let length (via : P) := Geodesy.distanceVia sample.place via next
  match start.anchor.zone.boundary with
  | [] => start.anchor.waypoint.place
  | first :: rest => firstShortest length first rest

/-- Search the best start and remember it. -/
def findBestStart (start : StartPoint P K) (sample : Sample P K) (next : P) :
    P × StartPoint P K :=
  let best := start.bestStartFor sample next
  (best, { start with bestStart := some best })

omit [Geodesy P K] in
/-- Forget the start and the search. -/
def reset (start : StartPoint P K) : StartPoint P K :=
  { start with state := .notStarted, bestStart := none }

end StartPoint

/-! ## Finish -/

/-- The last point of a task. -/
structure FinishPoint (P K : Type) where
  /-- Waypoint and zone. -/
  anchor : Anchor P K
  /-- The finish limit. -/
  rules : FinishRules K
  deriving Repr

namespace FinishPoint

/-- A finish point with a zone of a shape. -/
def new (shape : Shape K) (waypoint : Waypoint P K) (rules : FinishRules K) : FinishPoint P K :=
  ⟨Anchor.new shape waypoint, rules⟩

/-- Whether a sample is not below the finish height. -/
def admitsHeight (finish : FinishPoint P K) (sample : Sample P K) : Bool :=
  finish.rules.admitsHeight finish.anchor.waypoint.elevation sample

variable [Geodesy P K]

/-- The zone turned away from the last leg. -/
def orient (finish : FinishPoint P K) (previous : Option P) : FinishPoint P K :=
  { finish with anchor := finish.anchor.orient previous none }

/-- Whether a sample lies in the zone and above the finish height. -/
def contains (finish : FinishPoint P K) (sample : Sample P K) : Bool :=
  finish.anchor.contains sample && finish.admitsHeight sample

/-- Whether a pair of samples is a finish. -/
def isEntered (finish : FinishPoint P K) (now last : Sample P K) : Bool :=
  finish.admitsHeight now && finish.anchor.isEntered now last

end FinishPoint

/-! ## Any point -/

/-- The kind of a task point. -/
inductive PointKind where
  /-- The first point. -/
  | start
  /-- A point between start and finish. -/
  | turn
  /-- The last point. -/
  | finish
  deriving Repr, DecidableEq

/-- One point of a task. -/
inductive TaskPoint (P K : Type) [Scalar K] where
  /-- A start point. -/
  | start (point : StartPoint P K)
  /-- A turn point. -/
  | turn (anchor : Anchor P K)
  /-- A finish point. -/
  | finish (point : FinishPoint P K)

namespace TaskPoint

/-- The kind of a point. -/
def kind : TaskPoint P K → PointKind
  | start _ => .start
  | turn _ => .turn
  | finish _ => .finish

/-- Waypoint and zone of a point. -/
def anchor : TaskPoint P K → Anchor P K
  | start point => point.anchor
  | turn anchor => anchor
  | finish point => point.anchor

/-- Where a point lies. -/
def place (point : TaskPoint P K) : P := point.anchor.waypoint.place

/-- The point under other preferences. -/
def setPreferences (preferences : Preferences K) : TaskPoint P K → TaskPoint P K
  | start point => start { point with preferences }
  | turn anchor => turn anchor
  | finish point => finish point

/-- The point under other rules. -/
def setRules (rules : Rules K) : TaskPoint P K → TaskPoint P K
  | start point => start { point with rules := rules.start }
  | turn anchor => turn anchor
  | finish point => finish { point with rules := rules.finish }

variable [Geodesy P K]

/-- The point turned along the legs to its neighbours. A start has no leg before it and a finish
none after it. -/
def orient (previous next : Option P) : TaskPoint P K → TaskPoint P K
  | start point => start (point.orient next)
  | turn anchor => turn (anchor.orient previous next)
  | finish point => finish (point.orient previous)

/-- Whether a sample lies in the zone, and within the height limit of a start or finish. -/
def contains : TaskPoint P K → Sample P K → Bool
  | start point => point.contains
  | turn anchor => anchor.contains
  | finish point => point.contains

end TaskPoint

end Sailplane
