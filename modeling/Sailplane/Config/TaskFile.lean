import Sailplane.Config.TaskFormats
import Sailplane.Json.Text

/-!
# Task files and tracks

A task as it is stored: preferences, rules and the planned points. Building it gives the task to
fly. A track is the list of samples of a flight.
-/
namespace Sailplane.Config

open Json (Format Record)

/-- A point of a stored task. -/
structure PlannedPoint where
  /-- Start, turn point or finish. -/
  kind : PointKind
  /-- The waypoint. -/
  waypoint : Waypoint Position Float
  /-- The shape of its zone. -/
  shape : Shape Float

/-- A task as it is stored. -/
structure TaskFile where
  /-- The pilot's preferences. -/
  preferences : Preferences Float
  /-- The rules of the task. -/
  rules : Rules Float
  /-- The points in order. -/
  points : List PlannedPoint

/-- The kind of a point. -/
def pointKind : Format PointKind :=
  .variant [("start", .start), ("turn", .turn), ("finish", .finish)] fun
    | .start => "start"
    | .turn => "turn"
    | .finish => "finish"

/-- A planned point. -/
def plannedPoint : Format PlannedPoint :=
  ((Record.field "kind" pointKind).pair (.pair (.field "waypoint" waypoint) (.field "zone" shape))
    |>.map (fun (kind, waypoint, shape) => ⟨kind, waypoint, shape⟩)
      (fun point => (point.kind, point.waypoint, point.shape))).format "TaskPointConfig"

/-- A task file; preferences and rules may be left out. -/
def taskFile : Format TaskFile :=
  ((Record.field "behaviour" preferences (some .none)).pair
      (.pair (.field "settings" rules (some .none)) (.field "points" (.list plannedPoint)))
    |>.map (fun (preferences, rules, points) => ⟨preferences, rules, points⟩)
      (fun file => (file.preferences, file.rules, file.points))).format "TaskFile"

/-- A track. -/
def track : Format (List (Sample Position Float)) := .list sample

/-- The task point of a planned point, under preferences and rules. -/
def PlannedPoint.build (point : PlannedPoint) (preferences : Preferences Float)
    (rules : Rules Float) : TaskPoint Position Float :=
  match point.kind with
  | .start => .start (.new point.shape point.waypoint preferences rules.start)
  | .turn => .turn (.new point.shape point.waypoint)
  | .finish => .finish (.new point.shape point.waypoint rules.finish)

/-- The task to fly. -/
def TaskFile.build (file : TaskFile) : Except (TaskError Float) (OrderedTask Position Float) :=
  OrderedTask.new (file.points.map fun point => point.build file.preferences file.rules)
    file.preferences file.rules

/-! ## Loading -/

/-- The contents of a path, as far as they can be read. -/
inductive Contents where
  /-- A file with bytes. -/
  | file (bytes : List UInt8)
  /-- A directory. -/
  | directory
  /-- Nothing. -/
  | missing
  /-- Something that cannot be read for another reason. -/
  | locked (reason : String)
  deriving Repr

/-- Why a file cannot be used. -/
inductive LoadError where
  /-- It cannot be read as a text. -/
  | unreadable (path reason : String)
  /-- Its text is at fault or holds a value that does not fit. -/
  | refused (path : String) (error : Json.DecodeError)
  /-- Its task cannot be built. -/
  | task (error : TaskError Float)

/-- The words of a load error. -/
def LoadError.message : LoadError → String
  | unreadable path reason => "cannot read " ++ path ++ ": " ++ reason
  | refused path (.data mismatch) => "cannot parse " ++ path ++ ": " ++ mismatch.message
  | refused path (.text fault) => "cannot parse " ++ path ++ ": " ++ fault.message
  | task error => error.message

/-- The text of a path. -/
def readText (path : String) : Contents → Except LoadError (List UInt8)
  | .missing => .error (.unreadable path "No such file or directory (os error 2)")
  | .directory => .error (.unreadable path "Is a directory (os error 21)")
  | .locked reason => .error (.unreadable path reason)
  | .file bytes =>
    if (Text.ofBytes? bytes).isSome then .ok bytes
    else .error (.unreadable path "stream did not contain valid UTF-8")

/-- The value stored at a path. -/
def load {α : Type} (format : Format α) (path : String) (contents : Contents) :
    Except LoadError α := do
  let bytes ← readText path contents
  (format.parse bytes).mapError (.refused path)

/-- The task stored at a path. -/
def loadTask (path : String) (contents : Contents) :
    Except LoadError (OrderedTask Position Float) := do
  let file ← load taskFile path contents
  file.build.mapError .task

end Sailplane.Config
