import Sailplane.Task.Point

/-!
# Ordered tasks

A task is a start, any number of turn points and a finish, flown in this order. It is fed with
pairs of consecutive samples; only the point that comes next looks at a pair, so one pair makes
at most one event.
-/
namespace Sailplane

variable {P K : Type} [Scalar K]

/-- What a pair of samples achieves. -/
inductive TaskEvent (K : Type) where
  /-- The start was made. -/
  | started (time : K)
  /-- The turn point at an index was reached. -/
  | turnPoint (index : Nat)
  /-- The task was finished. -/
  | finished (time : K)
  deriving Repr, DecidableEq

/-- A task with its progress. -/
structure OrderedTask (P K : Type) [Scalar K] where
  /-- The points in order. -/
  points : List (TaskPoint P K)
  /-- The index of the point that comes next. -/
  active : Nat
  /-- Whether the finish was made. -/
  finished : Bool

namespace OrderedTask

/-! ## Shape -/

/-- Whether a kind of point may stand at a position of a task with a last position. -/
def fits (kind : PointKind) (position last : Nat) : Bool :=
  match kind with
  | .start => position == 0
  | .finish => position == last
  | .turn => position != 0 && position != last

/-- The first point that may not stand where it stands. -/
def misplaced? (points : List (TaskPoint P K)) : Option (TaskPoint P K × Nat) :=
  points.zipIdx.find? fun (point, position) => !fits point.kind position (points.length - 1)

/-- The points of a task: at least two, each where its kind may stand. -/
def checkShape (points : List (TaskPoint P K)) : Except (TaskError K) Unit :=
  if points.length < 2 then .error (.tooFewPoints points.length)
  else match misplaced? points with
    | none => .ok ()
    | some (point, position) => .error (.misplacedPoint point.anchor.waypoint.name position)

variable [Geodesy P K]

/-- Turn every point along the legs to its neighbours. -/
def wire (previous : Option P) : List (TaskPoint P K) → List (TaskPoint P K)
  | [] => []
  | point :: rest =>
    point.orient previous (rest.head?.map TaskPoint.place) :: wire (some point.place) rest

/-- The task of some points under preferences and rules, without progress of its own. -/
def new (points : List (TaskPoint P K)) (preferences : Preferences K) (rules : Rules K) :
    Except (TaskError K) (OrderedTask P K) := do
  checkShape points
  let configured := points.map fun point => (point.setPreferences preferences).setRules rules
  return ⟨wire none configured, 0, false⟩

/-! ## Progress -/

omit [Geodesy P K] in
/-- The start point. -/
def start? (task : OrderedTask P K) : Option (StartPoint P K) :=
  match task.points with
  | .start point :: _ => some point
  | _ => none

omit [Geodesy P K] in
/-- Whether the start was made. -/
def isStarted (task : OrderedTask P K) : Bool := task.start?.any StartPoint.isStarted

/-- Feed a pair of samples to the point that comes next: the event it makes, and the task after
it. -/
def update (task : OrderedTask P K) (now last : Sample P K) :
    Option (TaskEvent K) × OrderedTask P K :=
  if task.finished then (none, task)
  else match task.points[task.active]? with
    | none => (none, task)
    | some (.start point) =>
      let (started, point) := point.update now last
      let points := task.points.set task.active (.start point)
      if started then (some (.started now.time), { task with points, active := 1 })
      else (none, { task with points })
    | some (.turn anchor) =>
      if anchor.isEntered now last then
        (some (.turnPoint task.active), { task with active := task.active + 1 })
      else (none, task)
    | some (.finish point) =>
      if point.isEntered now last then (some (.finished now.time), { task with finished := true })
      else (none, task)

/-- The events of a track, fed as pairs of consecutive samples, with the task after it. -/
def fly (task : OrderedTask P K) : List (Sample P K) →
    List (Option (TaskEvent K)) × OrderedTask P K
  | last :: now :: rest =>
    let (event, task) := task.update now last
    let (events, task) := fly task (now :: rest)
    (event :: events, task)
  | _ => ([], task)

/-! ## Editing -/

omit [Geodesy P K] in
/-- The task under other preferences; its progress stays. -/
def setPreferences (task : OrderedTask P K) (preferences : Preferences K) : OrderedTask P K :=
  { task with points := task.points.map (TaskPoint.setPreferences preferences) }

omit [Geodesy P K] in
/-- The task under other rules; its progress stays. -/
def setRules (task : OrderedTask P K) (rules : Rules K) : OrderedTask P K :=
  { task with points := task.points.map (TaskPoint.setRules rules) }

omit [Geodesy P K] in
/-- The task without progress. -/
def reset (task : OrderedTask P K) : OrderedTask P K :=
  { points := match task.points with
      | .start point :: rest => .start point.reset :: rest
      | points => points
    active := 0
    finished := false }

end OrderedTask

end Sailplane
