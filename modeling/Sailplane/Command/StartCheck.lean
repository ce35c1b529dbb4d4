import Sailplane.Command.Outcome
import Sailplane.Config.TaskFile

/-!
# Start check

A recorded track is flown through a task, and a report tells what was achieved and when. The check
succeeds if the task was started.
-/
namespace Sailplane.Command

open Config (Contents LoadError)

variable {P K : Type} [Scalar K] [Geodesy P K]

/-- A line of a report. -/
inductive ReportLine (K : Type) where
  /-- The start was made. -/
  | started (time : K)
  /-- A turn point was reached. -/
  | turnPoint (index : Nat) (name : String) (time : K)
  /-- The task was finished. -/
  | finished (time : K)
  /-- No pair of that many samples is a start. -/
  | noStart (samples : Nat)
  /-- The task was started but not finished; which point comes next. -/
  | unfinished (next : Nat)
  deriving Repr, DecidableEq

/-- A line as it is printed. -/
def ReportLine.text : ReportLine Float → String
  | started time => "started at " ++ Decimal.shortest time
  | turnPoint index name time =>
    "turn point " ++ toString index ++ " (" ++ name ++ ") at " ++ Decimal.shortest time
  | finished time => "finished at " ++ Decimal.shortest time
  | noStart samples => "no valid start in " ++ toString samples ++ " fix(es)"
  | unfinished next => "task not finished, next point is #" ++ toString next

omit [Geodesy P K] in
/-- The line for an event of a task at a sample. -/
def ReportLine.of (task : OrderedTask P K) (now : Sample P K) : TaskEvent K → ReportLine K
  | .started time => started time
  | .turnPoint index =>
    turnPoint index ((task.points[index]?.map fun point => point.anchor.waypoint.name).getD "")
      now.time
  | .finished time => finished time

/-- The lines for the events of a track, with the task after it. -/
def flown (task : OrderedTask P K) : List (Sample P K) → List (ReportLine K) × OrderedTask P K
  | last :: now :: rest =>
    let (event, next) := task.update now last
    let (lines, reached) := flown next (now :: rest)
    (event.toList.map (ReportLine.of next now) ++ lines, reached)
  | _ => ([], task)

omit [Geodesy P K] in
/-- The line for a task that was not completed, after a number of samples. -/
def closing (task : OrderedTask P K) (samples : Nat) : List (ReportLine K) :=
  if !task.isStarted then [.noStart samples]
  else if !task.finished then [.unfinished task.active]
  else []

/-- The report on a track, and whether the task was started. -/
def startReport (task : OrderedTask P K) (track : List (Sample P K)) :
    List (ReportLine K) × Bool :=
  let (lines, reached) := flown task track
  (lines ++ closing reached track.length, reached.isStarted)

/-- Check the track of a file against the task of a file. -/
def startCheck (taskPath : String) (task : Contents) (trackPath : String) (track : Contents) :
    Outcome :=
  let checked : Except LoadError Outcome := do
    let task ← Config.loadTask taskPath task
    let track ← Config.load Config.track trackPath track
    let (lines, started) := startReport task track
    return .finished (lines.map ReportLine.text) [] started
  match checked with
  | .ok outcome => outcome
  | .error error => .failed error.message

end Sailplane.Command
