import Sailplane.Numeric.Decimal
import Sailplane.Task.Rules

/-!
# Words of task errors

How a refused task is reported.
-/
namespace Sailplane

/-- The words of a task error. -/
def TaskError.message : TaskError Float → String
  | reversedSpan begins ends =>
    "time span begins at " ++ Decimal.shortest begins ++ " but ends at " ++ Decimal.shortest ends
  | tooFewPoints count =>
    "invalid task shape: a task needs at least a start and a finish, got " ++ toString count ++
      " point(s)"
  | misplacedPoint name position =>
    "invalid task shape: unexpected task point '" ++ name ++ "' at position " ++ toString position

end Sailplane
