import Sailplane.Download.Failure
import Sailplane.Download.Status

/-!
# Events

What listeners are told about the downloads of a queue.
-/
namespace Sailplane.Download

/-- What a listener is told. -/
inductive Event where
  /-- A download stands in the queue; how far it is. -/
  | added (name : String) (status : Status)
  /-- A download has its result. -/
  | complete (name : String)
  /-- A download ended without a result; without a failure it was cancelled. -/
  | error (name : String) (failure : Option Failure)
  deriving Repr, DecidableEq

/-- The name of the download an event is about. -/
def Event.name : Event → String
  | added name _ => name
  | complete name => name
  | error name _ => name

end Sailplane.Download
