import Sailplane.Download.Event

/-!
# Kinds of events

By these a listener that follows a part tells when to act.
-/
namespace Sailplane.Rehearsal

open Download (Event)

/-- The kinds of events. -/
inductive EventKind where
  /-- A download stands in the queue. -/
  | added
  /-- A download has its result. -/
  | complete
  /-- A download ended without a result. -/
  | error
  deriving Repr, DecidableEq

/-- The kind of an event. -/
def EventKind.of : Event → EventKind
  | .added .. => .added
  | .complete _ => .complete
  | .error .. => .error

end Sailplane.Rehearsal
