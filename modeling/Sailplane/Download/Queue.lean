import Sailplane.Download.Event
import Sailplane.Download.Request

/-!
# Queue

Requests in the order they were queued, of which the first one runs. Every change records at most
one notice for the listeners and starts the first request if nothing runs. Requests are told apart
by tickets and transfers by serials, neither of which is used twice.
-/
namespace Sailplane.Download

/-- A queued request. -/
structure Entry where
  /-- The number given to the request when it was queued. -/
  ticket : Nat
  /-- The request. -/
  request : Request
  deriving Repr, DecidableEq

/-- The name of the request. -/
def Entry.name (entry : Entry) : String := entry.request.name

/-- What a queue has to tell about one of its requests. -/
inductive Notice where
  /-- It was queued. -/
  | added (entry : Entry)
  /-- It has its result. -/
  | complete (entry : Entry)
  /-- It ended without a result; without a failure it was cancelled. -/
  | error (entry : Entry) (failure : Option Failure)
  deriving Repr, DecidableEq

namespace Notice

/-- The request a notice is about. -/
def entry : Notice → Entry
  | added entry => entry
  | complete entry => entry
  | error entry _ => entry

/-- Whether the request has left the queue. -/
def isTerminal : Notice → Bool
  | added _ => false
  | complete _ => true
  | error _ _ => true

/-- What listeners are told. -/
def event : Notice → Event
  | added entry => .added entry.name .queued
  | complete entry => .complete entry.name
  | error entry failure => .error entry.name failure

/-- The notice that a request is over, with a failure or without. -/
def ending (entry : Entry) : Option Failure → Notice
  | none => complete entry
  | some failure => error entry (some failure)

end Notice

/-- A transfer that has been started. -/
structure Launch where
  /-- The number of the transfer. -/
  serial : Nat
  /-- The request it is for. -/
  entry : Entry
  deriving Repr, DecidableEq

/-- The state of a queue. -/
structure Queue where
  /-- The requests in order; the first one runs. -/
  entries : List Entry
  /-- The serial of the transfer that runs. -/
  active : Option Nat
  /-- The serial given out last. -/
  serial : Nat
  /-- How many tickets were given out. -/
  issued : Nat
  /-- The notices that have not been handed out. -/
  outbox : List Notice
  /-- Whether notices are being handed out. -/
  delivering : Bool
  deriving Repr, DecidableEq

/-- What a change of a queue comes to. -/
structure Change where
  /-- The queue after it. -/
  queue : Queue
  /-- The notices it recorded. -/
  recorded : List Notice
  /-- The transfer to stop. -/
  stopped : Option Nat
  /-- The transfer to start. -/
  started : Option Launch
  deriving Repr, DecidableEq

namespace Queue

/-- Nothing was ever queued. -/
def empty : Queue := ⟨[], none, 0, 0, [], false⟩

/-- Whether nothing is queued and nothing is left to tell. -/
def isIdle (queue : Queue) : Bool :=
  queue.active.isNone && queue.entries.isEmpty && queue.outbox.isEmpty && !queue.delivering

/-- Start the first request if nothing runs. -/
def startHead (queue : Queue) : Queue × Option Launch :=
  match queue.active, queue.entries with
  | none, entry :: _ =>
    ({ queue with active := some (queue.serial + 1), serial := queue.serial + 1 },
      some ⟨queue.serial + 1, entry⟩)
  | _, _ => (queue, none)

/-- Record a notice, and start the first request if nothing runs. -/
def record (queue : Queue) (notice : Notice) (stopped : Option Nat) : Change :=
  let (queue, started) := startHead { queue with outbox := queue.outbox ++ [notice] }
  ⟨queue, [notice], stopped, started⟩

/-- Queue a request behind the others. -/
def enqueue (queue : Queue) (request : Request) : Change :=
  let entry : Entry := ⟨queue.issued, request⟩
  record { queue with entries := queue.entries ++ [entry], issued := queue.issued + 1 }
    (.added entry) none

/-- Take the first request of a name away, if there is one; if it runs, its transfer stops. -/
def cancel? (queue : Queue) (name : String) : Option Change :=
  (queue.entries.find? fun entry => entry.name == name).map fun entry =>
    let kept := { queue with entries := queue.entries.eraseP fun entry => entry.name == name }
    let notice := Notice.error entry none
    if (queue.entries.head?.any fun first => first.name == name) && queue.active.isSome then
      record { kept with active := none } notice queue.active
    else kept.record notice none

/-- Take all requests away without a notice. -/
def shutdown (queue : Queue) : Change :=
  ⟨{ queue with entries := [], active := none }, [], queue.active, none⟩

/-- The transfer of a serial is over, with a failure or without. If it is not the one that runs,
nothing changes. -/
def complete? (queue : Queue) (serial : Nat) (failure : Option Failure) : Option Change :=
  if queue.active = some serial then
    match queue.entries with
    | [] => some ⟨{ queue with active := none }, [], none, none⟩
    | entry :: rest =>
      some (record { queue with entries := rest, active := none } (.ending entry failure) none)
  else none

/-- Begin to hand notices out, unless that is being done. -/
def openDelivery? (queue : Queue) : Option Queue :=
  if queue.delivering then none else some { queue with delivering := true }

/-- The next notice to hand out; without one the handing out ends. -/
def nextNotice (queue : Queue) : Option Notice × Queue :=
  match queue.outbox with
  | notice :: rest => (some notice, { queue with outbox := rest })
  | [] => (none, { queue with delivering := false })

end Queue

end Sailplane.Download
