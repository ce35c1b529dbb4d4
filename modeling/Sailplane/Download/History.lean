import Sailplane.Download.Run

/-!
# History

What a run has done to the requests of its queue and told its listeners, read off the sessions in
which a step was taken, and what was seen of its notices and transfers, read off the log.
-/
namespace Sailplane.Download

variable {users : Users}

/-! ## Deeds -/

/-- What a step does to the requests of a queue, or tells for it. -/
inductive Deed (Listener : Type) where
  /-- A request is queued. -/
  | queued (request : Request)
  /-- A request is cancelled. -/
  | cancelled (entry : Entry)
  /-- All requests are taken away. -/
  | emptied (entries : List Entry)
  /-- A notice begins to be handed out to those who are registered. -/
  | announced (notice : Notice) (listeners : List Listener)
  /-- A listener is told of the notice that is being handed out. -/
  | told (listener : Listener) (event : Event)

namespace Session

/-- The call that the next step makes, if it makes one. A transfer calls only to cancel. -/
def call? (session : Session users) : Option (Operation users.Listener) :=
  match session.stack with
  | .script (.call operation _) :: _ => some operation
  | .transfer serial (.cancel name :: _) _ :: _ =>
    if (session.transfer? serial).isSome && users.reaches session.state then some (.cancel name)
    else none
  | _ => none

/-- What the next step does to the requests. -/
def asked? (session : Session users) : Option (Deed users.Listener) :=
  match session.call? with
  | some (.enqueue request) => some (.queued request)
  | some (.cancel name) =>
    (session.queue.entries.find? fun entry => entry.name == name).map .cancelled
  | some .shutdown => some (.emptied session.queue.entries)
  | _ => none

/-- What the next step does to the requests or tells for the queue. -/
def deed? (session : Session users) : Option (Deed users.Listener) :=
  match session.stack with
  | .drain :: _ => session.queue.outbox.head?.map fun notice =>
    .announced notice session.registry.listeners
  | .tell ((listener, event) :: _) :: .drain :: _ => some (.told listener event)
  | _ => session.asked?

end Session

namespace Deed

variable {Listener : Type}

/-- The request that was queued. -/
def queued? : Deed Listener → Option Request
  | queued request => some request
  | _ => none

/-- The request that was cancelled. -/
def cancelled? : Deed Listener → Option Entry
  | cancelled entry => some entry
  | _ => none

/-- The requests that were taken away all at once. -/
def dropped : Deed Listener → List Entry
  | emptied entries => entries
  | _ => []

/-- The notice that was handed out, and those who were registered. -/
def announced? : Deed Listener → Option (Notice × List Listener)
  | announced notice listeners => some (notice, listeners)
  | _ => none

/-- The listener that was told, and what. -/
def told? : Deed Listener → Option (Listener × Event)
  | told listener event => some (listener, event)
  | _ => none

end Deed

/-- The requests that were ever queued, in order and numbered from zero. -/
def enqueued {Listener : Type} (deeds : List (Deed Listener)) : List Entry :=
  (deeds.filterMap Deed.queued?).mapIdx Entry.mk

/-- The requests that were cancelled, in order. -/
def cancelled {Listener : Type} (deeds : List (Deed Listener)) : List Entry :=
  deeds.filterMap Deed.cancelled?

/-- The requests that were taken away by a shutdown. -/
def dropped {Listener : Type} (deeds : List (Deed Listener)) : List Entry :=
  deeds.flatMap Deed.dropped

/-- The notices that were handed out, in order, each with those who were registered then. -/
def handedOut {Listener : Type} (deeds : List (Deed Listener)) : List (Notice × List Listener) :=
  deeds.filterMap Deed.announced?

/-- The listeners that were told of notices, and what, in order. -/
def told {Listener : Type} (deeds : List (Deed Listener)) : List (Listener × Event) :=
  deeds.filterMap Deed.told?

/-- The requests that have left the queue with a notice, in the order of the notices. -/
def ended (notices : List Notice) : List Entry :=
  (notices.filter Notice.isTerminal).map Notice.entry

/-- The calls that hand a notice out to listeners. -/
def callsFor {Listener : Type} (handed : Notice × List Listener) : List (Listener × Event) :=
  handed.2.map fun listener => (listener, handed.1.event)

/-- Whether a notice was handed out and everybody who was registered then was told. -/
def Delivered {Listener : Type} (deeds : List (Deed Listener)) (notice : Notice) : Prop :=
  ∃ listeners, (notice, listeners) ∈ handedOut deeds ∧ callsFor (notice, listeners) <:+: told deeds

/-- What the steps of a run have done, in order. -/
def History.deeds (past : History users) : List (Deed users.Listener) :=
  past.filterMap Session.deed?

/-! ## What was seen -/

namespace Observation

variable {Listener Note : Type}

/-- A notice that was recorded. -/
def recorded? : Observation Listener Note → Option Notice
  | recorded notice => some notice
  | _ => none

/-- The request of a transfer that has ended, with its failure if it had one. -/
def result? : Observation Listener Note → Option (Entry × Option Failure)
  | ended launch failure => some (launch.entry, failure)
  | _ => none

/-- A transfer that began to run. -/
def started? : Observation Listener Note → Option Launch
  | started launch => some launch
  | _ => none

end Observation

namespace Session

/-- The notices recorded so far, in order. -/
def recorded (session : Session users) : List Notice :=
  session.log.filterMap Observation.recorded?

/-- The requests whose transfers have ended, in order, each with its failure if it had one. -/
def results (session : Session users) : List (Entry × Option Failure) :=
  session.log.filterMap Observation.result?

/-- The transfers begun so far, in order. -/
def started (session : Session users) : List Launch :=
  session.log.filterMap Observation.started?

/-- Whether a transfer has begun and neither ended nor been dropped. -/
def InFlight (session : Session users) (launch : Launch) : Prop :=
  .started launch ∈ session.log ∧ (∀ failure, .ended launch failure ∉ session.log) ∧
    .dropped launch ∉ session.log

end Session

/-! ## What is under way -/

/-- Whether a frame is a call of the queue that has not returned. -/
def Frame.isCall : Frame users → Bool
  | .drain => true
  | .tell _ => true
  | _ => false

/-- The listeners that are still to be told of the notice that is being handed out. -/
def dueCalls : List (Frame users) → List (users.Listener × Event)
  | .tell calls :: .drain :: _ => calls
  | _ :: rest => dueCalls rest
  | [] => []

namespace Session

/-- The listeners that are still to be told of the notice that is being handed out. -/
def due (session : Session users) : List (users.Listener × Event) := dueCalls session.stack

/-- Whether a notice is being handed out: its listeners are being told, or what they do about it
has not ended. -/
def HandingOut (session : Session users) : Prop :=
  ∃ above below, above ≠ [] ∧ session.stack = above ++ .drain :: below

end Session

end Sailplane.Download
