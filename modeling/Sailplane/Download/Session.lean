import Sailplane.Download.Registry
import Sailplane.Download.Script

/-!
# Session

A queue at work: its transfers, its listeners, the scripts that call it and the tasks that wait
for it. Everything happens on one thread in small steps. A script runs until it ends; a call that
records a notice hands out all notices before it returns, unless they are being handed out
already. Between scripts the tasks run in the order in which they became ready. A transfer reads a
limited number of messages at a time, and then waits for its next turn.

Some pairs of locked sections are one step here, since on one thread nothing comes between them: a
transfer comes to its end and the queue takes the result in; a notice is recorded and its delivery
begins; a task that waits puts itself down to be woken and looks whether nothing is queued. With
several threads a call of another one may come between the two, so what is proved of sessions is
proved of a runtime of one thread.
-/
namespace Sailplane.Download

/-- Something that can be seen from outside, or a note. -/
inductive Observation (Listener Note : Type) where
  /-- A notice was recorded. -/
  | recorded (notice : Notice)
  /-- A notice begins to be handed out. -/
  | announced (notice : Notice)
  /-- A listener is told something. -/
  | heard (listener : Listener) (event : Event)
  /-- A transfer begins to run. -/
  | started (launch : Launch)
  /-- A transfer has ended, with a failure or without. -/
  | ended (launch : Launch) (failure : Option Failure)
  /-- A transfer was dropped while it ran. -/
  | dropped (launch : Launch)
  /-- A transfer follows a signal other than its end. -/
  | followed (launch : Launch) (signal : Signal)
  /-- All requests were taken away. -/
  | emptied (entries : List Entry)
  /-- A transfer has cancelled a request; whether there was one. -/
  | cancelled (name : String) (found : Bool)
  /-- A waiting task saw that nothing is queued. -/
  | idle (label : String)
  /-- A note of a script. -/
  | note (note : Note)

/-- A task that is ready to run. -/
inductive Job where
  /-- The transfer of a serial. -/
  | transfer (serial : Nat)
  /-- A task that waits until nothing is queued. -/
  | watcher (label : String)
  deriving Repr, DecidableEq

/-- Something that has begun and not ended yet. -/
inductive Frame (users : Users) where
  /-- A script. -/
  | script (rest : users.Script Unit)
  /-- Handing out the notices. -/
  | drain
  /-- Telling listeners something, one after the other. -/
  | tell (calls : List (users.Listener × Event))
  /-- A transfer that follows the rest of a message, and how many messages it may read after it. -/
  | transfer (serial : Nat) (message : List Signal) (allowance : Nat)
  /-- Something to be seen when all before it has ended. -/
  | show (observation : Observation users.Listener users.Note)

/-- A queue and all that goes on around it. -/
structure Session (users : Users) where
  /-- The queue. -/
  queue : Queue
  /-- The transfers in the order they were started. -/
  transfers : List Transfer
  /-- The slots for results. -/
  slots : Slots Content
  /-- The registered listeners. -/
  registry : Registry users.Listener
  /-- The tasks that are ready, in order. -/
  ready : List Job
  /-- The tasks that wait until nothing is queued. -/
  waiting : List String
  /-- What callers and listeners share. -/
  state : users.State
  /-- What has begun, the innermost first. -/
  stack : List (Frame users)
  /-- What was seen, in order. -/
  log : List (Observation users.Listener users.Note)

namespace Session

variable {users : Users}

/-- Nothing has happened. -/
def new (state : users.State) : Session users :=
  ⟨.empty, [], .empty, .empty, [], [], state, [], []⟩

/-- Something is seen. -/
def see (session : Session users) (observation : Observation users.Listener users.Note) :
    Session users :=
  { session with log := session.log ++ [observation] }

/-- How many messages a transfer reads at a time. -/
def turn : Nat := 128

/-- The transfer of a serial. -/
def transfer? (session : Session users) (serial : Nat) : Option Transfer :=
  session.transfers.find? fun transfer => transfer.serial == serial

/-- The transfer that runs, or the last one that has run if it is not over. -/
def fetching? (session : Session users) : Option Transfer :=
  session.transfers.reverse.find? fun transfer => transfer.phase == .fetching

/-- Change the transfer of a serial. -/
def alter (session : Session users) (serial : Nat) (change : Transfer → Transfer) :
    Session users :=
  { session with transfers := session.transfers.map fun transfer =>
      if transfer.serial == serial then change transfer else transfer }

/-- A transfer becomes ready, unless it is. -/
def schedule (session : Session users) (serial : Nat) : Session users :=
  if session.ready.contains (.transfer serial) then session
  else { session with ready := session.ready ++ [.transfer serial] }

/-- A transfer has a message more to read and becomes ready. -/
def post (session : Session users) (serial : Nat) (message : List Signal) : Session users :=
  (session.alter serial fun transfer =>
    { transfer with inbox := transfer.inbox ++ [message] }).schedule serial

/-- All tasks that wait become ready. -/
def wake (session : Session users) : Session users :=
  { session with ready := session.ready ++ session.waiting.map .watcher, waiting := [] }

/-- How far the requests are; only the first one runs. -/
def entries (session : Session users) : List (String × Status) :=
  match session.queue.entries with
  | [] => []
  | first :: rest =>
    let running := session.queue.active.bind session.transfer?
    (first.name, (running.map (·.status)).getD .queued) ::
      rest.map fun entry => (entry.name, .queued)

/-! ## Changes of the queue -/

/-- A change of the queue, with the transfers it stops and starts. -/
def apply (session : Session users) (change : Change) : Session users :=
  let session := { session with
    queue := change.queue
    log := session.log ++ change.recorded.map .recorded }
  let session := match change.stopped with
    | some serial => (session.alter serial .stop).schedule serial
    | none => session
  match change.started with
  | some launch =>
    { session with
      transfers := session.transfers ++ [.new launch]
      ready := session.ready ++ [.transfer launch.serial] }
  | none => session

/-- A change of the queue, and the handing out of the notices unless that has begun. -/
def applyAndDeliver (session : Session users) (change : Change) :
    List (Frame users) × Session users :=
  let session := session.apply change
  match session.queue.openDelivery? with
  | some queue => ([.drain], { session with queue })
  | none => ([], session)

/-- All requests are taken away, and the transfer that runs is stopped. -/
def empty (session : Session users) : Session users :=
  (session.see (.emptied session.queue.entries)).apply session.queue.shutdown

/-- The end of all handles to the queue: what is in it goes, and so do all who listen or wait. -/
def close (session : Session users) : Session users :=
  { session.empty with registry := .empty, waiting := [] }

/-! ## Calls -/

/-- Answer a call; what it sets off ends before the caller goes on. -/
def perform (session : Session users) :
    (operation : Operation users.Listener) →
      operation.Reply × List (Frame users) × Session users
  | .enqueue request => ((), session.applyAndDeliver (session.queue.enqueue request))
  | .cancel name =>
    match session.queue.cancel? name with
    | some change => (true, session.applyAndDeliver change)
    | none => (false, [], session)
  | .shutdown => ((), [], session.empty.wake)
  | .entries => (session.entries, [], session)
  | .enumerate listener =>
    ((), [.tell (session.entries.map fun (name, status) => (listener, .added name status))],
      session)
  | .isIdle => (session.queue.isIdle, [], session)
  | .register listener =>
    let (number, registry) := session.registry.add listener
    (number, [], { session with registry })
  | .unregister number =>
    let (present, registry) := session.registry.remove number
    (present, [], { session with registry })
  | .watchIdle label =>
    ((), [], { session with ready := session.ready ++ [.watcher label] })
  | .newSlot =>
    let (slot, slots) := session.slots.fresh
    (slot, [], { session with slots })
  | .readSlot slot => (session.slots.get slot, [], session)
  | .takeSlot slot =>
    let (content, slots) := session.slots.take slot
    (content, [], { session with slots })
  | .signal message =>
    match session.fetching? with
    | some transfer => ((), [], session.post transfer.serial message)
    | none => ((), [], session)

/-! ## Transfers -/

/-- The launch of a transfer. -/
def launchOf (transfer : Transfer) : Launch := ⟨transfer.serial, transfer.entry⟩

/-- A transfer comes to rest: it is dropped if it was stopped. -/
def pause (session : Session users) (transfer : Transfer) : Session users :=
  if transfer.stopped && transfer.phase == .fetching then
    (session.alter transfer.serial .close).see (.dropped (launchOf transfer))
  else session

/-- A transfer that has followed a message reads the next one. When it has read as many as it may,
it waits for its next turn. -/
def readNext (session : Session users) (transfer : Transfer) (allowance : Nat)
    (rest : List (Frame users)) : Session users :=
  match allowance, transfer.inbox with
  | 0, _ =>
    let session := if transfer.stopped then session else session.schedule transfer.serial
    { session.pause transfer with stack := rest }
  | _ + 1, [] => { session.pause transfer with stack := rest }
  | allowance + 1, message :: inbox =>
    { session.alter transfer.serial fun transfer => { transfer with inbox } with
      stack := .transfer transfer.serial message allowance :: rest }

/-- A transfer follows a signal; what is left to do for it is on top of the given stack. -/
def follow (session : Session users) (transfer : Transfer) (signal : Signal)
    (again : Frame users) (rest : List (Frame users)) : Session users :=
  let serial := transfer.serial
  let next := session.see (.followed (launchOf transfer) signal)
  match signal with
  | .size bytes =>
    { next.alter serial fun transfer =>
        { transfer with status := transfer.status.withSize bytes } with stack := again :: rest }
  | .position bytes =>
    { next.alter serial fun transfer =>
        { transfer with status := transfer.status.withPosition bytes } with stack := again :: rest }
  | .fill content =>
    match transfer.entry.request.slotFor content with
    | some slot => { next with slots := next.slots.put slot content, stack := again :: rest }
    | none => { next with stack := again :: rest }
  | .cancel name =>
    if users.reaches session.state then
      let (found, frames, next) := next.perform (.cancel name)
      { next with stack := frames ++ .show (.cancelled name found) :: again :: rest }
    else { next with stack := again :: rest }
  | .finish failure =>
    let ended := (session.alter serial .close).see (.ended (launchOf transfer) failure)
    match ended.queue.complete? serial failure with
    | some change =>
      let (frames, ended) := ended.applyAndDeliver change
      { ended with stack := frames ++ rest }
    | none => { ended with stack := rest }

/-- A task that is ready runs. -/
def run (session : Session users) : Job → Session users
  | .transfer serial =>
    match session.transfer? serial with
    | none => session
    | some transfer =>
      match transfer.phase with
      | .closed => session
      | .waiting =>
        if transfer.stopped then session.alter serial .close
        else { (session.alter serial fun transfer => { transfer with phase := .fetching }).see
            (.started (launchOf transfer)) with stack := [.transfer serial [] turn] }
      | .fetching =>
        if transfer.stopped then session.pause transfer
        else { session with stack := [.transfer serial [] turn] }
  | .watcher label =>
    if session.queue.isIdle then session.see (.idle label)
    else { session with waiting := session.waiting ++ [label] }

/-! ## Steps -/

/-- One step of the innermost thing that has begun. -/
def advance (session : Session users) (frame : Frame users) (rest : List (Frame users)) :
    Session users :=
  match frame with
  | .script (.done _) => { session with stack := rest }
  | .script (.get next) => { session with stack := .script (next session.state) :: rest }
  | .script (.set state next) => { session with state, stack := .script next :: rest }
  | .script (.note note next) => { session.see (.note note) with stack := .script next :: rest }
  | .script (.call operation next) =>
    let (reply, frames, session) := session.perform operation
    { session with stack := frames ++ .script (next reply) :: rest }
  | .drain =>
    match session.queue.nextNotice with
    | (some notice, queue) =>
      { { session with queue }.see (.announced notice) with
        stack := .tell (session.registry.listeners.map fun listener => (listener, notice.event))
          :: .drain :: rest }
    | (none, queue) =>
      let session := { session with queue, stack := rest }
      if queue.isIdle then session.wake else session
  | .tell [] => { session with stack := rest }
  | .tell ((listener, event) :: calls) =>
    { session.see (.heard listener event) with
      stack := .script (users.react listener event) :: .tell calls :: rest }
  | .transfer serial message allowance =>
    match session.transfer? serial, message with
    | none, _ => { session with stack := rest }
    | some transfer, [] => session.readNext transfer allowance rest
    | some transfer, signal :: message =>
      session.follow transfer signal (.transfer serial message allowance) rest
  | .show observation => { session.see observation with stack := rest }

/-- One step of what has begun, if anything has. -/
def work? (session : Session users) : Option (Session users) :=
  match session.stack with
  | [] => none
  | frame :: rest => some (session.advance frame rest)

/-- One step: of what has begun, or else of the first task that is ready. -/
def step? (session : Session users) : Option (Session users) :=
  match session.stack, session.ready with
  | frame :: rest, _ => some (session.advance frame rest)
  | [], job :: ready => some ({ session with ready }.run job)
  | [], [] => none

/-- Take steps until there is none, and at most a given number. -/
def repeatedly {State : Type} (step : State → Option State) : Nat → State → State
  | 0, state => state
  | fuel + 1, state =>
    match step state with
    | some next => repeatedly step fuel next
    | none => state

/-- Begin a script from outside. -/
def begin (session : Session users) (script : users.Script Unit) : Session users :=
  { session with stack := .script script :: session.stack }

end Session

end Sailplane.Download
