import Sailplane.Download.Session
import Sailplane.Rehearsal.EventKind
import Sailplane.Skysight.Client

/-!
# Scenes

A queue at work whose callers and listeners follow written parts, with or without a weather client
among them. A caller takes one step after the other; a listener has parts that each wait for an
event and are played once. When the hold on the queue is given up, no more steps are taken, and the
queue goes as soon as nobody is left who uses it. What is seen of it can be compared with what
should be seen.
-/
namespace Sailplane.Rehearsal

open Download
open Skysight (Act Client FileKind Handler Mark Member Refusal Shared Topic)

/-- Something a caller or a listener does. -/
inductive Step where
  /-- Queue a request; a file is named by its path. -/
  | enqueue (kind : Kind) (name uri path : String) (data : RequestData)
  /-- Take the first request of a name away. -/
  | cancel (name : String)
  /-- Take all requests away. -/
  | shutdown
  /-- Have the requests told to a listener of its own. -/
  | enumerate
  /-- Look into the slots of all requests made so far. -/
  | slots
  /-- Register a listener with its parts: the event, the name it waits for, and what is done. -/
  | addListener (label : String) (parts : List (EventKind × Option String × List Step))
  /-- Take the latest registration of a label away. -/
  | removeListener (label : String)
  /-- Send a message of signals to the transfer that runs. -/
  | signal (message : List Signal)
  /-- Have a task wait until nothing is queued. -/
  | watchIdle (label : String)
  /-- The client asks for a key. -/
  | requestKey
  /-- The client asks for a document. -/
  | requestJson (name address : String)
  /-- The client asks for a file. -/
  | download (uri path : String) (kind : FileKind)
  /-- The clock goes on by seconds. -/
  | wait (seconds : Int)
  /-- The client is given up. -/
  | disconnect
  /-- The hold on the queue is given up. -/
  | drop
  /-- Nothing is done. -/
  | rest
  deriving Inhabited

/-- A part of a listener. -/
abbrev Part := EventKind × Option String × List Step

/-- What comes of a step. -/
inductive Reply where
  /-- Nothing. -/
  | nothing
  /-- Yes or no. -/
  | truth (value : Bool)
  /-- The request is queued. -/
  | queued
  /-- The request is not possible. -/
  | failed (failure : Failure)
  /-- The client does not make the request. -/
  | refused (refusal : Refusal)
  /-- What the slots of requests hold. -/
  | slots (held : List (String × Option Content))

/-- What a scene notes down. -/
inductive Remark where
  /-- What came of a step of the caller. -/
  | answered (reply : Reply)
  /-- A listener has taken a step. -/
  | did (label : String) (step : Step) (reply : Reply)
  /-- The handler received a document; whether it is of use. -/
  | handled (topic : Topic) (document : Json) (accepted : Bool)
  /-- The handler was told that something came in. -/
  | flagged
  /-- The handler was told of a new key. -/
  | keyed

/-- A listener of a scene. -/
structure Voice where
  /-- Its number. -/
  number : Nat
  /-- Its label. -/
  label : String
  deriving Repr, DecidableEq

/-- What callers and listeners of a scene share. -/
structure Scene where
  /-- Whether somebody still has a hold on the queue. -/
  held : Bool
  /-- The parts of the listeners that were not played yet, by their numbers. -/
  parts : List (Nat × List Part)
  /-- The registrations by labels, the latest first. -/
  numbers : List (String × Nat)
  /-- The slots of the requests made by steps, in order. -/
  slots : List (String × Slot)
  /-- What the handler has no use for. -/
  rejected : List Topic
  /-- Whether the handler notes only documents. -/
  plain : Bool

namespace Scene

/-- A script of a scene. -/
abbrev Play (Result : Type) : Type := Act Scene Voice Remark Result

/-- Change what is shared. -/
def change (update : Scene → Scene) : Play Unit :=
  Script.modify fun shared => ((), { shared with others := update shared.others })

/-- A request of a step, with a slot of its own unless it is for a file. -/
def request (kind : Kind) (name uri path : String) (data : RequestData) :
    Play (Except Failure Request) :=
  match kind with
  | .file => return Request.file uri path data
  | .json => do
    let slot ← Script.newSlot
    change fun scene => { scene with slots := scene.slots ++ [(name, slot)] }
    return .ok (Request.json uri name slot data)
  | .buffer => do
    let slot ← Script.newSlot
    change fun scene => { scene with slots := scene.slots ++ [(name, slot)] }
    return .ok (Request.buffer uri name slot data)

/-- What the slots of requests hold. -/
def look : List (String × Slot) → Play (List (String × Option Content))
  | [] => return []
  | (name, slot) :: rest => do
    let content ← Script.readSlot slot
    let others ← look rest
    return (name, content) :: others

/-- Take a step while the queue is held. -/
def perform : Step → Play Reply
  | .enqueue kind name uri path data => do
    match ← request kind name uri path data with
    | .ok request =>
      Script.enqueue request
      return .queued
    | .error failure => return .failed failure
  | .cancel name => return .truth (← Script.cancel name)
  | .shutdown => do
    Script.shutdown
    return .nothing
  | .enumerate => do
    let _ ← Script.ask (.enumerate (.other ⟨0, "enumerate"⟩))
    return .nothing
  | .slots => do
    let shared ← Script.state
    return .slots (← look shared.others.slots)
  | .addListener label parts => do
    let shared ← Script.state
    let number := shared.others.parts.length + 1
    let registration ← Script.register (.other ⟨number, label⟩)
    change fun scene => { scene with
      parts := scene.parts ++ [(number, parts)]
      numbers := (label, registration) :: scene.numbers }
    return .nothing
  | .removeListener label => do
    let shared ← Script.state
    match shared.others.numbers.find? fun entry => entry.1 == label with
    | some (_, registration) => return .truth (← Script.unregister registration)
    | none => return .nothing
  | .signal message => do
    let _ ← Script.ask (.signal message)
    return .nothing
  | .watchIdle label => do
    let _ ← Script.ask (.watchIdle label)
    return .nothing
  | .requestKey => Client.withClient .nothing fun _ _ => return .truth (← Client.requestKey)
  | .requestJson name address => do
    Client.requestJson name address
    return .nothing
  | .download uri path kind => Client.withClient .nothing fun _ _ => do
    match ← Client.download uri path kind with
    | .ok _ => return .queued
    | .error refusal => return .refused refusal
  | .wait seconds => do
    Script.modify fun shared => ((), { shared with now := shared.now + Skysight.seconds seconds })
    return .nothing
  | .disconnect => do
    Client.disconnect
    return .nothing
  | .drop => do
    change fun scene => { scene with held := false }
    return .nothing
  | .rest => return .nothing

/-- Whether a step can be taken without a hold on the queue. -/
def isFree : Step → Bool
  | .wait _ => true
  | _ => false

/-- Take a step; without a hold on the queue only the clock can go on. -/
def act (step : Step) : Play Reply := do
  let shared ← Script.state
  if shared.others.held || isFree step then perform step else return .nothing

/-- Whether a part waits for an event. -/
def waitsFor (event : Event) (part : Part) : Bool :=
  part.1 == .of event && part.2.1.all fun name => name == event.name

/-- Take the first part of a listener that waits for an event. -/
def takePart (number : Nat) (event : Event) (scene : Scene) : List Step × Scene :=
  match scene.parts.find? fun entry => entry.1 == number with
  | none => ([], scene)
  | some (_, parts) =>
    match parts.find? (waitsFor event) with
    | none => ([], scene)
    | some part =>
      (part.2.2, { scene with parts := scene.parts.map fun entry =>
        if entry.1 == number then (number, parts.eraseP (waitsFor event)) else entry })

/-- What a listener does at an event. -/
def react (voice : Voice) (event : Event) : Play Unit := do
  let steps ← Script.modify fun shared =>
    let (steps, others) := takePart voice.number event shared.others
    (steps, { shared with others })
  Script.each steps fun step => do
    let reply ← act step
    Script.write (.note (.did voice.label step reply))

/-- The handler of a scene. -/
def handler : Handler Scene Voice Remark where
  update topic document := do
    let shared ← Script.state
    let accepted := !shared.others.rejected.contains topic
    Script.write (.note (.handled topic document accepted))
    return accepted
  flag := do
    let shared ← Script.state
    if shared.others.plain then return () else Script.write (.note .flagged)
  newKey := do
    let shared ← Script.state
    if shared.others.plain then return () else Script.write (.note .keyed)

/-- The users of a scene. -/
def users : Users := Skysight.users handler react Scene.held

/-- What is seen in a scene. -/
abbrev Sight := Observation (Member Voice) (Mark Remark)

end Scene

/-! ## Playing -/

/-- A scene that is being played. -/
structure Stage where
  /-- The queue and all around it. -/
  session : Session Scene.users
  /-- Whether the queue is gone. -/
  gone : Bool

namespace Stage

/-- How many steps a scene may take before it comes to rest. -/
def patience : Nat := 1000000

/-- A stage on which nothing has happened. -/
def new (now : Skysight.Instant) (rejected : List Topic) (plain : Bool) : Stage :=
  ⟨.new ⟨none, now, ⟨true, [], [], [], rejected, plain⟩⟩, false⟩

/-- Whether the caller still has a hold on the queue. -/
def held (stage : Stage) : Bool := stage.session.state.others.held

/-- Whether a job waits until nothing is queued. -/
def isWatcher : Job → Bool
  | .watcher _ => true
  | .transfer _ => false

/-- Whether something that has begun uses the queue. A transfer does so only while it cancels. -/
def usesQueue : Frame Scene.users → Bool
  | .transfer .. => false
  | _ => true

/-- Whether somebody uses the queue: the caller, the client, a task that waits until nothing is
queued, or something that has begun. -/
def inUse (stage : Stage) : Bool :=
  stage.held || stage.session.state.client.isSome || !stage.session.waiting.isEmpty ||
    stage.session.ready.any isWatcher || stage.session.stack.any usesQueue

/-- The queue goes when nobody uses it. -/
def release (stage : Stage) : Stage :=
  if stage.gone || stage.inUse then stage else ⟨stage.session.close, true⟩

/-- A step of what has begun, if anything has. -/
def work? (stage : Stage) : Option Stage :=
  stage.session.work?.map fun session => { stage with session }.release

/-- A step of what has begun, or else of the first task that is ready. -/
def step? (stage : Stage) : Option Stage :=
  stage.session.step?.map fun session => { stage with session }.release

/-- Let the tasks run until everything waits, if that is wanted; and what was seen. -/
def settle (stage : Stage) (wanted : Bool) : List Scene.Sight × Stage :=
  let stage := if wanted then Session.repeatedly step? patience stage else stage
  (stage.session.log, { stage with session := { stage.session with log := [] } })

/-- Play a script to its end. -/
def perform (stage : Stage) (script : Scene.Play Unit) : Stage :=
  Session.repeatedly work? patience { stage with session := stage.session.begin script }

/-- A client of an account starts. -/
def connect (stage : Stage) (account : Config.Account) (wanted : Bool) :
    List Scene.Sight × Stage :=
  (stage.perform (Client.connect account)).settle wanted

/-- The caller takes a step. -/
def play (stage : Stage) (step : Step) (wanted : Bool) : List Scene.Sight × Stage :=
  (stage.perform do
    let reply ← Scene.act step
    Script.write (.note (.answered reply))).settle wanted

end Stage

end Sailplane.Rehearsal
