import Sailplane.Command.Outcome
import Sailplane.Download.Session
import Sailplane.Download.Tracker
import Sailplane.Http.Fetch

/-!
# Download command

Files are downloaded one after the other into a directory, each named after the last segment of
its address. For every file that arrived its digest is printed, in the order of the addresses, and
for every name that failed the last failure, in the order of the names. The command succeeds if
nothing failed.
-/
namespace Sailplane.Command

open Download (Content Request RequestData Script Session Slot Tracker Users)
open Http (Network)

/-- The name of the file for an address: the last segment of its path, unless that is empty. -/
def fileName (url : String) : String :=
  let path := url.toList.takeWhile fun c => c != '?' && c != '#'
  match (Text.piecesAt '/' path).getLast? with
  | some (c :: rest) => String.ofList (c :: rest)
  | _ => "download"

/-- What is wanted of a download. -/
structure DownloadPlan where
  /-- The addresses in order. -/
  urls : List String
  /-- The directory the files go to. -/
  directory : String
  /-- How the files are transferred. -/
  settings : Config.TransportSettings
  deriving Repr, DecidableEq

/-- A file that is being downloaded. -/
structure Target where
  /-- Its path. -/
  path : String
  /-- Where its digest goes. -/
  digest : Slot
  deriving Repr, DecidableEq

/-- The listeners of a download: a tracker of what was heard. -/
def trackerUsers : Users where
  State := Tracker
  Listener := Unit
  Note := Empty
  react _ event := Script.modify fun tracker => ((), tracker.record event)
  reaches _ := true

/-- The requests for addresses, with slots for the digests. -/
def requests (directory : String) : Nat → List String →
    Except Download.Failure (List (Target × Request))
  | _, [] => .ok []
  | count, url :: rest => do
    let path := Path.join directory (fileName url)
    let request ← Request.file url path (RequestData.none.withDigest ⟨count⟩)
    return (⟨path, ⟨count⟩⟩, request) :: (← requests directory (count + 1) rest)

/-- Queue all requests, with a tracker listening. -/
def queueAll (requests : List Request) : trackerUsers.Script Unit := do
  let _ ← Script.register ()
  Script.each requests fun request => do
    let _ ← Script.newSlot
    Script.enqueue request

/-- How many steps a session of some requests may take before it comes to rest, when it has to
follow some signals. -/
def patience (requests signals : Nat) : Nat := 100 * (requests + signals + 1)

/-- A download on its way: the queue, the disk, and how many exchanges there were. -/
structure Progress where
  /-- The queue and all around it. -/
  session : Session trackerUsers
  /-- The disk. -/
  disk : Disk
  /-- How many exchanges there were. -/
  exchanges : Nat

/-- Play a script and let everything run until it waits for a transfer, if for anything. -/
def settle (session : Session trackerUsers) (script : trackerUsers.Script Unit) (fuel : Nat) :
    Session trackerUsers :=
  Session.repeatedly Session.step? fuel (session.begin script)

/-- Carry out the request that runs, if one does. -/
def Progress.fetch? (network : Network) (userAgent : String) (total : Nat) (progress : Progress) :
    Option Progress :=
  (progress.session.queue.active.bind progress.session.transfer?).map fun transfer =>
    let (course, exchanges) := Http.fetch network userAgent progress.exchanges
      transfer.entry.request (toString transfer.serial) progress.disk
    let signals := course.toSignals
    ⟨settle progress.session (Script.ask (.signal signals)) (patience total signals.length),
      course.disk, exchanges⟩

/-- Carry out requests one after the other, at most a number of them. -/
def Progress.fetchAll (network : Network) (userAgent : String) (total : Nat) :
    Nat → Progress → Progress
  | 0, progress => progress
  | left + 1, progress =>
    match progress.fetch? network userAgent total with
    | some next => next.fetchAll network userAgent total left
    | none => progress

/-- The line for a file whose digest is there. -/
def digestLine? (session : Session trackerUsers) (target : Target) : Option String :=
  match session.slots.get target.digest with
  | some (.digest digest) => some (Text.hex digest ++ "  " ++ target.path)
  | _ => none

/-- The line for a name that failed. -/
def failureLine (failure : String × Option String) : String :=
  failure.1 ++ ": " ++ failure.2.getD "cancelled"

/-- The outcome of a queue that has come to rest. -/
def downloadOutcome (session : Session trackerUsers) (targets : List Target) : Outcome :=
  let failures := (show Tracker from session.state).failures
  .finished (targets.filterMap (digestLine? session)) (failures.map failureLine) failures.isEmpty

/-- Download files; the disk after it, too. -/
def download (network : Network) (plan : DownloadPlan) (disk : Disk) : Outcome × Disk :=
  if !Http.isHeaderValue plan.settings.userAgent then
    (.failed (Download.Failure.network Http.malformedRequest).message, disk)
  else match requests plan.directory 0 plan.urls with
    | .error failure => (.failed failure.message, disk)
    | .ok planned =>
      let total := planned.length
      let queued := settle (.new Tracker.empty) (queueAll (planned.map (·.2))) (patience total 0)
      let rested := Progress.fetchAll network plan.settings.userAgent total total ⟨queued, disk, 0⟩
      (downloadOutcome rested.session (planned.map (·.1)), rested.disk)

end Sailplane.Command
