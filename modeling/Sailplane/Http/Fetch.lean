import Sailplane.Download.Transfer
import Sailplane.Files.Disk
import Sailplane.Files.Sha256
import Sailplane.Http.Exchange
import Sailplane.Json.Scanner

/-!
# Fetching

A request is carried out: the body of the answer goes into a slot, or into a file beside the
target that takes the target's place when it is complete. So a target is only ever replaced by a
complete download. A refusal for want of a login that comes with a body leaves the body beside the
target. The file beside the target is taken away whenever a fetch stops before it was moved.
-/
namespace Sailplane.Http

open Download (Content Destination Failure Request Signal)

/-- Why a fetch stops before its end. -/
inductive Stop where
  /-- It fails. -/
  | failed (failure : Failure)
  /-- Nobody waits for it any more. -/
  | abandoned
  deriving Repr, DecidableEq

/-- Why a trouble of the disk stops a fetch. -/
def Stop.of : Trouble → Stop
  | .fails reason => failed (.disk reason)
  | .interrupts _ => abandoned

/-- How a fetch went: what it reported and filled in, how it stopped, none for success, and the
disk after it. -/
structure Course where
  /-- Reports and contents, in order. -/
  signals : List Signal
  /-- How it stopped. -/
  stop : Option Stop
  /-- The disk after it. -/
  disk : Disk
  deriving Repr

/-- Whether a status means success. -/
def isSuccess (status : Nat) : Bool := status == 200 || status == 201

/-- The status of a request that wants a login. -/
def unauthorized : Nat := 401

/-- The failure for a status. -/
def statusFailure (answer : Answer) : Failure := .httpStatus answer.url.text answer.reply.status

/-- The report of the size, if it is known. -/
def sizeSignals (reply : Reply) : List Signal := reply.length.toList.map .size

/-- The reports of the position after each chunk. -/
def positionSignals : Nat → List (List UInt8) → List Signal
  | _, [] => []
  | before, chunk :: rest =>
    .position (UInt64.ofNat (before + chunk.length)) ::
      positionSignals (before + chunk.length) rest

/-- How the end of a body stops a fetch. -/
def Reply.stop (reply : Reply) : Option Stop :=
  reply.broken.map fun reason => .failed (.network reason)

/-! ## Into a slot -/

/-- The content of a body for a document or for bytes. -/
def contentOf (isDocument : Bool) (body : List UInt8) : Except Failure Content :=
  if isDocument then
    match Json.parse body with
    | .ok value => .ok (.document value.sorted)
    | .error fault => .error (.document fault)
  else .ok (.bytes body)

/-- Receive a body for a slot. -/
def receive (isDocument : Bool) (answer : Answer) : List Signal × Option Stop :=
  let reply := answer.reply
  if !isSuccess reply.status then ([], some (.failed (statusFailure answer)))
  else
    let reports := sizeSignals reply ++ positionSignals 0 reply.chunks
    match reply.stop with
    | some stop => (reports, some stop)
    | none => match contentOf isDocument reply.chunks.flatten with
      | .ok content => (reports ++ [.fill content], none)
      | .error failure => (reports, some (.failed failure))

/-! ## Into a file -/

/-- Write chunks into a file, with a report after each. -/
def store (place : Place) : Nat → List (List UInt8) → Disk → List Signal × Option Trouble × Disk
  | _, [], disk => ([], none, disk)
  | before, chunk :: rest, disk =>
    match disk.append place chunk with
    | (some trouble, disk) => ([], some trouble, disk)
    | (none, disk) =>
      let (signals, trouble, disk) := store place (before + chunk.length) rest disk
      (.position (UInt64.ofNat (before + chunk.length)) :: signals, trouble, disk)

/-- The name of the file beside a target, with a tag of its own. -/
def partialName (path tag : String) : String :=
  "." ++ (Path.fileName? path).getD "" ++ "." ++ tag ++ ".part"

/-- The path of the file beside a target. -/
def partialPath (path tag : String) : String := Path.sibling path (partialName path tag)

/-- The path beside a target that keeps the answer to a request that wants a login. -/
def refusalPath (path : String) : String := path ++ ".json"

/-- A complete file beside the target takes the place it is meant for. -/
def commit (path partialFile : String) (answer : Answer) (reports : List Signal) (disk : Disk) :
    Course :=
  let body := answer.reply.chunks.flatten
  let refused := Stop.failed (statusFailure answer)
  let file := Path.place partialFile
  if isSuccess answer.reply.status then
    match disk.rename file path with
    | (some trouble, disk) => ⟨reports, some (.of trouble), disk.remove file⟩
    | (none, disk) => ⟨reports ++ [.fill (.digest (Sha256.digest body))], none, disk⟩
  else if body.isEmpty then ⟨reports, some refused, disk.remove file⟩
  else match disk.rename file (refusalPath path) with
    | (some trouble, disk) => ⟨reports, some (.of trouble), disk.remove file⟩
    | (none, disk) => ⟨reports, some refused, disk⟩

/-- Receive a body into the file beside the target. -/
def fill (path partialFile : String) (answer : Answer) (disk : Disk) : Course :=
  let size := sizeSignals answer.reply
  let file := Path.place partialFile
  match disk.create file with
  | (some trouble, disk) => ⟨size, some (.of trouble), disk.remove file⟩
  | (none, disk) =>
    match store file 0 answer.reply.chunks disk with
    | (reports, some trouble, disk) => ⟨size ++ reports, some (.of trouble), disk.remove file⟩
    | (reports, none, disk) =>
      match answer.reply.stop with
      | some stop => ⟨size ++ reports, some stop, disk.remove file⟩
      | none => match disk.sync with
        | (some trouble, disk) => ⟨size ++ reports, some (.of trouble), disk.remove file⟩
        | (none, disk) => commit path partialFile answer (size ++ reports) disk

/-- The directory that has to be there for a file; none if it is the present one. -/
def directoryOf (path : String) : Option String :=
  (Path.parent? path).filter fun directory => !directory.isEmpty

/-- Make the directory that has to be there for a file. -/
def makeWay (path : String) (disk : Disk) : Option Trouble × Disk :=
  match directoryOf path with
  | some directory => disk.makeDirectories (Path.segments directory)
  | none => (none, disk)

/-- Receive a body for a file. Other answers than success and the want of a login leave the disk
alone. -/
def download (path tag : String) (answer : Answer) (disk : Disk) : Course :=
  let status := answer.reply.status
  if !isSuccess status && status != unauthorized then
    ⟨[], some (.failed (statusFailure answer)), disk⟩
  else match makeWay path disk with
    | (some trouble, disk) => ⟨[], some (.of trouble), disk⟩
    | (none, disk) => fill path (partialPath path tag) answer disk

/-! ## A whole fetch -/

/-- What is said of a request with a body and form fields. -/
def doublePayload (request : Request) : Failure :=
  .invalidRequest
    (request.name ++ ": a request carries either a body or form fields, not both")

/-- Receive the answer to a request where it is wanted. -/
def deliver (request : Request) (tag : String) (answer : Answer) (disk : Disk) : Course :=
  match request.destination with
  | .file path => download path tag answer disk
  | .json _ =>
    let (signals, stop) := receive true answer
    ⟨signals, stop, disk⟩
  | .buffer _ =>
    let (signals, stop) := receive false answer
    ⟨signals, stop, disk⟩

/-- Send a request, after a number of exchanges; also how many there were in all. -/
def ask (network : Network) (userAgent : String) (count : Nat) (request : Request) :
    Except Failure Answer × Nat :=
  if request.data.body.isSome && !request.data.form.isEmpty then
    (.error (doublePayload request), count)
  else match Exchange.of userAgent request with
    | .error reason => (.error (.network reason), count)
    | .ok exchange =>
      let (answer, count) := follow network redirectLimit count exchange
      (answer.mapError .network, count)

/-- Carry a request out, after a number of exchanges; also how many there were in all. A request
that gets no answer leaves the disk alone. -/
def fetch (network : Network) (userAgent : String) (count : Nat) (request : Request)
    (tag : String) (disk : Disk) : Course × Nat :=
  match ask network userAgent count request with
  | (.error failure, count) => (⟨[], some (.failed failure), disk⟩, count)
  | (.ok answer, count) => (deliver request tag answer disk, count)

/-- What a transfer is told by the course of its fetch. A fetch that nobody waits for any more
tells no end. -/
def Course.toSignals (course : Course) : List Signal :=
  course.signals ++ match course.stop with
    | none => [.finish none]
    | some (.failed failure) => [.finish (some failure)]
    | some .abandoned => []

end Sailplane.Http
