import Sailplane.Download.Queue

/-!
# Transfers

A transfer carries one request out. It goes on by messages of signals: reports of progress, the
result, and its end. A transfer that was stopped is dropped when it next comes to rest.
-/
namespace Sailplane.Download

/-- What a slot can hold. -/
inductive Content where
  /-- A document. -/
  | document (value : Json)
  /-- Bytes. -/
  | bytes (bytes : List UInt8)
  /-- The digest of a file. -/
  | digest (bytes : List UInt8)
  deriving Repr

/-- How a transfer goes on. -/
inductive Signal where
  /-- The size is known. -/
  | size (bytes : UInt64)
  /-- So much has come in. -/
  | position (bytes : UInt64)
  /-- The transfer itself cancels a request of its queue. -/
  | cancel (name : String)
  /-- Something for a slot of the request. -/
  | fill (content : Content)
  /-- The end, with a failure or without. -/
  | finish (failure : Option Failure)
  deriving Repr

/-- The slot that a content goes to. -/
def Request.slotFor (request : Request) : Content → Option Slot
  | .document _ => match request.destination with
    | .json slot => some slot
    | _ => none
  | .bytes _ => match request.destination with
    | .buffer slot => some slot
    | _ => none
  | .digest _ => request.data.digest

/-- How far a transfer is. -/
inductive Phase where
  /-- It has not run yet. -/
  | waiting
  /-- It runs. -/
  | fetching
  /-- It has ended, or was dropped. -/
  | closed
  deriving Repr, DecidableEq

/-- A transfer. -/
structure Transfer where
  /-- Its number. -/
  serial : Nat
  /-- The request it is for. -/
  entry : Entry
  /-- How far it is. -/
  phase : Phase
  /-- Whether it was stopped. -/
  stopped : Bool
  /-- The progress it reported. -/
  status : Status
  /-- The messages it has not read yet, each with signals in order. -/
  inbox : List (List Signal)
  deriving Repr

namespace Transfer

/-- A transfer that was just started. -/
def new (launch : Launch) : Transfer :=
  ⟨launch.serial, launch.entry, .waiting, false, .begun, []⟩

/-- A transfer told to stop. -/
def stop (transfer : Transfer) : Transfer :=
  { transfer with stopped := true, status := .queued }

/-- A transfer that is over. -/
def close (transfer : Transfer) : Transfer := { transfer with phase := .closed, inbox := [] }

end Transfer

end Sailplane.Download
