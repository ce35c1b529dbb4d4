import Sailplane.Config.Settings
import Sailplane.Download.Failure
import Sailplane.Download.Slot
import Sailplane.Files.Path

/-!
# Requests

What is to be downloaded, under which name, and where the result goes. A file is named after the
last segment of its path; the other requests are named by whoever makes them.
-/
namespace Sailplane.Download

/-- What a request produces. -/
inductive Kind where
  /-- A file. -/
  | file
  /-- A document. -/
  | json
  /-- Bytes. -/
  | buffer
  deriving Repr, DecidableEq

/-- The name of a kind. -/
def Kind.name : Kind → String
  | file => "File"
  | json => "Json"
  | buffer => "Buffer"

/-- A kind, by its name. -/
def kind : Json.Format Kind :=
  .variant [("File", .file), ("Json", .json), ("Buffer", .buffer)] Kind.name

/-- What goes along with a request. -/
structure RequestData where
  /-- Headers; each name once, with its values in the order given. -/
  headers : List (String × List String) := []
  /-- A text to send. -/
  body : Option String := none
  /-- Form fields to send. -/
  form : List (String × String) := []
  /-- Whom the request is made for. -/
  login : Option Config.Login := none
  /-- Where the digest of a file is put. -/
  digest : Option Slot := none
  deriving Repr, DecidableEq

namespace RequestData

/-- Nothing goes along. -/
def none : RequestData := ⟨[], .none, [], .none, .none⟩

/-- A value under a header name, after those already there. -/
def addValue (name value : String) : List (String × List String) → List (String × List String)
  | [] => [(name, [value])]
  | (other, values) :: rest =>
    if other == name then (other, values ++ [value]) :: rest
    else (other, values) :: addValue name value rest

/-- One header more. -/
def withHeader (data : RequestData) (name value : String) : RequestData :=
  { data with headers := addValue name value data.headers }

/-- A text to send instead of another. -/
def withBody (data : RequestData) (body : String) : RequestData := { data with body := some body }

/-- One form field more. -/
def withField (data : RequestData) (name value : String) : RequestData :=
  { data with form := data.form ++ [(name, value)] }

/-- A login instead of another. -/
def withLogin (data : RequestData) (username password : String) : RequestData :=
  { data with login := some ⟨username, password⟩ }

/-- A place for the digest of the file. -/
def withDigest (data : RequestData) (slot : Slot) : RequestData := { data with digest := some slot }

/-- Whether the request sends something. -/
def isPost (data : RequestData) : Bool := data.body.isSome || !data.form.isEmpty

end RequestData

/-- Where a result goes. -/
inductive Destination where
  /-- Into a file. -/
  | file (path : String)
  /-- Into a slot, as a document. -/
  | json (slot : Slot)
  /-- Into a slot, as bytes. -/
  | buffer (slot : Slot)
  deriving Repr, DecidableEq

/-- The kind of request for a destination. -/
def Destination.kind : Destination → Kind
  | file _ => .file
  | json _ => .json
  | buffer _ => .buffer

/-- One download. -/
structure Request where
  /-- The address. -/
  uri : String
  /-- The name it is known by. -/
  name : String
  /-- Where the result goes. -/
  destination : Destination
  /-- What goes along. -/
  data : RequestData
  deriving Repr, DecidableEq

namespace Request

/-- A document under a name. -/
def json (uri name : String) (slot : Slot) (data : RequestData) : Request :=
  ⟨uri, name, .json slot, data⟩

/-- Bytes under a name. -/
def buffer (uri name : String) (slot : Slot) (data : RequestData) : Request :=
  ⟨uri, name, .buffer slot, data⟩

/-- A file, named after the last segment of its path. -/
def file (uri path : String) (data : RequestData) : Except Failure Request :=
  match Path.fileName? path with
  | some name => .ok ⟨uri, name, .file path, data⟩
  | none => .error (.invalidRequest ("'" ++ path ++ "' has no file name"))

/-- What a request produces. -/
def kind (request : Request) : Kind := request.destination.kind

end Request

end Sailplane.Download
