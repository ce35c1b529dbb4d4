import Sailplane.Json.Mismatch

/-!
# Formats of values

A format writes a value of some type as a document value and reads a document back. A reader goes
through a document in its order and reports the first thing that does not fit, so the same reader
serves a text, where faults are met on the way, and a value that is already stored. The three
sources differ only in how a surplus of list items and a missing name are reported.
-/
namespace Sailplane.Json

/-- Where a document comes from. -/
inductive Source where
  /-- A text that is being read. -/
  | text
  /-- A stored value. -/
  | value
  /-- The content of a tagged object, set aside until its tag was known. -/
  | content
  deriving Repr, DecidableEq

/-- How a document is being read. -/
structure Reading where
  /-- Where it comes from. -/
  source : Source
  /-- How many lists and objects it stands in. -/
  depth : Nat
  deriving Repr

namespace Reading

/-- Reading inside one more list or object; the depth of a text is limited. -/
def enter (reading : Reading) : Except DecodeError Reading :=
  if reading.source = .text && maxDepth ≤ reading.depth then .error (.text .tooDeep)
  else .ok { reading with depth := reading.depth + 1 }

/-- How many more lists and objects may be nested, if there is a limit. -/
def room (reading : Reading) : Option Nat :=
  if reading.source = .text then some (maxDepth - reading.depth) else none

/-- The end of a list after its wanted items, with the items that are left. -/
def finishList (reading : Reading) (wanted : Nat) (left : List Document) (tail : Tail) :
    Except DecodeError Unit :=
  match reading.source with
  | .text =>
    if !left.isEmpty then .error (.text .trailing)
    else match tail.finishFault with
      | some fault => .error (.text fault)
      | none => .ok ()
  | .value =>
    if left.isEmpty then .ok ()
    else .error (.data (.wrongLength (wanted + left.length) "fewer elements in array"))
  | .content =>
    if left.isEmpty then .ok ()
    else .error (.data (.wrongLength (wanted + left.length)
      (toString wanted ++ (if wanted = 1 then " element" else " elements") ++ " in sequence")))

end Reading

/-- A writer and a reader of values of a type. -/
structure Format (α : Type) where
  /-- The document value of a value. -/
  encode : α → Json
  /-- The value of a document. -/
  decode : Reading → Document → Except DecodeError α

namespace Format

variable {α β : Type}

/-- The value of a stored document value. -/
def ofValue (format : Format α) (value : Json) : Except DecodeError α :=
  format.decode ⟨.value, 0⟩ (.ofValue value)

/-- Read a value and admit it into another type, which may refuse it with a reason. -/
def checked (format : Format α) (pack : α → Except String β) (unpack : β → α) : Format β where
  encode value := format.encode (unpack value)
  decode reading document := do
    let raw ← format.decode reading document
    match pack raw with
    | .ok value => return value
    | .error reason => throw (.data (.refused reason))

/-- Change representation through a pair of total maps. -/
def map (format : Format α) (pack : α → β) (unpack : β → α) : Format β where
  encode value := format.encode (unpack value)
  decode reading document := return pack (← format.decode reading document)

/-! ## Simple values -/

/-- A text. -/
def text : Format String where
  encode := .text
  decode _
    | .text ⟨.ok value, _⟩ => .ok value
    | document => document.reject "a string"

/-- A truth value. -/
def bool : Format Bool where
  encode := .bool
  decode _
    | .bool value => .ok value
    | document => document.reject "a boolean"

/-- The double nearest to an integer of a machine word. -/
def nearest (value : Int) : Float :=
  if value < 0 then -(UInt64.ofNat (-value).toNat).toFloat
  else (UInt64.ofNat value.toNat).toFloat

/-- A double; an integer is read as the nearest one, and one that is not finite is written as no
value. -/
def real : Format Float where
  encode value := if value.isFinite then .real value else .null
  decode _
    | .number ⟨.ok (.real value), _⟩ => .ok value
    | .number ⟨.ok (.integer value), _⟩ => .ok (nearest value)
    | document => document.reject "f64"

/-- An unsigned machine word. -/
def word : Format UInt64 where
  encode value := .integer value.toNat
  decode _
    | .number ⟨.ok (.integer value), _⟩ =>
      if value < 0 then .error (.data (.wrongValue (.integer value) "u64"))
      else .ok (UInt64.ofNat value.toNat)
    | document => document.reject "u64"

/-- A signed machine word. -/
def signedWord : Format Int64 where
  encode value := .integer value.toInt
  decode _
    | .number ⟨.ok (.integer value), _⟩ =>
      if Nat.pow 2 63 ≤ value then .error (.data (.wrongValue (.integer value) "i64"))
      else .ok (Int64.ofInt value)
    | document => document.reject "i64"

/-- A value that may be absent. -/
def option (format : Format α) : Format (Option α) where
  encode
    | none => .null
    | some value => format.encode value
  decode reading
    | .null => .ok none
    | document => return some (← format.decode reading document)

/-- Read every item of a list. -/
def decodeItems (format : Format α) (reading : Reading) :
    List Document → Except DecodeError (List α)
  | [] => .ok []
  | item :: rest => do
    let value ← format.decode reading item
    let values ← decodeItems format reading rest
    return value :: values

/-- Values in order. -/
def list (format : Format α) : Format (List α) where
  encode values := .list (values.map format.encode)
  decode reading
    | .list items tail => do
      let values ← format.decodeItems (← reading.enter) items
      match tail.listFault with
      | some fault => throw (.text fault)
      | none => return values
    | document => document.reject "a sequence"

/-! ## Names -/

/-- The value of a name among known names. -/
def lookup (known : List (String × α)) (name : String) : Except DecodeError α :=
  match known.find? fun entry => entry.1 == name with
  | some entry => .ok entry.2
  | none => .error (.data (.unknownVariant name (known.map (·.1))))

/-- The name of a document that has to be a name. -/
def variantName : Document → Except DecodeError String
  | .text ⟨.ok name, _⟩ => .ok name
  | document => document.reject "variant identifier"

/-- The end of an object that holds a name with nothing. -/
def finishVariant (source : Source) (left : List (Token String × Document)) (tail : Tail) :
    Except DecodeError Unit :=
  match source with
  | .text =>
    if !left.isEmpty then .error (.text .noValue)
    else match tail.nameFault with
      | some fault => .error (.text fault)
      | none => .ok ()
  | _ => .ok ()

/-- One of some named values: its name, or an object that holds the name with nothing. -/
def variant (known : List (String × α)) (nameOf : α → String) : Format α where
  encode value := .text (nameOf value)
  decode reading
    | .text ⟨.ok name, _⟩ => lookup known name
    | .text ⟨.error fault, _⟩ => .error (.text fault)
    | .broken fault => .error (.text fault)
    | .misspelt _ => .error (.text .noValue)
    | .object fields tail => do
      let _ ← reading.enter
      match fields with
      | [] =>
        if reading.source = .text then
          throw (.text (if tail = .ended then .valueEnds else .noValue))
        else throw (.data (.wrongValue .object "map with a single key"))
      | (name, document) :: left =>
        if reading.source ≠ .text && !left.isEmpty then
          throw (.data (.wrongValue .object "map with a single key"))
        let name ← match name.value with
          | .ok name => .ok name
          | .error .noName => .error (.text .noValue)
          | .error fault => .error (.text fault)
        let value ← lookup known name
        match document with
        | .null => finishVariant reading.source left tail
        | document => document.reject "unit"
        return value
    | document =>
      if reading.source = .text then .error (.text .noValue)
      else document.reject "string or map"

end Format

end Sailplane.Json
