import Sailplane.Json.Format

/-!
# Formats of records

A record is written as an object with a field for each of its parts. It is read from an object,
with its fields in any order and unknown fields passed over, or from a list of its parts in their
order. A part may have a value of its own for when it is absent; in a list only parts at the end
can be. A tagged choice is an object that names which record it holds.
-/
namespace Sailplane.Json

/-- The parts of a record. -/
structure Record (α : Type) where
  /-- What has been read of an object so far. -/
  Draft : Type
  /-- Nothing has been read. -/
  empty : Draft
  /-- The names of the parts in order. -/
  names : List String
  /-- Read the field of a name; none if the record has no such part. -/
  put : Reading → String → Document → Draft → Option (Except DecodeError Draft)
  /-- The record of what has been read. -/
  finish : Draft → Except DecodeError α
  /-- Read the parts from list items, from an index on; the text says what is wanted. -/
  take : Reading → String → Nat → List Document × Tail →
    Except DecodeError (α × List Document × Tail)
  /-- The fields of a record. -/
  encode : α → List (String × Json)

namespace Record

variable {α β : Type}

/-- A record of one part. -/
def field (name : String) (format : Format α) (absent : Option α := none) : Record α where
  Draft := Option α
  empty := none
  names := [name]
  put reading other document draft :=
    if other = name then
      some (match draft with
        | some _ => .error (.data (.duplicateField name))
        | none => (format.decode reading document).map some)
    else none
  finish
    | some value => .ok value
    | none => match absent with
      | some value => .ok value
      | none => .error (.data (.missingField name))
  take reading expected index
    | (item :: rest, tail) => do
      let value ← format.decode reading item
      return (value, rest, tail)
    | ([], tail) => match tail.listFault with
      | some fault => .error (.text fault)
      | none => match absent with
        | some value => .ok (value, [], tail)
        | none => .error (.data (.wrongLength index expected))
  encode value := [(name, format.encode value)]

/-- The parts of two records in order. -/
def pair (first : Record α) (second : Record β) : Record (α × β) where
  Draft := first.Draft × second.Draft
  empty := (first.empty, second.empty)
  names := first.names ++ second.names
  put reading name document draft :=
    match first.put reading name document draft.1 with
    | some result => some (result.map fun left => (left, draft.2))
    | none => (second.put reading name document draft.2).map fun result =>
      result.map fun right => (draft.1, right)
  finish draft := do
    let left ← first.finish draft.1
    let right ← second.finish draft.2
    return (left, right)
  take reading expected index items := do
    let (left, rest) ← first.take reading expected index items
    let (right, rest) ← second.take reading expected (index + first.names.length) rest
    return ((left, right), rest)
  encode value := first.encode value.1 ++ second.encode value.2

/-- Change representation through a pair of total maps. -/
def map (record : Record α) (pack : α → β) (unpack : β → α) : Record β where
  Draft := record.Draft
  empty := record.empty
  names := record.names
  put := record.put
  finish draft := return pack (← record.finish draft)
  take reading expected index items := do
    let (value, rest) ← record.take reading expected index items
    return (pack value, rest)
  encode value := record.encode (unpack value)

/-! ## Reading -/

/-- Read the fields of an object in their order. -/
def putAll (record : Record α) (reading : Reading) (draft : record.Draft) :
    List (Token String × Document) → Except DecodeError record.Draft
  | [] => .ok draft
  | (name, document) :: rest =>
    match name.value with
    | .error fault => .error (.text fault)
    | .ok name =>
      match record.put reading name document draft with
      | some (.ok draft) => putAll record reading draft rest
      | some (.error error) => .error error
      | none => match document.skip with
        | some fault => .error (.text fault)
        | none => putAll record reading draft rest

/-- The number of parts, in words. -/
def expectedParts (record : Record α) (title : String) : String :=
  title ++ " with " ++ toString record.names.length ++
    (if record.names.length = 1 then " element" else " elements")

/-- Read a record from an object or a list; the title says what it is in messages. -/
def decode (record : Record α) (title : String) (reading : Reading) :
    Document → Except DecodeError α
  | .object fields tail => do
    let draft ← record.putAll (← reading.enter) record.empty fields
    match tail.objectFault with
    | some fault => throw (.text fault)
    | none => record.finish draft
  | .list items tail => do
    let (value, left, tail) ←
      record.take (← reading.enter) (record.expectedParts title) 0 (items, tail)
    reading.finishList (items.length - left.length) left tail
    return value
  | document => document.reject title

/-- The format of a record under a title. -/
def format (record : Record α) (title : String) : Format α where
  encode value := .object (record.encode value)
  decode := record.decode ("struct " ++ title)

end Record

/-! ## Tagged choices -/

/-- One alternative of a tagged choice. -/
structure Alternative (α : Type) where
  /-- The tag it is known by. -/
  tag : String
  /-- Its name in messages. -/
  title : String
  /-- The type of its content. -/
  Content : Type
  /-- The content as a record. -/
  record : Record Content
  /-- The value of a content. -/
  pack : Content → α

/-- Read the content of an alternative. -/
def Alternative.decode {α : Type} (alternative : Alternative α) (title : String)
    (content : Json) : Except DecodeError α :=
  return alternative.pack (← alternative.record.decode
    ("struct variant " ++ title ++ "::" ++ alternative.title) ⟨.content, 0⟩ (.ofValue content))

/-- A value or a fault of a text as the result of a decoder. -/
def liftFault {α : Type} : Except Fault α → Except DecodeError α
  | .ok value => .ok value
  | .error fault => .error (.text fault)

/-- Set the fields of an object aside, and read the one that holds the tag. -/
def splitTag {α : Type} (field : String) (known : List (String × α)) (room : Option Nat)
    (found : Option α) : List (Token String × Document) →
    Except DecodeError (Option α × List (String × Json))
  | [] => .ok (found, [])
  | (name, document) :: rest => do
    let name ← liftFault name.value
    if name = field then
      if found.isSome then throw (.data (.duplicateField field))
      let tag ← Format.lookup known (← Format.variantName document)
      splitTag field known room (some tag) rest
    else
      let value ← liftFault (document.capture room)
      let (found, content) ← splitTag field known room found rest
      return (found, (name, value) :: content)

/-- A choice of records, told apart by a field that holds a tag. -/
def Format.tagged {α : Type} (field title : String) (alternatives : List (Alternative α))
    (encode : α → String × List (String × Json)) : Format α where
  encode value :=
    let (tag, fields) := encode value
    .object ((field, .text tag) :: fields)
  decode reading document :=
    let known := alternatives.map fun alternative => (alternative.tag, alternative.decode title)
    match document with
    | .object fields tail => do
      let inside ← reading.enter
      let (found, content) ← splitTag field known inside.room none fields
      match tail.objectFault, found with
      | some fault, _ => throw (.text fault)
      | none, none => throw (.data (.missingField field))
      | none, some decode => decode (.object content)
    | .list (first :: rest) tail => do
      let inside ← reading.enter
      let decode ← Format.lookup known (← Format.variantName first)
      let content ← liftFault (Document.captureItems inside.room rest)
      match tail.listFault with
      | some fault => throw (.text fault)
      | none => decode (.list content)
    | .list [] tail =>
      match tail.listFault with
      | some fault => .error (.text fault)
      | none => .error (.data (.missingField field))
    | document => document.reject ("internally tagged enum " ++ title)

end Sailplane.Json
