import Sailplane.Json.Value

/-!
# Documents

A document is what a reader meets while it walks through a text. Faults of the text stand where
they are met, so a reader that stops early, for a value of the wrong type, never sees the faults
behind it. A token of which only the place matters can be skipped even if its content is unusable:
a number beyond the range of doubles, or an escape that is half a character.
-/
namespace Sailplane.Json

/-- What is wrong with a text. -/
inductive Fault where
  /-- The text ends inside a list. -/
  | listEnds
  /-- The text ends inside an object. -/
  | objectEnds
  /-- The text ends inside quotes. -/
  | quotesEnd
  /-- The text ends where a value is wanted, or inside of one. -/
  | valueEnds
  /-- A name is not followed by a colon. -/
  | noColon
  /-- An item of a list is followed by neither a comma nor the closing bracket. -/
  | noListComma
  /-- A field of an object is followed by neither a comma nor the closing brace. -/
  | noObjectComma
  /-- A word begins like a known one and goes on differently. -/
  | misspelt
  /-- Something stands where a value is wanted. -/
  | noValue
  /-- A backslash is followed by something that it cannot escape. -/
  | badEscape
  /-- A number lacks a digit, or has a zero too many at its front. -/
  | badNumber
  /-- A number is too big. -/
  | bigNumber
  /-- The bytes between quotes are no text. -/
  | badText
  /-- A control character stands between quotes. -/
  | control
  /-- Something other than a name stands at the front of a field. -/
  | noName
  /-- An escaped half of a character stands where it cannot stand. -/
  | strayHalf
  /-- An escaped first half of a character is not followed by another half. -/
  | missingHalf
  /-- A comma is followed by the closing bracket. -/
  | trailingComma
  /-- Something stands behind the value. -/
  | trailing
  /-- Lists and objects are nested too deeply. -/
  | tooDeep
  deriving Repr, DecidableEq

namespace Fault

/-- The words of a fault. -/
def message : Fault → String
  | listEnds => "EOF while parsing a list"
  | objectEnds => "EOF while parsing an object"
  | quotesEnd => "EOF while parsing a string"
  | valueEnds => "EOF while parsing a value"
  | noColon => "expected `:`"
  | noListComma => "expected `,` or `]`"
  | noObjectComma => "expected `,` or `\x7d`"
  | misspelt => "expected ident"
  | noValue => "expected value"
  | badEscape => "invalid escape"
  | badNumber => "invalid number"
  | bigNumber => "number out of range"
  | badText => "invalid unicode code point"
  | control => "control character (\\u0000-\\u001F) found while parsing a string"
  | noName => "key must be a string"
  | strayHalf => "lone leading surrogate in hex escape"
  | missingHalf => "unexpected end of hex escape"
  | trailingComma => "trailing comma"
  | trailing => "trailing characters"
  | tooDeep => "recursion limit exceeded"

/-- Whether the text ends too early. -/
def isEnd : Fault → Bool
  | listEnds | objectEnds | quotesEnd | valueEnds => true
  | _ => false

end Fault

/-- A token that can be read for its value, or only skipped. -/
structure Token (α : Type) where
  /-- Its value, or what makes it unusable. -/
  value : Except Fault α
  /-- What makes it impossible to skip. -/
  skipped : Option Fault := none

/-- A number of a document. -/
inductive Number where
  /-- Written as an integer that fits a machine word. -/
  | integer (value : Int)
  /-- Any other number. -/
  | real (value : Float)
  deriving Repr

/-- How a list or an object ends. -/
inductive Tail where
  /-- With its closing bracket. -/
  | closed
  /-- With a comma and its closing bracket. -/
  | commaClosed
  /-- With something that cannot follow an item. -/
  | stray
  /-- With the end of the text. -/
  | ended
  /-- With a comma and the end of the text. -/
  | commaEnded
  deriving Repr, DecidableEq

namespace Tail

/-- What a reader of all items of a list meets at its end. -/
def listFault : Tail → Option Fault
  | closed => none
  | commaClosed => some .trailingComma
  | stray => some .noListComma
  | ended => some .listEnds
  | commaEnded => some .valueEnds

/-- What a reader of all fields of an object meets at its end. -/
def objectFault : Tail → Option Fault
  | closed => none
  | commaClosed => some .trailingComma
  | stray => some .noObjectComma
  | ended => some .objectEnds
  | commaEnded => some .valueEnds

/-- What is met at the end of a list that is skipped. -/
def listSkipFault : Tail → Option Fault
  | commaClosed => some .noValue
  | tail => tail.listFault

/-- What is met at the end of an object that is skipped. -/
def objectSkipFault : Tail → Option Fault
  | commaClosed => some .noName
  | commaEnded => some .objectEnds
  | tail => tail.objectFault

/-- What a reader that wants no more items meets at the end of a list. -/
def finishFault : Tail → Option Fault
  | closed => none
  | commaClosed => some .trailingComma
  | stray => some .trailing
  | ended => some .listEnds
  | commaEnded => some .trailing

/-- What a reader that wants no more fields meets at the end of an object that holds a name with
nothing. -/
def nameFault : Tail → Option Fault
  | closed => none
  | ended => some .objectEnds
  | _ => some .noValue

end Tail

/-- A document as it is met. -/
inductive Document where
  /-- No value. -/
  | null
  /-- A truth value. -/
  | bool (value : Bool)
  /-- A number. -/
  | number (token : Token Number)
  /-- A text. -/
  | text (token : Token String)
  /-- Values in order, up to where the list ends. -/
  | list (items : List Document) (tail : Tail)
  /-- Named values in order, up to where the object ends. -/
  | object (fields : List (Token String × Document)) (tail : Tail)
  /-- A fault in place of a value. -/
  | broken (fault : Fault)
  /-- A word that begins like a known one and is cut short or misspelt. -/
  | misspelt (fault : Fault)

/-- Lists and objects may be nested this deep, and no deeper. -/
def maxDepth : Nat := 127

namespace Document

mutual

/-- The document of a value: nothing in it is at fault. -/
def ofValue : Json → Document
  | .null => null
  | .bool value => bool value
  | .integer value => number ⟨.ok (.integer value), none⟩
  | .real value => number ⟨.ok (.real value), none⟩
  | .text value => text ⟨.ok value, none⟩
  | .list items => list (ofItems items) .closed
  | .object fields => object (ofFields fields) .closed

/-- The documents of the items of a list. -/
def ofItems : List Json → List Document
  | [] => []
  | item :: rest => ofValue item :: ofItems rest

/-- The documents of the fields of an object. -/
def ofFields : List (String × Json) → List (Token String × Document)
  | [] => []
  | (name, value) :: rest => (⟨.ok name, none⟩, ofValue value) :: ofFields rest

end

/-- The value of a number. -/
def numberValue : Number → Json
  | .integer value => .integer value
  | .real value => .real value

mutual

/-- The value of a document, with the fields of its objects as they are written; at most so many
lists and objects may be nested in it, if there is a limit. -/
def capture (room : Option Nat) : Document → Except Fault Json
  | null => .ok .null
  | bool value => .ok (.bool value)
  | number token => token.value.map numberValue
  | text token => token.value.map .text
  | list items tail => do
    if room = some 0 then throw .tooDeep
    let items ← captureItems (room.map Nat.pred) items
    match tail.listFault with
    | some fault => throw fault
    | none => return .list items
  | object fields tail => do
    if room = some 0 then throw .tooDeep
    let fields ← captureFields (room.map Nat.pred) fields
    match tail.objectFault with
    | some fault => throw fault
    | none => return .object fields
  | broken fault => .error fault
  | misspelt fault => .error fault

/-- The values of documents in order. -/
def captureItems (room : Option Nat) : List Document → Except Fault (List Json)
  | [] => .ok []
  | item :: rest => do
    let value ← capture room item
    let values ← captureItems room rest
    return value :: values

/-- The named values of documents in order. -/
def captureFields (room : Option Nat) :
    List (Token String × Document) → Except Fault (List (String × Json))
  | [] => .ok []
  | (name, document) :: rest => do
    let name ← name.value
    let value ← capture room document
    let values ← captureFields room rest
    return (name, value) :: values

end

mutual

/-- What makes it impossible to skip a document. -/
def skip : Document → Option Fault
  | null => none
  | bool _ => none
  | number token => token.skipped
  | text token => token.skipped
  | list items tail => skipItems items <|> tail.listSkipFault
  | object fields tail => skipFields fields <|> tail.objectSkipFault
  | broken fault => some fault
  | misspelt fault => some fault

/-- What makes it impossible to skip documents in order. -/
def skipItems : List Document → Option Fault
  | [] => none
  | item :: rest => skip item <|> skipItems rest

/-- What makes it impossible to skip named documents in order. -/
def skipFields : List (Token String × Document) → Option Fault
  | [] => none
  | (name, document) :: rest => name.skipped <|> skip document <|> skipFields rest

end

end Document

end Sailplane.Json
