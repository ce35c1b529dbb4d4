import Sailplane.Numeric.Decimal
import Sailplane.Text.Named

/-!
# Values

The values a document can hold. Integers and reals are kept apart, since a number keeps the form
it was written in; a field list keeps its order, and `sorted` gives the order in which stored
objects are kept.
-/
namespace Sailplane

/-- A value of a document. -/
inductive Json where
  /-- No value. -/
  | null
  /-- A truth value. -/
  | bool (value : Bool)
  /-- A number written as an integer. -/
  | integer (value : Int)
  /-- A number written with a point or an exponent, or too large for an integer. -/
  | real (value : Float)
  /-- A text. -/
  | text (value : String)
  /-- Values in order. -/
  | list (items : List Json)
  /-- Named values in order. -/
  | object (fields : List (String × Json))
  deriving Repr, Inhabited

namespace Json

mutual

/-- The value with the fields of every object sorted by name. -/
def sorted : Json → Json
  | null => null
  | bool value => bool value
  | integer value => integer value
  | real value => real value
  | text value => text value
  | list items => list (sortedItems items)
  | object fields => object (Named.ofList (sortedFields fields))

/-- The items of a list, each sorted. -/
def sortedItems : List Json → List Json
  | [] => []
  | item :: rest => item.sorted :: sortedItems rest

/-- The fields of an object, the value of each sorted. -/
def sortedFields : List (String × Json) → List (String × Json)
  | [] => []
  | (name, value) :: rest => (name, value.sorted) :: sortedFields rest

end

/-- The value of a field, if there is one. -/
def field? (value : Json) (name : String) : Option Json :=
  match value with
  | object fields => (fields.find? fun field => field.1 == name).map (·.2)
  | _ => none

/-! ## Writing -/

/-- One character inside a written text. -/
def escapedChar (c : Char) : String :=
  if c == '"' then "\\\""
  else if c == '\\' then "\\\\"
  else if c == '\n' then "\\n"
  else if c == '\r' then "\\r"
  else if c == '\t' then "\\t"
  else if c.toNat == 8 then "\\b"
  else if c.toNat == 12 then "\\f"
  else if c.toNat < 32 then
    "\\u00" ++ String.ofList [Nat.digitChar (c.toNat / 16), Nat.digitChar (c.toNat % 16)]
  else String.singleton c

/-- A text between its quotes; only quotes, backslashes and controls are escaped. -/
def writeText (text : String) : String :=
  "\"" ++ String.join (text.toList.map escapedChar) ++ "\""

mutual

/-- A value as a compact document. -/
def write : Json → String
  | null => "null"
  | bool value => if value then "true" else "false"
  | integer value => toString value
  | real value => if value.isFinite then Decimal.pointed value else "null"
  | text value => writeText value
  | list items => "[" ++ writeItems items ++ "]"
  | object fields => "\x7b" ++ writeFields fields ++ "\x7d"

/-- The items of a list, separated by commas. -/
def writeItems : List Json → String
  | [] => ""
  | [item] => item.write
  | item :: rest => item.write ++ "," ++ writeItems rest

/-- The fields of an object, separated by commas. -/
def writeFields : List (String × Json) → String
  | [] => ""
  | [(name, value)] => writeText name ++ ":" ++ value.write
  | (name, value) :: rest => writeText name ++ ":" ++ value.write ++ "," ++ writeFields rest

end

end Json

end Sailplane
