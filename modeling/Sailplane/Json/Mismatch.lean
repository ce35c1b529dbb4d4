import Sailplane.Json.Document
import Sailplane.Text.Quoted

/-!
# Why a document is refused

A document can be at fault as a text, or hold a value that does not fit what is wanted. A mismatch
names its cause; its wording is in one place.
-/
namespace Sailplane.Json

/-- What stands where something else is wanted. -/
inductive Found where
  /-- No value. -/
  | null
  /-- A truth value. -/
  | bool (value : Bool)
  /-- An integer. -/
  | integer (value : Int)
  /-- A real number. -/
  | real (value : Float)
  /-- A text. -/
  | text (value : String)
  /-- A list. -/
  | list
  /-- An object. -/
  | object
  deriving Repr

/-- What stands there, in words. -/
def Found.describe : Found → String
  | null => "null"
  | bool value => "boolean `" ++ (if value then "true" else "false") ++ "`"
  | integer value => "integer `" ++ toString value ++ "`"
  | real value => "floating point `" ++ Decimal.pointed value ++ "`"
  | text value => "string " ++ Text.quoted value
  | list => "sequence"
  | object => "map"

/-- Why a value does not fit. -/
inductive Mismatch where
  /-- A value of another type. -/
  | wrongType (found : Found) (expected : String)
  /-- A value of the type that is not admitted. -/
  | wrongValue (found : Found) (expected : String)
  /-- A list of another length. -/
  | wrongLength (length : Nat) (expected : String)
  /-- A field that is not there. -/
  | missingField (name : String)
  /-- A field that is there twice. -/
  | duplicateField (name : String)
  /-- A name that is none of the known ones. -/
  | unknownVariant (name : String) (known : List String)
  /-- A value that its type refuses for a reason of its own. -/
  | refused (reason : String)
  deriving Repr

/-- Names between backquotes, as a choice. -/
def choice (names : List String) : String :=
  match names.map fun name => "`" ++ name ++ "`" with
  | [] => ""
  | [only] => only
  | [first, second] => first ++ " or " ++ second
  | many => "one of " ++ String.intercalate ", " many

/-- The words of a mismatch. -/
def Mismatch.message : Mismatch → String
  | wrongType found expected => "invalid type: " ++ found.describe ++ ", expected " ++ expected
  | wrongValue found expected => "invalid value: " ++ found.describe ++ ", expected " ++ expected
  | wrongLength length expected =>
    "invalid length " ++ toString length ++ ", expected " ++ expected
  | missingField name => "missing field `" ++ name ++ "`"
  | duplicateField name => "duplicate field `" ++ name ++ "`"
  | unknownVariant name known =>
    "unknown variant `" ++ name ++ "`, " ++
      (if known.isEmpty then "there are no variants" else "expected " ++ choice known)
  | refused reason => reason

/-- Why a document is refused. -/
inductive DecodeError where
  /-- The text is at fault. -/
  | text (fault : Fault)
  /-- A value does not fit. -/
  | data (mismatch : Mismatch)
  deriving Repr

namespace Document

/-- What a document stands for in a message. -/
def found : Document → Except DecodeError Found
  | null => .ok .null
  | bool value => .ok (.bool value)
  | number token =>
    match token.value with
    | .ok (.integer value) => .ok (.integer value)
    | .ok (.real value) => .ok (.real value)
    | .error fault => .error (.text fault)
  | text token =>
    match token.value with
    | .ok value => .ok (.text value)
    | .error fault => .error (.text fault)
  | list _ _ => .ok .list
  | object _ _ => .ok .object
  | broken fault => .error (.text fault)
  | misspelt fault => .error (.text fault)

/-- The refusal of a document that is not of the expected type. -/
def reject {α : Type} (document : Document) (expected : String) : Except DecodeError α := do
  let found ← document.found
  throw (.data (.wrongType found expected))

end Document

end Sailplane.Json
