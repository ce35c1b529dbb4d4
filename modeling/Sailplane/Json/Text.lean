import Sailplane.Json.Record
import Sailplane.Json.Scanner

/-!
# Values in texts

A text holds one value and blanks. A reader that refuses the value reports that first; what stands
behind the value is looked at last.
-/
namespace Sailplane.Json

/-- The value of a text in a format. -/
def Format.parse {α : Type} (format : Format α) (bytes : List UInt8) : Except DecodeError α := do
  let (document, rest) := Document.scan bytes
  let value ← format.decode ⟨.text, 0⟩ document
  match trailingFault rest with
  | some fault => throw (.text fault)
  | none => return value

end Sailplane.Json
