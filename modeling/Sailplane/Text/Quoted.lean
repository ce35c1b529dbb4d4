import Sailplane.Text.Hidden

/-!
# Quoted texts

A text between double quotes, as messages show it: quotes and backslashes behind a backslash, the
common controls by their letter, and characters without a visible form by their code point.
-/
namespace Sailplane.Text

/-- The hexadecimal digits of a natural number, in lower case. -/
def hexDigits (value : Nat) : String := String.ofList (Nat.toDigits 16 value)

/-- One character as it stands inside quotes. -/
def quotedChar (c : Char) : String :=
  if c == '"' then "\\\""
  else if c == '\\' then "\\\\"
  else if c == '\n' then "\\n"
  else if c == '\r' then "\\r"
  else if c == '\t' then "\\t"
  else if c.toNat == 0 then "\\0"
  else if isHidden c then "\\u\x7b" ++ hexDigits c.toNat ++ "\x7d"
  else String.singleton c

/-- A text between double quotes. -/
def quoted (text : String) : String :=
  "\"" ++ String.join (text.toList.map quotedChar) ++ "\""

end Sailplane.Text
