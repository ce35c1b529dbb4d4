/-!
# Bytes and texts

Bytes as a list, and the texts they encode.
-/
namespace Sailplane.Text

/-- The bytes of a text. -/
def toBytes (text : String) : List UInt8 := text.toUTF8.toList

/-- The text that some bytes encode, if they encode one. -/
def ofBytes? (bytes : List UInt8) : Option String :=
  String.fromUTF8? (ByteArray.mk bytes.toArray)

/-- The two lower-case hexadecimal digits of a byte. -/
def byteHex (byte : UInt8) : String :=
  String.ofList [Nat.digitChar (byte.toNat / 16), Nat.digitChar (byte.toNat % 16)]

/-- Bytes in lower-case hexadecimal. -/
def hex (bytes : List UInt8) : String := String.join (bytes.map byteHex)

/-- The value of a hexadecimal digit. -/
def hexValue? (digit : UInt8) : Option Nat :=
  let code := digit.toNat
  if 48 ≤ code && code ≤ 57 then some (code - 48)
  else if 97 ≤ code && code ≤ 102 then some (code - 87)
  else if 65 ≤ code && code ≤ 70 then some (code - 55)
  else none

end Sailplane.Text
