import Sailplane.Text.Utf8

/-!
# Percent signs

A byte that may not stand for itself in an address is written as a percent sign and two digits.
-/
namespace Sailplane.Http

/-- A byte as a percent sign and two digits. -/
def percentByte (byte : UInt8) : String :=
  "%" ++ String.ofList [(Nat.digitChar (byte.toNat / 16)).toUpper,
    (Nat.digitChar (byte.toNat % 16)).toUpper]

/-- A text in which controls, characters above ASCII and some others are written by bytes. -/
def percentEncode (others : String) (text : String) : String :=
  String.join (text.toList.map fun c =>
    if c.toNat < 0x20 || 0x7F ≤ c.toNat || others.toList.contains c then
      String.join ((Text.toBytes (String.singleton c)).map percentByte)
    else String.singleton c)

/-- The bytes that are meant by some bytes, with a percent sign and two digits read as one. -/
def percentDecode : List UInt8 → List UInt8
  | [] => []
  | byte :: high :: low :: rest =>
    match byte == 0x25, Text.hexValue? high, Text.hexValue? low with
    | true, some high, some low => UInt8.ofNat (high * 16 + low) :: percentDecode rest
    | _, _, _ => byte :: percentDecode (high :: low :: rest)
  | byte :: rest => byte :: percentDecode rest

/-- The text that is meant by a text with percent signs, if its bytes encode one. -/
def percentDecoded? (text : String) : Option String :=
  Text.ofBytes? (percentDecode (Text.toBytes text))

end Sailplane.Http
