import Sailplane.Json.Document
import Sailplane.Text.Utf8

/-!
# Reading texts

The document of a text, and the values of its tokens. A decimal is read from as many of its digits
as fit a machine word, scaled by one power of ten; that is exact for up to fifteen digits and
small exponents, and near the last place otherwise.
-/
namespace Sailplane.Json

/-- A document without the blanks at its front. -/
def skipBlanks (bytes : List UInt8) : List UInt8 :=
  bytes.dropWhile fun byte => byte == 32 || byte == 10 || byte == 9 || byte == 13

/-! ## Numbers -/

/-- The digits at the front of a text, and the rest of it. -/
def splitDigits : List UInt8 → List Nat × List UInt8
  | [] => ([], [])
  | byte :: rest =>
    if 48 ≤ byte && byte ≤ 57 then
      let (digits, rest) := splitDigits rest
      ((byte.toNat - 48) :: digits, rest)
    else ([], byte :: rest)

/-- The first digits that fit a machine word after a significand: the significand they make and
how many digits are left. -/
def gather (significand : Nat) : List Nat → Nat × Nat
  | [] => (significand, 0)
  | digit :: rest =>
    if significand * 10 + digit < Nat.pow 2 64 then gather (significand * 10 + digit) rest
    else (significand, rest.length + 1)

/-- A power of ten up to the 308th. -/
def powerOfTen (power : Nat) : Float := Float.ofScientific 1 false power

/-- A number scaled by a power of ten, unless it leaves the range of doubles. Powers below the
least one are taken in steps, of which the third already gives zero. -/
def scale (steps : Nat) (value : Float) (power : Int) : Option Float :=
  if power.natAbs ≤ 308 then
    if 0 ≤ power then
      let scaled := value * powerOfTen power.toNat
      if scaled.isInf then none else some scaled
    else some (value / powerOfTen power.natAbs)
  else if value == 0 then some value
  else if 0 ≤ power then none
  else match steps with
    | 0 => some 0.0
    | steps + 1 => scale steps (value / powerOfTen 308) (power + 308)

/-- The parts of a written number. -/
structure Numeral where
  /-- Whether a minus sign stands before it. -/
  negative : Bool
  /-- The digits before the point. -/
  whole : List Nat
  /-- The digits behind the point, if there is one. -/
  fraction : Option (List Nat)
  /-- The sign and digits of the exponent, if there is one. -/
  exponent : Option (Bool × List Nat)

/-- The value of a numeral; none if it is out of range. -/
def Numeral.value? (numeral : Numeral) : Option Number :=
  let signed (value : Float) : Float := if numeral.negative then -value else value
  let (significand, dropped) := gather 0 numeral.whole
  match numeral.fraction, numeral.exponent with
  | none, none =>
    if dropped = 0 then
      if !numeral.negative then some (.integer significand)
      else if 0 < significand && significand ≤ Nat.pow 2 63 then
        some (.integer (-(significand : Int)))
      else some (.real (signed (Float.ofNat significand)))
    else (scale 4 (Float.ofNat significand) dropped).map fun value => .real (signed value)
  | fraction, exponent =>
    let digits := fraction.getD []
    let (significand, left) := gather significand digits
    let power : Int := (dropped : Int) - ((digits.length - left : Nat) : Int)
    match exponent with
    | none => (scale 4 (Float.ofNat significand) power).map fun value => .real (signed value)
    | some (negative, digits) =>
      let size : Nat := digits.foldl (fun size digit => size * 10 + digit) 0
      if Nat.pow 2 31 ≤ size then
        if significand = 0 || negative then some (.real (signed 0.0)) else none
      else
        let power := if negative then power - (size : Int) else power + (size : Int)
        (scale 4 (Float.ofNat significand) power).map fun value => .real (signed value)

/-- The fault of a number that lacks a digit at some place. -/
def digitFault (rest : List UInt8) : Fault := if rest.isEmpty then .valueEnds else .badNumber

/-- A number token and the text behind it, read from the front of a text. -/
def scanNumber (bytes : List UInt8) : Token Number × Option (List UInt8) :=
  let fail (rest : List UInt8) : Token Number × Option (List UInt8) :=
    (⟨.error (digitFault rest), some .badNumber⟩, none)
  let finish (numeral : Numeral) (rest : List UInt8) : Token Number × Option (List UInt8) :=
    match numeral.value? with
    | some number => (⟨.ok number, none⟩, some rest)
    | none => (⟨.error .bigNumber, none⟩, some rest)
  let negative := bytes.head? == some 45
  let (whole, rest) := splitDigits (if negative then bytes.drop 1 else bytes)
  match whole with
  | [] => fail rest
  | 0 :: _ :: _ => (⟨.error .badNumber, some .badNumber⟩, none)
  | whole =>
    let pointed := rest.head? == some 46
    let (fraction, rest) := if pointed then splitDigits (rest.drop 1) else ([], rest)
    if pointed && fraction.isEmpty then fail rest
    else
      let fraction := if pointed then some fraction else none
      if rest.head? == some 101 || rest.head? == some 69 then
        let rest := rest.drop 1
        let downward := rest.head? == some 45
        let rest := if downward || rest.head? == some 43 then rest.drop 1 else rest
        let (exponent, rest) := splitDigits rest
        if exponent.isEmpty then fail rest
        else finish ⟨negative, whole, fraction, some (downward, exponent)⟩ rest
      else finish ⟨negative, whole, fraction, none⟩ rest

/-! ## Texts -/

/-- The number of four hexadecimal digits. -/
def hexQuad? (a b c d : UInt8) : Option Nat := do
  let a ← Text.hexValue? a
  let b ← Text.hexValue? b
  let c ← Text.hexValue? c
  let d ← Text.hexValue? d
  return ((a * 16 + b) * 16 + c) * 16 + d

/-- The byte that an escape letter stands for. -/
def unescape? (letter : UInt8) : Option UInt8 :=
  if letter == 34 then some 34
  else if letter == 92 then some 92
  else if letter == 47 then some 47
  else if letter == 98 then some 8
  else if letter == 102 then some 12
  else if letter == 110 then some 10
  else if letter == 114 then some 13
  else if letter == 116 then some 9
  else none

/-- The bytes of a character in front of reversed bytes. -/
def pushChar (code : Nat) (reversed : List UInt8) : List UInt8 :=
  (Text.toBytes (String.singleton (Char.ofNat code))).reverse ++ reversed

/-- The bytes of a text up to its closing quote, behind reversed bytes. Escaped halves of a
character have to stand in pairs. -/
def readText (reversed : List UInt8) : List UInt8 → Except Fault (List UInt8)
  | [] => .error .quotesEnd
  | 34 :: _ => .ok reversed.reverse
  | [92] => .error .quotesEnd
  | 92 :: 117 :: a :: b :: c :: d :: rest =>
    match hexQuad? a b c d with
    | none => .error .badEscape
    | some unit =>
      if 0xDC00 ≤ unit && unit ≤ 0xDFFF then .error .strayHalf
      else if unit < 0xD800 || 0xDBFF < unit then readText (pushChar unit reversed) rest
      else match rest with
        | [] => .error .quotesEnd
        | [92] => .error .quotesEnd
        | 92 :: 117 :: e :: f :: g :: h :: rest =>
          match hexQuad? e f g h with
          | none => .error .badEscape
          | some low =>
            if 0xDC00 ≤ low && low ≤ 0xDFFF then
              readText (pushChar ((unit - 0xD800) * 0x400 + (low - 0xDC00) + 0x10000) reversed)
                rest
            else .error .strayHalf
        | 92 :: 117 :: _ => .error .quotesEnd
        | _ => .error .missingHalf
  | 92 :: 117 :: _ => .error .quotesEnd
  | 92 :: letter :: rest =>
    match unescape? letter with
    | none => .error .badEscape
    | some byte => readText (byte :: reversed) rest
  | byte :: rest => if byte < 32 then .error .control else readText (byte :: reversed) rest

/-- The text behind the closing quote. -/
def skipText : List UInt8 → Except Fault (List UInt8)
  | [] => .error .quotesEnd
  | 34 :: rest => .ok rest
  | [92] => .error .quotesEnd
  | 92 :: 117 :: a :: b :: c :: d :: rest =>
    if (hexQuad? a b c d).isSome then skipText rest else .error .badEscape
  | 92 :: 117 :: _ => .error .quotesEnd
  | 92 :: letter :: rest =>
    if (unescape? letter).isSome then skipText rest else .error .badEscape
  | byte :: rest => if byte < 32 then .error .control else skipText rest

/-- A text token and the text behind it, read from behind the opening quote. -/
def scanText (bytes : List UInt8) : Token String × Option (List UInt8) :=
  let value : Except Fault String := do
    let content ← readText [] bytes
    match Text.ofBytes? content with
    | some decoded => return decoded
    | none => throw .badText
  match skipText bytes with
  | .ok rest => (⟨value, none⟩, some rest)
  | .error fault => (⟨value, some fault⟩, none)

/-! ## Documents -/

/-- A fixed word, of which the first letter was met. -/
def scanWord (document : Document) (letters rest : List UInt8) :
    Document × Option (List UInt8) :=
  match letters, rest with
  | [], rest => (document, some rest)
  | _ :: _, [] => (.misspelt .valueEnds, none)
  | letter :: letters, byte :: rest =>
    if letter == byte then scanWord document letters rest else (.misspelt .misspelt, none)

mutual

/-- A document and the text behind it. The fuel bounds the tokens read; the length of the text is
enough. -/
def scanValue : Nat → List UInt8 → Document × Option (List UInt8)
  | 0, _ => (.broken .noValue, none)
  | fuel + 1, bytes =>
    match skipBlanks bytes with
    | [] => (.broken .valueEnds, none)
    | 110 :: rest => scanWord .null [117, 108, 108] rest
    | 116 :: rest => scanWord (.bool true) [114, 117, 101] rest
    | 102 :: rest => scanWord (.bool false) [97, 108, 115, 101] rest
    | 34 :: rest => let (token, rest) := scanText rest; (.text token, rest)
    | 91 :: rest =>
      let (items, tail, rest) := scanItems fuel true rest
      (.list items tail, rest)
    | 123 :: rest =>
      let (fields, tail, rest) := scanFields fuel true rest
      (.object fields tail, rest)
    | byte :: rest =>
      if byte == 45 || (48 ≤ byte && byte ≤ 57) then
        let (token, rest) := scanNumber (byte :: rest)
        (.number token, rest)
      else (.broken .noValue, none)

/-- The items of a list, from behind its bracket or behind an item. Nothing is read behind an item
that is broken. -/
def scanItems : Nat → Bool → List UInt8 → List Document × Tail × Option (List UInt8)
  | 0, _, _ => ([], .stray, none)
  | fuel + 1, first, bytes =>
    let item (bytes : List UInt8) : List Document × Tail × Option (List UInt8) :=
      match scanValue fuel bytes with
      | (document, none) => ([document], .stray, none)
      | (document, some rest) =>
        let (items, tail, rest) := scanItems fuel false rest
        (document :: items, tail, rest)
    match skipBlanks bytes with
    | [] => ([], .ended, none)
    | 93 :: rest => ([], .closed, some rest)
    | byte :: rest =>
      if first then item (byte :: rest)
      else if byte == 44 then
        match skipBlanks rest with
        | [] => ([], .commaEnded, none)
        | 93 :: _ => ([], .commaClosed, none)
        | rest => item rest
      else ([], .stray, none)

/-- The fields of an object, from behind its brace or behind a field. Nothing is read behind a
field that is broken. -/
def scanFields : Nat → Bool → List UInt8 →
    List (Token String × Document) × Tail × Option (List UInt8)
  | 0, _, _ => ([], .stray, none)
  | fuel + 1, first, bytes =>
    let last (name : Token String) (document : Document) :
        List (Token String × Document) × Tail × Option (List UInt8) :=
      ([(name, document)], .stray, none)
    let nameless : List (Token String × Document) × Tail × Option (List UInt8) :=
      last ⟨.error .noName, some .noName⟩ (.broken .noName)
    let field (bytes : List UInt8) :
        List (Token String × Document) × Tail × Option (List UInt8) :=
      match scanText bytes with
      | (name, none) => last name (.broken .noColon)
      | (name, some rest) =>
        match skipBlanks rest with
        | 58 :: rest =>
          match scanValue fuel rest with
          | (document, none) => last name document
          | (document, some rest) =>
            let (fields, tail, rest) := scanFields fuel false rest
            ((name, document) :: fields, tail, rest)
        | [] => last name (.broken .objectEnds)
        | _ => last name (.broken .noColon)
    match skipBlanks bytes with
    | [] => ([], .ended, none)
    | 125 :: rest => ([], .closed, some rest)
    | byte :: rest =>
      if first then
        if byte == 34 then field rest else nameless
      else if byte == 44 then
        match skipBlanks rest with
        | [] => ([], .commaEnded, none)
        | 125 :: _ => ([], .commaClosed, none)
        | 34 :: rest => field rest
        | _ => nameless
      else ([], .stray, none)

end

/-- The document at the front of a text and the text behind it. -/
def Document.scan (bytes : List UInt8) : Document × Option (List UInt8) :=
  scanValue (2 * bytes.length + 1) bytes

/-- The fault of a text that has more than blanks behind its document. -/
def trailingFault (rest : Option (List UInt8)) : Option Fault :=
  match rest with
  | none => none
  | some rest => if (skipBlanks rest).isEmpty then none else some .trailing

/-- The value of a text. -/
def parse (bytes : List UInt8) : Except Fault Json := do
  let (document, rest) := Document.scan bytes
  let value ← document.capture (some maxDepth)
  match trailingFault rest with
  | some fault => throw fault
  | none => return value.sorted

end Sailplane.Json
