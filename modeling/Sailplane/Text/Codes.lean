import Sailplane.Text.Split
import Sailplane.Text.Utf8

/-!
# Tables of characters

Sets of characters and maps between characters, written as texts. A code is hexadecimal, two codes
with a dash are the ends of a range, and rows stand between blanks or on lines. A row of a map leads
from codes to what they stand for: several codes with dots in between, or the results for a row of
codes with commas in between. From a range to one code the distance stays the same, and a range of
every second code ends in `/2`.
-/
namespace Sailplane.Text

/-- The number that hexadecimal digits stand for. -/
def readCode (digits : List Char) : Nat :=
  digits.foldl (fun code digit => code * 16 + (hexValue? (UInt8.ofNat digit.toNat)).getD 0) 0

/-- The rows of a text. -/
def rowsOf (text : String) : List (List Char) :=
  (pieces (fun c => c == ' ' || c == '\n') text.toList).filter fun row => !row.isEmpty

/-! ## Sets -/

/-- Codes from one to another. -/
structure CodeRange where
  /-- The first code. -/
  first : Nat
  /-- The last code. -/
  last : Nat
  deriving Repr, DecidableEq

/-- Whether a code lies in a range. -/
def CodeRange.contains (range : CodeRange) (code : Nat) : Bool :=
  range.first ≤ code && code ≤ range.last

/-- A code, or the ends of a range. -/
def readRange (word : List Char) : CodeRange :=
  match piecesAt '-' word with
  | [first, last] => ⟨readCode first, readCode last⟩
  | _ => ⟨readCode word, readCode word⟩

/-- The ranges of a set. -/
def readRanges (text : String) : List CodeRange := (rowsOf text).map readRange

/-- Whether a character is in a set. -/
def isIn (set : List CodeRange) (c : Char) : Bool := set.any fun range => range.contains c.toNat

/-! ## Maps -/

/-- A row of a map. -/
structure CodeRow where
  /-- The codes it leads from. -/
  range : CodeRange
  /-- The distance between them. -/
  step : Nat
  /-- What they stand for, in order. -/
  images : List (List Nat)
  deriving Repr, DecidableEq

/-- What a code stands for in a row, if the row leads from it. -/
def CodeRow.image? (row : CodeRow) (code : Nat) : Option (List Nat) :=
  if row.range.contains code && (code - row.range.first) % row.step == 0 then
    match row.images with
    | [[image]] => some [image + (code - row.range.first)]
    | images => images[code - row.range.first]?
  else none

/-- A row of a map. -/
def readRow (word : List Char) : CodeRow :=
  match piecesAt '>' word with
  | [source, target] =>
    let images := (piecesAt ',' target).map fun image => (piecesAt '.' image).map readCode
    let (range, step) := match piecesAt '/' source with
      | [range, step] => (readRange range, readCode step)
      | _ => (readRange source, 1)
    ⟨if 1 < images.length then ⟨range.first, range.first + images.length - 1⟩ else range, step,
      images⟩
  | _ => ⟨⟨0, 0⟩, 1, []⟩

/-- The rows of a map. -/
def readRows (text : String) : List CodeRow := (rowsOf text).map readRow

/-- What a character stands for in a map, if the map leads from it. -/
def image? (map : List CodeRow) (c : Char) : Option (List Char) :=
  (map.findSome? fun row => row.image? c.toNat).map fun codes => codes.map Char.ofNat

end Sailplane.Text
