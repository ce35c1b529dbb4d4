import Sailplane.Http.Domain
import Sailplane.Http.Percent
import Sailplane.Text.Split

/-!
# Hosts

The hosts of addresses, each in one form. A host is a name, four numbers, or eight groups of
hexadecimal digits in brackets. A name whose last label is a number means four numbers, however
they were written; the groups are written without the longest run of zeros. A name is a domain in
ASCII.
-/
namespace Sailplane.Http

namespace Host

/-! ## Numbers -/

/-- The number that digits of a base stand for, if they are such digits. -/
def number? (base : Nat) (digits : List Char) : Option Nat :=
  digits.foldlM (fun value digit =>
    ((Text.hexValue? (UInt8.ofNat digit.toNat)).filter fun d => d < base && digit.toNat < 0x80).map
      fun d => value * base + d) 0

/-- The number that a label means: hexadecimal behind `0x`, octal behind `0`, else decimal. -/
def labelNumber? : List Char → Option Nat
  | [] => none
  | '0' :: 'x' :: digits => number? 16 digits
  | '0' :: digit :: digits => number? 8 (digit :: digits)
  | digits => number? 10 digits

/-- Whether a list has digits only, and at least one. -/
def isDigits (label : List Char) : Bool := !label.isEmpty && label.all Char.isDigit

/-- The labels of a name; nothing behind a dot at the end is no label. -/
def labels (name : List Char) : List (List Char) :=
  let pieces := Text.piecesAt '.' name
  if 1 < pieces.length && pieces.getLast? == some [] then pieces.dropLast else pieces

/-- Whether a name has a number as its last label. -/
def endsInNumber (name : List Char) : Bool :=
  match (labels name).getLast? with
  | some last => isDigits last || (labelNumber? last).isSome
  | none => false

/-- The four numbers that some numbers mean, if they mean any: the last one fills all the places
that are left. -/
def fourNumbers? (numbers : List Nat) : Option (List Nat) :=
  let front := numbers.dropLast
  let left := 4 - front.length
  match numbers.getLast? with
  | some last =>
    if 3 < front.length || front.any (255 < ·) || Nat.pow 256 left ≤ last then none
    else some (front ++ (List.range left).reverse.map fun place => last / Nat.pow 256 place % 256)
  | none => none

/-- Four numbers as they are written. -/
def writeFour (numbers : List Nat) : String := ".".intercalate (numbers.map toString)

/-! ## Groups -/

/-- The value of a group of one to four hexadecimal digits. -/
def group? (digits : List Char) : Option Nat :=
  if digits.isEmpty || 4 < digits.length then none else number? 16 digits

/-- One of four numbers at the end of groups: no zero leads. -/
def plainNumber? (digits : List Char) : Option Nat :=
  if isDigits digits && digits.length ≤ 3 && (digits.length == 1 || digits.head? != some '0') then
    (number? 10 digits).filter (· ≤ 255)
  else none

/-- The two groups that four numbers make. -/
def groupsOfFour? (text : List Char) : Option (List Nat) :=
  match (Text.piecesAt '.' text).mapM plainNumber? with
  | some [a, b, c, d] => some [a * 256 + b, c * 256 + d]
  | _ => none

/-- The groups between single colons; the last one may be four numbers. -/
def groups? (text : List Char) : Option (List Nat) :=
  let pieces := Text.piecesAt ':' text
  match pieces.getLast? with
  | some last =>
    if last.contains '.' then
      return (← pieces.dropLast.mapM group?) ++ (← groupsOfFour? last)
    else pieces.mapM group?
  | none => none

/-- A text before and behind its first double colon, if it has one. -/
def cutAtGap? : List Char → Option (List Char × List Char)
  | ':' :: ':' :: rest => some ([], rest)
  | c :: rest => (cutAtGap? rest).map fun (front, back) => (c :: front, back)
  | [] => none

/-- The groups of a part beside a double colon, which may have none. -/
def sideGroups? (text : List Char) : Option (List Nat) :=
  if text.isEmpty then some [] else groups? text

/-- The eight groups that a text means; a double colon means zeros. -/
def eightGroups? (text : List Char) : Option (List Nat) :=
  match cutAtGap? text with
  | none => (groups? text).filter fun groups => groups.length == 8
  | some (front, back) =>
    if front.contains '.' then none
    else do
      let front ← sideGroups? front
      let back ← sideGroups? back
      if front.length + back.length < 8 then
        some (front ++ List.replicate (8 - front.length - back.length) 0 ++ back)
      else none

/-- A group as it is written. -/
def writeGroup (group : Nat) : String := String.ofList (Nat.toDigits 16 group)

/-- Groups with colons between them. -/
def writeGroups (groups : List Nat) : String := ":".intercalate (groups.map writeGroup)

/-- How many zeros stand at the front. -/
def zeros (groups : List Nat) : Nat := (groups.takeWhile (· == 0)).length

/-- The longest run of zeros as its start and length; of two, the first. -/
def longestZeros (groups : List Nat) : Nat × Nat :=
  (List.range groups.length).foldl (fun best start =>
    let length := zeros (groups.drop start)
    if best.2 < length then (start, length) else best) (0, 0)

/-- Eight groups as they are written. -/
def writeEight (groups : List Nat) : String :=
  let (start, length) := longestZeros groups
  if length < 2 then "[" ++ writeGroups groups ++ "]"
  else "[" ++ writeGroups (groups.take start) ++ "::" ++
    writeGroups (groups.drop (start + length)) ++ "]"

/-! ## Names -/

/-- Whether a character may stand in a name. -/
def isNameChar (c : Char) : Bool :=
  0x20 < c.toNat && c != '\x7F' && !"#%/:<>?@[\\]^|".toList.contains c

/-- A name, or the numbers that it means. -/
def readName? (text : List Char) : Option String := do
  let decoded ← percentDecoded? (String.ofList text)
  let name ← Domain.read? decoded.toList
  if name.isEmpty || !name.all isNameChar then none
  else if endsInNumber name then
    ((labels name).mapM labelNumber?).bind fourNumbers? |>.map writeFour
  else some (String.ofList name)

/-- Whether a character may stand in a name that has no form of its own. -/
def isLooseChar (c : Char) : Bool := !"\x00\t\n\r #/:<>?@[\\]^|".toList.contains c

/-- A host in its form. A name without a form of its own only has its bytes beyond ASCII written
by percent signs, and may be empty. -/
def read? (isLoose : Bool) (text : List Char) : Option String :=
  match text with
  | '[' :: inside =>
    if inside.getLast? == some ']' then (eightGroups? inside.dropLast).map writeEight else none
  | text =>
    if !isLoose then readName? text
    else if text.all isLooseChar then some (percentEncode "" (String.ofList text))
    else none

end Host

end Sailplane.Http
