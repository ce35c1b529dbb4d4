/-!
# Labels in ASCII

A label with characters beyond ASCII as a label in ASCII: the characters of ASCII come first, and
digits behind the last hyphen tell which others stand where. The others are told in the order of
their codes, each by how many states lie between it and the one before, where a state is a code
with a place; the numbers have digits of varying weight, so that each tells where it ends. Reading
a label takes the digits one by one and puts each character in as soon as its number ends.
-/
namespace Sailplane.Text.Punycode

/-- How many digits there are. -/
def base : Nat := 36

/-- The least limit of a digit. -/
def leastLimit : Nat := 1

/-- The greatest limit of a digit. -/
def greatestLimit : Nat := 26

/-- The bias before anything is told. -/
def firstBias : Nat := 72

/-- The code before the first that may be told. -/
def firstCode : Nat := 128

/-- A digit: a letter, or a number from the twenty-seventh on. -/
def digit (value : Nat) : Char :=
  if value < 26 then Char.ofNat (97 + value) else Char.ofNat (48 + (value - 26))

/-- The value of a digit. -/
def digitValue? (c : Char) : Option Nat :=
  if 'a' ≤ c && c ≤ 'z' then some (c.toNat - 97)
  else if c.isDigit then some (c.toNat - 48 + 26)
  else none

/-- How often a difference is to be divided, and what is left of it. -/
def settle : Nat → Nat → Nat × Nat
  | 0, delta => (0, delta)
  | fuel + 1, delta =>
    if (base - leastLimit) * greatestLimit / 2 < delta then
      let (times, left) := settle fuel (delta / (base - leastLimit))
      (times + 1, left)
    else (0, delta)

/-- The bias after a difference, when some characters have been told. -/
def adapt (delta told : Nat) (first : Bool) : Nat :=
  let damped := if first then delta / 700 else delta / 2
  let (times, left) := settle delta (damped + damped / told)
  base * times + (base - leastLimit + 1) * left / (left + 38)

/-- The limit of a digit at a place. -/
def limit (place bias : Nat) : Nat := min greatestLimit (max leastLimit (place - bias))

/-- The digits of a number from a place on. -/
def digitsFrom (bias : Nat) : Nat → Nat → Nat → List Char
  | 0, _, _ => []
  | fuel + 1, place, number =>
    let limit := limit place bias
    if number < limit then [digit number]
    else digit (limit + (number - limit) % (base - limit)) ::
      digitsFrom bias fuel (place + base) ((number - limit) / (base - limit))

/-- The digits of a number. -/
def digits (bias number : Nat) : List Char := digitsFrom bias (number + 1) base number

/-! ## Writing -/

/-- What is kept while the characters are told. -/
structure Telling where
  /-- How many states lie between the last character told and the present state. -/
  delta : Nat
  /-- The bias. -/
  bias : Nat
  /-- How many characters stand in the label so far. -/
  told : Nat
  /-- Whether none beyond ASCII has been told. -/
  first : Bool
  /-- The digits so far, in order. -/
  written : List Char

/-- Pass one character of the label at a code. -/
def Telling.pass (code : Nat) (telling : Telling) (c : Char) : Telling :=
  if c.toNat < code then { telling with delta := telling.delta + 1 }
  else if c.toNat = code then
    { delta := 0, told := telling.told + 1, first := false
      bias := adapt telling.delta (telling.told + 1) telling.first
      written := telling.written ++ digits telling.bias telling.delta }
  else telling

/-- Tell all characters with one code, when the codes below another one are done; also the next
code. -/
def tellCode (label : List Char) (done : Telling × Nat) (code : Nat) : Telling × Nat :=
  let (telling, reached) := done
  let start := { telling with delta := telling.delta + (code - reached) * (telling.told + 1) }
  let told := label.foldl (Telling.pass code) start
  ({ told with delta := told.delta + 1 }, code + 1)

/-- The codes beyond ASCII in a label, in order, each once. -/
def codes (label : List Char) : List Nat :=
  ((label.map Char.toNat).filter (firstCode ≤ ·)).eraseDups.mergeSort

/-- A label with characters beyond ASCII as digits and characters of ASCII. -/
def encode (label : List Char) : List Char :=
  let plain := label.filter fun c => c.toNat < firstCode
  let start : Telling :=
    { delta := 0, bias := firstBias, told := plain.length, first := true, written := [] }
  let (telling, _) := (codes label).foldl (tellCode label) (start, firstCode)
  (if plain.isEmpty then [] else plain ++ ['-']) ++ telling.written

/-! ## Reading -/

/-- What is kept while digits are read. -/
structure Reading where
  /-- The label so far. -/
  label : List Char
  /-- The code of the state that is reached. -/
  code : Nat
  /-- The place of the state that is reached. -/
  index : Nat
  /-- The bias. -/
  bias : Nat
  /-- The number so far. -/
  number : Nat
  /-- What the next digit counts. -/
  weight : Nat
  /-- The place of the next digit. -/
  place : Nat

/-- Put a character in, when a number has ended. -/
def Reading.insert? (reading : Reading) (number : Nat) : Option Reading :=
  let state := reading.index + number
  let places := reading.label.length + 1
  let code := reading.code + state / places
  if code.isValidChar then
    some { label := reading.label.insertIdx (state % places) (Char.ofNat code)
           code, index := state % places + 1
           bias := adapt number places (reading.index = 0)
           number := 0, weight := 1, place := base }
  else none

/-- Take in one digit. -/
def Reading.take? (reading : Reading) (c : Char) : Option Reading := do
  let value ← digitValue? c
  let number := reading.number + value * reading.weight
  let limit := limit reading.place reading.bias
  if value < limit then reading.insert? number
  else some { reading with
    number, weight := reading.weight * (base - limit), place := reading.place + base }

/-- The characters of ASCII and the digits that a label in ASCII tells the others by. A hyphen at
the front ends no characters. -/
def cut (text : List Char) : List Char × List Char :=
  let digits := (text.reverse.takeWhile (· != '-')).reverse
  let front := text.take (text.length - digits.length)
  if 1 < front.length then (front.dropLast, digits) else ([], text)

/-- The label that characters and digits tell, if they tell one. -/
def decode? (text : List Char) : Option (List Char) := do
  let (plain, digits) := cut text
  let start : Reading :=
    { label := plain, code := firstCode, index := 0, bias := firstBias
      number := 0, weight := 1, place := base }
  let reading ← digits.foldlM Reading.take? start
  if reading.place == base && plain.all (·.toNat < firstCode) then some reading.label else none

end Sailplane.Text.Punycode
