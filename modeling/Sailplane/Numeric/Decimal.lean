import Sailplane.Numeric.Binary64

/-!
# Decimal texts of doubles

Ways to write a double. `fixed` rounds the exact binary value to a given number of places, a half
going to the even neighbour. The others write the fewest digits that read back as the same double,
the nearest of those: `shortest` never uses an exponent and takes the larger of two equally near
decimals, `pointed` always shows a point or an exponent and takes the even one.
-/
namespace Sailplane.Decimal

/-- The nearest integer to a quotient of naturals, a half going to the even neighbour. -/
def roundHalfEven (numerator denominator : Nat) : Nat :=
  let quotient := numerator / denominator
  let remainder := numerator % denominator
  if 2 * remainder < denominator then quotient
  else if denominator < 2 * remainder then quotient + 1
  else if quotient % 2 = 0 then quotient else quotient + 1

/-- A text padded with zeros on its left to a least width. -/
def padLeft (width : Nat) (text : String) : String :=
  "".pushn '0' (width - text.length) ++ text

/-- A number of units of `10 ^ -places`, written with that many places. -/
def placed (units places : Nat) : String :=
  if places = 0 then toString units
  else
    toString (units / Nat.pow 10 places) ++ "." ++
      padLeft places (toString (units % Nat.pow 10 places))

/-- Texts of the values that are no numbers. -/
def special (value : Float) : String :=
  if value.isNaN then "NaN" else if 0 < value then "inf" else "-inf"

/-- A double rounded to a number of places; a value that rounds to zero has no sign. -/
def fixed (places : Nat) (value : Float) : String :=
  if value.isFinite then
    let exact := Binary64.ofFloat value
    let units := roundHalfEven (exact.mantissa * Nat.pow 10 places * Nat.pow 2 exact.exponent.toNat)
      (Nat.pow 2 (-exact.exponent).toNat)
    (if exact.negative && units != 0 then "-" else "") ++ placed units places
  else special value

/-! ## The fewest digits -/

/-- A decimal `digits * 10 ^ exponent`. -/
structure Scaled where
  /-- The digits as a natural number. -/
  digits : Nat
  /-- The power of ten they are scaled by. -/
  exponent : Int
  deriving Repr, DecidableEq

/-- Compare `left * 10 ^ power` with `right * 2 ^ exponent`, exactly. -/
def compareScaled (left : Nat) (power : Int) (right : Nat) (exponent : Int) : Ordering :=
  compare (left * Nat.pow 10 power.toNat * Nat.pow 2 (-exponent).toNat)
    (right * Nat.pow 2 exponent.toNat * Nat.pow 10 (-power).toNat)

/-- Whether a decimal lies among the reals that round to a positive double. The gap below a power
of two is half the gap above it; the ends belong to a double with an even significand. -/
def readsBack (value : Binary64) (decimal : Scaled) : Bool :=
  let narrow := value.mantissa == Nat.pow 2 52 && decide (-1074 < value.exponent)
  let low := if narrow then 4 * value.mantissa - 1 else 4 * value.mantissa - 2
  let high := 4 * value.mantissa + 2
  let closed := value.mantissa % 2 == 0
  let below := compareScaled decimal.digits decimal.exponent low (value.exponent - 2)
  let above := compareScaled decimal.digits decimal.exponent high (value.exponent - 2)
  (below == .gt || (closed && below == .eq)) && (above == .lt || (closed && above == .eq))

/-- The largest multiple of `10 ^ power` that is not above a positive double, in that unit. -/
def floorAt (value : Binary64) (power : Int) : Nat :=
  (value.mantissa * Nat.pow 2 value.exponent.toNat * Nat.pow 10 (-power).toNat)
    / (Nat.pow 2 (-value.exponent).toNat * Nat.pow 10 power.toNat)

/-- Which of two equally near decimals is taken. -/
inductive Tie where
  /-- The larger one. -/
  | up
  /-- The one with an even last digit. -/
  | even
  deriving Repr, DecidableEq

/-- The nearest decimal in units of `10 ^ power` that reads back, if one of the two neighbours on
that grid does. -/
def onGrid? (tie : Tie) (value : Binary64) (power : Int) : Option Scaled :=
  let low : Scaled := ⟨floorAt value power, power⟩
  let high : Scaled := ⟨floorAt value power + 1, power⟩
  match readsBack value low, readsBack value high with
  | true, true =>
    match compareScaled (2 * low.digits + 1) power (2 * value.mantissa) value.exponent with
    | .gt => some low
    | .lt => some high
    | .eq => if tie = .even && low.digits % 2 == 0 then some low else some high
  | true, false => some low
  | false, true => some high
  | false, false => none

/-- The number of decimal digits before the point of a positive double; zero or negative for one
below a tenth. -/
def magnitude (value : Binary64) : Int :=
  let bits : Int := (Nat.log2 value.mantissa : Int) + value.exponent
  let guess : Int := (bits * 30103).fdiv 100000
  let fits (power : Int) : Bool := compareScaled 1 power value.mantissa value.exponent == .gt
  if fits guess then guess else if fits (guess + 1) then guess + 1 else guess + 2

/-- The fewest digits that read back as a positive double. Seventeen always suffice; the exact
value stands in for a search that finds nothing. -/
def select (tie : Tie) (value : Binary64) : Scaled :=
  let scale := magnitude value
  match (List.range 17).findSome? fun count => onGrid? tie value (scale - (count + 1 : Nat)) with
  | some decimal => decimal
  | none => ⟨value.mantissa * Nat.pow 2 value.exponent.toNat * Nat.pow 5 (-value.exponent).toNat,
      min value.exponent 0⟩

/-- A decimal written without an exponent, without zeros at the end of its fraction. -/
def Scaled.positional (decimal : Scaled) : String :=
  if 0 ≤ decimal.exponent then toString (decimal.digits * Nat.pow 10 decimal.exponent.toNat)
  else
    let places := (-decimal.exponent).toNat
    let whole := decimal.digits / Nat.pow 10 places
    let fraction := padLeft places (toString (decimal.digits % Nat.pow 10 places))
    let kept := (fraction.toList.reverse.dropWhile (· == '0')).reverse
    if kept.isEmpty then toString whole else toString whole ++ "." ++ String.ofList kept

/-- A decimal without zeros at the end of its digits. The digits count down to at most none. -/
def Scaled.stripped (decimal : Scaled) : Scaled :=
  let digits := (toString decimal.digits).toList.reverse
  let zeros := (digits.takeWhile (· == '0')).length
  ⟨decimal.digits / Nat.pow 10 zeros, decimal.exponent + (zeros : Int)⟩

/-- A decimal with a point or an exponent: positional from a hundred-thousandth up to sixteen digits
before the point, and otherwise with one digit before the point and an exponent that shows its
sign. -/
def Scaled.pointed (decimal : Scaled) : String :=
  let short := decimal.stripped
  let digits := toString short.digits
  let point : Int := (digits.length : Int) + short.exponent
  if 0 ≤ short.exponent && point ≤ 16 then decimal.positional ++ ".0"
  else if -5 < point && point ≤ 16 then decimal.positional
  else
    let fraction := String.ofList (digits.toList.drop 1)
    String.ofList (digits.toList.take 1) ++ (if fraction.isEmpty then "" else "." ++ fraction) ++
      (if point < 1 then "e" else "e+") ++ toString (point - 1)

/-- A finite double written with the fewest digits that read back, and with a point or an
exponent. -/
def pointed (value : Float) : String :=
  let exact := Binary64.ofFloat value
  (if exact.negative then "-" else "") ++
    (if exact.mantissa = 0 then "0.0" else (select .even exact).pointed)

/-- A double written with the fewest digits that read back, never with an exponent. -/
def shortest (value : Float) : String :=
  if value.isFinite then
    let exact := Binary64.ofFloat value
    (if exact.negative then "-" else "") ++
      (if exact.mantissa = 0 then "0" else (select .up exact).positional)
  else special value

end Sailplane.Decimal
