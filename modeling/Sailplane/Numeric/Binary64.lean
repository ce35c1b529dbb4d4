import Sailplane.Numeric.Scalar

/-!
# Doubles as exact numbers

A finite double is an integer times a power of two. This module reads that form off the bits
and writes it back, so that remainders and decimal texts can be computed exactly on naturals.
-/
namespace Sailplane

/-- A finite double: `mantissa * 2 ^ exponent`, with its sign kept apart for the two zeros. -/
structure Binary64 where
  /-- Whether the sign bit is set. -/
  negative : Bool
  /-- The integer significand, below `2 ^ 53`. -/
  mantissa : Nat
  /-- The power of two it is scaled by, at least `-1074`. -/
  exponent : Int
  deriving Repr, DecidableEq

namespace Binary64

/-- The exact value of a double that is neither infinite nor undefined. -/
def ofFloat (value : Float) : Binary64 :=
  let bits := value.toBits.toNat
  let field : Nat := bits / Nat.pow 2 52 % Nat.pow 2 11
  let fraction := bits % Nat.pow 2 52
  let negative := decide (Nat.pow 2 63 ≤ bits)
  if field = 0 then ⟨negative, fraction, -1074⟩
  else ⟨negative, Nat.pow 2 52 + fraction, (field : Int) - 1075⟩

/-- The double of an exactly representable value. -/
def toFloat (value : Binary64) : Float :=
  let sign := if value.negative then Nat.pow 2 63 else 0
  if value.mantissa = 0 then Float.ofBits (UInt64.ofNat sign)
  else
    let lowest := max (value.exponent + (Nat.log2 value.mantissa : Int) - 52) (-1074)
    let significand := value.mantissa * Nat.pow 2 (value.exponent - lowest).toNat
      / Nat.pow 2 (lowest - value.exponent).toNat
    let body := if significand < Nat.pow 2 52 then significand
      else (lowest + 1075).toNat * Nat.pow 2 52 + (significand - Nat.pow 2 52)
    Float.ofBits (UInt64.ofNat (sign + body))

/-- The remainder of the truncating division by a natural, with the sign of the dividend. -/
def truncatedRemainder (value : Binary64) (modulus : Nat) : Binary64 :=
  if 0 ≤ value.exponent then
    ⟨value.negative, value.mantissa * Nat.pow 2 value.exponent.toNat % modulus, 0⟩
  else
    ⟨value.negative, value.mantissa % (modulus * Nat.pow 2 (-value.exponent).toNat), value.exponent⟩

end Binary64

/-- The remainder of a double after whole multiples of a modulus: the truncated remainder is
exact, and a negative one is moved up by one modulus, which rounds. -/
def floatResidue (value : Float) (modulus : Nat) : Float :=
  if value.isFinite then
    let remainder := ((Binary64.ofFloat value).truncatedRemainder modulus).toFloat
    if remainder < 0 then remainder + Float.ofNat modulus else remainder
  else 0.0 / 0.0

/-- Machine arithmetic on doubles. -/
instance instScalarFloat : Scalar Float where
  ofNat := Float.ofNat
  residue := floatResidue
  decideLe := inferInstance
  decideLt := inferInstance

end Sailplane
