/-!
# Scalars

The geometry of a task is written once, over any type with the arithmetic listed here. Flights
are evaluated over machine doubles; laws of angles are stated over the rationals, where the
arithmetic is exact. The class holds operations only: laws belong to the instance they are
stated for, since doubles satisfy few of them.
-/
namespace Sailplane

/-- Arithmetic and order as the geometry uses them. -/
class Scalar (K : Type) extends Add K, Sub K, Mul K, Div K, Neg K, LE K, LT K, BEq K where
  /-- A natural number as a scalar. -/
  ofNat : Nat → K
  /-- The least non-negative number that differs from a value by whole multiples of a modulus. -/
  residue : K → Nat → K
  /-- The order is decided by the machine's comparison. -/
  decideLe : ∀ left right : K, Decidable (left ≤ right)
  /-- The strict order is decided by the machine's comparison. -/
  decideLt : ∀ left right : K, Decidable (left < right)

namespace Scalar

variable {K : Type} [Scalar K]

/-- Literals of a scalar type are its natural numbers. -/
instance (priority := low) instOfNat (n : Nat) : OfNat K n := ⟨Scalar.ofNat n⟩

/-- The order of a scalar type can be decided. -/
instance (priority := low) instDecidableLe (left right : K) : Decidable (left ≤ right) :=
  Scalar.decideLe left right

/-- The strict order of a scalar type can be decided. -/
instance (priority := low) instDecidableLt (left right : K) : Decidable (left < right) :=
  Scalar.decideLt left right

end Scalar

/-- The remainder of a rational after whole multiples of a modulus. -/
def exactResidue (value : Rat) (modulus : Nat) : Rat :=
  value - (modulus : Rat) * (value / (modulus : Rat)).floor

/-- Exact arithmetic on rationals. -/
instance instScalarRat : Scalar Rat where
  ofNat n := (n : Rat)
  residue := exactResidue
  decideLe := inferInstance
  decideLt := inferInstance

end Sailplane
