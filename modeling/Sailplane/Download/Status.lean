import Sailplane.Numeric.Decimal

/-!
# Progress

How far a download is: its size and how much has come in. A size that is not known and the
position of a download that has not started are written as -1. Counts beyond the largest signed
word are written as that word.
-/
namespace Sailplane.Download

/-- How far a download is. -/
structure Status where
  /-- The size in bytes, or -1. -/
  size : Int
  /-- The bytes that came in, or -1 before the start. -/
  position : Int
  deriving Repr, DecidableEq

namespace Status

/-- A download that waits. -/
def queued : Status := ⟨-1, -1⟩

/-- A download that has just started. -/
def begun : Status := ⟨-1, 0⟩

/-- The largest count that is told apart. -/
def limit : Nat := Nat.pow 2 63 - 1

/-- A count, as far as it is told apart. -/
def clamp (count : UInt64) : Int := min count.toNat limit

/-- The size is known. -/
def withSize (status : Status) (size : UInt64) : Status := { status with size := clamp size }

/-- So much has come in. -/
def withPosition (status : Status) (position : UInt64) : Status :=
  { status with position := clamp position }

/-- Whether the download waits. -/
def isQueued (status : Status) : Bool := decide (status.position < 0)

/-- How much of the download has come in, in percent and at most a hundred, if its size is known. -/
def percent (status : Status) : Option Float :=
  if status.size ≤ 0 ∨ status.position < 0 then none
  else
    let share := Float.ofInt status.position / Float.ofInt status.size * 100.0
    some (if share < 100.0 then share else 100.0)

end Status

/-- A number of bytes in words, in the largest unit of which there is at least one. -/
def describeBytes (bytes : UInt64) : String :=
  let count := bytes.toFloat
  let kilo : Float := 1024.0
  if kilo * kilo * kilo ≤ count then Decimal.fixed 2 (count / (kilo * kilo * kilo)) ++ " GB"
  else if kilo * kilo ≤ count then Decimal.fixed 2 (count / (kilo * kilo)) ++ " MB"
  else if kilo ≤ count then Decimal.fixed 1 (count / kilo) ++ " KB"
  else toString bytes.toNat ++ " B"

end Sailplane.Download
