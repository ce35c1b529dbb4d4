/-!
# SHA-256

The digest of a sequence of bytes: the bytes are padded to blocks of sixteen words, and each block
changes a state of eight words in sixty-four rounds.
-/
namespace Sailplane.Sha256

/-- A word turned to the right by a number of bits. -/
def rotate (word : UInt32) (bits : UInt32) : UInt32 := (word >>> bits) ||| (word <<< (32 - bits))

/-- The constants of the rounds: the first bits of the fractions of the cube roots of the first
sixty-four primes. -/
def roundConstants : List UInt32 := [
  0x428a2f98, 0x71374491, 0xb5c0fbcf, 0xe9b5dba5, 0x3956c25b, 0x59f111f1, 0x923f82a4, 0xab1c5ed5,
  0xd807aa98, 0x12835b01, 0x243185be, 0x550c7dc3, 0x72be5d74, 0x80deb1fe, 0x9bdc06a7, 0xc19bf174,
  0xe49b69c1, 0xefbe4786, 0x0fc19dc6, 0x240ca1cc, 0x2de92c6f, 0x4a7484aa, 0x5cb0a9dc, 0x76f988da,
  0x983e5152, 0xa831c66d, 0xb00327c8, 0xbf597fc7, 0xc6e00bf3, 0xd5a79147, 0x06ca6351, 0x14292967,
  0x27b70a85, 0x2e1b2138, 0x4d2c6dfc, 0x53380d13, 0x650a7354, 0x766a0abb, 0x81c2c92e, 0x92722c85,
  0xa2bfe8a1, 0xa81a664b, 0xc24b8b70, 0xc76c51a3, 0xd192e819, 0xd6990624, 0xf40e3585, 0x106aa070,
  0x19a4c116, 0x1e376c08, 0x2748774c, 0x34b0bcb5, 0x391c0cb3, 0x4ed8aa4a, 0x5b9cca4f, 0x682e6ff3,
  0x748f82ee, 0x78a5636f, 0x84c87814, 0x8cc70208, 0x90befffa, 0xa4506ceb, 0xbef9a3f7, 0xc67178f2]

/-- Eight words. -/
structure State where
  /-- The first word. -/
  a : UInt32
  /-- The second word. -/
  b : UInt32
  /-- The third word. -/
  c : UInt32
  /-- The fourth word. -/
  d : UInt32
  /-- The fifth word. -/
  e : UInt32
  /-- The sixth word. -/
  f : UInt32
  /-- The seventh word. -/
  g : UInt32
  /-- The eighth word. -/
  h : UInt32
  deriving Repr, DecidableEq

namespace State

/-- The first state: the first bits of the fractions of the square roots of the first eight
primes. -/
def start : State :=
  ⟨0x6a09e667, 0xbb67ae85, 0x3c6ef372, 0xa54ff53a, 0x510e527f, 0x9b05688c, 0x1f83d9ab, 0x5be0cd19⟩

/-- The words in order. -/
def words (state : State) : List UInt32 :=
  [state.a, state.b, state.c, state.d, state.e, state.f, state.g, state.h]

/-- Word by word addition. -/
def add (left right : State) : State :=
  ⟨left.a + right.a, left.b + right.b, left.c + right.c, left.d + right.d,
    left.e + right.e, left.f + right.f, left.g + right.g, left.h + right.h⟩

/-- One round with its constant and its word. -/
def round (state : State) (constant word : UInt32) : State :=
  let outer := rotate state.e 6 ^^^ rotate state.e 11 ^^^ rotate state.e 25
  let choice := (state.e &&& state.f) ^^^ ((~~~state.e) &&& state.g)
  let first := state.h + outer + choice + constant + word
  let inner := rotate state.a 2 ^^^ rotate state.a 13 ^^^ rotate state.a 22
  let majority := (state.a &&& state.b) ^^^ (state.a &&& state.c) ^^^ (state.b &&& state.c)
  ⟨first + (inner + majority), state.a, state.b, state.c, state.d + first, state.e, state.f,
    state.g⟩

end State

/-- The rounds: each takes the first of sixteen words and adds a new one at their end. -/
def rounds : List UInt32 → List UInt32 → State → State
  | [], _, state => state
  | constant :: constants, window, state =>
    match window with
    | word :: rest =>
      let early := rest[0]?.getD 0
      let late := rest[13]?.getD 0
      let low := rotate early 7 ^^^ rotate early 18 ^^^ (early >>> 3)
      let high := rotate late 17 ^^^ rotate late 19 ^^^ (late >>> 10)
      rounds constants (rest ++ [word + low + rest[8]?.getD 0 + high])
        (state.round constant word)
    | [] => state

/-- The words of bytes, four bytes each. -/
def wordsOf : List UInt8 → List UInt32
  | a :: b :: c :: d :: rest =>
    ((a.toUInt32 <<< 24) ||| (b.toUInt32 <<< 16) ||| (c.toUInt32 <<< 8) ||| d.toUInt32) ::
      wordsOf rest
  | _ => []

/-- The bytes of a word. -/
def bytesOf (word : UInt32) : List UInt8 :=
  [(word >>> 24).toUInt8, (word >>> 16).toUInt8, (word >>> 8).toUInt8, word.toUInt8]

/-- Bytes padded to whole blocks, with their number of bits at the end. -/
def padded (bytes : List UInt8) : List UInt8 :=
  let bits := (UInt64.ofNat bytes.length) * 8
  let zeros := List.replicate ((119 - bytes.length % 64) % 64) (0 : UInt8)
  bytes ++ [(0x80 : UInt8)] ++ zeros ++
    bytesOf (bits >>> 32).toUInt32 ++ bytesOf bits.toUInt32

/-- A number of blocks of sixteen words, one after the other. -/
def compress : Nat → List UInt32 → State → State
  | 0, _, state => state
  | blocks + 1, words, state =>
    compress blocks (words.drop 16) (state.add (rounds roundConstants (words.take 16) state))

/-- The digest of bytes. -/
def digest (bytes : List UInt8) : List UInt8 :=
  let words := wordsOf (padded bytes)
  (compress (words.length / 16) words .start).words.flatMap bytesOf

end Sailplane.Sha256
