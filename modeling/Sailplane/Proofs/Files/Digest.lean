import Mathlib.Data.List.Forall2
import Mathlib.Data.Nat.Prime.Basic
import Sailplane.Files.Sha256

/-!
# The digest of a file

The digest is the one of the standard: the constants are the fractions of roots of primes, the bytes
are padded to whole blocks, the sixteen words that a round keeps are a window on the words of the
whole schedule, and every block is added to the state in turn. The digests of two messages of the
standard are those that it gives.
-/
namespace Sailplane.Sha256

/-! ## Constants -/

/-- A word that holds the first bits of the fraction of a root of a number. -/
def IsFraction (degree number : Nat) (word : UInt32) : Prop :=
  ∃ whole ≤ number, (whole * 2 ^ 32 + word.toNat) ^ degree ≤ number * 2 ^ (32 * degree) ∧
    number * 2 ^ (32 * degree) < (whole * 2 ^ 32 + word.toNat + 1) ^ degree

instance (degree number : Nat) (word : UInt32) : Decidable (IsFraction degree number word) :=
  inferInstanceAs (Decidable (∃ whole ≤ number, _ ∧ _))

/-- The primes below a number. -/
def primesBelow (bound : Nat) : List Nat := (List.range bound).filter Nat.Prime

/-- The constants of the rounds are the fractions of the cube roots of the first primes. -/
theorem roundConstants_fractions :
    List.Forall₂ (IsFraction 3) (primesBelow 312) roundConstants := by decide +kernel

/-- The first state is made of the fractions of the square roots of the first primes. -/
theorem start_fractions : List.Forall₂ (IsFraction 2) (primesBelow 20) State.start.words := by
  decide +kernel

/-! ## Padding -/

/-- Bytes are padded by a one, by as many zeros as are needed and by eight bytes for their number of
bits, and then fill whole blocks. -/
theorem padded_shape (bytes : List UInt8) : ∃ zeros < 64, ∃ last : List UInt8,
    padded bytes = bytes ++ 0x80 :: List.replicate zeros 0 ++ last ∧ last.length = 8 ∧
      64 ∣ (padded bytes).length := by
  refine ⟨(119 - bytes.length % 64) % 64, Nat.mod_lt _ (by decide),
    bytesOf ((UInt64.ofNat bytes.length * 8) >>> 32).toUInt32 ++
      bytesOf (UInt64.ofNat bytes.length * 8).toUInt32, ?_, rfl, ?_⟩
  · simp [padded]
  · simp only [padded, bytesOf, List.length_append, List.length_cons, List.length_nil,
      List.length_replicate]
    omega

/-! ## The schedule -/

/-- The words of a schedule: those of the block, and then each made of four that come before. -/
def schedule (block : List UInt32) (index : Nat) : UInt32 :=
  if index < 16 then block[index]?.getD 0
  else
    let early := schedule block (index - 15)
    let late := schedule block (index - 2)
    schedule block (index - 16) + (rotate early 7 ^^^ rotate early 18 ^^^ (early >>> 3)) +
      schedule block (index - 7) + (rotate late 17 ^^^ rotate late 19 ^^^ (late >>> 10))

/-- Sixteen words of a schedule in a row. -/
def window (block : List UInt32) (index : Nat) : List UInt32 :=
  (List.range 16).map fun later => schedule block (index + later)

theorem window_zero {block : List UInt32} (whole : block.length = 16) : window block 0 = block := by
  refine List.ext_getElem (by simp [window, whole]) fun index inside within => ?_
  have early : index < 16 := whole ▸ within
  simp only [window, List.getElem_map, List.getElem_range, Nat.zero_add]
  rw [schedule, if_pos early, List.getElem?_eq_getElem within]
  rfl

/-- The window moves on by one word: the first is dropped, and the next one comes in. -/
theorem window_succ (block : List UInt32) (index : Nat) :
    ∃ rest, window block index = schedule block index :: rest ∧
      rest[0]? = some (schedule block (index + 1)) ∧
      rest[8]? = some (schedule block (index + 9)) ∧
      rest[13]? = some (schedule block (index + 14)) ∧
      window block (index + 1) = rest ++ [schedule block (index + 16)] :=
  ⟨(List.range 15).map fun later => schedule block (index + (later + 1)), rfl, rfl, rfl, rfl, by
    simp only [window, List.range_succ (n := 15), List.map_append, Nat.add_assoc, Nat.add_comm 1]
    rfl⟩

/-- **The rounds follow the schedule**: each takes its constant and the word of its index. -/
theorem rounds_window (block : List UInt32) (constants : List UInt32) (index : Nat)
    (state : State) : rounds constants (window block index) state =
      (constants.zipIdx index).foldl
        (fun state own => state.round own.1 (schedule block own.2)) state := by
  induction constants generalizing index state with
  | nil => rfl
  | cons constant constants ih =>
    obtain ⟨rest, first, early, middle, late, next⟩ := window_succ block index
    have entering : schedule block (index + 16) = schedule block index +
        (rotate (rest[0]?.getD 0) 7 ^^^ rotate (rest[0]?.getD 0) 18 ^^^
          ((rest[0]?.getD 0) >>> 3)) + rest[8]?.getD 0 +
        (rotate (rest[13]?.getD 0) 17 ^^^ rotate (rest[13]?.getD 0) 19 ^^^
          ((rest[13]?.getD 0) >>> 10)) := by
      rw [schedule, if_neg (by omega), early, middle, late]
      rfl
    rw [first, rounds, ← entering, ← next, ih]
    rfl

/-- What a block makes of a state: the state of the rounds over its schedule is added to it. -/
def absorb (state : State) (block : List UInt32) : State :=
  state.add ((roundConstants.zipIdx 0).foldl
    (fun state own => state.round own.1 (schedule block own.2)) state)

/-- Blocks are absorbed one after the other. -/
theorem compress_blocks {blocks : Nat} {words : List UInt32} (whole : words.length = 16 * blocks)
    (state : State) : compress blocks words state = (List.range blocks).foldl
      (fun state index => absorb state ((words.drop (16 * index)).take 16)) state := by
  induction blocks generalizing words state with
  | zero => rfl
  | succ blocks ih =>
    have first : (words.take 16).length = 16 := by
      rw [List.length_take, whole]
      omega
    have followed := rounds_window (words.take 16) roundConstants 0 state
    rw [window_zero first] at followed
    rw [compress, followed, ih (by rw [List.length_drop, whole]; omega), List.range_succ_eq_map,
      List.foldl_cons, List.foldl_map]
    simp only [List.drop_drop, absorb, Nat.mul_succ, Nat.add_comm 16]
    rfl

/-! ## Digests -/

theorem length_wordsOf (bytes : List UInt8) : (wordsOf bytes).length = bytes.length / 4 := by
  fun_induction wordsOf bytes with
  | case1 a b c d rest ih =>
    rw [List.length_cons, ih]
    simp only [List.length_cons]
    omega
  | case2 bytes few =>
    match bytes, few with
    | [], _ | [_], _ | [_, _], _ | [_, _, _], _ => simp
    | a :: b :: c :: d :: rest, few => exact absurd rfl (few a b c d rest)

/-- **The digest of bytes** is what their padded blocks make of the first state. -/
theorem digest_blocks (bytes : List UInt8) : digest bytes =
    ((List.range ((padded bytes).length / 64)).foldl (fun state index =>
      absorb state (((wordsOf (padded bytes)).drop (16 * index)).take 16)) .start).words.flatMap
        bytesOf := by
  obtain ⟨-, -, -, -, -, whole⟩ := padded_shape bytes
  have length := length_wordsOf (padded bytes)
  have count : (wordsOf (padded bytes)).length / 16 = (padded bytes).length / 64 := by omega
  rw [digest, count, compress_blocks (by omega)]

theorem length_digest (bytes : List UInt8) : (digest bytes).length = 32 := rfl

/-- The digest of one block, `abc`. -/
example : digest [0x61, 0x62, 0x63] =
    [0xba, 0x78, 0x16, 0xbf, 0x8f, 0x01, 0xcf, 0xea, 0x41, 0x41, 0x40, 0xde, 0x5d, 0xae, 0x22, 0x23,
      0xb0, 0x03, 0x61, 0xa3, 0x96, 0x17, 0x7a, 0x9c, 0xb4, 0x10, 0xff, 0x61, 0xf2, 0x00, 0x15,
      0xad] := by decide +kernel

/-- The digest of two blocks, `abcdbcdecdefdefgefghfghighijhijkijkljklmklmnlmnomnopnopq`. -/
example : digest ((List.range 14).flatMap fun first =>
      (List.range 4).map fun next => .ofNat (0x61 + first + next)) =
    [0x24, 0x8d, 0x6a, 0x61, 0xd2, 0x06, 0x38, 0xb8, 0xe5, 0xc0, 0x26, 0x93, 0x0c, 0x3e, 0x60, 0x39,
      0xa3, 0x3c, 0xe4, 0x59, 0x64, 0xff, 0x21, 0x67, 0xf6, 0xec, 0xed, 0xd4, 0x19, 0xdb, 0x06,
      0xc1] := by decide +kernel

end Sailplane.Sha256
