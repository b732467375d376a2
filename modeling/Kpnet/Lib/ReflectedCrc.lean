import Mathlib.Data.Nat.Bitwise
import Kpnet.Lib.Bytes

/-!
# Reflected cyclic redundancy checks

The remainder of a message under a reflected polynomial, bit by bit, on unbounded words, so that
one development serves registers of any width. What has not been shifted down to the low bit
stays as it is: that is why a table of 256 remainders is enough, and why a whole block may be
added to the remainder at once.
-/
namespace ReflectedCrc

open Bytes

/-- One bit of the division: the low bit says whether the polynomial is subtracted. -/
def step (poly t : Nat) : Nat := if t % 2 = 1 then t / 2 ^^^ poly else t / 2

/-- The remainder after one more byte, low bit first. -/
def byteStep (poly crc : Nat) (byte : UInt8) : Nat := (step poly)^[8] (crc ^^^ byte.toNat)

/-- The remainder after more of the message. -/
def update (poly crc : Nat) (message : List UInt8) : Nat := message.foldl (byteStep poly) crc

section

variable (poly : Nat)

/-- All but the low bit is only moved down. -/
theorem step_xor (a b : Nat) : step poly (a ^^^ 2 * b) = step poly a ^^^ b := by
  have low : (a ^^^ 2 * b) % 2 = a % 2 := by
    have split := @Nat.xor_mod_two_pow a (2 * b) 1
    rwa [pow_one, Nat.mul_mod_right, Nat.xor_zero] at split
  have high : (a ^^^ 2 * b) / 2 = a / 2 ^^^ b := by
    rw [Nat.xor_div_two, Nat.mul_div_cancel_left b (by decide)]
  -- both sides subtract the polynomial, or neither
  unfold step
  rw [low, high]
  split
  · rw [Nat.xor_assoc, Nat.xor_comm b poly, ← Nat.xor_assoc]
  · rfl

theorem step_iterate_xor (n a b : Nat) :
    (step poly)^[n] (a ^^^ 2 ^ n * b) = (step poly)^[n] a ^^^ b := by
  induction n generalizing a b with
  | zero => simp
  | succ n ih =>
    have twice : 2 ^ (n + 1) * b = 2 * (2 ^ n * b) := by rw [Nat.pow_succ', Nat.mul_assoc]
    rw [Function.iterate_succ_apply, Function.iterate_succ_apply, twice, step_xor, ih]

/-- The low `n` bits of a word, and the others above them. -/
theorem eq_mod_xor_div (n a : Nat) : a = a % 2 ^ n ^^^ 2 ^ n * (a / 2 ^ n) := by
  apply Nat.eq_of_testBit_eq
  intro i
  rw [Nat.testBit_xor, Nat.testBit_mod_two_pow, Nat.testBit_two_pow_mul, Nat.testBit_div_two_pow]
  by_cases low : i < n
  · simp [low, Nat.not_le.mpr low]
  · have above : n ≤ i := Nat.not_lt.mp low
    simp [low, above]

/-- The low `n` bits alone decide what is subtracted in `n` steps. -/
theorem step_iterate (n a : Nat) :
    (step poly)^[n] a = (step poly)^[n] (a % 2 ^ n) ^^^ a / 2 ^ n := by
  rw [← step_iterate_xor, ← eq_mod_xor_div]

/-- A remainder stays within the width of its polynomial. -/
theorem step_lt {w t : Nat} (narrow : poly < 2 ^ w) (bound : t < 2 ^ w) : step poly t < 2 ^ w := by
  have half : t / 2 < 2 ^ w := Nat.lt_of_le_of_lt (Nat.div_le_self t 2) bound
  unfold step
  split
  · exact Nat.xor_lt_two_pow half narrow
  · exact half

theorem step_iterate_lt {w t : Nat} (narrow : poly < 2 ^ w) (bound : t < 2 ^ w) (n : Nat) :
    (step poly)^[n] t < 2 ^ w := by
  induction n with
  | zero => exact bound
  | succ n ih =>
    rw [Function.iterate_succ_apply']
    exact step_lt poly narrow ih

theorem byteStep_lt {w crc : Nat} (narrow : poly < 2 ^ w) (wide : 8 ≤ w) (bound : crc < 2 ^ w)
    (byte : UInt8) : byteStep poly crc byte < 2 ^ w := by
  have small : byte.toNat < 2 ^ w :=
    Nat.lt_of_lt_of_le byte.toNat_lt (Nat.pow_le_pow_right (by decide) wide)
  exact step_iterate_lt poly narrow (Nat.xor_lt_two_pow bound small) 8

theorem update_lt {w crc : Nat} (narrow : poly < 2 ^ w) (wide : 8 ≤ w) (bound : crc < 2 ^ w)
    (message : List UInt8) : update poly crc message < 2 ^ w := by
  induction message generalizing crc with
  | nil => exact bound
  | cons byte message ih => exact ih (byteStep_lt poly narrow wide bound byte)

/-- A byte may be looked up: what the register holds above it is shifted down unchanged. -/
theorem byteStep_eq_lookup (crc : Nat) (byte : UInt8) :
    byteStep poly crc byte = crc / 2 ^ 8 ^^^ (step poly)^[8] ((crc ^^^ byte.toNat) % 2 ^ 8) := by
  have above : byte.toNat / 2 ^ 8 = 0 := Nat.div_eq_of_lt byte.toNat_lt
  rw [byteStep, step_iterate, Nat.xor_div_two_pow, above, Nat.xor_zero, Nat.xor_comm]

theorem update_append (crc : Nat) (message rest : List UInt8) :
    update poly crc (message ++ rest) = update poly (update poly crc message) rest :=
  List.foldl_append

/-- A block is added to the remainder as a whole, or byte by byte. -/
theorem update_block (crc : Nat) (block : List UInt8) :
    (step poly)^[8 * block.length] (crc ^^^ word block) = update poly crc block := by
  induction block generalizing crc with
  | nil => simp [word, update]
  | cons byte block ih =>
    have split : word (byte :: block) = byte.toNat ^^^ 2 ^ 8 * word block := by
      have low : (byte.toNat + 2 ^ 8 * word block) % 2 ^ 8 = byte.toNat := by
        rw [Nat.add_mul_mod_self_left, Nat.mod_eq_of_lt byte.toNat_lt]
      have high : (byte.toNat + 2 ^ 8 * word block) / 2 ^ 8 = word block := by
        rw [Nat.add_mul_div_left _ _ (by decide), Nat.div_eq_of_lt byte.toNat_lt, Nat.zero_add]
      have bits := eq_mod_xor_div 8 (byte.toNat + 2 ^ 8 * word block)
      rwa [low, high] at bits
    -- the first byte is shifted out, and the rest of the block has moved down to its place
    rw [List.length_cons, Nat.mul_succ, Function.iterate_add_apply, split, ← Nat.xor_assoc,
      step_iterate_xor, ih]
    rfl

section Injective

variable {poly} {w a b : Nat} (narrow : poly < 2 ^ (w + 1)) (top : poly.testBit w = true)
include narrow top

omit narrow in
/-- Whether the polynomial was subtracted shows in the highest bit, so no step loses anything. -/
theorem step_inj (bound : a < 2 ^ (w + 1)) (bound' : b < 2 ^ (w + 1))
    (same : step poly a = step poly b) : a = b := by
  have half (t : Nat) (small : t < 2 ^ (w + 1)) : (t / 2).testBit w = false := by
    rw [Nat.pow_succ] at small
    exact Nat.testBit_lt_two_pow (by omega)
  have flipped (s t : Nat) (small : s < 2 ^ (w + 1)) (small' : t < 2 ^ (w + 1)) :
      s / 2 ^^^ poly ≠ t / 2 := by
    intro equal
    have bit := congrArg (Nat.testBit · w) equal
    simp only [Nat.testBit_xor, half s small, half t small', top, Bool.false_xor] at bit
    cases bit
  unfold step at same
  split at same
  next odd =>
    split at same
    next odd' =>
      have halves := Nat.xor_left_injective same
      omega
    next even => exact absurd same (flipped a b bound bound')
  next even =>
    split at same
    next odd => exact absurd same.symm (flipped b a bound' bound)
    next even' => omega

theorem step_iterate_inj (n : Nat) (bound : a < 2 ^ (w + 1)) (bound' : b < 2 ^ (w + 1))
    (same : (step poly)^[n] a = (step poly)^[n] b) : a = b := by
  induction n with
  | zero => exact same
  | succ n ih =>
    rw [Function.iterate_succ_apply', Function.iterate_succ_apply'] at same
    exact ih (step_inj top (step_iterate_lt poly narrow bound n)
      (step_iterate_lt poly narrow bound' n) same)

/-- Different remainders stay different over the same bytes. -/
theorem update_inj (wide : 8 ≤ w + 1) (message : List UInt8) (bound : a < 2 ^ (w + 1))
    (bound' : b < 2 ^ (w + 1)) (same : update poly a message = update poly b message) : a = b := by
  induction message generalizing a b with
  | nil => exact same
  | cons byte message ih =>
    have small : byte.toNat < 2 ^ (w + 1) :=
      Nat.lt_of_lt_of_le byte.toNat_lt (Nat.pow_le_pow_right (by decide) wide)
    have next := ih (byteStep_lt poly narrow wide bound byte) (byteStep_lt poly narrow wide bound' byte)
      same
    have added := step_iterate_inj narrow top 8 (Nat.xor_lt_two_pow bound small)
      (Nat.xor_lt_two_pow bound' small) next
    exact Nat.xor_left_injective added

/-- A field no wider than the register shows in the remainder of the message around it. -/
theorem update_field_inj (wide : 8 ≤ w + 1) (bound : a < 2 ^ (w + 1))
    (before rest : List UInt8) {field field' : List UInt8} (length : field.length = field'.length)
    (fits : 8 * field.length ≤ w + 1)
    (same : update poly a (before ++ (field ++ rest)) = update poly a (before ++ (field' ++ rest))) :
    field = field' := by
  have start := update_lt poly narrow wide bound before
  have small (block : List UInt8) (short : 8 * block.length ≤ w + 1) :
      word block < 2 ^ (w + 1) := by
    have power : 256 ^ block.length = 2 ^ (8 * block.length) := by rw [Nat.pow_mul]
    have value := word_lt block
    rw [power] at value
    exact Nat.lt_of_lt_of_le value (Nat.pow_le_pow_right (by decide) short)
  have fits' : 8 * field'.length ≤ w + 1 := by rw [← length]; exact fits
  simp only [update_append] at same
  -- up to the end of the field, and there as a block
  have blocks := update_inj narrow top wide rest (update_lt poly narrow wide start field)
    (update_lt poly narrow wide start field') same
  rw [← update_block _ _ field, ← update_block _ _ field', length] at blocks
  have added := step_iterate_inj narrow top _ (Nat.xor_lt_two_pow start (small field fits))
    (Nat.xor_lt_two_pow start (small field' fits')) blocks
  have words := Nat.xor_right_injective added
  rw [← bytesOf_word field, ← bytesOf_word field', words, length]

end Injective

end

end ReflectedCrc
