import Mathlib.Algebra.BigOperators.Group.Finset.Basic
import Kpnet.Lib.ReflectedCrc

/-!
# What a cyclic redundancy check detects

The division is linear over exclusive or, so the remainders of two messages differ exactly by
what their difference leaves. A difference no wider than the register never leaves 0; and a
polynomial that keeps the parity of the bits never takes an odd number of them for none.
-/
namespace ReflectedCrc

open Bytes

section Linear

variable (poly : Nat)

theorem step_linear (a b : Nat) : step poly (a ^^^ b) = step poly a ^^^ step poly b := by
  have half : (a ^^^ b) / 2 = a / 2 ^^^ b / 2 := Nat.xor_div_two
  have low : (a ^^^ b) % 2 = (a + b) % 2 := Nat.xor_mod_two_eq
  unfold step
  rw [half, low]
  -- with two odd words the polynomial is subtracted twice
  rcases Nat.mod_two_eq_zero_or_one a with even | odd <;>
    rcases Nat.mod_two_eq_zero_or_one b with even' | odd'
  · rw [if_neg (by omega), if_neg (by omega), if_neg (by omega)]
  · rw [if_pos (by omega), if_neg (by omega), if_pos (by omega), Nat.xor_assoc]
  · rw [if_pos (by omega), if_pos (by omega), if_neg (by omega), Nat.xor_assoc, Nat.xor_assoc,
      Nat.xor_comm (b / 2)]
  · rw [if_neg (by omega), if_pos (by omega), if_pos (by omega), Nat.xor_assoc, Nat.xor_comm (b / 2),
      ← Nat.xor_assoc poly, Nat.xor_self, Nat.zero_xor]

theorem step_iterate_linear (n a b : Nat) :
    (step poly)^[n] (a ^^^ b) = (step poly)^[n] a ^^^ (step poly)^[n] b := by
  induction n generalizing a b with
  | zero => rfl
  | succ n ih =>
    rw [Function.iterate_succ_apply, Function.iterate_succ_apply, Function.iterate_succ_apply,
      step_linear, ih]

theorem step_iterate_zero (n : Nat) : (step poly)^[n] 0 = 0 := by
  induction n with
  | zero => rfl
  | succ n ih => rw [Function.iterate_succ_apply]; exact ih

/-- Two messages of one length have the same remainder exactly if their difference leaves none. -/
theorem update_eq_iff (crc : Nat) {l l' : List UInt8} (length : l.length = l'.length) :
    update poly crc l = update poly crc l' ↔
      (step poly)^[8 * l.length] (word l ^^^ word l') = 0 := by
  rw [← update_block, ← update_block, ← length, step_iterate_linear, step_iterate_linear,
    Nat.xor_right_inj, step_iterate_linear, Nat.xor_eq_zero_iff]

end Linear

/-- Bit `j` of byte `i` of a string. -/
theorem testBit_word (l : List UInt8) {i j : Nat} (low : j < 8) :
    (word l).testBit (8 * i + j) = (l.getD i 0).toNat.testBit j := by
  induction l generalizing i with
  | nil => simp [word]
  | cons byte l ih =>
    have split := Nat.testBit_two_pow_mul_add (i := 8) (word l) byte.toNat_lt (8 * i + j)
    rw [word, Nat.add_comm, split]
    cases i with
    | zero => rw [if_pos (by omega), Nat.mul_zero, Nat.zero_add, List.getD_cons_zero]
    | succ i =>
      rw [if_neg (by omega), List.getD_cons_succ, ← ih]
      congr 1
      omega

section Burst

variable {poly w : Nat} (narrow : poly < 2 ^ (w + 1)) (top : poly.testBit w = true)
include narrow top

/-- A difference within the width of the register, wherever it stands, is never divided away. -/
theorem step_iterate_burst_ne_zero {e : Nat} (bound : e < 2 ^ (w + 1)) (some : e ≠ 0) {k n : Nat}
    (inside : k ≤ n) : (step poly)^[n] (2 ^ k * e) ≠ 0 := by
  intro none
  -- it is moved down to the low end, and from there the steps are injective
  have down := step_iterate_xor poly k 0 e
  rw [Nat.zero_xor, step_iterate_zero, Nat.zero_xor] at down
  rw [← Nat.sub_add_cancel inside, Function.iterate_add_apply, down,
    ← step_iterate_zero poly (n - k)] at none
  exact some (step_iterate_inj narrow top _ bound (Nat.two_pow_pos _) none)

/-- Messages that differ within as many consecutive bits as the register has leave different
remainders. -/
theorem update_burst {crc k : Nat} {l l' : List UInt8} (length : l.length = l'.length)
    (burst : ∀ i, (word l).testBit i ≠ (word l').testBit i → k ≤ i ∧ i < k + (w + 1))
    (same : update poly crc l = update poly crc l') : l = l' := by
  have left := (update_eq_iff poly crc length).mp same
  have differ (i : Nat) : (word l ^^^ word l').testBit i = true → k ≤ i ∧ i < k + (w + 1) := by
    intro set
    apply burst i
    intro equal
    rw [Nat.testBit_xor, equal, Bool.xor_self] at set
    cases set
  have shifted : word l ^^^ word l' = 2 ^ k * ((word l ^^^ word l') / 2 ^ k) := by
    apply Nat.eq_of_testBit_eq
    intro i
    rw [Nat.testBit_two_pow_mul, Nat.testBit_div_two_pow]
    by_cases low : k ≤ i
    · simp [low]
    · have clear : (word l ^^^ word l').testBit i = false :=
        Bool.eq_false_iff.mpr fun set => low (differ i set).1
      rw [clear]
      simp [low]
  have bound : (word l ^^^ word l') / 2 ^ k < 2 ^ (w + 1) := by
    apply Nat.lt_pow_two_of_testBit
    intro i above
    rw [Nat.testBit_div_two_pow]
    apply Bool.eq_false_iff.mpr
    intro set
    have window := (differ (i + k) set).2
    omega
  by_contra other
  have words : word l ^^^ word l' ≠ 0 := by
    intro equal
    rw [Nat.xor_eq_zero_iff] at equal
    exact other (by rw [← bytesOf_word l, ← bytesOf_word l', equal, length])
  have some : (word l ^^^ word l') / 2 ^ k ≠ 0 := by
    intro none
    rw [none, Nat.mul_zero] at shifted
    exact words shifted
  -- a set bit lies within the message, so the window starts there
  have inside : k ≤ 8 * l.length := by
    by_contra behind
    have width (m : List UInt8) (same : m.length = l.length) : word m < 2 ^ (8 * l.length) := by
      rw [Nat.pow_mul, ← same]
      exact word_lt m
    have low := Nat.xor_lt_two_pow (width l rfl) (width l' length.symm)
    have cut : 2 ^ (8 * l.length) ≤ 2 ^ k := Nat.pow_le_pow_right (by decide) (by omega)
    exact some (Nat.div_eq_of_lt (Nat.lt_of_lt_of_le low cut))
  rw [shifted] at left
  exact step_iterate_burst_ne_zero narrow top bound some inside left

end Burst

section Parity

/-- How many of the low `n` bits are set. -/
def ones (n t : Nat) : Nat := ∑ i ∈ Finset.range n, (t.testBit i).toNat

/-- How many bits of a string are set. -/
def onesOf (l : List UInt8) : Nat := (l.map fun byte => ones 8 byte.toNat).sum

@[simp] theorem onesOf_cons (byte : UInt8) (l : List UInt8) :
    onesOf (byte :: l) = ones 8 byte.toNat + onesOf l := rfl

theorem onesOf_append (l l' : List UInt8) : onesOf (l ++ l') = onesOf l + onesOf l' := by
  rw [onesOf, List.map_append, List.sum_append, onesOf, onesOf]

theorem ones_xor (n a b : Nat) : ones n (a ^^^ b) % 2 = (ones n a + ones n b) % 2 := by
  induction n with
  | zero => rfl
  | succ n ih =>
    simp only [ones, Finset.sum_range_succ] at ih ⊢
    have bit : ((a ^^^ b).testBit n).toNat % 2 =
        ((a.testBit n).toNat + (b.testBit n).toNat) % 2 := by
      rw [Nat.testBit_xor]
      cases a.testBit n <;> cases b.testBit n <;> rfl
    omega

/-- The low bit, and the others one place down. -/
theorem ones_succ (n t : Nat) : ones (n + 1) t = t % 2 + ones n (t / 2) := by
  have low : (t.testBit 0).toNat = t % 2 := by
    rw [Nat.testBit_zero]
    rcases Nat.mod_two_eq_zero_or_one t with even | odd
    · simp [even]
    · simp [odd]
  rw [ones, Finset.sum_range_succ', low, Nat.add_comm]
  simp only [Nat.testBit_succ]
  rfl

/-- Above the width of a number there are none. -/
theorem ones_of_lt {n t : Nat} (bound : t < 2 ^ n) (m : Nat) : ones (n + m) t = ones n t := by
  induction m with
  | zero => rfl
  | succ m ih =>
    have clear : t.testBit (n + m) = false :=
      Nat.testBit_lt_two_pow (Nat.lt_of_lt_of_le bound (Nat.pow_le_pow_right (by decide) (by omega)))
    rw [← Nat.add_assoc, ones, Finset.sum_range_succ, clear, ← ones, ih]
    rfl

theorem ones_add (m n t : Nat) : ones (m + n) t = ones m t + ones n (t / 2 ^ m) := by
  rw [ones, Finset.sum_range_add]
  simp only [ones, Nat.testBit_div_two_pow, Nat.add_comm]

theorem ones_mod (n t : Nat) : ones n (t % 2 ^ n) = ones n t := by
  apply Finset.sum_congr rfl
  intro i member
  rw [Nat.testBit_mod_two_pow, decide_eq_true (Finset.mem_range.mp member), Bool.true_and]

/-- The bits of a string are those of its value. -/
theorem ones_word (l : List UInt8) : ones (8 * l.length) (word l) = onesOf l := by
  induction l with
  | nil => rfl
  | cons byte l ih =>
    have small : byte.toNat < 2 ^ 8 := byte.toNat_lt
    have cut : word (byte :: l) % 2 ^ 8 = byte.toNat := by
      rw [word]
      omega
    have low : ones 8 (word (byte :: l)) = ones 8 byte.toNat := by rw [← ones_mod, cut]
    have high : word (byte :: l) / 2 ^ 8 = word l := by
      rw [word]
      omega
    rw [List.length_cons, Nat.mul_add, Nat.mul_one, Nat.add_comm, ones_add, low, high, ih, onesOf_cons]

variable {poly w : Nat} (narrow : poly < 2 ^ (w + 1)) (odd : ones (w + 1) poly % 2 = 1)
include narrow odd

omit narrow in
/-- The bit that is shifted out of an odd word, and the polynomial with an odd number of bits: the
parity stays. -/
theorem ones_step {t : Nat} (bound : t < 2 ^ (w + 1)) :
    ones (w + 1) (step poly t) % 2 = ones (w + 1) t % 2 := by
  have half : t / 2 < 2 ^ w := by
    rw [Nat.pow_succ] at bound
    omega
  have down : ones (w + 1) t = t % 2 + ones (w + 1) (t / 2) := by
    rw [ones_succ, ← ones_of_lt half 1]
  have added := ones_xor (w + 1) (t / 2) poly
  unfold step
  split <;> omega

theorem ones_step_iterate {t : Nat} (bound : t < 2 ^ (w + 1)) (n : Nat) :
    ones (w + 1) ((step poly)^[n] t) % 2 = ones (w + 1) t % 2 := by
  induction n with
  | zero => rfl
  | succ n ih =>
    rw [Function.iterate_succ_apply', ones_step odd (step_iterate_lt poly narrow bound n), ih]

/-- The parity of the remainder is that of the register and the message together. -/
theorem ones_update (wide : 8 ≤ w + 1) {crc : Nat} (bound : crc < 2 ^ (w + 1)) (l : List UInt8) :
    ones (w + 1) (update poly crc l) % 2 = (ones (w + 1) crc + onesOf l) % 2 := by
  induction l generalizing crc with
  | nil => rfl
  | cons byte l ih =>
    have small : byte.toNat < 2 ^ (w + 1) :=
      Nat.lt_of_lt_of_le byte.toNat_lt (Nat.pow_le_pow_right (by decide) wide)
    have narrowed : ones (w + 1) byte.toNat = ones 8 byte.toNat := by
      have width := ones_of_lt (n := 8) byte.toNat_lt (w + 1 - 8)
      rwa [Nat.add_sub_cancel' wide] at width
    have first := ones_step_iterate narrow odd (Nat.xor_lt_two_pow bound small) 8
    have added := ones_xor (w + 1) crc byte.toNat
    have rest := ih (byteStep_lt poly narrow wide bound byte)
    rw [byteStep] at rest
    rw [update, List.foldl_cons, ← update, byteStep, rest, onesOf_cons]
    omega

end Parity

end ReflectedCrc
