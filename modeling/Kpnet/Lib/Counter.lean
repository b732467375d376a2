import Mathlib.Tactic

/-!
# Free-running counters

Lock-free rings index their slots by 64-bit counters that are never reset and wrap
modulo 2^64. The unbounded position behind such a counter is a `Nat`; the machine word
is its image under `UInt64.ofNat`. Two positions that are close together are separated
by their images, and a power-of-two mask of the image is the position modulo the size.
-/
namespace Counter

/-- Close positions with the same machine word are equal. -/
theorem eq_of_ofNat {p q : Nat} (same : UInt64.ofNat p = UInt64.ofNat q)
    (below : p < q + 2 ^ 64) (above : q < p + 2 ^ 64) : p = q := by
  have words := (UInt64.ofNat_eq_iff_mod_eq_toNat p (UInt64.ofNat q)).mp same
  rw [UInt64.toNat_ofNat'] at words
  omega

/-- Positions less than one lap apart are separated by their slot. -/
theorem eq_of_mod {n p q : Nat} (same : p % n = q % n) (below : p < q + n)
    (above : q < p + n) : p = q := by
  rcases Nat.le_total p q with le | le
  · have gap := Nat.eq_zero_of_dvd_of_lt ((Nat.modEq_iff_dvd' le).mp same) (by omega)
    omega
  · have gap := Nat.eq_zero_of_dvd_of_lt ((Nat.modEq_iff_dvd' le).mp same.symm) (by omega)
    omega

/-- Masking a counter by a power of two minus one gives the slot of its position. -/
theorem toNat_and_mask (p k : Nat) (bounded : k ≤ 64) :
    (UInt64.ofNat p &&& UInt64.ofNat (2 ^ k - 1)).toNat = p % 2 ^ k := by
  have small : 2 ^ k ≤ 2 ^ 64 := Nat.pow_le_pow_right (by decide) bounded
  have positive : 0 < 2 ^ k := Nat.two_pow_pos k
  rw [UInt64.toNat_and, UInt64.toNat_ofNat', UInt64.toNat_ofNat',
    Nat.mod_eq_of_lt (show 2 ^ k - 1 < 2 ^ 64 by omega), Nat.and_two_pow_sub_one_eq_mod]
  exact Nat.mod_mod_of_dvd p (Nat.pow_dvd_pow 2 bounded)

/-- Subtraction of counters recovers the distance of their positions. -/
theorem ofNat_sub_ofNat {p q : Nat} (le : q ≤ p) :
    UInt64.ofNat p - UInt64.ofNat q = UInt64.ofNat (p - q) := by
  obtain ⟨gap, rfl⟩ := Nat.exists_eq_add_of_le le
  rw [Nat.add_sub_cancel_left, UInt64.ofNat_add, UInt64.add_comm, UInt64.add_sub_cancel]

theorem toNat_ofNat_of_lt {p : Nat} (small : p < 2 ^ 64) : (UInt64.ofNat p).toNat = p := by
  rw [UInt64.toNat_ofNat', Nat.mod_eq_of_lt small]

/-- A wrapped difference read back as a signed word is zero exactly for equal counters. -/
theorem toInt64_sub_eq_zero (x y : UInt64) : (x - y).toInt64 = 0 ↔ x = y := by
  constructor
  · intro zero
    have difference : x - y = 0 := congrArg Int64.toUInt64 zero
    rw [UInt64.sub_eq_iff_eq_add.mp difference, UInt64.zero_add]
  · rintro rfl
    rw [UInt64.sub_self]
    rfl

/-- A wrapped difference read back as a signed word is negative in its upper half. -/
theorem toInt64_neg (x : UInt64) : x.toInt64 < 0 ↔ 2 ^ 63 ≤ x.toNat := by
  have signed : x.toInt64.toInt = (x.toNat : Int).bmod (2 ^ 64) := BitVec.toInt_eq_toNat_bmod _
  have bound := x.toNat_lt
  rw [Int64.lt_iff_toInt_lt, signed, Int.bmod_def, Int64.toInt_zero]
  split <;> omega

end Counter
