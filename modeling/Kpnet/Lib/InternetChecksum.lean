import Kpnet.Lib.Bytes
import Kpnet.Lib.OnesComplement

/-!
# The Internet checksum

The words of a byte string are added in ones' complement, an odd byte at the end filled up with 0;
the checksum is what the sum lacks of the highest word. In which order the two bytes of a word are
read does not matter, as long as the sum is stored in the same order: it only has its own two bytes
exchanged.
-/
namespace InternetChecksum

open Bytes OnesComplement

/-- The words of a string, high byte first. -/
def netWords : List UInt8 → List Nat
  | [] => []
  | [a] => [256 * a.toNat]
  | a :: b :: rest => (256 * a.toNat + b.toNat) :: netWords rest

/-- The words of a string, low byte first. -/
def hostWords : List UInt8 → List Nat
  | [] => []
  | [a] => [a.toNat]
  | a :: b :: rest => (a.toNat + 256 * b.toNat) :: hostWords rest

/-- The sum of the words as they are sent, with every carry brought back at once. -/
def onesSum (l : List UInt8) : Nat := (netWords l).foldl (add 65536) 0

def checksum (l : List UInt8) : Nat := 65535 - onesSum l

/-- The two bytes of a word exchanged. -/
def swap (n : Nat) : Nat := n % 256 * 256 + n / 256

theorem swap_lt {n : Nat} (word : n < 65536) : swap n < 65536 := by
  rw [swap]
  omega

theorem swap_swap {n : Nat} (word : n < 65536) : swap (swap n) = n := by
  rw [swap, swap]
  omega

theorem netWords_lt (l : List UInt8) : ∀ w ∈ netWords l, w < 65536 := by
  induction l using netWords.induct with
  | case1 => simp [netWords]
  | case2 a =>
    have small := a.toNat_lt
    rw [netWords, List.forall_mem_singleton]
    omega
  | case3 a b rest ih =>
    have small := a.toNat_lt
    have small' := b.toNat_lt
    rw [netWords, List.forall_mem_cons]
    exact ⟨by omega, ih⟩

theorem netWords_append {l : List UInt8} (whole : l.length % 2 = 0) (l' : List UInt8) :
    netWords (l ++ l') = netWords l ++ netWords l' := by
  induction l using netWords.induct with
  | case1 => rfl
  | case2 a => cases whole
  | case3 a b rest ih =>
    rw [List.length_cons, List.length_cons] at whole
    rw [List.cons_append, List.cons_append, netWords, netWords, ih (by omega), List.cons_append]

theorem onesSum_eq (l : List UInt8) : onesSum l = fold 65536 (netWords l).sum := by
  have sum := foldl_add (show 2 ≤ 65536 by omega) (netWords l) 0 (by omega) (netWords_lt l)
  rwa [Nat.zero_add] at sum

theorem hostWords_append {l : List UInt8} (whole : l.length % 2 = 0) (l' : List UInt8) :
    hostWords (l ++ l') = hostWords l ++ hostWords l' := by
  induction l using hostWords.induct with
  | case1 => rfl
  | case2 a => cases whole
  | case3 a b rest ih =>
    rw [List.length_cons, List.length_cons] at whole
    rw [List.cons_append, List.cons_append, hostWords, hostWords, ih (by omega), List.cons_append]

/-- A byte in the high place counts for 256 in the low one. -/
theorem exists_hostWords_sum (l : List UInt8) :
    ∃ q, 256 * (hostWords l).sum = (netWords l).sum + q * (65536 - 1) := by
  induction l using hostWords.induct with
  | case1 => exact ⟨0, rfl⟩
  | case2 a => exact ⟨0, by simp [hostWords, netWords]⟩
  | case3 a b rest ih =>
    obtain ⟨q, sum⟩ := ih
    refine ⟨b.toNat + q, ?_⟩
    rw [hostWords, netWords, List.sum_cons, List.sum_cons]
    omega

theorem hostWords_sum_le (l : List UInt8) : (hostWords l).sum ≤ 256 * (netWords l).sum := by
  induction l using hostWords.induct with
  | case1 => exact Nat.le_refl 0
  | case2 a =>
    simp only [hostWords, netWords, List.sum_cons, List.sum_nil]
    omega
  | case3 a b rest ih =>
    rw [hostWords, netWords, List.sum_cons, List.sum_cons]
    omega

/-- A sum moved up by a byte has its bytes exchanged, for what leaves the word comes back below. -/
theorem fold_mul_256 (n : Nat) : fold 65536 (256 * n) = swap (fold 65536 n) := by
  have word (m : Nat) (small : m < 65536) : fold 65536 (256 * m) = swap m := by
    have halves : 256 * m % 65536 + 256 * m / 65536 = swap m := by
      rw [swap]
      omega
    rw [← fold_carry (by omega), halves, fold_of_lt (swap_lt small)]
  rcases Nat.eq_zero_or_pos n with rfl | positive
  · exact word 0 (by omega)
  · obtain ⟨q, parts⟩ := exists_eq_fold_add (b := 65536) positive
    have first := fold_pos (b := 65536) positive
    have moved : 256 * n = 256 * fold 65536 n + 256 * q * (65536 - 1) := by omega
    rw [moved, fold_add_mul (by omega), word _ (fold_lt (by omega) n)]

/-- The order of the bytes does not matter. -/
theorem fold_netWords (l : List UInt8) :
    fold 65536 (netWords l).sum = swap (fold 65536 (hostWords l).sum) := by
  obtain ⟨q, sum⟩ := exists_hostWords_sum l
  rw [← fold_mul_256, sum]
  rcases Nat.eq_zero_or_pos (netWords l).sum with zero | positive
  · -- then the other sum is 0 as well
    have le := hostWords_sum_le l
    have none : q * (65536 - 1) = 0 := by omega
    rw [zero, none]
  · exact (fold_add_mul positive q).symm

theorem onesSum_eq_swap (l : List UInt8) : onesSum l = swap (fold 65536 (hostWords l).sum) := by
  rw [onesSum_eq, fold_netWords]

/-- A string verifies if its sum is the highest word, in either order. -/
theorem onesSum_eq_top_iff (l : List UInt8) :
    onesSum l = 65535 ↔ fold 65536 (hostWords l).sum = 65535 := by
  have word := fold_lt (show 2 ≤ 65536 by omega) (hostWords l).sum
  rw [onesSum_eq_swap, swap]
  omega

/-- The sum is the highest word if the words make 0, but for the sign. -/
theorem onesSum_eq_top_iff_mod (l : List UInt8) :
    onesSum l = 65535 ↔ 0 < (netWords l).sum ∧ (netWords l).sum % 65535 = 0 := by
  rw [onesSum_eq]
  exact fold_eq_top (by omega) _

theorem hostWords_le16 (v : UInt16) : hostWords (le16 v) = [v.toNat] := by
  have value := word_bytesOf 2 v.toNat
  rw [Nat.mod_eq_of_lt (show v.toNat < 256 ^ 2 from v.toNat_lt)] at value
  rw [← value]
  simp [le16, bytesOf, hostWords, word]

theorem netWords_le16 (v : UInt16) : netWords (le16 v) = [swap v.toNat] := by
  have bound := v.toNat_lt
  have low : (UInt8.ofNat v.toNat).toNat = v.toNat % 256 := UInt8.toNat_ofNat'
  have high : (UInt8.ofNat (v.toNat / 256)).toNat = v.toNat / 256 % 256 := UInt8.toNat_ofNat'
  simp only [le16, bytesOf, netWords, low, high, swap, List.cons.injEq, and_true]
  omega

/-- A field among the words adds its own value. -/
theorem hostWords_field_sum {before : List UInt8} (whole : before.length % 2 = 0) (field : UInt16)
    (rest : List UInt8) :
    (hostWords (before ++ (le16 field ++ rest))).sum =
      field.toNat + (hostWords (before ++ (le16 0 ++ rest))).sum := by
  rw [hostWords_append whole, hostWords_append whole, hostWords_append (by simp),
    hostWords_append (by simp), hostWords_le16, hostWords_le16]
  simp only [List.sum_append, List.sum_singleton, UInt16.toNat_zero]
  omega

/-- A field that holds what the sum of the others lacks makes the whole verify; so does the highest
word in place of 0, which is never stored. -/
theorem field_eq_checksum_iff {before : List UInt8} (whole : before.length % 2 = 0) (field : UInt16)
    (rest : List UInt8) (positive : 0 < (hostWords (before ++ (le16 0 ++ rest))).sum) :
    field.toNat = 65535 - fold 65536 (hostWords (before ++ (le16 0 ++ rest))).sum ↔
      onesSum (before ++ (le16 field ++ rest)) = 65535 ∧ field ≠ 0xFFFF := by
  have small := field.toNat_lt
  have word := fold_lt (show 2 ≤ 65536 by omega) (hostWords (before ++ (le16 0 ++ rest))).sum
  have highest : field ≠ 0xFFFF ↔ field.toNat < 65535 := by
    rw [Ne, ← UInt16.toNat_inj, show (0xFFFF : UInt16).toNat = 65535 from rfl]
    omega
  have verifies : onesSum (before ++ (le16 field ++ rest)) = 65535 ↔
      (field.toNat + (hostWords (before ++ (le16 0 ++ rest))).sum) % 65535 = 0 := by
    have top := fold_eq_top (b := 65536) (by omega) (hostWords (before ++ (le16 field ++ rest))).sum
    rw [onesSum_eq_top_iff, show 65535 = 65536 - 1 from rfl, top, hostWords_field_sum whole]
    omega
  have digit := add_fold_eq_top_iff (b := 65536) (by omega) field.toNat positive
  rw [verifies, highest, ← digit]
  omega

end InternetChecksum
