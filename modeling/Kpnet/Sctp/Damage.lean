import Kpnet.Lib.ErrorDetection
import Kpnet.Sctp.Acceptance

/-!
# Damaged frames

What `sctp_check_checksums` refuses of a frame that it would have accepted before some of its
bits were flipped on the way: every burst no wider than the CRC outside of its field, every
odd number of bits, and every word of the IP header.
-/
namespace Kpnet.Sctp

open Bytes OnesComplement ReflectedCrc

/-- Bit `i` from a pointer on, low bit first. -/
def bit (b : Bytes) (i : Nat) : Bool := (b (i / 8)).toNat.testBit (i % 8)

/-- How many bits differ in the `n` bytes at `o`. -/
def flips (b b' : Bytes) (o n : Nat) : Nat :=
  ((List.range n).map fun i => ones 8 ((b (o + i)).toNat ^^^ (b' (o + i)).toNat)).sum

section

variable {packet packet' : Bytes} {plen plen' : UInt64}

/-- The bytes the CRC is taken of: the ports and tags, its own field, and the chunk. -/
theorem slice_covered (b : Bytes) (n : Nat) :
    slice b 34 (12 + n) = slice b 34 8 ++ (slice b 42 4 ++ slice b 46 n) := by
  have parts := slice_add b 34 12 n
  have front := slice_add b 34 8 4
  rw [parts, front, List.append_assoc]

/-- With its field cleared. -/
theorem slice_cleared (packet : Bytes) (n : Nat) :
    slice (put packet 42 (le32 0)) 34 (12 + n) = slice packet 34 8 ++ (le32 0 ++ slice packet 46 n) := by
  have field := slice_put_self packet 42 (le32 0)
  rw [length_le32] at field
  rw [slice_covered, field, slice_put_of_disjoint _ 42 34 8 _ (by simp),
    slice_put_of_disjoint _ 42 46 n _ (by simp)]

theorem getD_slice (b : Bytes) (o n : Nat) {i : Nat} (inside : i < n) :
    (slice b o n).getD i 0 = b (o + i) := by
  rw [List.getD_eq_getElem _ _ (by rw [length_slice]; exact inside)]
  simp [slice]

/-- Bits of the covered bytes that differ belong to bits of the frames that differ. -/
theorem bit_ne_of_testBit_ne {n i : Nat}
    (differ : (word (slice (put packet 42 (le32 0)) 34 (12 + n))).testBit i ≠
      (word (slice (put packet' 42 (le32 0)) 34 (12 + n))).testBit i) :
    i < 8 * (12 + n) ∧ bit packet (8 * 34 + i) ≠ bit packet' (8 * 34 + i) := by
  have low : i % 8 < 8 := Nat.mod_lt _ (by decide)
  rw [← Nat.div_add_mod i 8, testBit_word _ low, testBit_word _ low] at differ
  by_cases inside : i / 8 < 12 + n
  · rw [getD_slice _ _ _ inside, getD_slice _ _ _ inside] at differ
    refine ⟨by omega, ?_⟩
    have byte : (8 * 34 + i) / 8 = 34 + i / 8 := by omega
    have place : (8 * 34 + i) % 8 = i % 8 := by omega
    rw [bit, bit, byte, place]
    -- a byte of the field would be 0 in both
    by_cases field : 42 ≤ 34 + i / 8 ∧ 34 + i / 8 < 46
    · obtain ⟨j, equal⟩ : ∃ j, 34 + i / 8 = 42 + j := ⟨34 + i / 8 - 42, by omega⟩
      have short : j < (le32 0).length := by rw [length_le32]; omega
      rw [equal, put_inside _ _ _ _ short, put_inside _ _ _ _ short] at differ
      exact absurd rfl differ
    · have outside (b : Bytes) : put b 42 (le32 0) (34 + i / 8) = b (34 + i / 8) := by
        by_cases before : 34 + i / 8 < 42
        · exact put_before _ _ _ _ before
        · exact put_after _ _ _ _ (by rw [length_le32]; omega)
      rwa [outside, outside] at differ
  · have none (b : Bytes) : (slice b 34 (12 + n)).getD (i / 8) 0 = 0 :=
      List.getD_eq_default _ _ (by rw [length_slice]; omega)
    rw [none, none] at differ
    exact absurd rfl differ

theorem refused_of_not_sound (unsound : ¬ Sound packet plen) :
    (sctpCheckChecksums packet plen).1 = -1 :=
  (sctpCheckChecksums_sound packet plen).2 unsound

/-- A burst within the covered bytes, but outside of the CRC and of the length of the chunk. -/
theorem burst_refused (accepted : (sctpCheckChecksums packet plen).1 = 0) (k : Nat)
    (crc : u32 packet' 42 = u32 packet 42) (length : u16 packet' 48 = u16 packet 48)
    (burst : ∀ i, 8 * 34 ≤ i → i < 8 * (46 + chunkLen packet) → bit packet i ≠ bit packet' i →
      k ≤ i ∧ i < k + 32)
    (damaged : slice packet' 34 (12 + chunkLen packet) ≠ slice packet 34 (12 + chunkLen packet)) :
    (sctpCheckChecksums packet' plen').1 = -1 := by
  apply refused_of_not_sound
  intro sound
  have intact := ((sctpCheckChecksums_eq_zero_iff packet plen).mp accepted).crc
  have intact' := sound.crc
  have len : chunkLen packet' = chunkLen packet := by rw [chunkLen, length, chunkLen]
  rw [crcIntact_iff, firstCrc] at intact intact'
  rw [crc, intact, len] at intact'
  -- both registers end up the same, so the covered bytes are
  have registers := congrArg UInt32.toNat (UInt32.not_inj.mp intact')
  rw [toNat_foldl_crcByte, toNat_foldl_crcByte] at registers
  have equal := update_burst (w := 31) (k := k - 8 * 34) castagnoli_lt (by decide) (by simp) (by
    intro i differ
    obtain ⟨inside, bits⟩ := bit_ne_of_testBit_ne differ
    have window := burst (8 * 34 + i) (by omega) (by omega) bits
    omega) registers
  rw [slice_cleared, slice_cleared] at equal
  obtain ⟨front, behind⟩ := List.append_inj equal (by simp)
  have chunk := List.append_cancel_left behind
  have field : slice packet' 42 4 = slice packet 42 4 := by rw [← le32_u32, ← le32_u32, crc]
  exact damaged (by rw [slice_covered, slice_covered, front, chunk, field])

theorem accepted_acknowledgedAlone : (sctpCheckChecksums acknowledgedAlone 50).1 = 0 := by
  decide +kernel

/-- The first byte of the verification tag is lost. -/
theorem burst_refused_tag : (sctpCheckChecksums (put acknowledgedAlone 38 [0xFF]) 50).1 = -1 := by
  apply burst_refused accepted_acknowledgedAlone (8 * 38)
  · exact u32_put_of_disjoint _ _ _ _ (by simp)
  · exact u16_put_of_disjoint _ _ _ _ (by simp)
  · intro i _ _ differ
    by_contra outside
    have byte : put acknowledgedAlone 38 [0xFF] (i / 8) = acknowledgedAlone (i / 8) := by
      by_cases before : i / 8 < 38
      · exact put_before _ _ _ _ before
      · exact put_after _ _ _ _ (by rw [List.length_singleton]; omega)
    exact differ (by rw [bit, bit, byte])
  · decide +kernel

/-- The polynomial has an odd number of bits, and what the register starts and ends with an even
number: the CRC has the parity of the message. -/
theorem ones_crc32c (message : List UInt8) :
    ones 32 (crc32c message).toNat % 2 = onesOf message % 2 := by
  have start : ones 32 (0xFFFFFFFF : UInt32).toNat = 32 := by decide
  have turned : ones 32 (-1 : UInt32).toNat = 32 := by decide
  have register : ones 32 (update castagnoli (0xFFFFFFFF : UInt32).toNat message) % 2 =
      (ones 32 (0xFFFFFFFF : UInt32).toNat + onesOf message) % 2 :=
    ones_update (w := 31) castagnoli_lt (by decide) (by decide) (UInt32.toNat_lt _) message
  have complement := ones_xor 32 (update castagnoli (0xFFFFFFFF : UInt32).toNat message)
    (-1 : UInt32).toNat
  rw [crc32c, ← UInt32.xor_neg_one, UInt32.toNat_xor, toNat_foldl_crcByte]
  omega

/-- Of an accepted frame, the covered bytes with the CRC have an even number of bits set. -/
theorem even_of_crcIntact (intact : CrcIntact packet) :
    onesOf (slice packet 34 (12 + chunkLen packet)) % 2 = 0 := by
  have stored : ones 32 (u32 packet 42).toNat = onesOf (slice packet 42 4) := by
    have bound := word_lt (slice packet 42 4)
    rw [length_slice] at bound
    rw [u32, UInt32.toNat_ofNat_of_lt' bound, ← ones_word, length_slice]
  have parity := ones_crc32c (slice (put packet 42 (le32 0)) 34 (12 + chunkLen packet))
  have field : onesOf (le32 0) = 0 := by decide
  rw [crcIntact_iff, firstCrc, crcOf] at intact
  rw [← intact, stored, slice_cleared, onesOf_append, onesOf_append] at parity
  rw [slice_covered, onesOf_append, onesOf_append]
  omega

/-- Flipped bits change the parity each. -/
theorem flips_mod_two (b b' : Bytes) (o n : Nat) :
    flips b b' o n % 2 = (onesOf (slice b o n) + onesOf (slice b' o n)) % 2 := by
  rw [flips, slice, slice]
  induction List.range n with
  | nil => rfl
  | cons i l ih =>
    have byte := ones_xor 8 (b (o + i)).toNat (b' (o + i)).toNat
    simp only [List.map_cons, List.sum_cons, onesOf_cons]
    omega

/-- An odd number of flipped bits anywhere in the covered bytes, its own field among them, but not
in the length of the chunk. -/
theorem odd_flips_refused (accepted : (sctpCheckChecksums packet plen).1 = 0)
    (length : u16 packet' 48 = u16 packet 48)
    (odd : flips packet packet' 34 (12 + chunkLen packet) % 2 = 1) :
    (sctpCheckChecksums packet' plen').1 = -1 := by
  apply refused_of_not_sound
  intro sound
  have even := even_of_crcIntact ((sctpCheckChecksums_eq_zero_iff packet plen).mp accepted).crc
  have even' := even_of_crcIntact sound.crc
  have len : chunkLen packet' = chunkLen packet := by rw [chunkLen, length, chunkLen]
  rw [len] at even'
  rw [flips_mod_two] at odd
  omega

/-- Three bits, one of them in the CRC. -/
theorem odd_flips_refused_three :
    (sctpCheckChecksums (put (put acknowledgedAlone 38 [3]) 42 [220]) 50).1 = -1 :=
  odd_flips_refused accepted_acknowledgedAlone (by decide +kernel) (by decide +kernel)

theorem mod_fold_eq (n : Nat) : n % 65535 = fold 65536 n % 65535 := by
  rcases Nat.eq_zero_or_pos n with rfl | positive
  · rfl
  · exact (fold_mod (b := 65536) positive).symm

/-- A word of the IP header that was changed, unless 0 was turned to 0xFFFF or back; as for the
checksum itself, not even then. -/
theorem ipWord_refused (accepted : (sctpCheckChecksums packet plen).1 = 0) {k : Nat}
    (inside : k < 10) (v : UInt16) (changed : v ≠ u16 packet (14 + 2 * k))
    (proper : k = 5 ∨ v.toNat % 65535 ≠ (u16 packet (14 + 2 * k)).toNat % 65535) :
    (sctpCheckChecksums (put packet (14 + 2 * k) (le16 v)) plen').1 = -1 := by
  apply refused_of_not_sound
  intro sound
  have intact := ((sctpCheckChecksums_eq_zero_iff packet plen).mp accepted).ip
  have intact' := sound.ip
  rw [ipIntact_iff_fold] at intact intact'
  by_cases check : k = 5
  · subst check
    rw [ipSum_put_check, u16_put_self] at intact'
    apply changed
    apply UInt16.toNat_inj.mp
    show v.toNat = (u16 packet 24).toNat
    omega
  · have sum := ipSum_put_word packet v inside check
    rw [u16_put_of_disjoint _ _ _ _ (by rw [length_le16]; omega)] at intact'
    have same : fold 65536 (ipSum (put packet (14 + 2 * k) (le16 v))) = fold 65536 (ipSum packet) := by
      omega
    have rest : ipSum (put packet (14 + 2 * k) (le16 v)) % 65535 = ipSum packet % 65535 := by
      rw [mod_fold_eq, same, ← mod_fold_eq]
    omega

/-- The packet lives a hop shorter. -/
theorem ipWord_refused_ttl :
    (sctpCheckChecksums (put acknowledgedAlone (14 + 2 * 4) (le16 0x843F)) 50).1 = -1 :=
  ipWord_refused accepted_acknowledgedAlone (by decide) 0x843F (by decide) (Or.inr (by decide))

end

end Kpnet.Sctp
