import Kpnet.Sctp.IpUpdates
import Kpnet.Tcp.FixCheck

/-!
# Partial checksums

A connection may keep the sum of its IP header without the length, and `fix_check_ip_tcp.c` then adds
the length at the end where it otherwise sums up the whole header. That comes to the same for every
length if and only if the sum that is kept was folded as `ip_checksum` does it.
-/
namespace Kpnet.Tcp

open Bytes OnesComplement
open Sctp (ipChecksum foldCheck ipSum)

/-- The IP header of a frame is given its length. -/
def setLen (packet : Bytes) (len : UInt16) : Bytes := put packet 16 (le16 len)

/-- What `ip_checksum` makes of the header with neither length nor checksum. -/
def partialCheck (packet : Bytes) : UInt32 :=
  ipChecksum (shift (put (setLen packet 0) 24 (le16 0)) 14) 20

/-- The checksum that `fix_check_ip_tcp` stores in the IP header, from the partial one if there is any. -/
def storedCheck (sync : Option FrameSyncIpTcp) (packet : Bytes) : UInt16 :=
  match sync with
  | some sync => ~~~(foldCheck (sync.ipCheckPart + (u16 packet 16).toUInt32)).toUInt16
  | none => ~~~(ipChecksum (shift (put packet 24 (le16 0)) 14) 20).toUInt16

section Folds

/-- One more word and one carry, with 32 bits for the sum and 16 for what is left. -/
def addOnce (part len : Nat) : Nat :=
  ((part + len) % 2 ^ 32 % 65536 + (part + len) % 2 ^ 32 / 65536) % 65536

variable {l h len : Nat}

theorem addOnce_of_fits (fits : l + len < 65536) (high : h < 65536) :
    addOnce (l + 65536 * h) len = (l + len + h) % 65536 := by
  have whole : (l + 65536 * h + len) % 2 ^ 32 = l + len + 65536 * h := by omega
  have low : (l + len + 65536 * h) % 65536 = l + len := by omega
  have rest : (l + len + 65536 * h) / 65536 = h := by omega
  rw [addOnce, whole, low, rest]

/-- The carry into the high word is lost with the high word, if that was full. -/
theorem addOnce_of_carries (carries : 65536 ≤ l + len) (two : l + len < 2 * 65536) :
    addOnce (l + 65536 * h) len = (l + len - 65536 + (h + 1) % 65536) % 65536 := by
  have whole : (l + 65536 * h + len) % 2 ^ 32 = l + len - 65536 + 65536 * ((h + 1) % 65536) := by
    omega
  rw [addOnce, whole]
  generalize (h + 1) % 65536 = h'
  have low : (l + len - 65536 + 65536 * h') % 65536 = l + len - 65536 := by omega
  have rest : (l + len - 65536 + 65536 * h') / 65536 = h' := by omega
  rw [low, rest]

/-- A word that was folded before takes one word more. -/
theorem addOnce_fold (sum : Nat) (word : len < 65536) :
    addOnce (fold 65536 sum) len = fold 65536 (sum + len) := by
  have first := fold_lt (show 2 ≤ 65536 by omega) sum
  rw [← fold_add (by omega) sum]
  generalize fold 65536 sum = digit at first ⊢
  by_cases fits : digit + len < 65536
  · have none := addOnce_of_fits (h := 0) fits (by omega)
    rw [Nat.mul_zero, Nat.add_zero, Nat.add_zero] at none
    rw [none, Nat.mod_eq_of_lt fits, fold_of_lt fits]
  · have once := addOnce_of_carries (h := 0) (Nat.le_of_not_lt fits) (by omega)
    have carried := add_eq_fold (show 2 ≤ 65536 by omega) first word
    rw [Nat.mul_zero, Nat.add_zero] at once
    rw [once, ← carried, add, if_neg fits]
    omega

/-- Nothing else does so for every word. -/
theorem eq_fold_of_addOnce {part sum : Nat} (low : part < 2 ^ 32)
    (right : ∀ len < 65536, addOnce part len = fold 65536 (sum + len)) :
    part = fold 65536 sum := by
  have first := fold_lt (show 2 ≤ 65536 by omega) sum
  have sums (len : Nat) (word : len < 65536) :
      addOnce part len = fold 65536 (fold 65536 sum + len) := by
    rw [right len word, fold_add (by omega)]
  generalize fold 65536 sum = digit at first sums ⊢
  -- with no length, and then with one that makes a carry if the sum has a high word
  obtain ⟨l, h, word, high, rfl⟩ : ∃ l h, l < 65536 ∧ h < 65536 ∧ part = l + 65536 * h :=
    ⟨part % 65536, part / 65536, by omega, by omega, (Nat.mod_add_div part 65536).symm⟩
  have start := sums 0 (by omega)
  rw [addOnce_of_fits word high, Nat.add_zero, Nat.add_zero, fold_of_lt first] at start
  rcases Nat.eq_zero_or_pos h with rfl | carried
  · omega
  by_cases fits : l + h < 65536
  · -- the length that brings the sum to 65536 leaves 0 in place of 1
    have last := sums (65536 - digit) (by omega)
    have total : digit + (65536 - digit) = 65536 := by omega
    have one : fold 65536 65536 = 1 := rfl
    rw [addOnce_of_fits (by omega) high, total, one] at last
    omega
  · -- the length that brings the low word to 65536 has its carry counted once more, or not at all
    have last := sums (65536 - l) (by omega)
    rw [addOnce_of_carries (by omega) (by omega), fold_of_lt (by omega)] at last
    omega

end Folds

section Frames

variable (packet : Bytes) (len : UInt16)

theorem toNat_partialCheck :
    (partialCheck packet).toNat = fold 65536 (ipSum (setLen packet 0)) :=
  Sctp.toNat_ipChecksum _

theorem u16_setLen : u16 (setLen packet len) 16 = len := u16_put_self packet 16 len

theorem ipSum_setLen : ipSum (setLen packet len) = ipSum (setLen packet 0) + len.toNat := by
  have sum := Sctp.ipSum_put_word (setLen packet 0) (k := 1) len (by omega) (by omega)
  rw [Nat.mul_one, u16_setLen, UInt16.toNat_zero, Nat.add_zero, setLen,
    put_put _ _ (by simp), ← setLen, ← setLen] at sum
  exact sum

/-- The two checksums are the same if the sums are. -/
theorem storedCheck_eq_iff (sync : FrameSyncIpTcp) :
    storedCheck (some sync) packet = storedCheck none packet ↔
      addOnce sync.ipCheckPart.toNat (u16 packet 16).toNat = fold 65536 (ipSum packet) := by
  have word := fold_lt (show 2 ≤ 65536 by omega) (ipSum packet)
  have taken : (ipChecksum (shift (put packet 24 (le16 0)) 14) 20).toUInt16.toNat =
      fold 65536 (ipSum packet) := by
    rw [UInt32.toNat_toUInt16, Sctp.toNat_ipChecksum, ← ipSum, Nat.mod_eq_of_lt word]
  simp only [storedCheck]
  rw [UInt16.not_inj, ← UInt16.toNat_inj, Sctp.toNat_foldCheck_toUInt16, taken, UInt32.toNat_add,
    UInt16.toNat_toUInt32, ← addOnce]

/-- With any partial checksum the frame is the same but for the checksum of its IP header. -/
theorem fixedTcp_eq (sync : Option FrameSyncIpTcp) :
    fixedTcp sync packet =
      put (put packet 24 (le16 (storedCheck sync packet))) 50 (le16 (segmentCheck packet)) := by
  cases sync with
  | some sync =>
    simp only [fixedTcp, segmentCheck_put_ip]
    rfl
  | none =>
    rw [fixedTcp, segmentCheck_stampedIp, stampedIp, put_put _ _ (by simp)]
    rfl

theorem u16_fixedTcp (sync : Option FrameSyncIpTcp) :
    u16 (fixedTcp sync packet) 24 = storedCheck sync packet := by
  rw [fixedTcp_eq, u16_put_of_disjoint _ _ _ _ (by simp), u16_put_self]

/-- The partial checksum serves for every length exactly if it is that of the header. -/
theorem eq_partialCheck_iff (sync : FrameSyncIpTcp) :
    sync.ipCheckPart = partialCheck packet ↔
      ∀ len, storedCheck (some sync) (setLen packet len) = storedCheck none (setLen packet len) := by
  have checks (len : UInt16) :
      storedCheck (some sync) (setLen packet len) = storedCheck none (setLen packet len) ↔
        addOnce sync.ipCheckPart.toNat len.toNat =
          fold 65536 (ipSum (setLen packet 0) + len.toNat) := by
    rw [storedCheck_eq_iff, u16_setLen, ipSum_setLen]
  simp only [checks]
  rw [← UInt32.toNat_inj, toNat_partialCheck]
  constructor
  · -- the length is moved from the middle of the sum to its end
    intro cached len
    rw [cached, addOnce_fold _ len.toNat_lt]
  · intro right
    apply eq_fold_of_addOnce sync.ipCheckPart.toNat_lt
    intro len word
    have one := right (UInt16.ofNat len)
    rwa [UInt16.toNat_ofNat_of_lt' word] at one

end Frames

/-- For any frame with any header: a partial checksum stands in for the whole one, whatever the length,
if and only if it is what `ip_checksum` makes of the header with neither length nor checksum; and then
the whole frame is left as it would be without. -/
theorem partial_check_serves_iff (frame : Frame) (frmMaxLen : UInt16) (memory : Bytes)
    (sync : FrameSyncIpTcp) {packet start : Nat} (given : frame.packet = some packet)
    (begins : frame.start packet frmMaxLen = start) :
    (sync.ipCheckPart = partialCheck (shift memory start) ↔ ∀ len : UInt16,
      u16 (fixCheckIpTcp { frame with sync := some sync } frmMaxLen
          (put memory (start + 16) (le16 len))) (start + 24) =
        u16 (fixCheckIpTcp { frame with sync := none } frmMaxLen
          (put memory (start + 16) (le16 len))) (start + 24)) ∧
    (sync.ipCheckPart = partialCheck (shift memory start) → ∀ len : UInt16,
      fixCheckIpTcp { frame with sync := some sync } frmMaxLen
          (put memory (start + 16) (le16 len)) =
        fixCheckIpTcp { frame with sync := none } frmMaxLen
          (put memory (start + 16) (le16 len))) := by
  have serves := eq_partialCheck_iff (shift memory start) sync
  have left (sync : Option FrameSyncIpTcp) (m : Bytes) :
      fixCheckIpTcp { frame with sync } frmMaxLen m = modify m start (fixedTcp sync) := by
    simp only [fixCheckIpTcp, given]
    rw [← begins]
    rfl
  have header (len : UInt16) :
      shift (put memory (start + 16) (le16 len)) start = setLen (shift memory start) len :=
    shift_put memory start 16 (le16 len)
  constructor
  · rw [serves]
    apply forall_congr'
    intro len
    rw [left, left, ← u16_shift, ← u16_shift, shift_modify, shift_modify, u16_fixedTcp, u16_fixedTcp,
      header]
  · intro cached len
    have same := serves.mp cached len
    -- the TCP checksum does not depend on that of the IP header
    rw [left, left]
    apply modify_congr
    rw [header, fixedTcp_eq, fixedTcp_eq, same]

/-- A bare SYN, whose length of 40 is added to the sum of the rest. -/
theorem partial_check_serves_iff_syn :
    fixCheckIpTcp { synFrame with sync := some ⟨0x5D08⟩ } 1516
        (put (synSegment [0, 0] [0, 0] 80 [0, 0] []) (0 + 16) (le16 0x2800)) =
      fixCheckIpTcp { synFrame with sync := none } 1516
        (put (synSegment [0, 0] [0, 0] 80 [0, 0] []) (0 + 16) (le16 0x2800)) := by
  have served := partial_check_serves_iff synFrame 1516 (synSegment [0, 0] [0, 0] 80 [0, 0] [])
    ⟨0x5D08⟩ rfl rfl
  exact served.2 (by decide +kernel) 0x2800

end Kpnet.Tcp
