import Kpnet.Sctp.Checksums
import Kpnet.Sctp.Crc
import Kpnet.Sctp.Receive

/-!
# What the check accepts, and what it leaves

`sctp_check_checksums.c` against the definitions of the two checksums. The CRC is that of all chunks
and their padding, as RFC 9260 has it, but the check takes it of the first chunk only; and the
checksum of the IP header is compared with one of the two words that make the header sum up to 0.
Both fields are cleared for the comparison, and put back only where it succeeds.
-/
namespace Kpnet.Sctp

open Bytes OnesComplement

/-- The lengths of a packet fit: all that the IP header counts was received, the header has no
options, and the first chunk ends within the packet. -/
structure Consistent (packet : Bytes) (plen : UInt64) : Prop where
  received : 14 + ipLen packet ≤ plen.toNat
  len : 36 ≤ ipLen packet
  ihl : packet 14 &&& 0x0F = 5
  inside : 20 + 12 + chunkLen packet ≤ ipLen packet

/-- The words of the IP header, with the checksum, sum up to the highest word. -/
def SumsUp (packet : Bytes) : Prop := fold 65536 (wordSum (shift packet 14) 10) = 0xFFFF

/-- The CRC of the first bytes behind the IP header, with its own field at 0. -/
def crcOf (packet : Bytes) (length : Nat) : UInt32 :=
  crc32c (slice (put packet 42 (le32 0)) 34 length)

/-- The CRC of the whole packet. -/
def wholeCrc (packet : Bytes) : UInt32 := crcOf packet (ipLen packet - 20)

/-- The CRC of the common header and the first chunk. -/
def firstCrc (packet : Bytes) : UInt32 := crcOf packet (12 + chunkLen packet)

/-- Both checksums are right. -/
structure Valid (packet : Bytes) : Prop where
  ip : SumsUp packet
  crc : u32 packet 42 = wholeCrc packet

/-- Where the sum is right, the two ways to judge the rest come to the same. The word 0xFFFF is never
taken for a checksum, so it has to come with a wrong CRC; with any other word, the two CRCs have to
be the same, or the field is neither. -/
def ChecksAgree (packet : Bytes) : Prop :=
  SumsUp packet →
    if u16 packet 24 = 0xFFFF then u32 packet 42 ≠ wholeCrc packet
    else firstCrc packet = wholeCrc packet ∨
      u32 packet 42 ≠ firstCrc packet ∧ u32 packet 42 ≠ wholeCrc packet

/-- Of a header without options: the sum has to be right, and the checksum not the highest word. -/
theorem ipIntact_iff_sumsUp {packet : Bytes} (ihl : packet 14 &&& 0x0F = 5) :
    IpIntact packet ↔ SumsUp packet ∧ u16 packet 24 ≠ 0xFFFF := by
  have start : packet 14 ≠ 0 := by
    intro zero
    rw [zero] at ihl
    exact absurd ihl (by decide)
  have positive := ipSum_pos start
  have bound := (u16 packet 24).toNat_lt
  have highest : u16 packet 24 ≠ 0xFFFF ↔ (u16 packet 24).toNat < 65535 := by
    rw [Ne, ← UInt16.toNat_inj, show (0xFFFF : UInt16).toNat = 65535 from rfl]
    omega
  have sum : SumsUp packet ↔ wordSum (shift packet 14) 10 % 65535 = 0 := by
    have total := wordSum_eq_ipSum packet
    rw [SumsUp, show 0xFFFF = 65536 - 1 from rfl, fold_eq_top (by omega)]
    omega
  rw [ipIntact_iff positive, sum, highest]

section Judged

variable {packet : Bytes} {plen : UInt64}

theorem toNat_crcLen (packet : Bytes) : (crcLen packet).toNat = 12 + chunkLen packet := by
  have bound := (ntohs (u16 packet 48)).toNat_lt
  rw [crcLen, UInt32.toNat_add, UInt16.toNat_toUInt32, show (12 : UInt32).toNat = 12 from rfl,
    chunkLen]
  omega

theorem crcIntact_iff (packet : Bytes) : CrcIntact packet ↔ u32 packet 42 = firstCrc packet := by
  have value := generateCrc32c_eq (shift (put packet 42 (le32 0)) 34) (crcLen packet)
  rw [slice_shift, toNat_crcLen, generateCrc32c] at value
  rw [CrcIntact, value]
  rfl

theorem sctpCheckChecksums_eq_zero_iff (packet : Bytes) (plen : UInt64) :
    (sctpCheckChecksums packet plen).1 = 0 ↔ Sound packet plen := by
  obtain ⟨accepts, refuses⟩ := sctpCheckChecksums_sound packet plen
  constructor
  · intro accepted
    by_contra unsound
    rw [refuses unsound] at accepted
    cases accepted
  · intro sound
    rw [accepts sound]

/-- A packet with lengths that fit is accepted for the CRC of its first chunk. -/
theorem Consistent.accepted_iff (consistent : Consistent packet plen) :
    (sctpCheckChecksums packet plen).1 = 0 ↔
      (SumsUp packet ∧ u16 packet 24 ≠ 0xFFFF) ∧ u32 packet 42 = firstCrc packet := by
  have received := consistent.received
  have len := consistent.len
  rw [sctpCheckChecksums_eq_zero_iff, ← ipIntact_iff_sumsUp consistent.ihl, ← crcIntact_iff]
  constructor
  · intro sound
    exact ⟨sound.ip, sound.crc⟩
  · rintro ⟨ip, crc⟩
    exact ⟨by omega, ip, len, crc⟩

end Judged

/-- The check accepts exactly the valid packets exactly where the checks agree; so it does for every
packet whose first chunk is all there is, if the checksum of the header is not 0xFFFF. -/
theorem accepted_iff_valid_iff (packet : Bytes) (plen : UInt64)
    (consistent : Consistent packet plen) :
    (((sctpCheckChecksums packet plen).1 = 0 ↔ Valid packet) ↔ ChecksAgree packet) ∧
    (12 + chunkLen packet = ipLen packet - 20 → u16 packet 24 ≠ 0xFFFF → ChecksAgree packet) := by
  constructor
  · have valid : Valid packet ↔ SumsUp packet ∧ u32 packet 42 = wholeCrc packet :=
      ⟨fun valid => ⟨valid.ip, valid.crc⟩, fun valid => ⟨valid.1, valid.2⟩⟩
    rw [consistent.accepted_iff, valid, ChecksAgree]
    -- without the sum both sides refuse, and with it the CRCs decide
    by_cases sum : SumsUp packet
    · by_cases highest : u16 packet 24 = 0xFFFF
      · simp [sum, highest]
      · by_cases same : firstCrc packet = wholeCrc packet
        · simp [sum, highest, same]
        · by_cases first : u32 packet 42 = firstCrc packet
          · simp [sum, highest, first, same]
          · simp [sum, highest, first, same]
    · simp [sum]
  · intro single other sum
    rw [if_neg other]
    left
    rw [firstCrc, single, wholeCrc]

/-- A packet from 192.168.1.2 to 192.168.1.3, with a COOKIE ACK behind these bytes of the CRC and
the length. -/
def acknowledged (len check crc rest : List UInt8) : Bytes :=
  put (fun _ => 0) 14 ([69, 0] ++ len ++ [0, 0, 0, 0, 64, 132] ++ check ++
    [192, 168, 1, 2, 192, 168, 1, 3, 15, 160, 0, 80, 0, 0, 0, 1] ++ crc ++ [11, 0, 0, 4] ++ rest)

/-- With nothing behind it, and both checksums right. -/
def acknowledgedAlone : Bytes := acknowledged [0, 36] [247, 0] [221, 220, 238, 85] []

/-- With a SHUTDOWN ACK behind it. -/
def acknowledgedTwice : Bytes := acknowledged [0, 40] [246, 252] [3, 243, 199, 72] [8, 0, 0, 4]

theorem accepted_iff_valid_iff_alone :
    Valid acknowledgedAlone ∧ (sctpCheckChecksums acknowledgedAlone 50).1 = 0 := by
  have consistent : Consistent acknowledgedAlone 50 :=
    ⟨by decide, by decide, by decide, by decide⟩
  obtain ⟨agree, single⟩ := accepted_iff_valid_iff acknowledgedAlone 50 consistent
  have valid : Valid acknowledgedAlone := ⟨by unfold SumsUp; decide +kernel, by decide +kernel⟩
  exact ⟨valid, (agree.mpr (single (by decide) (by decide))).mpr valid⟩

/-- A packet of two chunks with both checksums right is refused. -/
theorem valid_refused :
    Consistent acknowledgedTwice 54 ∧ Valid acknowledgedTwice ∧
    (sctpCheckChecksums acknowledgedTwice 54).1 ≠ 0 := by
  have consistent : Consistent acknowledgedTwice 54 :=
    ⟨by decide, by decide, by decide, by decide⟩
  have other : u32 acknowledgedTwice 42 ≠ firstCrc acknowledgedTwice := by decide +kernel
  refine ⟨consistent, ⟨by unfold SumsUp; decide +kernel, by decide +kernel⟩, ?_⟩
  intro accepted
  exact other (consistent.accepted_iff.mp accepted).2

/-- What a call leaves: the field whose comparison failed stays cleared. -/
theorem sctpCheckChecksums_left (packet : Bytes) (plen : UInt64) :
    (sctpCheckChecksums packet plen).2 =
      if plen.toNat < 46 then packet
      else if ¬IpIntact packet then put packet 24 (le16 0)
      else if ipLen packet < 36 ∨ CrcIntact packet then packet
      else put packet 42 (le32 0) := by
  unfold sctpCheckChecksums
  dsimp only
  split
  next short => rfl
  next headers =>
    split
    next broken => rw [if_pos (show ¬IpIntact packet from broken)]
    next ip =>
      rw [restore16, if_neg (show ¬¬IpIntact packet from ip)]
      split
      next short => rw [if_pos (Or.inl (show ipLen packet < 36 from short))]
      next len =>
        rw [crcLen_cleared]
        split
        next broken =>
          have refused : ¬(ipLen packet < 36 ∨ CrcIntact packet) := not_or.mpr ⟨len, broken⟩
          rw [if_neg refused]
        next crc =>
          have intact : CrcIntact packet := not_not.mp crc
          rw [restore32, if_pos (Or.inr intact)]

/-- A packet is left as it was exactly if no comparison failed, or the field of the one that did is
0. -/
theorem packet_kept_iff (packet : Bytes) (plen : UInt64) :
    (∀ i, (sctpCheckChecksums packet plen).2 i = packet i) ↔
      plen.toNat < 46 ∨
      (¬IpIntact packet ∧ u16 packet 24 = 0) ∨
      (IpIntact packet ∧ (ipLen packet < 36 ∨ CrcIntact packet ∨ u32 packet 42 = 0)) := by
  rw [← funext_iff, sctpCheckChecksums_left]
  split
  next short => simp [short]
  next headers =>
    split
    next broken => simp [headers, broken, put_le16_eq_iff]
    next ip =>
      have ip : IpIntact packet := not_not.mp ip
      split
      next kept => simp [ip, ← or_assoc, kept]
      next refused => simp [headers, ip, ← or_assoc, refused, put_le32_eq_iff]

/-- The first byte of a wrong IP checksum is lost. -/
theorem packet_kept_not_always :
    (sctpCheckChecksums (put (fun _ => 0) 24 [1]) 60).2 24 ≠ put (fun _ => 0) 24 [1] 24 := by
  decide +kernel

end Kpnet.Sctp
