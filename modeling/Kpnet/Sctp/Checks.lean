import Kpnet.Sctp.Builders

/-!
# Checking a received packet

`sctp_check_checksums.c` with `ip_checksum.c`. The two checksums are taken with their own
fields at 0, in the buffer itself; the fields are put back where the comparison succeeds.
-/
namespace Kpnet.Sctp

open Bytes

/-- `ip_checksum`, folded after every word. -/
def ipChecksum (data : Bytes) (len : UInt16) : UInt32 :=
  (List.range (len >>> 1).toNat).foldl
    (fun sum i => foldCheck (sum + (u16 data (2 * i)).toUInt32)) 0

/-- What the CRC of a packet is taken over: the common header and the first chunk. -/
def crcLen (packet : Bytes) : UInt32 := 12 + (ntohs (u16 packet 48)).toUInt32

/-- `sctp_check_checksums`: its result and the packet it leaves. The CRC is computed once more
before its field is cleared; nothing depends on that value. -/
def sctpCheckChecksums (packet : Bytes) (plen : UInt64) : Int × Bytes :=
  if plen.toNat < 46 then (-1, packet)
  else
    let checkIp := u16 packet 24
    let packet := put packet 24 (le16 0)
    if checkIp ≠ ~~~(ipChecksum (shift packet 14) 20).toUInt16 then (-1, packet)
    else
      let packet := put packet 24 (le16 checkIp)
      if (ntohs (u16 packet 16)).toNat < 36 then (-1, packet)
      else
        let checkSctp := u32 packet 42
        let packet := put packet 42 (le32 0)
        if checkSctp ≠ ~~~(generateCrc32cOnCrc32c (shift packet 34) (crcLen packet)
            0xFFFFFFFF).toUInt32 then (-1, packet)
        else (0, put packet 42 (le32 checkSctp))

/-- The IP header carries the checksum of its other words. -/
def IpIntact (packet : Bytes) : Prop :=
  u16 packet 24 = ~~~(ipChecksum (shift (put packet 24 (le16 0)) 14) 20).toUInt16

/-- The common header carries the CRC of itself and the first chunk. -/
def CrcIntact (packet : Bytes) : Prop :=
  u32 packet 42 = ~~~(generateCrc32cOnCrc32c (shift (put packet 42 (le32 0)) 34) (crcLen packet)
    0xFFFFFFFF).toUInt32

instance (packet : Bytes) : Decidable (IpIntact packet) := inferInstanceAs (Decidable (_ = _))

instance (packet : Bytes) : Decidable (CrcIntact packet) := inferInstanceAs (Decidable (_ = _))

/-- The length the IP header gives, in host order. -/
def ipLen (packet : Bytes) : Nat := (ntohs (u16 packet 16)).toNat

/-- A field that was cleared is put back. -/
theorem restore16 (packet : Bytes) (o : Nat) :
    put (put packet o (le16 0)) o (le16 (u16 packet o)) = packet := by
  rw [le16_u16]
  exact put_put_slice packet o (le16 0)

theorem restore32 (packet : Bytes) (o : Nat) :
    put (put packet o (le32 0)) o (le32 (u32 packet o)) = packet := by
  rw [le32_u32]
  exact put_put_slice packet o (le32 0)

/-- The length of the chunk is not touched by clearing the CRC. -/
theorem crcLen_cleared (packet : Bytes) : crcLen (put packet 42 (le32 0)) = crcLen packet := by
  rw [crcLen, u16_put_of_disjoint _ _ _ _ (by simp), ← crcLen]

/-- What the check is for. -/
structure Sound (packet : Bytes) (plen : UInt64) : Prop where
  headers : 46 ≤ plen.toNat
  ip : IpIntact packet
  len : 36 ≤ ipLen packet
  crc : CrcIntact packet

/-- It accepts exactly the sound packets, and leaves these as they were. -/
theorem sctpCheckChecksums_sound (packet : Bytes) (plen : UInt64) :
    (Sound packet plen → sctpCheckChecksums packet plen = (0, packet)) ∧
    (¬Sound packet plen → (sctpCheckChecksums packet plen).1 = -1) := by
  unfold sctpCheckChecksums
  dsimp only
  split
  next short => exact ⟨fun sound => absurd sound.headers (by omega), fun _ => rfl⟩
  next headers =>
    split
    next broken => exact ⟨fun sound => absurd sound.ip broken, fun _ => rfl⟩
    next ip =>
      -- the checksum is put back before anything else is read
      rw [restore16]
      split
      next short => exact ⟨fun sound => absurd sound.len (Nat.not_le.mpr short), fun _ => rfl⟩
      next len =>
        rw [crcLen_cleared]
        split
        next broken => exact ⟨fun sound => absurd sound.crc broken, fun _ => rfl⟩
        next crc =>
          -- as is the CRC, but only of a packet that is right
          rw [restore32]
          have sound : Sound packet plen :=
            ⟨by omega, not_not.mp ip, Nat.not_lt.mp len, not_not.mp crc⟩
          exact ⟨fun _ => rfl, fun unsound => absurd sound unsound⟩

end Kpnet.Sctp
