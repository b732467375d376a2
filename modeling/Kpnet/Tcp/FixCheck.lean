import Kpnet.Tcp.Receive

/-!
# Writing the checksums of a frame

`fix_check_ip.c`, `fix_check_ip_tcp.c` and `fix_check_ip_sctp.c`. Each writes the checksums of a frame
that may hold others from before. The one of the IP header is cleared first, those of the segment and
of the packet are not, so that what they held before goes into the sum; and `fix_check_ip` leaves out
the complement.
-/
namespace Kpnet.Tcp

open Bytes OnesComplement InternetChecksum
open Sctp (htons ipChecksum foldCheck generateCrc32c crc32c crcLen chunkLen crcOf firstCrc IpIntact
  CrcIntact)

/-- `frame_sync_ip_tcp_t`, as far as it is used. -/
structure FrameSyncIpTcp where
  ipCheckPart : UInt32
  deriving DecidableEq, Repr

/-- `frame_data_t`, as these functions see it; `none` is `NULL`. The packet is an address. -/
structure Frame where
  packet : Option Nat
  plen : UInt16
  sync : Option FrameSyncIpTcp
  deriving DecidableEq, Repr

/-- Where a frame starts that was built from the back: what is left of its length is in front of the
address. -/
def Frame.start (frame : Frame) (packet : Nat) (frmMaxLen : UInt16) : Nat :=
  packet + frame.plen.toNat - frmMaxLen.toNat

/-- What `fix_check_ip` does to the header. -/
def fixedIp (optLen : UInt16) (ip : Bytes) : Bytes :=
  let ip := put ip 10 (le16 0)
  put ip 10 (le16 (ipChecksum ip (20 + optLen)).toUInt16)

def fixCheckIp (frame : Frame) (optLen : UInt16) (memory : Bytes) : Bytes :=
  match frame.packet with
  | none => memory
  | some ip => modify memory ip (fixedIp optLen)

/-- The checksum of the IP header is cleared, taken and stored. -/
def stampedIp (packet : Bytes) : Bytes :=
  let packet := put packet 24 (le16 0)
  put packet 24 (le16 (~~~(ipChecksum (shift packet 14) 20).toUInt16))

/-- What `fix_check_ip_tcp` does to the frame: the first checksum from a partial one if there is any,
the second one over what was there. -/
def fixedTcp (sync : Option FrameSyncIpTcp) (packet : Bytes) : Bytes :=
  let packet := match sync with
    | some sync =>
      let chk := foldCheck (sync.ipCheckPart + (u16 packet 16).toUInt32)
      put packet 24 (le16 (~~~chk.toUInt16))
    | none => stampedIp packet
  put packet 50 (le16 (segmentCheck packet))

def fixCheckIpTcp (frame : Frame) (frmMaxLen : UInt16) (memory : Bytes) : Bytes :=
  match frame.packet with
  | none => memory
  | some packet => modify memory (frame.start packet frmMaxLen) (fixedTcp frame.sync)

/-- What `fix_check_ip_sctp` does to the frame. -/
def fixedSctp (plen : UInt16) (packet : Bytes) : Bytes :=
  let packet := put packet 16 (le16 (htons (1516 - plen - 14)))
  let packet := stampedIp packet
  put packet 42 (le32 (generateCrc32c (shift packet 34) (crcLen packet)))

def fixCheckIpSctp (frame : Frame) (frmMaxLen : UInt16) (memory : Bytes) : Bytes :=
  match frame.packet with
  | none => memory
  | some packet => modify memory (frame.start packet frmMaxLen) (fixedSctp frame.plen)

section Header

/-- The checksum is a word of the header. -/
theorem slice_header (ip : Bytes) (v : UInt16) :
    slice (put ip 10 (le16 v)) 0 20 = slice ip 0 10 ++ (le16 v ++ slice ip 12 8) := by
  have parts := slice_add (put ip 10 (le16 v)) 0 10 (2 + 8)
  have field := slice_put_self ip 10 (le16 v)
  rw [length_le16] at field
  rw [parts, slice_add _ _ 2, slice_put_of_disjoint _ _ _ _ _ (by simp), Nat.zero_add, field,
    slice_put_of_disjoint _ _ _ _ _ (by simp)]

theorem toNat_ipChecksum_header (ip : Bytes) :
    (ipChecksum ip 20).toNat = fold 65536 (hostWords (slice ip 0 20)).sum := by
  rw [Sctp.toNat_ipChecksum, ← Sctp.sum_hostWords_slice]

/-- The header that `fix_check_ip` leaves is right only if it is so without a checksum. -/
theorem onesSum_fixedIp_iff (ip : Bytes) :
    onesSum (slice (fixedIp 0 ip) 0 20) = 0xFFFF ↔
      onesSum (slice (put ip 10 (le16 0)) 0 20) = 0xFFFF := by
  have stored : ((ipChecksum (put ip 10 (le16 0)) 20).toUInt16).toNat =
      fold 65536 (hostWords (slice ip 0 10 ++ (le16 0 ++ slice ip 12 8))).sum := by
    have word := fold_lt (show 2 ≤ 65536 by omega)
      (hostWords (slice ip 0 10 ++ (le16 0 ++ slice ip 12 8))).sum
    rw [UInt32.toNat_toUInt16, toNat_ipChecksum_header, slice_header, Nat.mod_eq_of_lt word]
  rw [fixedIp, put_put _ _ (by simp), slice_header, slice_header, onesSum_eq_top_iff,
    onesSum_eq_top_iff, hostWords_field_sum (by simp), UInt16.add_zero, stored]
  exact fold_twice_eq_top_iff (b := 65536) (by omega) (by decide) _

theorem fixedIp_fixedIp (optLen : UInt16) (ip : Bytes) :
    fixedIp optLen (fixedIp optLen ip) = fixedIp optLen ip := by
  have again (v w : UInt16) : put (put ip 10 (le16 v)) 10 (le16 w) = put ip 10 (le16 w) :=
    put_put _ _ (by simp)
  simp only [fixedIp, again]

end Header

section Stamp

variable (packet : Bytes)

theorem stampedIp_stampedIp : stampedIp (stampedIp packet) = stampedIp packet := by
  have again (v w : UInt16) : put (put packet 24 (le16 v)) 24 (le16 w) = put packet 24 (le16 w) :=
    put_put _ _ (by simp)
  simp only [stampedIp, again]

/-- What is stored behind the IP header does not change its checksum. -/
theorem stampedIp_put {o : Nat} (behind : 34 ≤ o) (l : List UInt8) :
    stampedIp (put packet o l) = put (stampedIp packet) o l := by
  have apart (b : Bytes) (v : UInt16) :
      put (put b o l) 24 (le16 v) = put (put b 24 (le16 v)) o l := by
    apply put_comm
    right
    rw [length_le16]
    omega
  have same : ipChecksum (shift (put (put packet 24 (le16 0)) o l) 14) 20 =
      ipChecksum (shift (put packet 24 (le16 0)) 14) 20 := by
    apply Sctp.ipChecksum_congr
    intro i low
    exact put_before _ _ _ _ (by omega)
  simp only [stampedIp, apart, same]

theorem slice_stampedIp {o n : Nat} (behind : 26 ≤ o) :
    slice (stampedIp packet) o n = slice packet o n := by
  rw [stampedIp, slice_put_of_disjoint _ _ _ _ _ (by simp; omega),
    slice_put_of_disjoint _ _ _ _ _ (by simp; omega)]

theorem segmentCheck_stampedIp : segmentCheck (stampedIp packet) = segmentCheck packet := by
  rw [stampedIp, segmentCheck_put_ip, segmentCheck_put_ip]

theorem ipIntact_put_stampedIp {o : Nat} (behind : 34 ≤ o) (l : List UInt8) :
    IpIntact (put (stampedIp packet) o l) := by
  have header : IpIntact (put (stampedIp packet) o l) ↔ IpIntact (stampedIp packet) := by
    apply Sctp.ipIntact_congr
    intro i _ low
    exact put_before _ _ _ _ (by omega)
  exact header.mpr (Sctp.ipIntact_stamped packet)

end Stamp

section Segment

variable {packet : Bytes} (header : 20 ≤ (offset packet).toNat)
include header

/-- The checksum that is stored tells two stale ones apart, but for the sign of 0. -/
theorem segmentCheck_put_eq_iff (v w : UInt16) :
    segmentCheck (put packet 50 (le16 v)) = segmentCheck (put packet 50 (le16 w)) ↔
      v.toNat % 65535 = w.toNat % 65535 := by
  have positive := buffer_sum_pos packet 0
  have value (v : UInt16) : (segmentCheck (put packet 50 (le16 v))).toNat = 65535 - fold 65536
      (v.toNat + (hostWords (beforeCheck packet ++ (le16 0 ++ afterCheck packet))).sum) := by
    rw [toNat_segmentCheck, buffer_put header, hostWords_field_sum (length_beforeCheck packet)]
  rw [← UInt16.toNat_inj, value, value]
  generalize (hostWords (beforeCheck packet ++ (le16 0 ++ afterCheck packet))).sum = others at *
  have first := fold_lt (show 2 ≤ 65536 by omega) (v.toNat + others)
  have second := fold_lt (show 2 ≤ 65536 by omega) (w.toNat + others)
  have folds : fold 65536 (v.toNat + others) = fold 65536 (w.toNat + others) ↔
      (v.toNat + others) % 65535 = (w.toNat + others) % 65535 :=
    fold_eq_fold_iff (by omega) (by omega)
  have complement : 65535 - fold 65536 (v.toNat + others) = 65535 - fold 65536 (w.toNat + others) ↔
      fold 65536 (v.toNat + others) = fold 65536 (w.toNat + others) := by omega
  rw [complement, folds]
  exact ⟨Nat.ModEq.add_right_cancel' others, Nat.ModEq.add_right others⟩

/-- The segment that `fix_check_ip_tcp` leaves is right if the stale checksum did not count. -/
theorem segmentIntact_fixedTcp_iff :
    SegmentIntact (fixedTcp none packet) ↔ u16 packet 50 = 0 ∨ u16 packet 50 = 0xFFFF := by
  have bound := (u16 packet 50).toNat_lt
  have stale := segmentCheck_put_eq_iff header (u16 packet 50) 0
  rw [put_le16_u16] at stale
  rw [fixedTcp, SegmentIntact, u16_put_self, put_put _ _ (by simp), ← stampedIp_put _ (by omega),
    segmentCheck_stampedIp, segmentCheck_stampedIp, stale, ← UInt16.toNat_inj, ← UInt16.toNat_inj,
    UInt16.toNat_zero, show (0xFFFF : UInt16).toNat = 65535 from rfl]
  omega

/-- A second call counts the checksum of the first one. -/
theorem fixedTcp_fixedTcp_iff :
    fixedTcp none (fixedTcp none packet) = fixedTcp none packet ↔
      ((hostWords (buffer packet)).sum + (u16 packet 50).toNat) % 65535 = 0 := by
  have positive := buffer_sum_pos packet (u16 packet 50)
  rw [← buffer_eq header] at positive
  have word := fold_lt (show 2 ≤ 65536 by omega) (hostWords (buffer packet)).sum
  have digit := fold_mod (b := 65536) positive
  have first := toNat_segmentCheck packet
  have stale := segmentCheck_put_eq_iff header (u16 packet 50) (segmentCheck packet)
  rw [put_le16_u16] at stale
  have once : fixedTcp none packet = put (stampedIp packet) 50 (le16 (segmentCheck packet)) := by
    rw [fixedTcp, segmentCheck_stampedIp]
  have twice : fixedTcp none (fixedTcp none packet) = put (fixedTcp none packet) 50
      (le16 (segmentCheck (put packet 50 (le16 (segmentCheck packet))))) := by
    rw [once, fixedTcp, stampedIp_put _ (by omega), stampedIp_stampedIp, ← stampedIp_put _ (by omega),
      segmentCheck_stampedIp]
  rw [twice, put_le16_eq_iff, once, u16_put_self, stale, first]
  omega

end Segment

section Packet

variable (plen : UInt16) (packet : Bytes)

/-- What the CRC is taken of: the common header, with the field, and the first chunk. -/
theorem slice_crc (v : UInt32) :
    slice (put packet 42 (le32 v)) 34 (12 + chunkLen packet) =
      slice packet 34 8 ++ (le32 v ++ slice packet 46 (chunkLen packet)) := by
  have parts : 12 + chunkLen packet = 8 + (4 + chunkLen packet) := by omega
  have field := slice_put_self packet 42 (le32 v)
  rw [length_le32] at field
  rw [parts, slice_add, slice_add, slice_put_of_disjoint _ _ _ _ _ (by simp), field,
    slice_put_of_disjoint _ _ _ _ _ (by simp)]

/-- The CRC tells two stale fields apart. -/
theorem crc_put_eq_iff (v w : UInt32) :
    crc32c (slice (put packet 42 (le32 v)) 34 (12 + chunkLen packet)) =
      crc32c (slice (put packet 42 (le32 w)) 34 (12 + chunkLen packet)) ↔ v = w := by
  rw [slice_crc, slice_crc]
  constructor
  · exact Sctp.crc32c_field_inj
  · intro same
    rw [same]

theorem chunkLen_put (v : UInt32) : chunkLen (put packet 42 (le32 v)) = chunkLen packet := by
  rw [chunkLen, u16_put_of_disjoint _ _ _ _ (by simp), ← chunkLen]

/-- The packet up to the CRC. -/
def stampedSctp : Bytes := stampedIp (put packet 16 (le16 (htons (1516 - plen - 14))))

/-- Nothing of it is covered by the CRC. -/
theorem slice_stampedSctp {o n : Nat} (behind : 26 ≤ o) :
    slice (stampedSctp plen packet) o n = slice packet o n := by
  rw [stampedSctp, slice_stampedIp _ behind, slice_put_of_disjoint _ _ _ _ _ (by simp; omega)]

theorem chunkLen_stampedSctp : chunkLen (stampedSctp plen packet) = chunkLen packet := by
  rw [chunkLen, u16, slice_stampedSctp _ _ (by omega), ← u16, ← chunkLen]

theorem fixedSctp_eq :
    fixedSctp plen packet = put (stampedSctp plen packet) 42
      (le32 (crc32c (slice packet 34 (12 + chunkLen packet)))) := by
  have crc := Sctp.generateCrc32c_eq (shift (stampedSctp plen packet) 34)
    (crcLen (stampedSctp plen packet))
  rw [slice_shift, Sctp.toNat_crcLen, chunkLen_stampedSctp, slice_stampedSctp _ _ (by omega)] at crc
  rw [← crc]
  rfl

/-- A packet that has been stamped is so already. -/
theorem stampedSctp_put (v : UInt32) :
    stampedSctp plen (put (stampedSctp plen packet) 42 (le32 v)) =
      put (stampedSctp plen packet) 42 (le32 v) := by
  have length : u16 (stampedSctp plen packet) 16 = htons (1516 - plen - 14) := by
    rw [stampedSctp, stampedIp, u16_put_of_disjoint _ _ _ _ (by simp),
      u16_put_of_disjoint _ _ _ _ (by simp), u16_put_self]
  have again : put (put (stampedSctp plen packet) 42 (le32 v)) 16 (le16 (htons (1516 - plen - 14))) =
      put (stampedSctp plen packet) 42 (le32 v) := by
    rw [put_le16_eq_iff, u16_put_of_disjoint _ _ _ _ (by simp), length]
  rw [stampedSctp, again, stampedIp_put _ (by omega)]
  rw [stampedSctp, stampedIp_stampedIp]

/-- The packet that `fix_check_ip_sctp` leaves is right if the stale CRC was 0. -/
theorem crcIntact_fixedSctp_iff : CrcIntact (fixedSctp plen packet) ↔ u32 packet 42 = 0 := by
  have stale := crc_put_eq_iff packet (u32 packet 42) 0
  rw [put_le32_u32, slice_crc] at stale
  have cleared : firstCrc (fixedSctp plen packet) = crc32c (slice packet 34 8 ++
      (le32 0 ++ slice packet 46 (chunkLen packet))) := by
    rw [fixedSctp_eq, firstCrc, crcOf, chunkLen_put, put_put _ _ (by simp), slice_crc,
      chunkLen_stampedSctp, slice_stampedSctp _ _ (by omega), slice_stampedSctp _ _ (by omega)]
  rw [Sctp.crcIntact_iff, cleared, ← stale, fixedSctp_eq, u32_put_self]

/-- A second call takes the CRC of the first one with it. -/
theorem fixedSctp_fixedSctp_iff :
    fixedSctp plen (fixedSctp plen packet) = fixedSctp plen packet ↔
      crc32c (slice packet 34 (12 + chunkLen packet)) = u32 packet 42 := by
  have stale := crc_put_eq_iff packet (u32 packet 42) (crc32c (slice packet 34 (12 + chunkLen packet)))
  rw [put_le32_u32, slice_crc] at stale
  have twice : fixedSctp plen (fixedSctp plen packet) = put (fixedSctp plen packet) 42
      (le32 (crc32c (slice packet 34 8 ++
        (le32 (crc32c (slice packet 34 (12 + chunkLen packet))) ++
          slice packet 46 (chunkLen packet))))) := by
    rw [fixedSctp_eq plen packet, fixedSctp_eq, stampedSctp_put, chunkLen_put, slice_crc,
      chunkLen_stampedSctp, slice_stampedSctp _ _ (by omega), slice_stampedSctp _ _ (by omega)]
  rw [twice, put_le32_eq_iff, fixedSctp_eq, u32_put_self, stale, eq_comm]

end Packet

/-- What is done behind a pointer is seen from there. -/
theorem modify_modify_eq_iff (memory : Bytes) (o : Nat) (f : Bytes → Bytes) :
    modify (modify memory o f) o f = modify memory o f ↔
      f (f (shift memory o)) = f (shift memory o) := by
  rw [modify_eq_self_iff, shift_modify]

/-- The three functions on any frame with any checksums in it. What they leave passes the comparisons
exactly if the IP header makes the highest word without a checksum; if the stale checksum of a TCP header
is 0 or 0xFFFF; if the stale CRC is 0. A second call of the first one changes nothing; one of the
others changes nothing exactly if the stale value makes no difference when it is counted once more, or
was the CRC of the packet as it was. -/
theorem fixed_frames_pass_iff (frame : Frame) (frmMaxLen : UInt16) (memory : Bytes)
    {packet start : Nat} (given : frame.packet = some packet)
    (begins : frame.start packet frmMaxLen = start) :
    ((onesSum (slice (fixCheckIp frame 0 memory) packet 20) = 0xFFFF ↔
        onesSum (slice (put memory (packet + 10) (le16 0)) packet 20) = 0xFFFF) ∧
      fixCheckIp frame 0 (fixCheckIp frame 0 memory) = fixCheckIp frame 0 memory) ∧
    (frame.sync = none → offset (shift memory start) = 20 →
      (IpIntact (shift (fixCheckIpTcp frame frmMaxLen memory) start) ∧
          SegmentIntact (shift (fixCheckIpTcp frame frmMaxLen memory) start) ↔
        u16 memory (start + 50) = 0 ∨ u16 memory (start + 50) = 0xFFFF) ∧
      (fixCheckIpTcp frame frmMaxLen (fixCheckIpTcp frame frmMaxLen memory) =
          fixCheckIpTcp frame frmMaxLen memory ↔
        ((hostWords (buffer (shift memory start))).sum + (u16 memory (start + 50)).toNat) % 65535 =
          0)) ∧
    (IpIntact (shift (fixCheckIpSctp frame frmMaxLen memory) start) ∧
        CrcIntact (shift (fixCheckIpSctp frame frmMaxLen memory) start) ↔
      u32 memory (start + 42) = 0) ∧
    (fixCheckIpSctp frame frmMaxLen (fixCheckIpSctp frame frmMaxLen memory) =
        fixCheckIpSctp frame frmMaxLen memory ↔
      crc32c (slice memory (start + 34) (12 + chunkLen (shift memory start))) =
        u32 memory (start + 42)) := by
  refine ⟨⟨?_, ?_⟩, ?_, ?_, ?_⟩
  · have sum := onesSum_fixedIp_iff (shift memory packet)
    have seen := shift_modify memory packet (fixedIp 0)
    rw [← shift_put, ← seen, slice_shift, slice_shift] at sum
    simpa only [fixCheckIp, given, Nat.add_zero] using sum
  · simp only [fixCheckIp, given, modify_modify_eq_iff, fixedIp_fixedIp]
  · intro plain bare
    have header : 20 ≤ (offset (shift memory start)).toNat := by
      rw [bare]
      decide
    have segment := segmentIntact_fixedTcp_iff header
    have second := fixedTcp_fixedTcp_iff header
    rw [u16_shift] at segment second
    simp only [fixCheckIpTcp, given, begins, plain, shift_modify, modify_modify_eq_iff]
    rw [segment, second]
    exact ⟨and_iff_right (ipIntact_put_stampedIp _ (by omega) _), Iff.rfl⟩
  · simp only [fixCheckIpSctp, given, begins, shift_modify, crcIntact_fixedSctp_iff, u32_shift]
    exact and_iff_right (ipIntact_put_stampedIp _ (by omega) _)
  · simp only [fixCheckIpSctp, given, begins, modify_modify_eq_iff, fixedSctp_fixedSctp_iff,
      slice_shift, u32_shift]

/-- The frame of a bare SYN, built into 1516 bytes at the start of the memory. -/
def synFrame : Frame := ⟨some 54, 1462, none⟩

/-- Fresh from a builder, the SYN gets the checksums it needs. -/
theorem fixed_frames_pass_iff_fresh :
    IpIntact (shift (fixCheckIpTcp synFrame 1516 (synSegment [0, 40] [0, 0] 80 [0, 0] [])) 0) ∧
    SegmentIntact (shift (fixCheckIpTcp synFrame 1516 (synSegment [0, 40] [0, 0] 80 [0, 0] [])) 0) := by
  have judged := fixed_frames_pass_iff synFrame 1516 (synSegment [0, 40] [0, 0] 80 [0, 0] [])
    rfl rfl
  exact (judged.2.1 rfl (by decide)).1.mpr (.inl (by decide))

/-- With a checksum of 1 from before it does not pass; nor does the header of `fix_check_ip`, nor a packet
with the CRC that was right for it. -/
theorem stale_frames_refused :
    ¬SegmentIntact (shift (fixCheckIpTcp synFrame 1516 (synSegment [0, 40] [0, 0] 80 [0, 1] [])) 0) ∧
    onesSum (slice (fixCheckIp ⟨some 14, 0, none⟩ 0 synBare) 14 20) ≠ 0xFFFF ∧
    ¬CrcIntact (shift (fixCheckIpSctp ⟨some 50, 1466, none⟩ 1516 Sctp.acknowledgedAlone) 0) := by
  refine ⟨?_, ?_, ?_⟩
  · have header : 20 ≤ (offset (synSegment [0, 40] [0, 0] 80 [0, 1] [])).toNat := by decide
    simp only [fixCheckIpTcp, synFrame, Frame.start]
    rw [show 54 + (1462 : UInt16).toNat - (1516 : UInt16).toNat = 0 from rfl, shift_zero,
      modify_zero, segmentIntact_fixedTcp_iff header]
    decide
  · decide +kernel
  · simp only [fixCheckIpSctp, Frame.start]
    rw [show 50 + (1466 : UInt16).toNat - (1516 : UInt16).toNat = 0 from rfl, shift_zero,
      modify_zero, crcIntact_fixedSctp_iff]
    decide

end Kpnet.Tcp
