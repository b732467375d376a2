import Kpnet.Tcp.CachedCheck

/-!
# A segment on its way

`build_tcp_raw.c` writes a TCP header behind the headers of a frame that are there, then
`fix_check_ip_tcp.c` writes both checksums, and `if_ip_tcp.c` takes the frame at the other end. What
the builder was given is what the receiver learns.
-/
namespace Kpnet.Tcp

open Bytes
open Sctp (htons ntohs htonl IpIntact)

/-- The fields of a segment, as `build_tcp_raw` is given them. -/
structure Segment where
  srcp : UInt16
  dstp : UInt16
  seq : UInt32
  ack : UInt32
  flags : UInt16
  win : UInt16
  urgent : UInt16
  deriving DecidableEq, Repr

/-- The data offset of a header without options, and the flags. -/
def Segment.word (s : Segment) : UInt16 := ((5 : UInt16) <<< 12) ||| s.flags

/-- `tcp_t` as it is filled. The ports and the acknowledgement are not converted, and there is no
room for options. -/
def Segment.hdr (s : Segment) : List UInt8 :=
  le16 s.srcp ++ (le16 s.dstp ++ (le32 (htonl s.seq) ++ (le32 s.ack ++
    (le16 (htons s.word) ++ (le16 (htons s.win) ++ (le16 0 ++ le16 (htons s.urgent)))))))

/-- `build_tcp_raw`: the frame and the memory it leaves. -/
def buildTcpRaw (frame : Frame) (s : Segment) (memory : Bytes) : Frame × Bytes :=
  match frame.packet with
  | none => ({ frame with plen := 0 }, memory)
  | some packet =>
    if frame.plen.toNat < 20 then ({ frame with plen := 0 }, memory)
    else ({ frame with packet := some (packet + 20), plen := frame.plen - 20 },
      put memory packet s.hdr)

/-- What the receiver keeps of a segment from this address. -/
def Segment.learned (s : Segment) (src : UInt32) (m : IfIpTcpMeta) : IfIpTcpMeta :=
  if s.flags &&& 0x1FF = 0x2 then { m with dstIp := src, dstPort := s.srcp, dstSeq := htonl s.seq }
  else if s.flags &&& 0x1FF = 0x12 then { m with dstSeq := htonl s.seq }
  else m

@[simp] theorem length_hdr (s : Segment) : s.hdr.length = 20 := by simp [Segment.hdr]

/-- The header is read back field by field. -/
theorem hdr_read {s : Segment} {packet : Bytes} (found : slice packet 34 20 = s.hdr) :
    u16 packet 34 = s.srcp ∧ u32 packet 38 = htonl s.seq ∧
      flags packet = s.word ∧ u16 packet 50 = 0 := by
  rw [Segment.hdr] at found
  obtain ⟨srcp, found⟩ := u16_of_slice_append (n := 18) found
  obtain ⟨-, found⟩ := u16_of_slice_append (n := 16) found
  obtain ⟨seq, found⟩ := u32_of_slice_append (n := 12) found
  obtain ⟨-, found⟩ := u32_of_slice_append (n := 8) found
  obtain ⟨word, found⟩ := u16_of_slice_append (n := 6) found
  obtain ⟨-, found⟩ := u16_of_slice_append (n := 4) found
  obtain ⟨check, -⟩ := u16_of_slice_append (n := 2) found
  refine ⟨srcp, seq, ?_, check⟩
  have word : u16 packet 46 = htons s.word := word
  rw [flags, word, Sctp.ntohs_htons]

/-- The data offset is at least 5, whatever the flags are. -/
theorem header_of_flags {packet : Bytes} {s : Segment} (word : flags packet = s.word) :
    20 ≤ (offset packet).toNat := by
  have high : ((5 : UInt16) <<< 12).toNat ≤ s.word.toNat := by
    rw [Segment.word, UInt16.toNat_or]
    exact Nat.left_le_or
  have value : ((5 : UInt16) <<< 12).toNat = 5 * 4096 := rfl
  rw [toNat_offset, word]
  omega

/-- The low bits of the word are those of the flags. -/
theorem word_and (s : Segment) : s.word &&& 0x1FF = s.flags &&& 0x1FF := by
  have none : ((5 : UInt16) <<< 12).toNat &&& (0x1FF : UInt16).toNat = 0 := rfl
  apply UInt16.toNat_inj.mp
  rw [Segment.word, UInt16.toNat_and, UInt16.toNat_or, Nat.and_or_distrib_right, none, Nat.zero_or,
    UInt16.toNat_and]

/-- What the receiver makes of a packet that it accepts; it leaves the checksum of the IP header
cleared, while it puts the other one back. -/
theorem segmentReceived_of_intact {packet : Bytes} {size : UInt16} {m : IfIpTcpMeta}
    (long : 50 < size.toNat) (own : m.srcIp = u32 packet 30) (ip : IpIntact packet)
    (segment : SegmentIntact packet) :
    segmentReceived packet size m =
      (some (if flags packet &&& 0x1FF = 0x2 then
          { m with dstIp := u32 packet 26, dstPort := u16 packet 34, dstSeq := u32 packet 38 }
        else if flags packet &&& 0x1FF = 0x12 then { m with dstSeq := u32 packet 38 }
        else m), put packet 24 (le16 0)) := by
  have stored : u16 (put packet 24 (le16 0)) 50 = u16 packet 50 :=
    u16_put_of_disjoint _ _ _ _ (by simp)
  have swapped : put (put packet 24 (le16 0)) 50 (le16 0) =
      put (put packet 50 (le16 0)) 24 (le16 0) := put_comm packet (by simp)
  have check : segmentCheck (put (put packet 24 (le16 0)) 50 (le16 0)) = u16 packet 50 := by
    rw [swapped, segmentCheck_put_ip, segment]
  have left : put (put (put packet 24 (le16 0)) 50 (le16 0)) 50 (le16 (u16 packet 50)) =
      put packet 24 (le16 0) := by
    rw [put_put _ _ (by simp), ← stored, put_le16_u16]
  have word : flags (put packet 24 (le16 0)) = flags packet := by
    rw [flags, u16_put_of_disjoint _ _ _ _ (by simp), ← flags]
  have src : u32 (put packet 24 (le16 0)) 26 = u32 packet 26 := u32_put_of_disjoint _ _ _ _ (by simp)
  have port : u16 (put packet 24 (le16 0)) 34 = u16 packet 34 := u16_put_of_disjoint _ _ _ _ (by simp)
  have seq : u32 (put packet 24 (le16 0)) 38 = u32 packet 38 := u32_put_of_disjoint _ _ _ _ (by simp)
  have ip : u16 packet 24 = ~~~(Sctp.ipChecksum (shift (put packet 24 (le16 0)) 14) 20).toUInt16 := ip
  unfold segmentReceived
  dsimp only
  rw [if_neg (by omega), if_neg (not_not.mpr own), if_neg (not_not.mpr ip), check, left, stored,
    if_neg (not_not.mpr rfl), word, src, port, seq]
  split
  · rfl
  · split <;> rfl

section Sent

variable {packet : Bytes} {s : Segment}

/-- A frame is checked as a whole, with the right partial checksum or with none. -/
theorem fixedTcp_eq_none {sync : Option FrameSyncIpTcp}
    (cached : ∀ part ∈ sync, part.ipCheckPart = partialCheck packet) :
    fixedTcp sync packet = fixedTcp none packet := by
  cases sync with
  | none => rfl
  | some part =>
    have serves := (eq_partialCheck_iff packet part).mp (cached part rfl) (u16 packet 16)
    rw [setLen, put_le16_u16] at serves
    rw [fixedTcp_eq, fixedTcp_eq, serves]

/-- Nothing behind the IP header is part of the partial checksum. -/
theorem partialCheck_put (packet : Bytes) (l : List UInt8) :
    partialCheck (put packet 34 l) = partialCheck packet := by
  apply Sctp.ipChecksum_congr
  intro i low
  have before (b : Bytes) : put b 34 l (14 + i) = b (14 + i) := put_before _ _ _ _ (by omega)
  have header : put (put (put packet 34 l) 16 (le16 0)) 24 (le16 0) =
      put (put (put packet 16 (le16 0)) 24 (le16 0)) 34 l := by
    rw [put_comm packet (by simp), put_comm _ (by simp)]
  rw [setLen, header, shift, before]
  rfl

/-- A frame with a header that was just built passes with the checksums it is given. -/
theorem fixedTcp_intact (found : slice packet 34 20 = s.hdr) :
    IpIntact (fixedTcp none packet) ∧ SegmentIntact (fixedTcp none packet) := by
  obtain ⟨-, -, word, fresh⟩ := hdr_read found
  refine ⟨?_, (segmentIntact_fixedTcp_iff (header_of_flags word)).mpr (Or.inl fresh)⟩
  rw [fixedTcp]
  exact ipIntact_put_stampedIp packet (by omega) _

/-- The checksums are stored next to the fields that the receiver reads. -/
theorem fixedTcp_fields (packet : Bytes) :
    u32 (fixedTcp none packet) 26 = u32 packet 26 ∧ u32 (fixedTcp none packet) 30 = u32 packet 30 ∧
      u16 (fixedTcp none packet) 34 = u16 packet 34 ∧ u32 (fixedTcp none packet) 38 = u32 packet 38 ∧
      flags (fixedTcp none packet) = flags packet := by
  have word (o : Nat) (apart : 26 ≤ o ∧ o + 2 ≤ 50) : u16 (fixedTcp none packet) o = u16 packet o := by
    rw [fixedTcp_eq, u16_put_of_disjoint _ _ _ _ (by omega),
      u16_put_of_disjoint _ _ _ _ (by rw [length_le16]; omega)]
  have double (o : Nat) (apart : 26 ≤ o ∧ o + 4 ≤ 50) : u32 (fixedTcp none packet) o = u32 packet o := by
    rw [fixedTcp_eq, u32_put_of_disjoint _ _ _ _ (by omega),
      u32_put_of_disjoint _ _ _ _ (by rw [length_le16]; omega)]
  refine ⟨double 26 (by omega), double 30 (by omega), word 34 (by omega), double 38 (by omega), ?_⟩
  rw [flags, word 46 (by omega), ← flags]

/-- So the receiver learns what the builder was given, if the frame is for it. -/
theorem segmentReceived_fixedTcp (found : slice packet 34 20 = s.hdr) {size : UInt16}
    (long : 50 < size.toNat) (m : IfIpTcpMeta) :
    segmentReceived (fixedTcp none packet) size m =
      if m.srcIp = u32 packet 30 then
        (some (s.learned (u32 packet 26) m), put (fixedTcp none packet) 24 (le16 0))
      else (none, fixedTcp none packet) := by
  obtain ⟨port, seq, word, -⟩ := hdr_read found
  obtain ⟨src, dst, port', seq', word'⟩ := fixedTcp_fields packet
  split
  next own =>
    obtain ⟨ip, segment⟩ := fixedTcp_intact found
    rw [segmentReceived_of_intact long (own.trans dst.symm) ip segment, src, port', seq', word', port,
      seq, word, word_and]
    rfl
  next other =>
    have refused : ¬ m.srcIp = u32 (fixedTcp none packet) 30 := by rwa [dst]
    unfold segmentReceived
    dsimp only
    rw [if_neg (by omega), if_pos refused]

end Sent

/-- A segment is built behind the MAC and IP headers of a frame and given its checksums, the first from a
partial one or not. Whatever its fields are, the receiver that the frame is for accepts it and learns
what is new to it, and any other one refuses it; outside of the two checksums and the header, the memory
is as it was. -/
theorem built_segment_received (frame : Frame) (s : Segment) (frmMaxLen : UInt16) (memory : Bytes)
    (start : Nat) (given : frame.packet = some (start + 34))
    (front : frame.plen.toNat + 34 = frmMaxLen.toNat) (room : 20 ≤ frame.plen.toNat)
    (cached : ∀ part ∈ frame.sync, part.ipCheckPart = partialCheck (shift memory start))
    (size : UInt16) (long : 50 < size.toNat) (m : IfIpTcpMeta) :
    let built := buildTcpRaw frame s memory
    let sent := fixCheckIpTcp built.1 frmMaxLen built.2
    ifIpTcp (some (shift sent start)) size (some m) =
        (if m.srcIp = u32 memory (start + 30) then
          (some (s.learned (u32 memory (start + 26)) m),
            some (put (shift sent start) 24 (le16 0)))
        else (none, some (shift sent start))) ∧
      ∀ i, i < start + 24 ∨ start + 26 ≤ i ∧ i < start + 34 ∨ start + 54 ≤ i →
        sent i = memory i := by
  intro built sent
  have left : sent = modify (put memory (start + 34) s.hdr) start (fixedTcp frame.sync) := by
    have rest : (frame.plen - 20).toNat = frame.plen.toNat - 20 :=
      UInt16.toNat_sub_of_le _ _ (UInt16.le_iff_toNat_le.mpr room)
    have begins : start + 34 + 20 + (frame.plen - 20).toNat - frmMaxLen.toNat = start := by omega
    have built_eq : built = ({ frame with packet := some (start + 34 + 20), plen := frame.plen - 20 },
        put memory (start + 34) s.hdr) := by
      simp only [built, buildTcpRaw, given]
      rw [if_neg (by omega)]
    simp only [sent, built_eq, fixCheckIpTcp, Frame.start, begins]
  have seen : shift sent start = fixedTcp none (put (shift memory start) 34 s.hdr) := by
    rw [left, shift_modify, shift_put]
    apply fixedTcp_eq_none
    rw [partialCheck_put]
    exact cached
  have found : slice (put (shift memory start) 34 s.hdr) 34 20 = s.hdr := by
    rw [← length_hdr s, slice_put_self]
  constructor
  · have received := segmentReceived_fixedTcp found long m
    rw [u32_put_of_disjoint _ _ _ _ (by omega), u32_put_of_disjoint _ _ _ _ (by omega),
      u32_shift, u32_shift, ← seen] at received
    rw [ifIpTcp, received]
    split <;> rfl
  · intro i outside
    by_cases before : i < start
    · rw [left, Bytes.modify, if_neg (by omega), put_before _ _ _ _ (by omega)]
    · obtain ⟨k, rfl⟩ : ∃ k, i = start + k := ⟨i - start, by omega⟩
      have byte := congrFun seen k
      rw [shift] at byte
      -- the two checksums and the header are elsewhere
      have apart {o : Nat} {l : List UInt8} (b : Bytes) (free : k < o ∨ o + l.length ≤ k) :
          put b o l k = b k := by
        rcases free with low | high
        · exact put_before _ _ _ _ low
        · exact put_after _ _ _ _ high
      rw [byte, fixedTcp_eq, apart _ (by rw [length_le16]; omega), apart _ (by rw [length_le16]; omega),
        apart _ (by rw [length_hdr]; omega), shift]

/-- A frame with the headers up to TCP there, and the sum of its IP header kept. -/
def headedFrame : Frame := ⟨some 34, 1482, some ⟨0x5D08⟩⟩

/-- A SYN, of which the receiver learns address, port and number. -/
theorem built_segment_received_syn :
    (ifIpTcp (some (shift (fixCheckIpTcp
          (buildTcpRaw headedFrame ⟨0x1000, 0x5000, 7, 0, 2, 512, 0⟩
            (synSegment [0, 40] [0, 0] 80 [0, 0] [])).1 1516
          (buildTcpRaw headedFrame ⟨0x1000, 0x5000, 7, 0, 2, 512, 0⟩
            (synSegment [0, 40] [0, 0] 80 [0, 0] [])).2) 0)) 54 (some listening)).1 =
      some ⟨0x0301A8C0, 0x0201A8C0, 0x1000, 0x07000000⟩ := by
  have received := (built_segment_received headedFrame ⟨0x1000, 0x5000, 7, 0, 2, 512, 0⟩ 1516
    (synSegment [0, 40] [0, 0] 80 [0, 0] []) 0 rfl (by decide) (by decide) (by
      intro part kept
      cases kept
      decide +kernel) 54 (by decide) listening).1
  rw [received]
  decide +kernel

end Kpnet.Tcp
