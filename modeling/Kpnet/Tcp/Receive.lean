import Kpnet.Sctp.Acceptance

/-!
# Receiving a TCP segment

`if_ip_tcp.c`. The checksum of the IP header is checked as in `sctp_check_checksums`; that of the
segment is taken of its header only, behind a pseudo header that gives 20 bytes for the segment
whatever its length is. Against it stands the checksum as it is defined, of the whole segment with
the length that follows from the IP header.
-/
namespace Kpnet.Tcp

open Bytes OnesComplement InternetChecksum
open Sctp (htons ntohs ipChecksum tcpChecksum IpIntact SumsUp ipLen)

/-- `if_ip_tcp_meta_t`, less what the receiver does not touch. -/
structure IfIpTcpMeta where
  srcIp : UInt32
  dstIp : UInt32
  dstPort : UInt16
  dstSeq : UInt32
  deriving DecidableEq, Repr

/-- `pseudo_t`, with the addresses of a packet. -/
def pseudo (packet : Bytes) (tcpLength : UInt16) : List UInt8 :=
  le32 (u32 packet 26) ++ (le32 (u32 packet 30) ++ ([0, 6] ++ le16 (htons tcpLength)))

/-- The flags, behind the data offset and the reserved bits in one word. -/
def flags (packet : Bytes) : UInt16 := ntohs (u16 packet 46)

/-- The length of the TCP header, as its data offset gives it. -/
def offset (packet : Bytes) : UInt8 := ((((flags packet) >>> 12) &&& 0xF) * 4).toUInt8

/-- The buffer that is summed up: the pseudo header and the header. -/
def buffer (packet : Bytes) : List UInt8 :=
  pseudo packet 20 ++ slice packet 34 (offset packet).toNat

/-- The checksum of a segment with its field cleared. -/
def segmentCheck (packet : Bytes) : UInt16 :=
  tcpChecksum (put (fun _ => 0) 0 (buffer packet)) (12 + (offset packet).toNat)

/-- `if_ip_tcp` behind the tests for `NULL`: what it returns and the packet it leaves. -/
def segmentReceived (packet : Bytes) (size : UInt16) (m : IfIpTcpMeta) :
    Option IfIpTcpMeta × Bytes :=
  if size.toNat ≤ 50 then (none, packet)
  else if m.srcIp ≠ u32 packet 30 then (none, packet)
  else
    let checkCheckIp := u16 packet 24
    let packet := put packet 24 (le16 0)
    if checkCheckIp ≠ ~~~(ipChecksum (shift packet 14) 20).toUInt16 then (none, packet)
    else
      let checkTmp := u16 packet 50
      let packet := put packet 50 (le16 0)
      let packet := put packet 50 (le16 (segmentCheck packet))
      if checkTmp ≠ u16 packet 50 then (none, packet)
      else if flags packet &&& 0x1FF = 0x2 then
        -- a SYN
        (some { m with dstIp := u32 packet 26, dstPort := u16 packet 34, dstSeq := u32 packet 38 },
          packet)
      else if flags packet &&& 0x1FF = 0x12 then
        -- a SYN that acknowledges one
        (some { m with dstSeq := u32 packet 38 }, packet)
      else (some m, packet)

/-- `if_ip_tcp`. -/
def ifIpTcp : Option Bytes → UInt16 → Option IfIpTcpMeta → Option IfIpTcpMeta × Option Bytes
  | some packet, size, some m =>
    ((segmentReceived packet size m).1, some (segmentReceived packet size m).2)
  | packet, _, _ => (none, packet)

/-- The header carries the checksum that is taken of it. -/
def SegmentIntact (packet : Bytes) : Prop :=
  u16 packet 50 = segmentCheck (put packet 50 (le16 0))

instance (packet : Bytes) : Decidable (SegmentIntact packet) := inferInstanceAs (Decidable (_ = _))

/-- The length of the segment, of which the IP header knows. -/
def segmentLen (packet : Bytes) : Nat := ipLen packet - 20

/-- What the standard takes the checksum of. -/
def segment (packet : Bytes) : List UInt8 :=
  pseudo packet (UInt16.ofNat (segmentLen packet)) ++ slice packet 34 (segmentLen packet)

/-- What the checksum of the header leaves out: the length of the segment, and all behind the
header. -/
def uncovered (packet : Bytes) : List UInt8 :=
  le16 (htons (UInt16.ofNat (segmentLen packet))) ++
    slice packet (34 + (offset packet).toNat) (segmentLen packet - (offset packet).toNat)

/-- The lengths of a packet fit: all that the IP header counts was received, it has no options, and
the TCP header ends within the segment. -/
structure Consistent (packet : Bytes) (size : UInt16) : Prop where
  ihl : packet 14 &&& 0x0F = 5
  received : 14 + ipLen packet ≤ size.toNat
  header : 20 ≤ (offset packet).toNat
  inside : 20 + (offset packet).toNat ≤ ipLen packet

/-- A segment for the address whose checksums are both right. -/
structure Valid (packet : Bytes) (m : IfIpTcpMeta) : Prop where
  dest : u32 packet 30 = m.srcIp
  ip : SumsUp packet
  tcp : onesSum (segment packet) = 0xFFFF

/-- Where the address and the IP header are right, the two ways to judge the rest come to the same.
The word 0xFFFF is never taken for a checksum, so it has to come with a wrong one; with any other
word, what is left out has to sum up to the 20 that the pseudo header has instead, or neither sum is
right. -/
def ChecksAgree (packet : Bytes) (m : IfIpTcpMeta) : Prop :=
  u32 packet 30 = m.srcIp → SumsUp packet →
    if u16 packet 24 = 0xFFFF ∨ u16 packet 50 = 0xFFFF then onesSum (segment packet) ≠ 0xFFFF
    else (netWords (uncovered packet)).sum % 65535 = 20 ∨
      onesSum (buffer packet) ≠ 0xFFFF ∧ onesSum (segment packet) ≠ 0xFFFF

theorem length_pseudo (packet : Bytes) (tcpLength : UInt16) : (pseudo packet tcpLength).length = 12 := by
  simp [pseudo]

theorem length_buffer (packet : Bytes) :
    (buffer packet).length = 12 + (offset packet).toNat := by
  rw [buffer, List.length_append, length_pseudo, length_slice]

theorem toNat_offset (packet : Bytes) :
    (offset packet).toNat = 4 * ((flags packet).toNat / 4096) := by
  have bound := (flags packet).toNat_lt
  have high : ((flags packet >>> 12) &&& 0xF).toNat = (flags packet).toNat / 4096 := by
    have bits := Nat.and_two_pow_sub_one_eq_mod (flags packet >>> 12).toNat 4
    have value : (flags packet >>> 12).toNat = (flags packet).toNat / 4096 := by
      rw [UInt16.toNat_shiftRight, Nat.shiftRight_eq_div_pow]
      rfl
    rw [UInt16.toNat_and]
    rw [value] at bits ⊢
    exact bits.trans (Nat.mod_eq_of_lt (by omega))
  rw [offset, UInt16.toNat_toUInt8, UInt16.toNat_mul, high, show (4 : UInt16).toNat = 4 from rfl]
  omega

section Fields

variable (packet : Bytes) (v : UInt16)

/-- Neither checksum is part of the pseudo header or of the data offset. -/
theorem pseudo_put {o : Nat} (apart : o + 2 ≤ 26 ∨ 34 ≤ o) (tcpLength : UInt16) :
    pseudo (put packet o (le16 v)) tcpLength = pseudo packet tcpLength := by
  rw [pseudo, u32_put_of_disjoint _ _ _ _ (by simp; omega),
    u32_put_of_disjoint _ _ _ _ (by simp; omega), ← pseudo]

theorem offset_put {o : Nat} (apart : o + 2 ≤ 46 ∨ 48 ≤ o) :
    offset (put packet o (le16 v)) = offset packet := by
  rw [offset, flags, u16_put_of_disjoint _ _ _ _ (by simp; omega), ← flags, ← offset]

theorem segmentCheck_put_ip : segmentCheck (put packet 24 (le16 v)) = segmentCheck packet := by
  rw [segmentCheck, buffer, offset_put _ _ (by omega), pseudo_put _ _ (by omega),
    slice_put_of_disjoint _ _ _ _ _ (by simp), ← buffer, ← segmentCheck]

end Fields

theorem toNat_segmentCheck (packet : Bytes) :
    (segmentCheck packet).toNat = 65535 - fold 65536 (hostWords (buffer packet)).sum := by
  have short := (offset packet).toNat_lt
  have value := Sctp.toNat_tcpChecksum (put (fun _ => 0) 0 (buffer packet))
    (show 12 + (offset packet).toNat < 65536 by omega)
  rw [← length_buffer, slice_put_self, length_buffer] at value
  exact value

/-- What stands in front of the checksum in the buffer. -/
def beforeCheck (packet : Bytes) : List UInt8 := pseudo packet 20 ++ slice packet 34 16

/-- What stands behind it. -/
def afterCheck (packet : Bytes) : List UInt8 := slice packet 52 ((offset packet).toNat - 18)

theorem beforeCheck_put (packet : Bytes) (v : UInt16) :
    beforeCheck (put packet 50 (le16 v)) = beforeCheck packet := by
  rw [beforeCheck, pseudo_put _ _ (by omega), slice_put_of_disjoint _ _ _ _ _ (by omega),
    ← beforeCheck]

theorem afterCheck_put (packet : Bytes) (v : UInt16) :
    afterCheck (put packet 50 (le16 v)) = afterCheck packet := by
  rw [afterCheck, offset_put _ _ (by omega), slice_put_of_disjoint _ _ _ _ _ (by simp), ← afterCheck]

theorem length_beforeCheck (packet : Bytes) : (beforeCheck packet).length % 2 = 0 := by
  rw [beforeCheck, List.length_append, length_pseudo, length_slice]

section Header

variable {packet : Bytes} (header : 20 ≤ (offset packet).toNat)
include header

/-- The checksum is a word of the buffer. -/
theorem buffer_eq :
    buffer packet = beforeCheck packet ++ (le16 (u16 packet 50) ++ afterCheck packet) := by
  have parts : (offset packet).toNat = 16 + (2 + ((offset packet).toNat - 18)) := by omega
  rw [buffer, parts, slice_add, slice_add, ← List.append_assoc, ← beforeCheck, le16_u16, afterCheck]

theorem buffer_put (v : UInt16) :
    buffer (put packet 50 (le16 v)) = beforeCheck packet ++ (le16 v ++ afterCheck packet) := by
  have kept := offset_put packet v (o := 50) (by omega)
  rw [buffer_eq (by rw [kept]; exact header), beforeCheck_put, u16_put_self, afterCheck_put]

omit header in
/-- The protocol is in the sum. -/
theorem buffer_sum_pos (packet : Bytes) (v : UInt16) :
    0 < (hostWords (beforeCheck packet ++ (le16 v ++ afterCheck packet))).sum := by
  have protocol : 6 * 256 ≤ (hostWords (pseudo packet 20)).sum := by
    rw [pseudo, hostWords_append (by simp), hostWords_append (by simp), hostWords_append (by simp)]
    simp only [List.sum_append, hostWords, List.sum_cons, List.sum_nil]
    have six : (6 : UInt8).toNat = 6 := rfl
    omega
  rw [beforeCheck, List.append_assoc, hostWords_append (by simp [length_pseudo]), List.sum_append]
  omega

/-- A header is intact if the buffer with its checksum verifies, and the checksum is not the highest
word. -/
theorem segmentIntact_iff :
    SegmentIntact packet ↔ onesSum (buffer packet) = 0xFFFF ∧ u16 packet 50 ≠ 0xFFFF := by
  rw [SegmentIntact, ← UInt16.toNat_inj, toNat_segmentCheck, buffer_put header, buffer_eq header]
  exact field_eq_checksum_iff (length_beforeCheck packet) _ _ (buffer_sum_pos packet 0)

end Header

/-- What the receiver tests. -/
theorem isSome_segmentReceived (packet : Bytes) (size : UInt16) (m : IfIpTcpMeta) :
    (segmentReceived packet size m).1.isSome ↔
      50 < size.toNat ∧ m.srcIp = u32 packet 30 ∧ IpIntact packet ∧ SegmentIntact packet := by
  unfold segmentReceived
  dsimp only
  split
  next short => simp [short]
  next long =>
    have long : 50 < size.toNat := Nat.not_le.mp long
    split
    next other => simp [show m.srcIp ≠ u32 packet 30 from other]
    next own =>
      have own : m.srcIp = u32 packet 30 := not_not.mp own
      split
      next broken => simp [show ¬IpIntact packet from broken]
      next ip =>
        have ip : IpIntact packet := not_not.mp ip
        have stored : u16 (put packet 24 (le16 0)) 50 = u16 packet 50 :=
          u16_put_of_disjoint _ _ _ _ (by simp)
        -- the IP checksum is still cleared, but it is not looked at any more
        have swapped : put (put packet 24 (le16 0)) 50 (le16 0) =
            put (put packet 50 (le16 0)) 24 (le16 0) := put_comm packet (by simp)
        rw [u16_put_self, stored, swapped, segmentCheck_put_ip]
        split
        next broken => simp [show ¬SegmentIntact packet from broken]
        next intact =>
          have intact : SegmentIntact packet := not_not.mp intact
          refine iff_of_true ?_ ⟨long, own, ip, intact⟩
          split
          · rfl
          · split
            · rfl
            · rfl

theorem netWords_htons (v : UInt16) : netWords (le16 (htons v)) = [v.toNat] := by
  rw [netWords_le16, Sctp.toNat_htons]
  exact congrArg (fun n => [n]) (swap_swap v.toNat_lt)

theorem pseudo_sum (packet : Bytes) (tcpLength : UInt16) :
    (netWords (pseudo packet tcpLength)).sum =
      (netWords (pseudo packet 0)).sum + tcpLength.toNat := by
  have length (n : UInt16) : (netWords (pseudo packet n)).sum =
      (netWords (le32 (u32 packet 26) ++ (le32 (u32 packet 30) ++ [0, 6]))).sum + n.toNat := by
    rw [pseudo, ← List.append_assoc (le32 (u32 packet 30)), ← List.append_assoc,
      netWords_append (by simp), List.sum_append, netWords_htons, List.sum_singleton]
  rw [length, length, UInt16.toNat_zero, Nat.add_zero]

/-- What is left out makes the difference between the two sums. -/
theorem segment_sum (packet : Bytes) (inside : (offset packet).toNat ≤ segmentLen packet)
    (short : segmentLen packet < 65536) :
    (netWords (segment packet)).sum + 20 =
      (netWords (buffer packet)).sum + (netWords (uncovered packet)).sum := by
  have length : (UInt16.ofNat (segmentLen packet)).toNat = segmentLen packet :=
    UInt16.toNat_ofNat_of_lt' short
  have parts : slice packet 34 (segmentLen packet) = slice packet 34 (offset packet).toNat ++
      slice packet (34 + (offset packet).toNat) (segmentLen packet - (offset packet).toNat) := by
    rw [← slice_add, Nat.add_sub_cancel' inside]
  -- a header is made of whole words
  have even : (slice packet 34 (offset packet).toNat).length % 2 = 0 := by
    rw [length_slice, toNat_offset]
    omega
  rw [segment, buffer, uncovered, parts, netWords_append (by rw [length_pseudo]), netWords_append even,
    netWords_append (by rw [length_pseudo]), netWords_append (by simp), netWords_htons]
  simp only [List.sum_append, List.sum_singleton]
  rw [pseudo_sum, pseudo_sum packet 20, length, show (20 : UInt16).toNat = 20 from rfl]
  omega

theorem netWords_pseudo_pos (packet : Bytes) (tcpLength : UInt16) (rest : List UInt8) :
    0 < (netWords (pseudo packet tcpLength ++ rest)).sum := by
  have protocol : 6 ≤ (netWords (pseudo packet tcpLength)).sum := by
    rw [pseudo, netWords_append (by simp), netWords_append (by simp), netWords_append (by simp)]
    simp only [List.sum_append, netWords, List.sum_cons, List.sum_nil]
    have six : (6 : UInt8).toNat = 6 := rfl
    omega
  rw [netWords_append (by rw [length_pseudo]), List.sum_append]
  omega

/-- One judge refuses what bears the highest word in one of two places, the other one does not; else
they differ in what they sum up. -/
private theorem judged_iff {own sum highest highest' covered whole same : Prop}
    [Decidable (highest ∨ highest')]
    (differ : (covered ↔ whole) ↔ same ∨ ¬covered ∧ ¬whole) :
    (own ∧ (sum ∧ ¬highest) ∧ (covered ∧ ¬highest') ↔ own ∧ sum ∧ whole) ↔
      (own → sum → if highest ∨ highest' then ¬whole else same ∨ ¬covered ∧ ¬whole) := by
  by_cases here : own ∧ sum
  · obtain ⟨mine, ip⟩ := here
    by_cases refused : highest ∨ highest'
    · have never : ¬(own ∧ (sum ∧ ¬highest) ∧ (covered ∧ ¬highest')) := by
        rintro ⟨-, ⟨-, low⟩, -, low'⟩
        exact refused.elim low low'
      rw [if_pos refused]
      constructor
      · intro agree _ _ all
        exact never (agree.mpr ⟨mine, ip, all⟩)
      · intro broken
        exact ⟨fun passed => absurd passed never, fun passed => absurd passed.2.2 (broken mine ip)⟩
    · obtain ⟨low, low'⟩ := not_or.mp refused
      rw [if_neg refused, ← differ]
      constructor
      · intro agree _ _
        exact ⟨fun part => (agree.mp ⟨mine, ⟨ip, low⟩, part, low'⟩).2.2,
          fun all => (agree.mpr ⟨mine, ip, all⟩).2.2.1⟩
      · intro agree
        have sums := agree mine ip
        exact ⟨fun passed => ⟨mine, ip, sums.mp passed.2.2.1⟩,
          fun passed => ⟨mine, ⟨ip, low⟩, sums.mpr passed.2.2, low'⟩⟩
  · constructor
    · intro _ mine ip
      exact absurd ⟨mine, ip⟩ here
    · intro _
      exact ⟨fun passed => absurd ⟨passed.1, passed.2.1.1⟩ here,
        fun passed => absurd ⟨passed.1, passed.2.1⟩ here⟩

/-- The receiver accepts exactly the valid segments exactly where the checks agree; so it does for
every bare header whose checksums are not 0xFFFF. -/
theorem segment_accepted_iff_valid_iff (packet : Bytes) (size : UInt16) (m : IfIpTcpMeta)
    (consistent : Consistent packet size) :
    (((ifIpTcp (some packet) size (some m)).1.isSome ↔ Valid packet m) ↔ ChecksAgree packet m) ∧
    (ipLen packet = 40 → u16 packet 24 ≠ 0xFFFF → u16 packet 50 ≠ 0xFFFF →
      ChecksAgree packet m) := by
  have received := consistent.received
  have header := consistent.header
  have inside := consistent.inside
  have bound : ipLen packet < 65536 := (ntohs (u16 packet 16)).toNat_lt
  have length : segmentLen packet = ipLen packet - 20 := rfl
  have sums := segment_sum packet (by omega) (by omega)
  constructor
  · have accepted : (ifIpTcp (some packet) size (some m)).1.isSome ↔
        u32 packet 30 = m.srcIp ∧ (SumsUp packet ∧ u16 packet 24 ≠ 0xFFFF) ∧
          (onesSum (buffer packet) = 0xFFFF ∧ u16 packet 50 ≠ 0xFFFF) := by
      rw [← Sctp.ipIntact_iff_sumsUp consistent.ihl, ← segmentIntact_iff header,
        eq_comm (a := u32 packet 30)]
      exact (isSome_segmentReceived packet size m).trans (and_iff_right (by omega))
    have valid : Valid packet m ↔
        u32 packet 30 = m.srcIp ∧ SumsUp packet ∧ onesSum (segment packet) = 0xFFFF :=
      ⟨fun valid => ⟨valid.dest, valid.ip, valid.tcp⟩, fun valid => ⟨valid.1, valid.2.1, valid.2.2⟩⟩
    have whole : onesSum (segment packet) = 0xFFFF ↔ (netWords (segment packet)).sum % 65535 = 0 :=
      (onesSum_eq_top_iff_mod _).trans (and_iff_right (netWords_pseudo_pos _ _ _))
    have covered : onesSum (buffer packet) = 0xFFFF ↔ (netWords (buffer packet)).sum % 65535 = 0 :=
      (onesSum_eq_top_iff_mod _).trans (and_iff_right (netWords_pseudo_pos _ _ _))
    have differ : (onesSum (buffer packet) = 0xFFFF ↔ onesSum (segment packet) = 0xFFFF) ↔
        (netWords (uncovered packet)).sum % 65535 = 20 ∨
          onesSum (buffer packet) ≠ 0xFFFF ∧ onesSum (segment packet) ≠ 0xFFFF := by
      rw [Ne, Ne, whole, covered]
      omega
    rw [accepted, valid, ChecksAgree]
    exact judged_iff differ
  · intro bare other other' own sum
    rw [if_neg (not_or.mpr ⟨other, other'⟩)]
    left
    -- the header is all there is
    have none : segmentLen packet - (offset packet).toNat = 0 := by omega
    have twenty : segmentLen packet = 20 := by omega
    rw [uncovered, none, twenty, netWords_append (by simp), netWords_htons]
    rfl

/-- A SYN from 192.168.1.2 to 192.168.1.3, with these bytes of the length, the checksums and the data
offset, and these options. -/
def synSegment (len ipCheck : List UInt8) (dataOffset : UInt8) (check options : List UInt8) : Bytes :=
  put (fun _ => 0) 14 ([69, 0] ++ len ++ [0, 0, 0, 0, 64, 6] ++ ipCheck ++
    [192, 168, 1, 2, 192, 168, 1, 3, 15, 160, 0, 80, 0, 0, 0, 1, 0, 0, 0, 0, dataOffset, 2, 255, 255] ++
    check ++ [0, 0] ++ options)

/-- Without options. -/
def synBare : Bytes := synSegment [0, 40] [247, 122] 80 [28, 156] []

/-- With a maximum segment size of 1460. -/
def synMss : Bytes := synSegment [0, 44] [247, 118] 96 [4, 224] [2, 4, 5, 180]

/-- The receiver it is for. -/
def listening : IfIpTcpMeta := ⟨0x0301A8C0, 0, 0, 0⟩

theorem segment_accepted_iff_valid_iff_bare :
    Valid synBare listening ∧ (ifIpTcp (some synBare) 54 (some listening)).1.isSome := by
  have consistent : Consistent synBare 54 := ⟨by decide, by decide, by decide, by decide⟩
  obtain ⟨agree, bare⟩ := segment_accepted_iff_valid_iff synBare 54 listening consistent
  have valid : Valid synBare listening := by
    refine ⟨by decide, ?_, by decide +kernel⟩
    unfold SumsUp
    decide +kernel
  exact ⟨valid, (agree.mpr (bare (by decide) (by decide) (by decide))).mpr valid⟩

/-- A SYN with an option and with both checksums right is refused. -/
theorem valid_syn_refused :
    Consistent synMss 58 ∧ Valid synMss listening ∧
    ¬(ifIpTcp (some synMss) 58 (some listening)).1.isSome := by
  refine ⟨⟨by decide, by decide, by decide, by decide⟩, ⟨by decide, ?_, ?_⟩, ?_⟩
  · unfold SumsUp
    decide +kernel
  · decide +kernel
  · have other : ¬SegmentIntact synMss := by
      rw [segmentIntact_iff (by decide)]
      decide +kernel
    intro accepted
    exact other ((isSome_segmentReceived synMss 58 listening).mp accepted).2.2.2

end Kpnet.Tcp
