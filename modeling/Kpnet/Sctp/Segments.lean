import Kpnet.Lib.Runs
import Kpnet.Sctp.Setup

/-!
# The segments of a frame

`sctp_prepare_packet.c` queues the header block, `build_prefilled_mac_ip_sctp_init_hdr.c` a chunk
behind it and `eth_send_sctp.c` transmits what is queued, as often as it is called. The length of the
frame is counted in one place and its segments in another. The two come apart where a full queue
takes no more segments; and the cursor that says where a chunk is written is moved by none of the
three, so a second chunk is written over the first.
-/
namespace Kpnet.Sctp

open Bytes Runs

/-- A segment: an offset into the packet area, and a length. -/
structure Segment where
  offset : UInt64
  len : UInt32
  deriving DecidableEq, Repr

def Segment.Covers (seg : Segment) (byte : Nat) : Prop :=
  seg.offset.toNat ≤ byte ∧ byte < seg.offset.toNat + seg.len.toNat

def Segment.Apart (a b : Segment) : Prop := ∀ byte, ¬(a.Covers byte ∧ b.Covers byte)

theorem Segment.apart_iff (a b : Segment) :
    a.Apart b ↔ a.offset.toNat + a.len.toNat ≤ b.offset.toNat ∨
      b.offset.toNat + b.len.toNat ≤ a.offset.toNat ∨ a.len.toNat = 0 ∨ b.len.toNat = 0 := by
  simp only [Apart, Covers]
  constructor
  · -- of two segments that overlap, the one that starts later starts within the other
    intro apart
    have first := apart a.offset.toNat
    have second := apart b.offset.toNat
    omega
  · intro apart byte both
    omega

instance (a b : Segment) : Decidable (a.Apart b) := decidable_of_iff' _ (a.apart_iff b)

/-- The segments that are queued. -/
def SctpAssociation.segments (assoc : SctpAssociation) : List Segment :=
  (List.range assoc.xdpSegCount.toNat).map fun i => ⟨assoc.xdpSegs i, assoc.xdpSegLens i⟩

/-- The bytes of all segments. -/
def totalLen (segments : List Segment) : Nat := (segments.map fun seg => seg.len.toNat).sum

/-- An association and the packet area it sends from. -/
structure Outbound where
  assoc : SctpAssociation
  env : KpnetEnv

/-- Where the next chunk goes. -/
def Outbound.chunk (s : Outbound) : Segment := ⟨s.assoc.umemHdrsCursor - s.env.umemBase, 20⟩

/-- The calls, with the readings of the ring indices that a transmission makes. The cursor may be
moved between them, as `create_client` does. -/
inductive SegmentCall where
  | prepare
  | buildInit (host : Host) (readings : List (UInt32 × UInt32))
  | ethSend (readings : List (UInt32 × UInt32))
  | moveCursor (cursor : UInt64)

/-- What goes to the ring, and the length that the IP header gives there. -/
structure Transmission where
  segments : List Segment
  ipLen : UInt16

/-- The length is read from the header block. -/
def Outbound.transmission (s : Outbound) : Transmission :=
  { segments := s.assoc.segments
    ipLen := ntohs (u16 s.env.umem (s.assoc.prefilledUmemPacket + 16 - s.env.umemBase).toNat) }

/-- One call; a transmission that is never taken ends the run. -/
def segmentAct (s : Outbound) : SegmentCall → Option (Outbound × List Transmission)
  | .prepare => some ({ s with assoc := sctpPreparePacket s.env.umemBase s.assoc }, [])
  | .buildInit host readings =>
    match buildPrefilledMacIpSctpInitHdr host readings s.assoc s.env with
    | none => none
    | some (_, assoc, env) => some (⟨assoc, env⟩, [Outbound.transmission ⟨assoc, env⟩])
  | .ethSend readings =>
    match ethSendSctp readings s.assoc s.env with
    | none => none
    | some (_, env) => some ({ s with env := env }, [Outbound.transmission { s with env := env }])
  | .moveCursor cursor => some ({ s with assoc := { s.assoc with umemHdrsCursor := cursor } }, [])

/-- A transmission of 1 to 16 segments that do not overlap, with all of their bytes counted behind
the MAC header. -/
structure Transmission.Whole (t : Transmission) : Prop where
  nonempty : 1 ≤ t.segments.length
  few : t.segments.length ≤ 16
  len : t.ipLen.toNat + 14 = totalLen t.segments
  apart : t.segments.Pairwise Segment.Apart

/-- What a call that builds a chunk needs: a free entry, and room of its own for the chunk. -/
def MayBuild (s : Outbound) : SegmentCall → Prop
  | .buildInit _ _ => s.assoc.xdpSegCount < 16 ∧ ∀ seg ∈ s.assoc.segments, seg.Apart s.chunk
  | _ => True

instance (s : Outbound) (call : SegmentCall) : Decidable (MayBuild s call) :=
  match call with
  | .buildInit _ _ => inferInstanceAs (Decidable (_ ∧ _))
  | .prepare => inferInstanceAs (Decidable True)
  | .ethSend _ => inferInstanceAs (Decidable True)
  | .moveCursor _ => inferInstanceAs (Decidable True)

/-- Without anyone to move the cursor, only the header block may be queued. -/
def FirstChunk (s : Outbound) : SegmentCall → Prop
  | .buildInit _ _ => s.assoc.xdpSegCount = 1 ∧ ∀ seg ∈ s.assoc.segments, seg.Apart s.chunk
  | _ => True

@[simp] theorem totalLen_append (front back : List Segment) :
    totalLen (front ++ back) = totalLen front + totalLen back := by
  simp [totalLen]

/-- The association after a chunk was built. -/
def Outbound.built (s : Outbound) : SctpAssociation :=
  sctpPushToXdpSegs s.env.umemBase 20 { s.assoc with remainPlen := s.assoc.remainPlen - 20 }

/-- The length that `eth_send_sctp` writes. -/
def SctpAssociation.sentLen (assoc : SctpAssociation) : UInt16 :=
  (assoc.mtu - assoc.remainPlen + 20 + 12).toUInt16

section Steps

variable {assoc : SctpAssociation} {env env' : KpnetEnv} {umemBase : UInt64}

/-- A packet starts with the header block. -/
theorem segments_prepare (umemBase : UInt64) (assoc : SctpAssociation) :
    (sctpPreparePacket umemBase assoc).segments =
      [⟨assoc.prefilledUmemPacket - umemBase, assoc.prefilledUmemPacketLen⟩] := by
  simp [SctpAssociation.segments, sctpPreparePacket]

/-- A segment is put behind the others. -/
theorem segments_push (umemBase : UInt64) (len : UInt32) (room : assoc.xdpSegCount < 16) :
    (sctpPushToXdpSegs umemBase len assoc).segments =
      assoc.segments ++ [⟨assoc.umemHdrsCursor - umemBase, len⟩] := by
  have small : assoc.xdpSegCount.toNat < 16 := UInt32.lt_iff_toNat_lt.mp room
  have count : (assoc.xdpSegCount + 1).toNat = assoc.xdpSegCount.toNat + 1 := by
    rw [UInt32.toNat_add, UInt32.toNat_one]
    omega
  rw [sctpPushToXdpSegs, if_neg (UInt32.not_le.mpr room), SctpAssociation.segments]
  dsimp only
  rw [count, List.range_succ, List.map_append, List.map_singleton, Function.update_self,
    Function.update_self]
  congr 1
  refine List.map_congr_left fun i member => ?_
  have inside := List.mem_range.mp member
  rw [Function.update_of_ne (by omega), Function.update_of_ne (by omega)]

/-- A transmission writes the length. -/
theorem ethSendSctp_transmits {readings : List (UInt32 × UInt32)} {frame : List UInt8}
    (sent : ethSendSctp readings assoc env = some (frame, env')) :
    env'.umemBase = env.umemBase ∧
      Outbound.transmission ⟨assoc, env'⟩ = ⟨assoc.segments, assoc.sentLen⟩ := by
  simp only [ethSendSctp] at sent
  split at sent
  · cases sent
    refine ⟨rfl, ?_⟩
    simp only [Outbound.transmission, KpnetEnv.write]
    rw [u16_put_self, ntohs_htons]
    rfl
  · cases sent

/-- So does a call that builds a chunk, at its end. -/
theorem buildInit_transmits {s : Outbound} {host : Host} {readings : List (UInt32 × UInt32)}
    {frame : List UInt8}
    (built : buildPrefilledMacIpSctpInitHdr host readings s.assoc s.env = some (frame, assoc, env')) :
    assoc = s.built ∧ env'.umemBase = s.env.umemBase ∧
      Outbound.transmission ⟨assoc, env'⟩ = ⟨assoc.segments, assoc.sentLen⟩ := by
  simp only [buildPrefilledMacIpSctpInitHdr] at built
  split at built
  · cases built
  next frame' env'' sent =>
    obtain ⟨base, transmits⟩ := ethSendSctp_transmits sent
    cases built
    exact ⟨rfl, base, transmits⟩

/-- The fields of a packet do not change when a segment is queued. -/
theorem sctpPushToXdpSegs_fields (umemBase : UInt64) (len : UInt32) (assoc : SctpAssociation) :
    (sctpPushToXdpSegs umemBase len assoc).mtu = assoc.mtu ∧
    (sctpPushToXdpSegs umemBase len assoc).remainPlen = assoc.remainPlen ∧
    (sctpPushToXdpSegs umemBase len assoc).prefilledUmemPacketLen = assoc.prefilledUmemPacketLen ∧
    (sctpPushToXdpSegs umemBase len assoc).umemHdrsCursor = assoc.umemHdrsCursor := by
  unfold sctpPushToXdpSegs
  split
  · exact ⟨rfl, rfl, rfl, rfl⟩
  · exact ⟨rfl, rfl, rfl, rfl⟩

end Steps

theorem segments_built {s : Outbound} (room : s.assoc.xdpSegCount < 16) :
    s.built.segments = s.assoc.segments ++ [s.chunk] :=
  segments_push s.env.umemBase 20 room

/-- A full queue takes nothing. -/
theorem segments_built_full {s : Outbound} (full : ¬s.assoc.xdpSegCount < 16) :
    s.built.segments = s.assoc.segments := by
  rw [Outbound.built, sctpPushToXdpSegs, if_pos (UInt32.not_lt.mp full)]
  rfl

/-- But the chunk is counted in any case. -/
theorem plen_built (s : Outbound) :
    s.built.mtu - s.built.remainPlen = s.assoc.mtu - s.assoc.remainPlen + 20 := by
  obtain ⟨mtu, remain, -, -⟩ := sctpPushToXdpSegs_fields s.env.umemBase 20
    { s.assoc with remainPlen := s.assoc.remainPlen - 20 }
  have minus (a b : UInt32) : a - (b - 20) = a - b + 20 := by
    rw [UInt32.sub_eq_add_neg, UInt32.neg_sub, UInt32.sub_eq_add_neg, UInt32.add_comm 20,
      ← UInt32.add_assoc, ← UInt32.sub_eq_add_neg]
  rw [Outbound.built, mtu, remain]
  exact minus s.assoc.mtu s.assoc.remainPlen

theorem toNat_sentLen {assoc : SctpAssociation} {m : Nat}
    (plen : assoc.mtu - assoc.remainPlen = UInt32.ofNat m) (small : m + 32 < 65536) :
    assoc.sentLen.toNat = m + 32 := by
  have sum : UInt32.ofNat m + 20 + 12 = UInt32.ofNat (m + 32) := by
    rw [UInt32.ofNat_add, UInt32.add_assoc]
    rfl
  rw [SctpAssociation.sentLen, plen, sum, UInt32.toNat_toUInt16, UInt32.toNat_ofNat']
  omega

/-- What a call can do. -/
theorem segmentAct_cases {s s' : Outbound} {call : SegmentCall} {ev : List Transmission}
    (called : segmentAct s call = some (s', ev)) :
    (call = .prepare ∧ s' = ⟨sctpPreparePacket s.env.umemBase s.assoc, s.env⟩ ∧ ev = []) ∨
    (∃ host readings env, call = .buildInit host readings ∧ s' = ⟨s.built, env⟩ ∧
      env.umemBase = s.env.umemBase ∧ ev = [⟨s.built.segments, s.built.sentLen⟩]) ∨
    (∃ readings env, call = .ethSend readings ∧ s' = ⟨s.assoc, env⟩ ∧
      env.umemBase = s.env.umemBase ∧ ev = [⟨s.assoc.segments, s.assoc.sentLen⟩]) ∨
    (∃ cursor, call = .moveCursor cursor ∧
      s' = ⟨{ s.assoc with umemHdrsCursor := cursor }, s.env⟩ ∧ ev = []) := by
  cases call with
  | prepare =>
    cases called
    exact .inl ⟨rfl, rfl, rfl⟩
  | buildInit host readings =>
    simp only [segmentAct] at called
    split at called
    · cases called
    next frame assoc env built =>
      obtain ⟨rfl, base, transmits⟩ := buildInit_transmits built
      cases called
      exact .inr (.inl ⟨host, readings, env, rfl, rfl, base, by rw [transmits]⟩)
  | ethSend readings =>
    simp only [segmentAct] at called
    split at called
    · cases called
    next frame env sent =>
      obtain ⟨base, transmits⟩ := ethSendSctp_transmits sent
      cases called
      exact .inr (.inr (.inl ⟨readings, env, rfl, rfl, base, by rw [transmits]⟩))
  | moveCursor cursor =>
    cases called
    exact .inr (.inr (.inr ⟨cursor, rfl, rfl, rfl⟩))

/-- The header block and `n` chunks are queued and counted. -/
structure SegmentsQueued (assoc : SctpAssociation) (n : Nat) : Prop where
  block : assoc.prefilledUmemPacketLen = 46
  count : assoc.xdpSegCount.toNat = n + 1
  few : n ≤ 15
  total : totalLen assoc.segments = 46 + 20 * n
  plen : assoc.mtu - assoc.remainPlen = UInt32.ofNat (20 * n)
  apart : assoc.segments.Pairwise Segment.Apart

namespace SegmentsQueued

variable {s : Outbound} {assoc : SctpAssociation} {n : Nat}

theorem prepare (umemBase : UInt64) (block : assoc.prefilledUmemPacketLen = 46) :
    SegmentsQueued (sctpPreparePacket umemBase assoc) 0 := by
  refine ⟨block, rfl, Nat.zero_le _, ?_, ?_, ?_⟩
  · rw [segments_prepare, block]
    rfl
  · simp [sctpPreparePacket]
  · rw [segments_prepare]
    exact List.pairwise_singleton _ _

/-- What is queued and counted is transmitted with the right length. -/
theorem whole (queued : SegmentsQueued assoc n) :
    Transmission.Whole ⟨assoc.segments, assoc.sentLen⟩ := by
  have few := queued.few
  have length : assoc.segments.length = n + 1 := by
    rw [SctpAssociation.segments, List.length_map, List.length_range, queued.count]
  constructor
  case nonempty => rw [length]; omega
  case few => rw [length]; omega
  case len =>
    rw [queued.total, toNat_sentLen queued.plen (by omega)]
    omega
  case apart => exact queued.apart

/-- A chunk with room of its own is queued and counted. -/
theorem build (queued : SegmentsQueued s.assoc n) (room : s.assoc.xdpSegCount < 16)
    (apart : ∀ seg ∈ s.assoc.segments, seg.Apart s.chunk) : SegmentsQueued s.built (n + 1) := by
  have few : s.assoc.xdpSegCount.toNat < 16 := UInt32.lt_iff_toNat_lt.mp room
  have count := queued.count
  have length := congrArg List.length (segments_built room)
  simp only [SctpAssociation.segments, List.length_map, List.length_range, List.length_append,
    List.length_singleton] at length
  obtain ⟨-, -, block, -⟩ := sctpPushToXdpSegs_fields s.env.umemBase 20
    { s.assoc with remainPlen := s.assoc.remainPlen - 20 }
  refine ⟨block.trans queued.block, by omega, by omega, ?_, ?_, ?_⟩
  · rw [segments_built room, totalLen_append, queued.total]
    rfl
  · rw [plen_built, queued.plen, Nat.mul_add, UInt32.ofNat_add]
    rfl
  · rw [segments_built room, List.pairwise_append]
    refine ⟨queued.apart, List.pairwise_singleton _ _, ?_⟩
    intro seg member chunk single
    rw [List.mem_singleton.mp single]
    exact apart seg member

/-- Without it the transmission is not right: the chunk overlaps another one, or is counted and not
queued. -/
theorem whole_built_iff (queued : SegmentsQueued s.assoc n) :
    Transmission.Whole ⟨s.built.segments, s.built.sentLen⟩ ↔
      s.assoc.xdpSegCount < 16 ∧ ∀ seg ∈ s.assoc.segments, seg.Apart s.chunk := by
  constructor
  · intro whole
    by_cases room : s.assoc.xdpSegCount < 16
    · refine ⟨room, ?_⟩
      intro seg member
      have apart := whole.apart
      rw [segments_built room, List.pairwise_append] at apart
      exact apart.2.2 seg member s.chunk List.mem_cons_self
    · -- 20 bytes more are counted than queued
      exfalso
      have full : 16 ≤ s.assoc.xdpSegCount.toNat :=
        UInt32.le_iff_toNat_le.mp (UInt32.not_lt.mp room)
      have count := queued.count
      have few := queued.few
      have plen : s.built.mtu - s.built.remainPlen = UInt32.ofNat (20 * n + 20) := by
        rw [plen_built, queued.plen, UInt32.ofNat_add]
        rfl
      have len := whole.len
      rw [segments_built_full room, queued.total, toNat_sentLen plen (by omega)] at len
      omega
  · rintro ⟨room, apart⟩
    exact (queued.build room apart).whole

theorem moveCursor (queued : SegmentsQueued assoc n) (cursor : UInt64) :
    SegmentsQueued { assoc with umemHdrsCursor := cursor } n :=
  ⟨queued.block, queued.count, queued.few, queued.total, queued.plen, queued.apart⟩

end SegmentsQueued

/-- One call, from a queue that is right. -/
theorem segmentAct_step {s s' : Outbound} {call : SegmentCall} {ev : List Transmission}
    (queued : ∃ n, SegmentsQueued s.assoc n) (called : segmentAct s call = some (s', ev)) :
    (MayBuild s call → ∃ n, SegmentsQueued s'.assoc n) ∧
      ((∀ t ∈ ev, t.Whole) ↔ MayBuild s call) := by
  obtain ⟨n, queued⟩ := queued
  rcases segmentAct_cases called with ⟨rfl, rfl, rfl⟩ | ⟨host, readings, env, rfl, rfl, -, rfl⟩ |
    ⟨readings, env, rfl, rfl, -, rfl⟩ | ⟨cursor, rfl, rfl, rfl⟩
  · exact ⟨fun _ => ⟨0, .prepare _ queued.block⟩, iff_of_true (by simp) trivial⟩
  · refine ⟨fun ⟨room, apart⟩ => ⟨n + 1, queued.build room apart⟩, ?_⟩
    rw [List.forall_mem_singleton]
    exact queued.whole_built_iff
  · refine ⟨fun _ => ⟨n, queued⟩, iff_of_true ?_ trivial⟩
    rw [List.forall_mem_singleton]
    exact queued.whole
  · exact ⟨fun _ => ⟨n, queued.moveCursor cursor⟩, iff_of_true (by simp) trivial⟩

/-- Behind the header block there are only chunks at the cursor. -/
def AtCursor (s : Outbound) : Prop :=
  ∃ block chunks, s.assoc.segments = block :: chunks ∧ ∀ seg ∈ chunks, seg = s.chunk

namespace AtCursor

variable {s s' : Outbound} {call : SegmentCall} {ev : List Transmission}

/-- Nobody but the caller moves the cursor. -/
theorem act (ready : AtCursor s) (fixed : ∀ cursor, call ≠ .moveCursor cursor)
    (called : segmentAct s call = some (s', ev)) : AtCursor s' := by
  obtain ⟨block, chunks, queue, same⟩ := ready
  rcases segmentAct_cases called with ⟨rfl, rfl, rfl⟩ | ⟨host, readings, env, rfl, rfl, base, rfl⟩ |
    ⟨readings, env, rfl, rfl, base, rfl⟩ | ⟨cursor, rfl, rfl, rfl⟩
  · exact ⟨_, [], segments_prepare _ _, by simp⟩
  · -- a chunk is put at the cursor, or nowhere
    obtain ⟨-, -, -, cursor⟩ := sctpPushToXdpSegs_fields s.env.umemBase 20
      { s.assoc with remainPlen := s.assoc.remainPlen - 20 }
    have stays : (⟨s.built, env⟩ : Outbound).chunk = s.chunk := by
      rw [Outbound.chunk, base]
      exact congrArg (fun c => (⟨c - s.env.umemBase, 20⟩ : Segment)) cursor
    by_cases room : s.assoc.xdpSegCount < 16
    · refine ⟨block, chunks ++ [s.chunk], by rw [segments_built room, queue, List.cons_append], ?_⟩
      intro seg member
      rw [stays]
      rcases List.mem_append.mp member with old | new
      · exact same seg old
      · exact List.mem_singleton.mp new
    · refine ⟨block, chunks, by rw [segments_built_full room, queue], ?_⟩
      intro seg member
      rw [stays]
      exact same seg member
  · refine ⟨block, chunks, queue, ?_⟩
    intro seg member
    rw [same seg member, Outbound.chunk, Outbound.chunk, base]
  · exact absurd rfl (fixed cursor)

/-- A chunk where another one is covers the same bytes. -/
theorem mayBuild_iff (ready : AtCursor s) (call : SegmentCall) :
    MayBuild s call ↔ FirstChunk s call := by
  cases call with
  | prepare => exact Iff.rfl
  | ethSend readings => exact Iff.rfl
  | moveCursor cursor => exact Iff.rfl
  | buildInit host readings =>
    obtain ⟨block, chunks, queue, same⟩ := ready
    have length : (block :: chunks).length = s.assoc.xdpSegCount.toNat := by
      rw [← queue, SctpAssociation.segments, List.length_map, List.length_range]
    refine and_congr_left fun apart => ?_
    have single : chunks = [] := by
      rw [List.eq_nil_iff_forall_not_mem]
      intro seg member
      have covered := apart seg (by rw [queue]; exact List.mem_cons_of_mem _ member)
      rw [same seg member] at covered
      have start : s.chunk.Covers s.chunk.offset.toNat := by
        refine ⟨Nat.le_refl _, ?_⟩
        exact Nat.lt_add_of_pos_right (show 0 < (20 : UInt32).toNat by decide)
      exact covered _ ⟨start, start⟩
    rw [single, List.length_singleton] at length
    have one : s.assoc.xdpSegCount = 1 := UInt32.toNat_inj.mp length.symm
    rw [one]
    decide

end AtCursor

/-- The whole run, from the packet that is prepared first. -/
theorem along_mayBuild_iff {s after : Outbound} {calls : List SegmentCall} {log : List Transmission}
    (block : s.assoc.prefilledUmemPacketLen = 46)
    (ran : run segmentAct s (.prepare :: calls) = some (after, log)) :
    (∀ t ∈ log, t.Whole) ↔ Along segmentAct MayBuild s (.prepare :: calls) := by
  -- whatever was queued before, the first call leaves the header block alone
  obtain ⟨mid, ev, rest, stepped, remains, rfl⟩ := run_cons_eq_some ran
  cases stepped
  have judged := forall_log_iff_along segmentAct MayBuild (fun s => ∃ n, SegmentsQueued s.assoc n)
    Transmission.Whole (fun _ _ _ _ queued allowed called => (segmentAct_step queued called).1 allowed)
    (fun _ _ _ _ queued called => (segmentAct_step queued called).2) calls _ after rest
    ⟨0, .prepare s.env.umemBase block⟩ remains
  rw [List.nil_append, judged]
  simp [Along, segmentAct, MayBuild]

/-- Every transmission of a run is right exactly if every chunk is built with a free entry and room
of its own. As long as the cursor is not moved, that is one chunk for every time a packet is prepared,
apart from the header block. -/
theorem transmissions_whole_iff (s after : Outbound) (calls : List SegmentCall)
    (log : List Transmission) (block : s.assoc.prefilledUmemPacketLen = 46)
    (ran : run segmentAct s (.prepare :: calls) = some (after, log)) :
    ((∀ t ∈ log, t.Whole) ↔ Along segmentAct MayBuild s (.prepare :: calls)) ∧
    ((∀ cursor, .moveCursor cursor ∉ calls) →
      ((∀ t ∈ log, t.Whole) ↔ Along segmentAct FirstChunk s (.prepare :: calls))) := by
  have judged := along_mayBuild_iff block ran
  refine ⟨judged, ?_⟩
  intro fixed
  have same : Along segmentAct MayBuild ⟨sctpPreparePacket s.env.umemBase s.assoc, s.env⟩ calls ↔
      Along segmentAct FirstChunk ⟨sctpPreparePacket s.env.umemBase s.assoc, s.env⟩ calls := by
    refine along_congr segmentAct MayBuild FirstChunk AtCursor calls _
      ⟨_, [], segments_prepare _ _, by simp⟩ ?_ ?_
    · intro call member s s' ev ready called
      exact ready.act (fun cursor same => fixed cursor (same ▸ member)) called
    · intro call _ s ready
      exact ready.mayBuild_iff call
  rw [judged]
  simpa [Along, segmentAct, MayBuild, FirstChunk] using same

/-- A client with its header block at 66 and the cursor at 128. -/
def outboundClient : Outbound :=
  { assoc := { createdClient.assoc with umemHdrsCursor := 128 }
    env :=
      { stateAlloc := ⟨0, ⟨fun _ => 0, 0, 0⟩, 192, 4096⟩
        umemBase := 0
        umem := fun _ => 0 } }

/-- What its calls get: two draws, and a transmit ring with room. -/
def roomyBuild : SegmentCall := .buildInit ⟨1, 2, 3, fun _ => none⟩ [(0, 0)]

theorem transmissions_whole_iff_once :
    ∃ after log, run segmentAct outboundClient [.prepare, roomyBuild, .ethSend [(2, 0)]] =
        some (after, log) ∧
      ∀ t ∈ log, t.Whole := by
  have returns : (run segmentAct outboundClient [.prepare, roomyBuild, .ethSend [(2, 0)]]).isSome =
      true := by
    decide +kernel
  obtain ⟨⟨after, log⟩, ran⟩ := Option.isSome_iff_exists.mp returns
  refine ⟨after, log, ran, ?_⟩
  rw [(transmissions_whole_iff outboundClient after [roomyBuild, .ethSend [(2, 0)]] log rfl ran).1]
  decide +kernel

/-- A second chunk is written over the first, which is still queued. -/
theorem transmissions_not_whole_twice :
    ∃ after log, run segmentAct outboundClient [.prepare, roomyBuild, roomyBuild] =
        some (after, log) ∧
      ¬∀ t ∈ log, t.Whole := by
  have returns : (run segmentAct outboundClient [.prepare, roomyBuild, roomyBuild]).isSome = true := by
    decide +kernel
  obtain ⟨⟨after, log⟩, ran⟩ := Option.isSome_iff_exists.mp returns
  refine ⟨after, log, ran, ?_⟩
  rw [along_mayBuild_iff (show outboundClient.assoc.prefilledUmemPacketLen = 46 from rfl) ran]
  decide +kernel

end Kpnet.Sctp
