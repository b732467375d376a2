import Kpnet.Sctp.Builders
import Kpnet.Sctp.Setup

/-!
# DATA chunks

`sctp_build_data_hdr.c`, which fills packet after packet with chunks of the streams, and
`build_prefilled_mac_ip_sctp_data_hdr.c`, which makes a frame of each chunk or of two. Both
number their chunks from `assoc->tsn`, which is kept in network order.
-/
namespace Kpnet.Sctp

open Bytes
open Kpnet.Ring (RingQueue)

/-- `SCTP_EBIT` and `SCTP_BBIT`, the last and the first chunk of a message. -/
def sctpEbit : UInt8 := 1

def sctpBbit : UInt8 := 2

def sctpUnfragmented : UInt8 := sctpBbit ||| sctpEbit

/-- `sctp_fld_hdr_t` and `sctp_data_hdr_t` of a DATA chunk, as they are laid out. -/
structure DataHdr where
  flags : UInt8
  len : UInt16
  tsn : UInt32
  so : UInt16
  sn : UInt16
  protoDef : UInt32
  deriving DecidableEq, Repr

/-- `SCTP_DATA` is 0. -/
def DataHdr.encode (hdr : DataHdr) : List UInt8 :=
  [0, hdr.flags] ++ le16 hdr.len ++ le32 hdr.tsn ++ le16 hdr.so ++ le16 hdr.sn ++ le32 hdr.protoDef

@[simp] theorem length_encode_dataHdr (hdr : DataHdr) : hdr.encode.length = 16 := by
  simp [DataHdr.encode]

/-- A chunk that was built: its header, the stream it belongs to, and the bytes copied behind
the header, with the place in the stream they were copied from. -/
structure DataChunk where
  hdr : DataHdr
  streamId : UInt16
  source : Nat × UInt32
  payload : List UInt8
  deriving DecidableEq, Repr

/-- `sctp_chunk_slot_t`. A pointer into a stream is the block of the stream and an offset. -/
structure SctpChunkSlot where
  inUse : UInt8
  acked : UInt8
  tsn : UInt32
  streamId : UInt32
  retryCount : UInt16
  sentAt : UInt64
  buffer : Option (Nat × UInt32)
  len : UInt32
  deriving DecidableEq, Repr

/-- An association that sends data: with the packet under construction (`cursor` is an offset
in it), the retransmission table, the ring of frames to bundle with, and the buffer of every
stream by the block of its thread. -/
structure Sender extends Endpoint where
  bundling : Option (RingQueue Nat)
  currentPacket : Option Nat
  cursor : Nat
  rtx : Nat → SctpChunkSlot
  buffers : Nat → Bytes

/-- What the builders leave behind: a chunk, or a packet given to the transmit ring with its
bytes and length, taken or not. -/
inductive DataEvent where
  | wrote (chunk : DataChunk)
  | pushed (frame : Option Bytes) (plen : UInt64) (taken : Bool)

/-- `assoc->os_threads[stream_id]`. -/
def SctpAssociation.osThread (assoc : SctpAssociation) (streamId : UInt16) :
    Option (Nat × SctpThread) :=
  match assoc.osThreads with
  | none => none
  | some threads => threads[streamId.toNat]?

/-- A store to the thread in a block, which both tables may point to. -/
def SctpAssociation.setThread (assoc : SctpAssociation) (block : Nat) (thread : SctpThread) :
    SctpAssociation :=
  let store := List.map fun entry => if entry.1 = block then (block, thread) else entry
  { assoc with
    osThreads := assoc.osThreads.map store
    misThreads := assoc.misThreads.map store }

/-- The macro `MIN`, on 32-bit and on 64-bit values. -/
def min32 (a b : UInt32) : UInt32 := if a < b then a else b

def min64 (a b : UInt64) : UInt64 := if a < b then a else b

/-- The flags of a chunk that may take `pplen` bytes. -/
def dataFlags (thread : SctpThread) (pplen : UInt32) : UInt8 :=
  if thread.posHigh - thread.posLow ≤ pplen then thread.flags ||| sctpUnfragmented
  else if thread.posLow = thread.posCurrent then thread.flags ||| sctpBbit
  else if thread.posCurrent + min32 pplen (thread.posHigh - thread.posCurrent) = thread.posHigh then
    thread.flags ||| sctpEbit
  else thread.flags

/-- A push to the transmit ring, with whether it took the packet. -/
def pushTx (tx : RingQueue Nat) (frames : Nat → Bytes) (packet : Option Nat) (plen : UInt64) :
    RingQueue Nat × DataEvent :=
  ((tx.push packet plen).2,
    .pushed (packet.map frames) plen (decide (tx.contents.length < tx.capacity)))

/-- The code at `flush`: the packet is queued and the next one is begun. `none` is a null pointer
followed, also that of the cell if there is none left. -/
def Sender.flush (s : Sender) : Option (Sender × List DataEvent) :=
  match s.txRing, s.prefilledRing with
  | some tx, some ring =>
    let plen := (s.assoc.mtu - s.assoc.remainPlen).toUInt64 + 46
    let (tx, event) := pushTx tx s.frames s.currentPacket plen
    match ring.pop with
    | (none, _) => none
    | (some (packet, _), ring) =>
      some ({ s with
        assoc := { s.assoc with remainPlen := s.assoc.mtu }
        txRing := some tx
        prefilledRing := some ring
        currentPacket := packet
        cursor := 46 }, [event])
  | _, _ => none

/-- `MIN (assoc->remain_plen - sizeof (hdr), thread->pos_high - thread->pos_current)`, of which
the first is computed in 64 bits and the second in 32. -/
def chunkRoom (remainPlen : UInt32) (thread : SctpThread) : UInt32 :=
  (min64 (remainPlen.toUInt64 - 16) (thread.posHigh - thread.posCurrent).toUInt64).toUInt32

/-- `if (pplen == 0) goto flush;`. A cell is popped in every round, so the rounds are bounded by
the cells there are. -/
def flushWhileFull (thread : SctpThread) : Nat → Sender → Option (Sender × List DataEvent)
  | 0, _ => none
  | rounds + 1, s =>
    if chunkRoom s.assoc.remainPlen thread = 0 then
      match s.flush with
      | none => none
      | some (s, ev) =>
        match flushWhileFull thread rounds s with
        | none => none
        | some (s, ev') => some (s, ev ++ ev')
    else some (s, [])

/-- The cells of the prefilled ring. -/
def Endpoint.cells (e : Endpoint) : Nat :=
  match e.prefilledRing with
  | none => 0
  | some ring => ring.contents.length

def alignUp4 (pplen : UInt32) : UInt32 := (pplen + 3) &&& ~~~3

/-- `pplen` and `alligned_plen`, after the payload has been trimmed to a multiple of 4 where its
padding does not fit. -/
def trimmedLen (remainPlen pplen : UInt32) : UInt32 × UInt32 :=
  if remainPlen.toUInt64 - 16 < (alignUp4 pplen).toUInt64 then (pplen &&& ~~~3, pplen &&& ~~~3)
  else (pplen, alignUp4 pplen)

/-- The chunk that the next call builds from this thread in this much room. -/
def Sender.nextChunk (s : Sender) (streamId : UInt16) (block : Nat) (thread : SctpThread)
    (pplen : UInt32) : DataChunk :=
  { hdr :=
      { flags := dataFlags thread pplen
        len := htons pplen.toUInt16
        tsn := s.assoc.tsn
        so := htons streamId
        sn := thread.ssn
        protoDef := thread.proto }
    streamId := streamId
    source := (block, thread.posCurrent)
    payload := slice (s.buffers block) thread.posCurrent.toNat pplen.toNat }

/-- The slot filled for a chunk, when `assoc->tsn` has already been advanced to `tsn`. -/
def SctpChunkSlot.record (slot : SctpChunkSlot) (tsn : UInt32) (chunk : DataChunk) (len : UInt32) :
    SctpChunkSlot :=
  { slot with
    inUse := 1
    acked := 0
    tsn := ntohl tsn
    streamId := chunk.streamId.toUInt32
    retryCount := 0
    buffer := some chunk.source
    len := len }

/-- The fields of the association that a chunk changes, beside its thread. -/
def SctpAssociation.advance (assoc : SctpAssociation) (tsn remainPlen : UInt32) : SctpAssociation :=
  { assoc with tsn := tsn, remainPlen := remainPlen }

/-- The fields of the sender that a chunk changes. -/
def Sender.store (s : Sender) (assoc : SctpAssociation) (frames : Nat → Bytes) (cursor : Nat)
    (rtx : Nat → SctpChunkSlot) : Sender :=
  { s with assoc := assoc, frames := frames, cursor := cursor, rtx := rtx }

/-- The rest of `sctp_build_data_hdr`, once there is room: the chunk is written into `packet`, and
the cursors, the TSN and the slot of the new TSN are brought up to date. -/
def Sender.putChunk (s : Sender) (packet : Nat) (streamId : UInt16) (block : Nat)
    (thread : SctpThread) : Sender × DataChunk :=
  let lens := trimmedLen s.assoc.remainPlen (chunkRoom s.assoc.remainPlen thread)
  let pplen := lens.1
  let aligned := lens.2
  let chunk := s.nextChunk streamId block thread pplen
  let tsn := s.assoc.tsn + htonl 1
  let frame := put (s.frames packet) s.cursor (chunk.hdr.encode ++ chunk.payload ++
    List.replicate (aligned - pplen).toNat 0)
  let frame := put frame 38 (le32 s.assoc.verTag)
  let slot := (ntohl tsn &&& 1023).toNat
  let assoc := s.assoc.setThread block
    { thread with posCurrent := thread.posCurrent + (pplen - 16) }
  (s.store (assoc.advance tsn (s.assoc.remainPlen - aligned)) (Function.update s.frames packet frame)
    (s.cursor + aligned.toNat)
    (Function.update s.rtx slot ((s.rtx slot).record tsn chunk pplen)), chunk)

/-- `sctp_build_data_hdr`; its result, always 0, is left out. -/
def sctpBuildDataHdr (s : Sender) (streamId : UInt16) : Option (Sender × List DataEvent) :=
  match s.currentPacket with
  | none => some (s, [])
  | some _ =>
    match (if s.assoc.remainPlen < 20 then s.flush else some (s, [])) with
    | none => none
    | some (s, ev) =>
      match s.assoc.osThread streamId with
      | none => none
      | some (block, thread) =>
        match flushWhileFull thread (s.cells + 1) s with
        | none => none
        | some (s, ev') =>
          match s.currentPacket with
          -- the cell held no packet, and the chunk goes to an address near `NULL`
          | none => none
          | some packet =>
            let built := s.putChunk packet streamId block thread
            some (built.1, ev ++ ev' ++ [.wrote built.2])

/-- `while (sum >> 16) sum = (sum & 0xFFFF) + (sum >> 16);` -/
def foldCarries (sum : UInt32) : UInt32 :=
  if sum >>> 16 = 0 then sum else foldCarries ((sum &&& (0xFFFF : UInt32)) + (sum >>> 16))
termination_by sum.toNat
decreasing_by
  next carries =>
    have positive : sum.toNat / 65536 ≠ 0 := by
      rw [← toNat_shiftRight_sixteen]
      intro none
      exact carries (UInt32.toNat_inj.mp none)
    rw [toNat_carry]
    omega

/-- `tcp_checksum`. -/
def tcpChecksum (data : Bytes) (nbytes : Nat) : UInt16 :=
  let sum := (List.range (nbytes / 2)).foldl (fun sum i => sum + (u16 data (2 * i)).toUInt32) 0
  let sum := if nbytes % 2 = 1 then sum + (data (nbytes - 1)).toUInt32 else sum
  ~~~(foldCarries sum).toUInt16

/-- The frame `build_prefilled_mac_ip_sctp_data_hdr` works on: one waiting to be bundled, else a
template. -/
def Sender.takeFrame (s : Sender) : Option (Bool × Option Nat × UInt64 × Sender) :=
  match s.bundling with
  | none => none
  | some bundling =>
    match bundling.pop with
    | (some (packet, cellPlen), bundling) =>
      some (true, packet, cellPlen, { s with bundling := some bundling })
    | (none, bundling) =>
      match s.prefilledRing with
      | none => none
      | some ring =>
        match ring.pop with
        | (none, _) => none
        | (some (packet, cellPlen), ring) =>
          some (false, packet, cellPlen,
            { s with bundling := some bundling, prefilledRing := some ring })

/-- `MAX_PACKET_LEN` less the headers and 16 bytes. -/
def maxPayload : UInt32 := 1516 - (14 + 20 + 12 + 16 + 16)

/-- The chunk it builds of what is left of the stream. -/
def Sender.prefilledChunk (s : Sender) (streamId : UInt16) (block : Nat) (thread : SctpThread) :
    DataChunk :=
  let taken := min32 maxPayload (thread.posHigh - thread.posCurrent)
  { hdr :=
      { flags := dataFlags thread maxPayload
        len := htons (16 + taken).toUInt16
        tsn := s.assoc.tsn
        so := htons streamId
        sn := thread.ssn
        protoDef := thread.proto }
    streamId := streamId
    source := (block, thread.posCurrent)
    payload := slice (s.buffers block) thread.posCurrent.toNat taken.toNat }

/-- The frame it makes of one that is `plen` bytes long, and the new length. Behind a chunk that
is already there, room is left for its padding. -/
def dataFrame (frame : Bytes) (plen : UInt32) (bundled : Bool) (verTag : UInt32)
    (chunk : DataChunk) : Bytes × UInt32 :=
  let bundlePlen := if bundled then (ntohs (u16 frame 48)).toUInt32 else 0
  let bundlePad := (0 - bundlePlen) &&& 3
  let behind := (bundlePlen + bundlePad).toNat
  let taken := UInt32.ofNat chunk.payload.length
  let pad := if plen < 1500 then (0 - (16 + taken)) &&& 3 else 0
  let frame := if plen < 1500 ∧ bundled = false
    then put frame (46 + 16 + taken.toNat) (List.replicate pad.toNat 0) else frame
  let frame := put frame (46 + behind) chunk.hdr.encode
  let frame := put frame (46 + 16 + behind) chunk.payload
  let frame := put frame 24 (le16 0)
  let frame := put frame 24 (le16 (tcpChecksum (shift frame 14) 20))
  let frame := put frame 38 (le32 verTag)
  let frame := put frame 42 (le32 0)
  let length := 12 + (ntohs chunk.hdr.len).toUInt32 + pad + (bundlePlen + bundlePad)
  let crc := ~~~(generateCrc32cOnCrc32c (shift frame 34) length 0xFFFFFFFF).toUInt32
  (put frame 42 (le32 crc), plen + pad + (16 + taken))

/-- Where the finished frame goes: one with room left waits for a second chunk, any other is
transmitted. -/
def Sender.queueFrame (s : Sender) (packet : Nat) (plen : UInt32) (bundled : Bool) :
    Option (Sender × List DataEvent) :=
  if plen < 1500 ∧ bundled = false then
    match s.bundling with
    | none => none
    | some bundling =>
      some ({ s with bundling := some (bundling.push (some packet) plen.toUInt64).2 }, [])
  else
    match s.txRing with
    | none => none
    | some tx =>
      let (tx, event) := pushTx tx s.frames (some packet) plen.toUInt64
      some ({ s with txRing := some tx }, [event])

/-- `build_prefilled_mac_ip_sctp_data_hdr`, for a stream whose thread is there; its result is
then 0. -/
def buildPrefilledMacIpSctpDataHdr (s : Sender) (streamId : UInt16) :
    Option (Sender × List DataEvent) :=
  match s.assoc.osThread streamId with
  | none => none
  | some (block, thread) =>
    let chunk := s.prefilledChunk streamId block thread
    match s.takeFrame with
    | none => none
    | some (_, none, _, _) => none
    | some (bundled, some packet, cellPlen, s) =>
      let (frame, plen) := dataFrame (s.frames packet) cellPlen.toUInt32 bundled s.assoc.verTag chunk
      let assoc := s.assoc.setThread block
        { thread with posCurrent :=
            thread.posCurrent + min32 maxPayload (thread.posHigh - thread.posCurrent) }
      let s := s.store (assoc.advance (s.assoc.tsn + htonl 1) s.assoc.remainPlen)
        (Function.update s.frames packet frame) s.cursor s.rtx
      match s.queueFrame packet plen bundled with
      | none => none
      | some (s, ev) =>
        match s.prefilledRing with
        | none => none
        | some ring =>
          some ({ s with prefilledRing := some (ring.push (some packet) cellPlen).2 },
            .wrote chunk :: ev)

/-- A call of one of the two builders. -/
inductive DataCall where
  | build (streamId : UInt16)
  | buildPrefilled (streamId : UInt16)
  deriving DecidableEq, Repr

def sendData (s : Sender) : DataCall → Option (Sender × List DataEvent)
  | .build streamId => sctpBuildDataHdr s streamId
  | .buildPrefilled streamId => buildPrefilledMacIpSctpDataHdr s streamId

/-- The chunks among what was left behind, in order. -/
def chunks (log : List DataEvent) : List DataChunk :=
  log.filterMap fun
    | .wrote chunk => some chunk
    | .pushed _ _ _ => none

@[simp] theorem chunks_append (log ev : List DataEvent) : chunks (log ++ ev) = chunks log ++ chunks ev :=
  List.filterMap_append

@[simp] theorem chunks_wrote (chunk : DataChunk) (log : List DataEvent) :
    chunks (.wrote chunk :: log) = chunk :: chunks log := rfl

@[simp] theorem chunks_pushed (frame : Option Bytes) (plen : UInt64) (taken : Bool)
    (log : List DataEvent) : chunks (.pushed frame plen taken :: log) = chunks log := rfl

@[simp] theorem chunks_nil : chunks [] = [] := rfl

/-- All that a flush that comes back can have done. -/
theorem Sender.flush_cases {s after : Sender} {ev : List DataEvent}
    (flushed : s.flush = some (after, ev)) :
    ∃ tx tx' ring packet, s.txRing = some tx ∧
      after = { s with
        assoc := { s.assoc with remainPlen := s.assoc.mtu }
        txRing := some tx'
        prefilledRing := some ring
        currentPacket := packet
        cursor := 46 } ∧
      ev = [.pushed (s.currentPacket.map s.frames)
        ((s.assoc.mtu - s.assoc.remainPlen).toUInt64 + 46)
        (decide (tx.contents.length < tx.capacity))] := by
  unfold flush at flushed
  split at flushed
  next tx ring queue present =>
    dsimp only [pushTx] at flushed
    split at flushed
    · cases flushed
    next packet cellPlen rest popped =>
      cases flushed
      exact ⟨tx, _, rest, packet, queue, rfl, rfl⟩
  · cases flushed

theorem toNat_min64 (a b : UInt64) : (min64 a b).toNat = min a.toNat b.toNat := by
  unfold min64
  split
  next less => exact (min_eq_left (Nat.le_of_lt (UInt64.lt_iff_toNat_lt.mp less))).symm
  next notLess => exact (min_eq_right (Nat.le_of_not_lt fun less => notLess (UInt64.lt_iff_toNat_lt.mpr less))).symm

theorem toNat_min32 (a b : UInt32) : (min32 a b).toNat = min a.toNat b.toNat := by
  unfold min32
  split
  next less => exact (min_eq_left (Nat.le_of_lt (UInt32.lt_iff_toNat_lt.mp less))).symm
  next notLess =>
    exact (min_eq_right (Nat.le_of_not_lt fun less => notLess (UInt32.lt_iff_toNat_lt.mpr less))).symm

/-- The room for a chunk behind its header, if the packet has any. -/
theorem toNat_chunkRoom (remainPlen : UInt32) (thread : SctpThread) (room : 16 ≤ remainPlen.toNat) :
    (chunkRoom remainPlen thread).toNat =
      min (remainPlen.toNat - 16) (thread.posHigh - thread.posCurrent).toNat := by
  have behind : (remainPlen.toUInt64 - 16).toNat = remainPlen.toNat - 16 := by
    rw [UInt64.toNat_sub_of_le _ _ (UInt64.le_iff_toNat_le.mpr (by simpa using room)),
      UInt32.toNat_toUInt64]
    rfl
  have small := (thread.posHigh - thread.posCurrent).toNat_lt
  rw [chunkRoom, UInt64.toNat_toUInt32, toNat_min64, behind, UInt32.toNat_toUInt64,
    Nat.mod_eq_of_lt (by omega)]

/-- With nothing left of the stream there is never any room, however often it is made. -/
theorem chunkRoom_of_exhausted {thread : SctpThread}
    (exhausted : thread.posHigh - thread.posCurrent = 0) (remainPlen : UInt32) :
    chunkRoom remainPlen thread = 0 := by
  apply UInt32.toNat_inj.mp
  rw [chunkRoom, exhausted, UInt64.toNat_toUInt32, toNat_min64]
  simp

/-- In a packet that is not full it is the stream that leaves no room. -/
theorem exhausted_of_chunkRoom {remainPlen : UInt32} {thread : SctpThread}
    (room : ¬remainPlen < 20) (full : chunkRoom remainPlen thread = 0) :
    thread.posHigh - thread.posCurrent = 0 := by
  have enough : 20 ≤ remainPlen.toNat :=
    Nat.le_of_not_lt fun less => room (UInt32.lt_iff_toNat_lt.mpr less)
  have none := toNat_chunkRoom remainPlen thread (by omega)
  rw [full] at none
  apply UInt32.toNat_inj.mp
  have zero : (0 : UInt32).toNat = 0 := rfl
  omega

/-- A new packet that has no room either makes the call go on to the end of the templates. -/
theorem flushWhileFull_stuck {thread : SctpThread} {s : Sender}
    (full : chunkRoom s.assoc.remainPlen thread = 0) (always : chunkRoom s.assoc.mtu thread = 0)
    (rounds : Nat) : flushWhileFull thread rounds s = none := by
  induction rounds generalizing s with
  | zero => rfl
  | succ rounds ih =>
    rw [flushWhileFull, if_pos full]
    split
    · rfl
    next next ev flushed =>
      -- the next packet is as long as any, and has no room either
      obtain ⟨tx, tx', ring, packet, -, changed, -⟩ := Sender.flush_cases flushed
      have remain : next.assoc.remainPlen = s.assoc.mtu := by rw [changed]
      have mtu : next.assoc.mtu = s.assoc.mtu := by rw [changed]
      rw [ih (by rw [remain, always]) (by rw [mtu, always])]

/-- A call that returns found room at once. -/
theorem flushWhileFull_returns {thread : SctpThread} {s after : Sender} {rounds : Nat}
    {ev : List DataEvent} (fresh : s.assoc.remainPlen < 20 → s.assoc.remainPlen = s.assoc.mtu)
    (returned : flushWhileFull thread rounds s = some (after, ev)) :
    chunkRoom s.assoc.remainPlen thread ≠ 0 ∧ after = s ∧ ev = [] := by
  by_cases full : chunkRoom s.assoc.remainPlen thread = 0
  · -- a full packet would have been changed before, so it is the stream that is at its end
    have always : chunkRoom s.assoc.mtu thread = 0 := by
      by_cases short : s.assoc.remainPlen < 20
      · rw [← fresh short]
        exact full
      · exact chunkRoom_of_exhausted (exhausted_of_chunkRoom short full) _
    rw [flushWhileFull_stuck full always] at returned
    cases returned
  · cases rounds with
    | zero => cases returned
    | succ rounds =>
      rw [flushWhileFull, if_neg full] at returned
      cases returned
      exact ⟨full, rfl, rfl⟩

/-- The sender a chunk is written by: the packet is changed first if it has no room for one. -/
def Sender.Prepared (s mid : Sender) (ev : List DataEvent) : Prop :=
  (s.assoc.remainPlen < 20 ∧ s.flush = some (mid, ev)) ∨
  (¬s.assoc.remainPlen < 20 ∧ mid = s ∧ ev = [])

/-- All that a call of `sctp_build_data_hdr` that returns can have done. -/
theorem sctpBuildDataHdr_cases {s after : Sender} {streamId : UInt16} {ev : List DataEvent}
    (returned : sctpBuildDataHdr s streamId = some (after, ev)) :
    (s.currentPacket = none ∧ after = s ∧ ev = []) ∨
    (s.currentPacket ≠ none ∧ ∃ mid flushed block thread packet,
      s.Prepared mid flushed ∧ mid.assoc.osThread streamId = some (block, thread) ∧
      mid.currentPacket = some packet ∧ chunkRoom mid.assoc.remainPlen thread ≠ 0 ∧
      after = (mid.putChunk packet streamId block thread).1 ∧
      ev = flushed ++ [.wrote (mid.putChunk packet streamId block thread).2]) := by
  unfold sctpBuildDataHdr at returned
  split at returned
  next absent =>
    cases returned
    exact .inl ⟨absent, rfl, rfl⟩
  next current =>
    refine .inr ⟨by rw [current]; exact Option.some_ne_none _, ?_⟩
    split at returned
    · cases returned
    next mid flushed prepared =>
      split at returned
      · cases returned
      next block thread stream =>
        split at returned
        · cases returned
        next ready more room =>
          have ready_of : s.Prepared mid flushed := by
            split at prepared
            next short => exact .inl ⟨short, prepared⟩
            next long =>
              cases prepared
              exact .inr ⟨long, rfl, rfl⟩
          -- only a packet that has just been begun can be shorter than a chunk
          have fresh : mid.assoc.remainPlen < 20 → mid.assoc.remainPlen = mid.assoc.mtu := by
            rcases ready_of with ⟨-, flush⟩ | ⟨long, rfl, -⟩
            · obtain ⟨tx, tx', ring, packet, -, changed, -⟩ := Sender.flush_cases flush
              intro _
              rw [changed]
            · exact fun short => absurd short long
          obtain ⟨nonzero, rfl, rfl⟩ := flushWhileFull_returns fresh room
          split at returned
          · cases returned
          next packet target =>
            simp only [Option.some.injEq, Prod.mk.injEq, List.append_nil] at returned
            exact ⟨_, _, block, thread, packet, ready_of, stream, target, nonzero,
              returned.1.symm, returned.2.symm⟩

/-- The lower multiple of 4. -/
theorem toNat_and_not_three (v : UInt32) : (v &&& ~~~3).toNat = v.toNat / 4 * 4 := by
  have bound := v.toNat_lt
  -- the two low bits are cleared, the others kept
  have low : (v &&& ~~~3).toNat % 2 ^ 2 = 0 := by
    rw [UInt32.toNat_and, Nat.and_mod_two_pow]
    exact Nat.and_zero _
  have high : (v &&& ~~~3).toNat / 2 ^ 2 = v.toNat / 2 ^ 2 := by
    rw [UInt32.toNat_and, ← Nat.shiftRight_eq_div_pow, Nat.shiftRight_and_distrib,
      Nat.shiftRight_eq_div_pow]
    have mask : (~~~3 : UInt32).toNat >>> 2 = 2 ^ 30 - 1 := by decide
    rw [mask, Nat.and_two_pow_sub_one_eq_mod, Nat.mod_eq_of_lt (by omega)]
  omega

/-- In a packet with room the payload keeps at least a byte, and with its padding fits. -/
theorem trimmedLen_bounds {remainPlen room : UInt32} (enough : 20 ≤ remainPlen.toNat)
    (positive : 0 < room.toNat) (fits : room.toNat ≤ remainPlen.toNat - 16) :
    0 < (trimmedLen remainPlen room).1.toNat ∧
    (trimmedLen remainPlen room).1.toNat ≤ (trimmedLen remainPlen room).2.toNat ∧
    4 ≤ (trimmedLen remainPlen room).2.toNat ∧
    (trimmedLen remainPlen room).2.toNat ≤ remainPlen.toNat - 16 := by
  have bound := remainPlen.toNat_lt
  have behind : (remainPlen.toUInt64 - 16).toNat = remainPlen.toNat - 16 := by
    rw [UInt64.toNat_sub_of_le _ _ (UInt64.le_iff_toNat_le.mpr (by simpa using (by omega))),
      UInt32.toNat_toUInt64]
    rfl
  have aligned : (alignUp4 room).toNat = (room.toNat + 3) / 4 * 4 := by
    have three : (3 : UInt32).toNat = 3 := rfl
    rw [alignUp4, toNat_and_not_three, UInt32.toNat_add, three, Nat.mod_eq_of_lt (by omega)]
  unfold trimmedLen
  split
  next tight =>
    -- the padding does not fit, and at least 4 bytes are left without it
    rw [UInt64.lt_iff_toNat_lt, behind, UInt32.toNat_toUInt64, aligned] at tight
    dsimp only
    rw [toNat_and_not_three]
    omega
  next fitting =>
    rw [UInt64.lt_iff_toNat_lt, behind, UInt32.toNat_toUInt64, aligned] at fitting
    dsimp only
    rw [aligned]
    omega

section Store

variable (s : Sender) (assoc : SctpAssociation) (frames : Nat → Bytes) (cursor : Nat)
  (rtx : Nat → SctpChunkSlot) (block : Nat) (thread : SctpThread) (tsn remainPlen : UInt32)

@[simp] theorem store_assoc : (s.store assoc frames cursor rtx).assoc = assoc := rfl

@[simp] theorem store_currentPacket :
    (s.store assoc frames cursor rtx).currentPacket = s.currentPacket := rfl

@[simp] theorem store_frames : (s.store assoc frames cursor rtx).frames = frames := rfl

@[simp] theorem store_txRing : (s.store assoc frames cursor rtx).txRing = s.txRing := rfl

@[simp] theorem store_prefilledRing :
    (s.store assoc frames cursor rtx).prefilledRing = s.prefilledRing := rfl

@[simp] theorem store_bundling : (s.store assoc frames cursor rtx).bundling = s.bundling := rfl

@[simp] theorem store_buffers : (s.store assoc frames cursor rtx).buffers = s.buffers := rfl

@[simp] theorem advance_tsn : (assoc.advance tsn remainPlen).tsn = tsn := rfl

@[simp] theorem advance_remainPlen : (assoc.advance tsn remainPlen).remainPlen = remainPlen := rfl

@[simp] theorem advance_mtu : (assoc.advance tsn remainPlen).mtu = assoc.mtu := rfl

@[simp] theorem advance_osThread (streamId : UInt16) :
    (assoc.advance tsn remainPlen).osThread streamId = assoc.osThread streamId := rfl

@[simp] theorem setThread_mtu : (assoc.setThread block thread).mtu = assoc.mtu := rfl

/-- The thread just stored is the one found in its block. -/
theorem osThread_setThread {streamId : UInt16} {old : SctpThread}
    (found : assoc.osThread streamId = some (block, old)) :
    (assoc.setThread block thread).osThread streamId = some (block, thread) := by
  unfold SctpAssociation.osThread at found
  split at found
  · cases found
  next threads present =>
    simp [SctpAssociation.osThread, SctpAssociation.setThread, present, found]

end Store

section PutChunk

variable (s : Sender) (packet : Nat) (streamId : UInt16) (block : Nat) (thread : SctpThread)

/-- The length of the payload that the next chunk gets. -/
def Sender.pplen : UInt32 :=
  (trimmedLen s.assoc.remainPlen (chunkRoom s.assoc.remainPlen thread)).1

theorem putChunk_chunk : (s.putChunk packet streamId block thread).2 =
    s.nextChunk streamId block thread (s.pplen thread) := rfl

/-- The length it takes up in the packet. -/
def Sender.alignedLen : UInt32 :=
  (trimmedLen s.assoc.remainPlen (chunkRoom s.assoc.remainPlen thread)).2

theorem putChunk_assoc : (s.putChunk packet streamId block thread).1.assoc =
    (s.assoc.setThread block
      { thread with posCurrent := thread.posCurrent + (s.pplen thread - 16) }).advance
        (s.assoc.tsn + htonl 1) (s.assoc.remainPlen - s.alignedLen thread) := rfl

@[simp] theorem putChunk_tsn :
    (s.putChunk packet streamId block thread).1.assoc.tsn = s.assoc.tsn + htonl 1 := by
  rw [putChunk_assoc, advance_tsn]

/-- The thread of the chunk, with its new position. -/
theorem osThread_putChunk (stream : s.assoc.osThread streamId = some (block, thread)) :
    (s.putChunk packet streamId block thread).1.assoc.osThread streamId =
      some (block, { thread with posCurrent := thread.posCurrent + (s.pplen thread - 16) }) := by
  rw [putChunk_assoc, advance_osThread]
  exact osThread_setThread s.assoc block _ stream

/-- All slots but one are left alone. -/
theorem putChunk_rtx_of_ne {i : Nat} (other : i ≠ (ntohl (s.assoc.tsn + htonl 1) &&& 1023).toNat) :
    (s.putChunk packet streamId block thread).1.rtx i = s.rtx i :=
  Function.update_of_ne other _ _

@[simp] theorem putChunk_currentPacket :
    (s.putChunk packet streamId block thread).1.currentPacket = s.currentPacket :=
  store_currentPacket _ _ _ _ _

@[simp] theorem putChunk_cursor : (s.putChunk packet streamId block thread).1.cursor =
    s.cursor + (s.alignedLen thread).toNat := rfl

/-- The frame with the chunk in it. -/
theorem putChunk_frame : (s.putChunk packet streamId block thread).1.frames packet =
    put (put (s.frames packet) s.cursor
      ((s.nextChunk streamId block thread (s.pplen thread)).hdr.encode ++
        (s.nextChunk streamId block thread (s.pplen thread)).payload ++
        List.replicate (s.alignedLen thread - s.pplen thread).toNat 0))
      38 (le32 s.assoc.verTag) :=
  Function.update_self packet _ s.frames

/-- The lengths of a chunk in a packet with room. -/
theorem pplen_bounds {thread : SctpThread} (enough : 20 ≤ s.assoc.remainPlen.toNat)
    (room : chunkRoom s.assoc.remainPlen thread ≠ 0) :
    0 < (s.pplen thread).toNat ∧ (s.pplen thread).toNat ≤ (s.alignedLen thread).toNat ∧
    4 ≤ (s.alignedLen thread).toNat ∧
    (s.alignedLen thread).toNat ≤ s.assoc.remainPlen.toNat - 16 := by
  have value := toNat_chunkRoom s.assoc.remainPlen thread (by omega)
  have positive : (chunkRoom s.assoc.remainPlen thread).toNat ≠ 0 := fun zero =>
    room (UInt32.toNat_inj.mp zero)
  exact trimmedLen_bounds enough (by omega) (by omega)

end PutChunk

/-- All that taking a frame can have done. -/
theorem takeFrame_cases {s after : Sender} {bundled : Bool} {packet : Option Nat} {cellPlen : UInt64}
    (took : s.takeFrame = some (bundled, packet, cellPlen, after)) :
    ∃ bundling waiting, s.bundling = some bundling ∧
      ((bundled = true ∧ bundling.pop = (some (packet, cellPlen), waiting) ∧
          after = { s with bundling := some waiting }) ∨
        (bundled = false ∧ bundling.pop = (none, waiting) ∧
          ∃ ring rest, s.prefilledRing = some ring ∧ ring.pop = (some (packet, cellPlen), rest) ∧
            after = { s with bundling := some waiting, prefilledRing := some rest })) := by
  unfold Sender.takeFrame at took
  split at took
  · cases took
  next bundling present =>
    refine ⟨bundling, bundling.pop.2, present, ?_⟩
    split at took
    next packet cellPlen waiting popped =>
      cases took
      rw [popped]
      exact .inl ⟨rfl, rfl, rfl⟩
    next waiting drained =>
      rw [drained]
      split at took
      · cases took
      next ring filled =>
        split at took
        · cases took
        next packet cellPlen rest popped =>
          cases took
          exact .inr ⟨rfl, rfl, ring, rest, filled, popped, rfl⟩

/-- To take a frame off a ring changes the ring only. -/
theorem takeFrame_keeps {s after : Sender} {bundled : Bool} {packet : Option Nat} {cellPlen : UInt64}
    (took : s.takeFrame = some (bundled, packet, cellPlen, after)) :
    after.assoc = s.assoc ∧ after.currentPacket = s.currentPacket ∧ after.buffers = s.buffers ∧
      after.txRing = s.txRing ∧ after.bundling.isSome = true := by
  obtain ⟨bundling, waiting, -, ⟨-, -, rfl⟩ | ⟨-, -, ring, rest, -, -, rfl⟩⟩ := takeFrame_cases took
  · exact ⟨rfl, rfl, rfl, rfl, rfl⟩
  · exact ⟨rfl, rfl, rfl, rfl, rfl⟩

/-- All that queueing a frame can have done. -/
theorem queueFrame_cases {s after : Sender} {packet : Nat} {plen : UInt32} {bundled : Bool}
    {ev : List DataEvent} (queued : s.queueFrame packet plen bundled = some (after, ev)) :
    ((plen < 1500 ∧ bundled = false) ∧ ∃ bundling, s.bundling = some bundling ∧ ev = [] ∧
        after = { s with bundling := some (bundling.push (some packet) plen.toUInt64).2 }) ∨
      (¬(plen < 1500 ∧ bundled = false) ∧ ∃ tx, s.txRing = some tx ∧
        ev = [(pushTx tx s.frames (some packet) plen.toUInt64).2] ∧
        after = { s with txRing := some (tx.push (some packet) plen.toUInt64).2 }) := by
  unfold Sender.queueFrame at queued
  split at queued
  next waits =>
    split at queued
    · cases queued
    next bundling present =>
      cases queued
      exact .inl ⟨waits, bundling, present, rfl, rfl⟩
  next leaves =>
    split at queued
    · cases queued
    next tx present =>
      cases queued
      exact .inr ⟨leaves, tx, present, rfl, rfl⟩

theorem queueFrame_keeps {s after : Sender} {packet : Nat} {plen : UInt32} {bundled : Bool}
    {ev : List DataEvent} (queued : s.queueFrame packet plen bundled = some (after, ev)) :
    after.assoc = s.assoc ∧ after.currentPacket = s.currentPacket ∧ after.buffers = s.buffers ∧
      chunks ev = [] ∧ (s.bundling.isSome = true → after.bundling.isSome = true) ∧
      (s.txRing.isSome = true → after.txRing.isSome = true) := by
  obtain ⟨-, bundling, -, rfl, rfl⟩ | ⟨-, tx, -, rfl, rfl⟩ := queueFrame_cases queued
  · exact ⟨rfl, rfl, rfl, rfl, fun _ => rfl, id⟩
  · exact ⟨rfl, rfl, rfl, rfl, id, fun _ => rfl⟩

/-- The parts of a call of `build_prefilled_mac_ip_sctp_data_hdr` that returns. -/
theorem buildPrefilledMacIpSctpDataHdr_steps {s after : Sender} {streamId : UInt16}
    {ev : List DataEvent} (returned : buildPrefilledMacIpSctpDataHdr s streamId = some (after, ev)) :
    ∃ block thread bundled packet cellPlen mid frame plen queued ev' ring,
      s.assoc.osThread streamId = some (block, thread) ∧
      s.takeFrame = some (bundled, some packet, cellPlen, mid) ∧
      dataFrame (mid.frames packet) cellPlen.toUInt32 bundled mid.assoc.verTag
        (s.prefilledChunk streamId block thread) = (frame, plen) ∧
      (mid.store ((mid.assoc.setThread block
            { thread with posCurrent :=
                thread.posCurrent + min32 maxPayload (thread.posHigh - thread.posCurrent) }).advance
          (mid.assoc.tsn + htonl 1) mid.assoc.remainPlen)
        (Function.update mid.frames packet frame) mid.cursor mid.rtx).queueFrame packet plen bundled =
          some (queued, ev') ∧
      queued.prefilledRing = some ring ∧
      after = { queued with prefilledRing := some (ring.push (some packet) cellPlen).2 } ∧
      ev = .wrote (s.prefilledChunk streamId block thread) :: ev' := by
  unfold buildPrefilledMacIpSctpDataHdr at returned
  split at returned
  · cases returned
  next block thread stream =>
    dsimp only at returned
    split at returned
    · cases returned
    · cases returned
    next bundled packet cellPlen mid took =>
      split at returned
      · cases returned
      next queued ev' queues =>
        split at returned
        · cases returned
        next ring present =>
          simp only [Option.some.injEq, Prod.mk.injEq] at returned
          exact ⟨block, thread, bundled, packet, cellPlen, mid, _, _, queued, ev', ring, stream, took,
            Prod.mk.eta.symm, queues, present, returned.1.symm, returned.2.symm⟩

/-- What a call that returns has changed beside frames and contents of rings. -/
theorem buildPrefilledMacIpSctpDataHdr_cases {s after : Sender} {streamId : UInt16}
    {ev : List DataEvent} (returned : buildPrefilledMacIpSctpDataHdr s streamId = some (after, ev)) :
    ∃ block thread, s.assoc.osThread streamId = some (block, thread) ∧
      chunks ev = [s.prefilledChunk streamId block thread] ∧
      after.assoc = (s.assoc.setThread block
            { thread with posCurrent :=
                thread.posCurrent + min32 maxPayload (thread.posHigh - thread.posCurrent) }).advance
          (s.assoc.tsn + htonl 1) s.assoc.remainPlen ∧
      after.currentPacket = s.currentPacket ∧ after.buffers = s.buffers ∧
      after.bundling.isSome = true ∧ after.prefilledRing.isSome = true ∧
      (s.txRing.isSome = true → after.txRing.isSome = true) := by
  obtain ⟨block, thread, bundled, packet, cellPlen, mid, frame, plen, queued, ev', ring, stream, took,
    -, queues, -, rfl, rfl⟩ := buildPrefilledMacIpSctpDataHdr_steps returned
  obtain ⟨assoc, current, buffers, tx, bundling⟩ := takeFrame_keeps took
  obtain ⟨assoc', current', buffers', none, bundling', tx'⟩ := queueFrame_keeps queues
  rw [store_bundling] at bundling'
  rw [store_txRing, tx] at tx'
  refine ⟨block, thread, stream, ?_, ?_, ?_, ?_, bundling' bundling, rfl, tx'⟩
  · rw [chunks_wrote, none]
  · show queued.assoc = _
    rw [assoc', store_assoc, assoc]
  · show queued.currentPacket = _
    rw [current', store_currentPacket, current]
  · show queued.buffers = _
    rw [buffers', store_buffers, buffers]

/-- A client with streams of these lengths to send, from this TSN on. Its packet is empty, and
there are two templates to go on with. -/
def streamingClient (tsn : UInt32) (lengths : List UInt32) : Sender :=
  { createdClient with
    assoc := { createdClient.assoc with
      status := .established
      tsn := tsn
      remainPlen := 1454
      osThreads := some (lengths.mapIdx fun i high => (i, { SctpThread.zero with posHigh := high })) }
    bundling := some twoTemplates.pop.2.pop.2
    currentPacket := some 2
    cursor := 46
    rtx := fun _ =>
      { inUse := 0, acked := 0, tsn := 0, streamId := 0, retryCount := 0, sentAt := 0,
        buffer := none, len := 0 }
    buffers := fun _ i => UInt8.ofNat i }

end Kpnet.Sctp
