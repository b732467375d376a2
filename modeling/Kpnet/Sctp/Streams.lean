import Kpnet.Sctp.Numbering

/-!
# Streams and their chunks

What `sctp_build_data_hdr` takes from a stream, measured against the position it leaves in the
stream, and what it notes of a chunk for the retransmission. The payload of a chunk is what is
copied behind its header. Both go wrong with the first chunk: the position is advanced by the
16 bytes of the header less than was copied, and the slot is looked up after the TSN has been
advanced.
-/
namespace Kpnet.Sctp

open Bytes Runs

/-- The chunk says that a message begins with it, and that one ends. -/
def DataChunk.Begins (chunk : DataChunk) : Prop := chunk.hdr.flags &&& sctpBbit ≠ 0

def DataChunk.Ends (chunk : DataChunk) : Prop := chunk.hdr.flags &&& sctpEbit ≠ 0

/-- The chunks of one stream. -/
def sentOn (log : List DataEvent) (streamId : UInt16) : List DataChunk :=
  (chunks log).filter fun chunk => chunk.streamId = streamId

/-- Of the chunks of a message of `high` bytes, from offset `o` on, those are marked that they
should be: the one at the start and the one that reaches the end. -/
def Marked (high : Nat) : Nat → List DataChunk → Prop
  | _, [] => True
  | o, chunk :: rest =>
    (chunk.Begins ↔ o = 0) ∧ (chunk.Ends ↔ o + chunk.payload.length = high) ∧
      Marked high (o + chunk.payload.length) rest

/-- Every stream has been sent up to its position, no byte left out or sent again. -/
def Conserved (s : Sender) (log : List DataEvent) : Prop :=
  ∀ streamId block thread, s.assoc.osThread streamId = some (block, thread) →
    thread.posCurrent ≤ thread.posHigh ∧
    (sentOn log streamId).flatMap DataChunk.payload =
      slice (s.buffers block) 0 thread.posCurrent.toNat ∧
    Marked thread.posHigh.toNat 0 (sentOn log streamId)

/-- Streams of which nothing has been sent. -/
def Sender.Unsent (s : Sender) : Prop :=
  ∀ streamId block thread, s.assoc.osThread streamId = some (block, thread) →
    thread.posLow = 0 ∧ thread.posCurrent = 0 ∧ 0 < thread.posHigh

/-- Without a packet under construction nothing is done. -/
theorem run_idle {s : Sender} (idle : s.currentPacket = none) (calls : List UInt16) :
    run sctpBuildDataHdr s calls = some (s, []) := by
  induction calls with
  | nil => rfl
  | cons streamId calls ih =>
    have nothing : sctpBuildDataHdr s streamId = some (s, []) := by
      simp only [sctpBuildDataHdr, idle]
    simp only [run, nothing, ih, List.append_nil]

/-- The first call of a run that returns has written the first chunk, of the streams as they were
at the start. -/
theorem first_chunk {s after : Sender} {streamId : UInt16} {calls : List UInt16}
    {log : List DataEvent} (busy : s.currentPacket ≠ none)
    (ran : run sctpBuildDataHdr s (streamId :: calls) = some (after, log)) :
    ∃ (mid ready : Sender) (sofar : List DataEvent) (block : Nat) (thread : SctpThread)
        (packet : Nat),
      run sctpBuildDataHdr s [streamId] = some (mid, sofar) ∧
      mid = (ready.putChunk packet streamId block thread).1 ∧
      chunks sofar = [ready.nextChunk streamId block thread (ready.pplen thread)] ∧
      ready.assoc.osThread streamId = some (block, thread) ∧
      (ready.assoc.osThreads = s.assoc.osThreads ∧ ready.rtx = s.rtx) := by
  obtain ⟨mid, ev, -, called, -, -⟩ := run_cons_eq_some ran
  obtain ⟨idle, -⟩ | ⟨-, ready, flushed, block, thread, packet, prepared, stream, target, room,
    rfl, rfl⟩ := sctpBuildDataHdr_cases called
  · exact absurd idle busy
  · -- a flush changes neither the streams nor the table
    have same : (ready.assoc.osThreads = s.assoc.osThreads ∧ ready.rtx = s.rtx) ∧
        chunks flushed = [] := by
      rcases prepared with ⟨-, flush⟩ | ⟨-, rfl, rfl⟩
      · obtain ⟨tx, tx', ring, next, -, rfl, rfl⟩ := Sender.flush_cases flush
        exact ⟨⟨rfl, rfl⟩, rfl⟩
      · exact ⟨⟨rfl, rfl⟩, rfl⟩
    refine ⟨_, ready, flushed ++ [.wrote (ready.putChunk packet streamId block thread).2], block,
      thread, packet, ?_, rfl, ?_, stream, same.1⟩
    · simp only [run, called, List.append_nil]
    · rw [chunks_append, same.2, chunks_wrote, chunks_nil, List.nil_append, putChunk_chunk]

/-- What holds at the start of a run and is broken by its first chunk holds at every point of it
exactly if nothing is sent. -/
theorem prefixes_iff_idle {good : Sender → List DataEvent → Prop} {s after : Sender}
    {calls : List UInt16} {log : List DataEvent}
    (ran : run sctpBuildDataHdr s calls = some (after, log)) (start : good s [])
    (breaks : ∀ (ready : Sender) (streamId : UInt16) (block : Nat) (thread : SctpThread)
      (packet : Nat) (sofar : List DataEvent),
      chunks sofar = [ready.nextChunk streamId block thread (ready.pplen thread)] →
      ready.assoc.osThread streamId = some (block, thread) →
      ready.assoc.osThreads = s.assoc.osThreads → ready.rtx = s.rtx →
      ¬good (ready.putChunk packet streamId block thread).1 sofar) :
    (∀ n mid sofar, run sctpBuildDataHdr s (calls.take n) = some (mid, sofar) → good mid sofar) ↔
      s.currentPacket = none ∨ calls = [] := by
  constructor
  · intro always
    by_contra busy
    push Not at busy
    obtain ⟨current, calling⟩ := busy
    obtain ⟨streamId, calls, rfl⟩ := List.exists_cons_of_ne_nil calling
    -- the run is judged right after its first call
    obtain ⟨mid, ready, sofar, block, thread, packet, first, rfl, sent, stream, streams,
      table⟩ := first_chunk current ran
    exact breaks ready streamId block thread packet sofar sent stream streams table
      (always 1 _ _ first)
  · rintro (idle | rfl)
    · intro n mid sofar partly
      rw [run_idle idle] at partly
      cases partly
      exact start
    · intro n mid sofar partly
      rw [List.take_nil] at partly
      cases partly
      exact start

/-- Of unsent streams nothing has been sent. -/
theorem conserved_of_unsent {s : Sender} (unsent : s.Unsent) : Conserved s [] := by
  intro streamId block thread stream
  obtain ⟨-, current, high⟩ := unsent streamId block thread stream
  refine ⟨?_, ?_, trivial⟩
  · rw [current]
    exact UInt32.zero_le
  · rw [current]
    rfl

/-- The first chunk of a stream is longer than the position it leaves. -/
theorem not_conserved_of_first {s ready : Sender} {streamId : UInt16} {block packet : Nat}
    {thread : SctpThread} {sofar : List DataEvent} (unsent : s.Unsent)
    (streams : ready.assoc.osThreads = s.assoc.osThreads)
    (stream : ready.assoc.osThread streamId = some (block, thread))
    (sent : chunks sofar = [ready.nextChunk streamId block thread (ready.pplen thread)]) :
    ¬Conserved (ready.putChunk packet streamId block thread).1 sofar := by
  intro conserved
  have current : thread.posCurrent = 0 := by
    refine (unsent streamId block thread ?_).2.1
    rw [SctpAssociation.osThread, ← streams]
    exact stream
  obtain ⟨-, payload, -⟩ := conserved streamId block _ (osThread_putChunk _ _ _ _ _ stream)
  have only : sentOn sofar streamId =
      [ready.nextChunk streamId block thread (ready.pplen thread)] := by
    rw [sentOn, sent]
    simp [Sender.nextChunk]
  -- so many bytes were copied, and so many are counted
  have copied := congrArg List.length payload
  rw [only, List.flatMap_singleton, length_slice, Sender.nextChunk, length_slice, current] at copied
  dsimp only at copied
  rw [UInt32.zero_add, UInt32.toNat_sub] at copied
  have header : (16 : UInt32).toNat = 16 := rfl
  have small := (ready.pplen thread).toNat_lt
  omega

/-- Streams and positions agree at every point of a run exactly if nothing is sent in it: where a
packet is under construction, they part with the first call. -/
theorem streams_conserved_iff (s after : Sender) (calls : List UInt16) (log : List DataEvent)
    (unsent : s.Unsent) (ran : run sctpBuildDataHdr s calls = some (after, log)) :
    (∀ n mid sofar, run sctpBuildDataHdr s (calls.take n) = some (mid, sofar) →
      Conserved mid sofar) ↔ s.currentPacket = none ∨ calls = [] := by
  refine prefixes_iff_idle ran (conserved_of_unsent unsent) ?_
  intro ready streamId block thread packet sofar sent stream streams _
  exact not_conserved_of_first unsent streams stream sent

theorem streamingClient_unsent : (streamingClient 0 [10]).Unsent := by
  intro streamId block thread stream
  rw [SctpAssociation.osThread] at stream
  simp only [streamingClient, List.mapIdx_cons, List.mapIdx_nil, List.getElem?_singleton] at stream
  split at stream
  · cases stream
    decide
  · cases stream

theorem streams_conserved_iff_short : ∃ after log,
    run sctpBuildDataHdr (streamingClient 0 [10]) [0] = some (after, log) ∧
    ¬∀ n mid sofar, run sctpBuildDataHdr (streamingClient 0 [10]) ([0].take n) =
      some (mid, sofar) → Conserved mid sofar := by
  have returns : (run sctpBuildDataHdr (streamingClient 0 [10]) [0]).isSome = true := by
    decide +kernel
  obtain ⟨⟨after, log⟩, ran⟩ := Option.isSome_iff_exists.mp returns
  refine ⟨after, log, ran, ?_⟩
  rw [streams_conserved_iff (streamingClient 0 [10]) after [0] log streamingClient_unsent ran]
  decide

/-- A message of 10 bytes leaves its stream at position 4294967290. -/
theorem stream_overrun : ∃ after log thread,
    run sctpBuildDataHdr (streamingClient 0 [10]) [0] = some (after, log) ∧
    after.assoc.osThread 0 = some (0, thread) ∧ thread.posHigh = 10 ∧
    thread.posCurrent = 4294967290 ∧ ¬Conserved after log := by
  have position : (run sctpBuildDataHdr (streamingClient 0 [10]) [0]).map
      (fun ran => (ran.1.assoc.osThread 0).map fun found =>
        (found.1, found.2.posHigh, found.2.posCurrent)) = some (some (0, 10, 4294967290)) := by
    decide +kernel
  obtain ⟨⟨after, log⟩, ran, found⟩ := Option.map_eq_some_iff.mp position
  obtain ⟨⟨block, thread⟩, stream, values⟩ := Option.map_eq_some_iff.mp found
  simp only [Prod.mk.injEq] at values
  obtain ⟨rfl, high, current⟩ := values
  refine ⟨after, log, thread, ran, stream, high, current, ?_⟩
  intro conserved
  have bounded := (conserved 0 0 thread stream).1
  rw [high, current] at bounded
  exact absurd bounded (by decide)

/-- The slot of a chunk, by the number it carries, holds all there is to know of the chunk. -/
def Mirrored (rtx : Nat → SctpChunkSlot) (chunk : DataChunk) : Prop :=
  let slot := rtx (ntohl chunk.hdr.tsn &&& 1023).toNat
  slot.inUse = 1 ∧ slot.acked = 0 ∧ slot.tsn = ntohl chunk.hdr.tsn ∧
    slot.streamId = chunk.streamId.toUInt32 ∧ slot.buffer = some chunk.source ∧
    slot.len.toNat = chunk.payload.length

/-- The last chunks, as many as the table has slots, each still have their own. -/
def TableMirrors (s : Sender) (log : List DataEvent) : Prop :=
  ∀ chunk ∈ (chunks log).drop ((chunks log).length - 1024), Mirrored s.rtx chunk

/-- A number and the next one have different slots. -/
theorem slot_ne_next (tsn : UInt32) :
    (ntohl tsn &&& 1023).toNat ≠ (ntohl (tsn + htonl 1) &&& 1023).toNat := by
  have masked (n : UInt32) : (n &&& 1023).toNat = n.toNat % 1024 := by
    rw [UInt32.toNat_and]
    exact Nat.and_two_pow_sub_one_eq_mod n.toNat 10
  rw [masked, masked, toNat_ntohl_succ]
  omega

/-- The first chunk is not found under its number. -/
theorem not_mirrored_of_first {s ready : Sender} {streamId : UInt16} {block packet : Nat}
    {thread : SctpThread} {sofar : List DataEvent} (unused : ∀ i, (s.rtx i).inUse = 0)
    (table : ready.rtx = s.rtx)
    (sent : chunks sofar = [ready.nextChunk streamId block thread (ready.pplen thread)]) :
    ¬TableMirrors (ready.putChunk packet streamId block thread).1 sofar := by
  intro mirrors
  have first := mirrors (ready.nextChunk streamId block thread (ready.pplen thread)) (by simp [sent])
  -- the slot that was filled is that of the next number
  have other := putChunk_rtx_of_ne ready packet streamId block thread
    (slot_ne_next ready.assoc.tsn)
  have inUse : ((ready.putChunk packet streamId block thread).1.rtx
      (ntohl ready.assoc.tsn &&& 1023).toNat).inUse = 1 := first.1
  rw [other, table, unused] at inUse
  exact absurd inUse (by decide)

/-- Table and chunks agree at every point of a run that starts with an unused table exactly if
nothing is sent in it. -/
theorem table_mirrors_iff (s after : Sender) (calls : List UInt16) (log : List DataEvent)
    (unused : ∀ i, (s.rtx i).inUse = 0) (ran : run sctpBuildDataHdr s calls = some (after, log)) :
    (∀ n mid sofar, run sctpBuildDataHdr s (calls.take n) = some (mid, sofar) →
      TableMirrors mid sofar) ↔ s.currentPacket = none ∨ calls = [] := by
  have nothing : TableMirrors s [] := by
    intro chunk member
    cases member
  refine prefixes_iff_idle ran nothing ?_
  intro ready streamId block thread packet sofar sent _ _ table
  exact not_mirrored_of_first unused table sent

theorem table_mirrors_iff_first : ∃ after log,
    run sctpBuildDataHdr (streamingClient (htonl 7) [100]) [0] = some (after, log) ∧
    ¬∀ n mid sofar, run sctpBuildDataHdr (streamingClient (htonl 7) [100]) ([0].take n) =
      some (mid, sofar) → TableMirrors mid sofar := by
  have returns : (run sctpBuildDataHdr (streamingClient (htonl 7) [100]) [0]).isSome = true := by
    decide +kernel
  obtain ⟨⟨after, log⟩, ran⟩ := Option.isSome_iff_exists.mp returns
  refine ⟨after, log, ran, ?_⟩
  rw [table_mirrors_iff (streamingClient (htonl 7) [100]) after [0] log (fun _ => rfl) ran]
  decide

/-- The chunk with the number 7 is in slot 8, as number 8. -/
theorem slot_misses_chunk : ∃ after log,
    run sctpBuildDataHdr (streamingClient (htonl 7) [100]) [0] = some (after, log) ∧
    (chunks log).map (fun chunk => ntohl chunk.hdr.tsn) = [7] ∧
    (after.rtx 7).inUse = 0 ∧ (after.rtx 8).inUse = 1 ∧ (after.rtx 8).tsn = 8 ∧
    ¬TableMirrors after log := by
  have slots : (run sctpBuildDataHdr (streamingClient (htonl 7) [100]) [0]).map
      (fun ran => ((chunks ran.2).map fun chunk => ntohl chunk.hdr.tsn, (ran.1.rtx 7).inUse,
        (ran.1.rtx 8).inUse, (ran.1.rtx 8).tsn)) = some ([7], 0, 1, 8) := by
    decide +kernel
  obtain ⟨⟨after, log⟩, ran, values⟩ := Option.map_eq_some_iff.mp slots
  simp only [Prod.mk.injEq] at values
  obtain ⟨sent, seven, eight, number⟩ := values
  refine ⟨after, log, ran, sent, seven, eight, number, ?_⟩
  intro mirrors
  obtain ⟨chunk, only, tsn⟩ := List.map_eq_singleton_iff.mp sent
  have inUse := (mirrors chunk (by simp [only])).1
  rw [tsn] at inUse
  exact absurd (seven.symm.trans inUse) (by decide)

end Kpnet.Sctp
