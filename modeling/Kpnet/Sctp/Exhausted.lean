import Kpnet.Sctp.Data

/-!
# Streams that have nothing left

`sctp_build_data_hdr` goes back to `flush` as long as there is no room for a chunk. It makes room in
the packet by that, but the room is also none when the stream has nothing left. Such a call gives all
templates to the transmit ring, and then reads the cell that `pop_ringbuf` has not found.
-/
namespace Kpnet.Sctp

open Kpnet.Ring (RingQueue)

/-- Nothing of the stream is left to be sent. -/
def SctpThread.Exhausted (thread : SctpThread) : Prop := thread.posCurrent = thread.posHigh

instance (thread : SctpThread) : Decidable thread.Exhausted :=
  inferInstanceAs (Decidable (_ = _))

def DataEvent.isPush : DataEvent → Bool
  | .wrote _ => false
  | .pushed _ _ _ => true

/-- The call returns, and where the stream has nothing left it has done nothing. -/
def Sender.Returns (s : Sender) (streamId : UInt16) : Prop :=
  ∃ after ev, sctpBuildDataHdr s streamId = some (after, ev) ∧
    ∀ block thread, s.assoc.osThread streamId = some (block, thread) → thread.Exhausted →
      (∀ event ∈ ev, event.isPush = false) ∧ after.assoc.tsn = s.assoc.tsn ∧
      after.cursor = s.cursor ∧ after.assoc.remainPlen = s.assoc.remainPlen ∧ after.rtx = s.rtx

theorem SctpThread.exhausted_iff (thread : SctpThread) :
    thread.Exhausted ↔ thread.posHigh - thread.posCurrent = 0 := by
  rw [Exhausted]
  constructor
  · intro same
    rw [same, UInt32.sub_self]
  · intro none
    rw [← UInt32.sub_add_cancel thread.posHigh thread.posCurrent, none, UInt32.zero_add]

/-- A packet whose length is not that of the header has room for whatever is left of the stream. -/
theorem chunkRoom_ne_zero {remainPlen : UInt32} {thread : SctpThread} (left : ¬thread.Exhausted)
    (other : remainPlen ≠ 16) : chunkRoom remainPlen thread ≠ 0 := by
  rw [SctpThread.exhausted_iff] at left
  have small := remainPlen.toNat_lt
  intro zero
  by_cases room : 16 ≤ remainPlen.toNat
  · have value := toNat_chunkRoom remainPlen thread room
    have positive : (thread.posHigh - thread.posCurrent).toNat ≠ 0 :=
      fun none => left (UInt32.toNat_inj.mp none)
    have longer : remainPlen.toNat ≠ 16 := fun same => other (UInt32.toNat_inj.mp same)
    rw [zero, UInt32.toNat_zero] at value
    omega
  · -- the subtraction of the header wraps, so the stream is the smaller of the two
    have wrapped : (remainPlen.toUInt64 - 16).toNat = 2 ^ 64 - 16 + remainPlen.toNat := by
      rw [UInt64.toNat_sub, UInt32.toNat_toUInt64]
      have sixteen : (16 : UInt64).toNat = 16 := rfl
      omega
    have stream := (thread.posHigh - thread.posCurrent).toNat_lt
    apply left
    apply UInt32.toNat_inj.mp
    rw [← zero, chunkRoom, UInt64.toNat_toUInt32, toNat_min64, wrapped, UInt32.toNat_toUInt64,
      min_eq_right (by omega), Nat.mod_eq_of_lt (by omega)]

section Flush

variable {s : Sender} {tx ring : RingQueue Nat} (queue : s.txRing = some tx)
  (templates : s.prefilledRing = some ring)

include queue templates

/-- A flush begins the packet of the first template, if there is one. -/
theorem Sender.flush_eq : s.flush = ring.contents.head?.map fun cell =>
    ({ s with
      assoc := { s.assoc with remainPlen := s.assoc.mtu }
      txRing := some (tx.push s.currentPacket
        ((s.assoc.mtu - s.assoc.remainPlen).toUInt64 + 46)).2
      prefilledRing := some ring.pop.2
      currentPacket := cell.1
      cursor := 46 },
      [(pushTx tx s.frames s.currentPacket
        ((s.assoc.mtu - s.assoc.remainPlen).toUInt64 + 46)).2]) := by
  rw [← ring.pop_fst]
  simp only [flush, queue, templates]
  rcases ring.pop with ⟨_ | cell, rest⟩
  · rfl
  · rfl

end Flush

/-- A packet with room is used as it is. -/
theorem flushWhileFull_of_room {thread : SctpThread} {s : Sender} (rounds : Nat)
    (room : chunkRoom s.assoc.remainPlen thread ≠ 0) :
    flushWhileFull thread (rounds + 1) s = some (s, []) := by
  rw [flushWhileFull, if_neg room]

section Call

variable (s : Sender) (streamId : UInt16) (block : Nat) (thread : SctpThread) (tx ring : RingQueue Nat)
  (busy : s.currentPacket ≠ none) (stream : s.assoc.osThread streamId = some (block, thread))
  (queue : s.txRing = some tx) (templates : s.prefilledRing = some ring)

include busy stream

/-- A call with room for a chunk, or with a template to go on with, returns. -/
theorem sctpBuildDataHdr_returns (queue : s.txRing = some tx) (templates : s.prefilledRing = some ring)
    (left : ¬thread.Exhausted)
    (supplied : s.assoc.remainPlen < 20 →
      (∃ packet plen rest, ring.contents = (some packet, plen) :: rest) ∧ s.assoc.mtu ≠ 16) :
    sctpBuildDataHdr s streamId ≠ none := by
  obtain ⟨packet, current⟩ := Option.ne_none_iff_exists'.mp busy
  rw [sctpBuildDataHdr, current]
  dsimp only
  by_cases full : s.assoc.remainPlen < 20
  · -- one flush is enough: a new packet has room
    obtain ⟨⟨next, plen, rest, contents⟩, other⟩ := supplied full
    rw [if_pos full, Sender.flush_eq queue templates, contents]
    simp only [List.head?_cons, Option.map_some]
    have same : ({ s.assoc with remainPlen := s.assoc.mtu } : SctpAssociation).osThread streamId =
        some (block, thread) := stream
    rw [same]
    dsimp only
    rw [flushWhileFull_of_room _ (chunkRoom_ne_zero left other)]
    exact Option.some_ne_none _
  · -- 20 bytes or more are not the 16 that would leave no room
    rw [if_neg full]
    dsimp only
    have other : s.assoc.remainPlen ≠ 16 := by
      rintro same
      rw [same] at full
      exact full (by decide)
    rw [stream]
    dsimp only
    rw [flushWhileFull_of_room _ (chunkRoom_ne_zero left other)]
    dsimp only
    rw [current]
    exact Option.some_ne_none _

/-- A call that returns has had something left to send. -/
theorem sctpBuildDataHdr_left {after : Sender} {ev : List DataEvent}
    (returned : sctpBuildDataHdr s streamId = some (after, ev)) :
    ¬thread.Exhausted ∧ (s.assoc.remainPlen < 20 → ∃ mid packet flushed,
      s.flush = some (mid, flushed) ∧ mid.currentPacket = some packet ∧ s.assoc.mtu ≠ 16) := by
  obtain ⟨idle, -⟩ | ⟨-, mid, flushed, block', thread', packet, prepared, stream', current, room,
    -, -⟩ := sctpBuildDataHdr_cases returned
  · exact absurd idle busy
  · -- a flush changes the packet, but neither the stream nor what it has left
    rcases prepared with ⟨full, flush⟩ | ⟨fitting, rfl, -⟩
    · obtain ⟨tx, tx', ring, next, -, changed, -⟩ := Sender.flush_cases flush
      have same : mid.assoc.osThread streamId = some (block, thread) := by
        rw [changed]
        exact stream
      rw [same] at stream'
      cases stream'
      have begun : mid.assoc.remainPlen = s.assoc.mtu := by rw [changed]
      rw [begun] at room
      refine ⟨fun exhausted => room (chunkRoom_of_exhausted
        ((SctpThread.exhausted_iff thread).mp exhausted) _), fun _ => ?_⟩
      refine ⟨mid, packet, flushed, flush, current, ?_⟩
      rintro same
      apply room
      rw [same]
      apply UInt32.toNat_inj.mp
      rw [toNat_chunkRoom 16 thread (by decide)]
      exact Nat.zero_min _
    · rw [stream] at stream'
      cases stream'
      exact ⟨fun exhausted => room (chunkRoom_of_exhausted
        ((SctpThread.exhausted_iff thread).mp exhausted) _), fun full => absurd full fitting⟩

include queue templates

/-- A call does what is asked of it exactly if the stream has something left and, where the packet is
full, there is a template to go on with. -/
theorem sctpBuildDataHdr_returns_iff :
    s.Returns streamId ↔ ¬thread.Exhausted ∧ (s.assoc.remainPlen < 20 →
      (∃ packet plen rest, ring.contents = (some packet, plen) :: rest) ∧ s.assoc.mtu ≠ 16) := by
  constructor
  · rintro ⟨after, ev, returned, -⟩
    obtain ⟨left, supplied⟩ := sctpBuildDataHdr_left s streamId block thread busy stream returned
    refine ⟨left, fun full => ?_⟩
    obtain ⟨mid, packet, flushed, flush, current, other⟩ := supplied full
    refine ⟨?_, other⟩
    rw [Sender.flush_eq queue templates] at flush
    obtain ⟨⟨packet', plen⟩, first, begun⟩ := Option.map_eq_some_iff.mp flush
    cases begun
    cases current
    obtain ⟨rest, contents⟩ := List.head?_eq_some_iff.mp first
    exact ⟨packet, plen, rest, contents⟩
  · rintro ⟨left, supplied⟩
    obtain ⟨⟨after, ev⟩, returned⟩ := Option.ne_none_iff_exists'.mp
      (sctpBuildDataHdr_returns s streamId block thread tx ring busy stream queue templates left supplied)
    refine ⟨after, ev, returned, ?_⟩
    intro block' thread' stream' exhausted
    rw [stream] at stream'
    cases stream'
    exact absurd exhausted left

end Call

theorem sctpBuildDataHdr_returns_iff_short : (streamingClient 0 [10]).Returns 0 := by
  have judged := sctpBuildDataHdr_returns_iff (streamingClient 0 [10]) 0 0
    { SctpThread.zero with posHigh := 10 } _ _ (by decide) rfl rfl rfl
  exact judged.mpr ⟨by decide, fun full => absurd full (by decide)⟩

/-- A stream of no bytes, two templates, and a transmit ring with room. -/
theorem exhausted_stream_never_returns :
    (streamingClient 0 [0]).currentPacket ≠ none ∧
    (streamingClient 0 [0]).assoc.osThread 0 = some (0, SctpThread.zero) ∧
    SctpThread.zero.Exhausted ∧ (streamingClient 0 [0]).cells = 2 ∧
    sctpBuildDataHdr (streamingClient 0 [0]) 0 = none ∧ ¬(streamingClient 0 [0]).Returns 0 := by
  have stuck : sctpBuildDataHdr (streamingClient 0 [0]) 0 = none :=
    Option.isNone_iff_eq_none.mp (by decide +kernel)
  refine ⟨by decide, rfl, rfl, by decide +kernel, stuck, ?_⟩
  rintro ⟨after, ev, returned, -⟩
  rw [stuck] at returned
  cases returned

end Kpnet.Sctp
