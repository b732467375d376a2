import Kpnet.Sctp.Packets

/-!
# The bounds of a packet

The stores of `sctp_build_data_hdr` to the packet under construction, and that they stay between the
headers and the end of the packet. The cursor and the room left are kept apart; what ties them is that
each chunk takes from the room what it adds to the cursor.
-/
namespace Kpnet.Sctp

open Bytes Runs

/-- Bytes stored at an offset of a packet. -/
structure PacketStore where
  offset : Nat
  bytes : List UInt8
  deriving DecidableEq, Repr

/-- Stores made one after the other. -/
def storeAll (frame : Bytes) (stores : List PacketStore) : Bytes :=
  stores.foldl (fun frame store => put frame store.offset store.bytes) frame

/-- The two `memcpy` and the `memset` of a chunk: its header, its payload and its padding. -/
def Sender.chunkStores (s : Sender) (streamId : UInt16) (block : Nat) (thread : SctpThread) :
    List PacketStore :=
  let chunk := s.nextChunk streamId block thread (s.pplen thread)
  [⟨s.cursor, chunk.hdr.encode⟩, ⟨s.cursor + 16, chunk.payload⟩,
    ⟨s.cursor + 16 + (s.pplen thread).toNat,
      List.replicate (s.alignedLen thread - s.pplen thread).toNat 0⟩]

/-- The stores of a call that returns. -/
def Sender.stores (s : Sender) (streamId : UInt16) : List PacketStore :=
  match s.currentPacket, (if s.assoc.remainPlen < 20 then s.flush else some (s, [])) with
  | some _, some (mid, _) =>
    match mid.assoc.osThread streamId with
    | some (block, thread) => mid.chunkStores streamId block thread
    | none => []
  | _, _ => []

/-- All that a call has changed in the frames: its stores to the packet it leaves behind, and the tag
in the common header of that packet. -/
def Sender.Wrote (s after : Sender) (stores : List PacketStore) : Prop :=
  (stores = [] ∧ after.frames = s.frames) ∨
  ∃ packet, after.currentPacket = some packet ∧
    after.frames = Function.update s.frames packet
      (put (storeAll (s.frames packet) stores) 38 (le32 s.assoc.verTag))

/-- What a chunk does to its frame, store by store. -/
theorem putChunk_frames (s : Sender) (packet : Nat) (streamId : UInt16) (block : Nat)
    (thread : SctpThread) : (s.putChunk packet streamId block thread).1.frames =
      Function.update s.frames packet
        (put (storeAll (s.frames packet) (s.chunkStores streamId block thread)) 38
          (le32 s.assoc.verTag)) := by
  have payload : (s.nextChunk streamId block thread (s.pplen thread)).payload.length =
      (s.pplen thread).toNat := length_slice _ _ _
  have stored : storeAll (s.frames packet) (s.chunkStores streamId block thread) =
      put (s.frames packet) s.cursor
        ((s.nextChunk streamId block thread (s.pplen thread)).hdr.encode ++
          (s.nextChunk streamId block thread (s.pplen thread)).payload ++
          List.replicate (s.alignedLen thread - s.pplen thread).toNat 0) := by
    rw [put_append, put_append, List.length_append, length_encode_dataHdr, payload, ← Nat.add_assoc]
    rfl
  rw [stored]
  rfl

/-- The stores of a chunk for which there is room end where the packet does. -/
theorem chunkStores_bounds {s : Sender} {built : List DataChunk} {thread : SctpThread}
    (streamId : UInt16) (block : Nat) (filling : Filling s built)
    (enough : 20 ≤ s.assoc.remainPlen.toNat) (room : chunkRoom s.assoc.remainPlen thread ≠ 0) :
    ∀ store ∈ s.chunkStores streamId block thread,
      46 ≤ store.offset ∧ store.offset + store.bytes.length ≤ 46 + s.assoc.mtu.toNat := by
  obtain ⟨positive, inside, four, fits⟩ := pplen_bounds s enough room
  have cursor := filling.cursor
  have remain := filling.remain
  have padding : (s.alignedLen thread - s.pplen thread).toNat =
      (s.alignedLen thread).toNat - (s.pplen thread).toNat :=
    UInt32.toNat_sub_of_le _ _ (UInt32.le_iff_toNat_le.mpr inside)
  have payload : (s.nextChunk streamId block thread (s.pplen thread)).payload.length =
      (s.pplen thread).toNat := length_slice _ _ _
  simp only [Sender.chunkStores, List.forall_mem_cons, length_encode_dataHdr, payload,
    List.length_replicate, padding]
  refine ⟨by omega, by omega, by omega, ?_⟩
  intro store member
  cases member

/-- One call: the packet goes on being filled, and nothing is stored or pushed beyond its length. -/
theorem Filling.bounds {s after : Sender} {built : List DataChunk} {streamId : UInt16}
    {ev : List DataEvent} (filling : Filling s built)
    (returned : sctpBuildDataHdr s streamId = some (after, ev)) :
    after.assoc.mtu = s.assoc.mtu ∧
    (∀ frame plen taken, .pushed frame plen taken ∈ ev → plen.toNat ≤ 46 + s.assoc.mtu.toNat) ∧
    s.Wrote after (s.stores streamId) ∧
    ∀ store ∈ s.stores streamId,
      46 ≤ store.offset ∧ store.offset + store.bytes.length ≤ 46 + s.assoc.mtu.toNat := by
  obtain ⟨idle, rfl, rfl⟩ | ⟨busy, mid, flushed, block, thread, packet, prepared, stream, target, room,
    rfl, rfl⟩ := sctpBuildDataHdr_cases returned
  · have none : after.stores streamId = [] := by rw [Sender.stores, idle]
    rw [none]
    exact ⟨rfl, by simp, .inl ⟨rfl, rfl⟩, by simp⟩
  · obtain ⟨current, present⟩ := Option.ne_none_iff_exists'.mp busy
    have mtu : (mid.putChunk packet streamId block thread).1.assoc.mtu = mid.assoc.mtu := by
      rw [putChunk_assoc, advance_mtu, setThread_mtu]
    rcases prepared with ⟨full, flush⟩ | ⟨fitting, rfl, rfl⟩
    · -- the chunk goes into a new packet, and the old one is pushed
      have begun := filling.flush flush
      have stores : s.stores streamId = mid.chunkStores streamId block thread := by
        simp only [Sender.stores, present, if_pos full, flush, stream]
      obtain ⟨tx, tx', ring, next, -, changed, rfl⟩ := Sender.flush_cases flush
      have frames : mid.frames = s.frames := by rw [changed]
      have tag : mid.assoc.verTag = s.assoc.verTag := by rw [changed]
      have length : mid.assoc.mtu = s.assoc.mtu := by rw [changed]
      have enough : 20 ≤ mid.assoc.remainPlen.toNat := by
        rw [begun.empty rfl]
        exact begun.fits
      have bounds := chunkStores_bounds streamId block begun enough room
      rw [length] at bounds mtu
      refine ⟨mtu, ?_, .inr ⟨packet, ?_, ?_⟩, by rwa [stores]⟩
      · intro frame plen taken member
        have remain := filling.remain
        have less : (s.assoc.mtu - s.assoc.remainPlen).toNat =
            s.assoc.mtu.toNat - s.assoc.remainPlen.toNat :=
          UInt32.toNat_sub_of_le _ _ (UInt32.le_iff_toNat_le.mpr remain)
        have small := s.assoc.mtu.toNat_lt
        have pushed : plen = (s.assoc.mtu - s.assoc.remainPlen).toUInt64 + 46 := by
          simpa using (by simpa using member :
            _ ∧ plen = (s.assoc.mtu - s.assoc.remainPlen).toUInt64 + 46 ∧ _).2.1
        have forty_six : (46 : UInt64).toNat = 46 := rfl
        rw [pushed, UInt64.toNat_add, UInt32.toNat_toUInt64, less, forty_six]
        omega
      · rw [putChunk_currentPacket, target]
      · rw [putChunk_frames, stores, frames, tag]
    · -- there is room in the packet
      have stores : mid.stores streamId = mid.chunkStores streamId block thread := by
        simp only [Sender.stores, present, if_neg fitting, stream]
      have enough : 20 ≤ mid.assoc.remainPlen.toNat :=
        Nat.le_of_not_lt fun less => fitting (UInt32.lt_iff_toNat_lt.mpr less)
      refine ⟨mtu, by simp, .inr ⟨packet, ?_, ?_⟩, ?_⟩
      · rw [putChunk_currentPacket, target]
      · rw [putChunk_frames, stores]
      · rw [stores]
        exact chunkStores_bounds streamId block filling enough room

/-- From the state that a flush leaves, any run of calls that return keeps the cursor where the room
says it is, stores each chunk between the headers and the end of the packet, and pushes no more than
1500 bytes. -/
theorem packet_stores_bounded (s after : Sender) (calls : List UInt16) (log : List DataEvent)
    (mtu : s.assoc.mtu = 1454) (empty : s.assoc.remainPlen = s.assoc.mtu) (start : s.cursor = 46)
    (ran : run sctpBuildDataHdr s calls = some (after, log)) :
    (after.assoc.mtu = 1454 ∧ after.assoc.remainPlen ≤ after.assoc.mtu ∧
      after.cursor = 46 + (after.assoc.mtu - after.assoc.remainPlen).toNat) ∧
    (∀ frame plen taken, .pushed frame plen taken ∈ log → plen ≤ 1500) ∧
    ∀ before streamId mid sofar next ev, before ++ [streamId] <+: calls →
      run sctpBuildDataHdr s before = some (mid, sofar) →
      sctpBuildDataHdr mid streamId = some (next, ev) →
      mid.Wrote next (mid.stores streamId) ∧
      ∀ store ∈ mid.stores streamId, 46 ≤ store.offset ∧ store.offset + store.bytes.length ≤ 1500 := by
  have fresh : s.Fresh := ⟨by rw [mtu]; decide, empty, start⟩
  have thousand : (1454 : UInt32).toNat = 1454 := rfl
  -- the packet is being filled after every part of the run, and what was pushed is short
  have invariant : ∀ (calls : List UInt16) after log, run sctpBuildDataHdr s calls = some (after, log) →
      (∃ built, Filling after built) ∧ after.assoc.mtu = 1454 ∧
        ∀ frame plen taken, .pushed frame plen taken ∈ log → plen.toNat ≤ 1500 := by
    intro calls after log ran
    refine run_induction sctpBuildDataHdr (fun _ _ => True) s
      (fun _ after log => (∃ built, Filling after built) ∧ after.assoc.mtu = 1454 ∧
        ∀ frame plen taken, .pushed frame plen taken ∈ log → plen.toNat ≤ 1500)
      ⟨⟨[], fresh.filling⟩, mtu, by simp⟩ ?_ calls after log ran (along_true _ s calls)
    rintro _ streamId mid log after ev - ⟨⟨built, filling⟩, length, short⟩ - returned
    obtain ⟨same, pushes, -, -⟩ := filling.bounds returned
    rw [length, thousand] at pushes
    refine ⟨⟨_, (filling.build returned).1⟩, same.trans length, ?_⟩
    intro frame plen taken member
    rcases List.mem_append.mp member with old | new
    · exact short frame plen taken old
    · exact pushes frame plen taken new
  obtain ⟨⟨built, filling⟩, length, short⟩ := invariant calls after log ran
  have remain := filling.remain
  have cursor := filling.cursor
  refine ⟨⟨length, UInt32.le_iff_toNat_le.mpr remain, ?_⟩, ?_, ?_⟩
  · rw [UInt32.toNat_sub_of_le _ _ (UInt32.le_iff_toNat_le.mpr remain)]
    omega
  · intro frame plen taken member
    exact UInt64.le_iff_toNat_le.mpr (short frame plen taken member)
  · intro before streamId mid sofar next ev _ reached returned
    obtain ⟨⟨built, filling⟩, length, -⟩ := invariant before mid sofar reached
    obtain ⟨-, -, wrote, bounds⟩ := filling.bounds returned
    rw [length, thousand] at bounds
    exact ⟨wrote, bounds⟩

theorem packet_stores_bounded_two_packets :
    ((streamingClient 0 [10, 2000]).assoc.mtu = 1454 ∧
      (streamingClient 0 [10, 2000]).assoc.remainPlen = (streamingClient 0 [10, 2000]).assoc.mtu ∧
      (streamingClient 0 [10, 2000]).cursor = 46) ∧
    ∃ after log, run sctpBuildDataHdr (streamingClient 0 [10, 2000]) [0, 1, 1] = some (after, log) ∧
      after.cursor = 46 + (after.assoc.mtu - after.assoc.remainPlen).toNat ∧
      ∀ frame plen taken, .pushed frame plen taken ∈ log → plen ≤ 1500 := by
  have returns : (run sctpBuildDataHdr (streamingClient 0 [10, 2000]) [0, 1, 1]).isSome = true := by
    decide +kernel
  obtain ⟨⟨after, log⟩, ran⟩ := Option.isSome_iff_exists.mp returns
  obtain ⟨⟨-, -, cursor⟩, short, -⟩ :=
    packet_stores_bounded (streamingClient 0 [10, 2000]) after [0, 1, 1] log rfl rfl rfl ran
  exact ⟨⟨rfl, rfl, rfl⟩, after, log, ran, cursor, short⟩

end Kpnet.Sctp
