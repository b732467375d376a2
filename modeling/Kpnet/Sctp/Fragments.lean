import Kpnet.Sctp.Streams
import Kpnet.Sctp.Templates

/-!
# Messages in fragments

`build_prefilled_mac_ip_sctp_data_hdr` sends a stream in chunks of at most 1438 bytes, one for each
call. Whatever other streams are served in between, and whether a chunk gets a frame of its own or is
bundled, the chunks of a stream are its bytes in order, with the first and the last of them marked.
-/
namespace Kpnet.Sctp

open Bytes Runs
open Kpnet.Ring (RingQueue)

/-- The thread whose message has been sent up to `position`. -/
def SctpThread.upTo (thread : SctpThread) (position : Nat) : SctpThread :=
  { thread with posCurrent := UInt32.ofNat position }

/-- How many chunks it takes to send so many bytes. -/
def chunkCount (length : Nat) : Nat := (length + 1437) / 1438

/-- The `i`-th chunk of a message of `length` bytes, in `buffer`. -/
structure Fragment (buffer : Bytes) (length i : Nat) (chunk : DataChunk) : Prop where
  payload : chunk.payload = slice buffer (1438 * i) (min 1438 (length - 1438 * i))
  announced : (ntohs chunk.hdr.len).toNat = 16 + chunk.payload.length
  begins : chunk.Begins ↔ i = 0
  ends : chunk.Ends ↔ i + 1 = chunkCount length

section Chunk

variable {thread : SctpThread} {length i : Nat} (low : thread.posLow = 0)
  (high : thread.posHigh.toNat = length)

include high

/-- What a call takes of a message that has been sent up to the `i`-th chunk. -/
theorem toNat_taken {position : Nat} (before : position ≤ length) :
    (min32 maxPayload ((thread.upTo position).posHigh - (thread.upTo position).posCurrent)).toNat =
      min 1438 (length - position) := by
  have bits := thread.posHigh.toNat_lt
  have here : (UInt32.ofNat position).toNat = position :=
    UInt32.toNat_ofNat_of_lt' (show _ < 2 ^ 32 by omega)
  have left : (thread.posHigh - UInt32.ofNat position).toNat = length - position := by
    rw [UInt32.toNat_sub_of_le _ _ (UInt32.le_iff_toNat_le.mpr (by omega)), here, high]
  rw [toNat_min32]
  show min 1438 (thread.posHigh - UInt32.ofNat position).toNat = _
  rw [left]

/-- Where the call leaves the message. -/
theorem upTo_moved {position : Nat} (before : position ≤ length) :
    { thread.upTo position with
      posCurrent := (thread.upTo position).posCurrent +
        min32 maxPayload ((thread.upTo position).posHigh - (thread.upTo position).posCurrent) } =
      thread.upTo (position + min 1438 (length - position)) := by
  have bits := thread.posHigh.toNat_lt
  have moved : UInt32.ofNat position + min32 maxPayload
      ((thread.upTo position).posHigh - (thread.upTo position).posCurrent) =
      UInt32.ofNat (position + min 1438 (length - position)) := by
    apply UInt32.toNat_inj.mp
    rw [UInt32.toNat_add, toNat_taken high before, UInt32.toNat_ofNat', UInt32.toNat_ofNat']
    omega
  exact congrArg (fun current => ({ thread with posCurrent := current } : SctpThread)) moved

include low

/-- The flags of the `i`-th chunk. -/
theorem dataFlags_fragment (plain : thread.flags = 0) (inside : 1438 * i < length) :
    dataFlags (thread.upTo (1438 * i)) maxPayload =
      if length ≤ 1438 then sctpUnfragmented
      else if i = 0 then sctpBbit
      else if i + 1 = chunkCount length then sctpEbit else 0 := by
  have bits := thread.posHigh.toNat_lt
  have here : (UInt32.ofNat (1438 * i)).toNat = 1438 * i :=
    UInt32.toNat_ofNat_of_lt' (show _ < 2 ^ 32 by omega)
  have taken := toNat_taken high (Nat.le_of_lt inside)
  have single : thread.posHigh - thread.posLow ≤ maxPayload ↔ length ≤ 1438 := by
    rw [low, UInt32.le_iff_toNat_le, UInt32.sub_zero, high]
    exact Iff.rfl
  have first : thread.posLow = UInt32.ofNat (1438 * i) ↔ i = 0 := by
    rw [low, ← UInt32.toNat_inj, here, UInt32.toNat_zero]
    omega
  have last : UInt32.ofNat (1438 * i) + min32 maxPayload
      ((thread.upTo (1438 * i)).posHigh - (thread.upTo (1438 * i)).posCurrent) = thread.posHigh ↔
      i + 1 = chunkCount length := by
    rw [← UInt32.toNat_inj, UInt32.toNat_add, here, taken, high, chunkCount,
      Nat.mod_eq_of_lt (by omega)]
    omega
  unfold dataFlags
  simp only [SctpThread.upTo, plain] at last ⊢
  simp only [single, first, last, UInt8.zero_or]

/-- The `i`-th call on a message builds its `i`-th chunk. -/
theorem prefilledChunk_fragment (s : Sender) (streamId : UInt16) (block : Nat)
    (plain : thread.flags = 0) (inside : 1438 * i < length) :
    Fragment (s.buffers block) length i
      (s.prefilledChunk streamId block (thread.upTo (1438 * i))) := by
  have bits := thread.posHigh.toNat_lt
  have here : (UInt32.ofNat (1438 * i)).toNat = 1438 * i :=
    UInt32.toNat_ofNat_of_lt' (show _ < 2 ^ 32 by omega)
  have taken := toNat_taken high (Nat.le_of_lt inside)
  have flags := dataFlags_fragment low high plain inside
  have payload : (s.prefilledChunk streamId block (thread.upTo (1438 * i))).payload =
      slice (s.buffers block) (1438 * i) (min 1438 (length - 1438 * i)) := by
    show slice (s.buffers block) (UInt32.ofNat (1438 * i)).toNat _ = _
    rw [here, taken]
  refine ⟨payload, ?_, ?_, ?_⟩
  · rw [payload, length_slice]
    show (ntohs (htons (16 + min32 maxPayload _).toUInt16)).toNat = _
    rw [ntohs_htons, UInt32.toNat_toUInt16, UInt32.toNat_add, taken]
    have sixteen : (16 : UInt32).toNat = 16 := rfl
    rw [sixteen]
    omega
  · rw [DataChunk.Begins]
    show dataFlags (thread.upTo (1438 * i)) maxPayload &&& sctpBbit ≠ 0 ↔ i = 0
    rw [flags]
    split_ifs with short first last
    · exact iff_of_true (by decide) (by omega)
    · exact iff_of_true (by decide) first
    · exact iff_of_false (by decide) first
    · exact iff_of_false (by decide) first
  · rw [DataChunk.Ends]
    show dataFlags (thread.upTo (1438 * i)) maxPayload &&& sctpEbit ≠ 0 ↔ i + 1 = chunkCount length
    rw [flags, chunkCount]
    split_ifs with short first last
    · exact iff_of_true (by decide) (by omega)
    · exact iff_of_false (by decide) (by omega)
    · exact iff_of_true (by decide) last
    · exact iff_of_false (by decide) last

end Chunk

theorem queueFrame_ne_none {s : Sender} {packet : Nat} {plen : UInt32} {bundled : Bool}
    (bundling : s.bundling.isSome = true) (tx : s.txRing.isSome = true) :
    s.queueFrame packet plen bundled ≠ none := by
  obtain ⟨waiting, present⟩ := Option.isSome_iff_exists.mp bundling
  obtain ⟨queue, present'⟩ := Option.isSome_iff_exists.mp tx
  rw [Sender.queueFrame, present, present']
  split
  · exact Option.some_ne_none _
  · exact Option.some_ne_none _

/-- The threads of the table after a store to one of them. -/
theorem osThread_setThread_eq (assoc : SctpAssociation) (block : Nat) (thread : SctpThread)
    (streamId : UInt16) : (assoc.setThread block thread).osThread streamId =
      (assoc.osThread streamId).map fun entry => if entry.1 = block then (block, thread) else entry := by
  unfold SctpAssociation.osThread SctpAssociation.setThread
  cases assoc.osThreads with
  | none => rfl
  | some threads => simp

/-- The rings of a sender, all of whose cells hold packets. -/
structure Sender.Equipped (s : Sender) : Prop where
  bundling : s.bundling.isSome = true
  prefilled : s.prefilledRing.isSome = true
  tx : s.txRing.isSome = true
  cells : ∀ entry ∈ held s.bundling ++ held s.prefilledRing, entry.1 ≠ none

/-- With a template at hand a call on a stream returns. -/
theorem Sender.Equipped.returns {s : Sender} {streamId : UInt16} (equipped : s.Equipped)
    (stream : (s.assoc.osThread streamId).isSome = true) (templates : held s.prefilledRing ≠ []) :
    buildPrefilledMacIpSctpDataHdr s streamId ≠ none := by
  obtain ⟨bundling, waiting⟩ := Option.isSome_iff_exists.mp equipped.bundling
  obtain ⟨ring, filled⟩ := Option.isSome_iff_exists.mp equipped.prefilled
  obtain ⟨tx, queue⟩ := Option.isSome_iff_exists.mp equipped.tx
  obtain ⟨⟨block, thread⟩, found⟩ := Option.isSome_iff_exists.mp stream
  have cells := equipped.cells
  rw [waiting, filled, held_some, held_some] at cells
  rw [filled, held_some] at templates
  -- the frame is one that waits, or the first template
  obtain ⟨bundled, packet, cellPlen, mid, took, rings⟩ : ∃ bundled packet cellPlen mid,
      s.takeFrame = some (bundled, some packet, cellPlen, mid) ∧
      mid.txRing = s.txRing ∧ mid.prefilledRing.isSome = true := by
    rcases popped : bundling.pop with ⟨_ | ⟨packet, cellPlen⟩, rest⟩
    · obtain ⟨⟨packet, cellPlen⟩, others, contents⟩ := List.exists_cons_of_ne_nil templates
      have holds := cells (packet, cellPlen) (by simp [contents])
      obtain ⟨packet, rfl⟩ := Option.ne_none_iff_exists'.mp holds
      have first : ring.pop = (some (some packet, cellPlen), ring.pop.2) := by
        rw [← List.head?_cons (l := others), ← contents, ← ring.pop_fst]
      refine ⟨false, packet, cellPlen,
        { s with bundling := some rest, prefilledRing := some ring.pop.2 }, ?_, rfl, rfl⟩
      simp only [Sender.takeFrame, waiting, popped, filled]
      rw [first]
    · have holds := cells (packet, cellPlen) (by simp [(contents_of_pop bundling popped).1])
      obtain ⟨packet, rfl⟩ := Option.ne_none_iff_exists'.mp holds
      refine ⟨true, packet, cellPlen, { s with bundling := some rest }, ?_, rfl, ?_⟩
      · simp only [Sender.takeFrame, waiting, popped]
      · exact equipped.prefilled
  obtain ⟨-, -, -, -, bundles⟩ := takeFrame_keeps took
  rw [buildPrefilledMacIpSctpDataHdr, found]
  dsimp only
  rw [took]
  dsimp only
  split
  next stuck =>
    refine absurd stuck (queueFrame_ne_none ?_ ?_)
    · rwa [store_bundling]
    · rw [store_txRing, rings.1, queue, Option.isSome_some]
  next queued ev queues =>
    obtain ⟨-, same, -⟩ := queueFrame_traffic queues
    rw [store_prefilledRing] at same
    obtain ⟨ring', kept⟩ := Option.isSome_iff_exists.mp rings.2
    rw [same, kept]
    exact Option.some_ne_none _

theorem Sender.Equipped.kept {s after : Sender} {streamId : UInt16} {ev : List DataEvent}
    (equipped : s.Equipped)
    (returned : buildPrefilledMacIpSctpDataHdr s streamId = some (after, ev)) : after.Equipped := by
  obtain ⟨-, -, -, -, -, -, -, bundling, prefilled, tx⟩ := buildPrefilledMacIpSctpDataHdr_cases returned
  obtain ⟨_, _, buffer, cellPlen, _, rest, _, plen, -, -, -, way⟩ :=
    buildPrefilledMacIpSctpDataHdr_traffic returned
  refine ⟨bundling, prefilled, tx equipped.tx, ?_⟩
  have cells := equipped.cells
  intro entry member
  -- whatever is queued was queued before, or holds the buffer of the frame
  have source : entry ∈ held s.bundling ++ held s.prefilledRing ∨ entry.1 = some buffer := by
    rcases way with ⟨-, waiting, left, -, given, -⟩ | ⟨-, none, template, given, sink⟩
    · rw [left, given, offered] at member
      rw [waiting]
      split at member
      · simp only [List.mem_append, List.mem_cons, List.not_mem_nil, or_false] at member ⊢
        rcases member with old | old | rfl
        · exact .inl (.inl (.inr old))
        · exact .inl (.inr old)
        · exact .inr rfl
      · simp only [List.mem_append, List.mem_cons] at member ⊢
        tauto
    · rw [given] at member
      rw [template]
      rcases sink with ⟨-, waits, -⟩ | ⟨-, left, -⟩
      · rw [waits] at member
        simp only [List.mem_append, List.mem_cons, List.not_mem_nil, or_false] at member ⊢
        rcases member with rfl | old | rfl
        · exact .inr rfl
        · exact .inl (.inr (.inr old))
        · exact .inr rfl
      · rw [left, List.nil_append] at member
        simp only [List.mem_append, List.mem_cons, List.not_mem_nil, or_false] at member ⊢
        rcases member with old | rfl
        · exact .inl (.inr (.inr old))
        · exact .inr rfl
  rcases source with old | new
  · exact cells entry old
  · rw [new]
    exact Option.some_ne_none _

/-- A stream whose message is being sent, after some calls. -/
structure Sending (s : Sender) (streamId : UInt16) (block : Nat) (thread : SctpThread)
    (calls : List UInt16) (after : Sender) (log : List DataEvent) : Prop where
  buffers : after.buffers = s.buffers
  stream : after.assoc.osThread streamId =
    some (block, thread.upTo (min (1438 * calls.count streamId) thread.posHigh.toNat))
  own : ∀ other entry, after.assoc.osThread other = some entry → entry.1 = block → other = streamId
  count : (sentOn log streamId).length = calls.count streamId
  fragments : ∀ i chunk, (sentOn log streamId)[i]? = some chunk → 1438 * i < thread.posHigh.toNat →
    Fragment (s.buffers block) thread.posHigh.toNat i chunk

theorem sentOn_append (log ev : List DataEvent) (streamId : UInt16) :
    sentOn (log ++ ev) streamId = sentOn log streamId ++ sentOn ev streamId := by
  rw [sentOn, chunks_append, List.filter_append, sentOn, sentOn]

/-- A store to one of the threads gives no block to another stream. -/
theorem setThread_own {assoc : SctpAssociation} {streamId : UInt16} {block : Nat}
    (own : ∀ other entry, assoc.osThread other = some entry → entry.1 = block → other = streamId)
    (block' : Nat) (thread' : SctpThread) :
    ∀ other entry, (assoc.setThread block' thread').osThread other = some entry →
      entry.1 = block → other = streamId := by
  intro other entry entered same
  rw [osThread_setThread_eq] at entered
  obtain ⟨before, present, rfl⟩ := Option.map_eq_some_iff.mp entered
  apply own other before present
  split at same
  next old => exact old.trans same
  · exact same

section Step

variable {s mid after : Sender} {streamId called : UInt16} {block : Nat} {thread : SctpThread}
  {calls : List UInt16} {log ev : List DataEvent}

/-- A call on another stream. -/
theorem Sending.other (sending : Sending s streamId block thread calls mid log)
    (other : called ≠ streamId)
    (returned : buildPrefilledMacIpSctpDataHdr mid called = some (after, ev)) :
    Sending s streamId block thread (calls ++ [called]) after (log ++ ev) := by
  obtain ⟨block', thread', found, written, assoc, -, buffers, -⟩ :=
    buildPrefilledMacIpSctpDataHdr_cases returned
  have apart : block ≠ block' := fun same => other (sending.own called _ found same.symm)
  have nothing : sentOn ev streamId = [] := by
    rw [sentOn, written, List.filter_cons_of_neg, List.filter_nil]
    simpa [Sender.prefilledChunk] using other
  have uncounted : (calls ++ [called]).count streamId = calls.count streamId := by
    simp [other]
  refine ⟨buffers.trans sending.buffers, ?_, ?_, ?_, ?_⟩
  · rw [assoc, advance_osThread, osThread_setThread_eq, sending.stream, uncounted, Option.map_some,
      if_neg apart]
  · intro other entry
    rw [assoc, advance_osThread]
    exact setThread_own sending.own _ _ other entry
  · rw [sentOn_append, nothing, List.append_nil, uncounted]
    exact sending.count
  · rw [sentOn_append, nothing, List.append_nil]
    exact sending.fragments

/-- A call on the stream itself sends the next part of the message. -/
theorem Sending.next (low : thread.posLow = 0) (plain : thread.flags = 0)
    (sending : Sending s streamId block thread calls mid log)
    (returned : buildPrefilledMacIpSctpDataHdr mid streamId = some (after, ev)) :
    Sending s streamId block thread (calls ++ [streamId]) after (log ++ ev) := by
  obtain ⟨block', thread', found, written, assoc, -, buffers, -⟩ :=
    buildPrefilledMacIpSctpDataHdr_cases returned
  have same := sending.stream
  rw [found] at same
  cases same
  have counted : (calls ++ [streamId]).count streamId = calls.count streamId + 1 := by simp
  have sent : sentOn ev streamId = [mid.prefilledChunk streamId block
      (thread.upTo (min (1438 * calls.count streamId) thread.posHigh.toNat))] := by
    rw [sentOn, written, List.filter_cons_of_pos, List.filter_nil]
    simp [Sender.prefilledChunk]
  refine ⟨buffers.trans sending.buffers, ?_, ?_, ?_, ?_⟩
  · rw [assoc, advance_osThread, osThread_setThread _ _ _ found, counted]
    have further : min (1438 * calls.count streamId) thread.posHigh.toNat +
        min 1438 (thread.posHigh.toNat - min (1438 * calls.count streamId) thread.posHigh.toNat) =
        min (1438 * (calls.count streamId + 1)) thread.posHigh.toNat := by
      omega
    rw [upTo_moved rfl (Nat.min_le_right _ _), further]
  · intro other entry
    rw [assoc, advance_osThread]
    exact setThread_own sending.own _ _ other entry
  · rw [sentOn_append, sent, List.length_append, List.length_singleton, counted, sending.count]
  · intro i chunk at_i inside
    rw [sentOn_append, sent] at at_i
    by_cases earlier : i < (sentOn log streamId).length
    · rw [List.getElem?_append_left earlier] at at_i
      exact sending.fragments i chunk at_i inside
    · -- the chunk that has just been written
      rw [List.getElem?_append_right (Nat.le_of_not_lt earlier)] at at_i
      rw [List.getElem?_singleton, ite_eq_iff] at at_i
      obtain ⟨only, at_i⟩ | ⟨-, none⟩ := at_i
      swap
      · cases none
      cases at_i
      have index : calls.count streamId = i := by
        rw [← sending.count]
        omega
      rw [index, min_eq_left (Nat.le_of_lt inside), ← sending.buffers]
      exact prefilledChunk_fragment low rfl mid streamId block plain inside

end Step

theorem SctpThread.upTo_current (thread : SctpThread) (current : thread.posCurrent = 0) :
    thread.upTo 0 = thread := by
  show ({ thread with posCurrent := 0 } : SctpThread) = thread
  rw [← current]

/-- The payloads of the chunks of a message, put together. -/
theorem flatMap_fragments {buffer : Bytes} {length : Nat} {sent : List DataChunk}
    (count : sent.length = chunkCount length)
    (fragments : ∀ i chunk, sent[i]? = some chunk → Fragment buffer length i chunk) :
    sent.flatMap DataChunk.payload = slice buffer 0 length := by
  have payloads : sent.map DataChunk.payload = (List.range (chunkCount length)).map fun i =>
      slice buffer (1438 * i) (min 1438 (length - 1438 * i)) := by
    apply List.ext_getElem
    · rw [List.length_map, List.length_map, List.length_range, count]
    · intro i inside inside'
      rw [List.length_map] at inside
      rw [List.getElem_map, List.getElem_map, List.getElem_range]
      exact (fragments i _ (List.getElem?_eq_getElem inside)).payload
  have all : min (1438 * chunkCount length) length = length := by
    rw [chunkCount]
    omega
  rw [List.flatMap_def, payloads, ← List.flatMap_def, flatMap_slices, all]

/-- Every run on a sender with templates returns. -/
theorem run_buildPrefilled_returns {s : Sender} {calls : List UInt16} (equipped : s.Equipped)
    (streams : ∀ called ∈ calls, (s.assoc.osThread called).isSome = true)
    (supplied : Along buildPrefilledMacIpSctpDataHdr (fun s _ => held s.prefilledRing ≠ []) s calls) :
    run buildPrefilledMacIpSctpDataHdr s calls ≠ none := by
  induction calls generalizing s with
  | nil => exact Option.some_ne_none _
  | cons called calls ih =>
    obtain ⟨⟨mid, ev⟩, returned⟩ := Option.ne_none_iff_exists'.mp
      (equipped.returns (streams called (by simp)) supplied.1)
    obtain ⟨block, thread, -, -, assoc, -⟩ := buildPrefilledMacIpSctpDataHdr_cases returned
    have streams' : ∀ other ∈ calls, (mid.assoc.osThread other).isSome = true := by
      intro other member
      rw [assoc, advance_osThread, osThread_setThread_eq, Option.isSome_map]
      exact streams other (List.mem_cons_of_mem called member)
    obtain ⟨⟨after, log⟩, ran⟩ := Option.ne_none_iff_exists'.mp
      (ih (equipped.kept returned) streams' (supplied.2 mid ev returned))
    simp only [run, returned, ran]
    exact Option.some_ne_none _

theorem run_sending {s after : Sender} {streamId : UInt16} {block : Nat} {thread : SctpThread}
    {calls : List UInt16} {log : List DataEvent}
    (stream : s.assoc.osThread streamId = some (block, thread)) (low : thread.posLow = 0)
    (current : thread.posCurrent = 0) (plain : thread.flags = 0)
    (own : ∀ other entry, s.assoc.osThread other = some entry → entry.1 = block → other = streamId)
    (ran : run buildPrefilledMacIpSctpDataHdr s calls = some (after, log)) :
    Sending s streamId block thread calls after log := by
  refine run_induction buildPrefilledMacIpSctpDataHdr (fun _ _ => True) s
    (fun calls after log => Sending s streamId block thread calls after log) ?_ ?_ calls after log ran
    (along_true _ s calls)
  · refine ⟨rfl, ?_, own, rfl, fun i chunk impossible => ?_⟩
    · rw [List.count_nil, Nat.mul_zero, Nat.zero_min, thread.upTo_current current, stream]
    · cases impossible
  · intro calls called mid log after ev _ sending _ returned
    by_cases mine : called = streamId
    · rw [mine] at returned ⊢
      exact sending.next low plain returned
    · exact sending.other mine returned

/-- A message of a stream is sent by as many calls on the stream as it has pieces of 1438 bytes,
whatever the calls on other streams in between. -/
theorem message_fragmented (s : Sender) (streamId : UInt16) (block : Nat) (thread : SctpThread)
    (calls : List UInt16) (stream : s.assoc.osThread streamId = some (block, thread))
    (low : thread.posLow = 0) (current : thread.posCurrent = 0) (plain : thread.flags = 0)
    (own : ∀ other entry, s.assoc.osThread other = some entry → entry.1 = block → other = streamId)
    (streams : ∀ called ∈ calls, (s.assoc.osThread called).isSome = true) (equipped : s.Equipped)
    (supplied : Along buildPrefilledMacIpSctpDataHdr (fun s _ => held s.prefilledRing ≠ []) s calls)
    (enough : chunkCount thread.posHigh.toNat ≤ calls.count streamId) :
    ∃ after log sent, run buildPrefilledMacIpSctpDataHdr s calls = some (after, log) ∧
      sent = (sentOn log streamId).take (chunkCount thread.posHigh.toNat) ∧
      sent.length = chunkCount thread.posHigh.toNat ∧
      sent.flatMap DataChunk.payload = slice (s.buffers block) 0 thread.posHigh.toNat ∧
      (∀ i chunk, sent[i]? = some chunk →
        (ntohs chunk.hdr.len).toNat = 16 + chunk.payload.length ∧ chunk.payload.length ≤ 1438 ∧
        (chunk.Begins ↔ i = 0) ∧ (chunk.Ends ↔ i + 1 = chunkCount thread.posHigh.toNat)) ∧
      (∃ thread', after.assoc.osThread streamId = some (block, thread') ∧
        thread'.posCurrent = thread'.posHigh) ∧
      ∀ before called mid sofar next ev, before ++ [called] <+: calls →
        run buildPrefilledMacIpSctpDataHdr s before = some (mid, sofar) →
        buildPrefilledMacIpSctpDataHdr mid called = some (next, ev) →
        ∃ chunk buffer o, chunks ev = [chunk] ∧ 46 ≤ o ∧
          slice (next.frames buffer) o (16 + chunk.payload.length) =
            chunk.hdr.encode ++ chunk.payload := by
  obtain ⟨⟨after, log⟩, ran⟩ := Option.ne_none_iff_exists'.mp
    (run_buildPrefilled_returns equipped streams supplied)
  have sending := run_sending stream low current plain own ran
  have count : ((sentOn log streamId).take (chunkCount thread.posHigh.toNat)).length =
      chunkCount thread.posHigh.toNat := by
    rw [List.length_take, sending.count, min_eq_left enough]
  have fragments : ∀ i chunk, ((sentOn log streamId).take (chunkCount thread.posHigh.toNat))[i]? =
      some chunk → Fragment (s.buffers block) thread.posHigh.toNat i chunk := by
    intro i chunk found
    obtain ⟨inside, -⟩ := List.getElem?_eq_some_iff.mp found
    rw [count, chunkCount] at inside
    rw [List.getElem?_take] at found
    split at found
    · exact sending.fragments i chunk found (by omega)
    · cases found
  refine ⟨after, log, _, ran, rfl, count, flatMap_fragments count fragments, ?_, ?_, ?_⟩
  · intro i chunk found
    obtain ⟨payload, announced, begins, ends⟩ := fragments i chunk found
    refine ⟨announced, ?_, begins, ends⟩
    rw [payload, length_slice]
    exact Nat.min_le_left _ _
  · have all : min (1438 * calls.count streamId) thread.posHigh.toNat = thread.posHigh.toNat := by
      rw [chunkCount] at enough
      omega
    refine ⟨_, sending.stream, ?_⟩
    rw [all]
    exact UInt32.ofNat_toNat
  · intro before called mid sofar next ev _ _ returned
    obtain ⟨block', thread', buffer, cellPlen, bundled, _, frame, plen, found, made, frames, -⟩ :=
      buildPrefilledMacIpSctpDataHdr_traffic returned
    obtain ⟨block'', thread'', found', written, -⟩ := buildPrefilledMacIpSctpDataHdr_cases returned
    rw [found] at found'
    cases found'
    have bytes := slice_dataFrame (mid.frames buffer) cellPlen.toUInt32 bundled
      mid.assoc.verTag (mid.prefilledChunk called block' thread')
    refine ⟨_, buffer, 46 + (behindFirst (mid.frames buffer) bundled).toNat, written,
      Nat.le_add_right 46 _, ?_⟩
    rw [frames, Function.update_self, ← bytes, made]

/-- A message of two chunks, with one of another stream in between. -/
theorem message_fragmented_in_two :
    (prefilledClient [2000, 10]).assoc.osThread 0 =
      some (0, { SctpThread.zero with posHigh := 2000 }) ∧
    chunkCount 2000 = 2 ∧
    ∃ after log, run buildPrefilledMacIpSctpDataHdr (prefilledClient [2000, 10]) [0, 1, 0] =
        some (after, log) ∧
      ((sentOn log 0).take 2).flatMap DataChunk.payload =
        slice ((prefilledClient [2000, 10]).buffers 0) 0 2000 := by
  have own : ∀ other entry, (prefilledClient [2000, 10]).assoc.osThread other = some entry →
      entry.1 = 0 → other = 0 := by
    intro other entry found same
    have present : [(0, { SctpThread.zero with posHigh := 2000 }),
        (1, { SctpThread.zero with posHigh := 10 })][other.toNat]? = some entry := found
    rcases index : other.toNat with _ | _ | n <;> rw [index] at present
    · exact UInt16.toNat_inj.mp index
    · cases present
      cases same
    · cases present
  have streams : ∀ called ∈ [0, 1, 0],
      ((prefilledClient [2000, 10]).assoc.osThread called).isSome = true := by
    rw [List.forall_mem_cons, List.forall_mem_cons, List.forall_mem_singleton]
    exact ⟨rfl, rfl, rfl⟩
  have equipped : (prefilledClient [2000, 10]).Equipped :=
    ⟨rfl, rfl, rfl, by decide +kernel⟩
  obtain ⟨after, log, sent, ran, rfl, -, payloads, -⟩ := message_fragmented
    (prefilledClient [2000, 10]) 0 0 { SctpThread.zero with posHigh := 2000 } [0, 1, 0] rfl rfl rfl rfl
    own streams equipped (by decide +kernel) (by decide)
  exact ⟨rfl, by decide, after, log, ran, payloads⟩

end Kpnet.Sctp
