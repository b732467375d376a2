import Kpnet.Sctp.PacketBounds
import Kpnet.Sctp.Templates

/-!
# The limit of a frame

How long the frames of `build_prefilled_mac_ip_sctp_data_hdr.c` get. The room for a chunk is what a
bare template leaves of `MAX_PACKET_LEN`, also where the chunk goes behind another one; and a frame
is given back as a template with the length it had when the second chunk came.
-/
namespace Kpnet.Sctp

open Bytes Runs

/-- The calls, and what the application stores in the association and its streams in between. -/
inductive StreamAction where
  | build (streamId : UInt16)
  | refill (assoc : SctpAssociation) (buffers : Nat → Bytes)

def streamAct (s : Sender) : StreamAction → Option (Sender × List DataEvent)
  | .build streamId => buildPrefilledMacIpSctpDataHdr s streamId
  | .refill assoc buffers => some ({ s with assoc := assoc, buffers := buffers }, [])

/-- The stores that make up `dataFrame`. -/
def dataStores (frame : Bytes) (plen : UInt32) (bundled : Bool) (verTag : UInt32)
    (chunk : DataChunk) : List PacketStore :=
  let behind := behindFirst frame bundled
  let taken := UInt32.ofNat chunk.payload.length
  let pad := if plen < 1500 then (0 - (16 + taken)) &&& 3 else 0
  let padding : List PacketStore := if plen < 1500 ∧ bundled = false
    then [⟨46 + 16 + taken.toNat, List.replicate pad.toNat 0⟩] else []
  let body := padding ++ [⟨46 + behind.toNat, chunk.hdr.encode⟩,
    ⟨46 + 16 + behind.toNat, chunk.payload⟩, ⟨24, le16 0⟩]
  let headers := body ++ [⟨24, le16 (tcpChecksum (shift (storeAll frame body) 14) 20)⟩,
    ⟨38, le32 verTag⟩, ⟨42, le32 0⟩]
  let length := 12 + (ntohs chunk.hdr.len).toUInt32 + pad + behind
  headers ++ [⟨42, le32 (~~~(generateCrc32cOnCrc32c (shift (storeAll frame headers) 34) length
    0xFFFFFFFF).toUInt32)⟩]

theorem storeAll_dataStores (frame : Bytes) (plen : UInt32) (bundled : Bool) (verTag : UInt32)
    (chunk : DataChunk) :
    storeAll frame (dataStores frame plen bundled verTag chunk) =
      (dataFrame frame plen bundled verTag chunk).1 := by
  simp only [dataStores, dataFrame, behindFirst]
  split
  · rfl
  · rfl

/-- The first chunk of a frame, with its padding. -/
theorem toNat_behindFirst {frame : Bytes} :
    (behindFirst frame true).toNat = ((ntohs (u16 frame 48)).toNat + 3) / 4 * 4 := by
  have bound := (ntohs (u16 frame 48)).toNat_lt
  have pad := toNat_pad (ntohs (u16 frame 48)).toUInt32
  rw [UInt16.toNat_toUInt32] at pad
  rw [behindFirst, if_pos rfl, UInt32.toNat_add, pad, UInt16.toNat_toUInt32]
  omega

/-- Nothing is stored behind the end of the frame, if the first chunk is within it. -/
theorem dataStores_bounds {frame : Bytes} {plen : UInt32} {bundled : Bool} (verTag : UInt32)
    {chunk : DataChunk} (short : plen.toNat < 1500) (few : chunk.payload.length ≤ 1438)
    (inside : 46 + (behindFirst frame bundled).toNat ≤ plen.toNat) :
    ∀ store ∈ dataStores frame plen bundled verTag chunk,
      store.offset + store.bytes.length ≤ (dataFrame frame plen bundled verTag chunk).2.toNat := by
  have taken : (UInt32.ofNat chunk.payload.length).toNat = chunk.payload.length :=
    UInt32.toNat_ofNat_of_lt' (show _ < 2 ^ 32 by omega)
  have below : plen < 1500 := UInt32.lt_iff_toNat_lt.mpr short
  have headed := toNat_headed (UInt32.ofNat chunk.payload.length) (by omega)
  have pad := toNat_pad (16 + UInt32.ofNat chunk.payload.length)
  rw [dataFrame_snd, toNat_dataLen short (by omega), taken]
  rw [headed, taken] at pad
  have padding : ∀ store ∈ (if plen < 1500 ∧ bundled = false then
      [(⟨46 + 16 + chunk.payload.length, List.replicate
        ((0 - (16 + UInt32.ofNat chunk.payload.length)) &&& 3).toNat 0⟩ : PacketStore)] else []),
      store.offset + store.bytes.length ≤ plen.toNat + (16 + chunk.payload.length + 3) / 4 * 4 := by
    split
    · rw [List.forall_mem_singleton, List.length_replicate, pad]
      dsimp only
      omega
    · simp
  simp only [dataStores, List.forall_mem_append, List.forall_mem_cons, List.not_mem_nil,
    IsEmpty.forall_iff, implies_true, and_true, length_encode_dataHdr, length_le16, length_le32, taken,
    if_pos below]
  refine ⟨⟨⟨padding, ?_, ?_, ?_⟩, ?_, ?_, ?_⟩, ?_⟩
  all_goals omega

/-- What a call takes of its stream. -/
def SctpThread.nextTaken (thread : SctpThread) : Nat :=
  min 1438 (thread.posHigh - thread.posCurrent).toNat

theorem length_prefilledChunk (s : Sender) (streamId : UInt16) (block : Nat) (thread : SctpThread) :
    (s.prefilledChunk streamId block thread).payload.length = thread.nextTaken := by
  rw [Sender.prefilledChunk, length_slice, toNat_min32]
  rfl

/-- The length that its header announces. -/
theorem toNat_len_prefilledChunk (s : Sender) (streamId : UInt16) (block : Nat)
    (thread : SctpThread) :
    (ntohs (s.prefilledChunk streamId block thread).hdr.len).toNat = 16 + thread.nextTaken := by
  have taken : (min32 maxPayload (thread.posHigh - thread.posCurrent)).toNat = thread.nextTaken :=
    toNat_min32 _ _
  have few : thread.nextTaken ≤ 1438 := Nat.min_le_left _ _
  rw [Sender.prefilledChunk, ntohs_htons, UInt32.toNat_toUInt16, toNat_headed _ (by omega), taken]
  omega

/-- The frame that the next chunk goes to: the one that waits, else the first template. -/
def Sender.nextEntry (s : Sender) : Option (Option Nat × UInt64) :=
  (held s.bundling).head?.or (held s.prefilledRing).head?

/-- What a call does to a buffer, and the length that it pushes it with. -/
structure DataWrite where
  buffer : Nat
  plen : UInt32
  stores : List PacketStore

/-- What the next call for a stream will write. -/
def Sender.dataWrite (s : Sender) (streamId : UInt16) : Option DataWrite :=
  match s.assoc.osThread streamId, s.nextEntry with
  | some (block, thread), some (some buffer, cellPlen) =>
    let bundled := decide (held s.bundling ≠ [])
    let chunk := s.prefilledChunk streamId block thread
    some
      { buffer := buffer
        plen := (dataFrame (s.frames buffer) cellPlen.toUInt32 bundled s.assoc.verTag chunk).2
        stores := dataStores (s.frames buffer) cellPlen.toUInt32 bundled s.assoc.verTag chunk }
  | _, _ => none

/-- A call has written this and nothing else, and pushed it with this length, to the transmit ring or
to the frames that wait. -/
structure Sender.Built (s after : Sender) (ev : List DataEvent) (write : DataWrite) : Prop where
  frames : after.frames = Function.update s.frames write.buffer
    (storeAll (s.frames write.buffer) write.stores)
  sent : ∀ frame plen taken, .pushed frame plen taken ∈ ev → plen = write.plen.toUInt64
  waits : ∀ entry ∈ held after.bundling,
    entry ∈ (held s.bundling).tail ∨ entry = (some write.buffer, write.plen.toUInt64)

/-- A frame within `MAX_PACKET_LEN`, and nothing stored behind its end. -/
structure DataWrite.Within (write : DataWrite) : Prop where
  limit : write.plen.toNat ≤ 1516
  stores : ∀ store ∈ write.stores, store.offset + store.bytes.length ≤ write.plen.toNat

/-- The frame as it is, and what is taken of the stream. -/
def Sender.nextSize (s : Sender) (streamId : UInt16) : Nat :=
  match s.assoc.osThread streamId, s.nextEntry with
  | some (_, thread), some (some _, cellPlen) => cellPlen.toNat + thread.nextTaken
  | _, _ => 0

/-- The frame has room for what is taken. -/
def Sender.HasRoom (s : Sender) : StreamAction → Prop
  | .build streamId => s.nextSize streamId ≤ 1498
  | .refill _ _ => True

instance (s : Sender) (action : StreamAction) : Decidable (s.HasRoom action) :=
  match action with
  | .build _ => inferInstanceAs (Decidable (_ ≤ _))
  | .refill _ _ => inferInstanceAs (Decidable True)

/-- The lengths that a frame with room for another chunk can have. -/
structure OpenLen (plen : UInt64) : Prop where
  headers : 46 ≤ plen.toNat
  short : plen.toNat < 1500
  aligned : plen.toNat % 4 = 2

/-- All frames in the hands of the builder are open. No more than one waits, and its first chunk is
within its length. -/
structure Sender.AllOpen (s : Sender) : Prop where
  templates : ∀ entry ∈ held s.prefilledRing, OpenLen entry.2
  waiting : held s.bundling = [] ∨ ∃ buffer plen, held s.bundling = [(some buffer, plen)] ∧
    OpenLen plen ∧ 46 + (behindFirst (s.frames buffer) true).toNat ≤ plen.toNat

/-- What a call does, in terms of the frame it works on. -/
theorem buildPrefilledMacIpSctpDataHdr_built {s after : Sender} {streamId : UInt16}
    {ev : List DataEvent} (returned : buildPrefilledMacIpSctpDataHdr s streamId = some (after, ev)) :
    ∃ write, s.dataWrite streamId = some write ∧ s.Built after ev write := by
  obtain ⟨block, thread, buffer, cellPlen, bundled, rest, frame, plen, stream, made, frames, way⟩ :=
    buildPrefilledMacIpSctpDataHdr_traffic returned
  have stored : storeAll (s.frames buffer) (dataStores (s.frames buffer) cellPlen.toUInt32 bundled
      s.assoc.verTag (s.prefilledChunk streamId block thread)) = frame := by
    rw [storeAll_dataStores, made]
  rw [← stored] at frames
  have found (entry : s.nextEntry = some (some buffer, cellPlen))
      (same : decide (held s.bundling ≠ []) = bundled) :
      s.dataWrite streamId = some ⟨buffer, plen, dataStores (s.frames buffer) cellPlen.toUInt32 bundled
        s.assoc.verTag (s.prefilledChunk streamId block thread)⟩ := by
    rw [Sender.dataWrite, stream, entry]
    dsimp only
    rw [same, made]
  have pushed (frame' : Option Bytes) (len : UInt64) (taken : Bool)
      (member : .pushed frame' len taken ∈ [DataEvent.wrote (s.prefilledChunk streamId block thread),
        .pushed (some frame) plen.toUInt64 (decide (Roomy s.txRing))]) : len = plen.toUInt64 := by
    simp only [List.mem_cons, List.not_mem_nil, or_false, reduceCtorEq, false_or] at member
    cases member
    rfl
  rcases way with ⟨rfl, waiting, left, -, -, rfl⟩ | ⟨rfl, none, taken, -, sink⟩
  · refine ⟨_, found (by rw [Sender.nextEntry, waiting]; rfl) (by simp [waiting]), frames, pushed, ?_⟩
    intro entry member
    rw [waiting]
    exact .inl (left ▸ member)
  · refine ⟨_, found (by rw [Sender.nextEntry, none, taken]; rfl) (by simp [none]), frames, ?_, ?_⟩
    · rcases sink with ⟨-, -, -, rfl⟩ | ⟨-, -, -, rfl⟩
      · simp
      · exact pushed
    · intro entry member
      rcases sink with ⟨-, waits, -⟩ | ⟨-, left, -⟩
      · rw [waits] at member
        exact .inr (List.mem_singleton.mp member)
      · rw [left] at member
        cases member

theorem OpenLen.toNat_toUInt32 {plen : UInt64} (len : OpenLen plen) :
    plen.toUInt32.toNat = plen.toNat := by
  have short := len.short
  rw [UInt64.toNat_toUInt32]
  omega

/-- A frame that is open, with a chunk more. -/
theorem OpenLen.toNat_dataLen {plen : UInt64} (len : OpenLen plen) (s : Sender) (streamId : UInt16)
    (block : Nat) (thread : SctpThread) (frame : Bytes) (bundled : Bool) (verTag : UInt32) :
    (dataFrame frame plen.toUInt32 bundled verTag (s.prefilledChunk streamId block thread)).2.toNat =
      plen.toNat + (16 + thread.nextTaken + 3) / 4 * 4 := by
  have few : thread.nextTaken ≤ 1438 := Nat.min_le_left _ _
  have taken : (UInt32.ofNat thread.nextTaken).toNat = thread.nextTaken :=
    UInt32.toNat_ofNat_of_lt' (show _ < 2 ^ 32 by omega)
  have short : plen.toUInt32.toNat < 1500 := by
    rw [len.toNat_toUInt32]
    exact len.short
  rw [dataFrame_snd, length_prefilledChunk, Sctp.toNat_dataLen short (by omega), taken,
    len.toNat_toUInt32]

/-- The frame that is next is open, and what is there of chunks is within its length. -/
theorem Sender.AllOpen.next {s : Sender} (all : s.AllOpen) {buffer : Nat} {plen : UInt64}
    (entry : s.nextEntry = some (some buffer, plen)) :
    OpenLen plen ∧
      46 + (behindFirst (s.frames buffer) (decide (held s.bundling ≠ []))).toNat ≤ plen.toNat := by
  rcases all.waiting with none | ⟨buffer', plen', waiting, len, inside⟩
  · have template : (held s.prefilledRing).head? = some (some buffer, plen) := by
      rw [← entry, Sender.nextEntry, none, List.head?_nil, Option.none_or]
    have len := all.templates _ (List.mem_of_mem_head? template)
    refine ⟨len, ?_⟩
    have first : behindFirst (s.frames buffer) (decide (held s.bundling ≠ [])) = 0 := by simp [none]
    rw [first]
    exact len.headers
  · rw [Sender.nextEntry, waiting, List.head?_cons, Option.some_or] at entry
    cases entry
    rw [waiting]
    exact ⟨len, inside⟩

/-- The limit is kept exactly if there is room for what is taken. -/
theorem Sender.AllOpen.within_iff {s : Sender} (all : s.AllOpen) {streamId : UInt16}
    {write : DataWrite} (found : s.dataWrite streamId = some write) :
    write.Within ↔ s.nextSize streamId ≤ 1498 := by
  unfold Sender.dataWrite at found
  split at found
  next block thread buffer plen stream entry =>
    cases found
    obtain ⟨len, inside⟩ := all.next entry
    have total := len.toNat_dataLen s streamId block thread (s.frames buffer)
      (decide (held s.bundling ≠ [])) s.assoc.verTag
    have aligned := len.aligned
    have size : s.nextSize streamId = plen.toNat + thread.nextTaken := by
      rw [Sender.nextSize, stream, entry]
    rw [size]
    -- lengths are 2 more than a multiple of 4, so the padding does not reach over the limit
    constructor
    · intro within
      have limit := within.limit
      dsimp only at limit
      omega
    · intro room
      refine ⟨by dsimp only; omega, ?_⟩
      exact dataStores_bounds s.assoc.verTag (by rw [len.toNat_toUInt32]; exact len.short)
        (by rw [length_prefilledChunk]; exact Nat.min_le_left _ _)
        (by rw [len.toNat_toUInt32]; exact inside)
  · cases found

/-- The first chunk of a frame, filled up, is what it was made longer by. -/
theorem first_inside {plen : UInt64} (len : OpenLen plen) (s : Sender) (streamId : UInt16)
    (block : Nat) (thread : SctpThread) (frame : Bytes) (verTag : UInt32) :
    let built := dataFrame frame plen.toUInt32 false verTag (s.prefilledChunk streamId block thread)
    46 + (behindFirst built.1 true).toNat ≤ built.2.toNat := by
  intro built
  have total := len.toNat_dataLen s streamId block thread frame false verTag
  have headers := len.headers
  have chunk := slice_dataFrame frame plen.toUInt32 false verTag
    (s.prefilledChunk streamId block thread)
  rw [behindFirst_false] at chunk
  have announced : u16 built.1 48 = (s.prefilledChunk streamId block thread).hdr.len :=
    u16_of_slice chunk 2 _ (by omega) rfl
  rw [toNat_behindFirst, announced, toNat_len_prefilledChunk, total]
  omega

/-- A call leaves all frames open, within the limit or not. -/
theorem Sender.AllOpen.build {s after : Sender} (all : s.AllOpen) {streamId : UInt16}
    {ev : List DataEvent} (returned : buildPrefilledMacIpSctpDataHdr s streamId = some (after, ev)) :
    after.AllOpen := by
  obtain ⟨block, thread, buffer, cellPlen, bundled, rest, frame, plen, stream, made, frames, way⟩ :=
    buildPrefilledMacIpSctpDataHdr_traffic returned
  rcases way with ⟨rfl, waiting, left, -, given, -⟩ | ⟨rfl, none, taken, given, sink⟩
  · -- the frame that waited goes back with the length it had
    obtain impossible | ⟨buffer', plen', single, len, -⟩ := all.waiting
    · rw [waiting] at impossible
      cases impossible
    · rw [waiting] at single
      cases single
      refine ⟨?_, .inl left⟩
      intro entry member
      rw [given, offered] at member
      split at member
      · rcases List.mem_append.mp member with old | new
        · exact all.templates entry old
        · rw [List.mem_singleton.mp new]
          exact len
      · exact all.templates entry member
  · have len : OpenLen cellPlen := all.templates (some buffer, cellPlen) (by simp [taken])
    have templates : ∀ entry ∈ held after.prefilledRing, OpenLen entry.2 := by
      intro entry member
      rw [given] at member
      apply all.templates
      rw [taken]
      exact (List.perm_append_singleton _ _).mem_iff.mp member
    refine ⟨templates, ?_⟩
    rcases sink with ⟨short, waits, -⟩ | ⟨-, left, -⟩
    · -- a template with room left waits, 4 bytes or a multiple of that longer
      have total := len.toNat_dataLen s streamId block thread (s.frames buffer) false s.assoc.verTag
      have inside := first_inside len s streamId block thread (s.frames buffer) s.assoc.verTag
      rw [made] at total inside
      dsimp only at total inside
      have few : plen.toNat < 1500 := UInt32.lt_iff_toNat_lt.mp short
      have headers := len.headers
      have aligned := len.aligned
      refine .inr ⟨buffer, plen.toUInt64, waits, ⟨?_, ?_, ?_⟩, ?_⟩
      · rw [UInt32.toNat_toUInt64]
        omega
      · rw [UInt32.toNat_toUInt64]
        exact few
      · rw [UInt32.toNat_toUInt64]
        omega
      · rw [frames, Function.update_self, UInt32.toNat_toUInt64]
        exact inside
    · exact .inl left

/-- So do whole runs. -/
theorem Sender.AllOpen.run {s after : Sender} (all : s.AllOpen) {actions : List StreamAction}
    {log : List DataEvent} (ran : Runs.run streamAct s actions = some (after, log)) :
    after.AllOpen := by
  refine run_induction streamAct (fun _ _ => True) s (fun _ s _ => s.AllOpen) all ?_ actions after log
    ran (along_true _ s actions)
  intro _ action mid _ next ev _ held _ stepped
  -- what the application changes is not part of the frames
  cases action with
  | build streamId => exact held.build stepped
  | refill assoc buffers =>
    cases stepped
    exact ⟨held.templates, held.waiting⟩

/-- From templates of 46 bytes, every call of a run stays within `MAX_PACKET_LEN`, with the frame it
pushes and with all that it stores, exactly if every call finds room in its frame. -/
theorem bundled_frames_within_iff (s after : Sender) (actions : List StreamAction)
    (log : List DataEvent) (templates : ∀ entry ∈ held s.prefilledRing, entry.2 = 46)
    (idle : held s.bundling = []) (ran : run streamAct s actions = some (after, log)) :
    (∀ before streamId mid sofar next ev, before ++ [.build streamId] <+: actions →
      run streamAct s before = some (mid, sofar) →
      buildPrefilledMacIpSctpDataHdr mid streamId = some (next, ev) →
      ∃ write, mid.dataWrite streamId = some write ∧ mid.Built next ev write ∧ write.Within) ↔
    Along streamAct Sender.HasRoom s actions := by
  have start : s.AllOpen := by
    refine ⟨?_, .inl idle⟩
    intro entry member
    rw [templates entry member]
    exact ⟨by decide, by decide, by decide⟩
  rw [along_iff_forall_initial]
  constructor
  · intro within before action mid sofar initial reached
    cases action with
    | refill assoc buffers => trivial
    | build streamId =>
      obtain ⟨next, ev, returned⟩ := step_of_run ran initial reached
      obtain ⟨write, found, -, limited⟩ :=
        within before streamId mid sofar next ev initial reached returned
      exact ((start.run reached).within_iff found).mp limited
  · intro room before streamId mid sofar next ev initial reached returned
    obtain ⟨write, found, built⟩ := buildPrefilledMacIpSctpDataHdr_built returned
    have fits : mid.nextSize streamId ≤ 1498 := room before (.build streamId) mid sofar initial reached
    exact ⟨write, found, built, ((start.run reached).within_iff found).mpr fits⟩

theorem bundled_frames_within_iff_short : ∃ next ev write,
    buildPrefilledMacIpSctpDataHdr (prefilledClient [10, 20]) 1 = some (next, ev) ∧
    (prefilledClient [10, 20]).dataWrite 1 = some write ∧ write.Within := by
  have returns : (run streamAct (prefilledClient [10, 20]) [.build 1, .build 0]).isSome = true := by
    decide +kernel
  obtain ⟨⟨after, log⟩, ran⟩ := Option.isSome_iff_exists.mp returns
  have room : Along streamAct Sender.HasRoom (prefilledClient [10, 20]) [.build 1, .build 0] := by
    decide +kernel
  have within := (bundled_frames_within_iff (prefilledClient [10, 20]) after [.build 1, .build 0] log
    (fun entry member => (prefilledClient_templates _ entry member).1) (by decide +kernel)
    ran).mpr room
  obtain ⟨next, ev, -, returned, -⟩ := run_cons_eq_some ran
  obtain ⟨write, found, -, limited⟩ := within [] 1 _ _ next ev (by simp) rfl returned
  exact ⟨next, ev, write, returned, found, limited⟩

/-- The lengths of the frames that were pushed to the transmit ring. -/
def pushedLens (log : List DataEvent) : List UInt64 :=
  log.filterMap fun
    | .pushed _ plen _ => some plen
    | .wrote _ => none

/-- Behind a chunk of 10 bytes one of 1438 bytes is put, and a frame of 1530 bytes is pushed. -/
theorem bundled_frame_too_long :
    (∀ entry ∈ held (prefilledClient [10, 2000]).prefilledRing, entry.2 = 46) ∧
    held (prefilledClient [10, 2000]).bundling = [] ∧
    ∃ after log, run streamAct (prefilledClient [10, 2000]) [.build 0, .build 1] = some (after, log) ∧
      pushedLens log = [1530] := by
  have ran : (run streamAct (prefilledClient [10, 2000]) [.build 0, .build 1]).map
      (fun ran => pushedLens ran.2) = some [1530] := by
    decide +kernel
  obtain ⟨⟨after, log⟩, ran, lens⟩ := Option.map_eq_some_iff.mp ran
  exact ⟨fun entry member => (prefilledClient_templates _ entry member).1, by decide +kernel,
    after, log, ran, lens⟩

end Kpnet.Sctp
