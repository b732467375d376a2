import Kpnet.Sctp.Streams

/-!
# Packets of chunks

What a receiver finds in a packet that `sctp_build_data_hdr` has given to the transmit ring,
against the chunks that were written into it. A chunk announces the length of its payload, where
the receiver expects that of the whole chunk, and the next one is written 16 bytes too early.
-/
namespace Kpnet.Sctp

open Bytes Runs

/-- A packet given to the transmit ring, and the chunks built for it. -/
structure Packet where
  frame : Option Bytes
  plen : UInt64
  taken : Bool
  built : List DataChunk

/-- The packets among what was left behind, when `built` has been written into the first. -/
def packets : List DataChunk → List DataEvent → List Packet
  | _, [] => []
  | built, .wrote chunk :: log => packets (built ++ [chunk]) log
  | built, .pushed frame plen taken :: log => ⟨frame, plen, taken, built⟩ :: packets [] log

/-- The chunks written into the packet that is still under construction. -/
def pending : List DataChunk → List DataEvent → List DataChunk
  | built, [] => built
  | built, .wrote chunk :: log => pending (built ++ [chunk]) log
  | _, .pushed _ _ _ :: log => pending [] log

/-- From `o` to `stop` there are these chunks and nothing else. Each takes up the length it
announces, with its headers and rounded up to 4. -/
def ReadsAs (frame : Bytes) (stop : Nat) : Nat → List DataChunk → Prop
  | o, [] => o = stop
  | o, chunk :: rest =>
    let len := (ntohs (u16 frame (o + 2))).toNat
    frame o = 0 ∧ 16 ≤ len ∧ u32 frame (o + 4) = chunk.hdr.tsn ∧
      ntohs (u16 frame (o + 8)) = chunk.streamId ∧ slice frame (o + 16) (len - 16) = chunk.payload ∧
      ReadsAs frame stop (o + (len + 3) / 4 * 4) rest

/-- The packet, behind the headers and up to its length, is the chunks built for it. -/
def Packet.ReadsBack (packet : Packet) : Prop :=
  ∃ frame, packet.frame = some frame ∧ ReadsAs frame packet.plen.toNat 46 packet.built

/-- The packet under construction is empty, as `create_client` leaves it, and a chunk fits in. -/
structure Sender.Fresh (s : Sender) : Prop where
  fits : 20 ≤ s.assoc.mtu
  empty : s.assoc.remainPlen = s.assoc.mtu
  start : s.cursor = 46

/-- The next call gives the packet under construction to the transmit ring, which takes it. -/
def Sender.Pushes (s : Sender) : Prop :=
  s.currentPacket ≠ none ∧ s.assoc.remainPlen < 20 ∧ s.HasRoom

instance decidablePushes (s : Sender) : Decidable s.Pushes :=
  inferInstanceAs (Decidable (_ ∧ _ ∧ _))

/-- The packet under construction, after `built` has been written into it. Behind the first chunk
nothing reaches its length. -/
structure Filling (s : Sender) (built : List DataChunk) : Prop where
  fits : 20 ≤ s.assoc.mtu.toNat
  remain : s.assoc.remainPlen.toNat ≤ s.assoc.mtu.toNat
  cursor : s.cursor + s.assoc.remainPlen.toNat = 46 + s.assoc.mtu.toNat
  empty : built = [] → s.assoc.remainPlen = s.assoc.mtu
  first : ∀ chunk rest packet, built = chunk :: rest → s.currentPacket = some packet →
    50 ≤ s.cursor ∧ 0 < chunk.payload.length ∧
      u16 (s.frames packet) 48 = htons (UInt16.ofNat chunk.payload.length)

theorem packets_append (built : List DataChunk) (ev log : List DataEvent) :
    packets built (ev ++ log) = packets built ev ++ packets (pending built ev) log := by
  induction ev generalizing built with
  | nil => rfl
  | cons event ev ih =>
    cases event with
    | wrote chunk => exact ih (built ++ [chunk])
    | pushed frame plen taken => exact congrArg (List.cons _) (ih [])

theorem Sender.Fresh.filling {s : Sender} (fresh : s.Fresh) : Filling s [] := by
  have remain := congrArg UInt32.toNat fresh.empty
  have start := fresh.start
  refine ⟨UInt32.le_iff_toNat_le.mp fresh.fits, by omega, by omega, fun _ => fresh.empty, ?_⟩
  intro chunk rest packet wrong
  cases wrong

/-- A packet that has just been begun. -/
theorem Filling.flush {s after : Sender} {built : List DataChunk} {ev : List DataEvent}
    (filling : Filling s built) (flushed : s.flush = some (after, ev)) : Filling after [] := by
  obtain ⟨tx, tx', ring, packet, -, rfl, -⟩ := Sender.flush_cases flushed
  refine ⟨filling.fits, Nat.le_refl _, rfl, fun _ => rfl, ?_⟩
  intro chunk rest packet wrong
  cases wrong

/-- The length that the chunk just written announces. -/
theorem u16_putChunk (s : Sender) (packet : Nat) (streamId : UInt16) (block : Nat)
    (thread : SctpThread) (behind : 42 ≤ s.cursor) :
    u16 ((s.putChunk packet streamId block thread).1.frames packet) (s.cursor + 2) =
      htons (s.pplen thread).toUInt16 := by
  rw [putChunk_frame, u16_put_of_disjoint _ _ _ _ (.inr (by simp; omega)), u16,
    slice_put _ _ _ _ _ (by simp; omega)]
  have field (l : List UInt8) (hdr : DataHdr) :
      ((hdr.encode ++ l).drop 2).take 2 = le16 hdr.len := by
    simp [DataHdr.encode]
  rw [List.append_assoc, field, ofNat_word_le16]
  rfl

/-- What is in the packet before the chunk, but for the tag, is not touched. -/
theorem u16_putChunk_before (s : Sender) (packet : Nat) (streamId : UInt16) (block : Nat)
    (thread : SctpThread) {o : Nat} (behind : 42 ≤ o) (before : o + 2 ≤ s.cursor) :
    u16 ((s.putChunk packet streamId block thread).1.frames packet) o = u16 (s.frames packet) o := by
  rw [putChunk_frame, u16_put_of_disjoint _ _ _ _ (.inr (by simp; omega)),
    u16_put_of_disjoint _ _ _ _ (.inl before)]

/-- A chunk is written into a packet that has room for it. -/
theorem Filling.putChunk {s : Sender} {built : List DataChunk} {packet block : Nat}
    {streamId : UInt16} {thread : SctpThread} (filling : Filling s built)
    (target : s.currentPacket = some packet) (enough : 20 ≤ s.assoc.remainPlen.toNat)
    (room : chunkRoom s.assoc.remainPlen thread ≠ 0) :
    Filling (s.putChunk packet streamId block thread).1
      (built ++ [(s.putChunk packet streamId block thread).2]) := by
  obtain ⟨positive, -, four, fits⟩ := pplen_bounds s enough room
  obtain ⟨mtu, remain, cursor, empty, first⟩ := filling
  have left : (s.assoc.remainPlen - s.alignedLen thread).toNat =
      s.assoc.remainPlen.toNat - (s.alignedLen thread).toNat :=
    UInt32.toNat_sub_of_le _ _ (UInt32.le_iff_toNat_le.mpr (by omega))
  have mtu' : (s.putChunk packet streamId block thread).1.assoc.mtu = s.assoc.mtu := by
    rw [putChunk_assoc, advance_mtu, setThread_mtu]
  have remain' : (s.putChunk packet streamId block thread).1.assoc.remainPlen =
      s.assoc.remainPlen - s.alignedLen thread := by
    rw [putChunk_assoc, advance_remainPlen]
  refine ⟨by rw [mtu']; exact mtu, ?_, ?_, by simp, ?_⟩
  · rw [mtu', remain', left]
    omega
  · rw [mtu', remain', left, putChunk_cursor]
    omega
  · intro chunk rest packet' is current
    rw [putChunk_currentPacket, target] at current
    cases current
    rw [putChunk_cursor]
    cases built with
    | nil =>
      -- the first chunk, right behind the headers
      have start : s.cursor = 46 := by
        rw [empty rfl] at cursor
        omega
      cases is
      have length : (s.nextChunk streamId block thread (s.pplen thread)).payload.length =
          (s.pplen thread).toNat := length_slice _ _ _
      have announced := u16_putChunk s packet streamId block thread (by omega)
      rw [start] at announced
      rw [putChunk_chunk, length, announced]
      exact ⟨by omega, positive, rfl⟩
    | cons older others =>
      -- the length of an older one is in front of what is written
      obtain ⟨rfl, -⟩ := List.cons.inj is
      obtain ⟨behind, positive, announced⟩ := first older others packet rfl target
      refine ⟨by omega, positive, ?_⟩
      rw [u16_putChunk_before s packet streamId block thread (by omega) (by omega), announced]

/-- Where the first chunk announces the length of its payload, its payload is not read back. -/
theorem not_readsAs_of_first {frame : Bytes} {stop : Nat} {chunk : DataChunk}
    {rest : List DataChunk} (announced : u16 frame 48 = htons (UInt16.ofNat chunk.payload.length)) :
    ¬ReadsAs frame stop 46 (chunk :: rest) := by
  rintro ⟨-, headers, -, -, payload, -⟩
  rw [announced, ntohs_htons, UInt16.toNat_ofNat'] at headers payload
  -- 16 bytes of it are missing
  have length := congrArg List.length payload
  rw [length_slice] at length
  have wrapped := Nat.mod_le chunk.payload.length (2 ^ 16)
  omega

/-- A full packet is not read back. -/
theorem Filling.not_readsBack {s : Sender} {built : List DataChunk} (filling : Filling s built)
    (full : s.assoc.remainPlen < 20) {packet : Nat} (current : s.currentPacket = some packet)
    (plen : UInt64) (taken : Bool) :
    ¬Packet.ReadsBack ⟨s.currentPacket.map s.frames, plen, taken, built⟩ := by
  rintro ⟨frame, is, reads⟩
  rw [current, Option.map_some] at is
  cases is
  cases built with
  | nil =>
    -- an empty packet is not full
    rw [filling.empty rfl, UInt32.lt_iff_toNat_lt] at full
    exact absurd filling.fits (Nat.not_le.mpr full)
  | cons chunk rest => exact not_readsAs_of_first (filling.first chunk rest packet rfl current).2.2 reads

/-- A call goes on filling, and what it pushes is read back only if it pushes nothing. -/
theorem Filling.build {s after : Sender} {built : List DataChunk} {streamId : UInt16}
    {ev : List DataEvent} (filling : Filling s built)
    (returned : sctpBuildDataHdr s streamId = some (after, ev)) :
    Filling after (pending built ev) ∧
    ((∀ packet ∈ packets built ev, packet.taken = true → packet.ReadsBack) ↔ ¬s.Pushes) := by
  obtain ⟨idle, rfl, rfl⟩ | ⟨busy, mid, flushed, block, thread, target, prepared, -, current, room,
    rfl, rfl⟩ := sctpBuildDataHdr_cases returned
  · refine ⟨filling, ?_⟩
    simp [packets, Sender.Pushes, idle]
  · rcases prepared with ⟨full, flush⟩ | ⟨fitting, rfl, rfl⟩
    · -- the packet is pushed, and the chunk is the first of the next one
      have begun := filling.flush flush
      have enough : 20 ≤ mid.assoc.remainPlen.toNat := by
        rw [begun.empty rfl]
        exact begun.fits
      obtain ⟨tx, tx', ring, next, queue, -, rfl⟩ := Sender.flush_cases flush
      refine ⟨begun.putChunk current enough room, ?_⟩
      obtain ⟨packet, present⟩ := Option.ne_none_iff_exists'.mp busy
      constructor
      · rintro readsBack ⟨-, -, roomy⟩
        obtain ⟨tx', queue', free⟩ := roomy
        rw [queue] at queue'
        cases queue'
        exact filling.not_readsBack full present _ _
          (readsBack _ List.mem_cons_self (decide_eq_true free))
      · intro silent packet member taken
        -- a packet that was not taken counts for nothing
        cases List.mem_singleton.mp member
        exact absurd ⟨busy, full, tx, queue, of_decide_eq_true taken⟩ silent
    · -- there is room, so nothing is pushed
      have enough : 20 ≤ mid.assoc.remainPlen.toNat :=
        Nat.le_of_not_lt fun less => fitting (UInt32.lt_iff_toNat_lt.mpr less)
      refine ⟨filling.putChunk current enough room, ?_⟩
      constructor
      · exact fun _ pushes => fitting pushes.2.1
      · intro _ packet member
        cases member

/-- Every packet that a run pushes is read back as the chunks built for it exactly if the run
pushes none. -/
theorem packets_parse_back_iff (s after : Sender) (calls : List UInt16) (log : List DataEvent)
    (fresh : s.Fresh) (ran : run sctpBuildDataHdr s calls = some (after, log)) :
    (∀ packet ∈ packets [] log, packet.taken = true → packet.ReadsBack) ↔
      Along sctpBuildDataHdr (fun s _ => ¬s.Pushes) s calls := by
  -- the packets of a log depend on the chunks that were pending before it
  refine judged_log_iff_along sctpBuildDataHdr (fun s _ => ¬s.Pushes) Filling pending
    (fun built log => ∀ packet ∈ packets built log, packet.taken = true → packet.ReadsBack)
    ?_ ?_ ?_ calls s after [] log fresh.filling ran
  · intro built packet member
    cases member
  · intro built ev log
    simp only [packets_append, List.mem_append, or_imp, forall_and]
  · intro s built streamId after ev filling returned
    obtain ⟨kept, judged⟩ := filling.build returned
    exact ⟨fun _ => kept, judged⟩

theorem packets_parse_back_iff_second : ∃ after log,
    run sctpBuildDataHdr (streamingClient 0 [10, 2000]) [0, 1, 1] = some (after, log) ∧
    ¬∀ packet ∈ packets [] log, packet.taken = true → packet.ReadsBack := by
  have returns : (run sctpBuildDataHdr (streamingClient 0 [10, 2000]) [0, 1, 1]).isSome = true := by
    decide +kernel
  obtain ⟨⟨after, log⟩, ran⟩ := Option.isSome_iff_exists.mp returns
  refine ⟨after, log, ran, ?_⟩
  rw [packets_parse_back_iff (streamingClient 0 [10, 2000]) after [0, 1, 1] log
    ⟨by decide, by decide, by decide⟩ ran]
  decide +kernel

/-- A packet with two chunks, of 10 and 1424 bytes, is pushed. Its first chunk announces 10
bytes, which is less than its headers. -/
theorem packet_cut_short : ∃ after log packet frame,
    run sctpBuildDataHdr (streamingClient 0 [10, 2000]) [0, 1, 1] = some (after, log) ∧
    packet ∈ packets [] log ∧ packet.taken = true ∧ packet.plen = 1482 ∧
    packet.built.map (fun chunk => chunk.payload.length) = [10, 1424] ∧
    packet.frame = some frame ∧ ntohs (u16 frame 48) = 10 ∧ ¬packet.ReadsBack := by
  have pushed : (run sctpBuildDataHdr (streamingClient 0 [10, 2000]) [0, 1, 1]).map
      (fun ran => (packets [] ran.2).map fun packet =>
        (packet.taken, packet.plen, packet.built.map (fun chunk => chunk.payload.length),
          packet.frame.map fun frame => ntohs (u16 frame 48))) =
      some [(true, 1482, [10, 1424], some 10)] := by
    decide +kernel
  obtain ⟨⟨after, log⟩, ran, values⟩ := Option.map_eq_some_iff.mp pushed
  obtain ⟨packet, only, fields⟩ := List.map_eq_singleton_iff.mp values
  simp only [Prod.mk.injEq] at fields
  obtain ⟨taken, plen, built, first⟩ := fields
  obtain ⟨frame, present, announced⟩ := Option.map_eq_some_iff.mp first
  refine ⟨after, log, packet, frame, ran, by simp [only], taken, plen, built, present, announced, ?_⟩
  rintro ⟨frame', present', reads⟩
  rw [present] at present'
  cases present'
  -- whatever chunks are looked for, the first is too short
  cases chunks : packet.built with
  | nil =>
    rw [chunks] at built
    cases built
  | cons chunk rest =>
    rw [chunks] at reads
    have headers := reads.2.1
    rw [announced] at headers
    exact absurd headers (by decide)

end Kpnet.Sctp
