import Kpnet.Sctp.Templates

/-!
# DATA frames at the receiver

What `sctp_check_checksums.c` says to the frames of `build_prefilled_mac_ip_sctp_data_hdr.c`.
The builder brings both checksums up to date but not the length of the IP header, which is 0 in
the templates, and the receiver takes no frame that is shorter than its headers.
-/
namespace Kpnet.Sctp

open Bytes Runs

/-- The frames that the transmit ring took, with the lengths they were pushed with. -/
def sentFrames (log : List DataEvent) : List (Bytes × UInt64) :=
  log.filterMap fun
    | .pushed (some frame) plen true => some (frame, plen)
    | _ => none

@[simp] theorem sentFrames_append (log ev : List DataEvent) :
    sentFrames (log ++ ev) = sentFrames log ++ sentFrames ev := List.filterMap_append

theorem sentFrames_pushed (chunk : DataChunk) (frame : Bytes) (plen : UInt64) (taken : Prop)
    [Decidable taken] :
    sentFrames [.wrote chunk, .pushed (some frame) plen (decide taken)] =
      if taken then [(frame, plen)] else [] := by
  by_cases room : taken
  · simp [sentFrames, room]
  · simp [sentFrames, room]

/-- The next chunk of the stream goes to the transmit ring, in a frame that waited or in one
that it fills, and is taken there. -/
def Sender.Transmits (s : Sender) (streamId : UInt16) : Prop :=
  Roomy s.txRing ∧ (held s.bundling = [] → ¬s.nextLen streamId < 1500)

instance (s : Sender) (streamId : UInt16) : Decidable (s.Transmits streamId) :=
  inferInstanceAs (Decidable (_ ∧ (_ → _)))

/-- No frame in the hands of the builder has a length in its IP header. -/
def Sender.Lengthless (s : Sender) : Prop :=
  ∀ buffer ∈ names (held s.prefilledRing) ++ names (held s.bundling), u16 (s.frames buffer) 16 = 0

theorem lengthless_of_pristine {s : Sender}
    (templates : ∀ entry ∈ held s.prefilledRing, Pristine s.frames entry)
    (idle : held s.bundling = []) : s.Lengthless := by
  intro buffer member
  rw [idle, names_nil, List.append_nil] at member
  obtain ⟨⟨packet, plen⟩, queued, rfl⟩ := List.mem_filterMap.mp member
  exact (pristine_some.mp (templates _ queued)).2.1

/-- A frame without a length is refused. -/
theorem sctpCheckChecksums_lengthless {frame : Bytes} (blank : u16 frame 16 = 0) (plen : UInt64) :
    (sctpCheckChecksums frame plen).1 = -1 := by
  apply (sctpCheckChecksums_sound frame plen).2
  intro sound
  have length := sound.len
  rw [ipLen, blank] at length
  exact absurd length (by decide)

/-- The buffers that a DATA chunk leaves to its builder are those that it had, and its own frame
is one of them. -/
theorem data_names {s after : Sender} {streamId : UInt16} {ev : List DataEvent}
    (returned : buildPrefilledMacIpSctpDataHdr s streamId = some (after, ev)) :
    ∃ buffer ∈ names (held s.prefilledRing) ++ names (held s.bundling), ∃ frame plen,
      after.frames = Function.update s.frames buffer frame ∧
      u16 frame 16 = u16 (s.frames buffer) 16 ∧
      names (held after.prefilledRing) ++ names (held after.bundling) ⊆
        names (held s.prefilledRing) ++ names (held s.bundling) ∧
      sentFrames ev = if s.Transmits streamId then [(frame, plen)] else [] := by
  obtain ⟨block, thread, buffer, cellPlen, bundled, rest, frame, plen, stream, made, frames, way⟩ :=
    buildPrefilledMacIpSctpDataHdr_traffic returned
  have header := (dataFrame_header (s.frames buffer) cellPlen.toUInt32 bundled s.assoc.verTag
    (s.prefilledChunk streamId block thread)).1
  rw [made] at header
  rcases way with ⟨-, waiting, left, -, given, rfl⟩ | ⟨-, none, taken, given, sink⟩
  · -- a frame that waited leaves, and may go back to the templates
    refine ⟨buffer, by simp [waiting], frame, plen.toUInt64, frames, header, ?_, ?_⟩
    · intro other member
      rw [given, left, names_offered] at member
      rw [waiting, names_cons_some]
      split at member
      · simp only [List.mem_append, List.mem_cons] at member ⊢
        tauto
      · simp only [List.mem_append, List.mem_cons] at member ⊢
        tauto
    · have sends : s.Transmits streamId ↔ Roomy s.txRing := by simp [Sender.Transmits, waiting]
      simp only [sentFrames_pushed, sends]
  · -- a template goes back, and waits in between if there is space left in the frame
    have next : s.nextLen streamId = plen := by
      rw [nextLen_eq stream taken, dataFrame_plen made]
    refine ⟨buffer, by simp [taken], frame, plen.toUInt64, frames, header, ?_, ?_⟩
    · intro other member
      rw [given] at member
      rw [taken, none]
      rcases sink with ⟨-, waits, -⟩ | ⟨-, left, -⟩
      · rw [waits] at member
        simp only [names_append, names_cons_some, names_nil, List.mem_append, List.mem_cons,
          List.append_nil] at member ⊢
        tauto
      · rw [left] at member
        simp only [names_append, names_cons_some, names_nil, List.mem_append, List.mem_cons,
          List.append_nil] at member ⊢
        tauto
    · rcases sink with ⟨short, -, -, rfl⟩ | ⟨long, -, -, rfl⟩
      · have waits : ¬s.Transmits streamId := fun transmits => transmits.2 none (by rwa [next])
        rw [if_neg waits]
        rfl
      · have sends : s.Transmits streamId ↔ Roomy s.txRing := by
          simp [Sender.Transmits, next, long]
        simp only [sentFrames_pushed, sends]

theorem data_lengthless {s after : Sender} {streamId : UInt16} {ev : List DataEvent}
    (lengthless : s.Lengthless)
    (returned : buildPrefilledMacIpSctpDataHdr s streamId = some (after, ev)) :
    after.Lengthless ∧ ∀ sent ∈ sentFrames ev, (sctpCheckChecksums sent.1 sent.2).1 = -1 := by
  obtain ⟨buffer, mine, frame, plen, frames, header, fewer, sends⟩ := data_names returned
  -- the builder has not written the length, so it is still that of the template
  have blank : u16 frame 16 = 0 := header.trans (lengthless buffer mine)
  constructor
  · intro other member
    rw [frames]
    by_cases same : other = buffer
    · rw [same, Function.update_self, blank]
    · rw [Function.update_of_ne same]
      exact lengthless other (fewer member)
  · intro sent member
    rw [sends] at member
    split at member
    · rw [List.mem_singleton.mp member]
      exact sctpCheckChecksums_lengthless blank plen
    · cases member

/-- Every frame that a run sends is refused. -/
theorem data_frames_refused {s after : Sender} {calls : List UInt16} {log : List DataEvent}
    (lengthless : s.Lengthless)
    (ran : run buildPrefilledMacIpSctpDataHdr s calls = some (after, log)) :
    ∀ sent ∈ sentFrames log, (sctpCheckChecksums sent.1 sent.2).1 = -1 := by
  have held := run_induction buildPrefilledMacIpSctpDataHdr (fun _ _ => True) s
    (fun _ s log => s.Lengthless ∧
      ∀ sent ∈ sentFrames log, (sctpCheckChecksums sent.1 sent.2).1 = -1)
    ⟨lengthless, fun _ member => nomatch member⟩
    (by
      rintro before call mid log after ev - ⟨lengthless, refused⟩ - returned
      obtain ⟨kept, refused'⟩ := data_lengthless lengthless returned
      refine ⟨kept, fun sent member => ?_⟩
      rw [sentFrames_append, List.mem_append] at member
      exact member.elim (refused sent) (refused' sent))
    calls after log ran (along_true _ _ _)
  exact held.2

/-- The frames of a run are accepted exactly if it sends none. -/
theorem data_frames_accepted_iff (s after : Sender) (calls : List UInt16) (log : List DataEvent)
    (templates : ∀ entry ∈ held s.prefilledRing, Pristine s.frames entry)
    (idle : held s.bundling = [])
    (ran : run buildPrefilledMacIpSctpDataHdr s calls = some (after, log)) :
    (∀ sent ∈ sentFrames log, (sctpCheckChecksums sent.1 sent.2).1 = 0) ↔
      Along buildPrefilledMacIpSctpDataHdr (fun s streamId => ¬s.Transmits streamId) s calls := by
  refine judged_log_iff_along buildPrefilledMacIpSctpDataHdr
    (fun s streamId => ¬s.Transmits streamId) (fun s (_ : Unit) => s.Lengthless) (fun _ _ => ())
    (fun _ log => ∀ sent ∈ sentFrames log, (sctpCheckChecksums sent.1 sent.2).1 = 0)
    ?_ ?_ ?_ calls s after () log (lengthless_of_pristine templates idle) ran
  · intro _ sent member
    cases member
  · intro _ ev log
    simp only [sentFrames_append, List.mem_append, or_imp, forall_and]
  · intro s _ streamId after ev lengthless returned
    obtain ⟨kept, refused⟩ := data_lengthless lengthless returned
    refine ⟨fun _ => kept, ?_⟩
    obtain ⟨buffer, -, frame, plen, -, -, -, sends⟩ := data_names returned
    constructor
    · -- whatever is sent is refused, so nothing can have been
      intro accepted transmits
      rw [if_pos transmits] at sends
      have member : (frame, plen) ∈ sentFrames ev := by simp [sends]
      have impossible := (accepted _ member).symm.trans (refused _ member)
      exact absurd impossible (by decide)
    · intro silent sent member
      rw [sends, if_neg silent] at member
      cases member

theorem data_frames_accepted_iff_waiting : ∃ after log,
    run buildPrefilledMacIpSctpDataHdr (prefilledClient [10]) [0] = some (after, log) ∧
    ∀ sent ∈ sentFrames log, (sctpCheckChecksums sent.1 sent.2).1 = 0 := by
  have returns : (run buildPrefilledMacIpSctpDataHdr (prefilledClient [10]) [0]).isSome = true := by
    decide +kernel
  obtain ⟨⟨after, log⟩, ran⟩ := Option.isSome_iff_exists.mp returns
  refine ⟨after, log, ran, ?_⟩
  rw [data_frames_accepted_iff (prefilledClient [10]) after [0] log (prefilledClient_templates [10])
    (by decide +kernel) ran]
  decide +kernel

/-- Two chunks in one frame are sent, and the receiver of the library refuses them. -/
theorem data_frame_refused : ∃ after log frame plen,
    run buildPrefilledMacIpSctpDataHdr (prefilledClient [10]) [0, 0] = some (after, log) ∧
    (frame, plen) ∈ sentFrames log ∧ plen = 90 ∧ (sctpCheckChecksums frame plen).1 = -1 := by
  have sent : (run buildPrefilledMacIpSctpDataHdr (prefilledClient [10]) [0, 0]).map
      (fun ran => (sentFrames ran.2).map Prod.snd) = some [90] := by
    decide +kernel
  obtain ⟨⟨after, log⟩, ran, lengths⟩ := Option.map_eq_some_iff.mp sent
  obtain ⟨⟨frame, plen⟩, only, length⟩ := List.map_eq_singleton_iff.mp lengths
  have member : (frame, plen) ∈ sentFrames log := by simp [only]
  have lengthless := lengthless_of_pristine (prefilledClient_templates [10]) (by decide +kernel)
  exact ⟨after, log, frame, plen, ran, member, length, data_frames_refused lengthless ran _ member⟩

end Kpnet.Sctp
