import Kpnet.Lib.Runs
import Kpnet.Sctp.Data

/-!
# The numbers of the chunks

`assoc->tsn` is kept as it goes on the wire and advanced by `htonl (1)`. On a little-endian
host that adds to its last byte and nothing is carried over, so that the numbers start again
after at most 256 chunks.
-/
namespace Kpnet.Sctp

open Bytes Runs

/-- The value of `assoc->tsn` after `n` chunks. -/
def nthTsn (start : UInt32) : Nat → UInt32
  | 0 => start
  | n + 1 => nthTsn start n + htonl 1

/-- One step counts in the last byte only. -/
theorem toNat_ntohl_succ (tsn : UInt32) :
    (ntohl (tsn + htonl 1)).toNat =
      (ntohl tsn).toNat / 256 * 256 + ((ntohl tsn).toNat % 256 + 1) % 256 := by
  have bound := tsn.toNat_lt
  have one : (htonl 1).toNat = 2 ^ 24 := by decide
  rw [ntohl, ntohl, toNat_htonl, toNat_htonl, UInt32.toNat_add, one]
  generalize tsn.toNat = t at bound
  -- of the four bytes in memory only the last one is added to, without a carry
  have first : (t + 2 ^ 24) % 2 ^ 32 % 256 = t % 256 := by omega
  have second : (t + 2 ^ 24) % 2 ^ 32 / 2 ^ 8 % 256 = t / 2 ^ 8 % 256 := by omega
  have third : (t + 2 ^ 24) % 2 ^ 32 / 2 ^ 16 % 256 = t / 2 ^ 16 % 256 := by omega
  have fourth : (t + 2 ^ 24) % 2 ^ 32 / 2 ^ 24 = (t / 2 ^ 24 + 1) % 256 := by omega
  rw [first, second, third, fourth]
  generalize t % 256 = a
  generalize t / 2 ^ 8 % 256 = b
  generalize t / 2 ^ 16 % 256 = c
  have last : t / 2 ^ 24 < 256 := by omega
  generalize t / 2 ^ 24 = d at last
  omega

theorem toNat_ntohl_nthTsn (start : UInt32) (n : Nat) :
    (ntohl (nthTsn start n)).toNat =
      (ntohl start).toNat / 256 * 256 + ((ntohl start).toNat % 256 + n) % 256 := by
  induction n with
  | zero =>
    rw [nthTsn]
    omega
  | succ n ih =>
    rw [nthTsn, toNat_ntohl_succ, ih]
    omega

/-- Whether a call that returns writes a chunk: without a packet under construction
`sctp_build_data_hdr` does nothing. -/
def DataCall.emits (s : Sender) : DataCall → Bool
  | .build _ => s.currentPacket.isSome
  | .buildPrefilled _ => true

/-- One call of either builder, as far as the numbers go. -/
theorem sendData_numbers {s after : Sender} {call : DataCall} {ev : List DataEvent}
    (returned : sendData s call = some (after, ev)) :
    (after.currentPacket.isSome = s.currentPacket.isSome) ∧
    ((call.emits s = false ∧ chunks ev = [] ∧ after.assoc.tsn = s.assoc.tsn) ∨
      (call.emits s = true ∧ ∃ chunk, chunks ev = [chunk] ∧ chunk.hdr.tsn = s.assoc.tsn ∧
        after.assoc.tsn = s.assoc.tsn + htonl 1)) := by
  cases call with
  | build streamId =>
    obtain ⟨absent, rfl, rfl⟩ | ⟨present, mid, flushed, block, thread, packet, prepared, -, target,
      -, rfl, rfl⟩ := sctpBuildDataHdr_cases returned
    · exact ⟨rfl, .inl ⟨by simp [DataCall.emits, absent], rfl, rfl⟩⟩
    · -- a flush has nothing to do with the numbers
      have before : mid.assoc.tsn = s.assoc.tsn ∧ chunks flushed = [] := by
        rcases prepared with ⟨-, flush⟩ | ⟨-, rfl, rfl⟩
        · obtain ⟨tx, tx', ring, next, -, rfl, rfl⟩ := Sender.flush_cases flush
          exact ⟨rfl, rfl⟩
        · exact ⟨rfl, rfl⟩
      have current := Option.isSome_iff_ne_none.mpr present
      refine ⟨?_, .inr ⟨current, (mid.putChunk packet streamId block thread).2, ?_, ?_, ?_⟩⟩
      · rw [putChunk_currentPacket, target, current, Option.isSome_some]
      · rw [chunks_append, before.2, chunks_wrote, chunks_nil, List.nil_append]
      · exact before.1
      · rw [putChunk_tsn, before.1]
  | buildPrefilled streamId =>
    obtain ⟨block, thread, -, written, assoc, current, -⟩ :=
      buildPrefilledMacIpSctpDataHdr_cases returned
    exact ⟨by rw [current], .inr ⟨rfl, _, written, rfl, by rw [assoc, advance_tsn]⟩⟩

/-- What holds of a run after any number of calls. -/
structure Numbered (s : Sender) (calls : List DataCall) (after : Sender) (log : List DataEvent) :
    Prop where
  count : (chunks log).length = calls.countP (DataCall.emits s)
  numbers : ∀ i chunk, (chunks log)[i]? = some chunk → chunk.hdr.tsn = nthTsn s.assoc.tsn i
  next : after.assoc.tsn = nthTsn s.assoc.tsn (chunks log).length
  current : after.currentPacket.isSome = s.currentPacket.isSome

theorem DataCall.emits_congr {s s' : Sender} (same : s'.currentPacket.isSome = s.currentPacket.isSome)
    (call : DataCall) : call.emits s' = call.emits s := by
  cases call with
  | build streamId => exact same
  | buildPrefilled streamId => rfl

theorem run_numbered (s after : Sender) (calls : List DataCall) (log : List DataEvent)
    (ran : run sendData s calls = some (after, log)) : Numbered s calls after log := by
  refine run_induction sendData (fun _ _ => True) s
    (fun calls after log => Numbered s calls after log) ?_ ?_ calls after log ran
    (along_true sendData s calls)
  · exact ⟨rfl, by simp, rfl, rfl⟩
  · intro calls call mid log after ev _ held _ stepped
    obtain ⟨current, silent | ⟨emits, chunk, written, tsn, advanced⟩⟩ := sendData_numbers stepped
    · obtain ⟨silent, nothing, same⟩ := silent
      rw [DataCall.emits_congr held.current] at silent
      refine ⟨?_, ?_, ?_, current.trans held.current⟩
      · simp [nothing, held.count, silent]
      · rw [chunks_append, nothing, List.append_nil]
        exact held.numbers
      · rw [chunks_append, nothing, List.append_nil, same, held.next]
    · rw [DataCall.emits_congr held.current] at emits
      refine ⟨?_, ?_, ?_, current.trans held.current⟩
      · simp [written, held.count, emits]
      · intro i other found
        rw [chunks_append, written] at found
        by_cases old : i < (chunks log).length
        · rw [List.getElem?_append_left old] at found
          exact held.numbers i other found
        · -- the new chunk carries the number the ones before it have left
          rw [List.getElem?_append_right (by omega), List.getElem?_singleton] at found
          split at found
          next first =>
            cases found
            have here : i = (chunks log).length := by omega
            rw [tsn, held.next, here]
          · cases found
      · simp only [chunks_append, written, List.length_append, List.length_singleton, nthTsn]
        rw [advanced, held.next]

/-- The numbers of a sequence of chunks, read in network order, count up from the first. -/
def Consecutive (start : UInt32) (sent : List DataChunk) : Prop :=
  ∀ i chunk, sent[i]? = some chunk → ntohl chunk.hdr.tsn = ntohl start + UInt32.ofNat i

/-- No number comes back among as many chunks as the retransmission table has slots. -/
def DistinctInWindow (sent : List DataChunk) : Prop :=
  ∀ i j chunk other, i < j → j < i + 1024 → sent[i]? = some chunk → sent[j]? = some other →
    chunk.hdr.tsn ≠ other.hdr.tsn

/-- Whatever the two builders are called on, their chunks are numbered as they should be exactly
as long as the last byte of the first number does not overflow. -/
theorem tsns_consecutive_iff (s after : Sender) (calls : List DataCall) (log : List DataEvent)
    (ran : run sendData s calls = some (after, log)) :
    Consecutive s.assoc.tsn (chunks log) ∧ DistinctInWindow (chunks log) ↔
      (ntohl s.assoc.tsn).toNat % 256 + calls.countP (DataCall.emits s) ≤ 256 := by
  obtain ⟨count, numbers, -, -⟩ := run_numbered s after calls log ran
  have value := toNat_ntohl_nthTsn s.assoc.tsn
  have bound := (ntohl s.assoc.tsn).toNat_lt
  rw [← count]
  constructor
  · rintro ⟨consecutive, -⟩
    by_contra overflows
    -- the first chunk behind the overflow has the last byte 0 and the others unchanged
    obtain ⟨i, index⟩ : ∃ i, i = 256 - (ntohl s.assoc.tsn).toNat % 256 := ⟨_, rfl⟩
    have reached : i < (chunks log).length := by omega
    have found := List.getElem?_eq_getElem reached
    have wanted := consecutive i _ found
    rw [numbers i _ found] at wanted
    have carried := congrArg UInt32.toNat wanted
    rw [value i, UInt32.toNat_add, UInt32.toNat_ofNat'] at carried
    omega
  · intro enough
    constructor
    · intro i chunk found
      have reached := (List.getElem?_eq_some_iff.mp found).1
      rw [numbers i chunk found]
      apply UInt32.toNat_inj.mp
      rw [value i, UInt32.toNat_add, UInt32.toNat_ofNat']
      omega
    · intro i j chunk other before _ found found' same
      have reached := (List.getElem?_eq_some_iff.mp found').1
      rw [numbers i chunk found, numbers j other found'] at same
      have values := congrArg (fun tsn => (ntohl tsn).toNat) same
      rw [value i, value j] at values
      omega

theorem tsns_consecutive_iff_mixed : ∃ after log,
    run sendData (streamingClient (htonl 254) [100]) [.build 0, .buildPrefilled 0] =
      some (after, log) ∧
    Consecutive (htonl 254) (chunks log) ∧ DistinctInWindow (chunks log) := by
  have returns : (run sendData (streamingClient (htonl 254) [100])
      [.build 0, .buildPrefilled 0]).isSome = true := by decide +kernel
  obtain ⟨⟨after, log⟩, ran⟩ := Option.isSome_iff_exists.mp returns
  refine ⟨after, log, ran, ?_⟩
  exact (tsns_consecutive_iff (streamingClient (htonl 254) [100]) after _ log ran).mpr (by decide)

/-- From 255 on, the second chunk is numbered 0. -/
theorem tsn_restarts : ∃ after log,
    run sendData (streamingClient (htonl 255) [100]) [.build 0, .build 0] = some (after, log) ∧
    (chunks log).map (fun chunk => ntohl chunk.hdr.tsn) = [255, 0] ∧
    ¬Consecutive (htonl 255) (chunks log) := by
  have numbers : (run sendData (streamingClient (htonl 255) [100]) [.build 0, .build 0]).map
      (fun ran => (chunks ran.2).map fun chunk => ntohl chunk.hdr.tsn) = some [255, 0] := by
    decide +kernel
  obtain ⟨⟨after, log⟩, ran, sent⟩ := Option.map_eq_some_iff.mp numbers
  refine ⟨after, log, ran, sent, ?_⟩
  intro consecutive
  have second := congrArg (fun numbers => numbers[1]?) sent
  rw [List.getElem?_map] at second
  obtain ⟨chunk, found, number⟩ := Option.map_eq_some_iff.mp second
  rw [consecutive 1 chunk found] at number
  exact absurd number (by decide)

end Kpnet.Sctp
