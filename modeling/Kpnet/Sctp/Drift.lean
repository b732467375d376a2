import Kpnet.Lib.Runs
import Kpnet.Sctp.Raw

/-!
# Where a frame starts

One frame is given to the raw builders again and again, with its length reset. Each moves the
pointer up by the room for its headers and down again header by header. That for a COOKIE ECHO makes
room for the chunk header twice, so every COOKIE ECHO leaves the pointer 4 bytes further up.
-/
namespace Kpnet.Sctp

open Bytes Runs

/-- The four builders, with their draws. -/
inductive RawBuilder where
  | init (tag tsn random : UInt32)
  | initAck (tag tsn random : UInt32)
  | cookieEcho (random : UInt32)
  | cookieAck (random : UInt32)

def RawBuilder.build : RawBuilder → Option RawFrame → Option RawFrame
  | init tag tsn random => buildSctpInitHdr tag tsn random
  | initAck tag tsn random => buildSctpInitAckHdr tag tsn random
  | cookieEcho random => buildSctpCookieEchoHdr random
  | cookieAck random => buildSctpCookieAckHdr random

/-- How far behind its old place a builder leaves the pointer. -/
def RawBuilder.surplus : RawBuilder → Nat
  | cookieEcho _ => 4
  | _ => 0

def RawBuilder.isCookieEcho : RawBuilder → Bool
  | cookieEcho _ => true
  | _ => false

/-- A call, with what its caller has put into the record. -/
structure RawCall where
  builder : RawBuilder
  add : Bytes
  addLen : UInt16

/-- What the caller does before a call. -/
def RawFrame.reset (frame : RawFrame) (call : RawCall) : RawFrame :=
  { frame with
    plen := 0
    state := frame.state.map fun m => { m with add := call.add, addLen := call.addLen } }

/-- The pointer before a call and after it. -/
structure PacketMove where
  before : Option Nat
  after : Option Nat

/-- A refused call ends the run. -/
def rawAct (frame : RawFrame) (call : RawCall) : Option (RawFrame × List PacketMove) :=
  match call.builder.build (some (frame.reset call)) with
  | none => none
  | some after => some (after, [⟨frame.packet, after.packet⟩])

@[simp] theorem Cursor.packet_prepend (hdr : List UInt8) (c : Cursor) :
    (c.prepend hdr).packet = c.packet.map (· - hdr.length) := by
  unfold prepend
  split
  next missing => rw [missing, Option.map_none]
  next packet found => rw [found, Option.map_some]

@[simp] theorem Cursor.packet_poke (o : Nat) (field : List UInt8) (c : Cursor) :
    (c.poke o field).packet = c.packet := by
  unfold poke
  split
  next missing => rw [missing]
  next packet found => rw [found]

/-- A builder moves the pointer up by its room, and down by the payload and the four headers. -/
theorem buildRaw_packet (draw : SctpMeta → SctpMeta) (space : SctpMeta → Nat)
    (fill : SctpMeta → Cursor → Cursor) (type : UInt8) (tag : SctpMeta → UInt32) (random : UInt32)
    {frame : RawFrame} {o : Nat} {m : SctpMeta} (length surplus : Nat)
    (room : space (draw m) = length + 50 + surplus) (pointer : frame.packet = some o)
    (found : frame.state = some m)
    (filled : ∀ c, (fill (draw m) c).packet = c.packet.map (· - length)) :
    ∃ after, buildRaw draw space fill type tag random (some frame) = some after ∧
      after.state = some (draw m) ∧ after.packet = some (o + surplus) := by
  have back : o + (length + 50 + surplus) - (length + 50) = o + surplus := by omega
  simp only [buildRaw, pointer, found, room]
  refine ⟨_, rfl, rfl, ?_⟩
  simp only [buildMacRaw, buildIpRaw, buildSctpCmnHdrRaw, buildSctpFldHdrRaw, Cursor.packet_prepend,
    Cursor.packet_poke, filled, Option.map_some, Nat.sub_sub]
  simp [cmnHdr, rawIpHdr, back]

/-- What one call does to the pointer. -/
theorem RawBuilder.build_packet (builder : RawBuilder) {frame : RawFrame} {o : Nat} {m : SctpMeta}
    (pointer : frame.packet = some o) (found : frame.state = some m) :
    ∃ after m', builder.build (some frame) = some after ∧ after.state = some m' ∧
      after.packet = some (o + builder.surplus) := by
  cases builder with
  | init tag tsn random =>
    obtain ⟨after, built, state, packet⟩ := buildRaw_packet id (fun _ => 14 + 20 + 12 + 4 + 16)
      (fun state => buildSctpInitHdrRaw tag state.srcArwnd state.srcOs state.srcMis tsn) sctpInit
      (fun _ => 0) random 16 0 rfl pointer found (fun c => Cursor.packet_prepend _ c)
    exact ⟨after, m, built, state, packet⟩
  | initAck tag tsn random =>
    obtain ⟨after, built, state, packet⟩ := buildRaw_packet
      (fun state => { state with initTag := tag, tsn := tsn })
      (fun _ => 14 + 20 + 12 + 4 + 16 + 4 + 40 + 16)
      (fun state c => buildSctpInitAckHdrRaw state.initTag state.srcArwnd state.srcOs state.srcMis
        state.tsn (buildSctpCookieParamRaw state.front c))
      sctpInitAck SctpMeta.verTag random 76 0 rfl pointer found (by
        intro c
        rw [buildSctpInitAckHdrRaw, buildSctpCookieParamRaw, Cursor.packet_prepend,
          Cursor.packet_prepend, Option.map_map]
        simp [cookieParam, Function.comp_def, Nat.sub_sub])
    exact ⟨after, _, built, state, packet⟩
  | cookieEcho random =>
    -- the room is for one chunk header more than there is
    obtain ⟨after, built, state, packet⟩ := buildRaw_packet id
      (fun state => 14 + 20 + 12 + 4 + 4 + state.addLen.toNat)
      (fun state => buildSctpCookieEchoHdrRaw state.add state.addLen) sctpCookieEcho SctpMeta.initTag
      random m.addLen.toNat 4 (by simp only [id_eq]; omega) pointer found (by
        intro c
        rw [buildSctpCookieEchoHdrRaw, Cursor.packet_prepend, length_slice]
        rfl)
    exact ⟨after, m, built, state, packet⟩
  | cookieAck random =>
    obtain ⟨after, built, state, packet⟩ := buildRaw_packet id (fun _ => 14 + 20 + 12 + 4)
      (fun _ c => c) sctpCookieAck SctpMeta.verTag random 0 0 rfl pointer found (by simp)
    exact ⟨after, m, built, state, packet⟩

/-- A sequence of calls goes through, and the surpluses add up. -/
theorem run_rawAct (calls : List RawCall) (frame : RawFrame) {o : Nat} {m : SctpMeta}
    (pointer : frame.packet = some o) (found : frame.state = some m) :
    ∃ after log, run rawAct frame calls = some (after, log) ∧
      after.packet = some (o + (calls.map fun call => call.builder.surplus).sum) ∧
      ((∀ move ∈ log, move.after = move.before) ↔
        ∀ call ∈ calls, call.builder.surplus = 0) := by
  -- a call leaves another pointer and another record, so the induction is over all of them
  induction calls generalizing frame o m with
  | nil => exact ⟨frame, [], rfl, pointer, by simp⟩
  | cons call calls ih =>
    have ready : (frame.reset call).state =
        some { m with add := call.add, addLen := call.addLen } := by
      rw [RawFrame.reset, found, Option.map_some]
    obtain ⟨mid, m', built, state, packet⟩ := call.builder.build_packet
      (show (frame.reset call).packet = some o from pointer) ready
    obtain ⟨after, log, ran, final, kept⟩ := ih mid packet state
    refine ⟨after, ⟨frame.packet, mid.packet⟩ :: log, ?_, ?_, ?_⟩
    · simp only [run, rawAct, built, ran, List.singleton_append]
    · rw [final, List.map_cons, List.sum_cons, Nat.add_assoc]
    · rw [List.forall_mem_cons, List.forall_mem_cons, kept, packet, pointer]
      simp

theorem RawBuilder.surplus_eq_zero_iff (builder : RawBuilder) :
    builder.surplus = 0 ↔ builder.isCookieEcho = false := by
  cases builder <;> simp [surplus, isCookieEcho]

theorem sum_surplus (calls : List RawCall) :
    (calls.map fun call => call.builder.surplus).sum =
      4 * calls.countP fun call => call.builder.isCookieEcho := by
  induction calls with
  | nil => rfl
  | cons call calls ih =>
    rw [List.map_cons, List.sum_cons, ih, List.countP_cons]
    cases call.builder <;>
      simp [RawBuilder.surplus, RawBuilder.isCookieEcho, Nat.mul_add, Nat.add_comm]

/-- Every call of a sequence leaves the frame where it was exactly if none of them builds a COOKIE
ECHO; each one of those moves it by 4 bytes. -/
theorem frame_start_kept_iff (buffer : Bytes) (o : Nat) (plen : UInt16) (m : SctpMeta)
    (calls : List RawCall) :
    ∃ after log, run rawAct ⟨⟨buffer, some o, plen⟩, some m⟩ calls = some (after, log) ∧
      ((∀ move ∈ log, move.after = move.before) ↔
        ∀ call ∈ calls, call.builder.isCookieEcho = false) ∧
      after.packet = some (o + 4 * calls.countP fun call => call.builder.isCookieEcho) := by
  obtain ⟨after, log, ran, packet, kept⟩ :=
    run_rawAct calls ⟨⟨buffer, some o, plen⟩, some m⟩ rfl rfl
  refine ⟨after, log, ran, ?_, ?_⟩
  · simp only [kept, RawBuilder.surplus_eq_zero_iff]
  · rw [packet, sum_surplus]

/-- After one COOKIE ECHO the frame starts behind the start of its buffer. -/
theorem frame_start_drifts :
    ∃ after log, run rawAct ⟨⟨fun _ => 0, some 0, 0⟩, some (sampleMeta 4000)⟩
        [⟨.cookieEcho 3, fun _ => 9, 56⟩] = some (after, log) ∧
      log = [⟨some 0, some 4⟩] :=
  ⟨_, _, rfl, rfl⟩

end Kpnet.Sctp
