import Kpnet.Sctp.Acceptance
import Kpnet.Sctp.Circulation
import Kpnet.Sctp.Exchange
import Kpnet.Sctp.StateMachine

/-!
# Two ends and a network

A server that listens and a client with the status that it is created in (`create_client` stores
another one later), each with `sctp_check_checksums` in front of `if_ip_sctp`. The builders only push
to the transmit ring, so whatever takes frames off it is left open: it pops a cell and reads it at any
time later, finds what it has popped or what was pushed over it and waits, and sends the bytes that
the buffer holds by then. The network loses, repeats and reorders what was sent, and brings frames of
others as well.
-/
namespace Kpnet.Sctp

open Bytes Runs
open Kpnet.Ring (RingQueue)

/-- The frames that were popped and those that wait in the transmit ring, as they would leave now. -/
def Endpoint.queued (e : Endpoint) (popped : List (Option Nat × UInt64)) : List Bytes :=
  (popped ++ held e.txRing).filterMap fun entry => entry.1.map e.frames

/-- What an end sends in answer to a packet that it accepts. -/
inductive Reply (host : Host) (assoc : SctpAssociation) (packet frame : Bytes) : Prop where
  | initAck (type : packet 46 = sctpInit)
      (chunk : slice frame 46 80 = initAckChunk host (initAssoc assoc (shift packet 14)))
      (ip : u32 frame 30 = u32 packet 26) (port : u16 frame 36 = u16 packet 34)
  | cookieEcho (type : packet 46 = sctpInitAck)
      (chunk : slice frame 46 (4 + (ntohs (u16 packet 48) - 24).toNat) =
        cookieEchoChunk (ntohs (u16 packet 48) - 24) (shift packet 70))
  | cookieAck (type : packet 46 = sctpCookieEcho)
      (chunk : slice frame 46 4 = fldHdr sctpCookieAck (htons 4))
      (ip : u32 frame 30 = (Cookie.read (shift packet 50)).srcIp)
      (port : u16 frame 36 = (Cookie.read (shift packet 50)).srcPort.toUInt16)

section Queues

variable {host : Host} {e after : Endpoint} {popped : List (Option Nat × UInt64)}
  {packet frame : Bytes} {ret : Int}

theorem mem_queued : frame ∈ e.queued popped ↔
    ∃ buffer plen, (some buffer, plen) ∈ popped ++ held e.txRing ∧ e.frames buffer = frame := by
  simp only [Endpoint.queued, List.mem_filterMap, Option.map_eq_some_iff]
  constructor
  · rintro ⟨⟨packet, plen⟩, member, buffer, rfl, found⟩
    exact ⟨buffer, plen, member, found⟩
  · rintro ⟨buffer, plen, member, found⟩
    exact ⟨_, member, buffer, rfl, found⟩

theorem mem_of_offered {ring : Option (RingQueue Nat)} {entry new : Option Nat × UInt64}
    (member : entry ∈ offered ring new) : entry ∈ held ring ∨ entry = new := by
  unfold offered at member
  split at member
  · simpa using member
  · exact .inl member

/-- A builder may write over a frame that waits, but what waits then is a frame it has built. -/
theorem buildPrefilled_queued {chunk : List UInt8} {peer : Option (UInt32 × UInt32)}
    {crc : Bytes → UInt32} {assoc : SctpAssociation}
    (built : buildPrefilled chunk peer crc assoc e = some (ret, after))
    (waits : frame ∈ after.queued popped) :
    frame ∈ e.queued popped ∨
      ∃ tag plen template, frame = builtFrame chunk peer crc tag plen template := by
  obtain ⟨buffer, plen, member, found⟩ := mem_queued.mp waits
  obtain ⟨-, -, -, -, frames, tx⟩ | ⟨buffer', cellPlen, rest, -, -, frames, tx⟩ :=
    buildPrefilled_traffic built
  · rw [tx] at member
    rw [frames] at found
    exact .inl (mem_queued.mpr ⟨buffer, plen, member, found⟩)
  · rw [frames] at found
    by_cases same : buffer = buffer'
    · subst same
      rw [Function.update_self] at found
      exact .inr ⟨_, _, _, found.symm⟩
    · -- another buffer was queued before
      rw [Function.update_of_ne same] at found
      refine .inl (mem_queued.mpr ⟨buffer, plen, ?_, found⟩)
      rw [List.mem_append, tx] at member
      rcases member with gone | waits
      · exact List.mem_append_left _ gone
      rcases mem_of_offered waits with old | new
      · exact List.mem_append_right _ old
      · cases new
        exact absurd rfl same

theorem sctpProcessSctpInit_queued' (type : packet 46 = sctpInit)
    (processed : sctpProcessSctpInit host e (shift packet 14) = some (ret, after))
    (waits : frame ∈ after.queued popped) :
    frame ∈ e.queued popped ∨ Reply host e.assoc packet frame := by
  unfold sctpProcessSctpInit at processed
  split at processed
  · cases processed
  next built =>
    cases processed
    refine (buildPrefilled_queued built waits).imp_right ?_
    rintro ⟨tag, plen, template, rfl⟩
    obtain ⟨ip, port⟩ := builtFrame_answer (initAckChunk host (initAssoc e.assoc (shift packet 14)))
      (initAssoc e.assoc (shift packet 14)).dstIp (initAssoc e.assoc (shift packet 14)).dstPort _ tag
      plen template
    refine .initAck type (slice_builtFrame _ _ _ _ _ _ (length_initAckChunk _ _)) ?_ ?_
    · rw [ip, initAssoc, u32_shift]
    · rw [port, initAssoc, u16_shift, UInt16.toUInt16_toUInt32]

theorem sctpProcessSctpInitAck_queued' (type : packet 46 = sctpInitAck)
    (processed : sctpProcessSctpInitAck e (shift packet 50) (u16 packet 48) = some (ret, after))
    (waits : frame ∈ after.queued popped) :
    frame ∈ e.queued popped ∨ Reply host e.assoc packet frame := by
  unfold sctpProcessSctpInitAck at processed
  split at processed
  · cases processed
    exact .inl waits
  · dsimp only at processed
    split at processed
    · cases processed
    next built =>
      cases processed
      -- the cookie is where the handler has just put the pointer to
      refine (buildPrefilled_queued built waits).imp_right ?_
      rintro ⟨tag, plen, template, rfl⟩
      rw [shift_shift]
      exact .cookieEcho type (slice_builtFrame _ _ _ _ _ _ (length_cookieEchoChunk _ _))

theorem sctpProcessSctpCookieEcho_queued' (type : packet 46 = sctpCookieEcho)
    (processed : sctpProcessSctpCookieEcho host e (shift packet 46) (u16 packet 48) =
      some (ret, after))
    (waits : frame ∈ after.queued popped) :
    frame ∈ e.queued popped ∨ Reply host e.assoc packet frame := by
  unfold sctpProcessSctpCookieEcho at processed
  split at processed
  · cases processed
    exact .inl waits
  · split at processed
    · cases processed
      exact .inl waits
    · dsimp only at processed
      split at processed
      · cases processed
      next built =>
        cases processed
        refine (buildPrefilled_queued built waits).imp_right ?_
        rintro ⟨tag, plen, template, rfl⟩
        obtain ⟨ip, port⟩ := builtFrame_answer (fldHdr sctpCookieAck (htons 4))
          (Cookie.read (shift packet 50)).srcIp (Cookie.read (shift packet 50)).srcPort
          (fun cmn => ~~~(generateCrc32cOnCrc32c cmn (12 + 4) 0xFFFFFFFF).toUInt32) tag plen template
        rw [shift_shift]
        exact .cookieAck type (slice_builtFrame _ _ _ _ _ _ rfl) ip port

/-- Whatever is done with a packet, what waits afterwards waited before or answers the packet. -/
theorem dispatch_queued {accepted : Bool}
    (dispatched : dispatch host packet e = some (accepted, after))
    (waits : frame ∈ after.queued popped) :
    frame ∈ e.queued popped ∨ Reply host e.assoc packet frame := by
  have handled {processed : Option (Int × Endpoint)}
      (kept : unlessNegative processed = some (accepted, after)) :
      ∃ ret, processed = some (ret, after) := by
    unfold unlessNegative at kept
    split at kept
    · cases kept
    · cases kept
      exact ⟨_, rfl⟩
  have untouched (same : some (false, e) = some (accepted, after)) :
      frame ∈ e.queued popped ∨ Reply host e.assoc packet frame := by
    cases same
    exact .inl waits
  unfold dispatch at dispatched
  split at dispatched
  next init =>
    split at dispatched
    · obtain ⟨ret, processed⟩ := handled dispatched
      exact sctpProcessSctpInit_queued' init processed waits
    · exact untouched dispatched
  · split at dispatched
    next initAck =>
      split at dispatched
      · obtain ⟨ret, processed⟩ := handled dispatched
        exact sctpProcessSctpInitAck_queued' initAck processed waits
      · exact untouched dispatched
    · split at dispatched
      next cookieEcho =>
        split at dispatched
        · obtain ⟨ret, processed⟩ := handled dispatched
          exact sctpProcessSctpCookieEcho_queued' cookieEcho processed waits
        · exact untouched dispatched
      · split at dispatched
        · split at dispatched
          · -- a COOKIE ACK is not answered
            obtain ⟨ret, processed⟩ := handled dispatched
            unfold sctpProcessSctpCookieAck at processed
            split at processed
            · cases processed
              exact .inl waits
            · cases processed
              exact .inl waits
          · exact untouched dispatched
        · exact untouched dispatched

end Queues

/-- The check of the receiving thread, and behind it the filter. -/
def hear (host : Host) (packet : Bytes) (plen : UInt64) (e : Endpoint) : Option (Bool × Endpoint) :=
  let (ret, packet) := sctpCheckChecksums packet plen
  if ret ≠ 0 then some (false, e) else ifIpSctp host (some packet) e

/-- A packet leaves no trace, or it gets through all checks, has its effect on the association and
is answered by what is queued from then on. -/
theorem hear_cases {host : Host} {packet : Bytes} {plen : UInt64} {e after : Endpoint}
    {accepted : Bool} (heard : hear host packet plen e = some (accepted, after)) :
    (accepted = false ∧ after = e) ∨
    (accepted = true ∧ Addressed e packet ∧ Admitted e packet ∧
      after.assoc = received host packet e.assoc ∧
      ∀ popped, ∀ frame ∈ after.queued popped,
        frame ∈ e.queued popped ∨ Reply host e.assoc packet frame) := by
  obtain ⟨sound, unsound⟩ := sctpCheckChecksums_sound packet plen
  by_cases intact : Sound packet plen
  · have kept : ifIpSctp host (some packet) e = some (accepted, after) := by
      rw [hear, sound intact] at heard
      exact heard
    have filters := ifIpSctp_filters host e packet
    by_cases admitted : Addressed e packet ∧ Admitted e packet
    · obtain ⟨accepts, changed⟩ := filters.passes admitted accepted after kept
      rw [ifIpSctp_addressed host admitted.1] at kept
      exact .inr ⟨accepts, admitted.1, admitted.2, changed, fun _ _ => dispatch_queued kept⟩
    · rw [filters.refuses admitted] at kept
      cases kept
      exact .inl ⟨rfl, rfl⟩
  · have refused : hear host packet plen e = some (false, e) := by
      simp [hear, unsound intact]
    rw [refused] at heard
    cases heard
    exact .inl ⟨rfl, rfl⟩

/-- An end with what was popped from its transmit ring and what it has sent. -/
structure Station extends Endpoint where
  popped : List (Option Nat × UInt64)
  sent : List (Bytes × UInt64)

/-- The frames that are still to be sent. -/
def Station.waiting (s : Station) : List Bytes := s.toEndpoint.queued s.popped

/-- A cell of the transmit ring is popped, if there is one. -/
def Station.pop (s : Station) : Option Station :=
  match s.txRing with
  | none => none
  | some tx => some { s with txRing := some tx.pop.2, popped := s.popped ++ tx.pop.1.toList }

/-- What a popped cell has by now is sent, with the bytes that are in the buffer by now. -/
def Station.send (s : Station) (buffer : Nat) (plen : UInt64) : Option Station :=
  if (some buffer, plen) ∈ s.popped ++ held s.txRing then
    some { s with sent := (s.frames buffer, plen) :: s.sent }
  else none

/-- The two ends, with the INITs that the server has answered and the cookies that it has accepted,
the newest first. -/
structure Network where
  client : Station
  server : Station
  asked : List (Host × Bytes)
  served : List Cookie

/-- Both ends before the first packet. -/
structure Network.Opening (start : Network) : Prop where
  listens : start.server.assoc.status = .listen
  sent : start.client.assoc.status = .initSent
  serverWaits : start.server.waiting = []
  clientWaits : start.client.waiting = []
  serverSent : start.server.sent = []
  clientSent : start.client.sent = []
  asked : start.asked = []
  served : start.served = []

/-- A packet arrives at an end, or a frame leaves one. -/
inductive NetworkAction where
  | toServer (host : Host) (packet : Bytes) (plen : UInt64)
  | toClient (host : Host) (packet : Bytes) (plen : UInt64)
  | popServer
  | popClient
  | sendServer (buffer : Nat) (plen : UInt64)
  | sendClient (buffer : Nat) (plen : UInt64)

/-- A step; logged is whether a packet that arrives gets through the checks. -/
def networkAct (w : Network) : NetworkAction → Option (Network × List Bool)
  | .toServer host packet plen =>
    match hear host packet plen w.server.toEndpoint with
    | none => none
    | some (accepted, server) =>
      some ({ w with
        server := { w.server with toEndpoint := server }
        asked := if accepted ∧ packet 46 = sctpInit then (host, packet) :: w.asked else w.asked
        served :=
          if accepted ∧ packet 46 = sctpCookieEcho then Cookie.read (shift packet 50) :: w.served
          else w.served }, [accepted])
  | .toClient host packet plen =>
    match hear host packet plen w.client.toEndpoint with
    | none => none
    | some (accepted, client) =>
      some ({ w with client := { w.client with toEndpoint := client } }, [accepted])
  | .popServer => w.server.pop.map fun server => ({ w with server := server }, [])
  | .popClient => w.client.pop.map fun client => ({ w with client := client }, [])
  | .sendServer buffer plen =>
    (w.server.send buffer plen).map fun server => ({ w with server := server }, [])
  | .sendClient buffer plen =>
    (w.client.send buffer plen).map fun client => ({ w with client := client }, [])

/-- The cookie that goes out in answer to an INIT. -/
def sealedFor (assoc : SctpAssociation) (asked : Host × Bytes) : Cookie :=
  stateCookie asked.1 (initAssoc assoc (shift asked.2 14))

/-- A frame arrives in some buffer, at least as long as its chunk says. -/
structure Copy (packet : Bytes) (plen : UInt64) (frame : Bytes) : Prop where
  same : slice packet 0 plen.toNat = slice frame 0 plen.toNat
  whole : 46 + chunkLen frame ≤ plen.toNat

/-- What may arrive. Beside copies of what the other end has sent, the server may get anything, but
for COOKIE ECHOs with a right code under a cookie that it never sealed; the client, which has no
means to tell, whatever is not addressed to it, or not of the types of a server. -/
def Genuine (w : Network) : NetworkAction → Prop
  | .toServer _ packet plen =>
    (∃ frame, (frame, plen) ∈ w.client.sent ∧ Copy packet plen frame) ∨
    (packet 46 = sctpCookieEcho → hmacMd5 (slice packet 50 40) hmacKey = slice packet 90 16 →
      ∃ asked ∈ w.asked, Cookie.read (shift packet 50) = sealedFor w.server.assoc asked)
  | .toClient _ packet plen =>
    (∃ frame, (frame, plen) ∈ w.server.sent ∧ Copy packet plen frame) ∨
    ¬Addressed w.client.toEndpoint packet ∨ (packet 46 ≠ sctpInitAck ∧ packet 46 ≠ sctpCookieAck)
  | _ => True

end Kpnet.Sctp
