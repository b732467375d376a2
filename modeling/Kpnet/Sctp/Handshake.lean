import Kpnet.Sctp.Exchange
import Kpnet.Sctp.StateMachine

/-!
# The four-way handshake

INIT, INIT ACK, COOKIE ECHO and COOKIE ACK delivered without loss between the two ends that
`create_client` and `create_server` make. The client waits in a status that no case of the
dispatcher knows, and no handler puts the server into `SCTP_ESTABLISHED`.
-/
namespace Kpnet.Sctp

open Bytes
open Kpnet.Ring (RingQueue)

/-- A call that returns the association. -/
def accepts (host : Host) (packet : Bytes) (e : Endpoint) : Option Endpoint :=
  match ifIpSctp host (some packet) e with
  | some (true, after) => some after
  | _ => none

/-- The frame last queued for transmission. -/
def Endpoint.lastSent (e : Endpoint) : Option Bytes :=
  match e.txRing with
  | none => none
  | some tx =>
    match tx.contents.getLast? with
    | some (some buffer, _) => some (e.frames buffer)
    | _ => none

/-- The handshake from a delivered INIT on: the server and the client it ends with, if every
packet is accepted and answered. -/
def handshake (host₁ host₂ host₃ host₄ : Host) (server client : Endpoint) (init : Bytes) :
    Option (Endpoint × Endpoint) := do
  let server ← accepts host₁ init server
  let initAck ← server.lastSent
  let client ← accepts host₂ initAck client
  let cookieEcho ← client.lastSent
  let server ← accepts host₃ cookieEcho server
  let cookieAck ← server.lastSent
  let client ← accepts host₄ cookieAck client
  return (server, client)

/-- Both ends are through. -/
def Completes (outcome : Option (Endpoint × Endpoint)) : Prop :=
  ∃ server client, outcome = some (server, client) ∧
    server.assoc.status = .established ∧ client.assoc.status = .established

theorem accepts_eq_some {host : Host} {packet : Bytes} {e after : Endpoint}
    (accepted : accepts host packet e = some after) :
    ifIpSctp host (some packet) e = some (true, after) := by
  unfold accepts at accepted
  split at accepted
  next returned =>
    cases accepted
    exact returned
  · cases accepted

/-- The status behind an accepted packet. -/
theorem accepts_status {host : Host} {packet : Bytes} {e after : Endpoint}
    (accepted : accepts host packet e = some after) :
    (e.assoc.status = .listen ∧ after.assoc.status = .listen) ∨
    (e.assoc.status = .initSent ∧ after.assoc.status = .initAckReceived) ∨
    (e.assoc.status = .initAckReceived ∧ after.assoc.status = .established) := by
  obtain ⟨impossible, -⟩ | ⟨-, p, given, admitted, changed⟩ :=
    ifIpSctp_cases (accepts_eq_some accepted)
  · cases impossible
  · have statuses := received_status host admitted
    rw [← changed] at statuses
    rcases statuses with ⟨-, status, same⟩ | ⟨-, -, status, new⟩ | ⟨-, status, new⟩ |
      ⟨-, status, new⟩
    · exact .inl ⟨status, by rw [same, status]⟩
    · exact .inr (.inl ⟨status, new⟩)
    · exact .inl ⟨status, new⟩
    · exact .inr (.inr ⟨status, new⟩)

/-- The steps of a handshake that goes through. -/
theorem handshake_eq_some {host₁ host₂ host₃ host₄ : Host} {server client server' client' : Endpoint}
    {init : Bytes}
    (through : handshake host₁ host₂ host₃ host₄ server client init = some (server', client')) :
    ∃ initAck cookieEcho cookieAck listening connected,
      accepts host₁ init server = some listening ∧ listening.lastSent = some initAck ∧
      accepts host₂ initAck client = some connected ∧ connected.lastSent = some cookieEcho ∧
      accepts host₃ cookieEcho listening = some server' ∧ server'.lastSent = some cookieAck ∧
      accepts host₄ cookieAck connected = some client' := by
  simp only [handshake, Option.bind_eq_bind, Option.bind_eq_some_iff, Option.pure_def,
    Option.some.injEq, Prod.mk.injEq] at through
  obtain ⟨listening, h₁, initAck, h₂, connected, h₃, cookieEcho, h₄, server'', h₅, cookieAck, h₆,
    client'', h₇, rfl, rfl⟩ := through
  exact ⟨initAck, cookieEcho, cookieAck, listening, connected, h₁, h₂, h₃, h₄, h₅, h₆, h₇⟩

/-- A server that listens still does after the handshake, whatever the client is. -/
theorem handshake_server_listens {host₁ host₂ host₃ host₄ : Host}
    {server client server' client' : Endpoint} {init : Bytes}
    (listens : server.assoc.status = .listen)
    (through : handshake host₁ host₂ host₃ host₄ server client init = some (server', client')) :
    server'.assoc.status = .listen := by
  obtain ⟨initAck, cookieEcho, cookieAck, listening, connected, init, -, -, -, echo, -⟩ :=
    handshake_eq_some through
  -- the INIT and the COOKIE ECHO both meet the server listening and leave it so
  have stays {host : Host} {packet : Bytes} {e after : Endpoint} (before : e.assoc.status = .listen)
      (accepted : accepts host packet e = some after) : after.assoc.status = .listen := by
    rcases accepts_status accepted with ⟨-, same⟩ | ⟨other, -⟩ | ⟨other, -⟩
    · exact same
    · cases before.symm.trans other
    · cases before.symm.trans other
  exact stays (stays listens init) echo

section Meeting

/-- Room for `n` more frames, and templates to make them of. -/
def Endpoint.Stocked (e : Endpoint) (n : Nat) : Prop :=
  (∃ tx, e.txRing = some tx ∧ tx.contents.length + n ≤ tx.capacity) ∧
    ∃ ring, e.prefilledRing = some ring ∧ ring.contents ≠ [] ∧
      ∀ entry ∈ ring.contents, entry.1 ≠ none

theorem Endpoint.Stocked.supplied {e : Endpoint} {n : Nat} (stocked : e.Stocked n) :
    e.Supplied := by
  obtain ⟨⟨tx, queue, -⟩, ring, present, filled, -⟩ := stocked
  exact ⟨⟨tx, queue⟩, ring, present, filled⟩

theorem Endpoint.Stocked.template {e : Endpoint} {n : Nat} (stocked : e.Stocked n) :
    ∃ buffer plen, e.Template buffer plen := by
  obtain ⟨-, ring, present, filled, templates⟩ := stocked
  obtain ⟨⟨packet, plen⟩, rest, contents⟩ := List.exists_cons_of_ne_nil filled
  obtain ⟨buffer, rfl⟩ := Option.ne_none_iff_exists'.mp (templates (packet, plen) (by simp [contents]))
  exact ⟨buffer, plen, ring, present, by rw [contents, List.head?_cons]⟩

/-- A queued frame is the last one sent, and takes one place. -/
theorem Queued.stocked {e after : Endpoint} {buffer n : Nat} {cellPlen : UInt64} {frame : Bytes}
    {plen : UInt32} (queued : Queued e buffer cellPlen frame plen after)
    (stocked : e.Stocked (n + 1)) : after.lastSent = some frame ∧ after.Stocked n := by
  obtain ⟨⟨tx, queue, room⟩, ring, present, filled, templates⟩ := stocked
  obtain ⟨tx', after_tx, queue', queue_after, capacity, contents⟩ := queued.tx
  obtain ⟨ring', after_ring, present', present_after, contents'⟩ := queued.prefilled
  rw [queue] at queue'
  rw [present] at present'
  cases queue'
  cases present'
  -- there was room, so the push took the frame
  rw [if_pos (by omega)] at contents
  refine ⟨?_, ⟨after_tx, queue_after, ?_⟩, after_ring, present_after, ?_, ?_⟩
  · simp only [Endpoint.lastSent, queue_after, contents, List.getLast?_append, List.getLast?_singleton,
      Option.some_or, queued.frames_self]
  · rw [contents, capacity, List.length_append, List.length_singleton]
    omega
  · simp [contents']
  · intro entry member
    rw [contents'] at member
    rcases List.mem_append.mp member with old | new
    · exact templates entry (List.mem_of_mem_tail old)
    · -- the template itself goes back to the end of its ring
      rw [List.mem_singleton.mp new]
      exact Option.some_ne_none buffer

/-- An INIT on its way between a listening server and a client that has sent it: the addresses
fit, both have room and templates for their answers, and the client's lead to the server. -/
structure Meeting (server client : Endpoint) (init : Bytes) : Prop where
  listens : server.assoc.status = .listen
  sent : client.assoc.status = .initSent
  type : init 46 = sctpInit
  arrives : Addressed server init
  base : ∃ base, client.assoc.base = some base ∧ base.state ≠ none
  ip : u32 init 26 = client.assoc.ulp.srcIp
  port : client.assoc.ulp.srcPort = (ntohs (u16 init 34)).toUInt32
  serverStocked : server.Stocked 2
  clientStocked : client.Stocked 1
  templates : ∀ buffer plen, client.Template buffer plen →
    u32 (client.frames buffer) 30 = server.assoc.ulp.srcIp ∧
    server.assoc.ulp.srcPort = (ntohs (u16 (client.frames buffer) 36)).toUInt32

/-- The answer to a COOKIE ECHO with this cookie under its code. -/
theorem sctpProcessSctpCookieEcho_queued (host : Host) {server : Endpoint} {buffer : Nat}
    {cellPlen : UInt64} {cookie : Cookie} {frame : Bytes} (supplied : server.Supplied)
    (template : server.Template buffer cellPlen)
    (found : slice frame 46 60 = fldHdr sctpCookieEcho (htons 60) ++
      (cookie.encode ++ hmacMd5 cookie.encode hmacKey)) :
    ∃ after,
      sctpProcessSctpCookieEcho host server (shift frame 46) (u16 frame 48) =
        some (0, { after with
          assoc := (prepareSctpThreads host.alloc (cookieEchoAssoc server.assoc cookie)).2 }) ∧
      Queued { server with assoc := cookieEchoAssoc server.assoc cookie } buffer cellPlen
        (builtFrame (fldHdr sctpCookieAck (htons 4)) (some (cookie.srcIp, cookie.srcPort))
          (fun cmn => generateCrc32c cmn (12 + 4)) (cookieEchoAssoc server.assoc cookie).verTag
          (cellPlen.toUInt32 + 4) (server.frames buffer)) (cellPlen.toUInt32 + 4) after := by
  obtain ⟨len, sealed, mac⟩ := cookieEcho_frame (length_hmacMd5 _ _) found
  have read : Cookie.read (shift (shift frame 46) 4) = cookie := by
    rw [shift_shift]
    exact Cookie.read_encode cookie frame _ sealed
  -- the code over the cookie that came is the one that came with it
  have equal : macDifference (hmacMd5 (slice (shift frame 46) 4 40) hmacKey)
      (shift (shift frame 46) 44) = 0 := by
    rw [macDifference_eq_zero _ _ (length_hmacMd5 _ _)]
    simp only [slice_shift, shift_shift]
    rw [sealed, mac]
  obtain ⟨after, built, queued⟩ := buildPrefilled_template
    (e := { server with assoc := cookieEchoAssoc server.assoc cookie })
    (fldHdr sctpCookieAck (htons 4))
    (some ((cookieEchoAssoc server.assoc cookie).dstIp, (cookieEchoAssoc server.assoc cookie).dstPort))
    (fun cmn => generateCrc32c cmn (12 + 4))
    (cookieEchoAssoc server.assoc cookie) (supplied.setAssoc _) (template.setAssoc _)
  refine ⟨after, ?_, queued⟩
  rw [len, sctpProcessSctpCookieEcho, if_neg (by decide), if_neg (not_not.mpr equal), read]
  dsimp only
  rw [show buildPrefilledMacIpSctpCookieAckHdr (cookieEchoAssoc server.assoc cookie)
    { server with assoc := cookieEchoAssoc server.assoc cookie } = some (0, after) from built]
  dsimp only
  rw [queued.assoc]

theorem accepts_of_dispatch {host : Host} {packet : Bytes} {e after : Endpoint}
    (addressed : Addressed e packet) (dispatched : dispatch host packet e = some (true, after)) :
    accepts host packet e = some after := by
  rw [accepts, ifIpSctp_addressed host addressed, dispatched]

section Answers

variable {server client : Endpoint} {frame : Bytes} {assoc : SctpAssociation} {cookie : Cookie}

/-- The INIT is answered to where it came from, with the chunk that the client looks for. -/
theorem init_answered (host : Host) (init : Bytes) (stocked : server.Stocked 2) :
    ∃ listening initAck, sctpProcessSctpInit host server (shift init 14) = some (0, listening) ∧
      listening.lastSent = some initAck ∧ listening.assoc = server.assoc ∧ listening.Stocked 1 ∧
      u32 initAck 30 = u32 init 26 ∧ u16 initAck 36 = u16 init 34 ∧
      slice initAck 46 80 = initAckChunk host (initAssoc server.assoc (shift init 14)) := by
  obtain ⟨buffer, cellPlen, template⟩ := stocked.template
  obtain ⟨listening, answered, queued⟩ :=
    sctpProcessSctpInit_queued host init stocked.supplied template
  obtain ⟨sent, restocked⟩ := queued.stocked stocked
  obtain ⟨dest, port⟩ := builtFrame_answer
    (initAckChunk host (initAssoc server.assoc (shift init 14))) (u32 init 26)
    (u16 init 34).toUInt32 _ _ _ (server.frames buffer)
  rw [UInt16.toUInt16_toUInt32] at port
  exact ⟨listening, _, answered, sent, queued.assoc, restocked, dest, port,
    slice_builtFrame _ _ _ _ _ _ (length_initAckChunk _ _)⟩

/-- The INIT ACK is answered with the cookie in it, to where the client's templates go. -/
theorem initAck_answered (ackHost : Host) (stocked : client.Stocked 1)
    (chunk : slice frame 46 80 = initAckChunk ackHost assoc) :
    ∃ connected cookieEcho buffer plen,
      sctpProcessSctpInitAck client (shift frame 50) (u16 frame 48) = some (0, connected) ∧
      connected.lastSent = some cookieEcho ∧
      connected.assoc = initAckAssoc client.assoc (shift frame 50) (htons 80) ∧
      client.Template buffer plen ∧ u32 cookieEcho 30 = u32 (client.frames buffer) 30 ∧
      u16 cookieEcho 36 = u16 (client.frames buffer) 36 ∧
      slice cookieEcho 46 60 = fldHdr sctpCookieEcho (htons 60) ++
        ((stateCookie ackHost assoc).encode ++
          hmacMd5 (stateCookie ackHost assoc).encode hmacKey) := by
  obtain ⟨buffer, cellPlen, template⟩ := stocked.template
  obtain ⟨connected, acked, queued⟩ :=
    sctpProcessSctpInitAck_queued ackHost stocked.supplied template chunk
  obtain ⟨sent, -⟩ := queued.stocked (n := 0) ⟨stocked.1, stocked.2⟩
  obtain ⟨dest, port⟩ := builtFrame_forward (fldHdr sctpCookieEcho (htons 60) ++
    ((stateCookie ackHost assoc).encode ++ hmacMd5 (stateCookie ackHost assoc).encode hmacKey))
    _ _ _ (client.frames buffer)
  exact ⟨connected, _, buffer, cellPlen, acked, sent, queued.assoc, template, dest, port,
    slice_builtFrame _ _ _ _ _ _ (by simp [fldHdr])⟩

/-- The COOKIE ECHO is answered to the address sealed in the cookie, and the table made. -/
theorem cookieEcho_answered (host : Host) (stocked : server.Stocked 1)
    (chunk : slice frame 46 60 = fldHdr sctpCookieEcho (htons 60) ++
      (cookie.encode ++ hmacMd5 cookie.encode hmacKey)) :
    ∃ served cookieAck,
      sctpProcessSctpCookieEcho host server (shift frame 46) (u16 frame 48) = some (0, served) ∧
      served.lastSent = some cookieAck ∧
      served.assoc = (prepareSctpThreads host.alloc (cookieEchoAssoc server.assoc cookie)).2 ∧
      u32 cookieAck 30 = cookie.srcIp ∧ u16 cookieAck 36 = cookie.srcPort.toUInt16 ∧
      slice cookieAck 46 4 = fldHdr sctpCookieAck (htons 4) := by
  obtain ⟨buffer, cellPlen, template⟩ := stocked.template
  obtain ⟨after, echoed, queued⟩ :=
    sctpProcessSctpCookieEcho_queued host stocked.supplied template chunk
  obtain ⟨sent, -⟩ := queued.stocked (n := 0) ⟨stocked.1, stocked.2⟩
  obtain ⟨dest, port⟩ := builtFrame_answer (fldHdr sctpCookieAck (htons 4)) cookie.srcIp
    cookie.srcPort _ _ _ (server.frames buffer)
  exact ⟨_, _, echoed, sent, rfl, dest, port, slice_builtFrame _ _ _ _ _ _ rfl⟩

end Answers

/-- First leg: the INIT ACK goes back to where the INIT came from. -/
theorem init_leg {server client : Endpoint} {init : Bytes} (meeting : Meeting server client init)
    (host : Host) :
    ∃ listening initAck, accepts host init server = some listening ∧
      listening.lastSent = some initAck ∧ listening.assoc = server.assoc ∧ listening.Stocked 1 ∧
      Addressed client initAck ∧
      slice initAck 46 80 = initAckChunk host (initAssoc server.assoc (shift init 14)) := by
  obtain ⟨listening, initAck, answered, sent, same, stocked, dest, port, chunk⟩ :=
    init_answered host init meeting.serverStocked
  refine ⟨listening, initAck, ?_, sent, same, stocked, ?_, chunk⟩
  · refine accepts_of_dispatch meeting.arrives ?_
    rw [dispatch, if_pos meeting.type, if_pos meeting.listens, answered]
    rfl
  · refine ⟨meeting.base, dest.trans meeting.ip, ?_⟩
    rw [port]
    exact meeting.port

/-- Second leg: the COOKIE ECHO goes where the client's templates go. -/
theorem initAck_leg {client : Endpoint} {initAck : Bytes} {assoc : SctpAssociation}
    (host ackHost : Host) (sent : client.assoc.status = .initSent) (stocked : client.Stocked 1)
    (addressed : Addressed client initAck)
    (chunk : slice initAck 46 80 = initAckChunk ackHost assoc) :
    ∃ connected cookieEcho buffer plen, accepts host initAck client = some connected ∧
      connected.lastSent = some cookieEcho ∧
      connected.assoc = initAckAssoc client.assoc (shift initAck 50) (htons 80) ∧
      client.Template buffer plen ∧ u32 cookieEcho 30 = u32 (client.frames buffer) 30 ∧
      u16 cookieEcho 36 = u16 (client.frames buffer) 36 ∧
      slice cookieEcho 46 60 = fldHdr sctpCookieEcho (htons 60) ++
        ((stateCookie ackHost assoc).encode ++
          hmacMd5 (stateCookie ackHost assoc).encode hmacKey) := by
  obtain ⟨connected, cookieEcho, buffer, plen, acked, answer⟩ :=
    initAck_answered ackHost stocked chunk
  refine ⟨connected, cookieEcho, buffer, plen, ?_, answer⟩
  have type : initAck 46 = sctpInitAck := head_of_slice chunk
  refine accepts_of_dispatch addressed ?_
  rw [dispatch, if_neg (by rw [type]; decide), if_pos type, if_pos sent, acked]
  rfl

/-- Third leg: the COOKIE ACK goes to the address sealed in the cookie. -/
theorem cookieEcho_leg {server : Endpoint} {cookieEcho : Bytes} {cookie : Cookie} (host : Host)
    (listens : server.assoc.status = .listen) (stocked : server.Stocked 1)
    (addressed : Addressed server cookieEcho)
    (chunk : slice cookieEcho 46 60 = fldHdr sctpCookieEcho (htons 60) ++
      (cookie.encode ++ hmacMd5 cookie.encode hmacKey)) :
    ∃ after cookieAck, accepts host cookieEcho server = some after ∧
      after.lastSent = some cookieAck ∧ u32 cookieAck 30 = cookie.srcIp ∧
      u16 cookieAck 36 = cookie.srcPort.toUInt16 ∧
      slice cookieAck 46 4 = fldHdr sctpCookieAck (htons 4) := by
  obtain ⟨served, cookieAck, echoed, sent, -, answer⟩ := cookieEcho_answered host stocked chunk
  refine ⟨served, cookieAck, ?_, sent, answer⟩
  have type : cookieEcho 46 = sctpCookieEcho := head_of_slice chunk
  refine accepts_of_dispatch addressed ?_
  rw [dispatch, if_neg (by rw [type]; decide), if_neg (by rw [type]; decide), if_pos type,
    if_pos listens, echoed]
  rfl

/-- Last leg: the client has what it was waiting for. -/
theorem cookieAck_leg {client : Endpoint} {cookieAck : Bytes} (host : Host)
    (waits : client.assoc.status = .initAckReceived) (addressed : Addressed client cookieAck)
    (chunk : slice cookieAck 46 4 = fldHdr sctpCookieAck (htons 4)) :
    ∃ after, accepts host cookieAck client = some after ∧ after.assoc.status = .established := by
  have type : cookieAck 46 = sctpCookieAck := head_of_slice chunk
  have len : u16 cookieAck 48 = htons 4 := u16_of_slice chunk 2 _ (by omega) rfl
  let prepared := (prepareSctpThreads host.alloc (cookieAckAssoc client.assoc)).2
  refine ⟨{ client with assoc := prepared }, accepts_of_dispatch addressed ?_, ?_⟩
  · rw [dispatch, if_neg (by rw [type]; decide), if_neg (by rw [type]; decide),
      if_neg (by rw [type]; decide), if_pos type, if_pos waits, len, sctpProcessSctpCookieAck,
      if_neg (by decide)]
    rfl
  · exact prepareSctpThreads_status host.alloc (cookieAckAssoc client.assoc)

/-- With the status that its association was created in, the client gets through: all four
packets are accepted, and it is the server that is left behind. -/
theorem handshake_but_for_status {server client : Endpoint} {init : Bytes}
    (meeting : Meeting server client init) (host₁ host₂ host₃ host₄ : Host) :
    ∃ server' client',
      handshake host₁ host₂ host₃ host₄ server client init = some (server', client') ∧
      client'.assoc.status = .established ∧ server'.assoc.status = .listen := by
  obtain ⟨listening, initAck, accepted₁, sent₁, same, stocked, addressed₁, chunk₁⟩ :=
    init_leg meeting host₁
  obtain ⟨connected, cookieEcho, buffer, plen, accepted₂, sent₂, connects, template, dest, port,
    chunk₂⟩ := initAck_leg host₂ host₁ meeting.sent meeting.clientStocked addressed₁ chunk₁
  -- the client's templates carry the server's address
  have addressed₂ : Addressed listening cookieEcho := by
    rw [Addressed, same, dest, port]
    exact ⟨meeting.arrives.1, meeting.templates buffer plen template⟩
  obtain ⟨server', cookieAck, accepted₃, sent₃, dest', port', chunk₃⟩ := cookieEcho_leg host₃
    (by rw [same, meeting.listens]) stocked addressed₂ chunk₂
  -- and the cookie carries that of the client, from its own INIT
  have addressed₃ : Addressed connected cookieAck := by
    rw [Addressed, connects, dest', port', initAckAssoc_base, initAckAssoc_ulp]
    refine ⟨meeting.base, ?_, ?_⟩
    · simpa [stateCookie, initAssoc] using meeting.ip
    · simpa [stateCookie, initAssoc] using meeting.port
  obtain ⟨client', accepted₄, established⟩ := cookieAck_leg host₄ (by rw [connects, initAckAssoc_status])
    addressed₃ chunk₃
  have through : handshake host₁ host₂ host₃ host₄ server client init =
      some (server', client') := by
    simp [handshake, accepted₁, sent₁, accepted₂, sent₂, accepted₃, sent₃, accepted₄]
  exact ⟨server', client', through, established, handshake_server_listens meeting.listens through⟩

theorem Endpoint.fresh_stocked (assoc : SctpAssociation) {n : Nat} (few : n ≤ 2) :
    (Endpoint.fresh assoc).Stocked n := by
  have room := twoTemplates.length_contents_le
  rw [contents_twoTemplates] at room
  refine ⟨⟨_, rfl, ?_⟩, twoTemplates, rfl, by simp [contents_twoTemplates],
    by simp [contents_twoTemplates]⟩
  simpa [contents_twoTemplates] using Nat.le_trans few room

theorem meeting_created : Meeting createdServer createdClient (plainInit ⟨31, 32, 33, some⟩) := by
  exact {
    listens := rfl
    sent := rfl
    type := by decide
    arrives := ⟨⟨_, rfl, Option.some_ne_none _⟩, by decide, by decide⟩
    base := ⟨_, rfl, Option.some_ne_none _⟩
    ip := by decide
    port := by decide
    serverStocked := Endpoint.fresh_stocked _ (by omega)
    clientStocked := Endpoint.fresh_stocked _ (by omega)
    templates := by
      intro buffer plen _
      show u32 (template createdClient.assoc.ulp) 30 = createdServer.assoc.ulp.srcIp ∧
        createdServer.assoc.ulp.srcPort =
          (ntohs (u16 (template createdClient.assoc.ulp) 36)).toUInt32
      decide }

end Meeting

/-- No packet whatsoever is for a client in `SCTP_COOKIE_WAIT`. -/
theorem accepts_cookieWait {client : Endpoint} (waits : client.assoc.status = .cookieWait)
    (host : Host) (packet : Bytes) : accepts host packet client = none := by
  rw [Option.eq_none_iff_forall_ne_some]
  intro after accepted
  rcases accepts_status accepted with ⟨other, -⟩ | ⟨other, -⟩ | ⟨other, -⟩
  · cases waits.symm.trans other
  · cases waits.symm.trans other
  · cases waits.symm.trans other

/-- It does not get past the INIT ACK. -/
theorem handshake_cookieWait {client : Endpoint} (waits : client.assoc.status = .cookieWait)
    (host₁ host₂ host₃ host₄ : Host) (server : Endpoint) (init : Bytes) :
    handshake host₁ host₂ host₃ host₄ server client init = none := by
  rw [Option.eq_none_iff_forall_ne_some]
  rintro ⟨server', client'⟩ through
  obtain ⟨initAck, cookieEcho, cookieAck, listening, connected, -, -, acked, -⟩ :=
    handshake_eq_some through
  rw [accepts_cookieWait waits] at acked
  cases acked

/-- The handshake of the two ends as they are created does not complete, whatever the
addresses, the draws, and the rings and templates they are given; nor would it with any
other status of the client. -/
theorem handshake_never_completes (clientEnv serverEnv clientEnv' serverEnv' : KpnetEnv)
    (clientAllocated serverAllocated : Bool) (clientArgs serverArgs : Creation) (initHost : Host)
    (readings : List (UInt32 × UInt32)) (frame : List UInt8)
    (clientAssoc serverAssoc : SctpAssociation)
    (clientCreated : createClient clientEnv clientAllocated clientArgs initHost readings =
      some (frame, clientAssoc, clientEnv'))
    (serverCreated : createServer serverEnv serverAllocated serverArgs =
      some (serverAssoc, serverEnv'))
    (clientTx clientPrefilled serverTx serverPrefilled : RingQueue Nat)
    (clientFrames serverFrames : Nat → Bytes) (received : Bytes)
    (host₁ host₂ host₃ host₄ : Host) :
    let server : Endpoint := ⟨serverAssoc, some serverTx, some serverPrefilled, serverFrames⟩
    let client : Endpoint := ⟨clientAssoc, some clientTx, some clientPrefilled, clientFrames⟩
    let init := put received 0 frame
    ¬Completes (handshake host₁ host₂ host₃ host₄ server client init) ∧
    ∀ status, ¬Completes (handshake host₁ host₂ host₃ host₄ server
      { client with assoc := { clientAssoc with status := status } } init) := by
  intro server client init
  constructor
  · -- as created, the client accepts nothing
    rintro ⟨server', client', through, -⟩
    have waits : client.assoc.status = .cookieWait := createClient_status clientCreated
    rw [handshake_cookieWait waits] at through
    cases through
  · -- with any other status, the server is never established
    rintro status ⟨server', client', through, established, -⟩
    have listens : server.assoc.status = .listen := createServer_status serverCreated
    cases (handshake_server_listens listens through).symm.trans established

/-- A packet area of which one chunk is left, mapped at 4096. -/
def oneChunk : KpnetEnv :=
  { stateAlloc :=
      { freeList := 0
        stack := { addrs := fun i => UInt64.ofNat (4096 * i), top := 1, cap := 4096 }
        curPos := 0
        curEnd := 0 }
    umemBase := 4096
    umem := fun _ => 0 }

/-- From there both ends can be created. -/
theorem ends_created : ∃ frame client clientEnv server serverEnv,
    createClient oneChunk true (clientArgs 4000 (some (.replicate 6 3)) (some (.replicate 6 2)) 8 2)
      ⟨31, 32, 33, some⟩ [(0, 0)] = some (frame, client, clientEnv) ∧
    createServer oneChunk true (serverArgs (some (.replicate 6 2)) (some (.replicate 6 3)) 7 1) =
      some (server, serverEnv) := by
  have clientCreated : (createClient oneChunk true (clientArgs 4000 (some (.replicate 6 3))
      (some (.replicate 6 2)) 8 2) ⟨31, 32, 33, some⟩ [(0, 0)]).isSome = true := by decide
  have serverCreated : (createServer oneChunk true (serverArgs (some (.replicate 6 2))
      (some (.replicate 6 3)) 7 1)).isSome = true := by decide
  obtain ⟨⟨frame, client, clientEnv⟩, clientCreated⟩ := Option.isSome_iff_exists.mp clientCreated
  obtain ⟨⟨server, serverEnv⟩, serverCreated⟩ := Option.isSome_iff_exists.mp serverCreated
  exact ⟨frame, client, clientEnv, server, serverEnv, clientCreated, serverCreated⟩

theorem handshake_never_completes_created : ∃ frame client server,
    (∃ env, createClient oneChunk true (clientArgs 4000 (some (.replicate 6 3))
      (some (.replicate 6 2)) 8 2) ⟨31, 32, 33, some⟩ [(0, 0)] = some (frame, client, env)) ∧
    (∃ env, createServer oneChunk true (serverArgs (some (.replicate 6 2))
      (some (.replicate 6 3)) 7 1) = some (server, env)) ∧
    ¬Completes (handshake ⟨11, 12, 13, some⟩ ⟨21, 22, 23, some⟩ ⟨41, 42, 43, some⟩
      ⟨51, 52, 53, some⟩ (Endpoint.fresh server) (Endpoint.fresh client)
      (put (fun _ => 0) 0 frame)) := by
  obtain ⟨frame, client, clientEnv, server, serverEnv, clientCreated, serverCreated⟩ := ends_created
  refine ⟨frame, client, server, ⟨clientEnv, clientCreated⟩, ⟨serverEnv, serverCreated⟩, ?_⟩
  exact (handshake_never_completes _ _ _ _ _ _ _ _ _ _ _ _ _ clientCreated serverCreated _ _ _ _
    _ _ _ _ _ _ _).1

/-- The client of `create_client` accepts nothing the server could answer, and the handshake
stops there. -/
theorem handshake_stalls : ∃ frame client server,
    (∃ env, createClient oneChunk true (clientArgs 4000 (some (.replicate 6 3))
      (some (.replicate 6 2)) 8 2) ⟨31, 32, 33, some⟩ [(0, 0)] = some (frame, client, env)) ∧
    (∃ env, createServer oneChunk true (serverArgs (some (.replicate 6 2))
      (some (.replicate 6 3)) 7 1) = some (server, env)) ∧
    (∀ initAck, accepts ⟨21, 22, 23, some⟩ initAck (Endpoint.fresh client) = none) ∧
    ¬Completes (handshake ⟨11, 12, 13, some⟩ ⟨21, 22, 23, some⟩ ⟨41, 42, 43, some⟩
      ⟨51, 52, 53, some⟩ (Endpoint.fresh server) (Endpoint.fresh client)
      (put (fun _ => 0) 0 frame)) := by
  obtain ⟨frame, client, clientEnv, server, serverEnv, clientCreated, serverCreated⟩ := ends_created
  have waits : (Endpoint.fresh client).assoc.status = .cookieWait :=
    createClient_status clientCreated
  refine ⟨frame, client, server, ⟨clientEnv, clientCreated⟩, ⟨serverEnv, serverCreated⟩,
    accepts_cookieWait waits _, ?_⟩
  rw [handshake_cookieWait waits]
  rintro ⟨server', client', through, -⟩
  cases through

end Kpnet.Sctp
