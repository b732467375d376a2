import Kpnet.Sctp.Handshake
import Kpnet.Sctp.IpUpdates
import Kpnet.Sctp.Network

/-!
# A handshake that goes through

Where the templates are those of `prefill_mac_ip_sctp` and the borrows of both answers cancel, every
frame gets through the check of the other end, and the last one makes the client established.
-/
namespace Kpnet.Sctp

open Bytes Runs
open Kpnet.Ring (RingQueue)

section Frames

variable {chunk : List UInt8} {peer : Option (UInt32 × UInt32)} {tag : UInt32} {template : Bytes}

/-- The length of the chunk is where the checks look for it. -/
theorem chunkLen_builtFrame {crc : Bytes → UInt32} {plen : UInt32} {type : UInt8} {len : UInt16}
    {rest : List UInt8} (starts : chunk = fldHdr type len ++ rest) :
    chunkLen (builtFrame chunk peer crc tag plen template) = (ntohs len).toNat := by
  have found := slice_builtFrame chunk peer crc tag plen template rfl
  rw [chunkLen]
  subst starts
  rw [u16_of_slice found 2 len (by simp [fldHdr]) rfl]

/-- The CRC that a builder writes is the one that the check computes. -/
theorem crcIntact_builtFrame {plen length : UInt32}
    (len : 12 + chunkLen (builtFrame chunk peer (fun cmn => generateCrc32c cmn length) tag plen
      template) = length.toNat) :
    CrcIntact (builtFrame chunk peer (fun cmn => generateCrc32c cmn length) tag plen template) := by
  have value (packet : Bytes) : crc32c (slice packet 34 length.toNat) =
      generateCrc32c (shift packet 34) length := by
    rw [generateCrc32c_eq, slice_shift]
  rw [crcIntact_iff, firstCrc, crcOf, len, value]
  simp only [builtFrame, stampCmn]
  rw [u32_put_self, put_put _ _ (by simp), put_put _ _ (by simp)]

/-- What the check and the filter of the other end look at in a frame of one chunk. -/
structure Bears (frame : Bytes) (plen : UInt64) (chunk : List UInt8) (addr : UInt32)
    (port : UInt16) : Prop where
  sound : Sound frame plen
  whole : 46 + chunkLen frame ≤ plen.toNat
  chunk : slice frame 46 chunk.length = chunk
  addr : u32 frame 30 = addr
  port : u16 frame 36 = port

section Borne

variable (tag) (plen n : UInt32) (size : UInt64) {type : UInt8} {len : UInt16} {rest : List UInt8}
  {state : IfIpSctpMeta} (starts : chunk = fldHdr type len ++ rest)
  (length : (ntohs len).toNat = n.toNat) (fits : plen.toNat = 46 + n.toNat) (whole : 4 ≤ n.toNat)
  (short : n.toNat < 1000) (count : plen.toUInt64 = size)

include starts length fits whole short count

/-- The length and the CRC of a built frame are right, if the checksum of its header is. -/
theorem bears_builtFrame {frame : Bytes} {addr : UInt32} {port : UInt16}
    (built : frame = builtFrame chunk peer (fun cmn => generateCrc32c cmn (12 + n)) tag plen template)
    (intact : IpIntact frame) (goes : u32 frame 30 = addr ∧ u16 frame 36 = port) :
    Bears frame size chunk addr port where
  sound := {
    headers := by
      rw [← count, UInt32.toNat_toUInt64]
      omega
    ip := intact
    len := by
      have behind : (plen - 14).toNat = 32 + n.toNat := by
        rw [UInt32.toNat_sub_of_le _ _ (by rw [UInt32.le_iff_toNat_le]; simp; omega)]
        simp
        omega
      rw [built, ipLen, u16_builtFrame_len, ntohs_htons, UInt32.toNat_toUInt16, behind]
      omega
    crc := by
      rw [built]
      apply crcIntact_builtFrame
      rw [chunkLen_builtFrame starts, UInt32.toNat_add, length]
      simp
      omega }
  whole := by
    rw [built, chunkLen_builtFrame starts, length, ← count, UInt32.toNat_toUInt64]
    omega
  chunk := by
    rw [built]
    exact slice_builtFrame _ _ _ _ _ _ rfl
  addr := goes.1
  port := goes.2

/-- An answer from a template for any peer, where the borrow cancels. -/
theorem bears_answer (written : TemplateFor state template) (any : state.dstIp = 0xFFFFFFFF)
    (addr port : UInt32) (cancels : BorrowCancels (u16 template 24).toNat
      ((htons (plen - 14).toUInt16).toNat + addr.toNat)) :
    Bears (builtFrame chunk (some (addr, port)) (fun cmn => generateCrc32c cmn (12 + n)) tag plen
      template) size chunk addr port.toUInt16 :=
  bears_builtFrame tag plen n size starts length fits whole short count rfl
    ((answer_intact_iff written any _ _ _ _ _ _).mpr cancels) (builtFrame_answer _ _ _ _ _ _ _)

/-- And a frame that goes where its template goes. -/
theorem bears_forward (written : TemplateFor state template) :
    Bears (builtFrame chunk none (fun cmn => generateCrc32c cmn (12 + n)) tag plen template)
      size chunk (u32 template 30) (u16 template 36) := by
  obtain ⟨start, blank, -⟩ := written.fields
  refine bears_builtFrame tag plen n size starts length fits whole short count rfl ?_
    (builtFrame_forward _ _ _ _ _)
  rw [builtFrame_intact_iff]
  exact stampIp_intact plen start blank written.intact

end Borne

end Frames

/-- The next templates, of the length of the headers, are in these buffers. -/
def Endpoint.Next (e : Endpoint) (buffers : List Nat) : Prop :=
  ∃ ring, e.prefilledRing = some ring ∧
    (buffers.map fun buffer => (some buffer, (46 : UInt64))) <+: ring.contents

/-- No frame waits. -/
structure Endpoint.Ready (e : Endpoint) (buffers : List Nat) : Prop where
  idle : ∃ tx, e.txRing = some tx ∧ tx.contents = []
  next : e.Next buffers

/-- One frame waits. -/
structure Endpoint.Replied (e : Endpoint) (buffer : Nat) (plen : UInt64) (buffers : List Nat) :
    Prop where
  waits : ∃ tx, e.txRing = some tx ∧ tx.contents = [(some buffer, plen)]
  next : e.Next buffers

section Answers

variable {e after : Endpoint} {buffer : Nat} {buffers : List Nat}

theorem Endpoint.Ready.template (ready : e.Ready (buffer :: buffers)) : e.Template buffer 46 := by
  obtain ⟨-, ring, present, rest, contents⟩ := ready
  exact ⟨ring, present, by rw [← contents]; rfl⟩

theorem Endpoint.Ready.supplied (ready : e.Ready (buffer :: buffers)) : e.Supplied := by
  obtain ⟨⟨tx, queue, -⟩, ring, present, rest, contents⟩ := ready
  exact ⟨⟨tx, queue⟩, ring, present, by simp [← contents]⟩

theorem Endpoint.Ready.setAssoc (ready : e.Ready buffers) (assoc : SctpAssociation) :
    Endpoint.Ready { e with assoc := assoc } buffers :=
  ⟨ready.idle, ready.next⟩

theorem Queued.replied {frame : Bytes} {plen : UInt32} (size : UInt64)
    (queued : Queued e buffer 46 frame plen after) (ready : e.Ready (buffer :: buffers))
    (count : plen.toUInt64 = size) : after.Replied buffer size buffers := by
  subst count
  obtain ⟨⟨tx, queue, idle⟩, ring, present, rest, contents⟩ := ready
  obtain ⟨-, after_tx, -, queue_after, -, -⟩ := queued.tx
  obtain ⟨ring', after_ring, present', present_after, contents'⟩ := queued.prefilled
  rw [present] at present'
  cases present'
  constructor
  · have waits := queued.held_tx
    rw [queue, offered_empty tx idle] at waits
    rw [queue_after] at waits
    exact ⟨after_tx, queue_after, waits⟩
  · refine ⟨after_ring, present_after, rest ++ [(some buffer, 46)], ?_⟩
    rw [contents', ← contents, List.map_cons, List.cons_append, List.tail_cons, List.append_assoc]

/-- What waits alone leaves as it is. -/
theorem Station.emits {s : Station} {plen : UInt64}
    (replied : s.toEndpoint.Replied buffer plen buffers) :
    ∃ popped sent, s.pop = some popped ∧ popped.send buffer plen = some sent ∧
      sent.assoc = s.assoc ∧ sent.frames = s.frames ∧ sent.toEndpoint.Ready buffers ∧
      sent.sent = (s.frames buffer, plen) :: s.sent := by
  obtain ⟨⟨tx, queue, alone⟩, ring, present, next⟩ := replied
  let popped : Station :=
    { s with txRing := some tx.pop.2, popped := s.popped ++ [(some buffer, plen)] }
  refine ⟨popped, { popped with sent := (s.frames buffer, plen) :: s.sent }, ?_, ?_, rfl, rfl,
    ⟨⟨tx.pop.2, rfl, ?_⟩, ring, present, next⟩, rfl⟩
  · simp only [Station.pop, queue, tx.pop_fst, alone]
    rfl
  · rw [Station.send, if_pos (by simp [popped])]
  · rw [tx.contents_pop, alone, List.tail_cons]

end Answers

section Heard

variable {host : Host} {packet : Bytes} {plen : UInt64} {e after : Endpoint} {buffer : Nat}
  {buffers : List Nat} {state : IfIpSctpMeta} {addr : UInt32} {port : UInt16}

/-- A packet that gets through the check is for the filter to judge. -/
theorem hear_of_accepts (sound : Sound packet plen) (accepted : accepts host packet e = some after) :
    hear host packet plen e = some (true, after) := by
  rw [hear, (sctpCheckChecksums_sound packet plen).1 sound]
  simp [accepts_eq_some accepted]

/-- The server answers an INIT. -/
theorem hear_init (host : Host) (sound : Sound packet plen) (addressed : Addressed e packet)
    (type : packet 46 = sctpInit) (listens : e.assoc.status = .listen)
    (ready : e.Ready (buffer :: buffers)) (written : TemplateFor state (e.frames buffer))
    (any : state.dstIp = 0xFFFFFFFF) (cancels : BorrowCancels (u16 (e.frames buffer) 24).toNat
      ((htons 112).toNat + (u32 packet 26).toNat)) :
    ∃ after frame, hear host packet plen e = some (true, after) ∧ after.assoc = e.assoc ∧
      after.frames = Function.update e.frames buffer frame ∧ after.Replied buffer 126 buffers ∧
      Bears frame 126 (initAckChunk host (initAssoc e.assoc (shift packet 14))) (u32 packet 26)
        (u16 packet 34) := by
  obtain ⟨after, answered, queued⟩ :=
    sctpProcessSctpInit_queued host packet ready.supplied ready.template
  refine ⟨after, _, hear_of_accepts sound (accepts_of_dispatch addressed ?_), queued.assoc,
    queued.frames, queued.replied 126 ready (by decide), ?_⟩
  · rw [dispatch, if_pos type, if_pos listens, answered]
    rfl
  · have starts : ∃ rest, initAckChunk host (initAssoc e.assoc (shift packet 14)) =
        fldHdr sctpInitAck (htons 80) ++ rest := by
      simp only [initAckChunk, List.append_assoc]
      exact ⟨_, rfl⟩
    obtain ⟨rest, starts⟩ := starts
    have bears := bears_answer (initAssoc e.assoc (shift packet 14)).verTag
      ((46 : UInt64).toUInt32 + 80) 80 126 starts (by decide) (by decide) (by decide)
      (by decide) (by decide) written any (u32 packet 26) (u16 packet 34).toUInt32 cancels
    rwa [UInt16.toUInt16_toUInt32] at bears

/-- The client sends the cookie of an INIT ACK back. -/
theorem hear_initAck {ackHost : Host} {assoc : SctpAssociation} (host : Host)
    (bears : Bears packet plen (initAckChunk ackHost assoc) addr port)
    (addressed : Addressed e packet) (sent : e.assoc.status = .initSent)
    (ready : e.Ready (buffer :: buffers)) (written : TemplateFor state (e.frames buffer)) :
    ∃ after frame, hear host packet plen e = some (true, after) ∧
      after.assoc = initAckAssoc e.assoc (shift packet 50) (htons 80) ∧
      after.frames = Function.update e.frames buffer frame ∧ after.Replied buffer 106 buffers ∧
      Bears frame 106 (fldHdr sctpCookieEcho (htons 60) ++
        ((stateCookie ackHost assoc).encode ++ hmacMd5 (stateCookie ackHost assoc).encode hmacKey))
        (u32 (e.frames buffer) 30) (u16 (e.frames buffer) 36) := by
  have chunk := bears.chunk
  rw [length_initAckChunk] at chunk
  have type : packet 46 = sctpInitAck := head_of_slice chunk
  obtain ⟨after, acked, queued⟩ :=
    sctpProcessSctpInitAck_queued ackHost ready.supplied ready.template chunk
  refine ⟨after, _, hear_of_accepts bears.sound (accepts_of_dispatch addressed ?_), queued.assoc,
    queued.frames, queued.replied 106 (ready.setAssoc _) (by decide), ?_⟩
  · rw [dispatch, if_neg (by rw [type]; decide), if_pos type, if_pos sent, acked]
    rfl
  · exact bears_forward _ ((46 : UInt64).toUInt32 + 60) 60 106 rfl (by decide) (by decide) (by decide)
      (by decide) (by decide) written

/-- The server answers the cookie, and has it back. -/
theorem hear_cookieEcho {cookie : Cookie} (host : Host)
    (bears : Bears packet plen (fldHdr sctpCookieEcho (htons 60) ++
      (cookie.encode ++ hmacMd5 cookie.encode hmacKey)) addr port)
    (addressed : Addressed e packet) (listens : e.assoc.status = .listen)
    (ready : e.Ready (buffer :: buffers)) (written : TemplateFor state (e.frames buffer))
    (any : state.dstIp = 0xFFFFFFFF) (cancels : BorrowCancels (u16 (e.frames buffer) 24).toNat
      ((htons 36).toNat + cookie.srcIp.toNat)) :
    ∃ after frame, hear host packet plen e = some (true, after) ∧
      after.Replied buffer 50 buffers ∧ after.frames = Function.update e.frames buffer frame ∧
      Cookie.read (shift packet 50) = cookie ∧
      Bears frame 50 (fldHdr sctpCookieAck (htons 4)) cookie.srcIp cookie.srcPort.toUInt16 := by
  have chunk : slice packet 46 60 = fldHdr sctpCookieEcho (htons 60) ++
      (cookie.encode ++ hmacMd5 cookie.encode hmacKey) := by
    have found := bears.chunk
    simpa [fldHdr] using found
  have type : packet 46 = sctpCookieEcho := head_of_slice chunk
  obtain ⟨-, sealed, -⟩ := cookieEcho_frame (length_hmacMd5 _ _) chunk
  obtain ⟨after, echoed, queued⟩ :=
    sctpProcessSctpCookieEcho_queued host ready.supplied ready.template chunk
  have replied := queued.replied 50 (ready.setAssoc _) (by decide)
  let prepared := (prepareSctpThreads host.alloc (cookieEchoAssoc e.assoc cookie)).2
  refine ⟨{ after with assoc := prepared }, _,
    hear_of_accepts bears.sound (accepts_of_dispatch addressed ?_),
    ⟨replied.waits, replied.next⟩, queued.frames, Cookie.read_encode _ _ _ sealed, ?_⟩
  · rw [dispatch, if_neg (by rw [type]; decide), if_neg (by rw [type]; decide), if_pos type,
      if_pos listens, echoed]
    rfl
  · exact bears_answer _ ((46 : UInt64).toUInt32 + 4) 4 50 (List.append_nil _).symm (by decide)
      (by decide) (by decide) (by decide) (by decide) written any cookie.srcIp cookie.srcPort cancels

/-- The client is through. -/
theorem hear_cookieAck (host : Host)
    (bears : Bears packet plen (fldHdr sctpCookieAck (htons 4)) addr port)
    (addressed : Addressed e packet) (waits : e.assoc.status = .initAckReceived) :
    ∃ after, hear host packet plen e = some (true, after) ∧ after.assoc.status = .established := by
  obtain ⟨after, accepted, established⟩ := cookieAck_leg host waits addressed bears.chunk
  exact ⟨after, hear_of_accepts bears.sound accepted, established⟩

end Heard

section Legs

variable {w : Network} {host : Host} {packet : Bytes} {plen len : UInt64} {e : Endpoint} {buffer : Nat}
  {buffers : List Nat}

/-- The server answers what it accepts, and the answer leaves. -/
theorem server_leg (genuine : Genuine w (.toServer host packet plen))
    (heard : hear host packet plen w.server.toEndpoint = some (true, e))
    (replied : e.Replied buffer len buffers) :
    ∃ server : Station, server.assoc = e.assoc ∧ server.frames = e.frames ∧
      server.toEndpoint.Ready buffers ∧ server.sent = (e.frames buffer, len) :: w.server.sent ∧
      run networkAct w [.toServer host packet plen, .popServer, .sendServer buffer len] =
        some ({ w with
          server := server
          asked := if packet 46 = sctpInit then (host, packet) :: w.asked else w.asked
          served :=
            if packet 46 = sctpCookieEcho then Cookie.read (shift packet 50) :: w.served
            else w.served }, [true]) ∧
      Along networkAct Genuine w [.toServer host packet plen, .popServer, .sendServer buffer len] := by
  obtain ⟨popped, server, pops, sends, assoc, frames, ready, sent⟩ :=
    Station.emits (s := { w.server with toEndpoint := e }) replied
  refine ⟨server, assoc, frames, ready, sent, ?_, genuine, fun _ _ _ => ⟨trivial, fun _ _ _ =>
    ⟨trivial, fun _ _ _ => trivial⟩⟩⟩
  simp only [run, networkAct, heard, pops, sends, Option.map_some, true_and, List.append_nil]

/-- So does the client. -/
theorem client_leg (genuine : Genuine w (.toClient host packet plen))
    (heard : hear host packet plen w.client.toEndpoint = some (true, e))
    (replied : e.Replied buffer len buffers) :
    ∃ client : Station, client.assoc = e.assoc ∧ client.frames = e.frames ∧
      client.toEndpoint.Ready buffers ∧ client.sent = (e.frames buffer, len) :: w.client.sent ∧
      run networkAct w [.toClient host packet plen, .popClient, .sendClient buffer len] =
        some ({ w with client := client }, [true]) ∧
      Along networkAct Genuine w [.toClient host packet plen, .popClient, .sendClient buffer len] := by
  obtain ⟨popped, client, pops, sends, assoc, frames, ready, sent⟩ :=
    Station.emits (s := { w.client with toEndpoint := e }) replied
  refine ⟨client, assoc, frames, ready, sent, ?_, genuine, fun _ _ _ => ⟨trivial, fun _ _ _ =>
    ⟨trivial, fun _ _ _ => trivial⟩⟩⟩
  simp only [run, networkAct, heard, pops, sends, Option.map_some, List.append_nil]

end Legs

/-- An INIT that reaches the server with both checksums right, and templates at either end that its
answers can be built on. -/
structure Network.Prepared (start : Network) (init : Bytes) (plen : UInt64)
    (ackBuffer echoBuffer doneBuffer : Nat) : Prop where
  meeting : Meeting start.server.toEndpoint start.client.toEndpoint init
  sound : Sound init plen
  server : start.server.toEndpoint.Ready [ackBuffer, doneBuffer]
  client : start.client.toEndpoint.Ready [echoBuffer]
  apart : doneBuffer ≠ ackBuffer
  clientTemplate : ∃ state, TemplateFor state (start.client.frames echoBuffer)
  serverTemplates : ∀ buffer ∈ [ackBuffer, doneBuffer], ∃ state : IfIpSctpMeta,
    state.dstIp = 0xFFFFFFFF ∧ TemplateFor state (start.server.frames buffer)
  ackCancels : BorrowCancels (u16 (start.server.frames ackBuffer) 24).toNat
    ((htons 112).toNat + start.client.assoc.ulp.srcIp.toNat)
  doneCancels : BorrowCancels (u16 (start.server.frames doneBuffer) 24).toNat
    ((htons 36).toNat + start.client.assoc.ulp.srcIp.toNat)

/-- Every packet arrives, and its answer is popped and leaves before the next one does. -/
def straightRun (host₁ host₂ host₃ host₄ : Host) (init initAck cookieEcho cookieAck : Bytes)
    (plen : UInt64) (ackBuffer echoBuffer doneBuffer : Nat) : List NetworkAction :=
  [.toServer host₁ init plen, .popServer, .sendServer ackBuffer 126,
    .toClient host₂ initAck 126, .popClient, .sendClient echoBuffer 106,
    .toServer host₃ cookieEcho 106, .popServer, .sendServer doneBuffer 50,
    .toClient host₄ cookieAck 50]

/-- Then all four packets get through, each of them as it was sent, and the client is established. -/
theorem handshake_goes_through {start : Network} {init : Bytes} {plen : UInt64}
    {ackBuffer echoBuffer doneBuffer : Nat}
    (prepared : start.Prepared init plen ackBuffer echoBuffer doneBuffer)
    (host₁ host₂ host₃ host₄ : Host) :
    ∃ initAck cookieEcho cookieAck w,
      let is := straightRun host₁ host₂ host₃ host₄ init initAck cookieEcho cookieAck plen ackBuffer
        echoBuffer doneBuffer
      run networkAct start is = some (w, [true, true, true, true]) ∧
      Along networkAct Genuine start is ∧
      w.server.sent = (cookieAck, 50) :: (initAck, 126) :: start.server.sent ∧
      w.client.sent = (cookieEcho, 106) :: start.client.sent ∧
      w.client.assoc.status = .established ∧ w.asked = (host₁, init) :: start.asked ∧
      w.served = sealedFor start.server.assoc (host₁, init) :: start.served := by
  obtain ⟨meeting, sound, serverReady, clientReady, apart, ⟨echoState, echoTemplate⟩, templates,
    ackCancels, doneCancels⟩ := prepared
  obtain ⟨ackState, ackAny, ackTemplate⟩ := templates ackBuffer (by simp)
  obtain ⟨doneState, doneAny, doneTemplate⟩ := templates doneBuffer (by simp)
  have ip := meeting.ip
  -- the INIT reaches the server, and the INIT ACK leaves it
  obtain ⟨e₁, initAck, heard₁, listening, frames₁, replied₁, bears₁⟩ := hear_init host₁ sound
    meeting.arrives meeting.type meeting.listens serverReady ackTemplate ackAny (by rwa [ip])
  have genuine₁ : Genuine start (.toServer host₁ init plen) := by
    refine .inr fun echo => ?_
    cases meeting.type.symm.trans echo
  obtain ⟨server₁, same₁, kept₁, ready₁, sent₁, ran₁, along₁⟩ := server_leg genuine₁ heard₁ replied₁
  rw [if_pos meeting.type, if_neg (by rw [meeting.type]; decide)] at ran₁
  rw [frames₁, Function.update_self] at sent₁
  rw [listening] at same₁
  rw [frames₁] at kept₁
  -- the client answers it with the cookie
  have addressed₁ : Addressed start.client.toEndpoint initAck :=
    ⟨meeting.base, bears₁.addr.trans ip, by rw [bears₁.port]; exact meeting.port⟩
  obtain ⟨e₂, cookieEcho, heard₂, connects, frames₂, replied₂, bears₂⟩ :=
    hear_initAck host₂ bears₁ addressed₁ meeting.sent clientReady echoTemplate
  obtain ⟨client₂, same₂, -, -, sent₂, ran₂, along₂⟩ := client_leg
    (w := { start with server := server₁, asked := (host₁, init) :: start.asked })
    (.inl ⟨initAck, by rw [sent₁]; exact List.mem_cons_self, rfl, bears₁.whole⟩) heard₂ replied₂
  rw [frames₂, Function.update_self] at sent₂
  rw [connects] at same₂
  -- the server has it back, from where the client's templates go
  have addressed₂ : Addressed server₁.toEndpoint cookieEcho := by
    rw [Addressed, same₁, bears₂.addr, bears₂.port]
    exact ⟨meeting.arrives.1, meeting.templates echoBuffer 46 clientReady.template⟩
  have source : (stateCookie host₁ (initAssoc start.server.assoc (shift init 14))).srcIp =
      start.client.assoc.ulp.srcIp := by
    simpa [stateCookie, initAssoc] using ip
  have untouched : server₁.frames doneBuffer = start.server.frames doneBuffer := by
    rw [kept₁, Function.update_of_ne apart]
  obtain ⟨e₃, cookieAck, heard₃, replied₃, frames₃, read, bears₃⟩ := hear_cookieEcho host₃ bears₂
    addressed₂ (by rw [same₁, meeting.listens]) ready₁ (by rwa [untouched]) doneAny
    (by rwa [untouched, source])
  have type : cookieEcho 46 = sctpCookieEcho := head_of_slice bears₂.chunk
  obtain ⟨server₃, -, -, -, sent₃, ran₃, along₃⟩ := server_leg
    (w := { start with
      server := server₁
      client := client₂
      asked := (host₁, init) :: start.asked })
    (.inl ⟨cookieEcho, by rw [sent₂]; exact List.mem_cons_self, rfl, bears₂.whole⟩) heard₃ replied₃
  rw [if_neg (by rw [type]; decide), if_pos type, read] at ran₃
  rw [frames₃, Function.update_self] at sent₃
  -- the cookie leads the last answer to the client
  have addressed₃ : Addressed client₂.toEndpoint cookieAck := by
    rw [Addressed, same₂, bears₃.addr, bears₃.port, initAckAssoc_base, initAckAssoc_ulp]
    refine ⟨meeting.base, source, ?_⟩
    simpa [stateCookie, initAssoc] using meeting.port
  obtain ⟨e₄, heard₄, established⟩ :=
    hear_cookieAck host₄ bears₃ addressed₃ (by rw [same₂, initAckAssoc_status])
  let w₃ : Network :=
    { server := server₃
      client := client₂
      asked := (host₁, init) :: start.asked
      served := sealedFor start.server.assoc (host₁, init) :: start.served }
  have ran₄ : run networkAct w₃ [.toClient host₄ cookieAck 50] =
      some ({ w₃ with client := { client₂ with toEndpoint := e₄ } }, [true]) := by
    simp only [run, networkAct, w₃, heard₄, List.append_nil]
  have along₄ : Along networkAct Genuine w₃ [.toClient host₄ cookieAck 50] := by
    refine ⟨.inl ⟨cookieAck, ?_, rfl, bears₃.whole⟩, fun _ _ _ => trivial⟩
    rw [show w₃.server.sent = _ from sent₃]
    exact List.mem_cons_self
  exact ⟨initAck, cookieEcho, cookieAck, _, run_append ran₁ (run_append ran₂ (run_append ran₃ ran₄)),
    along₁.append ran₁ (along₂.append ran₂ (along₃.append ran₃ along₄)), sent₃.trans (by rw [sent₁]),
    sent₂, established, rfl, rfl⟩

/-- A client with templates that `prefill_mac_ip_sctp` made for it. -/
def templatedClient : Endpoint :=
  { createdClient with frames := fun _ => put (fun _ => 0) 0 (templateHdr clientState 5) }

/-- The INIT of a client, with its length and both checksums. -/
def checkedInit : Bytes :=
  put (put (put (plainInit ⟨31, 32, 33, some⟩) 16 (le16 (htons 52))) 24 [124, 117]) 42
    [217, 221, 38, 127]

def templatedNetwork : Network :=
  ⟨⟨templatedClient, [], []⟩, ⟨templatedServer, [], []⟩, [], []⟩

theorem templatedNetwork_prepared : templatedNetwork.Prepared checkedInit 66 0 0 1 where
  meeting := {
    listens := rfl
    sent := rfl
    type := by decide
    arrives := ⟨⟨_, rfl, Option.some_ne_none _⟩, by decide, by decide⟩
    base := ⟨_, rfl, Option.some_ne_none _⟩
    ip := by decide
    port := by decide
    serverStocked := Endpoint.fresh_stocked createdServer.assoc (by omega)
    clientStocked := Endpoint.fresh_stocked createdClient.assoc (by omega)
    templates := by
      intro buffer _ _
      change u32 (templatedClient.frames 0) 30 = createdServer.assoc.ulp.srcIp ∧
        createdServer.assoc.ulp.srcPort = (ntohs (u16 (templatedClient.frames 0) 36)).toUInt32
      decide +kernel }
  sound := (sctpCheckChecksums_eq_zero_iff checkedInit 66).mp (by decide +kernel)
  server := ⟨⟨_, rfl, contents_popped_twoTemplates⟩, twoTemplates, rfl, by
    rw [contents_twoTemplates]
    exact List.prefix_refl _⟩
  client := ⟨⟨_, rfl, contents_popped_twoTemplates⟩, twoTemplates, rfl, by
    rw [contents_twoTemplates]
    exact ⟨_, rfl⟩⟩
  apart := by decide
  clientTemplate := ⟨clientState, prefillMacIpSctp_templateFor (show prefillMacIpSctp 5
    (some fun _ => 0) (some ⟨0, some clientState⟩) =
      some (⟨46, some clientState⟩, templatedClient.frames 0) from rfl)⟩
  serverTemplates := fun _ _ => ⟨serverState, rfl, templateFor_server⟩
  ackCancels := by decide +kernel
  doneCancels := by decide +kernel

end Kpnet.Sctp
