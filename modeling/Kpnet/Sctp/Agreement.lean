import Kpnet.Sctp.Completion

/-!
# The handshake over a network

What an end comes to believe of the other one was said by the other one: the server of a client that
has sent it an INIT, the client of a server that has answered one and has accepted its cookie.
-/
namespace Kpnet.Sctp

open Bytes Runs

/-- What an association has of its peer, laid out as a cookie. -/
def SctpAssociation.imprint (assoc : SctpAssociation) : Cookie :=
  { verTag := assoc.verTag
    initTag := assoc.initTag
    aRwnd := assoc.aRwnd
    os := assoc.os
    mis := assoc.mis
    tsn := assoc.tsn
    dstTsn := assoc.dstTsn
    srcIp := assoc.dstIp
    dstIp := assoc.ulp.srcIp
    srcPort := assoc.dstPort
    dstPort := assoc.ulp.srcPort }

/-- And laid out as the header of an INIT or INIT ACK. -/
def SctpAssociation.peerHdr (assoc : SctpAssociation) : SctpInitHdr :=
  { initTag := assoc.verTag
    aRwnd := assoc.aRwnd
    os := assoc.os
    mis := assoc.mis
    initTsn := assoc.tsn }

/-- An INIT that came from the address of the client. -/
def FromClient (client : SctpAssociation) (init : Host × Bytes) : Prop :=
  u32 init.2 26 = client.ulp.srcIp ∧ client.ulp.srcPort = (ntohs (u16 init.2 34)).toUInt32

section Correspondence

variable (start : Network) (asked : List (Host × Bytes)) (served : List Cookie)

/-- An INIT ACK for an INIT, or a COOKIE ACK for a cookie. -/
def SaidByServer (frame : Bytes) : Prop :=
  (∃ init ∈ asked, slice frame 46 80 =
      initAckChunk init.1 (initAssoc start.server.assoc (shift init.2 14)) ∧
    u32 frame 30 = u32 init.2 26 ∧ u16 frame 36 = u16 init.2 34) ∨
  ∃ cookie ∈ served, slice frame 46 4 = fldHdr sctpCookieAck (htons 4) ∧
    u32 frame 30 = cookie.srcIp ∧ u16 frame 36 = cookie.srcPort.toUInt16

/-- A COOKIE ECHO with a cookie that was sealed for an INIT. -/
def SaidByClient (frame : Bytes) : Prop :=
  ∃ init ∈ asked, slice frame 46 60 = fldHdr sctpCookieEcho (htons 60) ++
    ((sealedFor start.server.assoc init).encode ++
      hmacMd5 (sealedFor start.server.assoc init).encode hmacKey)

/-- The client holds the header with which the server has answered an INIT from its address. -/
def Opened (client : SctpAssociation) : Prop :=
  ∃ init ∈ asked, FromClient start.client.assoc init ∧
    client.peerHdr = advertisedHdr init.1 start.server.assoc.ulp

/-- The server has accepted a cookie that was sealed for the address of the client. -/
def Confirmed : Prop :=
  ∃ cookie ∈ served, cookie.srcIp = start.client.assoc.ulp.srcIp ∧
    start.client.assoc.ulp.srcPort = (ntohs cookie.srcPort.toUInt16).toUInt32

/-- What the client knows, by its status. -/
structure ClientKnows (client : SctpAssociation) : Prop where
  status : client.status = .initSent ∨ client.status = .initAckReceived ∨
    client.status = .established
  waits : client.status = .initSent → client = start.client.assoc
  opened : client.status ≠ .initSent → Opened start asked client
  confirmed : client.status = .established → Confirmed start served

/-- What the server knows: nothing yet, or what is in the last cookie. -/
def ServerKnows (server : SctpAssociation) : Prop :=
  match served with
  | [] => server = start.server.assoc
  | cookie :: _ => server.imprint = cookie

end Correspondence

/-- What is said, and what is known of it. -/
structure Corresponds (start w : Network) : Prop where
  listens : w.server.assoc.status = .listen
  serverUlp : w.server.assoc.ulp = start.server.assoc.ulp
  clientUlp : w.client.assoc.ulp = start.client.assoc.ulp
  sealed : ∀ cookie ∈ w.served, ∃ asked ∈ w.asked, cookie = sealedFor start.server.assoc asked
  serverKnows : ServerKnows start w.served w.server.assoc
  clientKnows : ClientKnows start w.asked w.served w.client.assoc
  serverWaits : ∀ frame ∈ w.server.waiting, SaidByServer start w.asked w.served frame
  serverSent : ∀ sent ∈ w.server.sent, SaidByServer start w.asked w.served sent.1
  clientWaits : ∀ frame ∈ w.client.waiting, SaidByClient start w.asked frame
  clientSent : ∀ sent ∈ w.client.sent, SaidByClient start w.asked sent.1

section Steps

variable {start w : Network} {asked asked' : List (Host × Bytes)} {served served' : List Cookie}
  {frame packet : Bytes} {plen : UInt64} {client : SctpAssociation} {host : Host}

theorem SaidByServer.mono (said : SaidByServer start asked served frame)
    (more : asked ⊆ asked') (more' : served ⊆ served') :
    SaidByServer start asked' served' frame := by
  rcases said with ⟨init, member, rest⟩ | ⟨cookie, member, rest⟩
  · exact .inl ⟨init, more member, rest⟩
  · exact .inr ⟨cookie, more' member, rest⟩

theorem SaidByClient.mono (said : SaidByClient start asked frame) (more : asked ⊆ asked') :
    SaidByClient start asked' frame := by
  obtain ⟨init, member, chunk⟩ := said
  exact ⟨init, more member, chunk⟩

theorem Opened.mono (opened : Opened start asked client) (more : asked ⊆ asked') :
    Opened start asked' client := by
  obtain ⟨init, member, rest⟩ := opened
  exact ⟨init, more member, rest⟩

theorem Confirmed.mono (confirmed : Confirmed start served) (more : served ⊆ served') :
    Confirmed start served' := by
  obtain ⟨cookie, member, rest⟩ := confirmed
  exact ⟨cookie, more member, rest⟩

/-- What is known stays known. -/
theorem ClientKnows.mono (knows : ClientKnows start asked served client)
    (more : asked ⊆ asked') (more' : served ⊆ served') :
    ClientKnows start asked' served' client where
  status := knows.status
  waits := knows.waits
  opened begun := (knows.opened begun).mono more
  confirmed established := (knows.confirmed established).mono more'

/-- The cookie depends on the server's configuration only. -/
theorem sealedFor_congr {assoc assoc' : SctpAssociation} (same : assoc.ulp = assoc'.ulp)
    (init : Host × Bytes) : sealedFor assoc init = sealedFor assoc' init := by
  simp only [sealedFor, stateCookie, initAssoc, same]

theorem initAckChunk_congr {assoc assoc' : SctpAssociation} (same : assoc.ulp = assoc'.ulp)
    (host : Host) (packet : Bytes) :
    initAckChunk host (initAssoc assoc packet) = initAckChunk host (initAssoc assoc' packet) := by
  simp only [initAckChunk, stateCookie, initAssoc, same]

theorem Copy.slice (copy : Copy packet plen frame) {o n : Nat} (inside : o + n ≤ plen.toNat) :
    slice packet o n = slice frame o n := by
  refine slice_congr fun i low => ?_
  have byte := eq_of_slice_eq copy.same (o + i) (by omega)
  simpa only [Nat.zero_add] using byte

/-- A copy says the same, as its chunk is complete. -/
theorem SaidByServer.copy (said : SaidByServer start asked served frame)
    (copy : Copy packet plen frame) : SaidByServer start asked served packet := by
  have whole := copy.whole
  rw [chunkLen] at whole
  rcases said with ⟨init, member, chunk, ip, port⟩ | ⟨cookie, member, chunk, ip, port⟩
  · have length : (ntohs (u16 frame 48)).toNat = 80 := by
      rw [u16_of_slice chunk 2 (htons 80) (by omega) rfl]
      rfl
    refine .inl ⟨init, member, ?_, ?_, ?_⟩
    · rw [copy.slice (by omega), chunk]
    · rw [u32, copy.slice (by omega), ← u32, ip]
    · rw [u16, copy.slice (by omega), ← u16, port]
  · have length : (ntohs (u16 frame 48)).toNat = 4 := by
      rw [u16_of_slice chunk 2 (htons 4) (by omega) rfl]
      rfl
    refine .inr ⟨cookie, member, ?_, ?_, ?_⟩
    · rw [copy.slice (by omega), chunk]
    · rw [u32, copy.slice (by omega), ← u32, ip]
    · rw [u16, copy.slice (by omega), ← u16, port]

theorem SaidByClient.copy (said : SaidByClient start asked frame) (copy : Copy packet plen frame) :
    SaidByClient start asked packet := by
  have whole := copy.whole
  rw [chunkLen] at whole
  obtain ⟨init, member, chunk⟩ := said
  have length : (ntohs (u16 frame 48)).toNat = 60 := by
    rw [u16_of_slice chunk 2 (htons 60) (by omega) rfl]
    rfl
  exact ⟨init, member, by rw [copy.slice (by omega), chunk]⟩

/-- An INIT is answered, and otherwise forgotten. -/
theorem Corresponds.asks (corresponds : Corresponds start w) {server : Endpoint}
    (type : packet 46 = sctpInit) (same : server.assoc = w.server.assoc)
    (answers : ∀ frame ∈ server.queued w.server.popped,
      frame ∈ w.server.waiting ∨ Reply host w.server.assoc packet frame) :
    Corresponds start { w with
      server := { w.server with toEndpoint := server }
      asked := (host, packet) :: w.asked } := by
  have more : w.asked ⊆ (host, packet) :: w.asked := List.subset_cons_self _ _
  have kept : w.served ⊆ w.served := List.Subset.refl _
  exact {
    listens := by rw [same, corresponds.listens]
    serverUlp := by rw [same, corresponds.serverUlp]
    clientUlp := corresponds.clientUlp
    sealed := fun cookie member => by
      obtain ⟨init, before, sealed⟩ := corresponds.sealed cookie member
      exact ⟨init, more before, sealed⟩
    serverKnows := by
      rw [same]
      exact corresponds.serverKnows
    clientKnows := corresponds.clientKnows.mono more kept
    serverWaits := fun frame member => by
      rcases answers frame member with old | ⟨-, chunk, ip, port⟩ | ⟨other⟩ | ⟨other⟩
      · exact (corresponds.serverWaits frame old).mono more kept
      · refine .inl ⟨(host, packet), List.mem_cons_self, ?_, ip, port⟩
        rw [chunk, initAckChunk_congr corresponds.serverUlp]
      · cases type.symm.trans other
      · cases type.symm.trans other
    serverSent := fun sent member => (corresponds.serverSent sent member).mono more kept
    clientWaits := fun frame member => (corresponds.clientWaits frame member).mono more
    clientSent := fun sent member => (corresponds.clientSent sent member).mono more }

/-- A cookie that the server has sealed is all that it holds afterwards. -/
theorem Corresponds.serves (corresponds : Corresponds start w) {server : Endpoint}
    (type : packet 46 = sctpCookieEcho) {init : Host × Bytes} (member : init ∈ w.asked)
    (sealed : Cookie.read (shift packet 50) = sealedFor start.server.assoc init)
    (changed : server.assoc = received host packet w.server.assoc)
    (answers : ∀ frame ∈ server.queued w.server.popped,
      frame ∈ w.server.waiting ∨ Reply host w.server.assoc packet frame) :
    Corresponds start { w with
      server := { w.server with toEndpoint := server }
      served := Cookie.read (shift packet 50) :: w.served } := by
  have more : w.served ⊆ Cookie.read (shift packet 50) :: w.served := List.subset_cons_self _ _
  have kept : w.asked ⊆ w.asked := List.Subset.refl _
  obtain ⟨os, mis, prepared⟩ := prepareSctpThreads_eq host.alloc
    (cookieEchoAssoc w.server.assoc (Cookie.read (shift packet 50)))
  rw [received, if_neg (by rw [type]; decide), if_pos type, prepared] at changed
  exact {
    listens := by rw [changed, cookieEchoAssoc, corresponds.listens]
    serverUlp := by rw [changed, cookieEchoAssoc, corresponds.serverUlp]
    clientUlp := corresponds.clientUlp
    sealed := fun cookie accepted => by
      rcases List.mem_cons.mp accepted with rfl | before
      · exact ⟨init, member, sealed⟩
      · exact corresponds.sealed cookie before
    serverKnows := by
      -- its own address and port are in the cookie as well
      rw [ServerKnows, changed, sealed, SctpAssociation.imprint, cookieEchoAssoc]
      simp only [corresponds.serverUlp]
      rfl
    clientKnows := corresponds.clientKnows.mono kept more
    serverWaits := fun frame waits => by
      rcases answers frame waits with old | ⟨other⟩ | ⟨other⟩ | ⟨-, chunk, ip, port⟩
      · exact (corresponds.serverWaits frame old).mono kept more
      · cases type.symm.trans other
      · cases type.symm.trans other
      · exact .inr ⟨_, List.mem_cons_self, chunk, ip, port⟩
    serverSent := fun sent before => (corresponds.serverSent sent before).mono kept more
    clientWaits := corresponds.clientWaits
    clientSent := corresponds.clientSent }

/-- The INIT ACK for an INIT from the client's address: its cookie goes back. -/
theorem Corresponds.opens (corresponds : Corresponds start w) {client : Endpoint}
    {init : Host × Bytes} (member : init ∈ w.asked)
    (chunk : slice packet 46 80 = initAckChunk init.1 (initAssoc start.server.assoc (shift init.2 14)))
    (ip : u32 packet 30 = u32 init.2 26) (port : u16 packet 36 = u16 init.2 34)
    (addressed : Addressed w.client.toEndpoint packet)
    (changed : client.assoc = received host packet w.client.assoc)
    (answers : ∀ frame ∈ client.queued w.client.popped,
      frame ∈ w.client.waiting ∨ Reply host w.client.assoc packet frame) :
    Corresponds start { w with client := { w.client with toEndpoint := client } } := by
  have type : packet 46 = sctpInitAck := head_of_slice chunk
  obtain ⟨length, hdr, cookie⟩ := initAck_frame chunk
  rw [received, if_pos type, length] at changed
  have knows : client.assoc.peerHdr = advertisedHdr init.1 start.server.assoc.ulp := by
    rw [changed]
    exact hdr
  have status : client.assoc.status = .initAckReceived := by rw [changed, initAckAssoc_status]
  have ulp : client.assoc.ulp = start.client.assoc.ulp := by
    rw [changed, initAckAssoc_ulp, corresponds.clientUlp]
  exact {
    listens := corresponds.listens
    serverUlp := corresponds.serverUlp
    clientUlp := ulp
    sealed := corresponds.sealed
    serverKnows := corresponds.serverKnows
    clientKnows :=
      { status := .inr (.inl status)
        waits := fun other => by cases status.symm.trans other
        opened := fun _ => ⟨init, member, ⟨by rw [← ip, ← corresponds.clientUlp, addressed.2.1],
          by rw [← port, ← corresponds.clientUlp, addressed.2.2]⟩, knows⟩
        confirmed := fun other => by cases status.symm.trans other }
    serverWaits := corresponds.serverWaits
    serverSent := corresponds.serverSent
    clientWaits := fun frame waits => by
      rcases answers frame waits with old | ⟨other⟩ | ⟨-, echo⟩ | ⟨other⟩
      · exact corresponds.clientWaits frame old
      · cases type.symm.trans other
      · refine ⟨init, member, ?_⟩
        rw [length, show ntohs (htons 80) - 24 = 56 by decide] at echo
        rw [show (60 : Nat) = 4 + (56 : UInt16).toNat by decide, echo, cookieEchoChunk, slice_shift]
        exact congrArg _ cookie
      · cases type.symm.trans other
    clientSent := corresponds.clientSent }

/-- The COOKIE ACK for a cookie that was sealed for the client's address. -/
theorem Corresponds.closes (corresponds : Corresponds start w) {client : Endpoint} {cookie : Cookie}
    (member : cookie ∈ w.served) (chunk : slice packet 46 4 = fldHdr sctpCookieAck (htons 4))
    (ip : u32 packet 30 = cookie.srcIp) (port : u16 packet 36 = cookie.srcPort.toUInt16)
    (addressed : Addressed w.client.toEndpoint packet) (begun : w.client.assoc.status = .initAckReceived)
    (changed : client.assoc = received host packet w.client.assoc)
    (answers : ∀ frame ∈ client.queued w.client.popped,
      frame ∈ w.client.waiting ∨ Reply host w.client.assoc packet frame) :
    Corresponds start { w with client := { w.client with toEndpoint := client } } := by
  have type : packet 46 = sctpCookieAck := head_of_slice chunk
  obtain ⟨os, mis, prepared⟩ := prepareSctpThreads_eq host.alloc (cookieAckAssoc w.client.assoc)
  rw [received, if_neg (by rw [type]; decide), if_neg (by rw [type]; decide), if_pos type,
    prepared] at changed
  have status : client.assoc.status = .established := by rw [changed, cookieAckAssoc]
  have header : client.assoc.peerHdr = w.client.assoc.peerHdr := by rw [changed]; rfl
  have opened : Opened start w.asked w.client.assoc := by
    apply corresponds.clientKnows.opened
    rw [begun]
    decide
  exact {
    listens := corresponds.listens
    serverUlp := corresponds.serverUlp
    clientUlp := by rw [changed, cookieAckAssoc, corresponds.clientUlp]
    sealed := corresponds.sealed
    serverKnows := corresponds.serverKnows
    clientKnows :=
      { status := .inr (.inr status)
        waits := fun other => by cases status.symm.trans other
        opened := fun _ => by
          rw [Opened, header]
          exact opened
        confirmed := fun _ => ⟨cookie, member, by rw [← ip, ← corresponds.clientUlp, addressed.2.1],
          by rw [← port, ← corresponds.clientUlp, addressed.2.2]⟩ }
    serverWaits := corresponds.serverWaits
    serverSent := corresponds.serverSent
    clientWaits := fun frame waits => by
      rcases answers frame waits with old | ⟨other⟩ | ⟨other⟩ | ⟨other⟩
      · exact corresponds.clientWaits frame old
      · cases type.symm.trans other
      · cases type.symm.trans other
      · cases type.symm.trans other
    clientSent := corresponds.clientSent }

/-- What is popped has waited, and goes on waiting until it is sent. -/
theorem pop_cases {s after : Station} (popped : s.pop = some after) :
    after.assoc = s.assoc ∧ after.sent = s.sent ∧ ∀ frame ∈ after.waiting, frame ∈ s.waiting := by
  unfold Station.pop at popped
  split at popped
  · cases popped
  next tx present =>
    cases popped
    refine ⟨rfl, rfl, ?_⟩
    intro frame waits
    obtain ⟨buffer, plen, member, found⟩ := mem_queued.mp waits
    refine mem_queued.mpr ⟨buffer, plen, ?_, found⟩
    simp only [held_some, tx.contents_pop, tx.pop_fst, List.mem_append, Option.mem_toList] at member
    rw [List.mem_append, present, held_some]
    rcases member with (gone | first) | rest
    · exact .inl gone
    · exact .inr (List.mem_of_mem_head? first)
    · exact .inr (List.mem_of_mem_tail rest)

/-- What leaves has waited. -/
theorem send_cases {s after : Station} {buffer : Nat} (left : s.send buffer plen = some after) :
    after.toEndpoint = s.toEndpoint ∧ after.popped = s.popped ∧
      ∃ frame ∈ s.waiting, after.sent = (frame, plen) :: s.sent := by
  unfold Station.send at left
  split at left
  next member =>
    cases left
    exact ⟨rfl, rfl, _, mem_queued.mpr ⟨buffer, plen, member, rfl⟩, rfl⟩
  · cases left

/-- Nothing is known of an end but what these say. -/
theorem Corresponds.server_sends (corresponds : Corresponds start w) {server : Station}
    (same : server.assoc = w.server.assoc) (waiting : ∀ frame ∈ server.waiting, frame ∈ w.server.waiting)
    (sent : ∀ frame ∈ server.sent, frame ∈ w.server.sent ∨ frame.1 ∈ w.server.waiting) :
    Corresponds start { w with server := server } :=
  { corresponds with
    listens := by rw [same, corresponds.listens]
    serverUlp := by rw [same, corresponds.serverUlp]
    serverKnows := by
      rw [same]
      exact corresponds.serverKnows
    serverWaits := fun frame member => corresponds.serverWaits frame (waiting frame member)
    serverSent := fun frame member => by
      rcases sent frame member with old | new
      · exact corresponds.serverSent frame old
      · exact corresponds.serverWaits frame.1 new }

theorem Corresponds.client_sends (corresponds : Corresponds start w) {client : Station}
    (same : client.assoc = w.client.assoc) (waiting : ∀ frame ∈ client.waiting, frame ∈ w.client.waiting)
    (sent : ∀ frame ∈ client.sent, frame ∈ w.client.sent ∨ frame.1 ∈ w.client.waiting) :
    Corresponds start { w with client := client } :=
  { corresponds with
    clientUlp := by rw [same, corresponds.clientUlp]
    clientKnows := by
      rw [same]
      exact corresponds.clientKnows
    clientWaits := fun frame member => corresponds.clientWaits frame (waiting frame member)
    clientSent := fun frame member => by
      rcases sent frame member with old | new
      · exact corresponds.clientSent frame old
      · exact corresponds.clientWaits frame.1 new }

/-- The cookie of a COOKIE ECHO that arrives under a right code was sealed by the server. -/
theorem Corresponds.cookie_sealed (corresponds : Corresponds start w)
    (genuine : Genuine w (.toServer host packet plen)) (type : packet 46 = sctpCookieEcho)
    (code : hmacMd5 (slice packet 50 40) hmacKey = slice packet 90 16) :
    ∃ init ∈ w.asked, Cookie.read (shift packet 50) = sealedFor start.server.assoc init := by
  rcases genuine with ⟨frame, sent, copy⟩ | known
  · obtain ⟨init, member, chunk⟩ := (corresponds.clientSent _ sent).copy copy
    obtain ⟨-, cookie, -⟩ := cookieEcho_frame (length_hmacMd5 _ _) chunk
    exact ⟨init, member, Cookie.read_encode _ _ _ cookie⟩
  · obtain ⟨init, member, sealed⟩ := known type code
    exact ⟨init, member, by rw [sealed, sealedFor_congr corresponds.serverUlp]⟩

theorem Corresponds.toServer (corresponds : Corresponds start w) {server : Endpoint}
    {accepted : Bool} (genuine : Genuine w (.toServer host packet plen))
    (heard : hear host packet plen w.server.toEndpoint = some (accepted, server)) :
    Corresponds start { w with
      server := { w.server with toEndpoint := server }
      asked := if accepted ∧ packet 46 = sctpInit then (host, packet) :: w.asked else w.asked
      served :=
        if accepted ∧ packet 46 = sctpCookieEcho then Cookie.read (shift packet 50) :: w.served
        else w.served } := by
  obtain ⟨rfl, rfl⟩ | ⟨rfl, -, admitted, changed, answers⟩ := hear_cases heard
  · simpa using corresponds
  -- of the four kinds of packet a server that listens takes two
  rcases admitted with ⟨type, -⟩ | ⟨-, sent, -⟩ | ⟨type, -, -, code⟩ | ⟨-, opened, -⟩
  · have same : server.assoc = w.server.assoc := by
      rw [changed, received, if_neg (by rw [type]; decide), if_neg (by rw [type]; decide),
        if_neg (by rw [type]; decide)]
    have other : packet 46 ≠ sctpCookieEcho := by rw [type]; decide
    rw [if_pos ⟨rfl, type⟩, if_neg fun both => other both.2]
    exact corresponds.asks type same (answers _)
  · cases corresponds.listens.symm.trans sent
  · obtain ⟨init, member, sealed⟩ := corresponds.cookie_sealed genuine type code
    have other : packet 46 ≠ sctpInit := by rw [type]; decide
    rw [if_neg fun both => other both.2, if_pos ⟨rfl, type⟩]
    exact corresponds.serves type member sealed changed (answers _)
  · cases corresponds.listens.symm.trans opened

theorem Corresponds.toClient (corresponds : Corresponds start w) {client : Endpoint}
    {accepted : Bool} (genuine : Genuine w (.toClient host packet plen))
    (heard : hear host packet plen w.client.toEndpoint = some (accepted, client)) :
    Corresponds start { w with client := { w.client with toEndpoint := client } } := by
  obtain ⟨rfl, rfl⟩ | ⟨rfl, addressed, admitted, changed, answers⟩ := hear_cases heard
  · exact corresponds
  have ahead : w.client.assoc.status ≠ .listen := by
    intro listens
    rcases corresponds.clientKnows.status with other | other | other
    · cases listens.symm.trans other
    · cases listens.symm.trans other
    · cases listens.symm.trans other
  rcases genuine with ⟨frame, sent, copy⟩ | elsewhere | ⟨notInitAck, notCookieAck⟩
  · rcases (corresponds.serverSent _ sent).copy copy with ⟨init, member, chunk, ip, port⟩ |
      ⟨cookie, member, chunk, ip, port⟩
    · exact corresponds.opens member chunk ip port addressed changed (answers _)
    · have type : packet 46 = sctpCookieAck := head_of_slice chunk
      rcases admitted with ⟨other, -⟩ | ⟨other, -⟩ | ⟨other, -⟩ | ⟨-, begun, -⟩
      · cases type.symm.trans other
      · cases type.symm.trans other
      · cases type.symm.trans other
      · exact corresponds.closes member chunk ip port addressed begun changed (answers _)
  · exact absurd addressed elsewhere
  · rcases admitted with ⟨-, listens⟩ | ⟨type, -⟩ | ⟨-, listens, -⟩ | ⟨type, -⟩
    · exact absurd listens ahead
    · exact absurd type notInitAck
    · exact absurd listens ahead
    · exact absurd type notCookieAck

/-- One step, whichever it is. -/
theorem Corresponds.step (corresponds : Corresponds start w) {after : Network} {i : NetworkAction}
    {log : List Bool} (genuine : Genuine w i) (stepped : networkAct w i = some (after, log)) :
    Corresponds start after := by
  have of_map {s : Option Station} {next : Station → Network}
      (mapped : (s.map fun s => (next s, ([] : List Bool))) = some (after, log)) :
      ∃ s', s = some s' ∧ next s' = after := by
    obtain ⟨s', found, same⟩ := Option.map_eq_some_iff.mp mapped
    cases same
    exact ⟨s', found, rfl⟩
  cases i with
  | toServer host packet plen =>
    simp only [networkAct] at stepped
    split at stepped
    · cases stepped
    next accepted server heard =>
      cases stepped
      exact corresponds.toServer genuine heard
  | toClient host packet plen =>
    simp only [networkAct] at stepped
    split at stepped
    · cases stepped
    next accepted client heard =>
      cases stepped
      exact corresponds.toClient genuine heard
  | popServer =>
    obtain ⟨server, popped, rfl⟩ := of_map stepped
    obtain ⟨same, sent, waiting⟩ := pop_cases popped
    exact corresponds.server_sends same waiting fun frame member => .inl (sent ▸ member)
  | popClient =>
    obtain ⟨client, popped, rfl⟩ := of_map stepped
    obtain ⟨same, sent, waiting⟩ := pop_cases popped
    exact corresponds.client_sends same waiting fun frame member => .inl (sent ▸ member)
  | sendServer buffer plen =>
    obtain ⟨server, left, rfl⟩ := of_map stepped
    obtain ⟨same, popped, frame, waited, sent⟩ := send_cases left
    refine corresponds.server_sends (by rw [same]) (fun frame member => ?_) fun other member => ?_
    · rwa [Station.waiting, same, popped] at member
    · rw [sent] at member
      rcases List.mem_cons.mp member with rfl | old
      · exact .inr waited
      · exact .inl old
  | sendClient buffer plen =>
    obtain ⟨client, left, rfl⟩ := of_map stepped
    obtain ⟨same, popped, frame, waited, sent⟩ := send_cases left
    refine corresponds.client_sends (by rw [same]) (fun frame member => ?_) fun other member => ?_
    · rwa [Station.waiting, same, popped] at member
    · rw [sent] at member
      rcases List.mem_cons.mp member with rfl | old
      · exact .inr waited
      · exact .inl old

end Steps

theorem Network.Opening.corresponds {start : Network} (opening : start.Opening) :
    Corresponds start start where
  listens := opening.listens
  serverUlp := rfl
  clientUlp := rfl
  sealed cookie member := by
    rw [opening.served] at member
    cases member
  serverKnows := by
    rw [opening.served]
    rfl
  clientKnows :=
    { status := .inl opening.sent
      waits := fun _ => rfl
      opened := fun other => absurd opening.sent other
      confirmed := fun other => by cases opening.sent.symm.trans other }
  serverWaits frame member := by
    rw [opening.serverWaits] at member
    cases member
  serverSent sent member := by
    rw [opening.serverSent] at member
    cases member
  clientWaits frame member := by
    rw [opening.clientWaits] at member
    cases member
  clientSent sent member := by
    rw [opening.clientSent] at member
    cases member

theorem peerHdr_of_imprint {assoc server : SctpAssociation} {init : Host × Bytes}
    (same : assoc.imprint = sealedFor server init) :
    assoc.peerHdr = SctpInitHdr.read (shift init.2 50) := by
  have hdr := congrArg (fun c : Cookie => SctpInitHdr.mk c.verTag c.aRwnd c.os c.mis c.tsn) same
  simp only [sealedFor, stateCookie, initAssoc, shift_shift, Nat.reduceAdd] at hdr
  exact hdr

theorem run_corresponds {start w : Network} {is : List NetworkAction} {log : List Bool}
    (opening : start.Opening) (ran : run networkAct start is = some (w, log))
    (genuine : Along networkAct Genuine start is) : Corresponds start w :=
  run_induction networkAct Genuine start (fun _ w _ => Corresponds start w) opening.corresponds
    (fun _ _ _ _ _ _ _ held genuine stepped => held.step genuine stepped) is w log ran genuine

/-- A client that is established has its header and its cookie from the server. -/
structure Settled (w : Network) : Prop where
  answered : ∃ init ∈ w.asked, FromClient w.client.assoc init ∧
    w.client.assoc.peerHdr = advertisedHdr init.1 w.server.assoc.ulp
  served : ∃ init ∈ w.asked, FromClient w.client.assoc init ∧
    sealedFor w.server.assoc init ∈ w.served
  -- the server holds what is in the last cookie, for whomever it was sealed
  holds : ∃ init ∈ w.asked, w.server.assoc.imprint = sealedFor w.server.assoc init ∧
    w.server.assoc.peerHdr = SctpInitHdr.read (shift init.2 50)

theorem Corresponds.settled {start w : Network} (corresponds : Corresponds start w)
    (established : w.client.assoc.status = .established) : Settled w := by
  have ulp := corresponds.serverUlp
  obtain ⟨first, member, address, hdr⟩ := corresponds.clientKnows.opened
    (by rw [established]; decide)
  obtain ⟨cookie, accepted, ip', port'⟩ := corresponds.clientKnows.confirmed established
  obtain ⟨own, asked, rfl⟩ := corresponds.sealed cookie accepted
  constructor
  · simp only [FromClient, corresponds.clientUlp, ulp]
    exact ⟨first, member, address, hdr⟩
  · refine ⟨own, asked, ⟨?_, ?_⟩, by rwa [sealedFor_congr ulp]⟩
    · rw [corresponds.clientUlp, ← ip', sealedFor, stateCookie, initAssoc, u32_shift]
    · rw [corresponds.clientUlp, port', sealedFor, stateCookie, initAssoc, u16_shift,
        UInt16.toUInt16_toUInt32]
  · -- one cookie was accepted, so there is a last one
    have knows := corresponds.serverKnows
    obtain ⟨last, rest, served⟩ := List.exists_cons_of_ne_nil (List.ne_nil_of_mem accepted)
    unfold ServerKnows at knows
    rw [served] at knows
    obtain ⟨init, before, rfl⟩ := corresponds.sealed last (served ▸ List.mem_cons_self)
    exact ⟨init, before, knows.trans (sealedFor_congr ulp init).symm, peerHdr_of_imprint knows⟩

/-- However frames are lost, repeated and reordered, and whatever others send: the server is as it
was, or holds what is in the last cookie that it has accepted, which it had sealed for an INIT. A
client that is established holds the header of an INIT ACK that it was sent, and a cookie that was
sealed for its own address has been accepted. -/
theorem handshake_corresponds (start : Network) (opening : start.Opening) (is : List NetworkAction)
    (w : Network) (log : List Bool) (ran : run networkAct start is = some (w, log))
    (genuine : Along networkAct Genuine start is) :
    Corresponds start w ∧ (w.client.assoc.status = .established → Settled w) := by
  have corresponds := run_corresponds opening ran genuine
  exact ⟨corresponds, corresponds.settled⟩

theorem templatedNetwork_opening : templatedNetwork.Opening := by
  have idle (e : Endpoint) (tx : e.txRing = some twoTemplates.pop.2.pop.2) : e.queued [] = [] := by
    rw [Endpoint.queued, tx, held_some, contents_popped_twoTemplates]
    rfl
  exact ⟨rfl, rfl, idle _ rfl, idle _ rfl, rfl, rfl, rfl, rfl⟩

/-- All four packets arrive. -/
theorem handshake_corresponds_templated : ∃ is w,
    run networkAct templatedNetwork is = some (w, [true, true, true, true]) ∧
    Corresponds templatedNetwork w ∧ w.client.assoc.status = .established ∧ Settled w := by
  obtain ⟨_, _, _, w, ran, genuine, -, -, established, -⟩ := handshake_goes_through
    templatedNetwork_prepared ⟨11, 12, 13, some⟩ ⟨0, 0, 0, some⟩ ⟨14, 15, 16, some⟩ ⟨0, 0, 0, some⟩
  obtain ⟨corresponds, settled⟩ :=
    handshake_corresponds templatedNetwork templatedNetwork_opening _ w _ ran genuine
  exact ⟨_, w, ran, corresponds, established, settled established⟩

/-- Where all is prepared, a network that brings every packet as it was sent makes the client
established with the header that the server has answered its INIT with, and the server has sealed what
it holds for that INIT. -/
theorem handshake_settles (start : Network) (opening : start.Opening) (init : Bytes)
    (plen : UInt64) (ackBuffer echoBuffer doneBuffer : Nat)
    (prepared : start.Prepared init plen ackBuffer echoBuffer doneBuffer)
    (host₁ host₂ host₃ host₄ : Host) :
    ∃ initAck cookieEcho cookieAck w,
      let is := straightRun host₁ host₂ host₃ host₄ init initAck cookieEcho cookieAck plen ackBuffer
        echoBuffer doneBuffer
      run networkAct start is = some (w, [true, true, true, true]) ∧
      Along networkAct Genuine start is ∧
      w.server.sent = [(cookieAck, 50), (initAck, 126)] ∧ w.client.sent = [(cookieEcho, 106)] ∧
      w.client.assoc.status = .established ∧ FromClient w.client.assoc (host₁, init) ∧
      w.client.assoc.peerHdr = advertisedHdr host₁ w.server.assoc.ulp ∧
      w.served = [sealedFor w.server.assoc (host₁, init)] ∧
      w.server.assoc.imprint = sealedFor w.server.assoc (host₁, init) := by
  obtain ⟨initAck, cookieEcho, cookieAck, w, ran, genuine, serverSent, clientSent, established, asked,
    served⟩ := handshake_goes_through prepared host₁ host₂ host₃ host₄
  have corresponds := run_corresponds opening ran genuine
  obtain ⟨⟨answered, member, address, hdr⟩, -, held, member', same, -⟩ := corresponds.settled established
  -- there is no other INIT
  rw [asked, opening.asked, List.mem_singleton] at member member'
  subst member
  subst member'
  rw [opening.serverSent] at serverSent
  rw [opening.clientSent] at clientSent
  refine ⟨initAck, cookieEcho, cookieAck, w, ran, genuine, serverSent, clientSent, established, address,
    hdr, ?_, same⟩
  rw [served, opening.served, sealedFor_congr corresponds.serverUlp]

theorem handshake_settles_templated : ∃ initAck cookieEcho cookieAck w,
    run networkAct templatedNetwork (straightRun ⟨11, 12, 13, some⟩ ⟨0, 0, 0, some⟩ ⟨14, 15, 16, some⟩
      ⟨0, 0, 0, some⟩ checkedInit initAck cookieEcho cookieAck 66 0 0 1) =
      some (w, [true, true, true, true]) ∧
    w.server.sent = [(cookieAck, 50), (initAck, 126)] ∧ w.client.sent = [(cookieEcho, 106)] ∧
    w.client.assoc.status = .established ∧
    w.client.assoc.peerHdr = advertisedHdr ⟨11, 12, 13, some⟩ w.server.assoc.ulp ∧
    w.server.assoc.imprint = sealedFor w.server.assoc (⟨11, 12, 13, some⟩, checkedInit) := by
  obtain ⟨initAck, cookieEcho, cookieAck, w, ran, -, serverSent, clientSent, established, -, hdr, -,
    same⟩ := handshake_settles templatedNetwork templatedNetwork_opening checkedInit 66 0 0 1
      templatedNetwork_prepared ⟨11, 12, 13, some⟩ ⟨0, 0, 0, some⟩ ⟨14, 15, 16, some⟩ ⟨0, 0, 0, some⟩
  exact ⟨initAck, cookieEcho, cookieAck, w, ran, serverSent, clientSent, established, hdr, same⟩

end Kpnet.Sctp
