import Kpnet.Sctp.Receive
import Kpnet.Sctp.Setup

/-!
# The cookie exchange

The server keeps nothing of an INIT but what it seals into the cookie of its INIT ACK, and
gets it back with the COOKIE ECHO. This module follows the bytes through the three handlers
and says what both ends hold afterwards.
-/
namespace Kpnet.Sctp

open Bytes

/-- What is left of an exchange. -/
structure Outcome where
  initAck : Bytes
  client : Endpoint
  cookieEcho : Bytes
  server : Endpoint

/-- A handler that returns 0. -/
def succeeded : Option (Int × Endpoint) → Option Endpoint
  | none => none
  | some (ret, e) => if ret = 0 then some e else none

/-- The server answers an INIT, the client the INIT ACK, the server takes the COOKIE ECHO. The
replies are the frames in the buffers that the two builders took. -/
def exchange (initHost echoHost : Host) (server client : Endpoint) (init : Bytes)
    (ackBuffer echoBuffer : Nat) : Option Outcome :=
  match succeeded (sctpProcessSctpInit initHost server (shift init 14)) with
  | none => none
  | some listening =>
    let initAck := listening.frames ackBuffer
    match succeeded (sctpProcessSctpInitAck client (shift initAck 50) (u16 initAck 48)) with
    | none => none
    | some client =>
      let cookieEcho := client.frames echoBuffer
      match succeeded (sctpProcessSctpCookieEcho echoHost listening (shift cookieEcho 46)
          (u16 cookieEcho 48)) with
      | none => none
      | some server =>
        some { initAck := initAck, client := client, cookieEcho := cookieEcho, server := server }

/-- The chunk of an INIT ACK ends in the cookie and its code. -/
theorem initAckChunk_eq (host : Host) (assoc : SctpAssociation) :
    initAckChunk host assoc =
      (fldHdr sctpInitAck (htons 80) ++ (advertisedHdr host assoc.ulp).encode ++
        (le16 (htons 7) ++ le16 (htons 60))) ++
      ((stateCookie host assoc).encode ++ hmacMd5 (stateCookie host assoc).encode hmacKey) := by
  simp only [initAckChunk, List.append_assoc]

/-- What a client finds in the frame of an INIT ACK. -/
theorem initAck_frame {host : Host} {assoc : SctpAssociation} {frame : Bytes}
    (found : slice frame 46 80 = initAckChunk host assoc) :
    u16 frame 48 = htons 80 ∧
    SctpInitHdr.read (shift frame 50) = advertisedHdr host assoc.ulp ∧
    slice frame 70 56 = (stateCookie host assoc).encode ++
      hmacMd5 (stateCookie host assoc).encode hmacKey := by
  refine ⟨u16_of_slice found 2 _ (by omega) rfl, ?_, ?_⟩
  · exact SctpInitHdr.read_encode _ _ _ (slice_of_slice found 4 16 _ (by omega) rfl)
  · refine slice_of_slice found 24 56 _ (by omega) ?_
    rw [initAckChunk_eq, List.drop_left' (by simp [fldHdr]), List.take_of_length_le (by simp)]

/-- What the server finds in the frame of the COOKIE ECHO that answers it. -/
theorem cookieEcho_frame {cookie : Cookie} {mac : List UInt8} {frame : Bytes}
    (length : mac.length = 16)
    (found : slice frame 46 60 = fldHdr sctpCookieEcho (htons 60) ++ (cookie.encode ++ mac)) :
    u16 frame 48 = htons 60 ∧ slice frame 50 40 = cookie.encode ∧ slice frame 90 16 = mac := by
  have field : ((fldHdr sctpCookieEcho (htons 60) ++ (cookie.encode ++ mac)).drop 4).take 40 =
      cookie.encode := by
    rw [List.drop_left' (by simp [fldHdr]), List.take_left' (length_encode_cookie cookie)]
  refine ⟨u16_of_slice found 2 _ (by omega) rfl, slice_of_slice found 4 40 _ (by omega) field, ?_⟩
  refine slice_of_slice found 44 16 _ (by omega) ?_
  rw [← List.append_assoc, List.drop_left' (by simp [fldHdr]), List.take_of_length_le (by omega)]

section

variable (initHost echoHost : Host) {server client : Endpoint} (init : Bytes)
  {ackBuffer echoBuffer : Nat} {ackPlen echoPlen : UInt64}

/-- The server's part: an INIT ACK to where the INIT came from. -/
theorem sctpProcessSctpInit_queued (supplied : server.Supplied)
    (template : server.Template ackBuffer ackPlen) :
    ∃ listening,
      sctpProcessSctpInit initHost server (shift init 14) = some (0, listening) ∧
      Queued server ackBuffer ackPlen
        (builtFrame (initAckChunk initHost (initAssoc server.assoc (shift init 14)))
          (some (u32 init 26, (u16 init 34).toUInt32)) (fun cmn => generateCrc32c cmn (12 + 80))
          (initAssoc server.assoc (shift init 14)).verTag (ackPlen.toUInt32 + 80)
          (server.frames ackBuffer))
        (ackPlen.toUInt32 + 80) listening := by
  obtain ⟨listening, built, queued⟩ := buildPrefilled_template
    (initAckChunk initHost (initAssoc server.assoc (shift init 14)))
    (some ((initAssoc server.assoc (shift init 14)).dstIp,
      (initAssoc server.assoc (shift init 14)).dstPort))
    (fun cmn => generateCrc32c cmn (12 + (ntohs (htons 80)).toUInt32))
    (initAssoc server.assoc (shift init 14)) supplied template
  have peer : ((initAssoc server.assoc (shift init 14)).dstIp,
      (initAssoc server.assoc (shift init 14)).dstPort) = (u32 init 26, (u16 init 34).toUInt32) := by
    simp only [initAssoc, u16_shift, u32_shift]
  have len : 12 + (ntohs (htons 80)).toUInt32 = 12 + 80 := by decide
  rw [length_initAckChunk, peer, len] at queued
  refine ⟨listening, ?_, queued⟩
  rw [sctpProcessSctpInit, show buildPrefilledMacIpSctpInitAckHdr initHost
    (initAssoc server.assoc (shift init 14)) server = some (0, listening) from built]

/-- The client's part, for an INIT ACK with this chunk: the cookie goes back. -/
theorem sctpProcessSctpInitAck_queued {assoc : SctpAssociation} {frame : Bytes}
    (supplied : client.Supplied) (template : client.Template echoBuffer echoPlen)
    (found : slice frame 46 80 = initAckChunk initHost assoc) :
    ∃ after,
      sctpProcessSctpInitAck client (shift frame 50) (u16 frame 48) = some (0, after) ∧
      Queued { client with assoc := initAckAssoc client.assoc (shift frame 50) (htons 80) }
        echoBuffer echoPlen
        (builtFrame (fldHdr sctpCookieEcho (htons 60) ++ ((stateCookie initHost assoc).encode ++
          hmacMd5 (stateCookie initHost assoc).encode hmacKey)) none
          (fun cmn => generateCrc32c cmn (12 + 60))
          (initAckAssoc client.assoc (shift frame 50) (htons 80)).verTag (echoPlen.toUInt32 + 60)
          (client.frames echoBuffer)) (echoPlen.toUInt32 + 60) after := by
  obtain ⟨len, -, cookie⟩ := initAck_frame found
  rw [len]
  -- the handler leaves the length and the place of the cookie for the builder
  let assoc' := initAckAssoc client.assoc (shift frame 50) (htons 80)
  have id : assoc'.id = 56 := by
    show ntohs (htons 80) - 24 = 56
    decide
  have chunk : cookieEchoChunk assoc'.id (shift (shift frame 50) 20) =
      fldHdr sctpCookieEcho (htons 60) ++ ((stateCookie initHost assoc).encode ++
        hmacMd5 (stateCookie initHost assoc).encode hmacKey) := by
    rw [id, cookieEchoChunk, shift_shift, slice_shift, show (56 : UInt16).toNat = 56 by decide,
      show (4 + 56 : UInt16) = 60 by decide, cookie]
  obtain ⟨after, built, queued⟩ := buildPrefilled_template
    (e := { client with assoc := assoc' })
    (cookieEchoChunk assoc'.id (shift (shift frame 50) 20)) none
    (fun cmn => generateCrc32c cmn (12 + (ntohs (htons (4 + assoc'.id))).toUInt32)) assoc'
    (supplied.setAssoc assoc') (template.setAssoc assoc')
  have len : 12 + (ntohs (htons (4 + 56))).toUInt32 = 12 + 60 := by decide
  rw [length_cookieEchoChunk, chunk, id, len] at queued
  refine ⟨after, ?_, queued⟩
  rw [sctpProcessSctpInitAck, if_neg (by decide)]
  dsimp only
  rw [show buildPrefilledMacIpSctpCookieEchoHdr assoc' { client with assoc := assoc' } =
    some (0, after) from built]

/-- The server's second part, for a COOKIE ECHO with this cookie under its code. -/
theorem sctpProcessSctpCookieEcho_sealed {cookie : Cookie} {frame : Bytes}
    (supplied : server.Supplied)
    (found : slice frame 46 60 = fldHdr sctpCookieEcho (htons 60) ++
      (cookie.encode ++ hmacMd5 cookie.encode hmacKey)) :
    ∃ after, sctpProcessSctpCookieEcho echoHost server (shift frame 46) (u16 frame 48) =
        some (0, after) ∧
      after.assoc = (prepareSctpThreads echoHost.alloc (cookieEchoAssoc server.assoc cookie)).2 := by
  obtain ⟨len, sealed, mac⟩ := cookieEcho_frame (length_hmacMd5 _ _) found
  rw [len]
  have handles := sctpProcessSctpCookieEcho_handles echoHost server (shift frame 46) (htons 60)
  simp only [slice_shift, shift_shift] at handles
  -- both checks of the handler
  have passed : 60 ≤ (ntohs (htons 60)).toNat ∧
      hmacMd5 (slice frame (46 + 4) 40) hmacKey = slice frame (46 + 44) 16 :=
    ⟨by decide, by rw [sealed, mac]⟩
  obtain ⟨⟨ret, after⟩, returned⟩ := Option.ne_none_iff_exists'.mp (handles.returns supplied)
  obtain ⟨rfl, changed⟩ := handles.passes passed ret after returned
  exact ⟨after, returned, by rw [changed, Cookie.read_encode cookie frame _ sealed]⟩

/-- The whole exchange: it goes through, and this is what the ends are left with. -/
theorem exchange_outcome (serverSupplied : server.Supplied) (clientSupplied : client.Supplied)
    (ackTemplate : server.Template ackBuffer ackPlen)
    (echoTemplate : client.Template echoBuffer echoPlen) :
    ∃ o, exchange initHost echoHost server client init ackBuffer echoBuffer = some o ∧
      SctpInitHdr.read (shift o.initAck 50) = advertisedHdr initHost server.assoc.ulp ∧
      o.client.assoc = initAckAssoc client.assoc (shift o.initAck 50) (htons 80) ∧
      ∃ os mis, o.server.assoc = { cookieEchoAssoc server.assoc
        (stateCookie initHost (initAssoc server.assoc (shift init 14))) with
          osThreads := os, misThreads := mis } := by
  obtain ⟨listening, answered, queued⟩ :=
    sctpProcessSctpInit_queued initHost init serverSupplied ackTemplate
  -- the INIT ACK is read out of the buffer it was built in, and so is the COOKIE ECHO
  have chunk : slice (listening.frames ackBuffer) 46 80 =
      initAckChunk initHost (initAssoc server.assoc (shift init 14)) := by
    rw [queued.frames_self]
    exact slice_builtFrame _ _ _ _ _ _ (length_initAckChunk _ _)
  obtain ⟨connected, acked, queued'⟩ :=
    sctpProcessSctpInitAck_queued initHost clientSupplied echoTemplate chunk
  have echo : slice (connected.frames echoBuffer) 46 60 = fldHdr sctpCookieEcho (htons 60) ++
      ((stateCookie initHost (initAssoc server.assoc (shift init 14))).encode ++
        hmacMd5 (stateCookie initHost (initAssoc server.assoc (shift init 14))).encode
          hmacKey) := by
    rw [queued'.frames_self]
    exact slice_builtFrame _ _ _ _ _ _ (by simp [fldHdr])
  obtain ⟨served, echoed, serverAssoc⟩ :=
    sctpProcessSctpCookieEcho_sealed echoHost queued.supplied echo
  let o : Outcome :=
    { initAck := listening.frames ackBuffer
      client := connected
      cookieEcho := connected.frames echoBuffer
      server := served }
  refine ⟨o, ?_, (initAck_frame chunk).2.1, queued'.assoc, ?_⟩
  · simp only [exchange, answered, acked, echoed, succeeded, if_true, o]
  · rw [serverAssoc, queued.assoc]
    exact prepareSctpThreads_eq _ _

end

/-- Every fixed field of what the server sealed comes back with the COOKIE ECHO. -/
theorem cookie_round_trip (initHost echoHost : Host) (server client : Endpoint) (init : Bytes)
    (ackBuffer echoBuffer : Nat) (ackPlen echoPlen : UInt64)
    (serverSupplied : server.Supplied) (clientSupplied : client.Supplied)
    (ackTemplate : server.Template ackBuffer ackPlen)
    (echoTemplate : client.Template echoBuffer echoPlen) :
    ∃ o, exchange initHost echoHost server client init ackBuffer echoBuffer = some o ∧
      o.server.assoc.verTag = u32 init 50 ∧
      o.server.assoc.aRwnd = u32 init 54 ∧
      o.server.assoc.os = u16 init 58 ∧
      o.server.assoc.mis = u16 init 60 ∧
      o.server.assoc.dstTsn = u32 init 62 ∧
      o.server.assoc.dstIp = u32 init 26 ∧
      o.server.assoc.dstPort = (u16 init 34).toUInt32 := by
  obtain ⟨o, ran, -, -, os, mis, final⟩ := exchange_outcome initHost echoHost init serverSupplied
    clientSupplied ackTemplate echoTemplate
  refine ⟨o, ran, ?_⟩
  simp [final, cookieEchoAssoc, stateCookie, initAssoc, SctpInitHdr.read]

theorem cookie_round_trip_created :
    let init := plainInit ⟨31, 32, 33, some⟩
    ∃ o, exchange ⟨11, 12, 13, some⟩ ⟨21, 22, 23, some⟩ createdServer createdClient init 0 0 =
        some o ∧ o.server.assoc.verTag = 31 ∧ o.server.assoc.dstIp = 0x0201A8C0 := by
  intro init
  obtain ⟨o, ran, tag, -, -, -, -, ip, -⟩ := cookie_round_trip ⟨11, 12, 13, some⟩
    ⟨21, 22, 23, some⟩ createdServer createdClient init 0 0 46 46 (Endpoint.fresh_supplied _)
    (Endpoint.fresh_supplied _) (Endpoint.fresh_template _) (Endpoint.fresh_template _)
  exact ⟨o, ran, tag.trans (by decide), ip.trans (by decide)⟩

/-- Where the tags and initial TSNs of the two ends come from. -/
theorem exchange_tags_and_tsns (initHost echoHost : Host) {server client : Endpoint}
    (init : Bytes) {ackBuffer echoBuffer : Nat} {ackPlen echoPlen : UInt64}
    (serverSupplied : server.Supplied) (clientSupplied : client.Supplied)
    (ackTemplate : server.Template ackBuffer ackPlen)
    (echoTemplate : client.Template echoBuffer echoPlen) :
    ∃ o, exchange initHost echoHost server client init ackBuffer echoBuffer = some o ∧
      (u32 o.initAck 50 = initHost.initTag ∧ u32 o.initAck 62 = initHost.initTsn) ∧
      (o.client.assoc.verTag = initHost.initTag ∧ o.client.assoc.tsn = initHost.initTsn) ∧
      (o.server.assoc.verTag = u32 init 50 ∧ o.server.assoc.initTag = initHost.cookieTag) ∧
      o.server.assoc.tsn = u32 init 62 ∧ o.server.assoc.dstTsn = u32 init 62 := by
  obtain ⟨o, ran, header, connected, os, mis, final⟩ := exchange_outcome initHost echoHost init
    serverSupplied clientSupplied ackTemplate echoTemplate
  -- two fields of the header that the INIT ACK advertises
  have tag := congrArg SctpInitHdr.initTag header
  have tsn := congrArg SctpInitHdr.initTsn header
  simp only [SctpInitHdr.read, advertisedHdr, u32_shift] at tag tsn
  refine ⟨o, ran, ⟨tag, tsn⟩, ?_⟩
  simp [final, connected, initAckAssoc, cookieEchoAssoc, stateCookie, initAssoc,
    SctpInitHdr.read, tag, tsn]

/-- The tags agree exactly if the two draws for the server's own tag, one for the INIT ACK
and one for the cookie, happen to be equal. -/
theorem verification_tags_agree_iff (initHost echoHost : Host) (server client : Endpoint)
    (init : Bytes) (ackBuffer echoBuffer : Nat) (ackPlen echoPlen : UInt64)
    (serverSupplied : server.Supplied) (clientSupplied : client.Supplied)
    (ackTemplate : server.Template ackBuffer ackPlen)
    (echoTemplate : client.Template echoBuffer echoPlen) :
    ∃ o, exchange initHost echoHost server client init ackBuffer echoBuffer = some o ∧
      ((o.client.assoc.verTag = u32 o.initAck 50 ∧
        o.client.assoc.verTag = o.server.assoc.initTag ∧
        o.server.assoc.verTag = u32 init 50) ↔ initHost.initTag = initHost.cookieTag) := by
  obtain ⟨o, ran, ⟨advertised, -⟩, ⟨stamped, -⟩, ⟨peer, own⟩, -⟩ := exchange_tags_and_tsns initHost
    echoHost init serverSupplied clientSupplied ackTemplate echoTemplate
  refine ⟨o, ran, ?_⟩
  rw [advertised, stamped, peer, own]
  simp only [true_and, and_true]

theorem verification_tags_agree_iff_created :
    let init := plainInit ⟨31, 32, 33, some⟩
    ∃ o, exchange ⟨11, 12, 11, some⟩ ⟨21, 22, 23, some⟩ createdServer createdClient init 0 0 =
        some o ∧ o.client.assoc.verTag = o.server.assoc.initTag := by
  intro init
  obtain ⟨o, ran, agree⟩ := verification_tags_agree_iff ⟨11, 12, 11, some⟩ ⟨21, 22, 23, some⟩
    createdServer createdClient init 0 0 46 46 (Endpoint.fresh_supplied _)
    (Endpoint.fresh_supplied _) (Endpoint.fresh_template _) (Endpoint.fresh_template _)
  exact ⟨o, ran, (agree.mpr rfl).2.1⟩

/-- With different draws the client stamps a tag that is not the server's. -/
theorem verification_tags_differ :
    let init := plainInit ⟨31, 32, 33, some⟩
    ∃ o, exchange ⟨11, 12, 13, some⟩ ⟨21, 22, 23, some⟩ createdServer createdClient init 0 0 =
        some o ∧
      ¬(o.client.assoc.verTag = u32 o.initAck 50 ∧
        o.client.assoc.verTag = o.server.assoc.initTag ∧
        o.server.assoc.verTag = u32 init 50) := by
  intro init
  obtain ⟨o, ran, -, ⟨stamped, -⟩, ⟨-, own⟩, -⟩ := exchange_tags_and_tsns ⟨11, 12, 13, some⟩
    ⟨21, 22, 23, some⟩ init (Endpoint.fresh_supplied _) (Endpoint.fresh_supplied _)
    (Endpoint.fresh_template _) (Endpoint.fresh_template _)
  refine ⟨o, ran, ?_⟩
  rw [stamped, own]
  rintro ⟨-, same, -⟩
  exact absurd same (by decide)

/-- Each end goes on with the initial TSN of the other, so both go on with their own exactly if
the two are the same. -/
theorem initial_tsns_agree_iff (initHost echoHost : Host) (server client : Endpoint)
    (init : Bytes) (ackBuffer echoBuffer : Nat) (ackPlen echoPlen : UInt64)
    (serverSupplied : server.Supplied) (clientSupplied : client.Supplied)
    (ackTemplate : server.Template ackBuffer ackPlen)
    (echoTemplate : client.Template echoBuffer echoPlen) :
    ∃ o, exchange initHost echoHost server client init ackBuffer echoBuffer = some o ∧
      ((o.client.assoc.tsn = u32 init 62 ∧
        o.server.assoc.tsn = u32 o.initAck 62 ∧
        o.server.assoc.dstTsn = u32 init 62) ↔ u32 init 62 = initHost.initTsn) := by
  obtain ⟨o, ran, ⟨-, advertised⟩, ⟨-, connected⟩, -, listened, peer⟩ := exchange_tags_and_tsns
    initHost echoHost init serverSupplied clientSupplied ackTemplate echoTemplate
  refine ⟨o, ran, ?_⟩
  rw [advertised, connected, listened, peer]
  constructor
  · rintro ⟨-, same, -⟩
    exact same
  · intro same
    exact ⟨same.symm, same, rfl⟩

theorem initial_tsns_agree_iff_created :
    let init := plainInit ⟨31, 12, 33, some⟩
    ∃ o, exchange ⟨11, 12, 13, some⟩ ⟨21, 22, 23, some⟩ createdServer createdClient init 0 0 =
        some o ∧ o.client.assoc.tsn = u32 init 62 := by
  intro init
  obtain ⟨o, ran, agree⟩ := initial_tsns_agree_iff ⟨11, 12, 13, some⟩ ⟨21, 22, 23, some⟩
    createdServer createdClient init 0 0 46 46 (Endpoint.fresh_supplied _)
    (Endpoint.fresh_supplied _) (Endpoint.fresh_template _) (Endpoint.fresh_template _)
  exact ⟨o, ran, (agree.mpr (by decide)).1⟩

/-- With different initial TSNs the two ends have exchanged them. -/
theorem initial_tsns_swapped :
    let init := plainInit ⟨31, 32, 33, some⟩
    ∃ o, exchange ⟨11, 12, 13, some⟩ ⟨21, 22, 23, some⟩ createdServer createdClient init 0 0 =
        some o ∧
      ¬(o.client.assoc.tsn = u32 init 62 ∧
        o.server.assoc.tsn = u32 o.initAck 62 ∧
        o.server.assoc.dstTsn = u32 init 62) := by
  intro init
  obtain ⟨o, ran, -, ⟨-, connected⟩, -⟩ := exchange_tags_and_tsns ⟨11, 12, 13, some⟩
    ⟨21, 22, 23, some⟩ init (Endpoint.fresh_supplied _) (Endpoint.fresh_supplied _)
    (Endpoint.fresh_template _) (Endpoint.fresh_template _)
  refine ⟨o, ran, ?_⟩
  rw [connected]
  rintro ⟨same, -⟩
  exact absurd same (by decide)

end Kpnet.Sctp
