import Kpnet.Sctp.Raw
import Kpnet.Sctp.Setup

/-!
# The record as a cookie

`build_sctp_init_ack_hdr` seals the start of its `if_ip_sctp_meta_t` as if it were a `cookie_t`, and
`sctp_process_sctp_cookie_echo` reads it as one. The record has the fields of the cookie in their
order, but no `dst_tsn`, so behind `tsn` every field is read as the one before it.
-/
namespace Kpnet.Sctp

open Bytes

/-- The cookie that the start of a record is taken for. -/
def SctpMeta.asCookie (m : SctpMeta) : Cookie :=
  { verTag := m.verTag
    initTag := m.initTag
    aRwnd := m.aRwnd
    os := m.os
    mis := m.mis
    tsn := m.tsn
    dstTsn := m.srcIp
    srcIp := m.dstIp
    dstIp := m.srcPort
    srcPort := m.dstPort
    dstPort := m.state.toUInt32 }

theorem SctpMeta.encode_asCookie (m : SctpMeta) : m.asCookie.encode = m.front := rfl

/-- What the association is to have from the record whose cookie has come back: the values under
their names, and as the peer the one the record calls the source. -/
structure Restores (m : SctpMeta) (assoc : SctpAssociation) : Prop where
  verTag : assoc.verTag = m.verTag
  initTag : assoc.initTag = m.initTag
  aRwnd : assoc.aRwnd = m.aRwnd
  os : assoc.os = m.os
  mis : assoc.mis = m.mis
  tsn : assoc.tsn = m.tsn
  dstIp : assoc.dstIp = m.srcIp
  dstPort : assoc.dstPort = m.srcPort

/-- The COOKIE ECHO is accepted, and restores the record. -/
def EchoRestores (host : Host) (e : Endpoint) (echo : Bytes) (m : SctpMeta) : Prop :=
  ∃ after, sctpProcessSctpCookieEcho host e (shift echo 46) (u16 echo 48) = some (0, after) ∧
    Restores m after.assoc

/-- The peer that the association gets is the destination of the record. -/
theorem restores_cookieEchoAssoc_iff (alloc : Nat → Option Nat) (assoc : SctpAssociation)
    (m : SctpMeta) :
    Restores m (prepareSctpThreads alloc (cookieEchoAssoc assoc m.asCookie)).2 ↔
      m.srcIp = m.dstIp ∧ m.srcPort = m.dstPort := by
  obtain ⟨os, mis, prepared⟩ := prepareSctpThreads_eq alloc (cookieEchoAssoc assoc m.asCookie)
  rw [prepared]
  constructor
  · intro restores
    exact ⟨restores.dstIp.symm, restores.dstPort.symm⟩
  · rintro ⟨ip, port⟩
    exact ⟨rfl, rfl, rfl, rfl, rfl, rfl, ip.symm, port.symm⟩

section Echo

variable (buffer : Bytes) (o : Nat) (m : SctpMeta) (tag tsn random : UInt32) (initAck : RawFrame)
  (built : buildSctpInitAckHdr tag tsn random (some ⟨⟨buffer, some o, 0⟩, some m⟩) = some initAck)
  (host : Host) (e : Endpoint) (echo : Bytes) (supplied : e.Supplied) (long : 60 ≤ chunkLen echo)
  (unchanged : slice echo 50 56 = slice initAck.bytes 70 56)

include built supplied long unchanged

/-- The code is right whatever the fields are, so the association is taken from the record. -/
theorem cookieEcho_accepted :
    ∃ after, sctpProcessSctpCookieEcho host e (shift echo 46) (u16 echo 48) = some (0, after) ∧
      after.assoc = (prepareSctpThreads host.alloc
        (cookieEchoAssoc e.assoc { m with initTag := tag, tsn := tsn }.asCookie)).2 := by
  obtain ⟨frame, built', -, decodes⟩ := buildSctpInitAckHdr_decodes buffer o m tag tsn random
  cases built.symm.trans built'
  generalize { m with initTag := tag, tsn := tsn } = m' at decodes
  obtain ⟨-, -, front, code⟩ := cookieParam_read m'.length_front
    (show slice initAck.bytes 66 60 = cookieParam m'.front from by
      rw [← decodes.initHdr.2]; simp [cookieParam])
  -- the bytes echoed are the start of the record and its code
  rw [show 56 = 40 + 16 from rfl, slice_add, slice_add, front, code] at unchanged
  obtain ⟨cookie, mac⟩ := List.append_inj unchanged (by rw [length_slice, m'.length_front])
  have read : Cookie.read (shift (shift echo 46) 4) = m'.asCookie := by
    rw [shift_shift]
    apply Cookie.read_encode
    rw [m'.encode_asCookie, cookie]
  have sealed : hmacMd5 (slice (shift echo 46) 4 40) hmacKey = slice (shift echo 46) 44 16 := by
    rw [slice_shift, slice_shift, cookie, mac]
  have handles := sctpProcessSctpCookieEcho_handles host e (shift echo 46) (u16 echo 48)
  obtain ⟨⟨ret, after⟩, returned⟩ := Option.ne_none_iff_exists'.mp (handles.returns supplied)
  obtain ⟨rfl, assoc⟩ := handles.passes ⟨long, sealed⟩ ret after returned
  exact ⟨after, returned, by rw [assoc, read]⟩

/-- A cookie made of a record restores it exactly if source and destination are the same. -/
theorem cookie_restores_iff :
    EchoRestores host e echo { m with initTag := tag, tsn := tsn } ↔
      m.srcIp = m.dstIp ∧ m.srcPort = m.dstPort := by
  obtain ⟨after, accepted, assoc⟩ := cookieEcho_accepted buffer o m tag tsn random initAck built host e
    echo supplied long unchanged
  have restores := restores_cookieEchoAssoc_iff host.alloc e.assoc
    { m with initTag := tag, tsn := tsn }
  rw [← assoc] at restores
  rw [← restores]
  constructor
  · rintro ⟨other, accepted', restored⟩
    cases accepted.symm.trans accepted'
    exact restored
  · intro restored
    exact ⟨after, accepted, restored⟩

end Echo

/-- The COOKIE ECHO of a client that sends back what it found in this INIT ACK. -/
def echoOf (initAck : RawFrame) : Bytes :=
  put (fun _ => 0) 46 (fldHdr sctpCookieEcho (htons 60) ++ slice initAck.bytes 70 56)

theorem echoOf_found (initAck : RawFrame) :
    60 ≤ chunkLen (echoOf initAck) ∧
      slice (echoOf initAck) 50 56 = slice initAck.bytes 70 56 := by
  have found := slice_put_self (fun _ => 0) 46
    (fldHdr sctpCookieEcho (htons 60) ++ slice initAck.bytes 70 56)
  rw [← echoOf, List.length_append, length_slice, Nat.add_comm] at found
  obtain ⟨fld, cookie⟩ := slice_eq_append found rfl
  have field : u16 (echoOf initAck) 48 = htons 60 := u16_of_slice fld 2 _ (by decide) rfl
  exact ⟨by rw [chunkLen, field, ntohs_htons]; decide, cookie⟩

/-- A record of an association with itself. -/
def ownMeta : SctpMeta :=
  { sampleMeta 4000 with dstIp := (sampleMeta 4000).srcIp, dstPort := (sampleMeta 4000).srcPort }

theorem cookie_restores_iff_sample : ∃ initAck,
    buildSctpInitAckHdr 1 2 3 (some ⟨⟨fun _ => 0, some 0, 0⟩, some ownMeta⟩) = some initAck ∧
    EchoRestores ⟨0, 0, 0, some⟩ createdServer (echoOf initAck)
      { ownMeta with initTag := 1, tsn := 2 } := by
  obtain ⟨initAck, built, -, -⟩ := buildSctpInitAckHdr_decodes (fun _ => 0) 0 ownMeta 1 2 3
  obtain ⟨long, unchanged⟩ := echoOf_found initAck
  have restores := cookie_restores_iff (fun _ => 0) 0 ownMeta 1 2 3 initAck built
    ⟨0, 0, 0, some⟩ createdServer (echoOf initAck) (Endpoint.fresh_supplied _) long unchanged
  exact ⟨initAck, built, restores.mpr ⟨rfl, rfl⟩⟩

/-- A cookie with the source 192.168.1.2:4000 and the destination 192.168.1.3:80 comes back with the
destination as the peer. -/
theorem cookie_peer_misread : ∃ initAck after,
    buildSctpInitAckHdr 1 2 3 (some ⟨⟨fun _ => 0, some 0, 0⟩, some (sampleMeta 4000)⟩) =
        some initAck ∧
    sctpProcessSctpCookieEcho ⟨0, 0, 0, some⟩ createdServer (shift (echoOf initAck) 46)
      (u16 (echoOf initAck) 48) = some (0, after) ∧
    after.assoc.dstIp ≠ (sampleMeta 4000).srcIp ∧ after.assoc.dstPort ≠ (sampleMeta 4000).srcPort := by
  obtain ⟨initAck, built, -, -⟩ := buildSctpInitAckHdr_decodes (fun _ => 0) 0 (sampleMeta 4000) 1 2 3
  obtain ⟨long, unchanged⟩ := echoOf_found initAck
  obtain ⟨after, accepted, assoc⟩ := cookieEcho_accepted (fun _ => 0) 0 (sampleMeta 4000) 1 2 3 initAck
    built ⟨0, 0, 0, some⟩ createdServer (echoOf initAck) (Endpoint.fresh_supplied _) long unchanged
  obtain ⟨os, mis, prepared⟩ := prepareSctpThreads_eq some
    (cookieEchoAssoc createdServer.assoc { sampleMeta 4000 with initTag := 1, tsn := 2 }.asCookie)
  rw [prepared] at assoc
  have ip : after.assoc.dstIp = (sampleMeta 4000).dstIp := by
    rw [assoc]
    rfl
  have port : after.assoc.dstPort = (sampleMeta 4000).dstPort := by
    rw [assoc]
    rfl
  refine ⟨initAck, after, built, accepted, ?_⟩
  rw [ip, port]
  decide

end Kpnet.Sctp
