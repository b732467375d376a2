import Kpnet.Sctp.Association
import Kpnet.Sctp.Digests

/-!
# The packet builders

`build_prefilled_mac_ip_sctp_init_ack_hdr.c`, `..._cookie_echo_hdr.c` and
`..._cookie_ack_hdr.c`. Each takes a template frame off the prefilled ring, writes its chunk
behind the common header, brings the IP length, the IP checksum, the tag and the CRC up to
date, and queues the frame for transmission before it gives the template back.
-/
namespace Kpnet.Sctp

open Bytes
open Kpnet.Ring (RingQueue)

/-- `if (chk > 0xFFFF) chk = (chk & 0xFFFF) + (chk >> 16);` -/
def foldCheck (chk : UInt32) : UInt32 :=
  if 0xFFFF < chk then (chk &&& (0xFFFF : UInt32)) + (chk >>> 16) else chk

theorem toNat_shiftRight_sixteen (sum : UInt32) : (sum >>> 16).toNat = sum.toNat / 65536 := by
  rw [UInt32.toNat_shiftRight, Nat.shiftRight_eq_div_pow]
  rfl

/-- A carry is brought back without loss. -/
theorem toNat_carry (sum : UInt32) :
    ((sum &&& (0xFFFF : UInt32)) + (sum >>> 16)).toNat = sum.toNat % 65536 + sum.toNat / 65536 := by
  have low : (sum &&& (0xFFFF : UInt32)).toNat = sum.toNat % 65536 := by
    rw [UInt32.toNat_and]
    exact Nat.and_two_pow_sub_one_eq_mod sum.toNat 16
  have bound := sum.toNat_lt
  rw [UInt32.toNat_add, low, toNat_shiftRight_sixteen, Nat.mod_eq_of_lt (by omega)]

/-- The update of the IP header. A builder that answers a peer writes its address first and
takes it off the checksum together with the length. -/
def stampIp (frame : Bytes) (plen : UInt32) (destAddr : Option UInt32) : Bytes :=
  let frame :=
    match destAddr with
    | some addr => put frame 30 (le32 addr)
    | none => frame
  let chk := (u16 frame 24).toUInt32
  let len := htons (plen - 14).toUInt16
  let frame := put frame 16 (le16 len)
  let chk :=
    match destAddr with
    | some addr => chk + (0 - len.toUInt32 - addr)
    | none => chk + (0 - len.toUInt32)
  put frame 24 (le16 (foldCheck chk).toUInt16)

/-- The update of the common header; the CRC is taken with its own field at 0. -/
def stampCmn (frame : Bytes) (dstp : Option UInt16) (tag : UInt32) (crc : Bytes → UInt32) :
    Bytes :=
  let frame :=
    match dstp with
    | some port => put frame 36 (le16 port)
    | none => frame
  let frame := put frame 38 (le32 tag)
  let frame := put frame 42 (le32 0)
  put frame 42 (le32 (crc (shift frame 34)))

/-- The frame a builder makes of a template. -/
def builtFrame (chunk : List UInt8) (peer : Option (UInt32 × UInt32)) (crc : Bytes → UInt32)
    (tag plen : UInt32) (template : Bytes) : Bytes :=
  let frame := put template 46 chunk
  let frame := stampIp frame plen (peer.map Prod.fst)
  stampCmn frame (peer.map fun p => p.2.toUInt16) tag crc

/-- What the builders have in common. `peer` is the address and port of the answers, which
the COOKIE ECHO leaves as the template has them. The result is `none` where the code follows
a null pointer: no prefilled ring, no cell in it, or no ring to transmit on. -/
def buildPrefilled (chunk : List UInt8) (peer : Option (UInt32 × UInt32))
    (crc : Bytes → UInt32) (assoc : SctpAssociation) (e : Endpoint) : Option (Int × Endpoint) :=
  match e.prefilledRing with
  | none => none
  | some ring =>
    match ring.pop with
    | (none, _) => none
    -- a cell without packet is not given back
    | (some (none, _), ring) => some (-1, { e with prefilledRing := some ring })
    | (some (some buffer, cellPlen), ring) =>
      let plen := cellPlen.toUInt32 + UInt32.ofNat chunk.length
      let frame := builtFrame chunk peer crc assoc.verTag plen (e.frames buffer)
      match e.txRing with
      | none => none
      | some tx =>
        some (0, { e with
          frames := Function.update e.frames buffer frame
          txRing := some (tx.push (some buffer) plen.toUInt64).2
          prefilledRing := some (ring.push (some buffer) cellPlen).2 })

/-- The key both ends of the cookie exchange are built with. -/
def hmacKey : List UInt8 :=
  [0xC9, 0xAB, 0x02, 0x9C, 0x92, 0xBF, 0x47, 0xF3, 0xC9, 0xAB, 0x02, 0x9C, 0x92, 0xBF, 0x47, 0xF3]

/-- The cookie the INIT ACK builder seals. -/
def stateCookie (host : Host) (assoc : SctpAssociation) : Cookie :=
  { verTag := assoc.verTag
    initTag := host.cookieTag
    aRwnd := assoc.aRwnd
    os := assoc.os
    mis := assoc.mis
    tsn := assoc.tsn
    dstTsn := assoc.dstTsn
    srcIp := assoc.dstIp
    dstIp := assoc.ulp.srcIp
    srcPort := assoc.dstPort
    dstPort := assoc.ulp.srcPort }

def initAckChunk (host : Host) (assoc : SctpAssociation) : List UInt8 :=
  fldHdr sctpInitAck (htons 80) ++ (advertisedHdr host assoc.ulp).encode ++
    (le16 (htons 7) ++ le16 (htons 60)) ++ (stateCookie host assoc).encode ++
    hmacMd5 (stateCookie host assoc).encode hmacKey

theorem length_initAckChunk (host : Host) (assoc : SctpAssociation) :
    (initAckChunk host assoc).length = 80 := by
  simp [initAckChunk, fldHdr]

def buildPrefilledMacIpSctpInitAckHdr (host : Host) (assoc : SctpAssociation) (e : Endpoint) :
    Option (Int × Endpoint) :=
  buildPrefilled (initAckChunk host assoc) (some (assoc.dstIp, assoc.dstPort))
    (fun cmn => ~~~(generateCrc32cOnCrc32c cmn (12 + (ntohs (htons 80)).toUInt32)
      0xFFFFFFFF).toUInt32)
    assoc e

/-- The cookie is copied from where the handler of the INIT ACK left a pointer to it, in as
many bytes as it left in `id`. -/
def cookieEchoChunk (id : UInt16) (cookie : Bytes) : List UInt8 :=
  fldHdr sctpCookieEcho (htons (4 + id)) ++ slice cookie 0 id.toNat

theorem length_cookieEchoChunk (id : UInt16) (cookie : Bytes) :
    (cookieEchoChunk id cookie).length = 4 + id.toNat := by
  rw [cookieEchoChunk, List.length_append, length_slice]
  rfl

def buildPrefilledMacIpSctpCookieEchoHdr (assoc : SctpAssociation) (e : Endpoint) :
    Option (Int × Endpoint) :=
  match assoc.retryRing with
  | none => none
  | some cookie =>
    buildPrefilled (cookieEchoChunk assoc.id cookie) none
      (fun cmn => generateCrc32c cmn (12 + (ntohs (htons (4 + assoc.id))).toUInt32)) assoc e

def buildPrefilledMacIpSctpCookieAckHdr (assoc : SctpAssociation) (e : Endpoint) :
    Option (Int × Endpoint) :=
  buildPrefilled (fldHdr sctpCookieAck (htons 4)) (some (assoc.dstIp, assoc.dstPort))
    (fun cmn => ~~~(generateCrc32cOnCrc32c cmn (12 + 4) 0xFFFFFFFF).toUInt32) assoc e

/-- The chunk of a frame survives the updates of the headers before it. -/
theorem slice_stampIp (frame : Bytes) (plen : UInt32) (destAddr : Option UInt32) (o n : Nat)
    (behind : 34 ≤ o) : slice (stampIp frame plen destAddr) o n = slice frame o n := by
  simp only [stampIp]
  rw [slice_put_of_disjoint _ _ _ _ _ (by simp; omega),
    slice_put_of_disjoint _ _ _ _ _ (by simp; omega)]
  cases destAddr with
  | none => rfl
  | some addr => exact slice_put_of_disjoint _ _ _ _ _ (by simp; omega)

theorem slice_stampCmn (frame : Bytes) (dstp : Option UInt16) (tag : UInt32)
    (crc : Bytes → UInt32) (o n : Nat) (apart : 46 ≤ o ∨ o + n ≤ 36) :
    slice (stampCmn frame dstp tag crc) o n = slice frame o n := by
  simp only [stampCmn]
  rw [slice_put_of_disjoint _ _ _ _ _ (by simp; omega),
    slice_put_of_disjoint _ _ _ _ _ (by simp; omega),
    slice_put_of_disjoint _ _ _ _ _ (by simp; omega)]
  cases dstp with
  | none => rfl
  | some port => exact slice_put_of_disjoint _ _ _ _ _ (by simp; omega)

/-- The chunk is found in the frame as it was put together. -/
theorem slice_builtFrame (chunk : List UInt8) (peer : Option (UInt32 × UInt32))
    (crc : Bytes → UInt32) (tag plen : UInt32) (template : Bytes) {n : Nat}
    (length : chunk.length = n) :
    slice (builtFrame chunk peer crc tag plen template) 46 n = chunk := by
  subst length
  rw [builtFrame, slice_stampCmn _ _ _ _ _ _ (by omega), slice_stampIp _ _ _ _ _ (by omega),
    slice_put_self]

/-- An answer goes to its peer. -/
theorem builtFrame_answer (chunk : List UInt8) (addr port : UInt32) (crc : Bytes → UInt32)
    (tag plen : UInt32) (template : Bytes) :
    u32 (builtFrame chunk (some (addr, port)) crc tag plen template) 30 = addr ∧
    u16 (builtFrame chunk (some (addr, port)) crc tag plen template) 36 = port.toUInt16 := by
  constructor
  · rw [u32, builtFrame, slice_stampCmn _ _ _ _ _ _ (by omega)]
    simp only [stampIp, Option.map_some]
    rw [slice_put_of_disjoint _ _ _ _ _ (by simp), slice_put_of_disjoint _ _ _ _ _ (by simp)]
    exact u32_of_slice (slice_put_self _ 30 (le32 addr)) 0 addr (by simp) rfl
  · rw [u16, builtFrame]
    simp only [stampCmn, Option.map_some]
    rw [slice_put_of_disjoint _ _ _ _ _ (by simp), slice_put_of_disjoint _ _ _ _ _ (by simp),
      slice_put_of_disjoint _ _ _ _ _ (by simp)]
    exact u16_of_slice (slice_put_self _ 36 (le16 port.toUInt16)) 0 port.toUInt16 (by simp) rfl

/-- Any other frame goes where its template goes. -/
theorem builtFrame_forward (chunk : List UInt8) (crc : Bytes → UInt32) (tag plen : UInt32)
    (template : Bytes) :
    u32 (builtFrame chunk none crc tag plen template) 30 = u32 template 30 ∧
    u16 (builtFrame chunk none crc tag plen template) 36 = u16 template 36 := by
  constructor
  · rw [u32, builtFrame, slice_stampCmn _ _ _ _ _ _ (by omega)]
    simp only [stampIp, Option.map_none]
    rw [slice_put_of_disjoint _ _ _ _ _ (by simp), slice_put_of_disjoint _ _ _ _ _ (by simp),
      slice_put_of_disjoint _ _ _ _ _ (by simp), ← u32]
  · rw [u16, builtFrame]
    simp only [stampCmn, Option.map_none]
    rw [slice_put_of_disjoint _ _ _ _ _ (by simp), slice_put_of_disjoint _ _ _ _ _ (by simp),
      slice_put_of_disjoint _ _ _ _ _ (by simp), slice_stampIp _ _ _ _ _ (by omega),
      slice_put_of_disjoint _ _ _ _ _ (by simp), ← u16]

/-- A frame has been put into its buffer and, if there was room, on the transmit ring, and its
template is back at the end of the prefilled ring. -/
structure Queued (e : Endpoint) (buffer : Nat) (cellPlen : UInt64) (frame : Bytes) (plen : UInt32)
    (after : Endpoint) : Prop where
  assoc : after.assoc = e.assoc
  frames : after.frames = Function.update e.frames buffer frame
  tx : ∃ tx tx', e.txRing = some tx ∧ after.txRing = some tx' ∧ tx'.capacity = tx.capacity ∧
    tx'.contents = if tx.contents.length < tx.capacity
      then tx.contents ++ [(some buffer, plen.toUInt64)] else tx.contents
  prefilled : ∃ ring ring', e.prefilledRing = some ring ∧ after.prefilledRing = some ring' ∧
    ring'.contents = ring.contents.tail ++ [(some buffer, cellPlen)]

namespace Queued

variable {e after : Endpoint} {buffer : Nat} {cellPlen : UInt64} {frame : Bytes} {plen : UInt32}

theorem frames_self (queued : Queued e buffer cellPlen frame plen after) :
    after.frames buffer = frame := by
  rw [queued.frames, Function.update_self]

/-- There is a cell for the next builder too. -/
theorem supplied (queued : Queued e buffer cellPlen frame plen after) : after.Supplied := by
  obtain ⟨tx, tx', -, present, -⟩ := queued.tx
  obtain ⟨ring, ring', -, present', contents⟩ := queued.prefilled
  exact ⟨⟨tx', present⟩, ring', present', by simp [contents]⟩

end Queued

section

variable (chunk : List UInt8) (peer : Option (UInt32 × UInt32)) (crc : Bytes → UInt32)
  (assoc : SctpAssociation)

/-- All that a builder that returns can have done. -/
theorem buildPrefilled_cases {e after : Endpoint} {ret : Int}
    (built : buildPrefilled chunk peer crc assoc e = some (ret, after)) :
    (ret = -1 ∧ ∃ ring, after = { e with prefilledRing := some ring }) ∨
    (ret = 0 ∧ ∃ frames tx ring,
      after = { e with frames := frames, txRing := some tx, prefilledRing := some ring }) := by
  unfold buildPrefilled at built
  split at built
  · cases built
  · split at built
    · cases built
    · cases built
      exact .inl ⟨rfl, _, rfl⟩
    · dsimp only at built
      split at built
      · cases built
      · cases built
        exact .inr ⟨rfl, _, _, _, rfl⟩

theorem buildPrefilled_assoc {e after : Endpoint} {ret : Int}
    (built : buildPrefilled chunk peer crc assoc e = some (ret, after)) :
    after.assoc = e.assoc := by
  obtain ⟨-, ring, rfl⟩ | ⟨-, frames, tx, ring, rfl⟩ :=
    buildPrefilled_cases chunk peer crc assoc built
  · rfl
  · rfl

/-- With a template at hand the frame is built and queued. -/
theorem buildPrefilled_template {e : Endpoint} {buffer : Nat} {cellPlen : UInt64}
    (supplied : e.Supplied) (template : e.Template buffer cellPlen) :
    ∃ after, buildPrefilled chunk peer crc assoc e = some (0, after) ∧
      Queued e buffer cellPlen (builtFrame chunk peer crc assoc.verTag
        (cellPlen.toUInt32 + UInt32.ofNat chunk.length) (e.frames buffer))
        (cellPlen.toUInt32 + UInt32.ofNat chunk.length) after := by
  obtain ⟨⟨tx, queue⟩, -⟩ := supplied
  obtain ⟨ring, present, head⟩ := template
  have popped : ring.pop = (some (some buffer, cellPlen), ring.pop.2) := by
    rw [← head, ← ring.pop_fst]
  -- the cell just taken leaves room for the template to come back
  have room : ring.pop.2.contents.length < ring.pop.2.capacity := by
    have bounded := ring.length_contents_le
    have queued : ring.contents ≠ [] := by
      intro empty
      rw [empty] at head
      cases head
    have positive := List.length_pos_iff.mpr queued
    rw [ring.contents_pop, ring.capacity_pop, List.length_tail]
    omega
  let plen := cellPlen.toUInt32 + UInt32.ofNat chunk.length
  refine ⟨{ e with
    frames := Function.update e.frames buffer
      (builtFrame chunk peer crc assoc.verTag plen (e.frames buffer))
    txRing := some (tx.push (some buffer) plen.toUInt64).2
    prefilledRing := some (ring.pop.2.push (some buffer) cellPlen).2 }, ?_, ?_⟩
  · simp only [buildPrefilled, present]
    rw [popped]
    simp only [queue]
    rfl
  · refine ⟨rfl, rfl, ⟨tx, _, queue, rfl, tx.capacity_push _ _, tx.contents_push _ _⟩, ring, _,
      present, rfl, ?_⟩
    rw [RingQueue.contents_push, if_pos room, ring.contents_pop]

/-- A supplied builder returns, whatever the cell it takes holds. -/
theorem buildPrefilled_ne_none {e : Endpoint} (supplied : e.Supplied) :
    buildPrefilled chunk peer crc assoc e ≠ none := by
  obtain ⟨ring, present, queued⟩ := supplied.2
  obtain ⟨⟨packet, cellPlen⟩, rest, contents⟩ := List.exists_cons_of_ne_nil queued
  have head : ring.contents.head? = some (packet, cellPlen) := by
    rw [contents, List.head?_cons]
  cases packet with
  | none =>
    -- a cell without a packet makes it return -1
    have popped : ring.pop = (some (none, cellPlen), ring.pop.2) := by
      rw [← head, ← ring.pop_fst]
    simp only [buildPrefilled, present]
    rw [popped]
    exact Option.some_ne_none _
  | some buffer =>
    obtain ⟨after, built, -⟩ :=
      buildPrefilled_template chunk peer crc assoc supplied ⟨ring, present, head⟩
    rw [built]
    exact Option.some_ne_none _

end

end Kpnet.Sctp
