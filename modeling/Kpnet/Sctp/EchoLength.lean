import Kpnet.Sctp.Access
import Kpnet.Sctp.Templates

/-!
# The length of a COOKIE ECHO

The handler of an INIT ACK takes the length of the cookie from the length field of the chunk and
leaves it to the builder of the COOKIE ECHO in `assoc->id`. On the way it is compared neither with
the number of bytes received nor with the size of a frame.
-/
namespace Kpnet.Sctp

open Bytes

/-- `MAX_PACKET_LEN`, the size that frames are allocated with. -/
def maxPacketLen : Nat := 1516

/-- What is asked of a COOKIE ECHO that is pushed with `plen` bytes and carries `n` bytes copied
from offset `o` of an INIT ACK, of which `size` bytes have arrived. -/
structure EchoFits (frame : Bytes) (plen : UInt32) (o n : Nat) (packet : Bytes) (size : Nat) :
    Prop where
  copied : slice frame 50 n = slice packet o n
  total : plen.toNat ≤ maxPacketLen
  fld : chunkLen frame = 4 + n
  ip : ipLen frame = 20 + 12 + 4 + n
  pushed : plen.toNat = 14 + 20 + 12 + 4 + n
  inside : ∀ i < n, 46 ≤ o + i ∧ o + i < 46 + chunkLen packet ∧ o + i < size

/-- The INIT ACK is accepted, and the COOKIE ECHO built and queued for it fits. What the builder
copies is what it touches of the packet. -/
def EchoesWell (e : Endpoint) (buffer : Nat) (packet : Bytes) (size : Nat) : Prop :=
  let assoc := initAckAssoc e.assoc (shift packet 50) (u16 packet 48)
  ∃ after frame plen o n,
    sctpProcessSctpInitAck e (shift packet 50) (u16 packet 48) = some (0, after) ∧
    Queued { e with assoc := assoc } buffer 46 frame plen after ∧
    (Access.buildPrefilledMacIpSctpCookieEchoHdr assoc { e with assoc := assoc }).touched packet =
      [(o, n)] ∧
    EchoFits frame plen o n packet size

/-- A cookie that fits into a frame is short enough for all the lengths to be right. -/
theorem echoFits_built (id : UInt16) (packet template : Bytes) (crc : Bytes → UInt32) (tag : UInt32)
    (size : Nat) (length : 24 + id.toNat = chunkLen packet) (few : chunkLen packet ≤ 1490)
    (arrived : 46 + chunkLen packet ≤ size) :
    let plen := (46 : UInt64).toUInt32 +
      UInt32.ofNat (cookieEchoChunk id (shift packet 70)).length
    EchoFits (builtFrame (cookieEchoChunk id (shift packet 70)) none crc tag plen template) plen 70
      id.toNat packet size := by
  intro plen
  have total : plen.toNat = 50 + id.toNat := toNat_cookieEcho_plen id (shift packet 70)
  have chunk := slice_builtFrame (cookieEchoChunk id (shift packet 70)) none crc tag plen template
    (length_cookieEchoChunk id (shift packet 70))
  have ip := u16_builtFrame_len (cookieEchoChunk id (shift packet 70)) none crc tag plen template
  generalize builtFrame (cookieEchoChunk id (shift packet 70)) none crc tag plen template = frame
    at chunk ip
  rw [cookieEchoChunk, fldHdr] at chunk
  have fld : u16 frame 48 = htons (4 + id) := u16_of_slice chunk 2 _ (by omega) rfl
  constructor
  case copied =>
    rw [slice_of_slice chunk 4 id.toNat (slice (shift packet 70) 0 id.toNat) (by omega) (by simp),
      slice_shift]
  case total =>
    rw [total, maxPacketLen]
    omega
  case fld =>
    rw [chunkLen, fld, ntohs_htons, UInt16.toNat_add, show (4 : UInt16).toNat = 4 from rfl]
    omega
  case ip =>
    rw [ipLen, ip, ntohs_htons, UInt32.toNat_toUInt16, UInt32.toNat_sub, total,
      show (14 : UInt32).toNat = 14 from rfl]
    omega
  case pushed => rw [total]
  case inside =>
    intro i low
    omega

section Echo

variable (e : Endpoint) (buffer : Nat) (packet : Bytes) (size : Nat) (supplied : e.Supplied)
  (template : e.Template buffer 46) (accepted : 24 < chunkLen packet)

/-- The cookie is what the chunk has behind 24 bytes. -/
theorem toNat_initAckAssoc_id (accepted : 24 < chunkLen packet) :
    (initAckAssoc e.assoc (shift packet 50) (u16 packet 48)).id.toNat = chunkLen packet - 24 := by
  refine UInt16.toNat_sub_of_le _ _ (UInt16.le_iff_toNat_le.mpr ?_)
  show 24 ≤ chunkLen packet
  omega

include template

theorem touched_cookieEcho (assoc : SctpAssociation) :
    (Access.buildPrefilledMacIpSctpCookieEchoHdr assoc { e with assoc := assoc }).touched packet =
      [(70, assoc.id.toNat)] := by
  obtain ⟨ring, present, head⟩ := template
  have popped : ring.pop = (some (some buffer, 46), ring.pop.2) := by
    rw [← head, ← ring.pop_fst]
  unfold Access.buildPrefilledMacIpSctpCookieEchoHdr
  simp only [present, Option.map_some]
  rw [popped]
  rfl

include accepted

/-- What is echoed well is short, and has arrived. -/
theorem EchoesWell.few_arrived (well : EchoesWell e buffer packet size) :
    chunkLen packet ≤ 1490 ∧ 46 + chunkLen packet ≤ size := by
  obtain ⟨after, frame, plen, o, n, -, -, touched, fits⟩ := well
  have id := toNat_initAckAssoc_id e packet accepted
  rw [touched_cookieEcho e buffer packet template] at touched
  cases touched
  have total := fits.total
  rw [fits.pushed, id, maxPacketLen] at total
  -- the chunk is longer than its headers, so there is a last byte of the cookie
  have last := (fits.inside (chunkLen packet - 25) (by omega)).2.2
  omega

include supplied

/-- The COOKIE ECHO is built behind the template, with all of the cookie in it. -/
theorem sctpProcessSctpInitAck_echoes :
    ∃ after crc tag,
      let assoc := initAckAssoc e.assoc (shift packet 50) (u16 packet 48)
      let chunk := cookieEchoChunk assoc.id (shift packet 70)
      let plen := (46 : UInt64).toUInt32 + UInt32.ofNat chunk.length
      sctpProcessSctpInitAck e (shift packet 50) (u16 packet 48) = some (0, after) ∧
      Queued { e with assoc := assoc } buffer 46
        (builtFrame chunk none crc tag plen (e.frames buffer)) plen after := by
  let assoc := initAckAssoc e.assoc (shift packet 50) (u16 packet 48)
  obtain ⟨after, built, queued⟩ := buildPrefilled_template
    (cookieEchoChunk assoc.id (shift packet 70)) none
    (fun cmn => generateCrc32c cmn (12 + (ntohs (htons (4 + assoc.id))).toUInt32)) assoc
    (supplied.setAssoc assoc) (template.setAssoc assoc)
  refine ⟨after, _, _, ?_, queued⟩
  have long : ¬(ntohs (u16 packet 48)).toNat ≤ 24 := Nat.not_le.mpr accepted
  have pointer : assoc.retryRing = some (shift packet 70) := by
    show some (shift (shift packet 50) 20) = some (shift packet 70)
    rw [shift_shift]
  rw [sctpProcessSctpInitAck, if_neg long]
  dsimp only
  rw [buildPrefilledMacIpSctpCookieEchoHdr, pointer]
  dsimp only
  rw [built]

/-- An INIT ACK is echoed well exactly if its chunk leaves the frame room for the headers, and has
arrived as long as it says it is. -/
theorem echoesWell_iff :
    EchoesWell e buffer packet size ↔ chunkLen packet ≤ 1490 ∧ 46 + chunkLen packet ≤ size := by
  constructor
  · exact EchoesWell.few_arrived e buffer packet size template accepted
  · rintro ⟨few, arrived⟩
    have id := toNat_initAckAssoc_id e packet accepted
    obtain ⟨after, crc, tag, returned, queued⟩ :=
      sctpProcessSctpInitAck_echoes e buffer packet supplied template accepted
    refine ⟨after, _, _, 70, _, returned, queued, touched_cookieEcho e buffer packet template _, ?_⟩
    exact echoFits_built _ packet _ crc tag size (by omega) few arrived

end Echo

/-- An INIT ACK of this length, the rest of it 0. -/
def plainInitAck (len : UInt16) : Bytes := put (fun _ => 0) 46 (fldHdr sctpInitAck (htons len))

theorem chunkLen_plainInitAck (len : UInt16) : chunkLen (plainInitAck len) = len.toNat := by
  have field : u16 (plainInitAck len) 48 = htons len :=
    u16_of_slice (slice_put_self _ 46 (fldHdr sctpInitAck (htons len))) 2 _ (by simp [fldHdr]) rfl
  rw [chunkLen, field, ntohs_htons]

theorem echoesWell_iff_built_by_server :
    24 < chunkLen (plainInitAck 80) ∧ EchoesWell createdClient 0 (plainInitAck 80) 126 := by
  have length : chunkLen (plainInitAck 80) = 80 := chunkLen_plainInitAck 80
  have accepted : 24 < chunkLen (plainInitAck 80) := by omega
  have well := echoesWell_iff createdClient 0 (plainInitAck 80) 126 (Endpoint.fresh_supplied _)
    (Endpoint.fresh_template _) accepted
  exact ⟨accepted, well.mpr ⟨by omega, by omega⟩⟩

/-- An INIT ACK that has arrived in all of its 1537 bytes makes a COOKIE ECHO of 1517. -/
theorem long_cookie_overruns :
    24 < chunkLen (plainInitAck 1491) ∧ createdClient.Template 0 46 ∧
    (∃ after, sctpProcessSctpInitAck createdClient (shift (plainInitAck 1491) 50)
      (u16 (plainInitAck 1491) 48) = some (0, after)) ∧
    ¬EchoesWell createdClient 0 (plainInitAck 1491) 1537 := by
  have length : chunkLen (plainInitAck 1491) = 1491 := chunkLen_plainInitAck 1491
  have accepted : 24 < chunkLen (plainInitAck 1491) := by omega
  obtain ⟨after, crc, tag, returned, -⟩ := sctpProcessSctpInitAck_echoes createdClient 0
    (plainInitAck 1491) (Endpoint.fresh_supplied _) (Endpoint.fresh_template _) accepted
  refine ⟨accepted, Endpoint.fresh_template _, ⟨after, returned⟩, ?_⟩
  intro well
  have few := (well.few_arrived createdClient 0 (plainInitAck 1491) 1537 (Endpoint.fresh_template _)
    accepted).1
  omega

end Kpnet.Sctp
