import Kpnet.Sctp.Crc
import Kpnet.Sctp.StaleCookies

/-!
# Headers put together in place

`build_sctp_hdr_raw.c`, which writes a header where `tp_layer.sctp` points to, against `if_sctp.c`,
which takes one out of a packet. The builder draws a tag for an INIT and an INIT ACK and puts the
tag of the peer into what it answers.
-/
namespace Kpnet.Sctp

open Bytes

/-- `SCTP_HDR_TYPE_T`. -/
inductive SctpHdrType where
  | data
  | init
  | initAck
  | sack
  | heartbeat
  | heartbeatAck
  | abort
  | shutdown
  | shutdownAck
  | error
  | cookieEcho
  | cookieAck
  | shutdownComplete
  deriving DecidableEq, Repr

def SctpHdrType.code : SctpHdrType → UInt8
  | .data => 0
  | .init => sctpInit
  | .initAck => sctpInitAck
  | .sack => 3
  | .heartbeat => 4
  | .heartbeatAck => 5
  | .abort => 6
  | .shutdown => 7
  | .shutdownAck => 8
  | .error => 9
  | .cookieEcho => sctpCookieEcho
  | .cookieAck => sctpCookieAck
  | .shutdownComplete => 14

/-- What the builder uses of `connection_args_t`, beside what `if_sctp` does, with the memory behind
`tp_layer.sctp`. -/
structure RawConnection where
  conn : Connection
  selfOs : UInt16
  selfMis : UInt16
  srcTsn : UInt32
  sctp : Bytes

/-- The arguments of `build_sctp_hdr_raw` that it uses, and what `get_random_u32` returns. -/
structure HdrArgs where
  srcp : UInt16
  dstp : UInt16
  os : UInt16
  mis : UInt16
  aRwnd : UInt32
  tsn : UInt32
  tag : UInt32

/-- `cmn.tag` and `fld`. -/
def putFld (sctp : Bytes) (tag : UInt32) (type : SctpHdrType) (len : UInt16) : Bytes :=
  put (put sctp 4 (le32 tag)) 12 ([type.code, 0] ++ le16 (htons len))

/-- `type.init`, which has the layout of `type.init_ack`. -/
def putInitHdr (sctp : Bytes) (h : HdrArgs) : Bytes :=
  put sctp 16 (le32 h.tag ++ le32 (htonl h.aRwnd) ++ le16 (htons h.os) ++ le16 (htons h.mis) ++
    le32 h.tsn)

def putCheck (sctp : Bytes) : Bytes :=
  put sctp 8 (le32 (generateCrc32c sctp (12 + (ntohs (u16 sctp 14)).toUInt32)))

/-- What an INIT and an INIT ACK leave in the record. -/
def RawConnection.offer (r : RawConnection) (h : HdrArgs) : RawConnection :=
  { r with
    conn := { r.conn with args := { r.conn.args with dstVerTag := h.tag } }
    selfOs := htons h.os
    selfMis := htons h.mis
    srcTsn := h.tsn }

/-- `build_sctp_hdr_raw`. -/
def buildSctpHdrRaw (type : SctpHdrType) (h : HdrArgs) (r : RawConnection) : Bool × RawConnection :=
  let sctp := put (put r.sctp 8 (le32 0)) 0 (le16 (htons h.srcp) ++ le16 (htons h.dstp))
  match type with
  | .init => (true, { r.offer h with sctp := putCheck (putInitHdr (putFld sctp 0 type 20) h) })
  | .initAck =>
    let sctp := putInitHdr (putFld sctp r.conn.args.srcVerTag type (20 + 8)) h
    (true, { r.offer h with sctp := putCheck sctp })
  | .cookieEcho =>
    let sctp := putFld sctp r.conn.args.srcVerTag type 8
    (true, { r with sctp := putCheck (put sctp 16 (le32 r.conn.args.hmac.toUInt32)) })
  | .cookieAck => (true, { r with sctp := putCheck (putFld sctp r.conn.args.srcVerTag type 4) })
  -- without an error in the list nothing is reported, and with one it is not put into the header
  | .error => (decide (r.conn.args.errors ≠ 0), { r with sctp := sctp })
  | _ => (true, { r with sctp := sctp })

/-- The length of the chunk, for the four types that have one. -/
def SctpHdrType.len : SctpHdrType → UInt16
  | .init => 20
  | .initAck => 28
  | .cookieEcho => 8
  | _ => 4

/-- The four types of the handshake. -/
def SctpHdrType.Handshakes (type : SctpHdrType) : Prop :=
  type = .init ∨ type = .initAck ∨ type = .cookieEcho ∨ type = .cookieAck

/-- The tag a header carries. -/
def SctpHdrType.carries (type : SctpHdrType) (r : RawConnection) : UInt32 :=
  if type = .init then 0 else r.conn.args.srcVerTag

/-- What follows the first 16 bytes of it. -/
def SctpHdrType.payload (type : SctpHdrType) (h : HdrArgs) (r : RawConnection) : List UInt8 :=
  match type with
  | .init | .initAck => le32 h.tag ++ le32 (htonl h.aRwnd) ++ le16 (htons h.os) ++
      le16 (htons h.mis) ++ le32 h.tsn
  | .cookieEcho => le32 r.conn.args.hmac.toUInt32
  | _ => []

/-- The number of bytes that are sent of it. -/
def SctpHdrType.total (type : SctpHdrType) : Nat := 12 + type.len.toNat

/-- A header with the CRC of the bytes its length covers, and what follows it. -/
structure HdrHolds (sctp : Bytes) (h : HdrArgs) (tag : UInt32) (type : SctpHdrType)
    (payload : List UInt8) : Prop where
  source : u16 sctp 0 = htons h.srcp
  destination : u16 sctp 2 = htons h.dstp
  tag : u32 sctp 4 = tag
  code : sctp 12 = type.code
  len : u16 sctp 14 = htons type.len
  intact : u32 sctp 8 = generateCrc32c (put sctp 8 (le32 0)) (12 + type.len.toUInt32)
  payload : slice sctp 16 payload.length = payload

theorem SctpHdrType.toNat_len (type : SctpHdrType) :
    (12 + type.len.toUInt32).toNat = type.total := by
  cases type <;> rfl

theorem SctpHdrType.total_bounds (type : SctpHdrType) (h : HdrArgs) (r : RawConnection) :
    16 + (type.payload h r).length ≤ type.total ∧ type.total ≤ 40 := by
  cases type
  all_goals exact ⟨by simp [payload, total, len], by decide⟩

section Fields

variable {s : Bytes} {h : HdrArgs} {type : SctpHdrType} {tag : UInt32} {payload : List UInt8}

/-- The checksum is computed over a header in which it is 0. -/
theorem HdrHolds.putCheck (source : u16 s 0 = htons h.srcp) (destination : u16 s 2 = htons h.dstp)
    (carried : u32 s 4 = tag) (cleared : u32 s 8 = 0) (code : s 12 = type.code)
    (len : u16 s 14 = htons type.len) (behind : slice s 16 payload.length = payload) :
    HdrHolds (putCheck s) h tag type payload := by
  unfold Sctp.putCheck
  rw [len, ntohs_htons]
  constructor
  case source =>
    rw [u16_put_of_disjoint s 8 0 _ (by simp), source]
  case destination =>
    rw [u16_put_of_disjoint s 8 2 _ (by simp), destination]
  case tag =>
    rw [u32_put_of_disjoint s 8 4 _ (by simp), carried]
  case code =>
    rw [put_after s 8 12 _ (by simp), code]
  case len =>
    rw [u16_put_of_disjoint s 8 14 _ (by simp), len]
  case intact =>
    have zero : put s 8 (le32 0) = s := (put_le32_eq_iff s 8 0).mpr cleared
    rw [u32_put_self, put_put s 8 (by simp), zero]
  case payload =>
    rw [slice_put_of_disjoint s 8 16 _ _ (by simp), behind]

theorem putFld_fields (s : Bytes) (tag : UInt32) (type : SctpHdrType) (len : UInt16) :
    u32 (putFld s tag type len) 4 = tag ∧ putFld s tag type len 12 = type.code ∧
      u16 (putFld s tag type len) 14 = htons len := by
  have placed : slice (putFld s tag type len) 12 4 = [type.code, 0] ++ le16 (htons len) :=
    slice_put_self _ 12 ([type.code, 0] ++ le16 (htons len))
  refine ⟨?_, head_of_slice placed, u16_of_slice placed 2 _ (by simp) rfl⟩
  rw [putFld, u32_put_of_disjoint _ 12 4 _ (by simp), u32_put_self]

/-- The ports and the checksum are in front of these fields, or between them. -/
theorem putFld_of_disjoint (s : Bytes) (tag : UInt32) (type : SctpHdrType) (len : UInt16) :
    u16 (putFld s tag type len) 0 = u16 s 0 ∧ u16 (putFld s tag type len) 2 = u16 s 2 ∧
      u32 (putFld s tag type len) 8 = u32 s 8 := by
  unfold putFld
  refine ⟨?_, ?_, ?_⟩
  · rw [u16_put_of_disjoint _ 12 0 _ (by simp), u16_put_of_disjoint s 4 0 _ (by simp)]
  · rw [u16_put_of_disjoint _ 12 2 _ (by simp), u16_put_of_disjoint s 4 2 _ (by simp)]
  · rw [u32_put_of_disjoint _ 12 8 _ (by simp), u32_put_of_disjoint s 4 8 _ (by simp)]

theorem built_holds (sctp : Bytes) (h : HdrArgs) (tag : UInt32) (type : SctpHdrType)
    (payload : List UInt8) :
    HdrHolds (putCheck (put (putFld (put (put sctp 8 (le32 0)) 0
      (le16 (htons h.srcp) ++ le16 (htons h.dstp))) tag type type.len) 16 payload)) h tag type
      payload := by
  have ports : slice (put (put sctp 8 (le32 0)) 0
      (le16 (htons h.srcp) ++ le16 (htons h.dstp))) 0 4 =
        le16 (htons h.srcp) ++ le16 (htons h.dstp) :=
    slice_put_self _ 0 (le16 (htons h.srcp) ++ le16 (htons h.dstp))
  obtain ⟨carried, code, len⟩ := putFld_fields
    (put (put sctp 8 (le32 0)) 0 (le16 (htons h.srcp) ++ le16 (htons h.dstp))) tag type type.len
  obtain ⟨first, second, check⟩ := putFld_of_disjoint
    (put (put sctp 8 (le32 0)) 0 (le16 (htons h.srcp) ++ le16 (htons h.dstp))) tag type type.len
  apply HdrHolds.putCheck
  case source =>
    rw [u16_put_of_disjoint _ 16 0 payload (by omega), first]
    exact u16_of_slice ports 0 _ (by simp) rfl
  case destination =>
    rw [u16_put_of_disjoint _ 16 2 payload (by omega), second]
    exact u16_of_slice ports 2 _ (by simp) rfl
  case carried =>
    rw [u32_put_of_disjoint _ 16 4 payload (by omega), carried]
  case cleared =>
    rw [u32_put_of_disjoint _ 16 8 payload (by omega), check, u32_put_of_disjoint _ 0 8 _ (by simp),
      u32_put_self]
  case code =>
    rw [put_before _ 16 12 payload (by omega), code]
  case len =>
    rw [u16_put_of_disjoint _ 16 14 payload (by omega), len]
  case behind => exact slice_put_self _ 16 payload

/-- What is read of a header is the same in any memory that begins with it. -/
theorem HdrHolds.of_slice {packet : Bytes} (holds : HdrHolds s h tag type payload)
    (long : 16 + payload.length ≤ type.total)
    (carried : slice packet 0 type.total = slice s 0 type.total) :
    HdrHolds packet h tag type payload := by
  have same (i : Nat) (inside : i < type.total) : packet i = s i := by
    have found := eq_of_slice_eq carried i inside
    simpa using found
  have half (o : Nat) (inside : o + 2 ≤ 16) : u16 packet o = u16 s o :=
    u16_congr fun i bound => same (o + i) (by omega)
  have word (o : Nat) (inside : o + 4 ≤ 16) : u32 packet o = u32 s o :=
    u32_congr fun i bound => same (o + i) (by omega)
  have cleared : slice (put packet 8 (le32 0)) 0 type.total =
      slice (put s 8 (le32 0)) 0 type.total := by
    apply slice_congr
    intro i inside
    simp only [put, same (0 + i) (by omega)]
  constructor
  case source => exact (half 0 (by omega)).trans holds.source
  case destination => exact (half 2 (by omega)).trans holds.destination
  case tag => exact (word 4 (by omega)).trans holds.tag
  case code => exact (same 12 (by omega)).trans holds.code
  case len => exact (half 14 (by omega)).trans holds.len
  case intact =>
    rw [word 8 (by omega), holds.intact, generateCrc32c_eq, generateCrc32c_eq, type.toNat_len,
      cleared]
  case payload =>
    rw [slice_congr fun i inside => same (16 + i) (by omega), holds.payload]

end Fields

/-- The four types of the handshake are built as one, up to what they carry. -/
theorem buildSctpHdrRaw_holds {type : SctpHdrType} (handshakes : type.Handshakes) (h : HdrArgs)
    (r : RawConnection) :
    HdrHolds (buildSctpHdrRaw type h r).2.sctp h (type.carries r) type (type.payload h r) := by
  have holds := built_holds r.sctp h (type.carries r) type (type.payload h r)
  obtain rfl | rfl | rfl | rfl := handshakes
  · exact holds
  · exact holds
  · exact holds
  · have nothing : SctpHdrType.cookieAck.payload h r = [] := rfl
    rw [nothing, put_nil] at holds
    exact holds

/-- The ports of a header, as they are compared with those of a connection. -/
def Ported (h : HdrArgs) (args : ConnectionArgs) : Prop :=
  (htons h.srcp).toUInt32 = args.dstport ∧ (htons h.dstp).toUInt32 = args.srcport

/-- What a connection waits for, if it is sent by `r`. A stale cookie is taken as well, but only as
the first error, and if there is memory for it. -/
def Expects (malloc : UInt64) (type : SctpHdrType) (r : RawConnection) (c : Connection) : Prop :=
  match type with
  | .init => c.args.status = .listen
  | .initAck => r.conn.args.srcVerTag = c.args.dstVerTag
  | .cookieEcho => c.args.status = .initAckSent ∧ r.conn.args.srcVerTag = c.args.dstVerTag ∧
      (r.conn.args.hmac.toUInt32.toUInt64 = c.args.hmac ∨ c.args.errors = 0 ∧ malloc ≠ 0)
  | _ => True

/-- What becomes of the connection. Of an INIT the two stream counts are left in host order, and of
an INIT ACK in network order; the first TSN of the peer is its tag in both. -/
def afterHdr (malloc : UInt64) (type : SctpHdrType) (h : HdrArgs) (r : RawConnection)
    (c : Connection) : Connection :=
  match type with
  | .init =>
    { c with args := { c.args with
        status := .initReceived
        dstport := (htons h.srcp).toUInt32
        dstTsn := h.tag
        srcVerTag := h.tag
        destARwnd := htonl h.aRwnd
        destOs := h.os
        destMis := h.mis
        payload := put c.args.payload 0 (slice c.args.ipv4 12 4 ++ slice c.args.ipv4 16 4 ++
          le32 c.args.dstVerTag ++ le64 c.args.hmac) } }
  | .initAck =>
    { c with args := { c.args with
        dstTsn := h.tag
        srcVerTag := h.tag
        destARwnd := htonl h.aRwnd
        destOs := htons h.os
        destMis := htons h.mis } }
  | .cookieEcho =>
    if r.conn.args.hmac.toUInt32.toUInt64 = c.args.hmac then c
    else ⟨{ c.args with errors := malloc }, Function.update c.heap malloc ⟨staleCookieError, 0⟩⟩
  | _ => c

section Taken

variable {packet : Bytes} {h : HdrArgs} {type : SctpHdrType} {tag : UInt32} {payload : List UInt8}
  {size : UInt64} {c : Connection}

/-- Clearing the checksum changes nothing else of a header. -/
theorem HdrHolds.cleared (holds : HdrHolds packet h tag type payload) :
    put packet 8 (le32 0) 12 = type.code ∧ u32 (put packet 8 (le32 0)) 4 = tag ∧
      slice (put packet 8 (le32 0)) 16 payload.length = payload := by
  refine ⟨?_, ?_, ?_⟩
  · rw [put_after packet 8 12 _ (by simp), holds.code]
  · rw [u32_put_of_disjoint packet 8 4 _ (by simp), holds.tag]
  · rw [slice_put_of_disjoint packet 8 16 _ _ (by simp), holds.payload]

/-- A header for another connection is not looked at any further. -/
theorem HdrHolds.misaddressed (holds : HdrHolds packet h tag type payload)
    (foreign : ¬Ported h c.args) (fuel : Nat) (malloc : UInt64) :
    ifSctp fuel malloc packet size c = .ok (false, packet, c) := by
  have ports : (u16 packet 0).toUInt32 ≠ c.args.dstport ∨
      (u16 packet 2).toUInt32 ≠ c.args.srcport := by
    rw [holds.source, holds.destination]
    exact not_and_or.mp foreign
  unfold ifSctp
  split
  · rfl
  · rfl

/-- A header for the connection gets to the `switch`. -/
theorem HdrHolds.addressed (holds : HdrHolds packet h tag type payload) (long : 16 ≤ size)
    (ported : Ported h c.args) (fuel : Nat) (malloc : UInt64) :
    ifSctp fuel malloc packet size c =
      let packet := put packet 8 (le32 0)
      if type.code = sctpInit then
        if c.args.status = .listen then
          .ok (true, packet, { c with args := takeInit packet c.args })
        else .ok (false, packet, c)
      else if type.code = sctpInitAck then
        if tag ≠ c.args.dstVerTag then .ok (false, packet, c)
        else .ok (true, packet, { c with args := takeInitAck packet c.args })
      else if type.code = sctpCookieEcho then
        if c.args.status = .initAckSent then
          if tag ≠ c.args.dstVerTag then .ok (false, packet, c)
          else if (u32 packet 16).toUInt64 ≠ c.args.hmac then do
            let c ← addError fuel malloc c
            .ok (true, packet, c)
          else .ok (true, packet, c)
        else .ok (false, packet, c)
      else .ok (type.code = sctpCookieAck, packet, c) := by
  have ports : ¬((u16 packet 0).toUInt32 ≠ c.args.dstport ∨
      (u16 packet 2).toUInt32 ≠ c.args.srcport) := by
    rw [holds.source, holds.destination, not_or, not_not, not_not]
    exact ported
  have intact : ¬u32 packet 8 ≠
      generateCrc32c (put packet 8 (le32 0)) (12 + (htons (u16 packet 14)).toUInt32) := by
    rw [not_not, holds.len, show htons (htons type.len) = type.len from ntohs_htons _]
    exact holds.intact
  obtain ⟨code, carried, -⟩ := holds.cleared
  unfold ifSctp
  simp only [if_neg (UInt64.not_lt.mpr long), if_neg ports, if_neg intact, code, carried]

/-- The fields of an INIT or INIT ACK. -/
theorem initPayload_fields {m : Bytes} (h : HdrArgs)
    (found : slice m 16 16 = le32 h.tag ++ le32 (htonl h.aRwnd) ++ le16 (htons h.os) ++
      le16 (htons h.mis) ++ le32 h.tsn) :
    u32 m 16 = h.tag ∧ u32 m 20 = htonl h.aRwnd ∧ u16 m 24 = htons h.os ∧ u16 m 26 = htons h.mis :=
  ⟨u32_of_slice found 0 _ (by simp) rfl, u32_of_slice found 4 _ (by simp) rfl,
    u16_of_slice found 8 _ (by simp) rfl, u16_of_slice found 10 _ (by simp) rfl⟩

/-- An error is added to an empty list only, and if there is memory for it. -/
theorem addError_spec (fuel : Nat) (malloc : UInt64) (c : Connection) :
    (c.args.errors = 0 ∧ malloc ≠ 0 → addError fuel malloc c =
      .ok ⟨{ c.args with errors := malloc },
        Function.update c.heap malloc ⟨staleCookieError, 0⟩⟩) ∧
    (¬(c.args.errors = 0 ∧ malloc ≠ 0) → ∀ after, addError fuel malloc c ≠ .ok after) := by
  constructor
  · rintro ⟨empty, allocated⟩
    exact addError_of_nil empty fuel allocated
  · intro unfit after added
    by_cases empty : c.args.errors = 0
    · have null : malloc = 0 := by
        by_contra allocated
        exact unfit ⟨empty, allocated⟩
      rw [addError, if_pos empty, null] at added
      cases added
    · -- the loop has left the list when it stops
      rw [addError, if_neg empty] at added
      cases searched : searchTail c.heap fuel c.args.errors with
      | error stuck =>
        rw [searched] at added
        cases added
      | ok found =>
        rw [searched, searchTail_eq_ok searched] at added
        cases added

/-- A header that is put together in place and received, by any two connections: it is taken exactly
if the ports are those of the connection and it is what the connection waits for, and what is taken
is what was put into it. -/
theorem built_header_received {type : SctpHdrType} (handshakes : type.Handshakes) (h : HdrArgs)
    (r : RawConnection) (c : Connection) (packet : Bytes) (size : UInt64) (long : 16 ≤ size)
    (sent : slice packet 0 type.total = slice (buildSctpHdrRaw type h r).2.sctp 0 type.total)
    (fuel : Nat) (malloc : UInt64) :
    (Ported h c.args ∧ Expects malloc type r c →
      ifSctp fuel malloc packet size c =
        .ok (true, put packet 8 (le32 0), afterHdr malloc type h r c)) ∧
    (¬(Ported h c.args ∧ Expects malloc type r c) →
      ∀ packet' after, ifSctp fuel malloc packet size c ≠ .ok (true, packet', after)) := by
  have holds := (buildSctpHdrRaw_holds handshakes h r).of_slice (type.total_bounds h r).1 sent
  by_cases ported : Ported h c.args
  case neg =>
    constructor
    · rintro ⟨ported', -⟩
      exact absurd ported' ported
    · intro _ packet' after
      rw [holds.misaddressed ported]
      nofun
  have taken := holds.addressed long ported fuel malloc
  obtain ⟨-, -, behind⟩ := holds.cleared
  simp only [ported, true_and, taken]
  obtain rfl | rfl | rfl | rfl := handshakes
  case inl =>
    obtain ⟨tag, window, os, mis⟩ := initPayload_fields h behind
    have ports : u16 (put packet 8 (le32 0)) 0 = htons h.srcp := by
      rw [u16_put_of_disjoint packet 8 0 _ (by simp), holds.source]
    simp only [SctpHdrType.code, if_true]
    constructor
    · intro expected
      have listens : c.args.status = .listen := expected
      rw [if_pos listens, takeInit, tag, window, os, mis, ports, ntohs_htons, ntohs_htons]
      rfl
    · intro unexpected packet' after
      have busy : ¬c.args.status = .listen := unexpected
      rw [if_neg busy]
      nofun
  case inr.inl =>
    obtain ⟨tag, window, os, mis⟩ := initPayload_fields h behind
    have carried : SctpHdrType.initAck.carries r = r.conn.args.srcVerTag := rfl
    simp only [SctpHdrType.code, if_neg (show ¬sctpInitAck = sctpInit by decide), if_true, carried]
    constructor
    · intro expected
      have answers : r.conn.args.srcVerTag = c.args.dstVerTag := expected
      rw [if_neg (not_not.mpr answers), takeInitAck, tag, window, os, mis]
      rfl
    · intro unexpected packet' after
      have other : r.conn.args.srcVerTag ≠ c.args.dstVerTag := unexpected
      rw [if_pos other]
      nofun
  case inr.inr.inl =>
    have word : slice (put packet 8 (le32 0)) 16 4 = le32 r.conn.args.hmac.toUInt32 := behind
    have cookie : u32 (put packet 8 (le32 0)) 16 = r.conn.args.hmac.toUInt32 :=
      u32_of_slice word 0 _ (by simp) (List.take_of_length_le (by simp))
    have carried : SctpHdrType.cookieEcho.carries r = r.conn.args.srcVerTag := rfl
    obtain ⟨added, crashed⟩ := addError_spec fuel malloc c
    simp only [SctpHdrType.code, if_neg (show ¬sctpCookieEcho = sctpInit by decide),
      if_neg (show ¬sctpCookieEcho = sctpInitAck by decide), if_true, cookie, carried]
    constructor
    · rintro ⟨waits, answers, accepted⟩
      rw [if_pos waits, if_neg (not_not.mpr answers)]
      by_cases fresh : r.conn.args.hmac.toUInt32.toUInt64 = c.args.hmac
      · rw [if_neg (not_not.mpr fresh), afterHdr, if_pos fresh]
      · rw [if_pos fresh, added (accepted.resolve_left fresh), afterHdr, if_neg fresh]
        rfl
    · intro unexpected packet' after
      split
      next waits =>
        split
        · nofun
        next answers =>
          split
          next stale =>
            -- there is an error before it, or no memory
            have unfit : ¬(c.args.errors = 0 ∧ malloc ≠ 0) := fun fit =>
              unexpected ⟨waits, not_not.mp answers, .inr fit⟩
            cases result : addError fuel malloc c with
            | error stuck => nofun
            | ok after' => exact absurd result (crashed unfit after')
          next fresh =>
            exact absurd ⟨waits, not_not.mp answers, .inl (not_not.mp fresh)⟩ unexpected
      · nofun
  case inr.inr.inr =>
    constructor
    · intro _
      rfl
    · intro unexpected
      exact absurd trivial unexpected

end Taken

/-- A connection that listens on port 2, for one from port 1. -/
def listening : Connection :=
  { awaiting with args := { awaiting.args with
      srcport := 0x0200
      dstport := 0x0100
      status := .listen } }

/-- An INIT from port 1 to port 2. -/
def firstArgs : HdrArgs := ⟨1, 2, 10, 11, 65536, 100, 0x01020304⟩

def client : RawConnection :=
  { conn := ⟨{ awaiting.args with status := .cookieWait }, awaiting.heap⟩
    selfOs := 0
    selfMis := 0
    srcTsn := 0
    sctp := fun _ => 0 }

theorem built_header_received_init :
    ∃ after, ifSctp 0 0 (buildSctpHdrRaw .init firstArgs client).2.sctp 32 listening =
        .ok (true, put (buildSctpHdrRaw .init firstArgs client).2.sctp 8 (le32 0), after) ∧
      after.args.srcVerTag = 0x01020304 := by
  have sure := (built_header_received (.inl rfl) firstArgs client listening
    (buildSctpHdrRaw .init firstArgs client).2.sctp 32 (by decide) rfl 0 0).1
  have ported : Ported firstArgs listening.args := by
    constructor
    · decide
    · decide
  exact ⟨_, sure ⟨ported, rfl⟩, rfl⟩

end Kpnet.Sctp
