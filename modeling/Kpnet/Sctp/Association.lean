import Kpnet.Lib.Bytes
import Kpnet.Ring.Queue

/-!
# Associations

The data the SCTP code works on, from `sctp.h` and `if_packet.h`: the association, its
configuration, the headers on the wire, and the memory an association reaches through its
pointers. A frame is laid out as MAC header (14 bytes), IPv4 header (20), SCTP common
header (12) and chunk, so in a frame `ip->len` is at 16, `ip->check` at 24, `ip->src_addr`
at 26, `ip->dest_addr` at 30, `cmn.srcp` at 34, `cmn.dstp` at 36, `cmn.tag` at 38,
`cmn.check` at 42, `fld.type` at 46, `fld.len` at 48 and what follows the chunk header at 50.
All headers are packed.
-/
namespace Kpnet.Sctp

open Bytes
open Kpnet.Ring (RingQueue)

/-- `SCTP_STATUS_T`. -/
inductive SctpStatus where
  | listen
  | cookieWait
  | initSent
  | initReceived
  | initAckSent
  | initAckReceived
  | cookieReceived
  | cookieEchoSent
  | cookieEchoReceived
  | established
  deriving DecidableEq, Repr

/-- The members of `SCTP_HDR_TYPE_T` that take part in the handshake. -/
def sctpInit : UInt8 := 1

def sctpInitAck : UInt8 := 2

def sctpCookieEcho : UInt8 := 10

def sctpCookieAck : UInt8 := 11

/-- `htons` and `ntohs` on a little-endian host. -/
def htons (v : UInt16) : UInt16 := (v <<< 8) ||| (v >>> 8)

def ntohs (v : UInt16) : UInt16 := htons v

/-- `htons` byte by byte. -/
theorem toNat_htons (v : UInt16) : (htons v).toNat = v.toNat % 256 * 256 + v.toNat / 256 := by
  have bound := v.toNat_lt
  have first : (v <<< 8).toNat = 2 ^ 8 * (v.toNat % 256) := by
    rw [UInt16.toNat_shiftLeft, show ((8 : UInt16).toNat % 16) = 8 from rfl, Nat.shiftLeft_eq]
    omega
  have second : (v >>> 8).toNat = v.toNat / 256 := by
    rw [UInt16.toNat_shiftRight, show ((8 : UInt16).toNat % 16) = 8 from rfl,
      Nat.shiftRight_eq_div_pow]
  rw [htons, UInt16.toNat_or, first, second,
    ← Nat.two_pow_add_eq_or_of_lt (show v.toNat / 256 < 2 ^ 8 by omega)]
  omega

theorem ntohs_htons (v : UInt16) : ntohs (htons v) = v := by
  have bound := v.toNat_lt
  apply UInt16.toNat_inj.mp
  rw [ntohs, toNat_htons, toNat_htons]
  omega

/-- `htonl`. -/
def htonl (v : UInt32) : UInt32 :=
  let low : UInt32 := 0xFF00
  (v <<< 24) ||| ((v &&& low) <<< 8) ||| ((v >>> 8) &&& low) ||| (v >>> 24)

def ntohl (v : UInt32) : UInt32 := htonl v

/-- The second byte of a number, in its place. -/
theorem and_second_byte (n : Nat) : n &&& 0xFF00 = n / 2 ^ 8 % 256 * 2 ^ 8 := by
  have low : (n &&& 0xFF00) % 2 ^ 8 = 0 := by
    rw [Nat.and_mod_two_pow]
    exact Nat.and_zero _
  have high : (n &&& 0xFF00) / 2 ^ 8 = n / 2 ^ 8 % 256 := by
    rw [← Nat.shiftRight_eq_div_pow, Nat.shiftRight_and_distrib, Nat.shiftRight_eq_div_pow]
    exact Nat.and_two_pow_sub_one_eq_mod (n / 2 ^ 8) 8
  omega

/-- Bytes in different places are added up by `|`. -/
theorem or_bytes {b c d : Nat} (a : Nat) (second : b < 256) (third : c < 256) (fourth : d < 256) :
    2 ^ 24 * a ||| 2 ^ 16 * b ||| 2 ^ 8 * c ||| d =
      2 ^ 24 * a + (2 ^ 16 * b + (2 ^ 8 * c + d)) := by
  have low : 2 ^ 8 * c ||| d = 2 ^ 8 * c + d := (Nat.two_pow_add_eq_or_of_lt fourth c).symm
  have mid : 2 ^ 16 * b ||| (2 ^ 8 * c + d) = 2 ^ 16 * b + (2 ^ 8 * c + d) :=
    (Nat.two_pow_add_eq_or_of_lt (by omega) b).symm
  have high : 2 ^ 24 * a ||| (2 ^ 16 * b + (2 ^ 8 * c + d)) =
      2 ^ 24 * a + (2 ^ 16 * b + (2 ^ 8 * c + d)) :=
    (Nat.two_pow_add_eq_or_of_lt (by omega) a).symm
  rw [Nat.or_assoc, Nat.or_assoc, low, mid, high]

/-- `htonl` byte by byte. -/
theorem toNat_htonl (v : UInt32) :
    (htonl v).toNat = v.toNat % 256 * 2 ^ 24 + v.toNat / 2 ^ 8 % 256 * 2 ^ 16 +
      v.toNat / 2 ^ 16 % 256 * 2 ^ 8 + v.toNat / 2 ^ 24 := by
  have bound := v.toNat_lt
  have first : (v <<< 24).toNat = 2 ^ 24 * (v.toNat % 256) := by
    rw [UInt32.toNat_shiftLeft, show ((24 : UInt32).toNat % 32) = 24 from rfl, Nat.shiftLeft_eq]
    omega
  have second : ((v &&& (0xFF00 : UInt32)) <<< 8).toNat = 2 ^ 16 * (v.toNat / 2 ^ 8 % 256) := by
    rw [UInt32.toNat_shiftLeft, show ((8 : UInt32).toNat % 32) = 8 from rfl, Nat.shiftLeft_eq,
      UInt32.toNat_and, show (0xFF00 : UInt32).toNat = 0xFF00 from rfl, and_second_byte]
    omega
  have third : ((v >>> 8) &&& (0xFF00 : UInt32)).toNat = 2 ^ 8 * (v.toNat / 2 ^ 16 % 256) := by
    rw [UInt32.toNat_and, UInt32.toNat_shiftRight, show ((8 : UInt32).toNat % 32) = 8 from rfl,
      show (0xFF00 : UInt32).toNat = 0xFF00 from rfl, and_second_byte, Nat.shiftRight_eq_div_pow]
    omega
  have fourth : (v >>> 24).toNat = v.toNat / 2 ^ 24 := by
    rw [UInt32.toNat_shiftRight, show ((24 : UInt32).toNat % 32) = 24 from rfl,
      Nat.shiftRight_eq_div_pow]
  simp only [htonl, UInt32.toNat_or, first, second, third, fourth]
  rw [or_bytes _ (by omega) (by omega) (by omega)]
  omega

/-- `sctp_ulp_config_t`; the retransmission limits are read by nothing here. -/
structure SctpUlpConfig where
  srcIp : UInt32
  dstIp : UInt32
  srcPort : UInt32
  dstPort : UInt32
  srcArwnd : UInt32
  srcOs : UInt16
  srcMis : UInt16
  deriving DecidableEq, Repr

/-- `if_ip_sctp_meta_t`, as far as `sctp_assoc_create` fills it. -/
structure IfIpSctpMeta where
  state : SctpStatus
  srcIp : UInt32
  dstIp : UInt32
  srcPort : UInt32
  dstPort : UInt32
  srcArwnd : UInt32
  srcOs : UInt16
  srcMis : UInt16
  dev : Vector UInt8 6
  gateway : Vector UInt8 6
  deriving DecidableEq, Repr

/-- `frame_data_t`; `none` is a `NULL` state. -/
structure FrameData where
  plen : UInt16
  state : Option IfIpSctpMeta
  deriving DecidableEq, Repr

/-- `sctp_thread_t`, less the pointers to user data. -/
structure SctpThread where
  id : UInt16
  posLow : UInt32
  posCurrent : UInt32
  posHigh : UInt32
  numMisses : UInt16
  ssn : UInt16
  sin : UInt16
  proto : UInt32
  flags : UInt8
  bufferRemain : UInt32
  active : Bool
  deriving DecidableEq, Repr

/-- `memset (thread, 0, sizeof (sctp_thread_t))`. -/
def SctpThread.zero : SctpThread :=
  { id := 0, posLow := 0, posCurrent := 0, posHigh := 0, numMisses := 0, ssn := 0, sin := 0,
    proto := 0, flags := 0, bufferRemain := 0, active := false }

/-- The part of `sctp_association_t` that the handshake and its set-up touch. A thread table
lists the blocks its entries point to with what they hold; `osThreads` points into the
table of `misThreads`. `retryRing` is used for nothing but the received cookie. -/
structure SctpAssociation where
  id : UInt16
  status : SctpStatus
  verTag : UInt32
  initTag : UInt32
  aRwnd : UInt32
  dstPort : UInt32
  dstIp : UInt32
  os : UInt16
  mis : UInt16
  tsn : UInt32
  dstTsn : UInt32
  umemHdrsCursor : UInt64
  srtt : UInt32
  rttvar : UInt32
  rto : UInt32
  mtu : UInt32
  osThreads : Option (List (Nat × SctpThread))
  misThreads : Option (List (Nat × SctpThread))
  retryRing : Option Bytes
  base : Option FrameData
  ulp : SctpUlpConfig
  remainPlen : UInt32
  prefilledUmemPacket : UInt64
  prefilledUmemPacketLen : UInt32
  xdpSegs : Nat → UInt64
  xdpSegLens : Nat → UInt32
  xdpSegCount : UInt32

/-- An association with the memory behind its pointers: the two rings (`none` is a `NULL`
ring) and the packet buffers, by the names the rings queue them under. -/
structure Endpoint where
  assoc : SctpAssociation
  txRing : Option (RingQueue Nat)
  prefilledRing : Option (RingQueue Nat)
  frames : Nat → Bytes

/-- What one call gets from its host: the two draws of `get_random_from_buffer_u32` that the
builders of INIT and INIT ACK make, the one of `get_random_u32` for the cookie, and the blocks
that `aligned_alloc` returns, call by call. -/
structure Host where
  initTag : UInt32
  initTsn : UInt32
  cookieTag : UInt32
  alloc : Nat → Option Nat

/-- `sctp_init_hdr_t` and `sctp_init_ack_hdr_t`, which have the same fields. -/
structure SctpInitHdr where
  initTag : UInt32
  aRwnd : UInt32
  os : UInt16
  mis : UInt16
  initTsn : UInt32
  deriving DecidableEq, Repr

def SctpInitHdr.encode (hdr : SctpInitHdr) : List UInt8 :=
  le32 hdr.initTag ++ le32 hdr.aRwnd ++ le16 hdr.os ++ le16 hdr.mis ++ le32 hdr.initTsn

/-- What an endpoint advertises of itself, in its INIT as in its INIT ACK. -/
def advertisedHdr (host : Host) (ulp : SctpUlpConfig) : SctpInitHdr :=
  { initTag := host.initTag
    aRwnd := htonl ulp.srcArwnd
    os := htons ulp.srcOs
    mis := htons ulp.srcMis
    initTsn := host.initTsn }

/-- The header found behind a pointer. -/
def SctpInitHdr.read (packet : Bytes) : SctpInitHdr :=
  { initTag := u32 packet 0
    aRwnd := u32 packet 4
    os := u16 packet 8
    mis := u16 packet 10
    initTsn := u32 packet 12 }

/-- `cookie_t`. -/
structure Cookie where
  verTag : UInt32
  initTag : UInt32
  aRwnd : UInt32
  os : UInt16
  mis : UInt16
  tsn : UInt32
  dstTsn : UInt32
  srcIp : UInt32
  dstIp : UInt32
  srcPort : UInt32
  dstPort : UInt32
  deriving DecidableEq, Repr

def Cookie.encode (cookie : Cookie) : List UInt8 :=
  le32 cookie.verTag ++ le32 cookie.initTag ++ le32 cookie.aRwnd ++ le16 cookie.os ++
    le16 cookie.mis ++ le32 cookie.tsn ++ le32 cookie.dstTsn ++ le32 cookie.srcIp ++
    le32 cookie.dstIp ++ le32 cookie.srcPort ++ le32 cookie.dstPort

/-- The cookie found behind a pointer. -/
def Cookie.read (packet : Bytes) : Cookie :=
  { verTag := u32 packet 0
    initTag := u32 packet 4
    aRwnd := u32 packet 8
    os := u16 packet 12
    mis := u16 packet 14
    tsn := u32 packet 16
    dstTsn := u32 packet 20
    srcIp := u32 packet 24
    dstIp := u32 packet 28
    srcPort := u32 packet 32
    dstPort := u32 packet 36 }

/-- `sctp_fld_hdr_t` with the flags all builders leave at 0. -/
def fldHdr (type : UInt8) (len : UInt16) : List UInt8 := [type, 0] ++ le16 len

/-- The next builder finds a cell to take and a ring to queue on. -/
def Endpoint.Supplied (e : Endpoint) : Prop :=
  (∃ tx, e.txRing = some tx) ∧ ∃ ring, e.prefilledRing = some ring ∧ ring.contents ≠ []

/-- The transmit ring takes another frame. -/
def Endpoint.HasRoom (e : Endpoint) : Prop :=
  ∃ tx, e.txRing = some tx ∧ tx.contents.length < tx.capacity

instance decidableHasRoom (e : Endpoint) : Decidable e.HasRoom :=
  inferInstanceAs (Decidable (∃ tx ∈ e.txRing, tx.contents.length < tx.capacity))

/-- The cell it takes holds this buffer and length. -/
def Endpoint.Template (e : Endpoint) (buffer : Nat) (plen : UInt64) : Prop :=
  ∃ ring, e.prefilledRing = some ring ∧ ring.contents.head? = some (some buffer, plen)

theorem Endpoint.Supplied.setAssoc {e : Endpoint} (supplied : e.Supplied)
    (assoc : SctpAssociation) : Endpoint.Supplied { e with assoc := assoc } :=
  ⟨supplied.1, supplied.2⟩

theorem Endpoint.Template.setAssoc {e : Endpoint} {buffer : Nat} {plen : UInt64}
    (template : e.Template buffer plen) (assoc : SctpAssociation) :
    Endpoint.Template { e with assoc := assoc } buffer plen := by
  obtain ⟨ring, present, head⟩ := template
  exact ⟨ring, present, head⟩

/-- The loop of `prepare_sctp_threads`. The `id` it assigns is cleared again by the `memset`
that follows. A failed allocation gives the whole table up. -/
def allocThreads (alloc : Nat → Option Nat) : Nat → Option (List (Nat × SctpThread))
  | 0 => some []
  | n + 1 =>
    match allocThreads alloc n with
    | none => none
    | some threads =>
      match alloc (n + 1) with
      | none => none
      | some block => some (threads ++ [(block, SctpThread.zero)])

/-- `prepare_sctp_threads`; `alloc 0` is the table. -/
def prepareSctpThreads (alloc : Nat → Option Nat) (assoc : SctpAssociation) :
    Int × SctpAssociation :=
  match alloc 0 with
  | none => (-1, assoc)
  | some _ =>
    match allocThreads alloc ((ntohs assoc.mis).toNat + (ntohs assoc.os).toNat) with
    | none => (-1, assoc)
    | some threads =>
      (0, { assoc with
        misThreads := some threads
        osThreads := some (threads.drop (ntohs assoc.mis).toNat) })

/-- Whatever the allocations give, only the two tables change. -/
theorem prepareSctpThreads_eq (alloc : Nat → Option Nat) (assoc : SctpAssociation) :
    ∃ os mis, (prepareSctpThreads alloc assoc).2 =
      { assoc with osThreads := os, misThreads := mis } := by
  unfold prepareSctpThreads
  split
  · exact ⟨assoc.osThreads, assoc.misThreads, rfl⟩
  · split
    · exact ⟨assoc.osThreads, assoc.misThreads, rfl⟩
    next threads _ => exact ⟨some (threads.drop (ntohs assoc.mis).toNat), some threads, rfl⟩

@[simp] theorem prepareSctpThreads_status (alloc : Nat → Option Nat) (assoc : SctpAssociation) :
    (prepareSctpThreads alloc assoc).2.status = assoc.status := by
  obtain ⟨os, mis, prepared⟩ := prepareSctpThreads_eq alloc assoc
  rw [prepared]

@[simp] theorem length_encode_initHdr (hdr : SctpInitHdr) : hdr.encode.length = 16 := rfl

@[simp] theorem length_encode_cookie (cookie : Cookie) : cookie.encode.length = 40 := by
  simp only [Cookie.encode, List.length_append, length_le16, length_le32]

/-- A header is read back from wherever its bytes are found. -/
theorem SctpInitHdr.read_encode (hdr : SctpInitHdr) (packet : Bytes) (o : Nat)
    (found : slice packet o 16 = hdr.encode) : SctpInitHdr.read (shift packet o) = hdr := by
  simp only [SctpInitHdr.encode, List.append_assoc] at found
  obtain ⟨initTag, found⟩ := u32_of_slice_append found
  obtain ⟨aRwnd, found⟩ := u32_of_slice_append found
  obtain ⟨os, found⟩ := u16_of_slice_append found
  obtain ⟨mis, found⟩ := u16_of_slice_append found
  have initTsn := u32_of_slice found 0 hdr.initTsn (by decide) rfl
  simp only [Nat.add_assoc, Nat.reduceAdd] at os mis initTsn
  simp only [SctpInitHdr.read, u16_shift, u32_shift, Nat.add_zero]
  rw [initTag, aRwnd, os, mis, initTsn]

theorem Cookie.read_encode (cookie : Cookie) (packet : Bytes) (o : Nat)
    (found : slice packet o 40 = cookie.encode) : Cookie.read (shift packet o) = cookie := by
  -- field by field, each behind the one before
  simp only [Cookie.encode, List.append_assoc] at found
  obtain ⟨verTag, found⟩ := u32_of_slice_append found
  obtain ⟨initTag, found⟩ := u32_of_slice_append found
  obtain ⟨aRwnd, found⟩ := u32_of_slice_append found
  obtain ⟨os, found⟩ := u16_of_slice_append found
  obtain ⟨mis, found⟩ := u16_of_slice_append found
  obtain ⟨tsn, found⟩ := u32_of_slice_append found
  obtain ⟨dstTsn, found⟩ := u32_of_slice_append found
  obtain ⟨srcIp, found⟩ := u32_of_slice_append found
  obtain ⟨dstIp, found⟩ := u32_of_slice_append found
  obtain ⟨srcPort, found⟩ := u32_of_slice_append found
  have dstPort := u32_of_slice found 0 cookie.dstPort (by decide) rfl
  simp only [Nat.add_assoc, Nat.reduceAdd] at aRwnd os mis tsn dstTsn srcIp dstIp srcPort dstPort
  simp only [Cookie.read, u16_shift, u32_shift, Nat.add_zero]
  rw [verTag, initTag, aRwnd, os, mis, tsn, dstTsn, srcIp, dstIp, srcPort, dstPort]

end Kpnet.Sctp
