import Kpnet.Sctp.Checksums
import Kpnet.Sctp.Crc
import Kpnet.Sctp.Receive

/-!
# Frames built from the back

`build_sctp_init_hdr.c`, `..._init_ack_hdr.c`, `..._cookie_echo_hdr.c` and `..._cookie_ack_hdr.c`,
with the raw builders they are made of. They start behind the room for the frame and put one header
in front of the other, which moves the pointer down and the length up.
-/
namespace Kpnet.Sctp

open Bytes

/-- `if_ip_sctp_meta_t` with all of its fields; `add` is what its pointer leads to. -/
structure SctpMeta where
  verTag : UInt32
  initTag : UInt32
  aRwnd : UInt32
  os : UInt16
  mis : UInt16
  tsn : UInt32
  srcIp : UInt32
  dstIp : UInt32
  srcPort : UInt32
  dstPort : UInt32
  state : Int32
  srcArwnd : UInt32
  srcOs : UInt16
  srcMis : UInt16
  dev : Vector UInt8 6
  gateway : Vector UInt8 6
  add : Bytes
  addLen : UInt16

/-- The bytes of the record from its start to `state`, which are as many as a `cookie_t` has. -/
def SctpMeta.front (m : SctpMeta) : List UInt8 :=
  le32 m.verTag ++ le32 m.initTag ++ le32 m.aRwnd ++ le16 m.os ++ le16 m.mis ++ le32 m.tsn ++
    le32 m.srcIp ++ le32 m.dstIp ++ le32 m.srcPort ++ le32 m.dstPort ++ le32 m.state.toUInt32

@[simp] theorem SctpMeta.length_front (m : SctpMeta) : m.front.length = 40 := by
  simp [front]

/-- What a raw builder is given and gives back: `packet`, a pointer into the buffer or `NULL`, and
the length that `plen` points to. -/
structure Cursor where
  buffer : Bytes
  packet : Option Nat
  plen : UInt16

/-- `packet -= sizeof (hdr); memcpy (packet, &hdr, sizeof (hdr)); *plen += sizeof (hdr);` unless
there is nothing to write to. -/
def Cursor.prepend (hdr : List UInt8) (c : Cursor) : Cursor :=
  match c.packet with
  | none => c
  | some packet =>
    { buffer := put c.buffer (packet - hdr.length) hdr
      packet := some (packet - hdr.length)
      plen := c.plen + UInt16.ofNat hdr.length }

/-- A store through the pointer, at an offset. -/
def Cursor.poke (o : Nat) (field : List UInt8) (c : Cursor) : Cursor :=
  match c.packet with
  | none => c
  | some packet => { c with buffer := put c.buffer (packet + o) field }

/-- The bytes from the pointer on. -/
def Cursor.bytes (c : Cursor) : Bytes := shift c.buffer (c.packet.getD 0)

/-- `sctp_init_hdr_t` and `sctp_init_ack_hdr_t`, from values in host order. -/
def initHdr (tag aRwnd : UInt32) (os mis : UInt16) (tsn : UInt32) : SctpInitHdr :=
  { initTag := htonl tag
    aRwnd := htonl aRwnd
    os := htons os
    mis := htons mis
    initTsn := htonl tsn }

/-- The values in host order again. -/
def SctpInitHdr.toHost (hdr : SctpInitHdr) : SctpInitHdr :=
  { initTag := ntohl hdr.initTag
    aRwnd := ntohl hdr.aRwnd
    os := ntohs hdr.os
    mis := ntohs hdr.mis
    initTsn := ntohl hdr.initTsn }

theorem toHost_initHdr (tag aRwnd : UInt32) (os mis : UInt16) (tsn : UInt32) :
    (initHdr tag aRwnd os mis tsn).toHost = ⟨tag, aRwnd, os, mis, tsn⟩ := by
  simp only [SctpInitHdr.toHost, initHdr, ntohl, htonl_htonl, ntohs_htons]

def buildSctpInitHdrRaw (tag aRwnd : UInt32) (os mis : UInt16) (tsn : UInt32) : Cursor → Cursor :=
  Cursor.prepend (initHdr tag aRwnd os mis tsn).encode

def buildSctpInitAckHdrRaw (tag aRwnd : UInt32) (os mis : UInt16) (tsn : UInt32) : Cursor → Cursor :=
  Cursor.prepend (initHdr tag aRwnd os mis tsn).encode

/-- A parameter with the 40 bytes of a `cookie_t` and their code. -/
def cookieParam (cookie : List UInt8) : List UInt8 :=
  le16 (htons 7) ++ le16 (htons 60) ++ cookie ++ hmacMd5 cookie hmacKey

/-- The parameter is read back from wherever its bytes are found. -/
theorem cookieParam_read {cookie : List UInt8} {packet : Bytes} {o : Nat} (length : cookie.length = 40)
    (found : slice packet o 60 = cookieParam cookie) :
    ntohs (u16 packet o) = 7 ∧ ntohs (u16 packet (o + 2)) = 60 ∧
      slice packet (o + 4) 40 = cookie ∧ slice packet (o + 44) 16 = hmacMd5 cookie hmacKey := by
  simp only [cookieParam, List.append_assoc] at found
  obtain ⟨type, found⟩ := u16_of_slice_append found
  obtain ⟨len, found⟩ := u16_of_slice_append found
  obtain ⟨bytes, code⟩ := slice_eq_append (m := 16) found length
  rw [type, len, ntohs_htons, ntohs_htons]
  exact ⟨rfl, rfl, bytes, code⟩

def buildSctpCookieParamRaw (cookie : List UInt8) : Cursor → Cursor :=
  Cursor.prepend (cookieParam cookie)

def buildSctpCookieEchoHdrRaw (cookie : Bytes) (cookieLen : UInt16) : Cursor → Cursor :=
  Cursor.prepend (slice cookie 0 cookieLen.toNat)

def buildSctpFldHdrRaw (type flags : UInt8) (len : UInt16) : Cursor → Cursor :=
  Cursor.prepend ([type, flags] ++ le16 (htons len))

/-- `sctp_cmn_hdr_t`; the tag is not converted. -/
def cmnHdr (srcport dstport : UInt16) (tag check : UInt32) : List UInt8 :=
  (le16 (htons srcport) ++ le16 (htons dstport) ++ le32 tag) ++ le32 check

/-- The CRC is taken over all that is there, with its own field at 0. -/
def buildSctpCmnHdrRaw (srcport dstport : UInt16) (tag : UInt32) (c : Cursor) : Cursor :=
  let c := c.prepend (cmnHdr srcport dstport tag 0)
  c.poke 8 (le32 (generateCrc32c c.bytes c.plen.toUInt32))

/-- `ipv4_t` as `build_ip_raw` fills it; `tos` gets the low byte of `htons (0x2)`. -/
def rawIpHdr (src dst : UInt32) (proto : UInt8) (indent len check : UInt16) : List UInt8 :=
  ([0x45, (htons 2).toUInt8] ++ le16 (htons len) ++ le16 indent ++ le16 0 ++ [181, proto]) ++
    (le16 check ++ (le32 src ++ le32 dst))

/-- The checksum is taken of the header on the stack and stored into the copy. -/
def buildIpRaw (src dst : UInt32) (proto : UInt8) (random : UInt32) (c : Cursor) : Cursor :=
  let hdr := rawIpHdr src dst proto random.toUInt16 (c.plen + 20) 0
  (c.prepend hdr).poke 10 (le16 (~~~(ipChecksum (put (fun _ => 0) 0 hdr) 20).toUInt16))

def buildMacRaw (gateway dev : Vector UInt8 6) (typelen : UInt16) : Cursor → Cursor :=
  Cursor.prepend (gateway.toList ++ dev.toList ++ le16 (htons typelen))

/-- `frame_data_t` as these builders use it; the buffer is the one that `packet` points into. -/
structure RawFrame extends Cursor where
  state : Option SctpMeta

/-- What the four builders have in common. `draw` is what a builder changes in the record first,
`space` how far it moves the pointer, `payload` what it puts behind the header of the chunk. A missing
frame, packet or record is refused. -/
def buildRaw (draw : SctpMeta → SctpMeta) (space : SctpMeta → Nat)
    (payload : SctpMeta → Cursor → Cursor) (type : UInt8) (tag : SctpMeta → UInt32)
    (random : UInt32) (frame : Option RawFrame) : Option RawFrame :=
  match frame with
  | none => none
  | some frame =>
    match frame.packet, frame.state with
    | some packet, some state =>
      -- the pointer goes up by the room, and comes down again header by header
      let state := draw state
      let c := payload state ⟨frame.buffer, some (packet + space state), frame.plen⟩
      let c := buildSctpFldHdrRaw type 0 (c.plen + 4) c
      let c := buildSctpCmnHdrRaw state.srcPort.toUInt16 state.dstPort.toUInt16 (tag state) c
      let c := buildIpRaw state.srcIp state.dstIp 132 random c
      let c := buildMacRaw state.gateway state.dev 0x0800 c
      some { toCursor := c, state := some state }
    | _, _ => none

/-- `tag` and `tsn` are the draws for the header of the chunk, `random` that for the IP header. -/
def buildSctpInitHdr (tag tsn random : UInt32) : Option RawFrame → Option RawFrame :=
  buildRaw id (fun _ => 14 + 20 + 12 + 4 + 16)
    (fun state => buildSctpInitHdrRaw tag state.srcArwnd state.srcOs state.srcMis tsn)
    sctpInit (fun _ => 0) random

/-- The draws for the header of the chunk are left in the record, from where they also get into the
cookie. -/
def buildSctpInitAckHdr (tag tsn random : UInt32) : Option RawFrame → Option RawFrame :=
  buildRaw (fun state => { state with initTag := tag, tsn := tsn })
    (fun _ => 14 + 20 + 12 + 4 + 16 + 4 + 40 + 16)
    (fun state c => buildSctpInitAckHdrRaw state.initTag state.srcArwnd state.srcOs state.srcMis
      state.tsn (buildSctpCookieParamRaw state.front c))
    sctpInitAck SctpMeta.verTag random

/-- Room is made for a second chunk header that nothing fills, so the frame starts 4 bytes behind
the buffer it was given. That `add` is freed at the end is left out. -/
def buildSctpCookieEchoHdr (random : UInt32) : Option RawFrame → Option RawFrame :=
  buildRaw id (fun state => 14 + 20 + 12 + 4 + 4 + state.addLen.toNat)
    (fun state => buildSctpCookieEchoHdrRaw state.add state.addLen)
    sctpCookieEcho SctpMeta.initTag random

def buildSctpCookieAckHdr (random : UInt32) : Option RawFrame → Option RawFrame :=
  buildRaw id (fun _ => 14 + 20 + 12 + 4) (fun _ c => c) sctpCookieAck SctpMeta.verTag random

/-- From the pointer on there is `l`, which is what the length counts, and in front of it there are
`room` more bytes. -/
def Cursor.Holds (c : Cursor) (room : Nat) (l : List UInt8) : Prop :=
  ∃ packet, c.packet = some packet ∧ room ≤ packet ∧ slice c.buffer packet l.length = l ∧
    c.plen = UInt16.ofNat l.length

namespace Cursor

variable {c : Cursor} {room : Nat} {l : List UInt8}

theorem Holds.slice_bytes (holds : c.Holds room l) : slice c.bytes 0 l.length = l := by
  obtain ⟨packet, pointer, -, found, -⟩ := holds
  rw [bytes, pointer, Option.getD_some, slice_shift, Nat.add_zero, found]

theorem Holds.prepend {hdr : List UInt8} (holds : c.Holds (room + hdr.length) l) :
    (c.prepend hdr).Holds room (hdr ++ l) := by
  obtain ⟨packet, pointer, enough, found, length⟩ := holds
  have front : packet - hdr.length + hdr.length = packet := by omega
  refine ⟨packet - hdr.length, ?_, by omega, ?_, ?_⟩
  · simp only [Cursor.prepend, pointer]
  · simp only [Cursor.prepend, pointer]
    exact slice_put_front found front
  · simp only [Cursor.prepend, pointer]
    rw [length, List.length_append, ← UInt16.ofNat_add, Nat.add_comm]

/-- What is put first has nothing behind it. -/
theorem Holds.first {hdr : List UInt8} (holds : c.Holds (room + hdr.length) []) :
    (c.prepend hdr).Holds room hdr := by
  have front := holds.prepend
  rwa [List.append_nil] at front

theorem Holds.poke {before field field' rest : List UInt8} {o : Nat}
    (holds : c.Holds room (before ++ (field ++ rest))) (length : field'.length = field.length)
    (offset : before.length = o) : (c.poke o field').Holds room (before ++ (field' ++ rest)) := by
  obtain ⟨packet, pointer, enough, found, count⟩ := holds
  subst offset
  refine ⟨packet, ?_, enough, ?_, ?_⟩
  · simp only [Cursor.poke, pointer]
  · simp only [Cursor.poke, pointer]
    exact slice_put_middle found length
  · simp only [Cursor.poke, pointer]
    rw [count]
    simp [length]

variable (srcport dstport : UInt16) (tag src dst random : UInt32) (proto : UInt8)

/-- The common header goes in front with the CRC of itself and of what is behind it. -/
theorem Holds.cmn (holds : c.Holds (room + 12) l) (short : 12 + l.length < 65536) :
    (buildSctpCmnHdrRaw srcport dstport tag c).Holds room
      (cmnHdr srcport dstport tag (crc32c (cmnHdr srcport dstport tag 0 ++ l)) ++ l) := by
  have front : (c.prepend (cmnHdr srcport dstport tag 0)).Holds room
      (cmnHdr srcport dstport tag 0 ++ l) := holds.prepend
  have found := front.slice_bytes
  obtain ⟨-, -, -, -, count⟩ := id front
  have length : (cmnHdr srcport dstport tag 0 ++ l).length = 12 + l.length := by
    rw [List.length_append]
    rfl
  rw [length] at found count
  have crc : generateCrc32c (c.prepend (cmnHdr srcport dstport tag 0)).bytes
      (c.prepend (cmnHdr srcport dstport tag 0)).plen.toUInt32 =
      crc32c (cmnHdr srcport dstport tag 0 ++ l) := by
    rw [generateCrc32c_eq, UInt16.toNat_toUInt32, count, UInt16.toNat_ofNat_of_lt' short, found]
  have parts (check : UInt32) : cmnHdr srcport dstport tag check ++ l =
      (le16 (htons srcport) ++ le16 (htons dstport) ++ le32 tag) ++ (le32 check ++ l) := by
    rw [cmnHdr, List.append_assoc]
  rw [buildSctpCmnHdrRaw, crc]
  generalize crc32c (cmnHdr srcport dstport tag 0 ++ l) = check
  rw [parts] at front ⊢
  exact front.poke rfl rfl

/-- The IP header goes in front with its checksum. -/
theorem Holds.ip (holds : c.Holds (room + 20) l) :
    let hdr := rawIpHdr src dst proto random.toUInt16 (UInt16.ofNat (l.length + 20))
    (buildIpRaw src dst proto random c).Holds room
      (hdr (~~~(ipChecksum (put (fun _ => 0) 0 (hdr 0)) 20).toUInt16) ++ l) := by
  intro hdr
  have front : (c.prepend (hdr 0)).Holds room (hdr 0 ++ l) := holds.prepend
  obtain ⟨-, -, -, -, count⟩ := holds
  have total : c.plen + 20 = UInt16.ofNat (l.length + 20) := by
    rw [count, UInt16.ofNat_add]
    rfl
  have parts (check : UInt16) : hdr check ++ l =
      ([0x45, (htons 2).toUInt8] ++ le16 (htons (UInt16.ofNat (l.length + 20))) ++
        le16 random.toUInt16 ++ le16 0 ++ [181, proto]) ++
        (le16 check ++ (le32 src ++ le32 dst ++ l)) := by
    simp only [hdr, rawIpHdr, List.append_assoc]
  rw [buildIpRaw, total]
  generalize ~~~(ipChecksum (put (fun _ => 0) 0 (hdr 0)) 20).toUInt16 = check
  rw [parts] at front ⊢
  exact front.poke rfl rfl

end Cursor

/-- The common header and the chunk, under this CRC. -/
def rawSctp (m : SctpMeta) (type : UInt8) (tag : UInt32) (payload : List UInt8) (check : UInt32) :
    List UInt8 :=
  cmnHdr m.srcPort.toUInt16 m.dstPort.toUInt16 tag check ++
    (fldHdr type (htons (UInt16.ofNat (payload.length + 4))) ++ payload)

/-- The whole frame, with its two checksums. -/
def rawBytes (m : SctpMeta) (type : UInt8) (tag : UInt32) (payload : List UInt8) (random : UInt32) :
    List UInt8 :=
  let sctp := rawSctp m type tag payload (crc32c (rawSctp m type tag payload 0))
  let hdr := rawIpHdr m.srcIp m.dstIp 132 random.toUInt16 (UInt16.ofNat (sctp.length + 20))
  (m.gateway.toList ++ m.dev.toList ++ le16 (htons 0x0800)) ++
    (hdr (~~~(ipChecksum (put (fun _ => 0) 0 (hdr 0)) 20).toUInt16) ++ sctp)

theorem length_rawSctp (m : SctpMeta) (type : UInt8) (tag : UInt32) (payload : List UInt8)
    (check : UInt32) : (rawSctp m type tag payload check).length = 16 + payload.length := by
  simp only [rawSctp, cmnHdr, fldHdr, List.length_append, length_le16, length_le32, List.length_cons,
    List.length_nil]
  omega

/-- What is built from the back is the whole frame, with the payload the builder asked for. -/
theorem buildRaw_holds (draw : SctpMeta → SctpMeta) (space : SctpMeta → Nat)
    (fill : SctpMeta → Cursor → Cursor) (type : UInt8) (tag : SctpMeta → UInt32) (random : UInt32)
    (buffer : Bytes) (o : Nat) (m : SctpMeta) (payload : List UInt8)
    (moved : 50 + payload.length ≤ o + space (draw m)) (short : 50 + payload.length ≤ 65535)
    (filled : ∀ c : Cursor, c.Holds (50 + payload.length) [] → (fill (draw m) c).Holds 50 payload) :
    ∃ frame, buildRaw draw space fill type tag random (some ⟨⟨buffer, some o, 0⟩, some m⟩) =
        some frame ∧ frame.state = some (draw m) ∧
      frame.Holds 0 (rawBytes (draw m) type (tag (draw m)) payload random) := by
  refine ⟨_, rfl, rfl, ?_⟩
  have start : Cursor.Holds ⟨buffer, some (o + space (draw m)), 0⟩ (50 + payload.length) [] :=
    ⟨_, rfl, moved, rfl, rfl⟩
  have chunk := filled _ start
  generalize fill (draw m) ⟨buffer, some (o + space (draw m)), 0⟩ = c at chunk
  have len : c.plen + 4 = UInt16.ofNat (payload.length + 4) := by
    obtain ⟨-, -, -, -, count⟩ := chunk
    rw [count, UInt16.ofNat_add]
    rfl
  -- one header in front of the other, each with its room
  have fld : (buildSctpFldHdrRaw type 0 (c.plen + 4) c).Holds 46
      (fldHdr type (htons (UInt16.ofNat (payload.length + 4))) ++ payload) := by
    rw [len]
    exact chunk.prepend
  have cmn := Cursor.Holds.cmn (draw m).srcPort.toUInt16 (draw m).dstPort.toUInt16 (tag (draw m)) fld
    (by simp [fldHdr]; omega)
  have ip := Cursor.Holds.ip (draw m).srcIp (draw m).dstIp random 132 cmn
  refine Cursor.Holds.prepend ?_
  rw [show ((draw m).gateway.toList ++ (draw m).dev.toList ++ le16 (htons 0x0800)).length = 14 by simp]
  exact ip

/-- The frame passes the checks of a receiver, which finds the lengths to be right, the values of the
record in the headers, and this chunk. Tag and addresses are not converted. -/
structure Decodes (frame : RawFrame) (m : SctpMeta) (type : UInt8) (tag : UInt32)
    (payload : List UInt8) : Prop where
  passes : (sctpCheckChecksums frame.bytes frame.plen.toUInt64).1 = 0
  plen : frame.plen.toNat = 50 + payload.length
  ipLen : ipLen frame.bytes = frame.plen.toNat - 14
  fldLen : chunkLen frame.bytes = frame.plen.toNat - 46
  gateway : slice frame.bytes 0 6 = m.gateway.toList
  dev : slice frame.bytes 6 6 = m.dev.toList
  srcIp : u32 frame.bytes 26 = m.srcIp
  dstIp : u32 frame.bytes 30 = m.dstIp
  srcPort : ntohs (u16 frame.bytes 34) = m.srcPort.toUInt16
  dstPort : ntohs (u16 frame.bytes 36) = m.dstPort.toUInt16
  tag : u32 frame.bytes 38 = tag
  type : frame.bytes 46 = type
  payload : slice frame.bytes 50 payload.length = payload

section Decode

variable {packet : Bytes} {m : SctpMeta} {type : UInt8} {tag random : UInt32} {payload : List UInt8}

/-- The three parts of a frame. -/
theorem slice_rawBytes (found : slice packet 0 (rawBytes m type tag payload random).length =
      rawBytes m type tag payload random) :
    slice packet 0 14 = m.gateway.toList ++ m.dev.toList ++ le16 (htons 0x0800) ∧
    IpIntact packet ∧
    (∃ check, slice packet 14 20 = rawIpHdr m.srcIp m.dstIp 132 random.toUInt16
      (UInt16.ofNat (payload.length + 36)) check) ∧
    slice packet 34 (payload.length + 16) =
      rawSctp m type tag payload (crc32c (rawSctp m type tag payload 0)) := by
  have total (check : UInt32) : (rawSctp m type tag payload check).length = payload.length + 16 := by
    rw [length_rawSctp, Nat.add_comm]
  rw [rawBytes] at found
  simp only [total] at found
  generalize checked : ~~~(ipChecksum (put (fun _ => 0) 0 (rawIpHdr m.srcIp m.dstIp 132
    random.toUInt16 (UInt16.ofNat (payload.length + 16 + 20)) 0)) 20).toUInt16 = check at found
  have length : ((m.gateway.toList ++ m.dev.toList ++ le16 (htons 0x0800)) ++
      (rawIpHdr m.srcIp m.dstIp 132 random.toUInt16 (UInt16.ofNat (payload.length + 16 + 20)) check ++
        rawSctp m type tag payload (crc32c (rawSctp m type tag payload 0)))).length =
      payload.length + 16 + 20 + 14 := by
    simp only [List.length_append, total, rawIpHdr, length_le16, length_le32, List.length_cons,
      List.length_nil, Vector.length_toList]
    omega
  rw [length] at found
  obtain ⟨mac, found⟩ := slice_eq_append found (by simp)
  obtain ⟨ip, sctp⟩ := slice_eq_append found rfl
  exact ⟨mac, ipIntact_of_slice rfl rfl ip checked.symm, ⟨check, ip⟩, sctp⟩

/-- The CRC of a frame is that of its common header and chunk, without it. -/
theorem crcIntact_rawSctp (short : 50 + payload.length ≤ 65535)
    (found : slice packet 34 (payload.length + 16) =
      rawSctp m type tag payload (crc32c (rawSctp m type tag payload 0))) : CrcIntact packet := by
  have total (check : UInt32) : (rawSctp m type tag payload check).length = payload.length + 16 := by
    rw [length_rawSctp, Nat.add_comm]
  have stored : u32 packet 42 = crc32c (rawSctp m type tag payload 0) :=
    u32_of_slice found 8 _ (by omega) rfl
  have fld : u16 packet 48 = htons (UInt16.ofNat (payload.length + 4)) :=
    u16_of_slice found 14 _ (by omega) rfl
  have len : (crcLen packet).toNat = payload.length + 16 := by
    rw [crcLen, fld, ntohs_htons, UInt32.toNat_add, UInt16.toNat_toUInt32,
      UInt16.toNat_ofNat_of_lt' (show payload.length + 4 < 65536 by omega),
      show (12 : UInt32).toNat = 12 from rfl]
    omega
  have parts (check : UInt32) : rawSctp m type tag payload check =
      (le16 (htons m.srcPort.toUInt16) ++ le16 (htons m.dstPort.toUInt16) ++ le32 tag) ++
        (le32 check ++ (fldHdr type (htons (UInt16.ofNat (payload.length + 4))) ++ payload)) := by
    rw [rawSctp, cmnHdr, List.append_assoc]
  have cleared : slice (put packet 42 (le32 0)) 34 (payload.length + 16) =
      rawSctp m type tag payload 0 := by
    rw [← total (crc32c (rawSctp m type tag payload 0)), parts] at found
    rw [← total 0, parts]
    exact slice_put_middle found rfl
  have value := generateCrc32c_eq (shift (put packet 42 (le32 0)) 34) (crcLen packet)
  rw [len, slice_shift, cleared, generateCrc32c] at value
  rw [CrcIntact, stored, ← value]

/-- A receiver decodes what was put together. -/
theorem Cursor.Holds.decodes {frame : RawFrame} (short : 50 + payload.length ≤ 65535)
    (holds : frame.Holds 0 (rawBytes m type tag payload random)) :
    Decodes frame m type tag payload := by
  obtain ⟨mac, intact, ⟨check, ip⟩, sctp⟩ := slice_rawBytes holds.slice_bytes
  have crc := crcIntact_rawSctp short sctp
  have plen : frame.plen.toNat = 50 + payload.length := by
    obtain ⟨-, -, -, -, count⟩ := holds
    have length : (rawBytes m type tag payload random).length = 50 + payload.length := by
      simp only [rawBytes, List.length_append, length_rawSctp, rawIpHdr, length_le16, length_le32,
        List.length_cons, List.length_nil, Vector.length_toList]
      omega
    rw [count, length, UInt16.toNat_ofNat_of_lt' (show 50 + payload.length < 65536 by omega)]
  have ipField : u16 frame.bytes 16 = htons (UInt16.ofNat (payload.length + 36)) :=
    u16_of_slice ip 2 _ (by omega) rfl
  have ipValue : ipLen frame.bytes = payload.length + 36 := by
    rw [ipLen, ipField, ntohs_htons,
      UInt16.toNat_ofNat_of_lt' (show payload.length + 36 < 65536 by omega)]
  have fldField : u16 frame.bytes 48 = htons (UInt16.ofNat (payload.length + 4)) :=
    u16_of_slice sctp 14 _ (by omega) rfl
  have srcField : u16 frame.bytes 34 = htons m.srcPort.toUInt16 :=
    u16_of_slice sctp 0 _ (by omega) rfl
  have dstField : u16 frame.bytes 36 = htons m.dstPort.toUInt16 :=
    u16_of_slice sctp 2 _ (by omega) rfl
  have chunk : slice frame.bytes 46 (payload.length + 4) =
      fldHdr type (htons (UInt16.ofNat (payload.length + 4))) ++ payload :=
    (slice_eq_append (n := 12) (m := payload.length + 4) sctp rfl).2
  constructor
  case passes =>
    rw [(sctpCheckChecksums_sound frame.bytes frame.plen.toUInt64).1]
    refine ⟨?_, intact, by omega, crc⟩
    rw [UInt16.toNat_toUInt64, plen]
    omega
  case plen => exact plen
  case ipLen =>
    rw [ipValue, plen]
    omega
  case fldLen =>
    rw [chunkLen, fldField, ntohs_htons,
      UInt16.toNat_ofNat_of_lt' (show payload.length + 4 < 65536 by omega), plen]
    omega
  case gateway =>
    exact slice_of_slice mac 0 6 _ (by omega)
      (by rw [List.drop_zero, List.append_assoc, List.take_left' (by simp)])
  case dev =>
    exact slice_of_slice mac 6 6 _ (by omega)
      (by rw [List.append_assoc, List.drop_left' (by simp), List.take_left' (by simp)])
  case srcIp => exact u32_of_slice ip 12 _ (by omega) rfl
  case dstIp => exact u32_of_slice ip 16 _ (by omega) rfl
  case srcPort => rw [srcField, ntohs_htons]
  case dstPort => rw [dstField, ntohs_htons]
  case tag => exact u32_of_slice sctp 4 _ (by omega) rfl
  case type => exact head_of_slice chunk
  case payload => exact (slice_eq_append chunk rfl).2

end Decode

section Built

variable (buffer : Bytes) (o : Nat) (m : SctpMeta) (tag tsn random : UInt32)

theorem buildSctpInitHdr_decodes :
    ∃ frame, buildSctpInitHdr tag tsn random (some ⟨⟨buffer, some o, 0⟩, some m⟩) = some frame ∧
      frame.state = some m ∧
      Decodes frame m sctpInit 0 (initHdr tag m.srcArwnd m.srcOs m.srcMis tsn).encode := by
  obtain ⟨frame, built, state, holds⟩ := buildRaw_holds id (fun _ => 14 + 20 + 12 + 4 + 16)
    (fun state => buildSctpInitHdrRaw tag state.srcArwnd state.srcOs state.srcMis tsn) sctpInit
    (fun _ => 0) random buffer o m (initHdr tag m.srcArwnd m.srcOs m.srcMis tsn).encode (by simp)
    (by simp) (fun _ empty => empty.first)
  exact ⟨frame, built, state, holds.decodes (by simp)⟩

/-- The record is left with the draws in it. -/
theorem buildSctpInitAckHdr_decodes :
    let m' := { m with initTag := tag, tsn := tsn }
    ∃ frame, buildSctpInitAckHdr tag tsn random (some ⟨⟨buffer, some o, 0⟩, some m⟩) = some frame ∧
      frame.state = some m' ∧
      Decodes frame m' sctpInitAck m'.verTag
        ((initHdr m'.initTag m'.srcArwnd m'.srcOs m'.srcMis m'.tsn).encode ++
          cookieParam m'.front) := by
  intro m'
  have length : ((initHdr m'.initTag m'.srcArwnd m'.srcOs m'.srcMis m'.tsn).encode ++
      cookieParam m'.front).length = 76 := by
    simp [cookieParam]
  -- the parameter is put first, as it comes last
  have filled (c : Cursor) (empty : c.Holds (50 + ((initHdr m'.initTag m'.srcArwnd m'.srcOs m'.srcMis
      m'.tsn).encode ++ cookieParam m'.front).length) []) :
      (buildSctpInitAckHdrRaw m'.initTag m'.srcArwnd m'.srcOs m'.srcMis m'.tsn
        (buildSctpCookieParamRaw m'.front c)).Holds 50
        ((initHdr m'.initTag m'.srcArwnd m'.srcOs m'.srcMis m'.tsn).encode ++
          cookieParam m'.front) := by
    have param : (buildSctpCookieParamRaw m'.front c).Holds (50 + 16) (cookieParam m'.front) :=
      Cursor.Holds.first (by simpa [cookieParam] using empty)
    exact param.prepend
  obtain ⟨frame, built, state, holds⟩ := buildRaw_holds
    (fun state => { state with initTag := tag, tsn := tsn })
    (fun _ => 14 + 20 + 12 + 4 + 16 + 4 + 40 + 16)
    (fun state c => buildSctpInitAckHdrRaw state.initTag state.srcArwnd state.srcOs state.srcMis
      state.tsn (buildSctpCookieParamRaw state.front c))
    sctpInitAck SctpMeta.verTag random buffer o m
    ((initHdr m'.initTag m'.srcArwnd m'.srcOs m'.srcMis m'.tsn).encode ++ cookieParam m'.front)
    (by rw [length]; omega) (by rw [length]; omega) filled
  exact ⟨frame, built, state, holds.decodes (by rw [length]; omega)⟩

theorem buildSctpCookieEchoHdr_decodes (short : 50 + m.addLen.toNat ≤ 65535) :
    ∃ frame, buildSctpCookieEchoHdr random (some ⟨⟨buffer, some o, 0⟩, some m⟩) = some frame ∧
      frame.state = some m ∧
      Decodes frame m sctpCookieEcho m.initTag (slice m.add 0 m.addLen.toNat) := by
  obtain ⟨frame, built, state, holds⟩ := buildRaw_holds id
    (fun state => 14 + 20 + 12 + 4 + 4 + state.addLen.toNat)
    (fun state => buildSctpCookieEchoHdrRaw state.add state.addLen) sctpCookieEcho SctpMeta.initTag
    random buffer o m (slice m.add 0 m.addLen.toNat) (by simp; omega) (by simpa using short)
    (fun _ empty => empty.first)
  exact ⟨frame, built, state, holds.decodes (by simpa using short)⟩

theorem buildSctpCookieAckHdr_decodes :
    ∃ frame, buildSctpCookieAckHdr random (some ⟨⟨buffer, some o, 0⟩, some m⟩) = some frame ∧
      frame.state = some m ∧ Decodes frame m sctpCookieAck m.verTag [] := by
  obtain ⟨frame, built, state, holds⟩ := buildRaw_holds id (fun _ => 14 + 20 + 12 + 4)
    (fun _ c => c) sctpCookieAck SctpMeta.verTag random buffer o m [] (by simp) (by simp)
    (fun _ empty => empty)
  exact ⟨frame, built, state, holds.decodes (by simp)⟩

end Built

/-- The header of an INIT or INIT ACK is read back, and what comes behind it is found there. -/
theorem Decodes.initHdr {frame : RawFrame} {m : SctpMeta} {type : UInt8} {tag : UInt32}
    {hdr : SctpInitHdr} {rest : List UInt8} (decodes : Decodes frame m type tag (hdr.encode ++ rest)) :
    SctpInitHdr.read (shift frame.bytes 50) = hdr ∧ slice frame.bytes 66 rest.length = rest := by
  have payload := decodes.payload
  rw [List.length_append, length_encode_initHdr, Nat.add_comm] at payload
  obtain ⟨found, behind⟩ := slice_eq_append payload (length_encode_initHdr hdr)
  exact ⟨SctpInitHdr.read_encode hdr frame.bytes 50 found, behind⟩

/-- Each of the four builders, on a record and a frame of length 0, makes a frame that is accepted
and decodes to the record. Of a port 16 bits are left; an INIT has no tag, and carries the draws; an
INIT ACK carries them from the record, in which they are left. -/
theorem raw_frames_decode (buffer : Bytes) (o : Nat) (m : SctpMeta) (tag tsn random : UInt32) :
    let start : Option RawFrame := some ⟨⟨buffer, some o, 0⟩, some m⟩
    let m' := { m with initTag := tag, tsn := tsn }
    (∃ frame, buildSctpInitHdr tag tsn random start = some frame ∧ frame.state = some m ∧
      Decodes frame m sctpInit 0 (initHdr tag m.srcArwnd m.srcOs m.srcMis tsn).encode ∧
      (SctpInitHdr.read (shift frame.bytes 50)).toHost =
        ⟨tag, m.srcArwnd, m.srcOs, m.srcMis, tsn⟩) ∧
    (∃ frame, buildSctpInitAckHdr tag tsn random start = some frame ∧ frame.state = some m' ∧
      Decodes frame m' sctpInitAck m'.verTag
        ((initHdr m'.initTag m'.srcArwnd m'.srcOs m'.srcMis m'.tsn).encode ++
          cookieParam m'.front) ∧
      (SctpInitHdr.read (shift frame.bytes 50)).toHost =
        ⟨m'.initTag, m'.srcArwnd, m'.srcOs, m'.srcMis, m'.tsn⟩ ∧
      ntohs (u16 frame.bytes 66) = 7 ∧ ntohs (u16 frame.bytes 68) = 60 ∧
      slice frame.bytes 70 40 = m'.front ∧
      slice frame.bytes 110 16 = hmacMd5 m'.front hmacKey) ∧
    (m.addLen.toNat + 50 ≤ 65535 →
      ∃ frame, buildSctpCookieEchoHdr random start = some frame ∧ frame.state = some m ∧
        Decodes frame m sctpCookieEcho m.initTag (slice m.add 0 m.addLen.toNat)) ∧
    (∃ frame, buildSctpCookieAckHdr random start = some frame ∧ frame.state = some m ∧
      Decodes frame m sctpCookieAck m.verTag []) := by
  intro start m'
  refine ⟨?_, ?_, ?_, buildSctpCookieAckHdr_decodes buffer o m random⟩
  · obtain ⟨frame, built, state, decodes⟩ := buildSctpInitHdr_decodes buffer o m tag tsn random
    refine ⟨frame, built, state, decodes, ?_⟩
    rw [← List.append_nil (initHdr tag m.srcArwnd m.srcOs m.srcMis tsn).encode] at decodes
    rw [decodes.initHdr.1, toHost_initHdr]
  · obtain ⟨frame, built, state, decodes⟩ := buildSctpInitAckHdr_decodes buffer o m tag tsn random
    obtain ⟨hdr, param⟩ := decodes.initHdr
    refine ⟨frame, built, state, decodes, ?_, ?_⟩
    · rw [hdr, toHost_initHdr]
    · exact cookieParam_read m'.length_front (by rw [← param]; simp [cookieParam])
  · intro short
    exact buildSctpCookieEchoHdr_decodes buffer o m random (by omega)

/-- A record with a cookie to echo. -/
def sampleMeta (srcPort : UInt32) : SctpMeta :=
  { verTag := 5, initTag := 6, aRwnd := 65536, os := 32, mis := 32, tsn := 7, srcIp := 0x0201A8C0,
    dstIp := 0x0301A8C0, srcPort := srcPort, dstPort := 80, state := 0, srcArwnd := 65536,
    srcOs := 32, srcMis := 32, dev := Vector.replicate 6 2, gateway := Vector.replicate 6 1,
    add := fun _ => 9, addLen := 56 }

theorem raw_frames_decode_echo :
    (sampleMeta 4000).addLen.toNat + 50 ≤ 65535 ∧
    ∃ frame, buildSctpCookieEchoHdr 3 (some ⟨⟨fun _ => 0, some 0, 0⟩, some (sampleMeta 4000)⟩) =
        some frame ∧ frame.state = some (sampleMeta 4000) ∧
      Decodes frame (sampleMeta 4000) sctpCookieEcho (sampleMeta 4000).initTag
        (slice (sampleMeta 4000).add 0 (sampleMeta 4000).addLen.toNat) :=
  ⟨by decide, (raw_frames_decode (fun _ => 0) 0 (sampleMeta 4000) 1 2 3).2.2.1 (by decide)⟩

/-- A port of more than 16 bits does not come back from the frame, and an INIT carries neither tag of
its record. -/
theorem wide_port_misread :
    ∃ frame, buildSctpInitHdr 1 2 3 (some ⟨⟨fun _ => 0, some 0, 0⟩, some (sampleMeta 65536)⟩) =
        some frame ∧
      (ntohs (u16 frame.bytes 34)).toUInt32 ≠ (sampleMeta 65536).srcPort ∧
      u32 frame.bytes 38 ≠ (sampleMeta 65536).verTag ∧
      u32 frame.bytes 38 ≠ (sampleMeta 65536).initTag ∧
      ntohl (u32 frame.bytes 38) ≠ (sampleMeta 65536).verTag ∧
      ntohl (u32 frame.bytes 38) ≠ (sampleMeta 65536).initTag := by
  obtain ⟨frame, built, -, decodes⟩ :=
    buildSctpInitHdr_decodes (fun _ => 0) 0 (sampleMeta 65536) 1 2 3
  refine ⟨frame, built, ?_⟩
  rw [decodes.srcPort, decodes.tag]
  decide

end Kpnet.Sctp
