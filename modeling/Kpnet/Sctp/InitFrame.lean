import Kpnet.Sctp.Checksums
import Kpnet.Sctp.Crc

/-!
# The INIT at the receiver

What `sctp_check_checksums.c` says to the frames of `eth_send_sctp.c`: the header block of
`prefill_sctp_mac_ip.c` and the chunk of `build_prefilled_mac_ip_sctp_init_hdr.c`, gathered by
the NIC. The length is written before every transmission, the two checksums never.
-/
namespace Kpnet.Sctp

open Bytes

/-- `prefill_sctp_mac_ip`. -/
def prefillSctpMacIp (gateway dev : Vector UInt8 6) (indent : UInt16) (assoc : SctpAssociation)
    (env : KpnetEnv) : SctpAssociation × KpnetEnv :=
  ({ assoc with
      prefilledUmemPacketLen := 48 - 2
      prefilledUmemPacket := assoc.prefilledUmemPacket + 2 },
    env.write assoc.prefilledUmemPacket (prefilledHdr assoc.ulp gateway dev indent))

/-- Transmissions of the same packet, one after the other. -/
def retransmit (assoc : SctpAssociation) :
    List (List (UInt32 × UInt32)) → KpnetEnv → Option (List (List UInt8))
  | [], _ => some []
  | readings :: again, env =>
    match ethSendSctp readings assoc env with
    | none => none
    | some (frame, env) =>
      match retransmit assoc again env with
      | none => none
      | some frames => some (frame :: frames)

/-- An INIT and its retransmissions, in the order of `create_client`: with the header block behind
`prefilled_umem_packet` and the chunk at `cursor`. -/
def sendInit (gateway dev : Vector UInt8 6) (indent : UInt16) (host : Host) (cursor : UInt64)
    (readings : List (UInt32 × UInt32)) (again : List (List (UInt32 × UInt32)))
    (assoc : SctpAssociation) (env : KpnetEnv) : Option (List (List UInt8)) :=
  let (assoc, env) := prefillSctpMacIp gateway dev indent assoc env
  let assoc := { sctpPreparePacket env.umemBase assoc with umemHdrsCursor := cursor }
  match buildPrefilledMacIpSctpInitHdr host readings assoc env with
  | none => none
  | some (frame, assoc, env) =>
    match retransmit assoc again env with
    | none => none
    | some frames => some (frame :: frames)

/-- The header up to the length, and behind it. -/
def hdrFront (gateway dev : Vector UInt8 6) : List UInt8 :=
  gateway.toList ++ dev.toList ++ [0x08, 0x00] ++ [0x45, 0x02]

def hdrBack (ulp : SctpUlpConfig) (indent : UInt16) : List UInt8 :=
  le16 indent ++ le16 0 ++ [141, 132] ++ le16 0 ++ le32 ulp.srcIp ++ le32 ulp.dstIp ++
    le16 (htons ulp.srcPort.toUInt16) ++ le16 (htons ulp.dstPort.toUInt16) ++ le32 0 ++ le32 0

/-- The frame on the wire. -/
def initFrame (gateway dev : Vector UInt8 6) (ulp : SctpUlpConfig) (indent : UInt16) (host : Host) :
    List UInt8 :=
  hdrFront gateway dev ++ (le16 (htons 52) ++ (hdrBack ulp indent ++ initChunk host ulp))

theorem length_hdrFront (gateway dev : Vector UInt8 6) : (hdrFront gateway dev).length = 16 := by
  simp [hdrFront]

theorem length_initFrame (gateway dev : Vector UInt8 6) (ulp : SctpUlpConfig) (indent : UInt16)
    (host : Host) : (initFrame gateway dev ulp indent host).length = 66 := by
  rw [initFrame, List.length_append, length_hdrFront]
  rfl

theorem prefilledHdr_eq (ulp : SctpUlpConfig) (gateway dev : Vector UInt8 6) (indent : UInt16) :
    prefilledHdr ulp gateway dev indent =
      [0, 0] ++ (hdrFront gateway dev ++ (le16 0 ++ hdrBack ulp indent)) := by
  simp only [prefilledHdr, hdrFront, hdrBack, List.append_assoc]

/-- The blocks of header and chunk: they do not overlap, and the first does not run over the end
of the address space. -/
structure Apart (base packet cursor : UInt64) : Prop where
  fits : (packet - base).toNat + 48 < 2 ^ 64
  apart : (packet - base).toNat + 48 ≤ (cursor - base).toNat ∨
    (cursor - base).toNat + 20 ≤ (packet - base).toNat

/-- A packet that is ready for transmission, with header and chunk at these offsets. -/
structure Loaded (assoc : SctpAssociation) (env : KpnetEnv) (o c : Nat) (front back chunk : List UInt8) :
    Prop where
  count : assoc.xdpSegCount = 2
  packet : (assoc.xdpSegs 0).toNat = o
  cursor : (assoc.xdpSegs 1).toNat = c
  packetLen : assoc.xdpSegLens 0 = 46
  chunkLen : assoc.xdpSegLens 1 = 20
  len : (assoc.prefilledUmemPacket + 16 - env.umemBase).toNat = o + 16
  plen : htons (assoc.mtu - assoc.remainPlen + 20 + 12).toUInt16 = htons 52
  apart : o + 46 ≤ c ∨ c + 20 ≤ o
  front : slice env.umem o 16 = front
  back : slice env.umem (o + 18) 28 = back
  chunk : slice env.umem c 20 = chunk

/-- What is sent of it, and that it is ready for the next time. -/
theorem Loaded.send {assoc : SctpAssociation} {env after : KpnetEnv} {o c : Nat}
    {front back chunk frame : List UInt8} (loaded : Loaded assoc env o c front back chunk)
    {readings : List (UInt32 × UInt32)}
    (sent : ethSendSctp readings assoc env = some (frame, after)) :
    frame = front ++ (le16 (htons 52) ++ (back ++ chunk)) ∧
      Loaded assoc after o c front back chunk := by
  -- the length goes between front and back, and nowhere near the chunk
  have stored := slice_put_self env.umem (o + 16) (le16 (htons 52))
  rw [length_le16] at stored
  have apart := loaded.apart
  have front' : slice (put env.umem (o + 16) (le16 (htons 52))) o 16 = front := by
    rw [slice_put_of_disjoint _ _ _ _ _ (by simp), loaded.front]
  have back' : slice (put env.umem (o + 16) (le16 (htons 52))) (o + 18) 28 = back := by
    rw [slice_put_of_disjoint _ _ _ _ _ (by simp), loaded.back]
  have chunk' : slice (put env.umem (o + 16) (le16 (htons 52))) c 20 = chunk := by
    rw [slice_put_of_disjoint _ _ _ _ _ (by simp; omega), loaded.chunk]
  simp only [ethSendSctp, KpnetEnv.write, loaded.plen, loaded.len, loaded.count] at sent
  split at sent
  · simp only [Option.some.injEq, Prod.mk.injEq] at sent
    obtain ⟨rfl, rfl⟩ := sent
    constructor
    · rw [show (2 : UInt32).toNat = 2 from rfl, List.range_succ, List.range_one, List.singleton_append,
        List.flatMap_cons, List.flatMap_singleton, loaded.packet, loaded.cursor, loaded.packetLen,
        loaded.chunkLen, show (46 : UInt32).toNat = 16 + (2 + 28) from rfl, slice_add, slice_add,
        front', stored, back', show (20 : UInt32).toNat = 20 from rfl, chunk']
      simp only [List.append_assoc]
    · exact { loaded with front := front', back := back', chunk := chunk' }
  · cases sent

/-- Every transmission is the same. -/
theorem Loaded.retransmit {assoc : SctpAssociation} {env : KpnetEnv} {o c : Nat}
    {front back chunk : List UInt8} (loaded : Loaded assoc env o c front back chunk)
    (again : List (List (UInt32 × UInt32))) {frames : List (List UInt8)}
    (sent : Sctp.retransmit assoc again env = some frames) :
    ∀ frame ∈ frames, frame = front ++ (le16 (htons 52) ++ (back ++ chunk)) := by
  -- on the transmissions: each leaves the packet loaded for the next
  induction again generalizing env frames with
  | nil =>
    cases sent
    intro frame member
    cases member
  | cons readings again ih =>
    simp only [Sctp.retransmit] at sent
    split at sent
    · cases sent
    next first env' sends =>
      split at sent
      · cases sent
      next rest sends' =>
        cases sent
        obtain ⟨same, loaded'⟩ := loaded.send sends
        intro frame member
        rcases List.mem_cons.mp member with rfl | later
        · exact same
        · exact ih loaded' sends' frame later

/-- The association as it is when its first INIT is sent. -/
def initSender (umemBase cursor : UInt64) (assoc : SctpAssociation) : SctpAssociation :=
  sctpPushToXdpSegs umemBase 20
    { sctpPreparePacket umemBase assoc with
      umemHdrsCursor := cursor
      remainPlen := assoc.mtu - 20 }

theorem add_sub_comm64 (a b c : UInt64) : a + b - c = a - c + b := by
  rw [UInt64.sub_eq_add_neg, UInt64.sub_eq_add_neg, UInt64.add_assoc, UInt64.add_comm b,
    UInt64.add_assoc]

/-- Header and chunk are in place when the INIT is sent. -/
theorem loaded_init (gateway dev : Vector UInt8 6) (indent : UInt16) (host : Host)
    {cursor : UInt64} {assoc : SctpAssociation} {env : KpnetEnv}
    (apart : Apart env.umemBase assoc.prefilledUmemPacket cursor) :
    let prefilled := prefillSctpMacIp gateway dev indent assoc env
    Loaded (initSender env.umemBase cursor prefilled.1)
      (prefilled.2.write cursor (initChunk host assoc.ulp))
      ((assoc.prefilledUmemPacket - env.umemBase).toNat + 2) (cursor - env.umemBase).toNat
      (hdrFront gateway dev) (hdrBack assoc.ulp indent) (initChunk host assoc.ulp) := by
  intro prefilled
  have fits := apart.fits
  have apart := apart.apart
  have length : (prefilledHdr assoc.ulp gateway dev indent).length = 48 := by
    simp [prefilledHdr]
  have chunk : (initChunk host assoc.ulp).length = 20 := rfl
  -- the pointer to the packet is behind the padding
  have packet : (assoc.prefilledUmemPacket + 2 - env.umemBase).toNat =
      (assoc.prefilledUmemPacket - env.umemBase).toNat + 2 := by
    rw [add_sub_comm64, UInt64.toNat_add]
    exact Nat.mod_eq_of_lt (show _ + 2 < 2 ^ 64 by omega)
  have len : (assoc.prefilledUmemPacket + 2 + 16 - env.umemBase).toNat =
      (assoc.prefilledUmemPacket - env.umemBase).toNat + 2 + 16 := by
    rw [add_sub_comm64, UInt64.toNat_add, packet]
    exact Nat.mod_eq_of_lt (show _ + 2 + 16 < 2 ^ 64 by omega)
  generalize offset : (assoc.prefilledUmemPacket - env.umemBase).toNat = o at *
  constructor
  case count => rfl
  case packet => exact packet
  case cursor => rfl
  case packetLen => rfl
  case chunkLen => rfl
  case len => exact len
  case plen =>
    -- what the chunk has taken of the packet, and the two headers
    show htons (assoc.mtu - (assoc.mtu - 20) + 20 + 12).toUInt16 = htons 52
    rw [UInt32.sub_eq_iff_eq_add.mpr (show assoc.mtu = 20 + (assoc.mtu - 20) by
      rw [UInt32.add_comm, UInt32.sub_add_cancel])]
    rfl
  case apart => omega
  case front =>
    show slice (put (put env.umem (assoc.prefilledUmemPacket - env.umemBase).toNat
      (prefilledHdr assoc.ulp gateway dev indent)) (cursor - env.umemBase).toNat
      (initChunk host assoc.ulp)) (o + 2) 16 = hdrFront gateway dev
    rw [slice_put_of_disjoint _ _ _ _ _ (by omega), offset, slice_put _ _ _ _ _ (by omega),
      prefilledHdr_eq, List.drop_left' (show ([0, 0] : List UInt8).length = 2 from rfl),
      List.take_left' (length_hdrFront _ _)]
  case back =>
    show slice (put (put env.umem (assoc.prefilledUmemPacket - env.umemBase).toNat
      (prefilledHdr assoc.ulp gateway dev indent)) (cursor - env.umemBase).toNat
      (initChunk host assoc.ulp)) (o + 2 + 18) 28 = hdrBack assoc.ulp indent
    rw [slice_put_of_disjoint _ _ _ _ _ (by omega), offset, Nat.add_assoc,
      slice_put _ _ _ _ _ (by omega), prefilledHdr_eq, ← List.append_assoc, ← List.append_assoc,
      List.drop_left' (by simp [length_hdrFront])]
    rfl
  case chunk => exact slice_put_self _ _ _

/-- The INIT and all its retransmissions are the same frame. -/
theorem sendInit_frames {gateway dev : Vector UInt8 6} {indent : UInt16} {host : Host}
    {cursor : UInt64} {readings : List (UInt32 × UInt32)} {again : List (List (UInt32 × UInt32))}
    {assoc : SctpAssociation} {env : KpnetEnv} {frames : List (List UInt8)}
    (apart : Apart env.umemBase assoc.prefilledUmemPacket cursor)
    (sent : sendInit gateway dev indent host cursor readings again assoc env = some frames) :
    frames ≠ [] ∧ ∀ frame ∈ frames, frame = initFrame gateway dev assoc.ulp indent host := by
  have loaded := loaded_init gateway dev indent host apart
  simp only [sendInit] at sent
  split at sent
  · cases sent
  next first assoc' env' built =>
    simp only [buildPrefilledMacIpSctpInitHdr] at built
    split at built
    · cases built
    next frame env'' sends =>
      simp only [Option.some.injEq, Prod.mk.injEq] at built
      obtain ⟨rfl, rfl, rfl⟩ := built
      split at sent
      · cases sent
      next rest sends' =>
        cases sent
        obtain ⟨same, loaded'⟩ := loaded.send sends
        refine ⟨List.cons_ne_nil _ _, fun other member => ?_⟩
        rcases List.mem_cons.mp member with rfl | later
        · exact same
        · exact loaded'.retransmit again sends' other later

/-- The frame from its IP header on. -/
def initPacket (ulp : SctpUlpConfig) (indent : UInt16) (host : Host) : List UInt8 :=
  [0x45, 0x02] ++ (le16 (htons 52) ++ (hdrBack ulp indent ++ initChunk host ulp))

theorem slice_initFrame (received : Bytes) (gateway dev : Vector UInt8 6) (ulp : SctpUlpConfig)
    (indent : UInt16) (host : Host) :
    slice (put received 0 (initFrame gateway dev ulp indent host)) 14 52 =
      initPacket ulp indent host := by
  have whole : initFrame gateway dev ulp indent host =
      (gateway.toList ++ dev.toList ++ [0x08, 0x00]) ++ initPacket ulp indent host := by
    simp only [initFrame, hdrFront, initPacket, List.append_assoc]
  have inside := slice_put received 0 14 52 (initFrame gateway dev ulp indent host) (by
    rw [whole, List.length_append]
    simp [show (initPacket ulp indent host).length = 52 from rfl])
  rw [Nat.zero_add] at inside
  rw [inside, whole, List.drop_left' (by simp)]
  rfl

/-- The sum of the words of the IP header. -/
def initIpSum (ulp : SctpUlpConfig) (indent : UInt16) : Nat :=
  0x0245 + 0x3400 + indent.toNat + 0x848D + (ulp.srcIp.toNat % 65536 + ulp.srcIp.toNat / 65536) +
    (ulp.dstIp.toNat % 65536 + ulp.dstIp.toNat / 65536)

/-- What the CRC is taken of: the common header, without tag and CRC, and the chunk. -/
def initSctp (ulp : SctpUlpConfig) (host : Host) : List UInt8 :=
  le16 (htons ulp.srcPort.toUInt16) ++ le16 (htons ulp.dstPort.toUInt16) ++ le32 0 ++ le32 0 ++
    initChunk host ulp

theorem wordSum_init {packet : Bytes} {ulp : SctpUlpConfig} {indent : UInt16} {host : Host}
    (found : slice packet 14 52 = initPacket ulp indent host) :
    wordSum (shift packet 14) 10 = initIpSum ulp indent := by
  have part (k : Nat) (bytes : List UInt8) (inside : k + 2 ≤ 52)
      (field : ((initPacket ulp indent host).drop k).take 2 = bytes) :
      (u16 packet (14 + k)).toNat = word bytes := by
    rw [toNat_u16, slice_of_slice found k 2 bytes inside field]
  -- an address is two words of the header
  have low (v : UInt32) : word (bytesOf 2 v.toNat) = v.toNat % 65536 := word_bytesOf 2 _
  have high (v : UInt32) : word (bytesOf 2 (v.toNat / 256 / 256)) = v.toNat / 65536 := by
    have bound := v.toNat_lt
    rw [word_bytesOf]
    omega
  have whole (v : UInt16) : word (le16 v) = v.toNat := by
    have bound := v.toNat_lt
    rw [le16, word_bytesOf]
    omega
  simp only [wordSum, show List.range 10 = [0, 1, 2, 3, 4, 5, 6, 7, 8, 9] from rfl, List.map_cons,
    List.map_nil, List.sum_cons, List.sum_nil, u16_shift]
  rw [part 0 [0x45, 0x02] (by omega) rfl, part 2 (le16 (htons 52)) (by omega) rfl,
    part 4 (le16 indent) (by omega) rfl, part 6 (le16 0) (by omega) rfl,
    part 8 [141, 132] (by omega) rfl, part 10 (le16 0) (by omega) rfl,
    part 12 (bytesOf 2 ulp.srcIp.toNat) (by omega) rfl,
    part 14 (bytesOf 2 (ulp.srcIp.toNat / 256 / 256)) (by omega) rfl,
    part 16 (bytesOf 2 ulp.dstIp.toNat) (by omega) rfl,
    part 18 (bytesOf 2 (ulp.dstIp.toNat / 256 / 256)) (by omega) rfl, whole, whole, whole, low, high,
    low, high, show word [0x45, 0x02] = 0x0245 from rfl, show word [141, 132] = 0x848D from rfl,
    show (htons 52).toNat = 0x3400 from rfl, show (0 : UInt16).toNat = 0 from rfl, initIpSum]
  omega

/-- The receiver takes the INIT exactly if both checksums happen to be right as they are, at 0. -/
theorem initFrame_accepted_iff (received : Bytes) (gateway dev : Vector UInt8 6)
    (ulp : SctpUlpConfig) (indent : UInt16) (host : Host) :
    (sctpCheckChecksums (put received 0 (initFrame gateway dev ulp indent host)) 66).1 = 0 ↔
      initIpSum ulp indent % 65535 = 0 ∧ crc32c (initSctp ulp host) = 0 := by
  have found := slice_initFrame received gateway dev ulp indent host
  generalize put received 0 (initFrame gateway dev ulp indent host) = packet at found ⊢
  have len : u16 packet 16 = htons 52 := u16_of_slice found 2 _ (by omega) rfl
  have check : u16 packet 24 = 0 := u16_of_slice found 10 _ (by omega) rfl
  have crc : u32 packet 42 = 0 := u32_of_slice found 28 _ (by omega) rfl
  have chunk : u16 packet 48 = htons 20 := u16_of_slice found 34 _ (by omega) rfl
  have sctp : slice packet 34 32 = initSctp ulp host := slice_of_slice found 20 32 _ (by omega) rfl
  -- each of the two checks is about a field that is 0
  have ip : IpIntact packet ↔ initIpSum ulp indent % 65535 = 0 := by
    rw [ipIntact_blank_iff check, wordSum_init found]
    simp [initIpSum]
  have intact : CrcIntact packet ↔ crc32c (initSctp ulp host) = 0 := by
    have cleared : put packet 42 (le32 0) = packet := by
      rw [← crc]
      exact put_le32_u32 packet 42
    have length : crcLen packet = 32 := by
      rw [crcLen, chunk]
      decide
    have value := generateCrc32c_eq (shift packet 34) 32
    rw [slice_shift, show (32 : UInt32).toNat = 32 from rfl, sctp, generateCrc32c] at value
    rw [CrcIntact, crc, cleared, length, value]
    exact eq_comm
  have sound : Sound packet 66 ↔ initIpSum ulp indent % 65535 = 0 ∧ crc32c (initSctp ulp host) = 0 := by
    rw [← ip, ← intact]
    constructor
    · intro sound
      exact ⟨sound.ip, sound.crc⟩
    · rintro ⟨ip, crc⟩
      exact ⟨by decide, ip, by rw [ipLen, len]; decide, crc⟩
  obtain ⟨accepts, refuses⟩ := sctpCheckChecksums_sound packet 66
  rw [← sound]
  constructor
  · intro accepted
    by_contra unsound
    rw [refuses unsound] at accepted
    cases accepted
  · intro sound
    rw [accepts sound]

/-- An INIT and its retransmissions are accepted exactly if the words of the IP header sum up to a
multiple of 65535 and the CRC of the rest is 0. -/
theorem init_frames_accepted_iff (gateway dev : Vector UInt8 6) (indent : UInt16) (host : Host)
    (cursor : UInt64) (readings : List (UInt32 × UInt32)) (again : List (List (UInt32 × UInt32)))
    (assoc : SctpAssociation) (env : KpnetEnv) (frames : List (List UInt8)) (received : Bytes)
    (apart : Apart env.umemBase assoc.prefilledUmemPacket cursor)
    (sent : sendInit gateway dev indent host cursor readings again assoc env = some frames) :
    (∀ frame ∈ frames,
      (sctpCheckChecksums (put received 0 frame) (UInt64.ofNat frame.length)).1 = 0) ↔
    initIpSum assoc.ulp indent % 65535 = 0 ∧ crc32c (initSctp assoc.ulp host) = 0 := by
  obtain ⟨nonempty, same⟩ := sendInit_frames apart sent
  have accepted := initFrame_accepted_iff received gateway dev assoc.ulp indent host
  have length := congrArg UInt64.ofNat (length_initFrame gateway dev assoc.ulp indent host)
  rw [← accepted]
  constructor
  · intro all
    obtain ⟨frame, rest, cons⟩ := List.exists_cons_of_ne_nil nonempty
    have first := all frame (by simp [cons])
    rwa [same frame (by simp [cons]), length] at first
  · intro accepts frame member
    rw [same frame member, length]
    exact accepts

/-- A packet area with nothing in it. -/
def blankArea : KpnetEnv :=
  { stateAlloc :=
      { freeList := 0
        stack := { addrs := fun _ => 0, top := 0, cap := 0 }
        curPos := 0
        curEnd := 0 }
    umemBase := 0
    umem := fun _ => 0 }

/-- The INIT that the client sends with this IP id and this draw for its tag, and once more. -/
def sendCreated (indent : UInt16) (initTag : UInt32) : Option (List (List UInt8)) :=
  sendInit (.replicate 6 3) (.replicate 6 2) indent ⟨initTag, 32, 33, some⟩ 256 [(0, 0)] [[(0, 0)]]
    createdClient.assoc blankArea

/-- A draw of each kind. -/
theorem init_frames_accepted_iff_created :
    (∃ frames, sendCreated 61097 3659688280 = some frames ∧
      ∀ frame ∈ frames,
        (sctpCheckChecksums (put (fun _ => 0) 0 frame) (UInt64.ofNat frame.length)).1 = 0) ∧
    (∃ frames, sendCreated 2 31 = some frames ∧
      ¬∀ frame ∈ frames,
        (sctpCheckChecksums (put (fun _ => 0) 0 frame) (UInt64.ofNat frame.length)).1 = 0) := by
  have returns : (sendCreated 61097 3659688280).isSome = true ∧ (sendCreated 2 31).isSome = true := by
    decide +kernel
  obtain ⟨frames, sent⟩ := Option.isSome_iff_exists.mp returns.1
  obtain ⟨frames', sent'⟩ := Option.isSome_iff_exists.mp returns.2
  refine ⟨⟨frames, sent, ?_⟩, frames', sent', ?_⟩
  · rw [init_frames_accepted_iff _ _ _ _ _ _ _ _ _ _ _ ⟨by decide, by decide⟩ sent]
    exact ⟨by decide, by decide +kernel⟩
  · rw [init_frames_accepted_iff _ _ _ _ _ _ _ _ _ _ _ ⟨by decide, by decide⟩ sent']
    rintro ⟨sum, -⟩
    exact absurd sum (by decide)

/-- The INIT of the client as it is created is refused by the receiver, and so is every
retransmission. -/
theorem init_frame_refused : ∃ frames,
    sendCreated 2 31 = some frames ∧ frames.length = 2 ∧
    ∀ frame ∈ frames,
      (sctpCheckChecksums (put (fun _ => 0) 0 frame) (UInt64.ofNat frame.length)).1 ≠ 0 := by
  have counted : (sendCreated 2 31).map List.length = some 2 := by
    decide +kernel
  obtain ⟨frames, sent, two⟩ := Option.map_eq_some_iff.mp counted
  refine ⟨frames, sent, two, fun frame member => ?_⟩
  rw [(sendInit_frames ⟨by decide, by decide⟩ sent).2 frame member, length_initFrame]
  intro accepted
  have sum := ((initFrame_accepted_iff _ _ _ _ _ _).mp accepted).1
  exact absurd sum (by decide)

end Kpnet.Sctp
