import Kpnet.Sctp.Checksums
import Kpnet.Sctp.Circulation

/-!
# Templates

`prefill_mac_ip_sctp.c`, which makes the templates, and what the builders leave of them. The
checksum of the IP header is updated from that of a header with length 0, and the length of a
frame from that of the bare headers, so every builder rests on finding a template as it was made.
-/
namespace Kpnet.Sctp

open Bytes Runs

/-- The IP header of a template; `tos` gets the low byte of `htons (0x2)`. -/
def templateIpHdr (state : IfIpSctpMeta) (indent check : UInt16) : List UInt8 :=
  [0x45, (htons 2).toUInt8] ++ le16 (htons 0) ++ le16 indent ++ le16 0 ++ [228, 132] ++
    le16 check ++ le32 state.srcIp ++ le32 state.dstIp

/-- All headers of a template. -/
def templateHdr (state : IfIpSctpMeta) (indent : UInt16) : List UInt8 :=
  let check := ~~~(ipChecksum (put (fun _ => 0) 0 (templateIpHdr state indent 0)) 20).toUInt16
  state.gateway.toList ++ state.dev.toList ++ [0x08, 0x00] ++
    (templateIpHdr state indent check ++
      (le16 (htons state.srcPort.toUInt16) ++ le16 (htons state.dstPort.toUInt16) ++ le32 0 ++ le32 0))

/-- `prefill_mac_ip_sctp`; `none` is a `NULL` pointer. -/
def prefillMacIpSctp (random : UInt32) (prefill : Option Bytes) (frame : Option FrameData) :
    Option (FrameData × Bytes) :=
  match frame, prefill with
  | some frame, some packet =>
    match frame.state with
    | none => none
    | some state =>
      -- `ip.len` stays 0, as the length of the chunk is not known yet
      some ({ frame with plen := 14 + 20 + 12 }, put packet 0 (templateHdr state random.toUInt16))
  | _, _ => none

/-- A template as it was made: of the length of the headers, with no length in the IP header,
and with the checksum of that. -/
def Pristine (frames : Nat → Bytes) (entry : Option Nat × UInt64) : Prop :=
  entry.2 = 46 ∧ ∃ buffer, entry.1 = some buffer ∧ u16 (frames buffer) 16 = 0 ∧
    IpIntact (frames buffer)

/-- The IP header is found in a template. -/
theorem slice_template (packet : Bytes) (state : IfIpSctpMeta) (indent : UInt16) :
    ∃ check, check = ~~~(ipChecksum (put (fun _ => 0) 0 (templateIpHdr state indent 0)) 20).toUInt16 ∧
      slice (put packet 0 (templateHdr state indent)) 14 20 = templateIpHdr state indent check := by
  refine ⟨_, rfl, ?_⟩
  have inside := slice_put packet 0 14 20 (templateHdr state indent) (by
    simp [templateHdr, templateIpHdr])
  rw [Nat.zero_add] at inside
  rw [inside, templateHdr, List.drop_left' (by simp), List.take_left' (by rfl)]

/-- What is made by `prefill_mac_ip_sctp` is pristine. -/
theorem prefillMacIpSctp_pristine {random : UInt32} {prefill : Option Bytes}
    {frame : Option FrameData} {made : FrameData} {packet : Bytes}
    (prefilled : prefillMacIpSctp random prefill frame = some (made, packet)) :
    made.plen = 46 ∧ u16 packet 16 = 0 ∧ IpIntact packet := by
  unfold prefillMacIpSctp at prefilled
  split at prefilled
  next frame before =>
    split at prefilled
    · cases prefilled
    next state _ =>
      simp only [Option.some.injEq, Prod.mk.injEq] at prefilled
      obtain ⟨rfl, rfl⟩ := prefilled
      obtain ⟨check, sum, found⟩ := slice_template before state random.toUInt16
      generalize put before 0 (templateHdr state random.toUInt16) = packet at found ⊢
      have length : u16 packet 16 = htons 0 := u16_of_slice found 2 _ (by omega) rfl
      refine ⟨rfl, length.trans (by decide), ?_⟩
      -- the checksum stands between the first 10 and the last 8 bytes
      have parts (v : UInt16) : templateIpHdr state random.toUInt16 v =
          [0x45, (htons 2).toUInt8] ++ le16 (htons 0) ++ le16 random.toUInt16 ++ le16 0 ++ [228, 132] ++
            (le16 v ++ (le32 state.srcIp ++ le32 state.dstIp)) := by
        simp only [templateIpHdr, List.append_assoc]
      rw [parts] at found sum
      exact ipIntact_of_slice rfl rfl found sum
  · cases prefilled

/-- The length that a builder of the handshake writes. -/
theorem u16_builtFrame_len (chunk : List UInt8) (peer : Option (UInt32 × UInt32))
    (crc : Bytes → UInt32) (tag plen : UInt32) (template : Bytes) :
    u16 (builtFrame chunk peer crc tag plen template) 16 = htons (plen - 14).toUInt16 := by
  rw [u16, builtFrame, slice_stampCmn _ _ _ _ _ _ (by omega), ← u16]
  simp only [stampIp]
  rw [u16_put_of_disjoint _ _ _ _ (by simp), u16_put_self]

/-- A length of 0 where there was none leaves the IP header as it was. -/
theorem stampIp_blank {frame : Bytes} {plen : UInt32} (none : htons (plen - 14).toUInt16 = 0)
    (blank : u16 frame 16 = 0) : stampIp frame plen Option.none = frame := by
  have same : put frame 16 (le16 0) = frame := by
    rw [← blank]
    exact put_le16_u16 frame 16
  have small := (u16 frame 24).toNat_lt
  have check : foldCheck ((u16 frame 24).toUInt32 + (0 - (0 : UInt16).toUInt32)) =
      (u16 frame 24).toUInt32 := by
    rw [show (0 - (0 : UInt16).toUInt32) = 0 from rfl, UInt32.add_zero, foldCheck, if_neg]
    rw [UInt32.lt_iff_toNat_lt, UInt16.toNat_toUInt32, show (0xFFFF : UInt32).toNat = 65535 from rfl]
    omega
  -- both stores write what was there
  simp only [stampIp]
  rw [none, same, check, UInt16.toUInt16_toUInt32, put_le16_u16]

/-- So a COOKIE ECHO of such a length leaves the whole header. -/
theorem builtFrame_blank {chunk : List UInt8} {crc : Bytes → UInt32} {tag plen : UInt32}
    {template : Bytes} (none : htons (plen - 14).toUInt16 = 0) (blank : u16 template 16 = 0)
    (i : Nat) (front : i < 34) :
    builtFrame chunk Option.none crc tag plen template i = template i := by
  have blank' : u16 (put template 46 chunk) 16 = 0 := by
    rw [u16_put_of_disjoint _ _ _ _ (by omega), blank]
  rw [builtFrame, Option.map_none, stampIp_blank none blank']
  simp only [stampCmn, Option.map_none]
  rw [put_before _ _ _ _ (by omega), put_before _ _ _ _ (by omega), put_before _ _ _ _ (by omega),
    put_before _ _ _ _ (by omega)]

/-- A DATA chunk is put behind the headers, whatever else it follows. -/
theorem dataFrame_fst (frame : Bytes) (plen : UInt32) (bundled : Bool) (verTag : UInt32)
    (chunk : DataChunk) :
    ∃ body crc, (∀ i < 46, body i = frame i) ∧
      (dataFrame frame plen bundled verTag chunk).1 =
        put (put (put (put (put body 24 (le16 0)) 24
          (le16 (tcpChecksum (shift (put body 24 (le16 0)) 14) 20))) 38 (le32 verTag)) 42 (le32 0)) 42
            (le32 crc) := by
  refine ⟨_, _, ?_, rfl⟩
  intro i headers
  rw [put_before _ _ _ _ (by omega), put_before _ _ _ _ (by omega)]
  split
  · exact put_before _ _ _ _ (by omega)
  · rfl

/-- It leaves the length of the IP header alone, and gives the header its checksum. -/
theorem dataFrame_header (frame : Bytes) (plen : UInt32) (bundled : Bool) (verTag : UInt32)
    (chunk : DataChunk) :
    u16 (dataFrame frame plen bundled verTag chunk).1 16 = u16 frame 16 ∧
    IpIntact (dataFrame frame plen bundled verTag chunk).1 := by
  obtain ⟨body, crc, headers, made⟩ := dataFrame_fst frame plen bundled verTag chunk
  rw [made]
  constructor
  · rw [u16_put_of_disjoint _ _ _ _ (by omega), u16_put_of_disjoint _ _ _ _ (by omega),
      u16_put_of_disjoint _ _ _ _ (by omega), u16_put_of_disjoint _ _ _ _ (by omega),
      u16_put_of_disjoint _ _ _ _ (by omega)]
    exact u16_congr fun i low => headers (16 + i) (by omega)
  · -- the common header is of no account to it
    have stamped := ipIntact_stamped body
    rw [← tcpChecksum_eq] at stamped
    refine (ipIntact_congr fun i low high => ?_).mpr stamped
    rw [put_before _ _ _ _ (by omega), put_before _ _ _ _ (by omega), put_before _ _ _ _ (by omega)]

/-- How far behind the headers a chunk is put: not at all, or behind the chunk that is already there
and its padding. -/
def behindFirst (frame : Bytes) (bundled : Bool) : UInt32 :=
  let bundlePlen := if bundled then (ntohs (u16 frame 48)).toUInt32 else 0
  bundlePlen + ((0 - bundlePlen) &&& 3)

@[simp] theorem behindFirst_false (frame : Bytes) : behindFirst frame false = 0 := by
  rw [behindFirst, if_neg Bool.false_ne_true]
  rfl

/-- The chunk is found in the frame behind the headers, or behind the chunk it is bundled with. -/
theorem slice_dataFrame (frame : Bytes) (plen : UInt32) (bundled : Bool) (verTag : UInt32)
    (chunk : DataChunk) :
    slice (dataFrame frame plen bundled verTag chunk).1 (46 + (behindFirst frame bundled).toNat)
      (16 + chunk.payload.length) = chunk.hdr.encode ++ chunk.payload := by
  simp only [dataFrame, behindFirst]
  generalize ((if bundled = true then (ntohs (u16 frame 48)).toUInt32 else 0) +
    ((0 - if bundled = true then (ntohs (u16 frame 48)).toUInt32 else 0) &&& 3)).toNat = behind
  generalize (if plen < 1500 ∧ bundled = false then _ else frame) = padded
  -- the checksums and the tag are stored in front of it
  rw [slice_put_of_disjoint _ _ _ _ _ (.inr (by rw [length_le32]; omega)),
    slice_put_of_disjoint _ _ _ _ _ (.inr (by rw [length_le32]; omega)),
    slice_put_of_disjoint _ _ _ _ _ (.inr (by rw [length_le32]; omega)),
    slice_put_of_disjoint _ _ _ _ _ (.inr (by rw [length_le16]; omega)),
    slice_put_of_disjoint _ _ _ _ _ (.inr (by rw [length_le16]; omega))]
  have together := put_append padded (46 + behind) chunk.hdr.encode chunk.payload
  rw [length_encode_dataHdr, show 46 + behind + 16 = 46 + 16 + behind by omega] at together
  have found := slice_put_self padded (46 + behind) (chunk.hdr.encode ++ chunk.payload)
  rwa [List.length_append, length_encode_dataHdr, together] at found

theorem htons_eq_zero {v : UInt16} : htons v = 0 ↔ v = 0 := by
  constructor
  · intro zero
    have back := ntohs_htons v
    rw [zero] at back
    exact back.symm
  · rintro rfl
    decide

theorem toNat_cookieEcho_plen (id : UInt16) (cookie : Bytes) :
    ((46 : UInt64).toUInt32 + UInt32.ofNat (cookieEchoChunk id cookie).length).toNat =
      50 + id.toNat := by
  have bound := id.toNat_lt
  have chunk : (UInt32.ofNat (4 + id.toNat)).toNat = 4 + id.toNat :=
    UInt32.toNat_ofNat_of_lt' (by rw [UInt32.size]; omega)
  rw [length_cookieEchoChunk, UInt32.toNat_add, chunk, show (46 : UInt64).toUInt32.toNat = 46 from rfl]
  omega

/-- The length of a COOKIE ECHO is 0 in 16 bits for cookies of one length only. -/
theorem cookieEcho_len_eq_zero (id : UInt16) (cookie : Bytes) :
    htons ((46 : UInt64).toUInt32 + UInt32.ofNat (cookieEchoChunk id cookie).length - 14).toUInt16 =
      0 ↔ id = 65500 := by
  have bound := id.toNat_lt
  have total : ((46 : UInt64).toUInt32 + UInt32.ofNat (cookieEchoChunk id cookie).length -
      14).toUInt16.toNat = (36 + id.toNat) % 65536 := by
    rw [UInt32.toNat_toUInt16, UInt32.toNat_sub, toNat_cookieEcho_plen,
      show (14 : UInt32).toNat = 14 from rfl]
    omega
  -- 36 bytes of headers, and the one length that makes them a multiple of 65536
  rw [htons_eq_zero, ← UInt16.toNat_inj, ← UInt16.toNat_inj, total]
  show (36 + id.toNat) % 65536 = 0 ↔ id.toNat = 65500
  omega

/-- The call leaves the templates as they were made. An INIT ACK or a COOKIE ACK always writes a
length, a COOKIE ECHO writes one that is 0 for a cookie of 65500 bytes; a bundled frame is given
back with its own length, if there is room. -/
def Sender.KeepsTemplates (s : Sender) : BufferAction → Prop
  | .initAck _ _ => False
  | .cookieEcho => s.assoc.id = 65500
  | .cookieAck => False
  | .data _ => held s.bundling = [] ∨ ¬Roomy s.prefilledRing
  | .transmit => True
  | .change _ _ => True

/-- All templates are pristine, and what waits for a second chunk is longer than one. -/
structure Sender.Prefilled (s : Sender) : Prop where
  templates : ∀ entry ∈ held s.prefilledRing, Pristine s.frames entry
  waiting : ∀ entry ∈ held s.bundling, entry.2 ≠ 46

theorem pristine_some {frames : Nat → Bytes} {buffer : Nat} {plen : UInt64} :
    Pristine frames (some buffer, plen) ↔
      plen = 46 ∧ u16 (frames buffer) 16 = 0 ∧ IpIntact (frames buffer) := by
  simp [Pristine]

/-- A buffer that is written to as a template should be spoils no other. -/
theorem Pristine.update {frames : Nat → Bytes} {entry : Option Nat × UInt64}
    (pristine : Pristine frames entry) {buffer : Nat} {frame : Bytes}
    (blank : u16 (frames buffer) 16 = 0 → u16 frame 16 = 0)
    (intact : IpIntact (frames buffer) → IpIntact frame) :
    Pristine (Function.update frames buffer frame) entry := by
  obtain ⟨length, other, packet, blank', intact'⟩ := pristine
  refine ⟨length, other, packet, ?_⟩
  by_cases same : other = buffer
  · subst same
    rw [Function.update_self]
    exact ⟨blank blank', intact intact'⟩
  · rw [Function.update_of_ne same]
    exact ⟨blank', intact'⟩

/-- A builder of the handshake takes a template and gives the same buffer back. -/
theorem Sender.Prefilled.built {chunk : List UInt8} {peer : Option (UInt32 × UInt32)}
    {crc : Bytes → UInt32} {assoc : SctpAssociation} {s after : Sender} {ret : Int}
    (prefilled : s.Prefilled)
    (built : buildPrefilled chunk peer crc assoc s.toEndpoint = some (ret, after.toEndpoint)) :
    ∃ buffer rest, held s.prefilledRing = (some buffer, 46) :: rest ∧
      held after.prefilledRing = rest ++ [(some buffer, 46)] ∧
      u16 (s.frames buffer) 16 = 0 ∧
      after.frames = Function.update s.frames buffer (builtFrame chunk peer crc assoc.verTag
        ((46 : UInt64).toUInt32 + UInt32.ofNat chunk.length) (s.frames buffer)) := by
  obtain ⟨cellPlen, rest, taken, -⟩ | ⟨buffer, cellPlen, rest, taken, given, frames, -⟩ :=
    buildPrefilled_traffic built
  · -- a template has a packet
    obtain ⟨-, buffer, impossible, -⟩ := prefilled.templates (none, cellPlen) (by simp [taken])
    cases impossible
  · obtain ⟨rfl, blank, -⟩ :=
      pristine_some.mp (prefilled.templates (some buffer, cellPlen) (by simp [taken]))
    exact ⟨buffer, rest, taken, given, blank, frames⟩

/-- A length that is not 0 spoils it. -/
theorem buildPrefilled_template_spoilt {chunk : List UInt8} {peer : Option (UInt32 × UInt32)}
    {crc : Bytes → UInt32} {assoc : SctpAssociation} {s after : Sender} {ret : Int}
    (prefilled : s.Prefilled)
    (built : buildPrefilled chunk peer crc assoc s.toEndpoint = some (ret, after.toEndpoint))
    (length : htons ((46 : UInt64).toUInt32 + UInt32.ofNat chunk.length - 14).toUInt16 ≠ 0) :
    ¬∀ entry ∈ held after.prefilledRing, Pristine after.frames entry := by
  intro templates
  obtain ⟨buffer, rest, -, given, -, frames⟩ := prefilled.built built
  obtain ⟨-, blank, -⟩ := pristine_some.mp (templates (some buffer, 46) (by simp [given]))
  rw [frames, Function.update_self, u16_builtFrame_len] at blank
  exact length blank

/-- A COOKIE ECHO that writes a length of 0 leaves its template as it was. -/
theorem buildPrefilled_template_kept {chunk : List UInt8} {crc : Bytes → UInt32}
    {assoc : SctpAssociation} {s after : Sender} {ret : Int} (prefilled : s.Prefilled)
    (built : buildPrefilled chunk none crc assoc s.toEndpoint = some (ret, after.toEndpoint))
    (bundling : after.bundling = s.bundling)
    (length : htons ((46 : UInt64).toUInt32 + UInt32.ofNat chunk.length - 14).toUInt16 = 0) :
    after.Prefilled := by
  obtain ⟨buffer, rest, taken, given, blank, frames⟩ := prefilled.built built
  refine ⟨fun entry member => ?_, by rw [bundling]; exact prefilled.waiting⟩
  -- the entries are those from before, in another order
  have before : entry ∈ held s.prefilledRing := by
    rw [given] at member
    rw [taken]
    exact (List.perm_append_singleton _ _).mem_iff.mp member
  rw [frames]
  refine (prefilled.templates entry before).update (fun _ => ?_) ?_
  · rw [u16_builtFrame_len, length]
  · exact (ipIntact_congr fun i _ high => builtFrame_blank length blank i high).mpr

/-- The padding of a length. -/
theorem toNat_pad (n : UInt32) : ((0 - n) &&& 3).toNat = (4 - n.toNat % 4) % 4 := by
  have bound := n.toNat_lt
  rw [UInt32.toNat_and, show (3 : UInt32).toNat = 2 ^ 2 - 1 from rfl, Nat.and_two_pow_sub_one_eq_mod,
    UInt32.toNat_sub, UInt32.toNat_zero]
  omega

theorem toNat_headed (taken : UInt32) (few : taken.toNat ≤ 1438) :
    (16 + taken).toNat = 16 + taken.toNat := by
  rw [UInt32.toNat_add, show (16 : UInt32).toNat = 16 from rfl, Nat.mod_eq_of_lt (by omega)]

/-- A chunk takes its header and its payload, filled up to a multiple of 4. -/
theorem toNat_dataLen {plen taken : UInt32} (short : plen.toNat < 1500) (few : taken.toNat ≤ 1438) :
    (dataLen plen taken).toNat = plen.toNat + (16 + taken.toNat + 3) / 4 * 4 := by
  have below : plen < 1500 := UInt32.lt_iff_toNat_lt.mpr short
  have headed := toNat_headed taken few
  have pad := toNat_pad (16 + taken)
  rw [dataLen, if_pos below, UInt32.toNat_add, UInt32.toNat_add, pad, headed]
  omega

/-- A frame that waits for a second chunk is longer than its headers. -/
theorem dataLen_ne {taken : UInt32} (few : taken.toNat ≤ 1438) :
    (dataLen (46 : UInt64).toUInt32 taken).toUInt64 ≠ 46 := by
  have bare : (46 : UInt64).toUInt32.toNat = 46 := rfl
  have longer := toNat_dataLen (by rw [bare]; decide) few
  rw [bare] at longer
  intro equal
  have total := congrArg UInt64.toNat equal
  rw [UInt32.toNat_toUInt64, longer, show (46 : UInt64).toNat = 46 from rfl] at total
  omega

/-- What a DATA chunk leaves of the templates. -/
theorem data_templates {s after : Sender} {streamId : UInt16} {ev : List DataEvent}
    (prefilled : s.Prefilled)
    (returned : buildPrefilledMacIpSctpDataHdr s streamId = some (after, ev)) :
    (s.KeepsTemplates (.data streamId) → after.Prefilled) ∧
    ((∀ entry ∈ held after.prefilledRing, Pristine after.frames entry) →
      s.KeepsTemplates (.data streamId)) := by
  obtain ⟨block, thread, buffer, cellPlen, bundled, rest, frame, plen, -, made, frames, way⟩ :=
    buildPrefilledMacIpSctpDataHdr_traffic returned
  have header := dataFrame_header (s.frames buffer) cellPlen.toUInt32 bundled s.assoc.verTag
    (s.prefilledChunk streamId block thread)
  rw [made] at header
  have kept {entry : Option Nat × UInt64} (pristine : Pristine s.frames entry) :
      Pristine after.frames entry := by
    rw [frames]
    exact pristine.update (fun blank => header.1.trans blank) fun _ => header.2
  rcases way with ⟨-, waiting, left, -, given, -⟩ | ⟨-, none, taken, given, sink⟩
  · -- the bundled frame goes to the templates if there is room
    have longer := prefilled.waiting (some buffer, cellPlen) (by simp [waiting])
    have waiting' : ∀ entry ∈ held after.bundling, entry.2 ≠ 46 := by
      intro entry member
      rw [left] at member
      exact prefilled.waiting entry (by simp [waiting, member])
    constructor
    · rintro (none | full)
      · rw [none] at waiting
        cases waiting
      · refine ⟨fun entry member => kept (prefilled.templates entry ?_), waiting'⟩
        rwa [given, offered, if_neg full] at member
    · intro templates
      right
      intro room
      rw [given, offered, if_pos room] at templates
      exact longer (templates (some buffer, cellPlen) (by simp)).1
  · refine ⟨fun _ => ⟨fun entry member => kept (prefilled.templates entry ?_), ?_⟩, fun _ => .inl none⟩
    · rw [given] at member
      rw [taken]
      exact (List.perm_append_singleton _ _).mem_iff.mp member
    · rcases sink with ⟨-, waits, -⟩ | ⟨-, left, -⟩
      · rw [waits]
        intro entry member
        rw [List.mem_singleton.mp member]
        obtain ⟨rfl, -⟩ :=
          pristine_some.mp (prefilled.templates (some buffer, cellPlen) (by simp [taken]))
        rw [dataFrame_plen made]
        exact dataLen_ne (by rw [toNat_min32]; exact Nat.min_le_left _ _)
      · rw [left]
        intro entry member
        cases member

/-- What a step leaves of the templates. -/
theorem circulate_templates {s after : Sender} {action : BufferAction} {ev : List Flow}
    (prefilled : s.Prefilled) (stepped : circulate s action = some (after, ev)) :
    (s.KeepsTemplates action → after.Prefilled) ∧
    ((∀ entry ∈ held after.prefilledRing, Pristine after.frames entry) →
      s.KeepsTemplates action) := by
  cases action with
  | initAck host assoc =>
    obtain ⟨⟨ret, built⟩, -⟩ := builds_eq_some stepped
    refine ⟨False.elim, fun templates => ?_⟩
    refine buildPrefilled_template_spoilt prefilled built ?_ templates
    rw [length_initAckChunk]
    decide
  | cookieEcho =>
    -- the one builder whose chunk has the length of something received
    simp only [circulate, buildPrefilledMacIpSctpCookieEchoHdr] at stepped
    split at stepped
    · cases stepped
    next cookie _ =>
      obtain ⟨⟨ret, built⟩, bundling, -⟩ := builds_eq_some stepped
      have length := cookieEcho_len_eq_zero s.assoc.id cookie
      constructor
      · intro id
        exact buildPrefilled_template_kept prefilled built bundling (length.mpr id)
      · intro templates
        by_contra other
        exact buildPrefilled_template_spoilt prefilled built (fun zero => other (length.mp zero)) templates
  | cookieAck =>
    obtain ⟨⟨ret, built⟩, -⟩ := builds_eq_some stepped
    refine ⟨False.elim, fun templates => ?_⟩
    exact buildPrefilled_template_spoilt prefilled built (by decide) templates
  | data streamId =>
    obtain ⟨ev', returned, -⟩ := circulate_data stepped
    exact data_templates prefilled returned
  | transmit =>
    simp only [circulate] at stepped
    split at stepped
    · cases stepped
    · split at stepped
      · cases stepped
        exact ⟨fun _ => ⟨prefilled.templates, prefilled.waiting⟩, fun _ => trivial⟩
      · cases stepped
        exact ⟨fun _ => ⟨prefilled.templates, prefilled.waiting⟩, fun _ => trivial⟩
  | change assoc buffers =>
    cases stepped
    exact ⟨fun _ => ⟨prefilled.templates, prefilled.waiting⟩, fun _ => trivial⟩

/-- The templates are pristine in every state of a run exactly if every call along it leaves them
so. -/
theorem templates_pristine_iff (s after : Sender) (actions : List BufferAction) (log : List Flow)
    (templates : ∀ entry ∈ held s.prefilledRing, Pristine s.frames entry)
    (idle : held s.bundling = []) (ran : run circulate s actions = some (after, log)) :
    (∀ done s' log', done <+: actions → run circulate s done = some (s', log') →
      ∀ entry ∈ held s'.prefilledRing, Pristine s'.frames entry) ↔
    Along circulate Sender.KeepsTemplates s actions := by
  have start : s.Prefilled := ⟨templates, by simp [idle]⟩
  exact forall_reached_iff_along circulate Sender.KeepsTemplates Sender.Prefilled
    (fun s => ∀ entry ∈ held s.prefilledRing, Pristine s.frames entry)
    (fun _ prefilled => prefilled.templates)
    (fun s action s' ev prefilled stepped => circulate_templates prefilled stepped) actions s after
    log start ran

/-- A client with two templates that `prefill_mac_ip_sctp` made. -/
def prefilledClient (lengths : List UInt32) : Sender :=
  { streamingClient 0 lengths with
    frames := fun _ => put (fun _ => 0) 0
      (templateHdr ((clientArgs 4000 none none 8 2).meta (.replicate 6 3) (.replicate 6 2)) 5) }

theorem prefilledClient_templates (lengths : List UInt32) :
    ∀ entry ∈ held (prefilledClient lengths).prefilledRing,
      Pristine (prefilledClient lengths).frames entry := by
  let state := (clientArgs 4000 none none 8 2).meta (.replicate 6 3) (.replicate 6 2)
  have made : prefillMacIpSctp 5 (some fun _ => 0) (some ⟨0, some state⟩) =
      some (⟨46, some state⟩, put (fun _ => 0) 0 (templateHdr state 5)) := rfl
  obtain ⟨-, blank, intact⟩ := prefillMacIpSctp_pristine made
  intro entry member
  have cells : held (prefilledClient lengths).prefilledRing = [(some 0, 46), (some 1, 46)] :=
    contents_twoTemplates
  rw [cells, List.mem_cons, List.mem_singleton] at member
  rcases member with rfl | rfl
  · exact pristine_some.mpr ⟨rfl, blank, intact⟩
  · exact pristine_some.mpr ⟨rfl, blank, intact⟩

theorem templates_pristine_iff_unbundled : ∃ after log,
    run circulate (prefilledClient [10]) [.data 0] = some (after, log) ∧
    ∀ entry ∈ held after.prefilledRing, Pristine after.frames entry := by
  have returns : (run circulate (prefilledClient [10]) [.data 0]).isSome = true := by
    decide +kernel
  obtain ⟨⟨after, log⟩, ran⟩ := Option.isSome_iff_exists.mp returns
  have idle : held (prefilledClient [10]).bundling = [] := by decide +kernel
  refine ⟨after, log, ran, ?_⟩
  exact (templates_pristine_iff (prefilledClient [10]) after [.data 0] log
    (prefilledClient_templates [10]) idle ran).mpr ⟨.inl idle, fun _ _ _ => trivial⟩ _ after log
    (List.prefix_refl _) ran

/-- After one COOKIE ACK a template with a length in its IP header is back on the ring. -/
theorem template_spoilt :
    (∀ entry ∈ held (prefilledClient [10]).prefilledRing,
      Pristine (prefilledClient [10]).frames entry) ∧
    ∃ after log, run circulate (prefilledClient [10]) [.cookieAck] = some (after, log) ∧
      (some 0, 46) ∈ held after.prefilledRing ∧ ntohs (u16 (after.frames 0) 16) = 36 ∧
      ¬∀ entry ∈ held after.prefilledRing, Pristine after.frames entry := by
  refine ⟨prefilledClient_templates [10], ?_⟩
  have ran : (run circulate (prefilledClient [10]) [.cookieAck]).map
      (fun ran => (held ran.1.prefilledRing, u16 (ran.1.frames 0) 16)) =
      some ([(some 1, 46), (some 0, 46)], htons 36) := by
    decide +kernel
  obtain ⟨⟨after, log⟩, ran, values⟩ := Option.map_eq_some_iff.mp ran
  simp only [Prod.mk.injEq] at values
  obtain ⟨cells, length⟩ := values
  have back : (some 0, 46) ∈ held after.prefilledRing := by simp [cells]
  refine ⟨after, log, ran, back, by rw [length, ntohs_htons], ?_⟩
  intro templates
  obtain ⟨-, blank, -⟩ := pristine_some.mp (templates (some 0, 46) back)
  rw [length] at blank
  exact absurd blank (by decide)

end Kpnet.Sctp
