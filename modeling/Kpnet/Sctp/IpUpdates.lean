import Kpnet.Sctp.Raw
import Kpnet.Sctp.Templates

/-!
# The IP checksum brought up to date

The builders do not sum up the IP header again: they take the words they have changed off the
checksum of the template. `build_prefilled_mac_ip_sctp_cookie_echo_hdr.c` does so in 32 bits with one
carry brought back, `..._init_ack_hdr.c` and `..._cookie_ack_hdr.c` take off a whole address that
way, and `build_prefilled_sctp_init_hdr.c` works on the 16 bits of the field.
-/
namespace Kpnet.Sctp

open Bytes OnesComplement

/-- What is taken off a checksum is less than it, or exceeds it by a number with a low half that is
not 0 and halves that add up to a word. Only then is the borrow made good by the carry that is cut
off. -/
def BorrowCancels (check taken : Nat) : Prop :=
  taken ≤ check ∨
    (taken - check) % 65536 ≠ 0 ∧ (taken - check) % 65536 + (taken - check) / 65536 ≤ 65535

instance (check taken : Nat) : Decidable (BorrowCancels check taken) :=
  inferInstanceAs (Decidable (_ ∨ _))

/-- A word that is taken off alone does no harm. -/
theorem borrowCancels_word {check taken : Nat} (word : taken < 65536) : BorrowCancels check taken := by
  rw [BorrowCancels]
  omega

/-- A sum in 32 bits is brought back to 16 in one go, and what is left over is cut off. -/
theorem toNat_foldCheck_toUInt16 (chk : UInt32) :
    (foldCheck chk).toUInt16.toNat = (chk.toNat % 65536 + chk.toNat / 65536) % 65536 := by
  rw [UInt32.toNat_toUInt16, foldCheck]
  split
  next carries => rw [toNat_carry]
  next fits =>
    have low := Nat.le_of_not_lt fun high => fits (UInt32.lt_iff_toNat_lt.mpr high)
    rw [show (0xFFFF : UInt32).toNat = 65535 from rfl] at low
    omega

/-- The word that is left of `x`, which is the checksum less what is taken off, `wraps` times round
32 bits: one carry is cut off in place of each time round exactly if the borrow cancels. -/
theorem folded_congr_iff {check taken x wraps : Nat} (small : check < 65535) (low : x < 2 ^ 32)
    (few : wraps ≤ 2) (around : x + taken = check + wraps * 2 ^ 32) :
    ((x % 65536 + x / 65536) % 65536 + taken) % 65535 = check % 65535 ∧
      (x % 65536 + x / 65536) % 65536 < 65535 ↔ BorrowCancels check taken := by
  obtain ⟨w, h, word, split⟩ : ∃ w h, w < 65536 ∧ x = w + 65536 * h :=
    ⟨x % 65536, x / 65536, Nat.mod_lt _ (by omega), (Nat.mod_add_div x 65536).symm⟩
  have halves : x % 65536 = w ∧ x / 65536 = h := by omega
  rw [halves.1, halves.2, BorrowCancels]
  have cases : wraps = 0 ∨ wraps = 1 ∨ wraps = 2 := by omega
  rcases cases with rfl | rfl | rfl
  · -- nothing was borrowed
    have none : h = 0 := by omega
    subst none
    omega
  · -- one borrow: 2 ^ 32 is 1 in ones' complement, and so is a carry that is cut off
    by_cases carry : w + h < 65536
    · rw [Nat.mod_eq_of_lt carry]
      omega
    · have cut : (w + h) % 65536 = w + h - 65536 := by omega
      rw [cut]
      omega
  · -- two borrows are never made good
    by_cases carry : w + h < 65536
    · rw [Nat.mod_eq_of_lt carry]
      omega
    · have cut : (w + h) % 65536 = w + h - 65536 := by omega
      rw [cut]
      omega

/-- The checksum of a header whose other words have changed by `taken` in all. -/
theorem restamped_intact_iff {before after : Bytes} (taken : Nat) (start : before 14 ≠ 0)
    (start' : after 14 ≠ 0) (intact : IpIntact before)
    (sum : ipSum after % 65535 = (ipSum before + taken) % 65535) :
    IpIntact after ↔ ((u16 after 24).toNat + taken) % 65535 = (u16 before 24).toNat % 65535 ∧
      (u16 after 24).toNat < 65535 := by
  have zero := ((ipIntact_iff (ipSum_pos start)).mp intact).1
  rw [wordSum_eq_ipSum] at zero
  rw [ipIntact_iff (ipSum_pos start'), wordSum_eq_ipSum]
  have same : ((u16 after 24).toNat + ipSum after) % 65535 = 0 ↔
      ((u16 after 24).toNat + taken) % 65535 = (u16 before 24).toNat % 65535 := by
    omega
  rw [same]

/-- A word and an address taken off in 32 bits, with as many borrows as it takes. -/
theorem exists_wraps (check len : UInt16) (addr : UInt32) :
    ∃ wraps ≤ 2, (check.toUInt32 + (0 - len.toUInt32 - addr)).toNat + (len.toNat + addr.toNat) =
      check.toNat + wraps * 2 ^ 32 := by
  have checkBound := check.toNat_lt
  have lenBound := len.toNat_lt
  have addrBound := addr.toNat_lt
  have off : (0 - len.toUInt32 - addr).toNat =
      (2 ^ 32 - addr.toNat + (2 ^ 32 - len.toNat) % 2 ^ 32) % 2 ^ 32 := by
    rw [UInt32.toNat_sub, UInt32.toNat_sub, UInt16.toNat_toUInt32, UInt32.toNat_zero, Nat.add_zero]
  rw [UInt32.toNat_add, UInt16.toNat_toUInt32]
  generalize (0 - len.toUInt32 - addr).toNat = x at off ⊢
  refine ⟨((check.toNat + x) % 2 ^ 32 + (len.toNat + addr.toNat) - check.toNat) / 2 ^ 32, ?_, ?_⟩
  · omega
  · omega

section Stamp

variable (frame : Bytes) (plen : UInt32)

theorem u16_stampIp_check (destAddr : Option UInt32) :
    u16 (stampIp frame plen destAddr) 24 = (foldCheck ((u16 frame 24).toUInt32 +
      (0 - (htons (plen - 14).toUInt16).toUInt32 - destAddr.getD 0))).toUInt16 := by
  cases destAddr with
  | none =>
    simp only [stampIp, Option.getD_none, UInt32.sub_zero]
    rw [u16_put_self]
  | some addr =>
    simp only [stampIp, Option.getD_some]
    rw [u16_put_self, u16_put_of_disjoint _ _ _ _ (by simp)]

/-- The first byte of the header is not touched. -/
theorem stampIp_start (destAddr : Option UInt32) : stampIp frame plen destAddr 14 = frame 14 := by
  simp only [stampIp]
  rw [put_before _ _ _ _ (by omega), put_before _ _ _ _ (by omega)]
  cases destAddr with
  | none => rfl
  | some addr => exact put_before _ _ _ _ (by omega)

variable {frame} (start : frame 14 ≠ 0) (blank : u16 frame 16 = 0) (intact : IpIntact frame)

include start intact in
/-- An update is right exactly if the borrow cancels. -/
theorem stampIp_intact_iff (destAddr : Option UInt32)
    (sum : ipSum (stampIp frame plen destAddr) % 65535 =
      (ipSum frame + ((htons (plen - 14).toUInt16).toNat + (destAddr.getD 0).toNat)) % 65535) :
    IpIntact (stampIp frame plen destAddr) ↔ BorrowCancels (u16 frame 24).toNat
      ((htons (plen - 14).toUInt16).toNat + (destAddr.getD 0).toNat) := by
  have small := ((ipIntact_iff (ipSum_pos start)).mp intact).2
  obtain ⟨wraps, few, around⟩ :=
    exists_wraps (u16 frame 24) (htons (plen - 14).toUInt16) (destAddr.getD 0)
  rw [restamped_intact_iff _ start (by rwa [stampIp_start]) intact sum, u16_stampIp_check,
    toNat_foldCheck_toUInt16]
  exact folded_congr_iff small (UInt32.toNat_lt _) few around

include blank in
theorem ipSum_stampIp_none :
    ipSum (stampIp frame plen none) = ipSum frame + (htons (plen - 14).toUInt16).toNat := by
  have sum := ipSum_put_word frame (k := 1) (htons (plen - 14).toUInt16) (by omega) (by omega)
  simp only [Nat.mul_one, Nat.reduceAdd, blank, UInt16.toNat_zero, Nat.add_zero] at sum
  simp only [stampIp]
  rw [ipSum_put_check, sum]

include start blank intact in
/-- Where only the length is taken off, the update is always right. -/
theorem stampIp_intact : IpIntact (stampIp frame plen none) := by
  rw [stampIp_intact_iff plen start intact none (by
    rw [ipSum_stampIp_none plen blank, Option.getD_none, UInt32.toNat_zero, Nat.add_zero])]
  apply borrowCancels_word
  exact UInt16.toNat_lt _

/-- The two words of an address. -/
theorem ipSum_put_addr (packet : Bytes) (addr : UInt32) :
    ipSum (put packet 30 (le32 addr)) + ((u16 packet 30).toNat + (u16 packet 32).toNat) =
      ipSum packet + (addr.toNat % 65536 + addr.toNat / 65536) := by
  have bound := addr.toNat_lt
  have low := ipSum_put_word packet (k := 8) (UInt16.ofNat addr.toNat) (by omega) (by omega)
  have high := ipSum_put_word (put packet 30 (le16 (UInt16.ofNat addr.toNat))) (k := 9)
    (UInt16.ofNat (addr.toNat / 65536)) (by omega) (by omega)
  simp only [Nat.reduceMul, Nat.reduceAdd, UInt16.toNat_ofNat'] at low high
  rw [u16_put_of_disjoint _ _ _ _ (by simp)] at high
  rw [le32_eq, put_append, length_le16, show 30 + 2 = 32 from rfl]
  omega

include blank in
/-- The address that stands for any is as good as none. -/
theorem ipSum_stampIp_some (any : u32 frame 30 = 0xFFFFFFFF) (addr : UInt32) :
    ipSum (stampIp frame plen (some addr)) % 65535 =
      (ipSum frame + ((htons (plen - 14).toUInt16).toNat + addr.toNat)) % 65535 := by
  have bytes : slice frame 30 4 = [0xFF, 0xFF, 0xFF, 0xFF] := by
    rw [← le32_u32, any]
    rfl
  have low : (u16 frame 30).toNat = 65535 := by
    rw [u16_of_slice bytes 0 0xFFFF (by omega) rfl]
    rfl
  have high : (u16 frame 32).toNat = 65535 := by
    rw [u16_of_slice bytes 2 0xFFFF (by omega) rfl]
    rfl
  have address := ipSum_put_addr frame addr
  have len := ipSum_put_word (put frame 30 (le32 addr)) (k := 1) (htons (plen - 14).toUInt16)
    (by omega) (by omega)
  simp only [Nat.mul_one, Nat.reduceAdd] at len
  rw [u16_put_of_disjoint _ _ _ _ (by simp), blank, UInt16.toNat_zero, Nat.add_zero] at len
  -- the two words of that address are the highest word twice, which is 0 but for the sign
  rw [low, high] at address
  simp only [stampIp]
  rw [ipSum_put_check, len]
  omega

end Stamp

/-- The update reads and writes the IP header only. -/
theorem stampIp_congr {frame frame' : Bytes} (same : ∀ i < 34, frame i = frame' i) (plen : UInt32)
    (destAddr : Option UInt32) (i : Nat) (low : i < 34) :
    stampIp frame plen destAddr i = stampIp frame' plen destAddr i := by
  have check : u16 frame 24 = u16 frame' 24 := u16_congr fun i low => same (24 + i) (by omega)
  cases destAddr with
  | none => simp only [stampIp, Bytes.put, check, same i low]
  | some addr =>
    simp only [stampIp]
    rw [u16_put_of_disjoint _ _ _ _ (by simp), u16_put_of_disjoint _ _ _ _ (by simp), check]
    simp only [Bytes.put, same i low]

/-- The IP header of a built frame is what the update makes of that of the template. -/
theorem builtFrame_intact_iff (chunk : List UInt8) (peer : Option (UInt32 × UInt32))
    (crc : Bytes → UInt32) (tag plen : UInt32) (template : Bytes) :
    IpIntact (builtFrame chunk peer crc tag plen template) ↔
      IpIntact (stampIp template plen (peer.map Prod.fst)) := by
  apply ipIntact_congr
  intro i low high
  have update := stampIp_congr (fun i (front : i < 34) => put_before template 46 i chunk (by omega))
    plen (peer.map Prod.fst) i high
  rw [← update, builtFrame]
  simp only [stampCmn]
  rw [put_before _ _ _ _ (by omega), put_before _ _ _ _ (by omega), put_before _ _ _ _ (by omega)]
  cases peer with
  | none => rfl
  | some peer => exact put_before _ _ _ _ (by omega)

/-- A template that `prefill_mac_ip_sctp` wrote for this record, with any TTL in the place of the one
it writes, and with the checksum for that. -/
structure TemplateFor (state : IfIpSctpMeta) (template : Bytes) : Prop where
  written : ∃ random plen before made packet,
    prefillMacIpSctp random (some before) (some ⟨plen, some state⟩) = some (made, packet) ∧
    ∀ i, i ≠ 22 → i ≠ 24 → i ≠ 25 → template i = packet i
  intact : IpIntact template

theorem prefillMacIpSctp_templateFor {random : UInt32} {plen : UInt16} {before packet : Bytes}
    {state : IfIpSctpMeta} {made : FrameData}
    (written : prefillMacIpSctp random (some before) (some ⟨plen, some state⟩) =
      some (made, packet)) : TemplateFor state packet :=
  ⟨⟨random, plen, before, made, packet, written, fun _ _ _ _ => rfl⟩,
    (prefillMacIpSctp_pristine written).2.2⟩

namespace TemplateFor

variable {state : IfIpSctpMeta} {template : Bytes} (written : TemplateFor state template)

include written

/-- The fields that the updates rest on. -/
theorem fields : template 14 ≠ 0 ∧ u16 template 16 = 0 ∧ u32 template 30 = state.dstIp := by
  obtain ⟨⟨random, plen, before, made, packet, prefilled, same⟩, -⟩ := written
  cases prefilled
  obtain ⟨check, -, found⟩ := slice_template before state random.toUInt16
  generalize put before 0 (templateHdr state random.toUInt16) = packet at found same
  refine ⟨?_, ?_, ?_⟩
  · rw [same 14 (by omega) (by omega) (by omega), head_of_slice found]
    decide
  · rw [u16_congr fun i low => same (16 + i) (by omega) (by omega) (by omega)]
    exact (u16_of_slice found 2 (htons 0) (by omega) rfl).trans (by decide)
  · rw [u32_congr fun i low => same (30 + i) (by omega) (by omega) (by omega)]
    exact u32_of_slice found 16 state.dstIp (by omega) rfl

end TemplateFor

/-- A COOKIE ECHO is built, with the length of the frame in its IP header, and queued; and the checksum
is what summing up its header would give, whatever the template and the cookie are. -/
theorem cookieEcho_checksum_exact (state : IfIpSctpMeta) (assoc : SctpAssociation) (e : Endpoint)
    (buffer : Nat) (cellPlen : UInt64) (cookie : Bytes)
    (written : TemplateFor state (e.frames buffer)) (supplied : e.Supplied)
    (template : e.Template buffer cellPlen) (given : assoc.retryRing = some cookie) :
    let plen := cellPlen.toUInt32 + UInt32.ofNat (4 + assoc.id.toNat)
    ∃ after, buildPrefilledMacIpSctpCookieEchoHdr assoc e = some (0, after) ∧
      Queued e buffer cellPlen (after.frames buffer) plen after ∧
      slice (after.frames buffer) 46 (4 + assoc.id.toNat) = cookieEchoChunk assoc.id cookie ∧
      u16 (after.frames buffer) 16 = htons (plen - 14).toUInt16 ∧
      u16 (after.frames buffer) 24 =
        ~~~(ipChecksum (shift (put (after.frames buffer) 24 (le16 0)) 14) 20).toUInt16 := by
  intro plen
  obtain ⟨start, blank, -⟩ := written.fields
  obtain ⟨after, built, queued⟩ := buildPrefilled_template (cookieEchoChunk assoc.id cookie) none
    (fun cmn => generateCrc32c cmn (12 + (ntohs (htons (4 + assoc.id))).toUInt32)) assoc supplied
    template
  have length := length_cookieEchoChunk assoc.id cookie
  rw [length] at queued
  have frame := queued.frames_self
  refine ⟨after, ?_, ?_, ?_, ?_, ?_⟩
  · rw [buildPrefilledMacIpSctpCookieEchoHdr, given]
    exact built
  · rw [frame]
    exact queued
  · rw [frame]
    exact slice_builtFrame _ _ _ _ _ _ length
  · rw [frame]
    exact u16_builtFrame_len _ _ _ _ _ _
  · rw [frame]
    apply (builtFrame_intact_iff _ _ _ _ _ _).mpr
    exact stampIp_intact _ start blank written.intact

/-- The record of a client. -/
def clientState : IfIpSctpMeta :=
  (clientArgs 4000 none none 8 2).meta (.replicate 6 3) (.replicate 6 2)

theorem cookieEcho_checksum_exact_prefilled :
    ∃ after, buildPrefilledMacIpSctpCookieEchoHdr
        { createdClient.assoc with retryRing := some fun _ => 7, id := 56 }
        (prefilledClient []).toEndpoint = some (0, after) ∧
      held after.txRing = [(some 0, 106)] ∧
      slice (after.frames 0) 46 60 = [10, 0, 0, 60] ++ .replicate 56 7 ∧
      u16 (after.frames 0) 16 = htons 92 ∧
      u16 (after.frames 0) 24 =
        ~~~(ipChecksum (shift (put (after.frames 0) 24 (le16 0)) 14) 20).toUInt16 := by
  have made : prefillMacIpSctp 5 (some fun _ => 0) (some ⟨0, some clientState⟩) =
      some (⟨46, some clientState⟩, (prefilledClient []).frames 0) := rfl
  obtain ⟨after, built, queued, chunk, len, check⟩ := cookieEcho_checksum_exact clientState
    { createdClient.assoc with retryRing := some fun _ => 7, id := 56 }
    (prefilledClient []).toEndpoint 0 46 (fun _ => 7)
    (prefillMacIpSctp_templateFor made) (Endpoint.fresh_supplied createdClient.assoc)
    (Endpoint.fresh_template createdClient.assoc) rfl
  refine ⟨after, built, ?_, chunk, len, check⟩
  rw [queued.held_tx]
  exact offered_empty _ contents_popped_twoTemplates _

/-- An answer to a peer from a template for any peer: its checksum is right exactly if the borrow
cancels. -/
theorem answer_intact_iff {state : IfIpSctpMeta} {template : Bytes}
    (written : TemplateFor state template) (any : state.dstIp = 0xFFFFFFFF) (chunk : List UInt8)
    (addr port tag plen : UInt32) (crc : Bytes → UInt32) :
    IpIntact (builtFrame chunk (some (addr, port)) crc tag plen template) ↔
      BorrowCancels (u16 template 24).toNat ((htons (plen - 14).toUInt16).toNat + addr.toNat) := by
  obtain ⟨start, blank, dest⟩ := written.fields
  rw [builtFrame_intact_iff]
  exact stampIp_intact_iff plen start written.intact (some addr)
    (ipSum_stampIp_some plen blank (dest.trans any) addr)

section Answers

variable {state : IfIpSctpMeta} (any : state.dstIp = 0xFFFFFFFF) (assoc : SctpAssociation)
  {e : Endpoint} {buffer : Nat} (written : TemplateFor state (e.frames buffer))
  (supplied : e.Supplied) (template : e.Template buffer 46)

include any written supplied template

theorem initAck_intact_iff (host : Host) :
    ∃ after, buildPrefilledMacIpSctpInitAckHdr host assoc e = some (0, after) ∧
      (IpIntact (after.frames buffer) ↔ BorrowCancels (u16 (e.frames buffer) 24).toNat
        ((htons 112).toNat + assoc.dstIp.toNat)) := by
  obtain ⟨after, built, queued⟩ := buildPrefilled_template (initAckChunk host assoc)
    (some (assoc.dstIp, assoc.dstPort)) (fun cmn => ~~~(generateCrc32cOnCrc32c cmn
      (12 + (ntohs (htons 80)).toUInt32) 0xFFFFFFFF).toUInt32) assoc supplied template
  refine ⟨after, built, ?_⟩
  rw [queued.frames_self, length_initAckChunk]
  exact answer_intact_iff written any _ _ _ _ _ _

theorem cookieAck_intact_iff :
    ∃ after, buildPrefilledMacIpSctpCookieAckHdr assoc e = some (0, after) ∧
      (IpIntact (after.frames buffer) ↔ BorrowCancels (u16 (e.frames buffer) 24).toNat
        ((htons 36).toNat + assoc.dstIp.toNat)) := by
  obtain ⟨after, built, queued⟩ := buildPrefilled_template (fldHdr sctpCookieAck (htons 4))
    (some (assoc.dstIp, assoc.dstPort)) (fun cmn => ~~~(generateCrc32cOnCrc32c cmn (12 + 4)
      0xFFFFFFFF).toUInt32) assoc supplied template
  refine ⟨after, built, ?_⟩
  rw [queued.frames_self]
  exact answer_intact_iff written any _ _ _ _ _ _

end Answers

/-- The checksum of an INIT ACK or a COOKIE ACK of a server is what summing up its header would give
exactly if length and address of the peer can be taken off that of the template with a borrow that
cancels. -/
theorem answers_checksum_exact_iff (state : IfIpSctpMeta) (any : state.dstIp = 0xFFFFFFFF)
    (host : Host) (assoc : SctpAssociation) (e : Endpoint) (buffer : Nat)
    (written : TemplateFor state (e.frames buffer)) (supplied : e.Supplied)
    (template : e.Template buffer 46) :
    (∃ after, buildPrefilledMacIpSctpInitAckHdr host assoc e = some (0, after) ∧
      (u16 (after.frames buffer) 24 =
          ~~~(ipChecksum (shift (put (after.frames buffer) 24 (le16 0)) 14) 20).toUInt16 ↔
        BorrowCancels (u16 (e.frames buffer) 24).toNat ((htons 112).toNat + assoc.dstIp.toNat))) ∧
    (∃ after, buildPrefilledMacIpSctpCookieAckHdr assoc e = some (0, after) ∧
      (u16 (after.frames buffer) 24 =
          ~~~(ipChecksum (shift (put (after.frames buffer) 24 (le16 0)) 14) 20).toUInt16 ↔
        BorrowCancels (u16 (e.frames buffer) 24).toNat ((htons 36).toNat + assoc.dstIp.toNat))) :=
  ⟨initAck_intact_iff any assoc written supplied template host,
    cookieAck_intact_iff any assoc written supplied template⟩

/-- The record of a server that waits for any peer. -/
def serverState : IfIpSctpMeta := (serverArgs none none 7 1).meta (.replicate 6 2) (.replicate 6 3)

/-- A server with two templates that `prefill_mac_ip_sctp` made for it. -/
def templatedServer : Endpoint :=
  { createdServer with frames := fun _ => put (fun _ => 0) 0 (templateHdr serverState 0) }

theorem templateFor_server : TemplateFor serverState (templatedServer.frames 0) :=
  prefillMacIpSctp_templateFor (show prefillMacIpSctp 0 (some fun _ => 0)
    (some ⟨0, some serverState⟩) = some (⟨46, some serverState⟩, templatedServer.frames 0) from rfl)

/-- The association of a server whose peer has this address. -/
def peerAssoc (addr : UInt32) : SctpAssociation := { createdServer.assoc with dstIp := addr }

theorem answers_checksum_exact_iff_server :
    (∃ after, buildPrefilledMacIpSctpInitAckHdr ⟨1, 2, 3, some⟩ (peerAssoc 0x0201A8C0)
        templatedServer = some (0, after) ∧ IpIntact (after.frames 0)) ∧
    ∃ after, buildPrefilledMacIpSctpCookieAckHdr (peerAssoc 0x0201A8C0) templatedServer =
        some (0, after) ∧ IpIntact (after.frames 0) := by
  have both := answers_checksum_exact_iff serverState rfl ⟨1, 2, 3, some⟩ (peerAssoc 0x0201A8C0)
    templatedServer 0 templateFor_server (Endpoint.fresh_supplied createdServer.assoc)
    (Endpoint.fresh_template createdServer.assoc)
  obtain ⟨⟨initAck, built, exact⟩, cookieAck, built', exact'⟩ := both
  exact ⟨⟨initAck, built, exact.mpr (by decide +kernel)⟩, cookieAck, built',
    exact'.mpr (by decide +kernel)⟩

/-- To a peer at 192.168.1.200 both answers are sent with a wrong checksum. -/
theorem answers_checksum_off :
    TemplateFor serverState (templatedServer.frames 0) ∧ serverState.dstIp = 0xFFFFFFFF ∧
    (∃ after, buildPrefilledMacIpSctpInitAckHdr ⟨1, 2, 3, some⟩ (peerAssoc 0xC801A8C0)
        templatedServer = some (0, after) ∧
      u16 (after.frames 0) 24 ≠
        ~~~(ipChecksum (shift (put (after.frames 0) 24 (le16 0)) 14) 20).toUInt16) ∧
    ∃ after, buildPrefilledMacIpSctpCookieAckHdr (peerAssoc 0xC801A8C0) templatedServer =
        some (0, after) ∧
      u16 (after.frames 0) 24 ≠
        ~~~(ipChecksum (shift (put (after.frames 0) 24 (le16 0)) 14) 20).toUInt16 := by
  have supplied : templatedServer.Supplied := Endpoint.fresh_supplied createdServer.assoc
  have template : templatedServer.Template 0 46 := Endpoint.fresh_template createdServer.assoc
  obtain ⟨initAck, built, exact⟩ := initAck_intact_iff rfl (peerAssoc 0xC801A8C0) templateFor_server
    supplied template ⟨1, 2, 3, some⟩
  obtain ⟨cookieAck, built', exact'⟩ := cookieAck_intact_iff rfl (peerAssoc 0xC801A8C0)
    templateFor_server supplied template
  refine ⟨templateFor_server, rfl, ⟨initAck, built, ?_⟩, cookieAck, built', ?_⟩
  · exact fun intact => absurd (exact.mp intact) (by decide +kernel)
  · exact fun intact => absurd (exact'.mp intact) (by decide +kernel)

/-- `frame_data_t` with the buffer that `prefill` points into. -/
structure PrefillFrame extends FrameData where
  buffer : Bytes
  prefill : Option Nat

/-- `build_prefilled_sctp_init_hdr`; `tag` and `tsn` are the draws for the header of the chunk. The
pointer is left behind the headers. -/
def buildPrefilledSctpInitHdr (tag tsn : UInt32) (frame : Option PrefillFrame) :
    Option PrefillFrame :=
  match frame with
  | none => none
  | some frame =>
    match frame.prefill, frame.state with
    | some packet, some state =>
      let c : Cursor := ⟨frame.buffer, some (packet + (14 + 20 + 12 + 4 + 16)), 0⟩
      let c := buildSctpInitHdrRaw tag state.srcArwnd state.srcOs state.srcMis tsn c
      let c := buildSctpFldHdrRaw sctpInit 0 (c.plen + 4) c
      let plen := c.plen + frame.plen
      let len := u16 c.buffer (packet + 16)
      let buffer := put c.buffer (packet + 16) (le16 (ntohs (plen - 14)))
      let check := u16 buffer (packet + 24) + (len - ntohs (plen - 14))
      -- the test is made on the field, which has 16 bits
      let check := (foldCheck check.toUInt32).toUInt16
      let buffer := put buffer (packet + 24) (le16 check)
      let buffer := put buffer (packet + 42) (le32 0)
      let crc := generateCrc32c (shift buffer (packet + 34)) (plen.toUInt32 - 34)
      some { plen := plen
             state := some state
             buffer := put buffer (packet + 42) (le32 crc)
             prefill := c.packet }
    | _, _ => none

/-- The test finds no carry in 16 bits. -/
theorem foldCheck_word (check : UInt16) : (foldCheck check.toUInt32).toUInt16 = check := by
  have small := check.toNat_lt
  apply UInt16.toNat_inj.mp
  rw [toNat_foldCheck_toUInt16, UInt16.toNat_toUInt32]
  omega

/-- The chunk is put behind the headers. -/
theorem initChunk_cursor (tag aRwnd : UInt32) (os mis : UInt16) (tsn : UInt32) (buffer : Bytes)
    (o : Nat) :
    let c := buildSctpInitHdrRaw tag aRwnd os mis tsn ⟨buffer, some (o + (14 + 20 + 12 + 4 + 16)), 0⟩
    let c := buildSctpFldHdrRaw sctpInit 0 (c.plen + 4) c
    c.plen = 20 ∧ c.packet = some (o + 46) ∧ ∀ i < o + 46, c.buffer i = buffer i := by
  refine ⟨rfl, rfl, ?_⟩
  intro i low
  simp only [buildSctpFldHdrRaw, buildSctpInitHdrRaw, Cursor.prepend]
  rw [put_before _ _ _ _ (by simp [SctpInitHdr.encode]; omega),
    put_before _ _ _ _ (by simp [SctpInitHdr.encode]; omega)]

/-- What the call leaves of the IP header. -/
theorem buildPrefilledSctpInitHdr_header (tag tsn : UInt32) {frame : PrefillFrame} {o : Nat}
    {state : IfIpSctpMeta} (pointer : frame.prefill = some o) (found : frame.state = some state)
    (plen : frame.plen = 46) (blank : u16 (shift frame.buffer o) 16 = 0) :
    ∃ after, buildPrefilledSctpInitHdr tag tsn (some frame) = some after ∧
      ∀ i < 34, shift after.buffer o i =
        put (put (shift frame.buffer o) 16 (le16 (htons 52))) 24
          (le16 (u16 (shift frame.buffer o) 24 - htons 52)) i := by
  obtain ⟨count, -, front⟩ :=
    initChunk_cursor tag state.srcArwnd state.srcOs state.srcMis tsn frame.buffer o
  simp only [buildPrefilledSctpInitHdr, pointer, found, foldCheck_word, plen]
  generalize buildSctpFldHdrRaw sctpInit 0 _ _ = c at count front ⊢
  refine ⟨_, rfl, ?_⟩
  intro i low
  have len : u16 c.buffer (o + 16) = 0 := by
    rw [← blank, u16_shift]
    exact u16_congr fun k small => front (o + 16 + k) (by omega)
  have check : u16 c.buffer (o + 24) = u16 (shift frame.buffer o) 24 := by
    rw [u16_shift]
    exact u16_congr fun k small => front (o + 24 + k) (by omega)
  dsimp only
  rw [count, len, u16_put_of_disjoint _ _ _ _ (by simp), check,
    show (20 + 46 - 14 : UInt16) = 52 from rfl, UInt16.zero_sub, ← UInt16.sub_eq_add_neg, shift_put,
    put_before _ _ _ _ (by omega), shift_put, put_before _ _ _ _ (by omega), shift_put, shift_put]
  have byte : shift c.buffer o i = shift frame.buffer o i := front (o + i) (by omega)
  simp only [Bytes.put, byte]
  rfl

theorem init_intact_iff (tag tsn : UInt32) {frame : PrefillFrame} {o : Nat} {state : IfIpSctpMeta}
    (pointer : frame.prefill = some o) (found : frame.state = some state) (plen : frame.plen = 46)
    (written : TemplateFor state (shift frame.buffer o)) :
    ∃ after, buildPrefilledSctpInitHdr tag tsn (some frame) = some after ∧
      (IpIntact (shift after.buffer o) ↔
        (htons 52).toNat ≤ (u16 (shift frame.buffer o) 24).toNat) := by
  obtain ⟨start, blank, -⟩ := written.fields
  obtain ⟨after, built, header⟩ :=
    buildPrefilledSctpInitHdr_header tag tsn pointer found plen blank
  refine ⟨after, built, ?_⟩
  generalize shift frame.buffer o = template at *
  have sum := ipSum_put_word template (k := 1) (htons 52) (by omega) (by omega)
  simp only [Nat.mul_one, Nat.reduceAdd, blank, UInt16.toNat_zero, Nat.add_zero] at sum
  rw [ipIntact_congr fun i _ high => header i high,
    restamped_intact_iff (htons 52).toNat start ?_ written.intact (by rw [ipSum_put_check, sum])]
  · -- a borrow leaves 65536 more, where 65535 would be right
    have bound := (u16 template 24).toNat_lt
    have small := ((ipIntact_iff (ipSum_pos start)).mp written.intact).2
    have len : (htons 52).toNat = 13312 := rfl
    rw [u16_put_self, UInt16.toNat_sub, len]
    omega
  · rw [put_before _ _ _ _ (by omega), put_before _ _ _ _ (by omega)]
    exact start

/-- The checksum of an INIT made of a template is what summing up its header would give exactly if
that of the template is not less than the length. -/
theorem init_checksum_exact_iff (tag tsn : UInt32) (frame : PrefillFrame) (o : Nat)
    (state : IfIpSctpMeta) (pointer : frame.prefill = some o) (found : frame.state = some state)
    (plen : frame.plen = 46) (written : TemplateFor state (shift frame.buffer o)) :
    ∃ after, buildPrefilledSctpInitHdr tag tsn (some frame) = some after ∧
      (u16 (shift after.buffer o) 24 =
          ~~~(ipChecksum (shift (put (shift after.buffer o) 24 (le16 0)) 14) 20).toUInt16 ↔
        (htons 52).toNat ≤ (u16 (shift frame.buffer o) 24).toNat) :=
  init_intact_iff tag tsn pointer found plen written

/-- A template that `prefill_mac_ip_sctp` made for it with this draw. -/
def clientTemplate (random : UInt32) : PrefillFrame :=
  { plen := 46
    state := some clientState
    buffer := put (fun _ => 0) 0 (templateHdr clientState random.toUInt16)
    prefill := some 0 }

theorem templateFor_client (random : UInt32) :
    TemplateFor clientState (shift (clientTemplate random).buffer 0) := by
  rw [shift_zero]
  exact prefillMacIpSctp_templateFor (show prefillMacIpSctp random (some fun _ => 0)
    (some ⟨0, some clientState⟩) =
      some (⟨46, some clientState⟩, (clientTemplate random).buffer) from rfl)

theorem init_checksum_exact_iff_client :
    ∃ after, buildPrefilledSctpInitHdr 1 2 (some (clientTemplate 60000)) = some after ∧
      IpIntact (shift after.buffer 0) := by
  obtain ⟨after, built, exact⟩ := init_checksum_exact_iff 1 2 (clientTemplate 60000) 0 clientState rfl
    rfl rfl (templateFor_client 60000)
  exact ⟨after, built, exact.mpr (by decide +kernel)⟩

/-- With 5 as the draw the template has a checksum that is less than the length, and the INIT is sent
with a wrong one. -/
theorem init_checksum_off :
    TemplateFor clientState (shift (clientTemplate 5).buffer 0) ∧
    ∃ after, buildPrefilledSctpInitHdr 1 2 (some (clientTemplate 5)) = some after ∧
      u16 (shift after.buffer 0) 24 ≠
        ~~~(ipChecksum (shift (put (shift after.buffer 0) 24 (le16 0)) 14) 20).toUInt16 := by
  obtain ⟨after, built, exact⟩ := init_intact_iff 1 2
    (show (clientTemplate 5).prefill = some 0 from rfl) rfl rfl (templateFor_client 5)
  refine ⟨templateFor_client 5, after, built, ?_⟩
  exact fun intact => absurd (exact.mp intact) (by decide +kernel)

end Kpnet.Sctp
