import Kpnet.Lib.Traced
import Kpnet.Sctp.Checks
import Kpnet.Sctp.Receive
import Kpnet.Sctp.Setup

/-!
# What the receive path touches

`sctp_check_checksums` and `if_ip_sctp` once more, load by load, in the order of the source,
with the place of every access to the received buffer. They compute what their models
elsewhere compute; here it is measured against the number of bytes received.
-/
namespace Kpnet.Sctp.Access

open Bytes Traced

/-- `ip_checksum` on the words from `o` on. -/
def ipChecksum (o : Nat) (len : UInt16) : Traced UInt32 :=
  (List.range (len >>> 1).toNat).foldlM (fun sum i => do
    let word ← load16 (o + 2 * i)
    pure (foldCheck (sum + word.toUInt32))) 0

/-- `generate_crc32c_on_crc32c` on the bytes from `o` on. -/
def generateCrc32cOnCrc32c (o : Nat) (length : UInt32) (crc : UInt64) : Traced UInt64 := do
  let chunks := length.toNat / 8
  let crc ← (List.range chunks).foldlM (fun crc i => do
    let chunk ← load64 (o + 8 * i)
    pure (crc32di crc chunk)) crc
  (List.range (length.toNat % 8)).foldlM (fun crc i => do
    let byte ← load8 (o + (8 * chunks + i))
    pure (crc32qi crc byte)) crc

/-- The CRC of the common header and the first chunk. -/
def packetCrc : Traced UInt64 := do
  let len ← load16 48
  generateCrc32cOnCrc32c 34 (12 + (ntohs len).toUInt32) 0xFFFFFFFF

def sctpCheckChecksums (plen : UInt64) : Traced Int :=
  if plen.toNat < 46 then pure (-1)
  else do
    let checkIp ← load16 24
    store 24 (le16 0)
    let sum ← ipChecksum 14 20
    if checkIp ≠ ~~~sum.toUInt16 then pure (-1)
    else do
      store 24 (le16 checkIp)
      let len ← load16 16
      if (ntohs len).toNat < 36 then pure (-1)
      else do
        -- the value of the first CRC is dropped
        let _ ← packetCrc
        let checkSctp ← load32 42
        store 42 (le32 0)
        let crc ← packetCrc
        if checkSctp ≠ ~~~crc.toUInt32 then pure (-1)
        else do
          store 42 (le32 checkSctp)
          pure 0

def sctpProcessSctpInit (host : Host) (e : Endpoint) : Traced (Option (Int × Endpoint)) := do
  let srcp ← load16 34
  let srcAddr ← load32 26
  let os ← load16 58
  let mis ← load16 60
  let aRwnd ← load32 54
  let initTag ← load32 50
  let tsn ← load32 62
  let dstTsn ← load32 62
  let assoc := { e.assoc with
    dstPort := srcp.toUInt32
    dstIp := srcAddr
    os := os
    mis := mis
    aRwnd := aRwnd
    verTag := initTag
    tsn := tsn
    dstTsn := dstTsn }
  pure (match buildPrefilledMacIpSctpInitAckHdr host assoc e with
    | none => none
    | some (_, e) => some (0, e))

/-- Of the builder of the COOKIE ECHO, the copy of the cookie, which is made once there is a
template to copy it into. -/
def buildPrefilledMacIpSctpCookieEchoHdr (assoc : SctpAssociation) (e : Endpoint) :
    Traced (Option (Int × Endpoint)) :=
  match e.prefilledRing.map Ring.RingQueue.pop with
  | some (some (some _, _), _) => do
    let cookie ← load 70 assoc.id.toNat
    pure (buildPrefilled (fldHdr sctpCookieEcho (htons (4 + assoc.id)) ++ cookie) none
      (fun cmn => generateCrc32c cmn (12 + (ntohs (htons (4 + assoc.id))).toUInt32)) assoc e)
  | _ => pure (Sctp.buildPrefilledMacIpSctpCookieEchoHdr assoc e)

def sctpProcessSctpInitAck (e : Endpoint) (plen : UInt16) : Traced (Option (Int × Endpoint)) :=
  if (ntohs plen).toNat ≤ 24 then pure (some (-1, e))
  else do
    let _ ← load32 50
    let os ← load16 58
    let mis ← load16 60
    let aRwnd ← load32 54
    let initTag ← load32 50
    let tsn ← load32 62
    let cookie ← address 70
    let assoc := { e.assoc with
      verTag := initTag
      os := os
      mis := mis
      aRwnd := aRwnd
      tsn := tsn
      status := .initAckReceived
      id := ntohs plen - 24
      retryRing := some cookie }
    let built ← buildPrefilledMacIpSctpCookieEchoHdr assoc { e with assoc := assoc }
    pure (match built with
      | none => none
      | some (_, e) => some (0, e))

/-- The bytes behind the cookie are compared one by one, to the end. -/
def macDifference (digest : List UInt8) (o : Nat) : Traced UInt8 :=
  (List.range 16).foldlM (fun res i => do
    let byte ← load8 (o + i)
    pure (res ||| (digest[i]?.getD 0 ^^^ byte))) 0

def sctpProcessSctpCookieEcho (host : Host) (e : Endpoint) (plen : UInt16) :
    Traced (Option (Int × Endpoint)) :=
  if (ntohs plen).toNat < 60 then pure (some (-1, e))
  else do
    let text ← load 50 40
    let res ← macDifference (hmacMd5 text hmacKey) 90
    if res ≠ 0 then pure (some (-1, e))
    else do
      let verTag ← load32 50
      let initTag ← load32 54
      let aRwnd ← load32 58
      let os ← load16 62
      let mis ← load16 64
      let tsn ← load32 66
      let dstTsn ← load32 70
      let srcIp ← load32 74
      let srcPort ← load32 82
      let assoc := { e.assoc with
        verTag := verTag
        initTag := initTag
        aRwnd := aRwnd
        os := os
        mis := mis
        tsn := tsn
        dstTsn := dstTsn
        dstIp := srcIp
        dstPort := srcPort
        rto := 1000
        srtt := 0
        rttvar := 0 }
      pure (match buildPrefilledMacIpSctpCookieAckHdr assoc { e with assoc := assoc } with
        | none => none
        | some (_, e) => some (0, { e with assoc := (prepareSctpThreads host.alloc e.assoc).2 }))

/-- The `switch`; the length of the chunk or of the packet is loaded as an argument. -/
def dispatch (host : Host) (type : UInt8) (e : Endpoint) : Traced (Option (Bool × Endpoint)) :=
  if type = sctpInit then
    if e.assoc.status = .listen then do
      let _ ← load16 16
      unlessNegative <$> sctpProcessSctpInit host e
    else pure (some (false, e))
  else if type = sctpInitAck then
    if e.assoc.status = .initSent then do
      let len ← load16 48
      unlessNegative <$> sctpProcessSctpInitAck e len
    else pure (some (false, e))
  else if type = sctpCookieEcho then
    if e.assoc.status = .listen then do
      let len ← load16 48
      unlessNegative <$> sctpProcessSctpCookieEcho host e len
    else pure (some (false, e))
  else if type = sctpCookieAck then
    if e.assoc.status = .initAckReceived then do
      let len ← load16 48
      pure (unlessNegative (sctpProcessSctpCookieAck host e len))
    else pure (some (false, e))
  else pure (some (false, e))

/-- The type is loaded to be printed, and once more to be switched on. -/
def ifIpSctp (host : Host) (e : Endpoint) : Traced (Option (Bool × Endpoint)) :=
  match e.assoc.base with
  | none => pure (some (false, e))
  | some base =>
    if base.state = none then pure (some (false, e))
    else do
      let destAddr ← load32 30
      if destAddr ≠ e.assoc.ulp.srcIp then pure (some (false, e))
      else do
        let dstp ← load16 36
        if e.assoc.ulp.srcPort ≠ (ntohs dstp).toUInt32 then pure (some (false, e))
        else do
          let _ ← load8 46
          let type ← load8 46
          dispatch host type e

/-- A packet of `size` bytes on its way in: what passes the checks is handled. -/
def receive (host : Host) (e : Endpoint) (size : UInt64) :
    Traced (Option (Option (Bool × Endpoint))) := do
  let ret ← sctpCheckChecksums size
  if ret ≠ 0 then pure none
  else some <$> ifIpSctp host e

section Checks

variable (packet : Bytes) (size o : Nat)

@[simp] theorem exec_ipChecksum (len : UInt16) :
    (ipChecksum o len).exec packet = (Sctp.ipChecksum (shift packet o) len, packet) := by
  unfold ipChecksum Sctp.ipChecksum
  apply exec_foldlM
  intro sum i
  simp

/-- The words of the IP header lie before the common header. -/
theorem within_ipHeader (inside : 34 ≤ size) : Within size (ipChecksum 14 20) packet := by
  unfold ipChecksum
  rw [within_foldlM size (g := fun sum i => foldCheck (sum + (u16 packet (14 + 2 * i)).toUInt32))
    (p := fun i => 14 + 2 * i + 2 ≤ size)]
  · intro i member
    have low : i < 10 := List.mem_range.mp member
    omega
  · intro sum i
    rfl
  · intro sum i
    simp

@[simp] theorem exec_generateCrc32cOnCrc32c (length : UInt32) (crc : UInt64) :
    (generateCrc32cOnCrc32c o length crc).exec packet =
      (Sctp.generateCrc32cOnCrc32c (shift packet o) length crc, packet) := by
  -- the two loops one after the other, the second over the bytes left
  have chunks := exec_foldlM (b := packet)
    (f := fun crc i => do
      let chunk ← load64 (o + 8 * i)
      pure (crc32di crc chunk))
    (g := fun crc i => crc32di crc (u64 (shift packet o) (8 * i)))
    (by intro crc i; simp) (List.range (length.toNat / 8)) crc
  unfold generateCrc32cOnCrc32c Sctp.generateCrc32cOnCrc32c
  rw [exec_bind, chunks]
  apply exec_foldlM
  intro crc i
  rfl

/-- A CRC touches all it is taken over. -/
theorem within_generateCrc32cOnCrc32c (length : UInt32) (crc : UInt64) (positive : 0 < length.toNat) :
    Within size (generateCrc32cOnCrc32c o length crc) packet ↔ o + length.toNat ≤ size := by
  unfold generateCrc32cOnCrc32c
  rw [within_bind, exec_foldlM (g := fun crc i => crc32di crc (u64 packet (o + 8 * i)))
      (by intro crc i; rfl),
    within_foldlM size (g := fun crc i => crc32di crc (u64 packet (o + 8 * i)))
      (p := fun i => o + 8 * i + 8 ≤ size) (by intro crc i; rfl) (by intro crc i; simp),
    within_foldlM size
      (g := fun crc i => crc32qi crc (packet (o + (8 * (length.toNat / 8) + i))))
      (p := fun i => o + (8 * (length.toNat / 8) + i) + 1 ≤ size) (by intro crc i; rfl)
      (by intro crc i; simp)]
  simp only [List.mem_range]
  constructor
  · -- the length is positive, so there is a last byte
    rintro ⟨chunks, bytes⟩
    -- the last byte is read by itself, or else with the last chunk
    by_cases tail : 0 < length.toNat % 8
    · have last := bytes (length.toNat % 8 - 1) (by omega)
      omega
    · have last := chunks (length.toNat / 8 - 1) (by omega)
      omega
  · intro inside
    constructor
    · intro i low
      omega
    · intro i low
      omega

theorem toNat_crcLen : (crcLen packet).toNat = 12 + chunkLen packet := by
  have small := (ntohs (u16 packet 48)).toNat_lt
  rw [crcLen, UInt32.toNat_add, UInt16.toNat_toUInt32, chunkLen, Nat.mod_eq_of_lt]
  · rfl
  · have twelve : (12 : UInt32).toNat = 12 := rfl
    omega

@[simp] theorem exec_packetCrc :
    packetCrc.exec packet =
      (Sctp.generateCrc32cOnCrc32c (shift packet 34) (crcLen packet) 0xFFFFFFFF, packet) := by
  simp [packetCrc, crcLen]

theorem within_packetCrc :
    Within size packetCrc packet ↔ 50 ≤ size ∧ 46 + chunkLen packet ≤ size := by
  have length := toNat_crcLen packet
  rw [packetCrc, within_bind, within_load16, exec_load16]
  show _ ∧ Within size (generateCrc32cOnCrc32c 34 (crcLen packet) 0xFFFFFFFF) packet ↔ _
  rw [within_generateCrc32cOnCrc32c packet size 34 _ _ (by omega), length]
  constructor
  · rintro ⟨field, chunk⟩
    omega
  · rintro ⟨field, chunk⟩
    omega

end Checks

/-- Load by load or at once, it is the same check. -/
theorem exec_sctpCheckChecksums (packet : Bytes) (plen : UInt64) :
    (sctpCheckChecksums plen).exec packet = Sctp.sctpCheckChecksums packet plen := by
  unfold sctpCheckChecksums Sctp.sctpCheckChecksums
  dsimp only
  split
  · rfl
  · rw [exec_bind, exec_bind, exec_bind, exec_load16, exec_store, exec_ipChecksum]
    dsimp only
    split
    · rfl
    · rw [exec_bind, exec_bind, exec_store, exec_load16]
      dsimp only
      split
      · rfl
      · rw [exec_bind, exec_bind, exec_bind, exec_bind, exec_packetCrc, exec_load32, exec_store,
          exec_packetCrc]
        dsimp only
        split
        · rfl
        · rfl

/-- Past the length of the headers the check trusts the length of the chunk. -/
theorem within_sctpCheckChecksums (packet : Bytes) (size : UInt64) :
    Within size.toNat (sctpCheckChecksums size) packet ↔
      (46 ≤ size.toNat → IpIntact packet → 36 ≤ ipLen packet →
        50 ≤ size.toNat ∧ 46 + chunkLen packet ≤ size.toNat) := by
  unfold sctpCheckChecksums
  by_cases short : size.toNat < 46
  · rw [if_pos short]
    simp only [within_pure, true_iff]
    omega
  · rw [if_neg short]
    -- up to the CRC only the headers are touched
    have store24 (v : UInt16) (b : Bytes) : Within size.toNat (store 24 (le16 v)) b := by
      rw [within_store _ _ _ _ (by simp), length_le16]
      omega
    have store42 (v : UInt32) (b : Bytes) : Within size.toNat (store 42 (le32 v)) b := by
      rw [within_store _ _ _ _ (by simp), length_le32]
      omega
    have field (o : Nat) (b : Bytes) (low : o ≤ 24) : Within size.toNat (load16 o) b := by
      rw [within_load16]
      omega
    have load42 (b : Bytes) : Within size.toNat (load32 42) b := by
      rw [within_load32]
      omega
    have chunk : chunkLen (put packet 42 (le32 0)) = chunkLen packet := by
      rw [chunkLen, u16_put_of_disjoint _ _ _ _ (by simp), ← chunkLen]
    simp only [within_bind, exec_load16, exec_store, exec_ipChecksum, store24,
      field 24 _ (by omega), within_ipHeader _ _ (show 34 ≤ size.toNat by omega), true_and]
    -- a wrong checksum of the header ends the check
    by_cases ip : u16 packet 24 ≠ ~~~(Sctp.ipChecksum (shift (put packet 24 (le16 0)) 14) 20).toUInt16
    · rw [if_pos ip]
      simp only [within_pure, true_iff]
      intro _ intact
      exact absurd intact ip
    · rw [if_neg ip]
      rw [within_bind, exec_store, within_bind, exec_load16]
      dsimp only
      rw [restore16]
      simp only [store24, field 16 _ (by omega), true_and]
      -- and so does a header that claims no chunk
      by_cases len : (ntohs (u16 packet 16)).toNat < 36
      · rw [if_pos len]
        simp only [within_pure, true_iff]
        intro _ _ long
        exact absurd long (Nat.not_le.mpr len)
      · rw [if_neg len]
        -- the CRC is computed twice, over the same length
        simp only [within_bind, exec_load32, exec_store, exec_packetCrc, within_packetCrc, store42,
          load42, within_ite, within_pure, chunk, true_and, and_true, imp_true_iff]
        constructor
        · intro inside _ _ _
          exact inside.1
        · intro inside
          have bounds := inside (by omega) (not_not.mp ip) (Nat.not_lt.mp len)
          exact ⟨bounds, bounds⟩

section Handlers

variable (host : Host) (e : Endpoint) (packet : Bytes) (plen : UInt16) (size : Nat)

theorem exec_sctpProcessSctpInit :
    (sctpProcessSctpInit host e).exec packet =
      (Sctp.sctpProcessSctpInit host e (shift packet 14), packet) := by
  generalize handler : Sctp.sctpProcessSctpInit host e (shift packet 14) = after
  simp only [Sctp.sctpProcessSctpInit, initAssoc, SctpInitHdr.read, u16_shift, u32_shift,
    shift_shift, Nat.reduceAdd] at handler
  simp only [sctpProcessSctpInit, exec_bind, exec_load16, exec_load32, exec_pure]
  exact congrArg (·, packet) handler

/-- An INIT is read to the end of its fixed part, whatever its length says. -/
theorem within_sctpProcessSctpInit :
    Within size (sctpProcessSctpInit host e) packet ↔ 66 ≤ size := by
  simp only [sctpProcessSctpInit, within_bind, within_load16, within_load32, within_pure, and_true]
  omega

/-- The copy of the cookie is the chunk that the builder makes of the pointer to it. -/
theorem exec_buildPrefilledMacIpSctpCookieEchoHdr (assoc : SctpAssociation)
    (cookie : assoc.retryRing = some (shift packet 70)) :
    (buildPrefilledMacIpSctpCookieEchoHdr assoc e).exec packet =
      (Sctp.buildPrefilledMacIpSctpCookieEchoHdr assoc e, packet) := by
  unfold buildPrefilledMacIpSctpCookieEchoHdr
  split
  · simp only [exec_bind, exec_load, exec_pure, Sctp.buildPrefilledMacIpSctpCookieEchoHdr, cookie,
      cookieEchoChunk, slice_shift, Nat.add_zero]
  · rfl

theorem within_buildPrefilledMacIpSctpCookieEchoHdr (assoc : SctpAssociation)
    (inside : 70 + assoc.id.toNat ≤ size) :
    Within size (buildPrefilledMacIpSctpCookieEchoHdr assoc e) packet := by
  unfold buildPrefilledMacIpSctpCookieEchoHdr
  split
  · simp only [within_bind, within_pure, and_true]
    intro place member i low
    cases List.mem_singleton.mp member
    dsimp only at low ⊢
    omega
  · exact within_pure _ _ _

theorem exec_sctpProcessSctpInitAck :
    (sctpProcessSctpInitAck e plen).exec packet =
      (Sctp.sctpProcessSctpInitAck e (shift packet 50) plen, packet) := by
  generalize handler : Sctp.sctpProcessSctpInitAck e (shift packet 50) plen = after
  rw [Sctp.sctpProcessSctpInitAck] at handler
  rw [sctpProcessSctpInitAck]
  by_cases short : (ntohs plen).toNat ≤ 24
  · rw [if_pos short] at handler ⊢
    exact congrArg (·, packet) handler
  · rw [if_neg short] at handler ⊢
    simp only [initAckAssoc, SctpInitHdr.read, u16_shift, u32_shift, shift_shift,
      Nat.reduceAdd] at handler
    simp only [exec_bind, exec_load16, exec_load32, exec_address]
    rw [exec_buildPrefilledMacIpSctpCookieEchoHdr _ _ _ rfl, exec_pure]
    exact congrArg (·, packet) handler

/-- The cookie ends where the chunk does. -/
theorem within_sctpProcessSctpInitAck (inside : 46 + (ntohs plen).toNat ≤ size) :
    Within size (sctpProcessSctpInitAck e plen) packet := by
  unfold sctpProcessSctpInitAck
  split
  · exact within_pure _ _ _
  next long =>
    -- the cookie is what the chunk has behind 24 bytes
    have id : (ntohs plen - 24).toNat = (ntohs plen).toNat - 24 :=
      UInt16.toNat_sub_of_le _ _ (UInt16.le_iff_toNat_le.mpr (by simpa using Nat.le_of_not_ge long))
    simp only [within_bind, within_load16, within_load32, within_pure, within_address, and_true,
      true_and]
    refine ⟨by omega, by omega, by omega, by omega, by omega, by omega, ?_⟩
    apply within_buildPrefilledMacIpSctpCookieEchoHdr
    dsimp only
    omega

theorem exec_macDifference (digest : List UInt8) (o : Nat) :
    (macDifference digest o).exec packet =
      (Sctp.macDifference digest (shift packet o), packet) := by
  unfold macDifference Sctp.macDifference
  apply exec_foldlM
  intro res i
  rfl

theorem within_macDifference (digest : List UInt8) (o : Nat) (inside : o + 16 ≤ size) :
    Within size (macDifference digest o) packet := by
  unfold macDifference
  rw [within_foldlM size (g := fun res i => res ||| (digest[i]?.getD 0 ^^^ packet (o + i)))
    (p := fun i => o + i + 1 ≤ size) (by intro res i; rfl) (by intro res i; simp)]
  intro i member
  have low := List.mem_range.mp member
  omega

theorem exec_sctpProcessSctpCookieEcho :
    (sctpProcessSctpCookieEcho host e plen).exec packet =
      (Sctp.sctpProcessSctpCookieEcho host e (shift packet 46) plen, packet) := by
  generalize handler : Sctp.sctpProcessSctpCookieEcho host e (shift packet 46) plen = after
  rw [Sctp.sctpProcessSctpCookieEcho, slice_shift, shift_shift] at handler
  rw [sctpProcessSctpCookieEcho]
  by_cases short : (ntohs plen).toNat < 60
  · rw [if_pos short] at handler ⊢
    exact congrArg (·, packet) handler
  · rw [if_neg short] at handler ⊢
    rw [exec_bind, exec_load, exec_bind, exec_macDifference]
    by_cases wrong : Sctp.macDifference (hmacMd5 (slice packet 50 40) hmacKey) (shift packet 90) ≠ 0
    · rw [if_pos wrong] at handler ⊢
      exact congrArg (·, packet) handler
    · rw [if_neg wrong] at handler ⊢
      simp only [cookieEchoAssoc, Cookie.read, u16_shift, u32_shift, shift_shift,
        Nat.reduceAdd] at handler
      simp only [exec_bind, exec_load16, exec_load32, exec_pure]
      exact congrArg (·, packet) handler

theorem within_sctpProcessSctpCookieEcho (inside : 46 + (ntohs plen).toNat ≤ size) :
    Within size (sctpProcessSctpCookieEcho host e plen) packet := by
  unfold sctpProcessSctpCookieEcho
  split
  · exact within_pure _ _ _
  next long =>
    rw [within_bind, within_load _ _ _ _ (by omega), exec_load, within_bind, exec_macDifference]
    -- 60 bytes are expected, of which the code is the last 16
    refine ⟨by omega, within_macDifference _ _ _ _ (by omega), ?_⟩
    dsimp only
    split
    · exact within_pure _ _ _
    · simp only [within_bind, within_load16, within_load32, within_pure, and_true]
      omega

end Handlers

/-- The `switch` computes what its model does. -/
theorem exec_dispatch (host : Host) (e : Endpoint) (packet : Bytes) :
    (dispatch host (packet 46) e).exec packet = (Sctp.dispatch host packet e, packet) := by
  unfold dispatch Sctp.dispatch
  split
  · split
    · rw [exec_bind, exec_load16, exec_map, exec_sctpProcessSctpInit]
    · rfl
  · split
    · split
      · rw [exec_bind, exec_load16, exec_map, exec_sctpProcessSctpInitAck]
      · rfl
    · split
      · split
        · rw [exec_bind, exec_load16, exec_map, exec_sctpProcessSctpCookieEcho]
        · rfl
      · split
        · split
          · rfl
          · rfl
        · rfl

/-- In a packet whose chunk has arrived, only an INIT is read past what has been checked. -/
theorem within_dispatch (host : Host) (e : Endpoint) (packet : Bytes) (size : Nat)
    (field : 50 ≤ size) (chunk : 46 + chunkLen packet ≤ size) :
    Within size (dispatch host (packet 46) e) packet ↔
      (packet 46 = sctpInit → e.assoc.status = .listen → 66 ≤ size) := by
  have len : Within size (load16 48) packet := by
    rw [within_load16]
    omega
  unfold dispatch
  split
  next init =>
    split
    next listens =>
      rw [within_bind, within_load16, exec_load16, within_map, within_sctpProcessSctpInit]
      simp only [init, listens, true_imp_iff]
      omega
    next other => simp [other]
  next notInit =>
    -- the other handlers compare the length of the chunk before they read it
    simp only [notInit, false_imp_iff, iff_true]
    split
    · split
      · rw [within_bind, exec_load16, within_map]
        exact ⟨len, within_sctpProcessSctpInitAck e packet _ size chunk⟩
      · exact within_pure _ _ _
    · split
      · split
        · rw [within_bind, exec_load16, within_map]
          exact ⟨len, within_sctpProcessSctpCookieEcho host e packet _ size chunk⟩
        · exact within_pure _ _ _
      · split
        · split
          · rw [within_bind, exec_load16]
            exact ⟨len, within_pure _ _ _⟩
          · exact within_pure _ _ _
        · exact within_pure _ _ _

theorem exec_ifIpSctp (host : Host) (e : Endpoint) (packet : Bytes) :
    (ifIpSctp host e).exec packet = (Sctp.ifIpSctp host (some packet) e, packet) := by
  unfold ifIpSctp Sctp.ifIpSctp
  cases e.assoc.base with
  | none => rfl
  | some base =>
    dsimp only
    split
    · rfl
    · rw [exec_bind, exec_load32]
      dsimp only
      split
      · rfl
      · rw [exec_bind, exec_load16]
        dsimp only
        split
        · rfl
        · rw [exec_bind, exec_load8, exec_bind, exec_load8]
          exact exec_dispatch host e packet

theorem within_ifIpSctp (host : Host) (e : Endpoint) (packet : Bytes) (size : Nat)
    (field : 50 ≤ size) (chunk : 46 + chunkLen packet ≤ size) :
    Within size (ifIpSctp host e) packet ↔
      (Addressed e packet → packet 46 = sctpInit → e.assoc.status = .listen → 66 ≤ size) := by
  have type : Within size (load8 46) packet := by
    rw [within_load8]
    omega
  unfold ifIpSctp Addressed
  split
  next absent => simp [absent]
  next base present =>
    rw [present]
    by_cases state : base.state = none
    · simp [state]
    · rw [if_neg state, within_bind, within_load32, exec_load32]
      dsimp only
      -- the two filters, in the order of the source
      by_cases dest : u32 packet 30 ≠ e.assoc.ulp.srcIp
      · rw [if_pos dest]
        simp only [within_pure, and_true]
        constructor
        · intro _ addressed
          exact absurd addressed.2.1 dest
        · intro _
          omega
      · rw [if_neg dest, within_bind, within_load16, exec_load16]
        dsimp only
        by_cases port : e.assoc.ulp.srcPort ≠ (ntohs (u16 packet 36)).toUInt32
        · rw [if_pos port]
          simp only [within_pure, and_true]
          constructor
          · intro _ addressed
            exact absurd addressed.2.2 port
          · intro _
            omega
        · rw [if_neg port, within_bind, exec_load8, within_bind, exec_load8]
          dsimp only
          rw [within_dispatch host e packet size field chunk]
          constructor
          · intro inside _
            exact inside.2.2.2.2
          · intro inside
            exact ⟨by omega, by omega, type, type,
              inside ⟨⟨base, rfl, state⟩, not_not.mp dest, not_not.mp port⟩⟩

/-- The way in computes what the models of its two parts compute. -/
theorem exec_receive (host : Host) (e : Endpoint) (size : UInt64) (packet : Bytes) :
    (receive host e size).exec packet =
      (if (Sctp.sctpCheckChecksums packet size).1 ≠ 0 then none
        else some (Sctp.ifIpSctp host (some packet) e), (Sctp.sctpCheckChecksums packet size).2) := by
  unfold receive
  rw [exec_bind, exec_sctpCheckChecksums]
  by_cases sound : Sound packet size
  · rw [(sctpCheckChecksums_sound packet size).1 sound, if_neg (by simp), if_neg (by simp),
      exec_map, exec_ifIpSctp]
  · have refused := (sctpCheckChecksums_sound packet size).2 sound
    rw [refused, if_pos (by decide), if_pos (by decide), exec_pure]

/-- What the receive path touches is part of what was received exactly if, in a packet with a
right IP header that claims a chunk, the chunk header and the chunk by its own length have
arrived; and, where the packet passes as an INIT to a listening association, the fixed part of
an INIT has, too. -/
theorem receive_within_iff (host : Host) (e : Endpoint) (size : UInt64) (packet : Bytes) :
    Within size.toNat (receive host e size) packet ↔
      (46 ≤ size.toNat → IpIntact packet → 36 ≤ ipLen packet →
        50 ≤ size.toNat ∧ 46 + chunkLen packet ≤ size.toNat ∧
        (CrcIntact packet → Addressed e packet → packet 46 = sctpInit →
          e.assoc.status = .listen → 66 ≤ size.toNat)) := by
  unfold receive
  rw [within_bind, within_sctpCheckChecksums, exec_sctpCheckChecksums]
  by_cases sound : Sound packet size
  · -- the check has put back what it cleared, so the handlers see the packet as it came
    rw [(sctpCheckChecksums_sound packet size).1 sound, if_neg (by simp), within_map]
    constructor
    · rintro ⟨checks, handler⟩ headers ip len
      obtain ⟨field, chunk⟩ := checks headers ip len
      rw [within_ifIpSctp host e packet size.toNat field chunk] at handler
      exact ⟨field, chunk, fun _ => handler⟩
    · intro inside
      obtain ⟨field, chunk, handler⟩ := inside sound.headers sound.ip sound.len
      refine ⟨fun _ _ _ => ⟨field, chunk⟩, ?_⟩
      rw [within_ifIpSctp host e packet size.toNat field chunk]
      exact handler sound.crc
  · -- a packet that is refused does not get to the handlers
    rw [(sctpCheckChecksums_sound packet size).2 sound, if_pos (by decide)]
    constructor
    · rintro ⟨checks, -⟩ headers ip len
      obtain ⟨field, chunk⟩ := checks headers ip len
      exact ⟨field, chunk, fun crc => absurd ⟨headers, ip, len, crc⟩ sound⟩
    · intro inside
      refine ⟨fun headers ip len => ?_, within_pure _ _ _⟩
      obtain ⟨field, chunk, -⟩ := inside headers ip len
      exact ⟨field, chunk⟩

/-- 46 bytes of headers that are right but for the claim of a chunk behind them. -/
def bareHeaders : Bytes := put (fun _ => 0) 16 (le16 (htons 36) ++ List.replicate 6 0 ++ le16 0xDBFF)

/-- A server that has received no more than these reads the length of the chunk from behind
their end. -/
theorem receive_overreads :
    ¬Within 46 (receive ⟨0, 0, 0, some⟩ createdServer 46) bareHeaders := by
  unfold receive
  rw [within_bind]
  rintro ⟨inside, -⟩
  -- already the check reads behind the 46 bytes
  have bounds := (within_sctpCheckChecksums bareHeaders 46).mp inside (by decide) (by decide)
    (by decide)
  exact absurd bounds.1 (by decide)

end Kpnet.Sctp.Access
