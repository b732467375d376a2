import Kpnet.Sctp.Builders

/-!
# The receive path

`if_ip_sctp.c` and the four handlers it dispatches to. A packet is the bytes from its MAC
header on. The result is `none` where the code follows a null pointer, else whether the
association is returned, with what the call leaves behind.
-/
namespace Kpnet.Sctp

open Bytes

/-- The local association of `sctp_process_sctp_init`. It shares configuration and rings
with the real one; its fields that are not set here are read by nobody. -/
def initAssoc (assoc : SctpAssociation) (packet : Bytes) : SctpAssociation :=
  let init := SctpInitHdr.read (shift packet 36)
  { assoc with
    dstPort := (u16 packet 20).toUInt32
    dstIp := u32 packet 12
    os := init.os
    mis := init.mis
    aRwnd := init.aRwnd
    verTag := init.initTag
    tsn := init.initTsn
    dstTsn := init.initTsn }

/-- `sctp_process_sctp_init`, from the IP header on. -/
def sctpProcessSctpInit (host : Host) (e : Endpoint) (packet : Bytes) : Option (Int × Endpoint) :=
  match buildPrefilledMacIpSctpInitAckHdr host (initAssoc e.assoc packet) e with
  | none => none
  | some (_, e) => some (0, e)

/-- What an INIT ACK leaves in the association. -/
def initAckAssoc (assoc : SctpAssociation) (packet : Bytes) (plen : UInt16) : SctpAssociation :=
  let hdr := SctpInitHdr.read packet
  { assoc with
    verTag := hdr.initTag
    os := hdr.os
    mis := hdr.mis
    aRwnd := hdr.aRwnd
    tsn := hdr.initTsn
    status := .initAckReceived
    id := ntohs plen - 24
    retryRing := some (shift packet 20) }

section

variable (assoc : SctpAssociation) (packet : Bytes) (plen : UInt16)

@[simp] theorem initAckAssoc_status :
    (initAckAssoc assoc packet plen).status = .initAckReceived := rfl

@[simp] theorem initAckAssoc_base : (initAckAssoc assoc packet plen).base = assoc.base := rfl

@[simp] theorem initAckAssoc_ulp : (initAckAssoc assoc packet plen).ulp = assoc.ulp := rfl

end

/-- `sctp_process_sctp_init_ack`, from behind the chunk header on; `plen` is the length field
of the chunk. -/
def sctpProcessSctpInitAck (e : Endpoint) (packet : Bytes) (plen : UInt16) :
    Option (Int × Endpoint) :=
  if (ntohs plen).toNat ≤ 24 then some (-1, e)
  else
    let assoc := initAckAssoc e.assoc packet plen
    match buildPrefilledMacIpSctpCookieEchoHdr assoc { e with assoc := assoc } with
    | none => none
    | some (_, e) => some (0, e)

/-- The comparison of a digest with the bytes behind the cookie, in constant time. -/
def macDifference (digest : List UInt8) (mac : Bytes) : UInt8 :=
  (List.range 16).foldl (fun res i => res ||| (digest[i]?.getD 0 ^^^ mac i)) 0

/-- What a COOKIE ECHO leaves in the association. -/
def cookieEchoAssoc (assoc : SctpAssociation) (cookie : Cookie) : SctpAssociation :=
  { assoc with
    verTag := cookie.verTag
    initTag := cookie.initTag
    aRwnd := cookie.aRwnd
    os := cookie.os
    mis := cookie.mis
    tsn := cookie.tsn
    dstTsn := cookie.dstTsn
    dstIp := cookie.srcIp
    dstPort := cookie.srcPort
    rto := 1000
    srtt := 0
    rttvar := 0 }

/-- `sctp_process_sctp_cookie_echo`, from the chunk header on. -/
def sctpProcessSctpCookieEcho (host : Host) (e : Endpoint) (packet : Bytes) (plen : UInt16) :
    Option (Int × Endpoint) :=
  if (ntohs plen).toNat < 60 then some (-1, e)
  else if macDifference (hmacMd5 (slice packet 4 40) hmacKey) (shift packet 44) ≠ 0 then
    some (-1, e)
  else
    let assoc := cookieEchoAssoc e.assoc (Cookie.read (shift packet 4))
    match buildPrefilledMacIpSctpCookieAckHdr assoc { e with assoc := assoc } with
    | none => none
    | some (_, e) => some (0, { e with assoc := (prepareSctpThreads host.alloc e.assoc).2 })

/-- What a COOKIE ACK leaves in the association. -/
def cookieAckAssoc (assoc : SctpAssociation) : SctpAssociation :=
  { assoc with status := .established }

/-- `sctp_process_sctp_cookie_ack`; of the packet only the length field is read. -/
def sctpProcessSctpCookieAck (host : Host) (e : Endpoint) (plen : UInt16) :
    Option (Int × Endpoint) :=
  if (ntohs plen).toNat < 4 then some (-1, e)
  else
    let assoc := cookieAckAssoc e.assoc
    some (0, { e with assoc := (prepareSctpThreads host.alloc assoc).2 })

/-- `if (... < 0) return NULL;` around a handler. -/
def unlessNegative : Option (Int × Endpoint) → Option (Bool × Endpoint)
  | none => none
  | some (ret, e) => some (decide (0 ≤ ret), e)

/-- The `switch` of `if_ip_sctp`. -/
def dispatch (host : Host) (packet : Bytes) (e : Endpoint) : Option (Bool × Endpoint) :=
  if packet 46 = sctpInit then
    if e.assoc.status = .listen then
      unlessNegative (sctpProcessSctpInit host e (shift packet 14))
    else some (false, e)
  else if packet 46 = sctpInitAck then
    if e.assoc.status = .initSent then
      unlessNegative (sctpProcessSctpInitAck e (shift packet 50) (u16 packet 48))
    else some (false, e)
  else if packet 46 = sctpCookieEcho then
    if e.assoc.status = .listen then
      unlessNegative (sctpProcessSctpCookieEcho host e (shift packet 46) (u16 packet 48))
    else some (false, e)
  else if packet 46 = sctpCookieAck then
    if e.assoc.status = .initAckReceived then
      unlessNegative (sctpProcessSctpCookieAck host e (u16 packet 48))
    else some (false, e)
  else some (false, e)

/-- `if_ip_sctp` on an association; `none` is a `NULL` packet, and `size` is never read. -/
def ifIpSctp (host : Host) (packet : Option Bytes) (e : Endpoint) : Option (Bool × Endpoint) :=
  match packet, e.assoc.base with
  | some packet, some base =>
    if base.state = none then some (false, e)
    else if u32 packet 30 ≠ e.assoc.ulp.srcIp then some (false, e)
    else if e.assoc.ulp.srcPort ≠ (ntohs (u16 packet 36)).toUInt32 then some (false, e)
    else dispatch host packet e
  | _, _ => some (false, e)

theorem foldl_or_eq_zero (bytes : Nat → UInt8) (indices : List Nat) (res : UInt8) :
    indices.foldl (fun res i => res ||| bytes i) res = 0 ↔
      res = 0 ∧ ∀ i ∈ indices, bytes i = 0 := by
  induction indices generalizing res with
  | nil => simp
  | cons i indices ih => simp [ih, UInt8.or_eq_zero_iff, and_assoc]

/-- The comparison finds no difference exactly if there is none. -/
theorem macDifference_eq_zero (digest : List UInt8) (mac : Bytes) (length : digest.length = 16) :
    macDifference digest mac = 0 ↔ digest = slice mac 0 16 := by
  rw [macDifference, foldl_or_eq_zero (fun i => digest[i]?.getD 0 ^^^ mac i)]
  simp only [true_and, List.mem_range, UInt8.xor_eq_zero_iff]
  constructor
  · intro same
    apply List.ext_getElem
    · rw [length, length_slice]
    · intro i low high
      have byte := same i (by omega)
      rw [List.getElem?_eq_getElem low, Option.getD_some] at byte
      simp [byte, slice]
  · intro same i low
    rw [same]
    simp [slice, low]

/-- The association takes packets at all, and this one is addressed to it. -/
def Addressed (e : Endpoint) (packet : Bytes) : Prop :=
  (∃ base, e.assoc.base = some base ∧ base.state ≠ none) ∧
    u32 packet 30 = e.assoc.ulp.srcIp ∧
    e.assoc.ulp.srcPort = (ntohs (u16 packet 36)).toUInt32

/-- The length field of the first chunk, in host order. -/
def chunkLen (packet : Bytes) : Nat := (ntohs (u16 packet 48)).toNat

/-- The checks behind the address: the status waits for this type of chunk, the chunk is long
enough for what its handler reads, and the code of a cookie is right. -/
def Admitted (e : Endpoint) (packet : Bytes) : Prop :=
  (packet 46 = sctpInit ∧ e.assoc.status = .listen) ∨
  (packet 46 = sctpInitAck ∧ e.assoc.status = .initSent ∧ 24 < chunkLen packet) ∨
  (packet 46 = sctpCookieEcho ∧ e.assoc.status = .listen ∧ 60 ≤ chunkLen packet ∧
    hmacMd5 (slice packet 50 40) hmacKey = slice packet 90 16) ∨
  (packet 46 = sctpCookieAck ∧ e.assoc.status = .initAckReceived ∧ 4 ≤ chunkLen packet)

/-- What an admitted packet leaves in the association; an INIT leaves nothing. -/
def received (host : Host) (packet : Bytes) (assoc : SctpAssociation) : SctpAssociation :=
  if packet 46 = sctpInitAck then initAckAssoc assoc (shift packet 50) (u16 packet 48)
  else if packet 46 = sctpCookieEcho then
    (prepareSctpThreads host.alloc (cookieEchoAssoc assoc (Cookie.read (shift packet 50)))).2
  else if packet 46 = sctpCookieAck then
    (prepareSctpThreads host.alloc (cookieAckAssoc assoc)).2
  else assoc

/-- The contract of a handler. What it does not pass it refuses without a trace; what it
passes leaves its effect on the association; and it comes back if the reply can be built. -/
structure Handles (e : Endpoint) (handled : Option (Int × Endpoint)) (pass : Prop)
    (effect : SctpAssociation) : Prop where
  refuses : ¬pass → handled = some (-1, e)
  passes : pass → ∀ ret after, handled = some (ret, after) → ret = 0 ∧ after.assoc = effect
  returns : e.Supplied → handled ≠ none

section Handlers

variable (host : Host) (e : Endpoint) (packet : Bytes) (plen : UInt16)

theorem sctpProcessSctpInit_handles :
    Handles e (sctpProcessSctpInit host e packet) True e.assoc where
  refuses fails := absurd trivial fails
  passes _ ret after returned := by
    unfold sctpProcessSctpInit at returned
    split at returned
    · cases returned
    next built =>
      cases returned
      exact ⟨rfl, buildPrefilled_assoc _ _ _ _ built⟩
  returns supplied := by
    unfold sctpProcessSctpInit
    split
    next faulted => exact absurd faulted (buildPrefilled_ne_none _ _ _ _ supplied)
    · exact Option.some_ne_none _

theorem sctpProcessSctpInitAck_handles :
    Handles e (sctpProcessSctpInitAck e packet plen) (24 < (ntohs plen).toNat)
      (initAckAssoc e.assoc packet plen) where
  refuses short := by rw [sctpProcessSctpInitAck, if_pos (by omega)]
  passes long ret after returned := by
    rw [sctpProcessSctpInitAck, if_neg (by omega)] at returned
    dsimp only at returned
    split at returned
    · cases returned
    next built =>
      cases returned
      -- the builder copies from the pointer that the handler has just set
      exact ⟨rfl, buildPrefilled_assoc _ _ _ _ built⟩
  returns supplied := by
    unfold sctpProcessSctpInitAck
    split
    · exact Option.some_ne_none _
    · dsimp only
      split
      next faulted =>
        exact absurd faulted (buildPrefilled_ne_none _ _ _ _ (supplied.setAssoc _))
      · exact Option.some_ne_none _

theorem sctpProcessSctpCookieEcho_handles :
    Handles e (sctpProcessSctpCookieEcho host e packet plen)
      (60 ≤ (ntohs plen).toNat ∧ hmacMd5 (slice packet 4 40) hmacKey = slice packet 44 16)
      (prepareSctpThreads host.alloc
        (cookieEchoAssoc e.assoc (Cookie.read (shift packet 4)))).2 := by
  -- the comparison of the code, byte by byte, is an equality
  have sealed := macDifference_eq_zero (hmacMd5 (slice packet 4 40) hmacKey) (shift packet 44)
    (length_hmacMd5 _ _)
  rw [slice_shift, Nat.add_zero] at sealed
  constructor
  case refuses =>
    intro fails
    rw [sctpProcessSctpCookieEcho]
    split
    · rfl
    next long => rw [if_pos fun same => fails ⟨by omega, sealed.mp same⟩]
  case passes =>
    intro valid ret after returned
    rw [sctpProcessSctpCookieEcho, if_neg (by omega),
      if_neg (not_not.mpr (sealed.mpr valid.2))] at returned
    dsimp only at returned
    split at returned
    · cases returned
    next built =>
      cases returned
      have same := buildPrefilled_assoc _ _ _ _ built
      exact ⟨rfl, by rw [same]⟩
  case returns =>
    intro supplied
    unfold sctpProcessSctpCookieEcho
    split
    · exact Option.some_ne_none _
    · split
      · exact Option.some_ne_none _
      · dsimp only
        split
        next faulted =>
          exact absurd faulted (buildPrefilled_ne_none _ _ _ _ (supplied.setAssoc _))
        · exact Option.some_ne_none _

theorem sctpProcessSctpCookieAck_handles :
    Handles e (sctpProcessSctpCookieAck host e plen) (4 ≤ (ntohs plen).toNat)
      (prepareSctpThreads host.alloc (cookieAckAssoc e.assoc)).2 where
  refuses short := by rw [sctpProcessSctpCookieAck, if_pos (by omega)]
  passes long ret after returned := by
    rw [sctpProcessSctpCookieAck, if_neg (by omega)] at returned
    cases returned
    exact ⟨rfl, rfl⟩
  returns _ := by
    unfold sctpProcessSctpCookieAck
    split
    · exact Option.some_ne_none _
    · exact Option.some_ne_none _

end Handlers

/-- The contract of the whole filter, as of its parts. -/
structure Filters (e : Endpoint) (filtered : Option (Bool × Endpoint)) (pass : Prop)
    (effect : SctpAssociation) : Prop where
  refuses : ¬pass → filtered = some (false, e)
  passes : pass → ∀ accepted after, filtered = some (accepted, after) →
    accepted = true ∧ after.assoc = effect
  returns : e.Supplied → filtered ≠ none

/-- One `case` of the `switch`: the status is compared, then the handler decides. -/
theorem gated_filters {e : Endpoint} {handled : Option (Int × Endpoint)} {pass : Prop}
    {effect : SctpAssociation} (status : SctpStatus) (handles : Handles e handled pass effect) :
    Filters e (if e.assoc.status = status then unlessNegative handled else some (false, e))
      (e.assoc.status = status ∧ pass) effect where
  refuses fails := by
    split
    next same =>
      rw [handles.refuses fun passed => fails ⟨same, passed⟩]
      rfl
    · rfl
  passes admitted accepted after returned := by
    rw [if_pos admitted.1] at returned
    unfold unlessNegative at returned
    split at returned
    · cases returned
    next _ ret left =>
      cases returned
      obtain ⟨rfl, changed⟩ := handles.passes admitted.2 ret after rfl
      exact ⟨rfl, changed⟩
  returns supplied := by
    split
    · unfold unlessNegative
      split
      next faulted => exact absurd rfl (handles.returns supplied)
      · exact Option.some_ne_none _
    · exact Option.some_ne_none _

theorem dispatch_filters (host : Host) (e : Endpoint) (packet : Bytes) :
    Filters e (dispatch host packet e) (Admitted e packet) (received host packet e.assoc) := by
  unfold dispatch
  split
  next init =>
    have gate := gated_filters .listen (sctpProcessSctpInit_handles host e (shift packet 14))
    simpa [Admitted, received, init, sctpInit, sctpInitAck, sctpCookieEcho, sctpCookieAck]
      using gate
  next notInit =>
    split
    next initAck =>
      have gate := gated_filters .initSent
        (sctpProcessSctpInitAck_handles e (shift packet 50) (u16 packet 48))
      simpa [Admitted, received, chunkLen, initAck, sctpInit, sctpInitAck, sctpCookieEcho,
        sctpCookieAck] using gate
    next notInitAck =>
      split
      next cookieEcho =>
        have gate := gated_filters .listen
          (sctpProcessSctpCookieEcho_handles host e (shift packet 46) (u16 packet 48))
        simpa [Admitted, received, chunkLen, cookieEcho, sctpInit, sctpInitAck, sctpCookieEcho,
          sctpCookieAck] using gate
      next notCookieEcho =>
        split
        next cookieAck =>
          have gate := gated_filters .initAckReceived
            (sctpProcessSctpCookieAck_handles host e (u16 packet 48))
          simpa [Admitted, received, chunkLen, cookieAck, sctpInit, sctpInitAck, sctpCookieEcho,
            sctpCookieAck] using gate
        next notCookieAck =>
          -- no other type is admitted
          have refused : ¬Admitted e packet := by
            simp [Admitted, notInit, notInitAck, notCookieEcho, notCookieAck]
          exact ⟨fun _ => rfl, fun admitted => absurd admitted refused,
            fun _ => Option.some_ne_none _⟩

/-- What is addressed to the association gets to the `switch`. -/
theorem ifIpSctp_addressed (host : Host) {e : Endpoint} {packet : Bytes}
    (addressed : Addressed e packet) :
    ifIpSctp host (some packet) e = dispatch host packet e := by
  obtain ⟨⟨base, present, state⟩, dest, port⟩ := addressed
  simp [ifIpSctp, present, state, dest, port]

theorem ifIpSctp_filters (host : Host) (e : Endpoint) (packet : Bytes) :
    Filters e (ifIpSctp host (some packet) e) (Addressed e packet ∧ Admitted e packet)
      (received host packet e.assoc) := by
  by_cases addressed : Addressed e packet
  · rw [ifIpSctp_addressed host addressed]
    simpa only [addressed, true_and] using dispatch_filters host e packet
  · -- one of the checks before the switch fails
    have refused : ifIpSctp host (some packet) e = some (false, e) := by
      unfold ifIpSctp
      split
      next present =>
        split
        · rfl
        next state =>
          split
          · rfl
          next dest =>
            split
            · rfl
            next port =>
              cases ‹some packet = some _›
              exact absurd ⟨⟨_, present, state⟩, not_not.mp dest, not_not.mp port⟩ addressed
      · rfl
    exact ⟨fun _ => refused, fun admitted => absurd admitted.1 addressed,
      fun _ => refused ▸ Option.some_ne_none _⟩

/-- A packet is refused without a trace exactly if one of the checks fails. -/
theorem ifIpSctp_refuses_iff (host : Host) (e : Endpoint) (packet : Bytes) :
    ifIpSctp host (some packet) e = some (false, e) ↔
      ¬(Addressed e packet ∧ Admitted e packet) := by
  have filters := ifIpSctp_filters host e packet
  constructor
  · -- what passes all checks is accepted
    intro refused admitted
    have accepted := (filters.passes admitted false e refused).1
    cases accepted
  · exact filters.refuses

/-- All that a call that returns can have done. -/
theorem ifIpSctp_cases {host : Host} {e after : Endpoint} {packet : Option Bytes}
    {accepted : Bool} (returned : ifIpSctp host packet e = some (accepted, after)) :
    (accepted = false ∧ after = e) ∨
    (accepted = true ∧ ∃ p, packet = some p ∧ Admitted e p ∧
      after.assoc = received host p e.assoc) := by
  cases packet with
  | none =>
    simp only [ifIpSctp, Option.some.injEq, Prod.mk.injEq] at returned
    exact .inl ⟨returned.1.symm, returned.2.symm⟩
  | some p =>
    have filters := ifIpSctp_filters host e p
    by_cases admitted : Addressed e p ∧ Admitted e p
    · obtain ⟨accepts, changed⟩ := filters.passes admitted accepted after returned
      exact .inr ⟨accepts, p, rfl, admitted.2, changed⟩
    · rw [filters.refuses admitted] at returned
      cases returned
      exact .inl ⟨rfl, rfl⟩

theorem ifIpSctp_ne_none (host : Host) (e : Endpoint) (packet : Option Bytes)
    (supplied : e.Supplied) : ifIpSctp host packet e ≠ none := by
  cases packet with
  | none =>
    rw [ifIpSctp]
    · exact Option.some_ne_none _
    · simp
  | some p => exact (ifIpSctp_filters host e p).returns supplied

end Kpnet.Sctp
