import Kpnet.Sctp.StateMachine

/-!
# Replies and the state they stand for

INIT, INIT ACK and COOKIE ECHO are answered. The handlers change the association first and
then call the builder of the answer, whose result they drop: a packet that gets through the
checks is accepted whether or not anything was queued.
-/
namespace Kpnet.Sctp

open Bytes
open Kpnet.Ring (RingQueue)

/-- The packets that are answered. -/
def Answered (packet : Bytes) : Prop :=
  packet 46 = sctpInit ∨ packet 46 = sctpInitAck ∨ packet 46 = sctpCookieEcho

/-- What waits for transmission. -/
def Endpoint.outgoing (e : Endpoint) : List (Option Nat × UInt64) :=
  match e.txRing with
  | none => []
  | some tx => tx.contents

/-- A reply can be built and queued: the first cell of the prefilled ring holds a packet, and
the transmit ring has room. -/
def Endpoint.CanReply (e : Endpoint) : Prop :=
  (∃ buffer plen, e.Template buffer plen) ∧ e.HasRoom

/-- What is due to an answered packet: acceptance goes with exactly one frame queued, and where
no reply is possible the call fails and leaves the association as it was. -/
structure Faithful (e : Endpoint) (outcome : Option (Bool × Endpoint)) : Prop where
  queues : ∀ after, outcome = some (true, after) →
    ∃ buffer plen, after.outgoing = e.outgoing ++ [(some buffer, plen)]
  fails : ¬e.CanReply → ∃ after, outcome = some (false, after) ∧ after.assoc = e.assoc

theorem Endpoint.CanReply.supplied {e : Endpoint} (able : e.CanReply) : e.Supplied := by
  obtain ⟨⟨buffer, plen, ring, present, head⟩, tx, queue, -⟩ := able
  refine ⟨⟨tx, queue⟩, ring, present, ?_⟩
  intro empty
  rw [empty] at head
  cases head

/-- What a queued frame does to the transmit ring. -/
theorem Queued.outgoing {e after : Endpoint} {buffer : Nat} {cellPlen : UInt64} {frame : Bytes}
    {plen : UInt32} (queued : Queued e buffer cellPlen frame plen after) :
    (e.HasRoom → after.outgoing = e.outgoing ++ [(some buffer, plen.toUInt64)]) ∧
    (¬e.HasRoom → after.outgoing = e.outgoing) := by
  -- the push drops the frame silently where the ring is full
  obtain ⟨tx, tx', queue, queue', -, contents⟩ := queued.tx
  simp only [Endpoint.outgoing, Endpoint.HasRoom, queue, queue', contents, Option.some.injEq,
    exists_eq_left']
  constructor
  · intro room
    rw [if_pos room]
  · intro full
    rw [if_neg full]

/-- The transmit ring grows by one frame, if it can. -/
def Grows (e after : Endpoint) : Prop :=
  (e.HasRoom → ∃ buffer plen, after.outgoing = e.outgoing ++ [(some buffer, plen)]) ∧
  (¬e.HasRoom → after.outgoing = e.outgoing)

/-- Whatever the frame, a builder with a template at hand makes the ring grow. -/
theorem buildPrefilled_grows (chunk : List UInt8) (peer : Option (UInt32 × UInt32))
    (crc : Bytes → UInt32) (assoc : SctpAssociation) {e after : Endpoint} {buffer : Nat}
    {cellPlen : UInt64} {ret : Int} (supplied : e.Supplied) (template : e.Template buffer cellPlen)
    (built : buildPrefilled chunk peer crc assoc e = some (ret, after)) : Grows e after := by
  obtain ⟨after', built', queued⟩ := buildPrefilled_template chunk peer crc assoc supplied template
  rw [built'] at built
  cases built
  obtain ⟨grows, stays⟩ := queued.outgoing
  exact ⟨fun room => ⟨_, _, grows room⟩, stays⟩

section Handlers

variable (host : Host) {e after : Endpoint} {buffer : Nat} {cellPlen : UInt64} (packet : Bytes)
  (plen : UInt16)

theorem sctpProcessSctpInit_grows (supplied : e.Supplied) (template : e.Template buffer cellPlen)
    (processed : sctpProcessSctpInit host e packet = some (0, after)) : Grows e after := by
  unfold sctpProcessSctpInit at processed
  split at processed
  · cases processed
  next built =>
    cases processed
    exact buildPrefilled_grows _ _ _ _ supplied template built

theorem sctpProcessSctpInitAck_grows (supplied : e.Supplied)
    (template : e.Template buffer cellPlen)
    (processed : sctpProcessSctpInitAck e packet plen = some (0, after)) : Grows e after := by
  unfold sctpProcessSctpInitAck at processed
  split at processed
  · cases processed
  · dsimp only at processed
    split at processed
    · cases processed
    next built =>
      cases processed
      -- the rings are those of the endpoint before its association was changed
      have grows := buildPrefilled_grows _ _ _ _ (supplied.setAssoc (initAckAssoc e.assoc packet plen))
        (template.setAssoc _) built
      exact grows

theorem sctpProcessSctpCookieEcho_grows (supplied : e.Supplied)
    (template : e.Template buffer cellPlen)
    (processed : sctpProcessSctpCookieEcho host e packet plen = some (0, after)) :
    Grows e after := by
  unfold sctpProcessSctpCookieEcho at processed
  split at processed
  · cases processed
  · split at processed
    · cases processed
    · dsimp only at processed
      split at processed
      · cases processed
      next built =>
        cases processed
        have grows := buildPrefilled_grows _ _ _ _
          (supplied.setAssoc (cookieEchoAssoc e.assoc (Cookie.read (shift packet 4))))
          (template.setAssoc _) built
        exact grows

end Handlers

/-- The result of a handler that passed, as the `switch` hands it on. -/
theorem gated_passes {e after : Endpoint} {handled : Option (Int × Endpoint)} {pass : Prop}
    {effect : SctpAssociation} {accepted : Bool} (handles : Handles e handled pass effect)
    (passed : pass) (kept : unlessNegative handled = some (accepted, after)) :
    handled = some (0, after) := by
  unfold unlessNegative at kept
  split at kept
  · cases kept
  next ret left =>
    cases kept
    obtain ⟨rfl, -⟩ := handles.passes passed ret after rfl
    rfl

/-- The answer to a packet that gets through the checks. -/
theorem ifIpSctp_grows {host : Host} {e after : Endpoint} {packet : Bytes} {accepted : Bool}
    {buffer : Nat} {cellPlen : UInt64} (answered : Answered packet) (addressed : Addressed e packet)
    (admitted : Admitted e packet) (supplied : e.Supplied) (template : e.Template buffer cellPlen)
    (returned : ifIpSctp host (some packet) e = some (accepted, after)) : Grows e after := by
  rw [ifIpSctp_addressed host addressed, dispatch] at returned
  -- one case of the `switch` for every kind of packet that is admitted
  rcases admitted with ⟨type, status⟩ | ⟨type, status, long⟩ | ⟨type, status, long, sealed⟩ |
    ⟨type, -⟩
  · rw [if_pos type, if_pos status] at returned
    exact sctpProcessSctpInit_grows host _ supplied template
      (gated_passes (sctpProcessSctpInit_handles host e _) trivial returned)
  · rw [if_neg (by rw [type]; decide), if_pos type, if_pos status] at returned
    exact sctpProcessSctpInitAck_grows _ _ supplied template
      (gated_passes (sctpProcessSctpInitAck_handles e _ _) long returned)
  · rw [if_neg (by rw [type]; decide), if_neg (by rw [type]; decide), if_pos type,
      if_pos status] at returned
    refine sctpProcessSctpCookieEcho_grows host _ _ supplied template
      (gated_passes (sctpProcessSctpCookieEcho_handles host e _ _) ⟨long, ?_⟩ returned)
    rw [slice_shift, slice_shift]
    exact sealed
  · -- a COOKIE ACK is not answered
    rw [Answered, type] at answered
    exact absurd answered (by decide)

/-- A packet due an answer is dealt with faithfully exactly if it does not get through the checks
or a reply is possible: no handler looks at what became of its reply. -/
theorem replies_faithful_iff (host : Host) (e : Endpoint) (packet : Bytes) :
    (Answered packet → Faithful e (ifIpSctp host (some packet) e)) ↔
      ¬(Answered packet ∧ Addressed e packet ∧ Admitted e packet) ∨ e.CanReply := by
  have filters := ifIpSctp_filters host e packet
  constructor
  · intro faithful
    by_contra stuck
    push Not at stuck
    obtain ⟨⟨answered, addressed, admitted⟩, unable⟩ := stuck
    -- the call would have to fail, and what gets through the checks never does
    obtain ⟨after, failed, -⟩ := (faithful answered).fails unable
    cases (filters.passes ⟨addressed, admitted⟩ false after failed).1
  · intro condition answered
    by_cases admitted : Addressed e packet ∧ Admitted e packet
    · -- it gets through, so a reply must be possible
      rcases condition with refused | able
      · exact absurd ⟨answered, admitted⟩ refused
      · refine ⟨?_, fun unable => absurd able unable⟩
        intro after returned
        obtain ⟨⟨buffer, plen, template⟩, room⟩ := able
        exact (ifIpSctp_grows answered admitted.1 admitted.2
          (Endpoint.CanReply.supplied ⟨⟨buffer, plen, template⟩, room⟩) template returned).1 room
    · -- a refused packet fails and changes nothing, whatever the rings
      rw [filters.refuses admitted]
      refine ⟨?_, fun _ => ⟨e, rfl, rfl⟩⟩
      intro after returned
      cases returned

/-- A client with two frames waiting in a transmit ring of two. -/
def congestedClient : Endpoint := { createdClient with txRing := some twoTemplates }

/-- It accepts an INIT ACK and changes its status, and nothing goes out. -/
theorem reply_dropped : Answered forgedInitAck ∧ ¬congestedClient.CanReply ∧
    ∃ after, ifIpSctp ⟨0, 0, 0, some⟩ (some forgedInitAck) congestedClient = some (true, after) ∧
      after.assoc.status ≠ congestedClient.assoc.status ∧
      after.outgoing = congestedClient.outgoing := by
  have answered : Answered forgedInitAck := .inr (.inl (by decide))
  have addressed : Addressed congestedClient forgedInitAck :=
    ⟨⟨_, rfl, Option.some_ne_none _⟩, by decide, by decide⟩
  have admitted : Admitted congestedClient forgedInitAck :=
    .inr (.inl ⟨by decide, rfl, by decide⟩)
  have supplied : congestedClient.Supplied :=
    ⟨⟨_, rfl⟩, twoTemplates, rfl, by simp [contents_twoTemplates]⟩
  have full : ¬congestedClient.HasRoom := by
    rintro ⟨tx, queue, room⟩
    cases queue
    rw [contents_twoTemplates] at room
    exact absurd room (by decide)
  have filters := ifIpSctp_filters ⟨0, 0, 0, some⟩ congestedClient forgedInitAck
  obtain ⟨⟨accepted, after⟩, returned⟩ := Option.ne_none_iff_exists'.mp (filters.returns supplied)
  obtain ⟨rfl, changed⟩ := filters.passes ⟨addressed, admitted⟩ accepted after returned
  refine ⟨answered, fun able => full able.2, after, returned, ?_, ?_⟩
  · rw [changed]
    rw [received, if_pos (by decide), initAckAssoc_status]
    decide
  · exact (ifIpSctp_grows answered addressed admitted supplied
      (Endpoint.fresh_template createdClient.assoc) returned).2 full

end Kpnet.Sctp
