import Kpnet.Lib.Runs
import Kpnet.Sctp.Receive
import Kpnet.Sctp.Setup

/-!
# The handshake as a state machine

Any packets in any order, given to `if_ip_sctp` one after the other. What a single call can
do to an association is `ifIpSctp_cases`; here it is carried to whole runs, and measured
against the rule that packets from off the path are ignored.
-/
namespace Kpnet.Sctp

open Bytes
open Runs

/-- One call of `if_ip_sctp`. -/
structure Receipt where
  packet : Option Bytes
  accepted : Bool
  before : Endpoint
  after : Endpoint

def Receipt.IsInit (r : Receipt) : Prop :=
  ∃ p, r.packet = some p ∧ p 46 = sctpInit

def Receipt.IsInitAck (r : Receipt) : Prop :=
  ∃ p, r.packet = some p ∧ p 46 = sctpInitAck ∧ 24 < chunkLen p

def Receipt.IsCookieAck (r : Receipt) : Prop :=
  ∃ p, r.packet = some p ∧ p 46 = sctpCookieAck

/-- The call moved the status from the one to the other. -/
def Receipt.Moves (r : Receipt) (old new : SctpStatus) : Prop :=
  r.before.assoc.status = old ∧ r.after.assoc.status = new

/-- A call as a logged step. -/
def deliver (e : Endpoint) (input : Host × Option Bytes) : Option (Endpoint × List Receipt) :=
  match ifIpSctp input.1 input.2 e with
  | none => none
  | some (accepted, after) => some (after, [⟨input.2, accepted, e, after⟩])

/-- What every call keeps to. -/
structure Receipt.Lawful (r : Receipt) : Prop where
  refused : r.accepted = false → r.after = r.before
  moves : r.after.assoc.status ≠ r.before.assoc.status →
    (r.Moves .initSent .initAckReceived ∧ r.IsInitAck) ∨
    (r.Moves .initAckReceived .established ∧ r.IsCookieAck)
  established : r.before.assoc.status = .established → r.after = r.before
  stateless : r.before.assoc.status = .listen → r.IsInit → r.after.assoc = r.before.assoc

/-- The status an admitted packet meets and the one it leaves. -/
theorem received_status (host : Host) {e : Endpoint} {p : Bytes} (admitted : Admitted e p) :
    (p 46 = sctpInit ∧ e.assoc.status = .listen ∧ received host p e.assoc = e.assoc) ∨
    (p 46 = sctpInitAck ∧ 24 < chunkLen p ∧ e.assoc.status = .initSent ∧
      (received host p e.assoc).status = .initAckReceived) ∨
    (p 46 = sctpCookieEcho ∧ e.assoc.status = .listen ∧
      (received host p e.assoc).status = .listen) ∨
    (p 46 = sctpCookieAck ∧ e.assoc.status = .initAckReceived ∧
      (received host p e.assoc).status = .established) := by
  rcases admitted with ⟨type, status⟩ | ⟨type, status, length⟩ | ⟨type, status, -⟩ |
    ⟨type, status, -⟩
  · refine .inl ⟨type, status, ?_⟩
    simp [received, type, sctpInit, sctpInitAck, sctpCookieEcho, sctpCookieAck]
  · refine .inr (.inl ⟨type, length, status, ?_⟩)
    simp [received, type, initAckAssoc]
  · refine .inr (.inr (.inl ⟨type, status, ?_⟩))
    simp [received, type, sctpInitAck, sctpCookieEcho, cookieEchoAssoc, status]
  · refine .inr (.inr (.inr ⟨type, status, ?_⟩))
    simp [received, type, sctpInitAck, sctpCookieEcho, sctpCookieAck, cookieAckAssoc]

/-- One call, whatever the packet and the status. -/
theorem ifIpSctp_lawful {host : Host} {e after : Endpoint} {packet : Option Bytes}
    {accepted : Bool} (returned : ifIpSctp host packet e = some (accepted, after)) :
    Receipt.Lawful ⟨packet, accepted, e, after⟩ := by
  obtain ⟨rfl, rfl⟩ | ⟨rfl, p, rfl, admitted, changed⟩ := ifIpSctp_cases returned
  · exact ⟨fun _ => rfl, fun moved => absurd rfl moved, fun _ => rfl, fun _ _ => rfl⟩
  · have statuses := received_status host admitted
    rw [← changed] at statuses
    -- the four kinds of packet that get in, by the status they meet
    rcases statuses with ⟨type, status, same⟩ | ⟨type, length, status, new⟩ |
      ⟨type, status, new⟩ | ⟨type, status, new⟩
    · exact {
        refused := fun refused => by cases refused
        moves := fun moved => absurd (congrArg SctpAssociation.status same) moved
        established := fun established => by cases status.symm.trans established
        stateless := fun _ _ => same }
    · exact {
        refused := fun refused => by cases refused
        moves := fun _ => .inl ⟨⟨status, new⟩, p, rfl, type, length⟩
        established := fun established => by cases status.symm.trans established
        stateless := fun listen => by cases status.symm.trans listen }
    · exact {
        refused := fun refused => by cases refused
        moves := fun moved => absurd (new.trans status.symm) moved
        established := fun established => by cases status.symm.trans established
        stateless := fun _ ⟨q, given, init⟩ => by
          cases given
          cases type.symm.trans init }
    · exact {
        refused := fun refused => by cases refused
        moves := fun _ => .inr ⟨⟨status, new⟩, p, rfl, type⟩
        established := fun established => by cases status.symm.trans established
        stateless := fun listen => by cases status.symm.trans listen }

/-- An INIT ACK moved the association on. -/
def Receipt.Opens (r : Receipt) : Prop := r.Moves .initSent .initAckReceived ∧ r.IsInitAck

/-- A COOKIE ACK established it. -/
def Receipt.Closes (r : Receipt) : Prop := r.Moves .initAckReceived .established ∧ r.IsCookieAck

/-- What must have happened to an association that set out from `SCTP_INIT_SENT`. -/
def Progress (log : List Receipt) : SctpStatus → Prop
  | .initSent => True
  | .initAckReceived => ∃ a ∈ log, a.Opens
  | .established => ∃ a c, [a, c].Sublist log ∧ a.Opens ∧ c.Closes
  | _ => False

/-- More calls do not undo what has happened. -/
theorem Progress.append {log : List Receipt} {status : SctpStatus} (progress : Progress log status)
    (ev : List Receipt) : Progress (log ++ ev) status := by
  cases status with
  | initSent => trivial
  | initAckReceived =>
    obtain ⟨a, member, opens⟩ := progress
    exact ⟨a, List.mem_append_left ev member, opens⟩
  | established =>
    obtain ⟨a, c, order, opens, closes⟩ := progress
    exact ⟨a, c, order.trans (List.sublist_append_left log ev), opens, closes⟩
  | _ => exact progress.elim

/-- A lawful call takes the progress of its start to that of its end. -/
theorem Receipt.Lawful.progress {r : Receipt} (lawful : r.Lawful) {log : List Receipt}
    (progress : Progress log r.before.assoc.status) :
    Progress (log ++ [r]) r.after.assoc.status := by
  by_cases same : r.after.assoc.status = r.before.assoc.status
  · -- no move, nothing to account for
    rw [same]
    exact progress.append [r]
  · rcases lawful.moves same with ⟨moves, initAck⟩ | ⟨moves, cookieAck⟩
    · -- the call itself is the INIT ACK
      rw [moves.2]
      exact ⟨r, by simp, moves, initAck⟩
    · rw [moves.1] at progress
      rw [moves.2]
      obtain ⟨a, member, opens⟩ := progress
      -- the INIT ACK is somewhere in the log, the COOKIE ACK comes after all of it
      refine ⟨a, r, ?_, opens, moves, cookieAck⟩
      exact (List.singleton_sublist.mpr member).append (List.Sublist.refl [r])

/-- What holds of a run after any number of calls. -/
structure Disciplined (start : Endpoint) (inputs : List (Host × Option Bytes)) (after : Endpoint)
    (log : List Receipt) : Prop where
  packets : log.map Receipt.packet = inputs.map Prod.snd
  lawful : ∀ r ∈ log, r.Lawful
  progress : start.assoc.status = .initSent → Progress log after.assoc.status

theorem run_disciplined (start after : Endpoint) (inputs : List (Host × Option Bytes))
    (log : List Receipt) (ran : run deliver start inputs = some (after, log)) :
    Disciplined start inputs after log := by
  refine run_induction deliver (fun _ _ => True) start
    (fun inputs after log => Disciplined start inputs after log) ?_ ?_ inputs after log ran
    (along_true deliver start inputs)
  · exact ⟨rfl, by simp, fun initSent => by rw [initSent]; trivial⟩
  · intro inputs input mid log after ev ran held _ stepped
    unfold deliver at stepped
    split at stepped
    · cases stepped
    next accepted left returned =>
      cases stepped
      have lawful := ifIpSctp_lawful returned
      refine ⟨?_, ?_, ?_⟩
      · simp [held.packets]
      · intro r member
        rcases List.mem_append.mp member with old | new
        · exact held.lawful r old
        · rw [List.mem_singleton.mp new]
          exact lawful
      · intro initSent
        exact lawful.progress (held.progress initSent)

/-- A call that finds a template cell and a transmit ring comes back. -/
theorem deliver_ne_none (e : Endpoint) (input : Host × Option Bytes) (supplied : e.Supplied) :
    deliver e input ≠ none := by
  unfold deliver
  split
  next faulted => exact absurd faulted (ifIpSctp_ne_none input.1 e input.2 supplied)
  · exact Option.some_ne_none _

/-- The handshake on one side, for any start and any packets in any order. The calls come back
as long as there are templates to reply with. A refused packet leaves no trace; the status
moves along the handshake only, by the packets that are due; an established association is
left alone; and an INIT is forgotten. -/
theorem handshake_state_machine (start : Endpoint) (inputs : List (Host × Option Bytes)) :
    (Along deliver (fun e _ => e.Supplied) start inputs → run deliver start inputs ≠ none) ∧
    ∀ after log, run deliver start inputs = some (after, log) →
      log.map Receipt.packet = inputs.map Prod.snd ∧
      (∀ r ∈ log, r.accepted = false → r.after = r.before) ∧
      (∀ r ∈ log, r.after.assoc.status ≠ r.before.assoc.status →
        (r.Moves .initSent .initAckReceived ∧ r.IsInitAck) ∨
        (r.Moves .initAckReceived .established ∧ r.IsCookieAck)) ∧
      (start.assoc.status = .initSent → after.assoc.status = .established →
        ∃ a c, [a, c].Sublist log ∧ a.Opens ∧ c.Closes) ∧
      (∀ r ∈ log, r.before.assoc.status = .established → r.after = r.before) ∧
      (∀ r ∈ log, r.before.assoc.status = .listen → r.IsInit →
        r.after.assoc = r.before.assoc) := by
  constructor
  · exact run_ne_none deliver _ deliver_ne_none inputs start
  · intro after log ran
    have held := run_disciplined start after inputs log ran
    refine ⟨held.packets, fun r member => (held.lawful r member).refused,
      fun r member => (held.lawful r member).moves, ?_,
      fun r member => (held.lawful r member).established,
      fun r member => (held.lawful r member).stateless⟩
    intro initSent established
    have progress := held.progress initSent
    rw [established] at progress
    exact progress

/-- A packet that does not come from the peer: an answer to an INIT under another tag than the
INIT's, or a COOKIE ECHO that does not fit the cookie it carries. -/
def OffPath (sentTag : UInt32) (packet : Bytes) : Prop :=
  ((packet 46 = sctpInitAck ∨ packet 46 = sctpCookieAck) ∧ u32 packet 38 ≠ sentTag) ∨
  (packet 46 = sctpCookieEcho ∧
    (u32 packet 38 ≠ (Cookie.read (shift packet 50)).initTag ∨
      (u16 packet 34).toUInt32 ≠ (Cookie.read (shift packet 50)).srcPort ∨
      (ntohs (u16 packet 36)).toUInt32 ≠ (Cookie.read (shift packet 50)).dstPort))

/-- No check compares tags or sealed ports, so of the packets from off the path exactly those
are ignored that some other check refuses. -/
theorem off_path_ignored_iff (host : Host) (e : Endpoint) (sentTag : UInt32) (packet : Bytes) :
    (OffPath sentTag packet → ifIpSctp host (some packet) e = some (false, e)) ↔
      ¬(OffPath sentTag packet ∧ Addressed e packet ∧ Admitted e packet) := by
  rw [ifIpSctp_refuses_iff]
  exact not_and.symm

/-- An INIT ACK for the client made up by someone who has not seen its INIT. -/
def forgedInitAck : Bytes :=
  put (fun _ => 0) 30 (le32 0x0201A8C0 ++ le16 (htons 80) ++ le16 (htons 4000) ++ le32 99 ++
    le32 0 ++ fldHdr sctpInitAck (htons 80) ++ (advertisedHdr ⟨666, 667, 0, some⟩
      createdServer.assoc.ulp).encode)

/-- The client takes it for the server's. -/
theorem off_path_accepted : OffPath 31 forgedInitAck ∧
    ∃ after, ifIpSctp ⟨0, 0, 0, some⟩ (some forgedInitAck) createdClient = some (true, after) ∧
      after.assoc.status = .initAckReceived := by
  have addressed : Addressed createdClient forgedInitAck :=
    ⟨⟨_, rfl, Option.some_ne_none _⟩, by decide, by decide⟩
  have admitted : Admitted createdClient forgedInitAck :=
    .inr (.inl ⟨by decide, rfl, by decide⟩)
  have filters := ifIpSctp_filters ⟨0, 0, 0, some⟩ createdClient forgedInitAck
  obtain ⟨⟨accepted, after⟩, returned⟩ :=
    Option.ne_none_iff_exists'.mp (filters.returns (Endpoint.fresh_supplied _))
  obtain ⟨rfl, changed⟩ := filters.passes ⟨addressed, admitted⟩ accepted after returned
  refine ⟨.inl ⟨.inl (by decide), by decide⟩, after, returned, ?_⟩
  rw [changed]
  simp [received, show forgedInitAck 46 = sctpInitAck by decide, initAckAssoc]

end Kpnet.Sctp
