import Kpnet.Sctp.Association
import Kpnet.Sctp.Digests

/-!
# Stale cookies

`if_sctp.c`, with the list of errors that it keeps for a connection. A cookie that is not the one
that was sent is an error of its own; the search for the end of the list runs past it.
-/
namespace Kpnet.Sctp

open Bytes

/-- `node_t`; address 0 is `NULL`. -/
structure Node where
  data : UInt16
  next : UInt64
  deriving DecidableEq, Repr

/-- What `if_sctp` uses of `connection_args_t`, with the memory behind `payload` and `ipv4`. -/
structure ConnectionArgs where
  payload : Bytes
  srcport : UInt32
  dstport : UInt32
  srcVerTag : UInt32
  dstVerTag : UInt32
  dstTsn : UInt32
  destARwnd : UInt32
  destOs : UInt16
  destMis : UInt16
  hmac : UInt64
  errors : UInt64
  ipv4 : Bytes
  status : SctpStatus

/-- The arguments, and the nodes that `malloc` has returned. -/
structure Connection where
  args : ConnectionArgs
  heap : UInt64 → Node

/-- Why there is no result. -/
inductive Stuck where
  | nullPointer
  | running
  deriving DecidableEq, Repr

def staleCookieError : UInt16 := 3

/-- A store through a pointer. -/
def storeNode (heap : UInt64 → Node) (node : UInt64) (value : Node) :
    Except Stuck (UInt64 → Node) :=
  if node = 0 then .error .nullPointer else .ok (Function.update heap node value)

/-- `for (; NULL != (node = node->next);)`, with the node behind the loop. -/
def searchTail (heap : UInt64 → Node) : Nat → UInt64 → Except Stuck UInt64
  | 0, _ => .error .running
  | fuel + 1, node =>
    let node := (heap node).next
    if node = 0 then .ok node else searchTail heap fuel node

/-- The case of a wrong cookie; `malloc` is what it returns. -/
def addError (fuel : Nat) (malloc : UInt64) (c : Connection) : Except Stuck Connection :=
  if c.args.errors = 0 then do
    let heap ← storeNode c.heap malloc ⟨staleCookieError, 0⟩
    .ok ⟨{ c.args with errors := malloc }, heap⟩
  else do
    let node ← searchTail c.heap fuel c.args.errors
    let heap ← storeNode c.heap node { c.heap node with next := malloc }
    let heap ← storeNode heap malloc ⟨staleCookieError, 0⟩
    .ok { c with heap := heap }

/-- An INIT for a listening connection. -/
def takeInit (packet : Bytes) (args : ConnectionArgs) : ConnectionArgs :=
  { args with
    status := .initReceived
    dstport := (u16 packet 0).toUInt32
    dstTsn := u32 packet 16
    srcVerTag := u32 packet 16
    destARwnd := u32 packet 20
    destOs := ntohs (u16 packet 24)
    destMis := ntohs (u16 packet 26)
    payload := put args.payload 0 (slice args.ipv4 12 4 ++ slice args.ipv4 16 4 ++
      le32 args.dstVerTag ++ le64 args.hmac) }

/-- An INIT ACK; here the two stream counts stay in network order. -/
def takeInitAck (packet : Bytes) (args : ConnectionArgs) : ConnectionArgs :=
  { args with
    dstTsn := u32 packet 16
    srcVerTag := u32 packet 16
    destARwnd := u32 packet 20
    destMis := u16 packet 26
    destOs := u16 packet 24 }

/-- `if_sctp`: its result, and the packet and the connection it leaves. -/
def ifSctp (fuel : Nat) (malloc : UInt64) (packet : Bytes) (size : UInt64) (c : Connection) :
    Except Stuck (Bool × Bytes × Connection) :=
  if size < 16 then .ok (false, packet, c)
  else
    let len := htons (u16 packet 14)
    if (u16 packet 0).toUInt32 ≠ c.args.dstport ∨ (u16 packet 2).toUInt32 ≠ c.args.srcport then
      .ok (false, packet, c)
    else
      let pkCheck := u32 packet 8
      let packet := put packet 8 (le32 0)
      if pkCheck ≠ generateCrc32c packet (12 + len.toUInt32) then .ok (false, packet, c)
      else if packet 12 = sctpInit then
        if c.args.status = .listen then .ok (true, packet, { c with args := takeInit packet c.args })
        else .ok (false, packet, c)
      else if packet 12 = sctpInitAck then
        if u32 packet 4 ≠ c.args.dstVerTag then .ok (false, packet, c)
        else .ok (true, packet, { c with args := takeInitAck packet c.args })
      else if packet 12 = sctpCookieEcho then
        if c.args.status = .initAckSent then
          if u32 packet 4 ≠ c.args.dstVerTag then .ok (false, packet, c)
          else if (u32 packet 16).toUInt64 ≠ c.args.hmac then do
            let c ← addError fuel malloc c
            .ok (true, packet, c)
          else .ok (true, packet, c)
        else .ok (false, packet, c)
      else .ok (packet 12 = sctpCookieAck, packet, c)

/-- A list of nodes, from its head on. -/
def Holds (heap : UInt64 → Node) : UInt64 → List (UInt64 × UInt16) → Prop
  | head, [] => head = 0
  | head, (p, data) :: nodes =>
    head = p ∧ p ≠ 0 ∧ (heap p).data = data ∧ Holds heap (heap p).next nodes

/-- A COOKIE ECHO for the connection, intact but with a wrong cookie. -/
structure StaleEcho (args : ConnectionArgs) (packet : Bytes) (size : UInt64) : Prop where
  size : 16 ≤ size
  source : (u16 packet 0).toUInt32 = args.dstport
  destination : (u16 packet 2).toUInt32 = args.srcport
  intact : u32 packet 8 =
    generateCrc32c (put packet 8 (le32 0)) (12 + (htons (u16 packet 14)).toUInt32)
  type : packet 12 = sctpCookieEcho
  tag : u32 packet 4 = args.dstVerTag
  cookie : (u32 packet 16).toUInt64 ≠ args.hmac

/-- A packet that is received, and the address `malloc` has for its error. -/
structure Reception where
  packet : Bytes
  size : UInt64
  malloc : UInt64

/-- Every packet is taken, and puts one error behind all the others. -/
def Accumulates (fuel : Nat) : Connection → List (UInt64 × UInt16) → List Reception → Prop
  | c, nodes, [] => Holds c.heap c.args.errors nodes
  | c, nodes, r :: rs => Holds c.heap c.args.errors nodes ∧ ∃ packet after,
      ifSctp fuel r.malloc r.packet r.size c = .ok (true, packet, after) ∧
      Accumulates fuel after (nodes ++ [(r.malloc, staleCookieError)]) rs

section

variable {c : Connection} {nodes : List (UInt64 × UInt16)}

/-- A stale cookie is left to the list of errors. -/
theorem StaleEcho.ifSctp_eq {packet : Bytes} {size : UInt64} (stale : StaleEcho c.args packet size)
    (waits : c.args.status = .initAckSent) (fuel : Nat) (malloc : UInt64) :
    ifSctp fuel malloc packet size c =
      (addError fuel malloc c).map fun after => (true, put packet 8 (le32 0), after) := by
  have long : ¬size < 16 := UInt64.not_lt.mpr stale.size
  have ports : ¬((u16 packet 0).toUInt32 ≠ c.args.dstport ∨
      (u16 packet 2).toUInt32 ≠ c.args.srcport) := by
    rw [not_or, not_not, not_not]
    exact ⟨stale.source, stale.destination⟩
  -- the checksum is cleared, and nothing else that is looked at
  have type : put packet 8 (le32 0) 12 = sctpCookieEcho := by
    rw [put_after packet 8 12 (le32 0) (by simp), stale.type]
  have tag : u32 (put packet 8 (le32 0)) 4 = c.args.dstVerTag := by
    rw [u32_put_of_disjoint packet 8 4 (le32 0) (by simp), stale.tag]
  have cookie : (u32 (put packet 8 (le32 0)) 16).toUInt64 ≠ c.args.hmac := by
    rw [u32_put_of_disjoint packet 8 16 (le32 0) (by simp)]
    exact stale.cookie
  have notInit : ¬sctpCookieEcho = sctpInit := by decide
  have notInitAck : ¬sctpCookieEcho = sctpInitAck := by decide
  unfold ifSctp
  simp only [if_neg long, if_neg ports, if_neg (not_not.mpr stale.intact), type, tag, waits,
    if_pos cookie, if_neg notInit, if_neg notInitAck, ne_eq, not_true_eq_false, if_true, if_false]
  cases addError fuel malloc c with
  | error stuck => rfl
  | ok after => rfl

/-- The first error of a connection becomes its list. -/
theorem addError_of_nil (held : Holds c.heap c.args.errors []) (fuel : Nat) {malloc : UInt64}
    (allocated : malloc ≠ 0) :
    addError fuel malloc c = .ok ⟨{ c.args with errors := malloc },
      Function.update c.heap malloc ⟨staleCookieError, 0⟩⟩ := by
  have empty : c.args.errors = 0 := held
  rw [addError, if_pos empty, storeNode, if_neg allocated]
  rfl

/-- The loop leaves the list before it stops: what it has found is no node. -/
theorem searchTail_eq_ok {heap : UInt64 → Node} {fuel : Nat} {node found : UInt64}
    (searched : searchTail heap fuel node = .ok found) : found = 0 := by
  induction fuel generalizing node with
  | zero => cases searched
  | succ fuel ih =>
    simp only [searchTail] at searched
    split at searched
    next last =>
      cases searched
      exact last
    · exact ih searched

/-- It does stop on a list. -/
theorem searchTail_of_holds {heap : UInt64 → Node} {fuel : Nat} {p : UInt64} {data : UInt16}
    (held : Holds heap p ((p, data) :: nodes)) (enough : nodes.length < fuel) :
    searchTail heap fuel p = .ok 0 := by
  induction nodes generalizing fuel p data with
  | nil =>
    cases fuel with
    | zero => cases enough
    | succ fuel =>
      have last : (heap p).next = 0 := held.2.2.2
      simp only [searchTail, last, if_true]
  | cons node nodes ih =>
    cases fuel with
    | zero => cases enough
    | succ fuel =>
      obtain ⟨q, data'⟩ := node
      obtain ⟨-, -, -, rest⟩ := held
      have next : (heap p).next = q := rest.1
      have more : q ≠ 0 := rest.2.1
      rw [next] at rest
      simp only [searchTail, next, if_neg more]
      exact ih rest (Nat.lt_of_succ_lt_succ enough)

/-- No further error is ever put behind the first. -/
theorem addError_ne_ok {node : UInt64 × UInt16} (held : Holds c.heap c.args.errors (node :: nodes))
    (fuel : Nat) (malloc : UInt64) (after : Connection) : addError fuel malloc c ≠ .ok after := by
  have some : c.args.errors ≠ 0 := by
    rw [held.1]
    exact held.2.1
  rw [addError, if_neg some]
  cases searched : searchTail c.heap fuel c.args.errors with
  | error stuck => nofun
  | ok found =>
    rw [searchTail_eq_ok searched]
    nofun

/-- The store after the loop goes through `NULL`. -/
theorem addError_nullPointer {node : UInt64 × UInt16}
    (held : Holds c.heap c.args.errors (node :: nodes)) {fuel : Nat} (enough : nodes.length < fuel)
    (malloc : UInt64) : addError fuel malloc c = .error .nullPointer := by
  have some : c.args.errors ≠ 0 := by
    rw [held.1]
    exact held.2.1
  obtain ⟨p, data⟩ := node
  have head : c.args.errors = p := held.1
  rw [head] at held
  rw [addError, if_neg some, head, searchTail_of_holds held enough]
  rfl

/-- With an error in the list, the next stale cookie is the end. -/
theorem not_accumulates_of_cons {node : UInt64 × UInt16} {r : Reception} {rs : List Reception}
    (waits : c.args.status = .initAckSent) (held : Holds c.heap c.args.errors (node :: nodes))
    (stale : StaleEcho c.args r.packet r.size) (fuel : Nat) :
    ¬Accumulates fuel c (node :: nodes) (r :: rs) := by
  rintro ⟨-, packet, after, received, -⟩
  rw [stale.ifSctp_eq waits fuel r.malloc] at received
  cases added : addError fuel r.malloc c with
  | error stuck =>
    rw [added] at received
    cases received
  | ok last => exact addError_ne_ok held fuel r.malloc last added

end

/-- For any list and any packets: the errors accumulate if and only if no packet is received, or a
single one while there is no error yet. Any other goes on to a store through `NULL`. -/
theorem stale_cookies_accumulate_iff (fuel : Nat) (c : Connection)
    (nodes : List (UInt64 × UInt16)) (rs : List Reception)
    (waits : c.args.status = .initAckSent) (held : Holds c.heap c.args.errors nodes)
    (stale : ∀ r ∈ rs, StaleEcho c.args r.packet r.size) (allocated : ∀ r ∈ rs, r.malloc ≠ 0) :
    (Accumulates fuel c nodes rs ↔ rs = [] ∨ (nodes = [] ∧ rs.length = 1)) ∧
    ∀ r ∈ rs, nodes ≠ [] → nodes.length ≤ fuel →
      ifSctp fuel r.malloc r.packet r.size c = .error .nullPointer := by
  constructor
  · cases rs with
    | nil => exact iff_of_true held (.inl rfl)
    | cons r rs =>
      have echo := stale r List.mem_cons_self
      cases nodes with
      | cons node nodes =>
        exact iff_of_false (not_accumulates_of_cons waits held echo fuel) (by simp)
      | nil =>
        have fresh := allocated r List.mem_cons_self
        have taken := echo.ifSctp_eq waits fuel r.malloc
        rw [addError_of_nil held fuel fresh] at taken
        have first : Holds (Function.update c.heap r.malloc ⟨staleCookieError, 0⟩) r.malloc
            [(r.malloc, staleCookieError)] := by
          simp [Holds, fresh]
        cases rs with
        | nil =>
          have accumulated : Accumulates fuel c [] [r] := ⟨held, _, _, taken, first⟩
          exact iff_of_true accumulated (.inr ⟨rfl, rfl⟩)
        | cons r' rs =>
          refine iff_of_false ?_ (by simp)
          rintro ⟨-, packet, after, received, rest⟩
          cases taken.symm.trans received
          -- the other arguments are as they were, and the list is not empty any more
          have echo' := stale r' (List.mem_cons_of_mem r List.mem_cons_self)
          have again : StaleEcho { c.args with errors := r.malloc } r'.packet r'.size :=
            ⟨echo'.size, echo'.source, echo'.destination, echo'.intact, echo'.type, echo'.tag,
              echo'.cookie⟩
          exact not_accumulates_of_cons (c := ⟨{ c.args with errors := r.malloc },
            Function.update c.heap r.malloc ⟨staleCookieError, 0⟩⟩) waits first again fuel rest
  · intro r member some enough
    cases nodes with
    | nil => exact absurd rfl some
    | cons node nodes =>
      rw [(stale r member).ifSctp_eq waits fuel r.malloc, addError_nullPointer held enough]
      rfl

/-- A connection from port 1 to port 2, with the tag 5 and the cookie 6 sent out. -/
def awaiting : Connection :=
  { args :=
      { payload := fun _ => 0
        srcport := 0x0100
        dstport := 0x0200
        srcVerTag := 9
        dstVerTag := 5
        dstTsn := 0
        destARwnd := 0
        destOs := 0
        destMis := 0
        hmac := 6
        errors := 0
        ipv4 := fun _ => 0
        status := .initAckSent }
    heap := fun _ => ⟨0, 0⟩ }

/-- Its peer sends the cookie 7. -/
def wrongEcho : Bytes :=
  let packet := put (fun _ => 0) 0 (le16 0x0200 ++ le16 0x0100 ++ le32 5 ++ le32 0 ++
    [10, 0, 0, 8] ++ le32 7)
  put packet 8 (le32 (generateCrc32c packet 20))

theorem wrongEcho_stale (errors : UInt64) :
    StaleEcho { awaiting.args with errors := errors } wrongEcho 20 := by
  have cookie : (u32 wrongEcho 16).toUInt64 ≠ awaiting.args.hmac := by decide
  refine ⟨by decide, rfl, rfl, ?_, rfl, rfl, cookie⟩
  decide +kernel

theorem stale_cookies_accumulate_iff_single :
    Accumulates 0 awaiting [] [⟨wrongEcho, 20, 4096⟩] := by
  have stale : ∀ r ∈ [(⟨wrongEcho, 20, 4096⟩ : Reception)],
      StaleEcho awaiting.args r.packet r.size := by
    intro r member
    rw [List.mem_singleton.mp member]
    exact wrongEcho_stale 0
  have sure := stale_cookies_accumulate_iff 0 awaiting [] [⟨wrongEcho, 20, 4096⟩] rfl rfl stale
    (by simp)
  exact sure.1.mpr (.inr ⟨rfl, rfl⟩)

/-- When it sends it again, the second error is written through `NULL`. -/
theorem second_stale_cookie_crashes : ∃ packet after,
    StaleEcho awaiting.args wrongEcho 20 ∧ StaleEcho after.args wrongEcho 20 ∧
    ifSctp 1 4096 wrongEcho 20 awaiting = .ok (true, packet, after) ∧
    Holds after.heap after.args.errors [(4096, staleCookieError)] ∧
    ifSctp 1 8192 wrongEcho 20 after = .error .nullPointer ∧
    ¬Accumulates 1 awaiting [] [⟨wrongEcho, 20, 4096⟩, ⟨wrongEcho, 20, 8192⟩] := by
  have first := (wrongEcho_stale 0).ifSctp_eq (c := awaiting) rfl 1 4096
  rw [addError_of_nil (c := awaiting) rfl 1 (by decide)] at first
  have held : Holds (Function.update awaiting.heap 4096 ⟨staleCookieError, 0⟩) 4096
      [(4096, staleCookieError)] := by
    simp [Holds]
  have second := (wrongEcho_stale 4096).ifSctp_eq (c := ⟨{ awaiting.args with errors := 4096 },
    Function.update awaiting.heap 4096 ⟨staleCookieError, 0⟩⟩) rfl 1 8192
  rw [addError_nullPointer held (by simp)] at second
  refine ⟨_, _, wrongEcho_stale 0, wrongEcho_stale 4096, first, held, second, ?_⟩
  rintro ⟨-, packet, after, received, rest⟩
  cases first.symm.trans received
  exact not_accumulates_of_cons rfl held (wrongEcho_stale 4096) 1 rest

end Kpnet.Sctp
