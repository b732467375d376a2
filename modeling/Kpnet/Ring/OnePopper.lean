import Kpnet.Ring.Claiming
import Kpnet.Ring.Ownership

/-!
# An allocator that one thread pops

`recv_sctp_packet` takes all the buffers of its allocator itself, hands them on through another ring,
and any thread that got one may push it back. A cell that was popped and is still to be read is then
safe: a producer gets to it again only with all cells of the ring claimed, and for that one buffer more
would be needed than there are.
-/
namespace Kpnet.Ring

open Tokens

variable {β τ : Type}

namespace Pc

/-- Whether a thread is in a pop. -/
def pops : Pc β → Bool
  | .load .pop | .test .pop _ | .cas .pop _ | .release _ => true
  | _ => false

/-- Whether a thread that is in a push has a buffer to push. -/
def laden : Pc β → Bool
  | .load (.push packet _) | .test (.push packet _) _ | .cas (.push packet _) _ => packet.isSome
  | .writePacket packet _ _ | .writePlen packet _ _ | .publish packet _ _ => packet.isSome
  | _ => true

theorem writing_of_storing {pc : Pc β} {pos : UInt64} (storing : pc.storing = some pos) :
    pc.writing = some pos := by
  cases pc with
  | writePacket packet plen pos' => exact storing
  | _ => cases storing

/-- What a thread that writes to a cell carries. -/
theorem carries_of_writing {pc : Pc β} {pos : UInt64} (writing : pc.writing = some pos)
    (laden : pc.laden = true) : ∃ b, pc.carries = some b := by
  cases pc with
  | writePacket packet plen pos' => exact Option.isSome_iff_exists.mp laden
  | writePlen packet plen pos' => exact Option.isSome_iff_exists.mp laden
  | publish packet plen pos' => exact Option.isSome_iff_exists.mp laden
  | _ => cases writing

end Pc

/-- What a thread does with the allocator or with a buffer of it: it may also hand one on to another
thread. -/
inductive LoanAction (β τ : Type) where
  | client (action : PoolAction β)
  | hand (buffer : β) (thread : τ)
  deriving DecidableEq, Repr

def Pool.lend [DecidableEq τ] [DecidableEq β] (s : Pool β τ) (i : τ × LoanAction β τ) :
    Option (Pool β τ × List (Event β τ)) :=
  match i.2 with
  | .client action => s.act (i.1, action)
  | .hand b v =>
    if b ∈ s.held i.1 ∧ v ≠ i.1 then
      some ({ s with
        held := Function.update (Function.update s.held i.1 ((s.held i.1).erase b)) v
          (b :: s.held v) }, [])
    else none

/-- One thread takes the buffer out of the hands of another. -/
theorem Custody.hand [DecidableEq τ] [DecidableEq β] {tokens : Set β} {c : Custody β τ} {u v : τ}
    (placed : Placed tokens c.At) (b : β) (member : b ∈ c.held u) (once : (c.held u).Nodup)
    (other : v ≠ u) :
    Placed tokens { c with
      held := Function.update (Function.update c.held u ((c.held u).erase b)) v
        (b :: c.held v) }.At := by
  refine placed.move b (.held u) (.held v) member ?_ ?_ ?_
  · simp only [At, Function.update_of_ne other.symm, Function.update_self]
    exact once.not_mem_erase
  · simp [At]
  · intro d x elsewhere
    cases x with
    | held t =>
      by_cases receiver : t = v
      · subst receiver
        have distinct : d ≠ b := by simpa using elsewhere
        simp [At, distinct]
      · by_cases giver : t = u
        · subst giver
          simp only [At, Function.update_of_ne receiver, Function.update_self]
          exact List.mem_erase_of_ne (by simpa using elsewhere)
        · simp only [At, Function.update_of_ne receiver, Function.update_of_ne giver]
    | pushing t => rfl
    | popping t => rfl
    | queued i => rfl

/-- The ring of `2^k` cells while only the thread `c` pops. What it has fetched is the cell of the last
position, every cell that is filled or fetched has a buffer in it, and every claimed cell that is not
filled has a thread writing to it. -/
structure OnePopper (c : τ) (k h t : Nat) (s : Pool β τ) : Prop where
  unread : ∀ u, u ≠ c → s.unread u = none
  popper : ∀ u, u ≠ c → (s.sys.pc u).pops = false
  laden : ∀ u, (s.sys.pc u).laden = true
  last : ∀ i, s.fetched c = some i → ∃ p, t = p + 1 ∧ i = p % 2 ^ k ∧
    (s.sys.rb.cells i).packet.isSome
  filled : ∀ p, t ≤ p → p < h → (s.sys.rb.cells (p % 2 ^ k)).seq = UInt64.ofNat (p + 1) →
    (s.sys.rb.cells (p % 2 ^ k)).packet.isSome
  writer : ∀ p, t ≤ p → p < h → (s.sys.rb.cells (p % 2 ^ k)).seq = UInt64.ofNat p →
    ∃ u, (s.sys.pc u).writing = some (UInt64.ofNat p)

namespace OnePopper

variable {c : τ} {k h t : Nat} {s : Pool β τ}

/-- A claimed cell stands for a buffer, which is queued in it or carried by the thread that writes to
it. -/
theorem claimed (one : OnePopper c k h t s) (positions : Positions k h t s.sys) (p : Nat)
    (low : t ≤ p) (high : p < h) : ∃ x b, s.custody.At b x ∧
      (x = .queued (p % 2 ^ k) ∨ ∃ u, x = .pushing u ∧ (s.sys.pc u).writing = some (UInt64.ofNat p)) := by
  rcases positions.behind p low high with full | written
  · obtain ⟨b, content⟩ := Option.isSome_iff_exists.mp (one.filled p low high full)
    exact ⟨.queued (p % 2 ^ k), b, ⟨(positions.filled_iff _).mpr ⟨p, low, high, rfl, full⟩, content⟩,
      Or.inl rfl⟩
  · obtain ⟨u, writing⟩ := one.writer p low high written
    obtain ⟨b, carries⟩ := Pc.carries_of_writing writing (one.laden u)
    exact ⟨.pushing u, b, carries, Or.inr ⟨u, rfl, writing⟩⟩

/-- With a buffer in the cell that was fetched, there are not enough others to claim all cells. -/
theorem room (one : OnePopper c k h t s) {tokens : Set β} (inv : Owned tokens k h t s)
    {name : Nat → β} (named : ∀ b ∈ tokens, ∃ i < 2 ^ k, name i = b) {i : Nat}
    (fetched : s.fetched c = some i) : h < t + 2 ^ k := by
  have positions := inv.positions
  have half := size_le_half positions.le_bits
  have bounded := positions.bounded
  by_contra full
  have all : h = t + 2 ^ k := by omega
  -- one place for each claimed position, and the cell that was fetched
  have places : ∀ j, ∃ x : Place τ, (j < 2 ^ k → (∃ b, s.custody.At b x) ∧
      (x = .queued ((t + j) % 2 ^ k) ∨
        ∃ u, x = .pushing u ∧ (s.sys.pc u).writing = some (UInt64.ofNat (t + j)))) ∧
      (¬ j < 2 ^ k → x = .popping c) := by
    intro j
    by_cases claimed : j < 2 ^ k
    · obtain ⟨x, b, there, which⟩ := one.claimed positions (t + j) (by omega) (by omega)
      exact ⟨x, fun _ => ⟨⟨b, there⟩, which⟩, fun other => absurd claimed other⟩
    · exact ⟨.popping c, fun other => absurd other claimed, fun _ => rfl⟩
  choose place inside outside using places
  have count := inv.placed.card_le named (Finset.range (2 ^ k + 1)) place ?_ ?_
  · rw [Finset.card_range] at count
    omega
  · intro x x_mem y y_mem same
    rw [Finset.mem_range] at x_mem y_mem
    by_cases x_low : x < 2 ^ k <;> by_cases y_low : y < 2 ^ k
    · rcases (inside x x_low).2 with queued | ⟨u, pushing, writes⟩ <;>
        rcases (inside y y_low).2 with queued' | ⟨v, pushing', writes'⟩
      · rw [queued, queued', Place.queued.injEq] at same
        have equal := Counter.eq_of_mod same (by omega) (by omega)
        omega
      · rw [queued, pushing'] at same
        cases same
      · rw [pushing, queued'] at same
        cases same
      · rw [pushing, pushing', Place.pushing.injEq] at same
        rw [same, writes', Option.some.injEq] at writes
        have equal := Counter.eq_of_ofNat writes (by omega) (by omega)
        omega
    · rw [outside y y_low] at same
      rcases (inside x x_low).2 with queued | ⟨u, pushing, -⟩
      · rw [queued] at same
        cases same
      · rw [pushing] at same
        cases same
    · rw [outside x x_low] at same
      rcases (inside y y_low).2 with queued | ⟨u, pushing, -⟩
      · rw [queued] at same
        cases same
      · rw [pushing] at same
        cases same
    · omega
  · intro x x_mem
    by_cases x_low : x < 2 ^ k
    · exact (inside x x_low).1
    · obtain ⟨p, -, -, present⟩ := one.last i fetched
      obtain ⟨b, content⟩ := Option.isSome_iff_exists.mp present
      rw [outside x x_low]
      exact ⟨b, i, fetched, content⟩

/-- No producer stores into a cell that was popped and is still to be read. -/
theorem spares (one : OnePopper c k h t s) {tokens : Set β} (inv : Owned tokens k h t s)
    {name : Nat → β} (named : ∀ b ∈ tokens, ∃ i < 2 ^ k, name i = b) {u v : τ} {pos : UInt64}
    (storing : (s.sys.pc u).storing = some pos) : s.unread v ≠ some (s.sys.rb.slot pos) := by
  intro waits
  have popper : v = c := by
    by_contra other
    rw [one.unread v other] at waits
    cases waits
  subst popper
  have positions := inv.positions
  have fetched : s.fetched v = some (s.sys.rb.slot pos) := by
    rw [Pool.fetched, inv.waiting v _ waits]
    exact waits
  have room := one.room inv named fetched
  obtain ⟨p, rfl, slot, -⟩ := one.last _ fetched
  obtain ⟨q, rfl, low, high, -⟩ := positions.writer u pos (Pc.writing_of_storing storing)
  rw [positions.slot] at slot
  -- in less than a lap no other position has the cell of the one that was fetched
  have equal := Counter.eq_of_mod slot (by omega) (by omega)
  omega

section Step

variable [DecidableEq τ] {u : τ}

theorem pops_move (one : OnePopper c k h t s) (rb : Ringbuf β) {pc : Pc β}
    (popper : u ≠ c → pc.pops = false) :
    ∀ v, v ≠ c → ((s.sys.move rb u pc).pc v).pops = false := by
  intro v other
  by_cases same : v = u
  · subst same
    rw [Sys.move_self]
    exact popper other
  · rw [Sys.move_of_ne _ _ _ same]
    exact one.popper v other

theorem laden_move (one : OnePopper c k h t s) (rb : Ringbuf β) {pc : Pc β}
    (loaded : pc.laden = true) : ∀ v, ((s.sys.move rb u pc).pc v).laden = true := by
  intro v
  by_cases same : v = u
  · subst same
    rw [Sys.move_self]
    exact loaded
  · rw [Sys.move_of_ne _ _ _ same]
    exact one.laden v

/-- A thread that writes to another cell than the mover still does so. -/
theorem writer_move (one : OnePopper c k h t s) (rb : Ringbuf β) {pc : Pc β} {p : Nat} (low : t ≤ p)
    (high : p < h) (seq : (s.sys.rb.cells (p % 2 ^ k)).seq = UInt64.ofNat p)
    (kept : (s.sys.pc u).writing = some (UInt64.ofNat p) → pc.writing = some (UInt64.ofNat p)) :
    ∃ v, ((s.sys.move rb u pc).pc v).writing = some (UInt64.ofNat p) := by
  obtain ⟨v, writing⟩ := one.writer p low high seq
  refine ⟨v, ?_⟩
  by_cases same : v = u
  · subst same
    rw [Sys.move_self]
    exact kept writing
  · rw [Sys.move_of_ne _ _ _ same]
    exact writing

/-- A step that claims nothing, publishes nothing and takes no buffer out of a cell. -/
theorem quiet (one : OnePopper c k h t s) (rb : Ringbuf β) (pc : Pc β) (held : τ → List β)
    (mask : rb.mask = s.sys.rb.mask) (seqs : ∀ i, (rb.cells i).seq = (s.sys.rb.cells i).seq)
    (packets : ∀ i, (s.sys.rb.cells i).packet.isSome → (rb.cells i).packet.isSome)
    (writing : pc.writing = (s.sys.pc u).writing) (reading : pc.reading = (s.sys.pc u).reading)
    (popper : u ≠ c → pc.pops = false) (loaded : pc.laden = true) :
    OnePopper c k h t { sys := s.sys.move rb u pc, held := held, unread := s.unread } := by
  have fetched := Owned.fetched_move s rb u pc held s.unread (s.fetched u) mask (fun _ _ => rfl)
    (by rw [reading, Pool.fetched])
  rw [Function.update_eq_self] at fetched
  refine ⟨one.unread, one.pops_move rb popper, one.laden_move rb loaded, ?_, ?_, ?_⟩
  · intro i seen
    rw [fetched] at seen
    obtain ⟨p, last, slot, present⟩ := one.last i seen
    exact ⟨p, last, slot, packets i present⟩
  · intro p low high seq
    rw [Sys.move_rb, seqs] at seq
    exact packets _ (one.filled p low high seq)
  · intro p low high seq
    rw [Sys.move_rb, seqs] at seq
    exact one.writer_move rb low high seq (fun writes => by rw [writing, writes])

theorem claimedPush (one : OnePopper c k h t s) (positions : Positions k h t s.sys)
    (packet : Option β) (plen pos : UInt64) (at_pc : s.sys.pc u = .cas (.push packet plen) pos)
    (current : s.sys.rb.head = pos) (ready : (s.sys.rb.cells (s.sys.rb.slot pos)).seq = pos) :
    OnePopper c k (h + 1) t { s with
      sys := s.sys.move { s.sys.rb with head := pos + 1 } u (.writePacket packet plen pos) } := by
  have loaded := one.laden u
  rw [at_pc] at loaded
  rw [positions.head] at current
  subst current
  rw [positions.slot] at ready
  have fetched := Owned.fetched_move s { s.sys.rb with head := UInt64.ofNat h + 1 } u
    (.writePacket packet plen (UInt64.ofNat h)) s.held s.unread (s.fetched u) rfl (fun _ _ => rfl)
    (by rw [Pool.fetched, at_pc]; rfl)
  rw [Function.update_eq_self] at fetched
  refine ⟨one.unread, one.pops_move _ (fun _ => rfl), one.laden_move _ loaded, ?_, ?_, ?_⟩
  · intro i seen
    rw [fetched] at seen
    exact one.last i seen
  · intro p low high seq
    have earlier : p ≠ h := by
      rintro rfl
      have equal := Counter.eq_of_ofNat (ready.symm.trans seq) (by omega) (by omega)
      omega
    exact one.filled p low (by omega) seq
  · intro p low high seq
    by_cases newest : p = h
    · exact ⟨u, by rw [newest, Sys.move_self]; rfl⟩
    · refine one.writer_move _ low (by omega) seq fun writes => ?_
      rw [at_pc] at writes
      cases writes

theorem claimedPop (one : OnePopper c k h t s) (positions : Positions k h t s.sys) (pos : UInt64)
    (at_pc : s.sys.pc u = .cas .pop pos) (current : s.sys.rb.tail = pos)
    (ready : (s.sys.rb.cells (s.sys.rb.slot pos)).seq = pos + 1) :
    OnePopper c k h (t + 1)
      { s with sys := s.sys.move { s.sys.rb with tail := pos + 1 } u (.release pos) } := by
  have popper : u = c := by
    by_contra other
    have idle := one.popper u other
    rw [at_pc] at idle
    cases idle
  subst popper
  rw [positions.tail] at current
  subst current
  rw [positions.slot, ← UInt64.ofNat_one, ← UInt64.ofNat_add] at ready
  have queued := positions.queued ready
  have fetched := Owned.fetched_move s { s.sys.rb with tail := UInt64.ofNat t + 1 } u
    (.release (UInt64.ofNat t)) s.held s.unread (some (s.sys.rb.slot (UInt64.ofNat t))) rfl
    (fun _ _ => rfl) rfl
  refine ⟨one.unread, one.pops_move _ (fun other => absurd rfl other), one.laden_move _ rfl, ?_, ?_, ?_⟩
  · intro i seen
    rw [fetched, Function.update_self, positions.slot] at seen
    cases seen
    exact ⟨t, rfl, rfl, one.filled t (Nat.le_refl t) queued ready⟩
  · intro p low high seq
    exact one.filled p (by omega) high seq
  · intro p low high seq
    refine one.writer_move _ (by omega) high seq fun writes => ?_
    rw [at_pc] at writes
    cases writes

theorem published {tokens : Set β} (one : OnePopper c k h t s) (inv : Owned tokens k h t s)
    (packet : Option β) (plen pos : UInt64) (at_pc : s.sys.pc u = .publish packet plen pos) :
    OnePopper c k h t { s with
      sys := s.sys.move (s.sys.rb.setCell (s.sys.rb.slot pos)
        { s.sys.rb.cells (s.sys.rb.slot pos) with seq := pos + 1 }) u .idle } := by
  have positions := inv.positions
  have bounded := positions.bounded
  have half := size_le_half positions.le_bits
  have loaded := one.laden u
  rw [at_pc] at loaded
  have stored := inv.stored u pos packet (by rw [at_pc]; rfl)
  obtain ⟨q, rfl, q_low, q_high, -⟩ := positions.writer u pos (by rw [at_pc]; rfl)
  rw [positions.slot] at stored ⊢
  have packets := packet_setCell s.sys.rb (q % 2 ^ k)
    { s.sys.rb.cells (q % 2 ^ k) with seq := UInt64.ofNat q + 1 } rfl
  have fetched := Owned.fetched_move s (s.sys.rb.setCell (q % 2 ^ k)
    { s.sys.rb.cells (q % 2 ^ k) with seq := UInt64.ofNat q + 1 }) u .idle s.held s.unread
    (s.fetched u) rfl (fun _ _ => rfl) (by rw [Pool.fetched, at_pc]; rfl)
  rw [Function.update_eq_self] at fetched
  refine ⟨one.unread, one.pops_move _ (fun _ => rfl), one.laden_move _ rfl, ?_, ?_, ?_⟩
  · intro i seen
    rw [fetched] at seen
    rw [Sys.move_rb, packets]
    exact one.last i seen
  · intro p low high seq
    rw [Sys.move_rb] at seq
    rw [Sys.move_rb, packets]
    by_cases same : p % 2 ^ k = q % 2 ^ k
    · rw [same, stored]
      exact loaded
    · rw [Ringbuf.setCell_of_ne _ _ same] at seq
      exact one.filled p low high seq
  · intro p low high seq
    rw [Sys.move_rb] at seq
    by_cases same : p % 2 ^ k = q % 2 ^ k
    · -- the cell that is published now is no longer written to
      have equal := Counter.eq_of_mod same (by omega) (by omega)
      subst equal
      rw [Ringbuf.setCell_self, ← UInt64.ofNat_one, ← UInt64.ofNat_add] at seq
      have never := Counter.eq_of_ofNat seq (by omega) (by omega)
      omega
    · rw [Ringbuf.setCell_of_ne _ _ same] at seq
      refine one.writer_move _ low high seq fun writes => ?_
      rw [at_pc] at writes
      have equal := Counter.eq_of_ofNat (Option.some.inj writes) (by omega) (by omega)
      exact absurd (by rw [equal]) same

theorem released (one : OnePopper c k h t s) (positions : Positions k h t s.sys) (pos : UInt64)
    (at_pc : s.sys.pc u = .release pos) :
    OnePopper c k h t { s with
      sys := s.sys.move (s.sys.rb.setCell (s.sys.rb.slot pos)
        { s.sys.rb.cells (s.sys.rb.slot pos) with seq := pos + s.sys.rb.mask + 1 }) u .idle
      unread := Function.update s.unread u (some (s.sys.rb.slot pos)) } := by
  have popper : u = c := by
    by_contra other
    have idle := one.popper u other
    rw [at_pc] at idle
    cases idle
  subst popper
  obtain ⟨q, rfl, q_high, q_low, -⟩ := positions.reader u pos (by rw [at_pc]; rfl)
  have packets := packet_setCell s.sys.rb (s.sys.rb.slot (UInt64.ofNat q))
    { s.sys.rb.cells (s.sys.rb.slot (UInt64.ofNat q)) with
      seq := UInt64.ofNat q + s.sys.rb.mask + 1 } rfl
  have before : s.fetched u = some (s.sys.rb.slot (UInt64.ofNat q)) := by
    rw [Pool.fetched, at_pc]
    rfl
  have fetched := Owned.fetched_move s (s.sys.rb.setCell (s.sys.rb.slot (UInt64.ofNat q))
    { s.sys.rb.cells (s.sys.rb.slot (UInt64.ofNat q)) with
      seq := UInt64.ofNat q + s.sys.rb.mask + 1 }) u .idle s.held
    (Function.update s.unread u (some (s.sys.rb.slot (UInt64.ofNat q)))) (s.fetched u) rfl
    (fun v other => Function.update_of_ne other _ _)
    (by rw [before]; simp only [Pc.reading, Function.update_self])
  rw [Function.update_eq_self] at fetched
  -- the cell that is released belongs to no claimed position
  have apart (p : Nat) (low : t ≤ p) (high : p < h) :
      p % 2 ^ k ≠ s.sys.rb.slot (UInt64.ofNat q) := by
    rw [positions.slot]
    intro same
    have equal := Counter.eq_of_mod same (by omega) (by omega)
    omega
  refine ⟨?_, one.pops_move _ (fun _ => rfl), one.laden_move _ rfl, ?_, ?_, ?_⟩
  · intro v other
    exact (Function.update_of_ne other _ _).trans (one.unread v other)
  · intro i seen
    rw [fetched] at seen
    rw [Sys.move_rb, packets]
    exact one.last i seen
  · intro p low high seq
    rw [Sys.move_rb, Ringbuf.setCell_of_ne _ _ (apart p low high)] at seq
    rw [Sys.move_rb, packets]
    exact one.filled p low high seq
  · intro p low high seq
    rw [Sys.move_rb, Ringbuf.setCell_of_ne _ _ (apart p low high)] at seq
    refine one.writer_move _ low high seq fun writes => ?_
    rw [at_pc] at writes
    cases writes

/-- The store of a packet leaves buffers in all cells that had one. -/
theorem isSome_setCell (rb : Ringbuf β) (i : Nat) (cell : RingbufCell β)
    (present : (rb.cells i).packet.isSome → cell.packet.isSome) (j : Nat)
    (before : (rb.cells j).packet.isSome) : ((rb.setCell i cell).cells j).packet.isSome := by
  by_cases same : j = i
  · rw [same] at before
    rw [same, Ringbuf.setCell_self]
    exact present before
  · rw [Ringbuf.setCell_of_ne _ _ same]
    exact before

/-- Every atomic step inside a call. -/
theorem ringStep {tokens : Set β} (one : OnePopper c k h t s) (inv : Owned tokens k h t s)
    (spurious : Bool) (fresh : Fresh s.sys (u, .step spurious)) {sys : Sys β τ}
    {ev : List (Event β τ)} (effect : s.sys.Effect u (.step spurious) sys ev) :
    OnePopper c k (h + (pushes ev).length) (t + (pops ev).length) (s.returned u sys ev) := by
  have popper := one.popper u
  have loaded := one.laden u
  cases effect with
  | called call at_pc chosen => cases chosen
  | loaded call at_pc =>
    rw [at_pc] at popper loaded
    refine one.quiet s.sys.rb (.test call (call.counter s.sys.rb)) s.held rfl (fun _ => rfl)
      (fun _ => id) (by rw [at_pc]; rfl) (by rw [at_pc]; rfl) (fun other => ?_) ?_
    · rw [← popper other]
      cases call <;> rfl
    · rw [← loaded]
      cases call <;> rfl
  | tested call pos at_pc ready =>
    rw [at_pc] at popper loaded
    refine one.quiet s.sys.rb (.cas call pos) s.held rfl (fun _ => rfl) (fun _ => id)
      (by rw [at_pc]; rfl) (by rw [at_pc]; rfl) (fun other => ?_) ?_
    · rw [← popper other]
      cases call <;> rfl
    · rw [← loaded]
      cases call <;> rfl
  | refused call pos at_pc =>
    -- with or without a buffer that is handed back
    have quiet (held : τ → List β) := one.quiet s.sys.rb .idle held rfl (fun _ => rfl) (fun _ => id)
      (by rw [at_pc]; rfl) (by rw [at_pc]; rfl) (fun _ => rfl) rfl
    match call with
    | .push (some b) plen => exact quiet _
    | .push none plen => exact quiet s.held
    | .pop => exact quiet s.held
  | retried call pos at_pc =>
    have at_pc' : (s.sys.pc u).writing = none ∧ (s.sys.pc u).reading = none ∧
        (s.sys.pc u).pops = (Pc.load call).pops ∧ (s.sys.pc u).laden = (Pc.load call).laden := by
      rcases at_pc with at_pc | at_pc <;> rw [at_pc] <;> cases call <;> exact ⟨rfl, rfl, rfl, rfl⟩
    obtain ⟨writing, reading, same, same'⟩ := at_pc'
    refine one.quiet s.sys.rb (.load call) s.held rfl (fun _ => rfl) (fun _ => id)
      (by rw [writing]; rfl)
      (by rw [reading]; rfl) (fun other => ?_) ?_
    · rw [← same, popper other]
    · rw [← same', loaded]
  | claimedPush packet plen pos at_pc current strong =>
    have ready := fresh _ pos strong at_pc current
    rw [RingCall.lead, UInt64.add_zero] at ready
    exact one.claimedPush inv.positions packet plen pos at_pc current ready
  | claimedPop pos at_pc current strong =>
    exact one.claimedPop inv.positions pos at_pc current (fresh _ pos strong at_pc current)
  | wrotePacket packet plen pos at_pc =>
    rw [at_pc] at loaded
    exact one.quiet (s.sys.rb.setCell (s.sys.rb.slot pos)
      { s.sys.rb.cells (s.sys.rb.slot pos) with packet := packet }) (.writePlen packet plen pos) s.held
      rfl (seq_setCell _ _ _ rfl) (isSome_setCell _ _ _ (fun _ => loaded)) (by rw [at_pc]; rfl) (by rw [at_pc]; rfl)
      (fun _ => rfl) loaded
  | wrotePlen packet plen pos at_pc =>
    rw [at_pc] at loaded
    exact one.quiet (s.sys.rb.setCell (s.sys.rb.slot pos)
      { s.sys.rb.cells (s.sys.rb.slot pos) with plen := plen }) (.publish packet plen pos) s.held
      rfl (seq_setCell _ _ _ rfl) (isSome_setCell _ _ _ id)
      (by rw [at_pc]; rfl) (by rw [at_pc]; rfl) (fun _ => rfl) loaded
  | published packet plen pos at_pc => exact one.published inv packet plen pos at_pc
  | released pos at_pc => exact one.released inv.positions pos at_pc

end Step

end OnePopper

/-- What holds of an allocator along the run. -/
structure Served (tokens : Set β) (c : τ) (k h t : Nat) (s : Pool β τ) : Prop where
  owned : Owned tokens k h t s
  tests : Tests k h t s.sys
  one : OnePopper c k h t s

namespace Served

variable {tokens : Set β} {c : τ} {k h t : Nat} {s : Pool β τ}

/-- Every step is a careful one. -/
theorem careful (served : Served tokens c k h t s) (small : h < 2 ^ 63) {name : Nat → β}
    (named : ∀ b ∈ tokens, ∃ i < 2 ^ k, name i = b) (i : τ × PoolAction β) : Careful s i := by
  intro spurious _
  refine ⟨served.tests.fresh served.owned.positions small _, ?_⟩
  intro pos storing v
  exact served.one.spares served.owned named storing

variable [DecidableEq τ] {u : τ}

theorem sys_returned (s : Pool β τ) (u : τ) (sys : Sys β τ) (ev : List (Event β τ)) :
    (s.returned u sys ev).sys = sys := by
  unfold Pool.returned
  split <;> rfl

/-- A call starts with nothing but a load to come. -/
theorem called (served : Served tokens c k h t s) (call : RingCall β) (idle : s.sys.pc u = .idle)
    (held : τ → List β) (popper : u ≠ c → (Pc.load call).pops = false)
    (loaded : (Pc.load call).laden = true) :
    Positions k h t (s.sys.move s.sys.rb u (.load call)) ∧
      Tests k h t (s.sys.move s.sys.rb u (.load call)) ∧
      OnePopper c k h t
        { sys := s.sys.move s.sys.rb u (.load call), held := held, unread := s.unread } :=
  ⟨served.owned.positions.moved rfl rfl rfl (fun _ => rfl) (by rw [idle]; rfl) (by rw [idle]; rfl),
    Tests.step (a := .call call) served.owned.positions served.tests (.called call idle rfl),
    served.one.quiet s.sys.rb (.load call) held rfl (fun _ => rfl) (fun _ => id) (by rw [idle]; rfl)
      (by rw [idle]; rfl) popper loaded⟩

/-- Reading the cell leaves nothing fetched. -/
theorem read (served : Served tokens c k h t s) (i : Nat) (unread : s.unread u = some i)
    (held : τ → List β) :
    OnePopper c k h t { sys := s.sys, held := held, unread := Function.update s.unread u none } := by
  have one := served.one
  have popper : u = c := by
    by_contra other
    rw [one.unread u other] at unread
    cases unread
  subst popper
  have idle := served.owned.waiting u i unread
  refine ⟨?_, one.popper, one.laden, ?_, one.filled, one.writer⟩
  · intro v other
    exact (Function.update_of_ne other _ _).trans (one.unread v other)
  · intro j seen
    simp only [Pool.fetched, idle, Pc.reading, Function.update_self] at seen
    cases seen

variable [DecidableEq β]

/-- Whatever a client does keeps this, if none but `c` starts a pop. -/
theorem step (served : Served tokens c k h t s) (small : h < 2 ^ 63) {name : Nat → β}
    (named : ∀ b ∈ tokens, ∃ i < 2 ^ k, name i = b) {a : PoolAction β} (popper : a = .pop → u = c)
    {s' : Pool β τ} {ev : List (Event β τ)} (acted : s.act (u, a) = some (s', ev)) :
    Served tokens c k (h + (pushes ev).length) (t + (pops ev).length) s' := by
  have owned := served.owned
  cases a with
  | pop =>
    simp only [Pool.act] at acted
    split at acted
    next unread =>
      obtain ⟨⟨sys, ev'⟩, called, result⟩ := Option.map_eq_some_iff.mp acted
      cases result
      obtain ⟨idle, rfl, rfl⟩ := Sys.act_call _ _ _ _ _ called
      obtain ⟨positions, tests, one⟩ := served.called .pop idle s.held
        (fun other => absurd (popper rfl) other) rfl
      exact ⟨owned.quiet _ _ positions rfl (fun _ => rfl) rfl (by rw [idle]; rfl)
        (by rw [idle]; rfl) unread (by simp [Pc.stored]), tests, one⟩
    · cases acted
  | read =>
    simp only [Pool.act] at acted
    split at acted
    · cases acted
    next i unread =>
      cases acted
      exact ⟨owned.read i unread, served.tests, served.read i unread _⟩
  | push b plen =>
    simp only [Pool.act] at acted
    split at acted
    next allowed =>
      obtain ⟨⟨sys, ev'⟩, called, result⟩ := Option.map_eq_some_iff.mp acted
      cases result
      obtain ⟨idle, rfl, rfl⟩ := Sys.act_call _ _ _ _ _ called
      obtain ⟨positions, tests, one⟩ := served.called (.push (some b) plen) idle
        (Function.update s.held u ((s.held u).erase b)) (fun _ => rfl) rfl
      exact ⟨owned.calledPush idle allowed.1 b plen allowed.2 positions, tests, one⟩
    · cases acted
  | step spurious =>
    have careful := served.careful small named (u, .step spurious)
    simp only [Pool.act] at acted
    obtain ⟨⟨sys, ev'⟩, stepped, result⟩ := Option.map_eq_some_iff.mp acted
    cases result
    have effect := Sys.step_effect _ _ _ _ _ stepped
    refine ⟨owned.ringStep spurious careful effect, ?_,
      served.one.ringStep owned spurious (careful spurious rfl).1 effect⟩
    rw [sys_returned]
    exact Tests.step owned.positions served.tests effect

/-- A buffer that is handed on stays in one pair of hands, and the ring is not touched. -/
theorem hand (served : Served tokens c k h t s) (b : β) {v : τ} (member : b ∈ s.held u)
    (other : v ≠ u) :
    Served tokens c k h t { s with
      held := Function.update (Function.update s.held u ((s.held u).erase b)) v
        (b :: s.held v) } := by
  have owned := served.owned
  have one := served.one
  refine ⟨⟨owned.positions, Custody.hand owned.placed b member (owned.nodup u) other, ?_,
    owned.waiting, owned.stored⟩, served.tests,
    ⟨one.unread, one.popper, one.laden, one.last, one.filled, one.writer⟩⟩
  intro w
  dsimp only
  by_cases receiver : w = v
  · subst receiver
    rw [Function.update_self, List.nodup_cons]
    refine ⟨?_, owned.nodup w⟩
    intro again
    have same := owned.placed.unique b (.held w) (.held u) again member
    cases same
    exact other rfl
  · rw [Function.update_of_ne receiver]
    by_cases giver : w = u
    · subst giver
      rw [Function.update_self]
      exact (owned.nodup w).erase b
    · rw [Function.update_of_ne giver]
      exact owned.nodup w

theorem lend (served : Served tokens c k h t s) (small : h < 2 ^ 63) {name : Nat → β}
    (named : ∀ b ∈ tokens, ∃ i < 2 ^ k, name i = b) {a : LoanAction β τ}
    (popper : a = .client .pop → u = c) {s' : Pool β τ} {ev : List (Event β τ)}
    (lent : s.lend (u, a) = some (s', ev)) :
    Served tokens c k (h + (pushes ev).length) (t + (pops ev).length) s' := by
  cases a with
  | client action =>
    exact served.step small named (fun pop => popper (congrArg LoanAction.client pop)) lent
  | hand b v =>
    simp only [Pool.lend] at lent
    split at lent
    next allowed =>
      cases lent
      exact served.hand b allowed.1 allowed.2
    · cases lent

end Served

/-- A full ring of distinct buffers starts so, with all threads idle. -/
theorem Quiescent.served {k : Nat} {rb : Ringbuf β} (q : Quiescent k (2 ^ k) 0 rb)
    (memory : Nat → β) (plen : UInt64) (c : τ)
    (distinct : ∀ i < 2 ^ k, ∀ j < 2 ^ k, memory i = memory j → i = j)
    (contents : rb.contents = (List.range (2 ^ k)).map fun j => (some (memory j), plen)) :
    Served { b | ∃ i < 2 ^ k, memory i = b } c k (2 ^ k) 0 (Pool.start rb : Pool β τ) := by
  refine ⟨q.owned memory plen distinct contents, ⟨by simp [Pool.start], by simp [Pool.start]⟩, ?_⟩
  refine ⟨fun _ _ => rfl, fun _ _ => rfl, fun _ => rfl, ?_, ?_, ?_⟩
  · intro i seen
    cases seen
  · intro p _ high _
    rw [q.contents, Nat.sub_zero, List.map_inj_left] at contents
    have entry := contents p (List.mem_range.mpr high)
    rw [Nat.zero_add] at entry
    have packet : (rb.cells (p % 2 ^ k)).packet = some (memory p) := congrArg Prod.fst entry
    exact Option.isSome_iff_exists.mpr ⟨_, packet⟩
  · intro p low high seq
    have half := size_le_half q.le_bits
    have full := q.full p low high
    have never := Counter.eq_of_ofNat (full.symm.trans seq) (by omega) (by omega)
    omega

/-- In every run of any number of threads, of which only one pops: below 2^63 pushes no buffer is with
two threads, with a thread and queued, or lost, and every step on the way is careful. -/
theorem one_popper_owns [DecidableEq β] [DecidableEq τ] (k : Nat) (one_le : 1 ≤ k)
    (le_bits : k ≤ 62) (cells : Nat → RingbufCell β) (memory : Nat → β)
    (cacheline memorySize : UInt64)
    (distinct : ∀ i < 2 ^ k, ∀ j < 2 ^ k, memory i = memory j → i = j)
    (rb : Ringbuf β) (freed : List (Freed β))
    (created : createAllocator true (some cells) (fun i => some (memory i)) cacheline memorySize
      (UInt64.ofNat (2 ^ k)) = some (rb, freed))
    (c : τ) (schedule : List (τ × LoanAction β τ))
    (popper : ∀ i ∈ schedule, i.2 = .client .pop → i.1 = c)
    (s : Pool β τ) (log : List (Event β τ))
    (ran : Runs.run Pool.lend (Pool.start rb) schedule = some (s, log))
    (few : 2 ^ k + (pushes log).length < 2 ^ 63) :
    s.custody.Exclusive { b | ∃ i < 2 ^ k, memory i = b } ∧ ∀ i, Careful s i := by
  obtain ⟨rb', created', quiescent, contents⟩ := createAllocator_filled k one_le (by omega) cells
    (fun i => some (memory i)) memory cacheline memorySize (fun _ _ => rfl)
  rw [created] at created'
  cases created'
  have served := Runs.run_induction Pool.lend (fun _ i => i.2 = .client .pop → i.1 = c)
    (Pool.start rb)
    (fun _ s log => 2 ^ k + (pushes log).length < 2 ^ 63 →
      Served { b | ∃ i < 2 ^ k, memory i = b } c k (2 ^ k + (pushes log).length)
        (pops log).length s)
    ?_ ?_ schedule s log ran (Runs.along_of_forall _ _ _ _ popper) few
  · exact ⟨Custody.exclusive_of_placed served.owned.placed,
      served.careful few (fun b member => member)⟩
  · intro _
    exact quiescent.served memory _ c distinct contents
  · rintro _ ⟨u, a⟩ mid before after ev _ ih allowed lent small
    rw [pushes_append, List.length_append] at small
    have next := (ih (by omega)).lend (by omega) (fun b member => member) allowed lent
    rw [pushes_append, pops_append, List.length_append, List.length_append, ← Nat.add_assoc]
    exact next

/-- One thread hands its first buffer on; while it still has to read the cell of the second one, the
other thread pushes the first one back. -/
def lentOut : List (Bool × LoanAction Nat Bool) :=
  let pop := [(false, .client .pop), (false, .client (.step false)), (false, .client (.step false)),
    (false, .client (.step false)), (false, .client (.step false))]
  pop ++ [(false, .client .read), (false, .hand 10 true)] ++ pop ++
    [(true, .client (.push 10 64)), (true, .client (.step false)), (true, .client (.step false)),
      (true, .client (.step false)), (true, .client (.step false)), (true, .client (.step false)),
      (true, .client (.step false)), (false, .client .read)]

theorem one_popper_owns_lent : ∃ rb freed s log,
    createAllocator true (some fun _ => ⟨0, 0, none⟩) (fun i => some (10 + i)) 64 2048
      (UInt64.ofNat (2 ^ 1)) = some (rb, freed) ∧
    Runs.run Pool.lend (Pool.start rb) lentOut = some (s, log) ∧
    s.custody.Exclusive { b | ∃ i < 2 ^ 1, 10 + i = b } := by
  have runs : ((createAllocator true (some fun _ => ⟨0, 0, none⟩) (fun i => some (10 + i)) 64 2048
      (UInt64.ofNat (2 ^ 1))).bind fun made =>
        (Runs.run Pool.lend (Pool.start made.1) lentOut).bind fun r =>
          if (pushes r.2).length ≤ 2 then some r else none).isSome = true := by
    decide +kernel
  obtain ⟨r, both⟩ := Option.isSome_iff_exists.mp runs
  obtain ⟨⟨rb, freed⟩, created, rest⟩ := Option.bind_eq_some_iff.mp both
  obtain ⟨⟨s, log⟩, ran, few⟩ := Option.bind_eq_some_iff.mp rest
  have few : (pushes log).length ≤ 2 := by
    by_contra many
    rw [if_neg many] at few
    cases few
  refine ⟨rb, freed, s, log, created, ran, ?_⟩
  exact (one_popper_owns 1 (by decide) (by decide) (fun _ => ⟨0, 0, none⟩) (10 + ·) 64 2048
    (fun _ _ _ _ same => by omega) rb freed created false lentOut (by decide) s log ran
    (by omega)).1

end Kpnet.Ring
