import Kpnet.Ring.Custody
import Kpnet.Ring.Positions
import Kpnet.Ring.Queue

/-!
# Buffer ownership through the ring allocator

The clients of a ring filled by `create_allocator`: a thread pops a cell, reads
`cell->packet` out of it as a step of its own, and later pushes the buffer back
(`recv_sctp_packet`, `eth_receive_sctp`, `insert_ringtimer`). `pop_ringbuf` stores the
sequence number before it returns the cell, so the cell is open for the next producer
while its consumer has not read it yet. Ownership is exclusive in every run in which no
producer stores into a returned cell that is still to be read.
-/
namespace Kpnet.Ring

open Tokens

variable {β τ : Type}

namespace Pc

/-- The buffer a thread is pushing. -/
def carries : Pc β → Option β
  | .load (.push packet _) | .test (.push packet _) _ | .cas (.push packet _) _ => packet
  | .writePacket packet _ _ | .writePlen packet _ _ | .publish packet _ _ => packet
  | _ => none

/-- The position of a thread about to store its packet. -/
def storing : Pc β → Option UInt64
  | .writePacket _ _ pos => some pos
  | _ => none

/-- The position and the packet a thread has stored and not yet published. -/
def stored : Pc β → Option (UInt64 × Option β)
  | .writePlen packet _ pos | .publish packet _ pos => some (pos, packet)
  | _ => none

end Pc

/-- The ring of an allocator with its client threads: the buffers they hold, and the
cells returned to them by `pop_ringbuf` that they have not read yet. -/
structure Pool (β τ : Type) where
  sys : Sys β τ
  held : τ → List β
  unread : τ → Option Nat

/-- What a client does next: call `pop_ringbuf`, read `cell->packet`, call `push_ringbuf`
with a buffer it holds, or take the next atomic step of the call it is in. -/
inductive PoolAction (β : Type) where
  | pop
  | read
  | push (buffer : β) (plen : UInt64)
  | step (spurious : Bool)
  deriving DecidableEq, Repr

/-- The cell of a position that is pushed, published and not popped. -/
def Filled (rb : Ringbuf β) (i : Nat) : Prop :=
  ∃ pos, pos - rb.tail < rb.head - rb.tail ∧ rb.slot pos = i ∧ (rb.cells i).seq = pos + 1

namespace Pool

/-- The cell a thread has claimed by a pop and not read yet. -/
def fetched (s : Pool β τ) (t : τ) : Option Nat :=
  match (s.sys.pc t).reading with
  | some pos => some (s.sys.rb.slot pos)
  | none => s.unread t

def custody (s : Pool β τ) : Custody β τ where
  held := s.held
  carried := fun t => (s.sys.pc t).carries
  fetched := s.fetched
  filled := Filled s.sys.rb
  packet := fun i => (s.sys.rb.cells i).packet

variable [DecidableEq τ]

/-- What a call hands to its thread when it returns: a cell, or a refused buffer. -/
def returned (s : Pool β τ) (t : τ) (sys : Sys β τ) : List (Event β τ) → Pool β τ
  | [.released _ pos] =>
    { s with sys := sys, unread := Function.update s.unread t (some (s.sys.rb.slot pos)) }
  | [.refused _ (.push (some b) _)] =>
    { s with sys := sys, held := Function.update s.held t (b :: s.held t) }
  | _ => { s with sys := sys }

def act [DecidableEq β] (s : Pool β τ) (i : τ × PoolAction β) :
    Option (Pool β τ × List (Event β τ)) :=
  match i.2 with
  | .pop =>
    if s.unread i.1 = none then
      (s.sys.act (i.1, .call .pop)).map fun r => ({ s with sys := r.1 }, r.2)
    else none
  | .read =>
    match s.unread i.1 with
    | none => none
    | some cell => some ({ s with
        held := match (s.sys.rb.cells cell).packet with
          | some b => Function.update s.held i.1 (b :: s.held i.1)
          | none => s.held
        unread := Function.update s.unread i.1 none }, [])
  | .push b plen =>
    if s.unread i.1 = none ∧ b ∈ s.held i.1 then
      (s.sys.act (i.1, .call (.push (some b) plen))).map fun r =>
        ({ s with sys := r.1, held := Function.update s.held i.1 ((s.held i.1).erase b) }, r.2)
    else none
  | .step spurious =>
    (s.sys.step i.1 spurious).map fun r => (s.returned i.1 r.1 r.2, r.2)

end Pool

/-- A step no client loses a buffer by: an exchange succeeds only on a cell still in the
phase the thread has tested, and a producer stores its packet only into a cell that no
consumer has yet to read. -/
def Careful (s : Pool β τ) (i : τ × PoolAction β) : Prop :=
  ∀ spurious, i.2 = .step spurious →
    Fresh s.sys (i.1, .step spurious) ∧
    ∀ pos ∈ (s.sys.pc i.1).storing, ∀ v, s.unread v ≠ some (s.sys.rb.slot pos)

instance [DecidableEq β] [Fintype τ] (s : Pool β τ) (i : τ × PoolAction β) :
    Decidable (Careful s i) :=
  -- The position is read from the program counter, not searched among all of `UInt64`.
  have : Decidable (∀ pos ∈ (s.sys.pc i.1).storing, ∀ v,
      s.unread v ≠ some (s.sys.rb.slot pos)) :=
    Option.decidableForallMem _
  inferInstanceAs (Decidable (∀ spurious, i.2 = .step spurious →
    Fresh s.sys (i.1, .step spurious) ∧
    ∀ pos ∈ (s.sys.pc i.1).storing, ∀ v, s.unread v ≠ some (s.sys.rb.slot pos)))

section Positions

variable {k h t : Nat} {s : Sys β τ}

/-- The filled cells, read at unbounded positions. -/
theorem Positions.filled_iff (inv : Positions k h t s) (i : Nat) :
    Filled s.rb i ↔ ∃ p, t ≤ p ∧ p < h ∧ p % 2 ^ k = i ∧
      (s.rb.cells i).seq = UInt64.ofNat (p + 1) := by
  have half := size_le_half inv.le_bits
  have ordered := inv.ordered
  have bounded := inv.bounded
  have distance : (s.rb.head - s.rb.tail).toNat = h - t := by
    rw [inv.head, inv.tail, Counter.ofNat_sub_ofNat ordered, Counter.toNat_ofNat_of_lt (by omega)]
  constructor
  · rintro ⟨pos, inside, slot, seq⟩
    rw [UInt64.lt_iff_toNat_lt, distance] at inside
    -- the distance from `tail` is the same in words and in unbounded positions
    have word : pos = UInt64.ofNat (t + (pos - s.rb.tail).toNat) := by
      rw [UInt64.ofNat_add, UInt64.ofNat_toNat, ← inv.tail, UInt64.add_comm,
        UInt64.sub_add_cancel]
    refine ⟨t + (pos - s.rb.tail).toNat, by omega, by omega, ?_, ?_⟩
    · rw [← slot, ← inv.slot, ← word]
    · rw [seq, UInt64.ofNat_add, ← word, UInt64.ofNat_one]
  · rintro ⟨p, low, high, slot, seq⟩
    refine ⟨UInt64.ofNat p, ?_, by rw [inv.slot, slot], ?_⟩
    · rw [UInt64.lt_iff_toNat_lt, distance, inv.tail, Counter.ofNat_sub_ofNat low,
        Counter.toNat_ofNat_of_lt (by omega)]
      omega
    · rw [seq, UInt64.ofNat_add, UInt64.ofNat_one]

/-- A cell being written is not filled. -/
theorem Positions.writer_vacant (inv : Positions k h t s) {p : Nat} (low : t ≤ p) (high : p < h)
    (written : (s.rb.cells (p % 2 ^ k)).seq = UInt64.ofNat p) : ¬Filled s.rb (p % 2 ^ k) := by
  rw [inv.filled_iff]
  rintro ⟨q, q_low, q_high, slot, seq⟩
  have bounded := inv.bounded
  -- within a lap a cell belongs to one position, and its number says which phase it is in
  have same := Counter.eq_of_mod slot (by omega) (by omega)
  subst same
  have equal := Counter.eq_of_ofNat (written.symm.trans seq) (by omega) (by omega)
  omega

/-- A claimed cell is not filled yet. -/
theorem Positions.filled_claimedPush [DecidableEq τ] (inv : Positions k h t s) {u : τ}
    {pc : Pc β} {pos : UInt64} (current : s.rb.head = pos)
    (ready : (s.rb.cells (s.rb.slot pos)).seq = pos)
    (after : Positions k (h + 1) t (s.move { s.rb with head := pos + 1 } u pc)) :
    Filled { s.rb with head := pos + 1 } = Filled s.rb := by
  have bounded := inv.bounded
  rw [inv.head] at current
  subst current
  rw [inv.slot] at ready
  funext i
  have filled := after.filled_iff i
  rw [Sys.move_rb] at filled
  rw [filled, inv.filled_iff, eq_iff_iff]
  constructor
  · rintro ⟨p, low, high, slot, seq⟩
    -- the cell of the new position still carries the number of an empty cell
    have earlier : p ≠ h := by
      rintro rfl
      subst slot
      have equal := Counter.eq_of_ofNat (ready.symm.trans seq) (by omega) (by omega)
      omega
    exact ⟨p, low, by omega, slot, seq⟩
  · rintro ⟨p, low, high, slot, seq⟩
    exact ⟨p, low, by omega, slot, seq⟩

end Positions

/-- The filled cells are read off counters and sequence numbers only. -/
theorem filled_congr {rb rb' : Ringbuf β} (mask : rb'.mask = rb.mask) (head : rb'.head = rb.head)
    (tail : rb'.tail = rb.tail) (seq : ∀ i, (rb'.cells i).seq = (rb.cells i).seq) :
    Filled rb' = Filled rb := by
  funext i
  simp only [Filled, Ringbuf.slot, mask, head, tail, seq]

/-- A cell store that keeps the packet keeps all of them. -/
theorem packet_setCell (rb : Ringbuf β) (i : Nat) (cell : RingbufCell β)
    (same : cell.packet = (rb.cells i).packet) (j : Nat) :
    ((rb.setCell i cell).cells j).packet = (rb.cells j).packet := by
  by_cases equal : j = i
  · rw [equal, Ringbuf.setCell_self, same]
  · rw [Ringbuf.setCell_of_ne _ _ equal]

/-- The invariant of a pool of `2^k` buffers. -/
structure Owned (tokens : Set β) (k h t : Nat) (s : Pool β τ) : Prop where
  positions : Positions k h t s.sys
  placed : Placed tokens s.custody.At
  nodup : ∀ u, (s.held u).Nodup
  waiting : ∀ u i, s.unread u = some i → s.sys.pc u = .idle
  stored : ∀ u pos packet, (s.sys.pc u).stored = some (pos, packet) →
    (s.sys.rb.cells (s.sys.rb.slot pos)).packet = packet

namespace Owned

variable {tokens : Set β} {k h t : Nat} {s : Pool β τ} [DecidableEq τ] {u : τ}

theorem carried_move (s : Sys β τ) (rb : Ringbuf β) (u : τ) (pc : Pc β) :
    (fun v => ((s.move rb u pc).pc v).carries) =
      Function.update (fun v => (s.pc v).carries) u pc.carries :=
  Function.comp_update Pc.carries s.pc u pc

/-- The fetched cells after a move that leaves the mover with `cell`. -/
theorem fetched_move (s : Pool β τ) (rb : Ringbuf β) (u : τ) (pc : Pc β) (held : τ → List β)
    (unread : τ → Option Nat) (cell : Option Nat) (mask : rb.mask = s.sys.rb.mask)
    (others : ∀ v, v ≠ u → unread v = s.unread v)
    (mover : (match pc.reading with
      | some pos => some (s.sys.rb.slot pos)
      | none => unread u) = cell) :
    ({ sys := s.sys.move rb u pc, held := held, unread := unread } : Pool β τ).fetched =
      Function.update s.fetched u cell := by
  have slot : ∀ pos, rb.slot pos = s.sys.rb.slot pos := fun pos => by
    rw [Ringbuf.slot, mask, Ringbuf.slot]
  funext v
  by_cases same : v = u
  · subst same
    simp only [Pool.fetched, Sys.move_self, Sys.move_rb, Function.update_self, slot]
    exact mover
  · simp only [Pool.fetched, Sys.move_of_ne _ _ _ same, Sys.move_rb,
      Function.update_of_ne same, slot, others v same]

/-- The stored packets after a move of a thread that has stored nothing itself. -/
theorem stored_move (inv : Owned tokens k h t s) (rb : Ringbuf β) (pc : Pc β)
    (mask : rb.mask = s.sys.rb.mask)
    (packets : ∀ i, (rb.cells i).packet = (s.sys.rb.cells i).packet)
    (mover : ∀ pos packet, pc.stored = some (pos, packet) →
      (s.sys.pc u).stored = some (pos, packet)) :
    ∀ v pos packet, ((s.sys.move rb u pc).pc v).stored = some (pos, packet) →
      ((s.sys.move rb u pc).rb.cells ((s.sys.move rb u pc).rb.slot pos)).packet = packet := by
  intro v pos packet seen
  rw [Sys.move_rb, packets, Ringbuf.slot, mask]
  rcases s.sys.move_cases rb Pc.stored seen with ⟨-, claim⟩ | ⟨-, old⟩
  · exact inv.stored u pos packet (mover pos packet claim)
  · exact inv.stored v pos packet old

theorem waiting_move (inv : Owned tokens k h t s) (rb : Ringbuf β) (pc : Pc β)
    (unread : τ → Option Nat) (others : ∀ v, v ≠ u → unread v = s.unread v)
    (mover : ∀ i, unread u = some i → pc = .idle) :
    ∀ v i, unread v = some i → (s.sys.move rb u pc).pc v = .idle := by
  intro v i seen
  by_cases same : v = u
  · subst same
    rw [Sys.move_self]
    exact mover i seen
  · rw [Sys.move_of_ne _ _ _ same]
    rw [others v same] at seen
    exact inv.waiting v i seen

/-- A step that leaves every buffer where it is. -/
theorem quiet (inv : Owned tokens k h t s) {h' t' : Nat} (rb : Ringbuf β) (pc : Pc β)
    (positions : Positions k h' t' (s.sys.move rb u pc)) (mask : rb.mask = s.sys.rb.mask)
    (packets : ∀ i, (rb.cells i).packet = (s.sys.rb.cells i).packet)
    (filled : Filled rb = Filled s.sys.rb) (carries : pc.carries = (s.sys.pc u).carries)
    (reading : pc.reading = (s.sys.pc u).reading) (read : s.unread u = none)
    (stored : ∀ pos packet, pc.stored = some (pos, packet) →
      (s.sys.pc u).stored = some (pos, packet)) :
    Owned tokens k h' t' { s with sys := s.sys.move rb u pc } := by
  have fetched := fetched_move s rb u pc s.held s.unread (s.fetched u) mask (fun _ _ => rfl)
    (by rw [reading, Pool.fetched])
  have custody : ({ s with sys := s.sys.move rb u pc } : Pool β τ).custody = s.custody := by
    simp only [Pool.custody, carried_move, fetched, Sys.move_rb, filled, packets, carries,
      Function.update_eq_self]
  refine ⟨positions, by rw [custody]; exact inv.placed, inv.nodup, ?_, ?_⟩
  · exact inv.waiting_move rb pc s.unread (fun _ _ => rfl) (by simp [read])
  · exact inv.stored_move rb pc mask packets stored

/-- The start of a push puts a held buffer into it. -/
theorem calledPush [DecidableEq β] (inv : Owned tokens k h t s) (at_pc : s.sys.pc u = .idle)
    (read : s.unread u = none) (b : β) (plen : UInt64) (member : b ∈ s.held u)
    (positions : Positions k h t (s.sys.move s.sys.rb u (.load (.push (some b) plen)))) :
    Owned tokens k h t { s with
      sys := s.sys.move s.sys.rb u (.load (.push (some b) plen))
      held := Function.update s.held u ((s.held u).erase b) } := by
  have fetched := fetched_move s s.sys.rb u (.load (.push (some b) plen))
    (Function.update s.held u ((s.held u).erase b)) s.unread (s.fetched u) rfl (fun _ _ => rfl)
    (by rw [Pool.fetched, at_pc]; rfl)
  refine ⟨positions, ?_, ?_, ?_, ?_⟩
  · have given := Custody.give inv.placed b member (inv.nodup u)
      (show (s.sys.pc u).carries = none by rw [at_pc]; rfl)
    simp only [Pool.custody, carried_move, fetched, Sys.move_rb, Function.update_eq_self]
    exact given
  · intro v
    by_cases same : v = u
    · subst same
      simp only [Function.update_self]
      exact (inv.nodup v).erase b
    · simp only [Function.update_of_ne same]
      exact inv.nodup v
  · exact inv.waiting_move _ _ s.unread (fun _ _ => rfl) (by simp [read])
  · exact inv.stored_move _ _ rfl (fun _ => rfl) (by simp [Pc.stored])

theorem nodup_cons (inv : Owned tokens k h t s) (b : β) (x : Place τ) (there : s.custody.At b x)
    (elsewhere : x ≠ .held u) : ∀ v, (Function.update s.held u (b :: s.held u) v).Nodup := by
  intro v
  by_cases same : v = u
  · subst same
    rw [Function.update_self, List.nodup_cons]
    refine ⟨?_, inv.nodup v⟩
    intro member
    exact elsewhere (inv.placed.unique b x (.held v) there member)
  · rw [Function.update_of_ne same]
    exact inv.nodup v

/-- A refused push hands its buffer back. -/
theorem refusedPush (inv : Owned tokens k h t s) (b : β) (plen pos : UInt64)
    (at_pc : s.sys.pc u = .test (.push (some b) plen) pos) (read : s.unread u = none)
    (positions : Positions k h t (s.sys.move s.sys.rb u .idle)) :
    Owned tokens k h t { s with
      sys := s.sys.move s.sys.rb u .idle
      held := Function.update s.held u (b :: s.held u) } := by
  have carries : s.custody.At b (.pushing u) := by
    show (s.sys.pc u).carries = some b
    rw [at_pc]
    rfl
  have fetched := fetched_move s s.sys.rb u .idle
    (Function.update s.held u (b :: s.held u)) s.unread (s.fetched u) rfl (fun _ _ => rfl)
    (by rw [Pool.fetched, at_pc]; rfl)
  refine ⟨positions, ?_, inv.nodup_cons b (.pushing u) carries (by simp), ?_, ?_⟩
  · have taken := Custody.takeBack inv.placed b carries
    simp only [Pool.custody, carried_move, fetched, Sys.move_rb, Function.update_eq_self]
    exact taken
  · exact inv.waiting_move _ _ s.unread (fun _ _ => rfl) (by simp [read])
  · exact inv.stored_move _ _ rfl (fun _ => rfl) (by simp [Pc.stored])

/-- A successful exchange on `tail` moves the oldest queued buffer into the fetched cell. -/
theorem claimedPop (inv : Owned tokens k h t s) (pos : UInt64) (at_pc : s.sys.pc u = .cas .pop pos)
    (current : s.sys.rb.tail = pos) (ready : (s.sys.rb.cells (s.sys.rb.slot pos)).seq = pos + 1)
    (read : s.unread u = none)
    (positions : Positions k h (t + 1)
      (s.sys.move { s.sys.rb with tail := pos + 1 } u (.release pos))) :
    Owned tokens k h (t + 1)
      { s with sys := s.sys.move { s.sys.rb with tail := pos + 1 } u (.release pos) } := by
  have old := inv.positions
  have bounded := old.bounded
  rw [old.tail] at current
  subst current
  have ready' := ready
  rw [old.slot, ← UInt64.ofNat_one, ← UInt64.ofNat_add] at ready'
  have queued := old.queued ready'
  have full : Filled s.sys.rb (s.sys.rb.slot (UInt64.ofNat t)) := by
    rw [old.slot, old.filled_iff]
    exact ⟨t, by omega, queued, rfl, ready'⟩
  -- the claimed cell is the only one that stops being filled
  have rest : Filled { s.sys.rb with tail := UInt64.ofNat t + 1 } =
      fun j => Filled s.sys.rb j ∧ j ≠ s.sys.rb.slot (UInt64.ofNat t) := by
    funext j
    have after := positions.filled_iff j
    rw [Sys.move_rb] at after
    rw [after, old.filled_iff, old.slot, eq_iff_iff]
    constructor
    · rintro ⟨p, low, high, slot, seq⟩
      refine ⟨⟨p, by omega, high, slot, seq⟩, ?_⟩
      rintro rfl
      have same := Counter.eq_of_mod slot (by omega) (by omega)
      omega
    · rintro ⟨⟨p, low, high, slot, seq⟩, apart⟩
      have later : p ≠ t := by
        rintro rfl
        exact apart slot.symm
      exact ⟨p, by omega, high, slot, seq⟩
  have fetched := fetched_move s { s.sys.rb with tail := UInt64.ofNat t + 1 } u
    (.release (UInt64.ofNat t)) s.held s.unread (some (s.sys.rb.slot (UInt64.ofNat t))) rfl
    (fun _ _ => rfl) rfl
  refine ⟨positions, ?_, inv.nodup, ?_, ?_⟩
  · have moved := Custody.fetch (u := u) inv.placed (s.sys.rb.slot (UInt64.ofNat t))
      (show s.fetched u = none by rw [Pool.fetched, at_pc]; exact read) full
    have same : (s.sys.pc u).carries = (Pc.release (UInt64.ofNat t) : Pc β).carries := by
      rw [at_pc]
      rfl
    simp only [Pool.custody, carried_move, fetched, Sys.move_rb, rest, ← same,
      Function.update_eq_self]
    exact moved
  · exact inv.waiting_move _ _ s.unread (fun _ _ => rfl) (by simp [read])
  · exact inv.stored_move _ _ rfl (fun _ => rfl) (by simp [Pc.stored])

/-- The store of a packet overwrites nothing that anyone has yet to read. -/
theorem wrotePacket (inv : Owned tokens k h t s) (packet : Option β) (plen pos : UInt64)
    (at_pc : s.sys.pc u = .writePacket packet plen pos)
    (spared : ∀ v, s.unread v ≠ some (s.sys.rb.slot pos)) (read : s.unread u = none)
    (positions : Positions k h t (s.sys.move (s.sys.rb.setCell (s.sys.rb.slot pos)
      { s.sys.rb.cells (s.sys.rb.slot pos) with packet := packet }) u
        (.writePlen packet plen pos))) :
    Owned tokens k h t { s with
      sys := s.sys.move (s.sys.rb.setCell (s.sys.rb.slot pos)
        { s.sys.rb.cells (s.sys.rb.slot pos) with packet := packet }) u
          (.writePlen packet plen pos) } := by
  have old := inv.positions
  have writes : (s.sys.pc u).writing = some pos := by
    rw [at_pc]
    rfl
  obtain ⟨p, rfl, low, high, seq⟩ := old.writer u pos writes
  obtain ⟨writers, readers, -⟩ := old.writer_cell writes low high seq
  have vacant := old.writer_vacant low high seq
  rw [← old.slot] at vacant writers readers
  -- neither a pop that is under way nor a returned cell refers to what is overwritten
  have unread : ∀ v, s.fetched v ≠ some (s.sys.rb.slot (UInt64.ofNat p)) := by
    intro v seen
    rw [Pool.fetched] at seen
    split at seen
    next pos' reads => exact readers v pos' reads (Option.some.inj seen)
    · exact spared v seen
  have filled : Filled (s.sys.rb.setCell (s.sys.rb.slot (UInt64.ofNat p))
      { s.sys.rb.cells (s.sys.rb.slot (UInt64.ofNat p)) with packet := packet }) =
      Filled s.sys.rb := filled_congr rfl rfl rfl (seq_setCell _ _ _ rfl)
  have packets : (fun i => ((s.sys.rb.setCell (s.sys.rb.slot (UInt64.ofNat p))
      { s.sys.rb.cells (s.sys.rb.slot (UInt64.ofNat p)) with packet := packet }).cells i).packet) =
      Function.update (fun i => (s.sys.rb.cells i).packet)
        (s.sys.rb.slot (UInt64.ofNat p)) packet :=
    Function.comp_update RingbufCell.packet s.sys.rb.cells _ _
  have fetched := fetched_move s (s.sys.rb.setCell (s.sys.rb.slot (UInt64.ofNat p))
    { s.sys.rb.cells (s.sys.rb.slot (UInt64.ofNat p)) with packet := packet }) u
    (.writePlen packet plen (UInt64.ofNat p)) s.held s.unread (s.fetched u) rfl (fun _ _ => rfl)
    (by rw [Pool.fetched, at_pc]; rfl)
  have same : (s.sys.pc u).carries =
      (Pc.writePlen packet plen (UInt64.ofNat p)).carries := by
    rw [at_pc]
    rfl
  refine ⟨positions, ?_, inv.nodup, ?_, ?_⟩
  · have kept := Custody.store inv.placed (s.sys.rb.slot (UInt64.ofNat p)) packet vacant unread
    simp only [Pool.custody, carried_move, fetched, Sys.move_rb, filled, packets, ← same,
      Function.update_eq_self]
    exact kept
  · exact inv.waiting_move _ _ s.unread (fun _ _ => rfl) (by simp [read])
  · intro v pos' packet' seen
    rw [Sys.move_rb]
    rcases s.sys.move_cases _ Pc.stored seen with ⟨-, claim⟩ | ⟨other, claim⟩
    · cases claim
      exact congrArg RingbufCell.packet (Ringbuf.setCell_self _ _ _)
    · -- another thread with a stored packet writes to another cell
      have busy : (s.sys.pc v).writing = some pos' := by
        cases v_pc : s.sys.pc v <;> rw [v_pc] at claim <;> cases claim <;> rfl
      have apart := writers v pos' other busy
      rw [show ∀ cell, (s.sys.rb.setCell (s.sys.rb.slot (UInt64.ofNat p)) cell).slot pos' =
        s.sys.rb.slot pos' from fun _ => rfl, Ringbuf.setCell_of_ne _ _ apart]
      exact inv.stored v pos' packet' claim

/-- The releasing store of a push queues its buffer. -/
theorem published (inv : Owned tokens k h t s) (packet : Option β) (plen pos : UInt64)
    (at_pc : s.sys.pc u = .publish packet plen pos) (read : s.unread u = none)
    (positions : Positions k h t (s.sys.move (s.sys.rb.setCell (s.sys.rb.slot pos)
      { s.sys.rb.cells (s.sys.rb.slot pos) with seq := pos + 1 }) u .idle)) :
    Owned tokens k h t { s with
      sys := s.sys.move (s.sys.rb.setCell (s.sys.rb.slot pos)
        { s.sys.rb.cells (s.sys.rb.slot pos) with seq := pos + 1 }) u .idle } := by
  have old := inv.positions
  have bounded := old.bounded
  obtain ⟨p, rfl, low, high, seq⟩ := old.writer u pos (by rw [at_pc]; rfl)
  have packets := packet_setCell s.sys.rb (s.sys.rb.slot (UInt64.ofNat p))
    { s.sys.rb.cells (s.sys.rb.slot (UInt64.ofNat p)) with seq := UInt64.ofNat p + 1 } rfl
  have filled : Filled (s.sys.rb.setCell (s.sys.rb.slot (UInt64.ofNat p))
      { s.sys.rb.cells (s.sys.rb.slot (UInt64.ofNat p)) with seq := UInt64.ofNat p + 1 }) =
      fun j => Filled s.sys.rb j ∨ j = s.sys.rb.slot (UInt64.ofNat p) := by
    funext j
    have after := positions.filled_iff j
    rw [Sys.move_rb] at after
    rw [after, old.filled_iff, eq_iff_iff]
    by_cases same : j = s.sys.rb.slot (UInt64.ofNat p)
    · refine iff_of_true ⟨p, low, high, ?_, ?_⟩ (.inr same)
      · rw [same, old.slot]
      · rw [same, Ringbuf.setCell_self, UInt64.ofNat_add, UInt64.ofNat_one]
    · simp only [same, or_false, Ringbuf.setCell_of_ne _ _ same]
  have fetched := fetched_move s (s.sys.rb.setCell (s.sys.rb.slot (UInt64.ofNat p))
    { s.sys.rb.cells (s.sys.rb.slot (UInt64.ofNat p)) with seq := UInt64.ofNat p + 1 }) u .idle
    s.held s.unread (s.fetched u) rfl (fun _ _ => rfl) (by rw [Pool.fetched, at_pc]; rfl)
  refine ⟨positions, ?_, inv.nodup, ?_, ?_⟩
  · have stored := inv.stored u (UInt64.ofNat p) packet (by rw [at_pc]; rfl)
    have queued := Custody.publish (u := u) inv.placed (s.sys.rb.slot (UInt64.ofNat p))
      (show _ = (s.sys.pc u).carries by rw [at_pc]; exact stored)
    simp only [Pool.custody, carried_move, fetched, Sys.move_rb, filled, packets,
      Function.update_eq_self]
    exact queued
  · exact inv.waiting_move _ _ s.unread (fun _ _ => rfl) (by simp [read])
  · exact inv.stored_move _ _ rfl packets (by simp [Pc.stored])

/-- The releasing store of a pop leaves the buffer in the returned cell. -/
theorem released (inv : Owned tokens k h t s) (pos : UInt64) (at_pc : s.sys.pc u = .release pos)
    (positions : Positions k h t (s.sys.move (s.sys.rb.setCell (s.sys.rb.slot pos)
      { s.sys.rb.cells (s.sys.rb.slot pos) with seq := pos + s.sys.rb.mask + 1 }) u .idle)) :
    Owned tokens k h t { s with
      sys := s.sys.move (s.sys.rb.setCell (s.sys.rb.slot pos)
        { s.sys.rb.cells (s.sys.rb.slot pos) with seq := pos + s.sys.rb.mask + 1 }) u .idle
      unread := Function.update s.unread u (some (s.sys.rb.slot pos)) } := by
  have old := inv.positions
  obtain ⟨p, rfl, high, low, seq⟩ := old.reader u pos (by rw [at_pc]; rfl)
  have packets := packet_setCell s.sys.rb (s.sys.rb.slot (UInt64.ofNat p))
    { s.sys.rb.cells (s.sys.rb.slot (UInt64.ofNat p)) with
      seq := UInt64.ofNat p + s.sys.rb.mask + 1 } rfl
  have filled : Filled (s.sys.rb.setCell (s.sys.rb.slot (UInt64.ofNat p))
      { s.sys.rb.cells (s.sys.rb.slot (UInt64.ofNat p)) with
        seq := UInt64.ofNat p + s.sys.rb.mask + 1 }) = Filled s.sys.rb := by
    funext j
    have after := positions.filled_iff j
    rw [Sys.move_rb] at after
    rw [after, old.filled_iff, eq_iff_iff]
    refine exists_congr fun q => and_congr_right fun q_low => and_congr_right fun q_high =>
      and_congr_right fun slot => ?_
    -- no queued position shares the cell of one that is being popped
    have apart : j ≠ s.sys.rb.slot (UInt64.ofNat p) := by
      rw [old.slot]
      rintro rfl
      have same := Counter.eq_of_mod slot (by omega) (by omega)
      omega
    rw [Ringbuf.setCell_of_ne _ _ apart]
  have fetched := fetched_move s (s.sys.rb.setCell (s.sys.rb.slot (UInt64.ofNat p))
    { s.sys.rb.cells (s.sys.rb.slot (UInt64.ofNat p)) with
      seq := UInt64.ofNat p + s.sys.rb.mask + 1 }) u .idle s.held
    (Function.update s.unread u (some (s.sys.rb.slot (UInt64.ofNat p)))) (s.fetched u) rfl
    (fun v other => Function.update_of_ne other _ _)
    (by simp only [Pool.fetched, at_pc, Pc.reading, Function.update_self])
  have same : (s.sys.pc u).carries = (Pc.idle : Pc β).carries := by
    rw [at_pc]
    rfl
  have custody : ({ s with
      sys := s.sys.move (s.sys.rb.setCell (s.sys.rb.slot (UInt64.ofNat p))
        { s.sys.rb.cells (s.sys.rb.slot (UInt64.ofNat p)) with
          seq := UInt64.ofNat p + s.sys.rb.mask + 1 }) u .idle
      unread := Function.update s.unread u (some (s.sys.rb.slot (UInt64.ofNat p))) } :
      Pool β τ).custody = s.custody := by
    simp only [Pool.custody, carried_move, fetched, Sys.move_rb, filled, packets, ← same,
      Function.update_eq_self]
  refine ⟨positions, by rw [custody]; exact inv.placed, inv.nodup, ?_, ?_⟩
  · exact inv.waiting_move _ _ _ (fun v other => Function.update_of_ne other _ _) (by simp)
  · exact inv.stored_move _ _ rfl packets (by simp [Pc.stored])

/-- Reading the returned cell brings its buffer into the thread's hands. -/
theorem read (inv : Owned tokens k h t s) (i : Nat) (unread : s.unread u = some i) :
    Owned tokens k h t { s with
      held := match (s.sys.rb.cells i).packet with
        | some b => Function.update s.held u (b :: s.held u)
        | none => s.held
      unread := Function.update s.unread u none } := by
  have idle := inv.waiting u i unread
  have before : s.fetched u = some i := by
    rw [Pool.fetched, idle]
    exact unread
  refine ⟨inv.positions, ?_, ?_, ?_, inv.stored⟩
  · have fetched : ∀ held, ({ s with
        held := held
        unread := Function.update s.unread u none } : Pool β τ).fetched =
        Function.update s.fetched u none := by
      intro held
      funext v
      by_cases same : v = u
      · subst same
        simp only [Pool.fetched, idle, Pc.reading, Function.update_self]
      · simp only [Pool.fetched, Function.update_of_ne same]
    have taken := Custody.read inv.placed i before
    simp only [Pool.custody, fetched]
    exact taken
  · cases content : (s.sys.rb.cells i).packet with
    | none => exact inv.nodup
    | some b => exact inv.nodup_cons b (.popping u) ⟨i, before, content⟩ (by simp)
  · intro v j seen
    by_cases same : v = u
    · subst same
      simp at seen
    · exact inv.waiting v j (by simpa only [Function.update_of_ne same] using seen)

/-- A careful atomic step inside a call keeps the invariant. -/
theorem ringStep (inv : Owned tokens k h t s) (spurious : Bool)
    (careful : Careful s (u, .step spurious)) {sys : Sys β τ} {ev : List (Event β τ)}
    (effect : s.sys.Effect u (.step spurious) sys ev) :
    Owned tokens k (h + (pushes ev).length) (t + (pops ev).length) (s.returned u sys ev) := by
  obtain ⟨fresh, spared⟩ := careful spurious rfl
  have positions := inv.positions.step fresh effect
  -- a thread inside of a call has read the cell of its last one
  have read : s.sys.pc u ≠ .idle → s.unread u = none := by
    intro busy
    cases seen : s.unread u with
    | none => rfl
    | some i => exact absurd (inv.waiting u i seen) busy
  cases effect with
  | called c at_pc chosen => cases chosen
  | loaded c at_pc =>
    refine inv.quiet _ _ positions rfl (fun _ => rfl) rfl ?_ (by rw [at_pc]; rfl)
      (read (by simp [at_pc])) (by simp [Pc.stored])
    rw [at_pc]
    cases c <;> rfl
  | tested c pos at_pc ready =>
    refine inv.quiet _ _ positions rfl (fun _ => rfl) rfl ?_ (by rw [at_pc]; rfl)
      (read (by simp [at_pc])) (by simp [Pc.stored])
    rw [at_pc]
    cases c <;> rfl
  | refused c pos at_pc =>
    have quiet := fun carries => inv.quiet s.sys.rb .idle positions rfl (fun _ => rfl) rfl carries
      (by rw [at_pc]; rfl) (read (by simp [at_pc])) (by simp [Pc.stored])
    match c with
    | .push (some b) plen =>
      exact inv.refusedPush b plen pos at_pc (read (by simp [at_pc])) positions
    | .push none plen => exact quiet (by rw [at_pc]; rfl)
    | .pop => exact quiet (by rw [at_pc]; rfl)
  | retried c pos at_pc =>
    rcases at_pc with at_pc | at_pc <;>
    · refine inv.quiet _ _ positions rfl (fun _ => rfl) rfl ?_ (by rw [at_pc]; rfl)
        (read (by simp [at_pc])) (by simp [Pc.stored])
      rw [at_pc]
      cases c <;> rfl
  | claimedPush packet plen pos at_pc current strong =>
    refine inv.quiet _ _ positions rfl (fun _ => rfl) ?_ (by rw [at_pc]; rfl) (by rw [at_pc]; rfl)
      (read (by simp [at_pc])) (by simp [Pc.stored])
    have ready := fresh _ pos strong at_pc current
    rw [RingCall.lead, UInt64.add_zero] at ready
    exact inv.positions.filled_claimedPush current ready positions
  | claimedPop pos at_pc current strong =>
    exact inv.claimedPop pos at_pc current (fresh _ pos strong at_pc current)
      (read (by simp [at_pc])) positions
  | wrotePacket packet plen pos at_pc =>
    exact inv.wrotePacket packet plen pos at_pc (spared pos (by rw [at_pc]; rfl))
      (read (by simp [at_pc])) positions
  | wrotePlen packet plen pos at_pc =>
    refine inv.quiet _ _ positions rfl (packet_setCell _ _ _ rfl)
      (filled_congr rfl rfl rfl (seq_setCell _ _ _ rfl)) (by rw [at_pc]; rfl) (by rw [at_pc]; rfl)
      (read (by simp [at_pc])) ?_
    intro pos' packet' claim
    rw [at_pc]
    exact claim
  | published packet plen pos at_pc =>
    exact inv.published packet plen pos at_pc (read (by simp [at_pc])) positions
  | released pos at_pc => exact inv.released pos at_pc positions

/-- A careful step of any client keeps the invariant. -/
theorem step [DecidableEq β] (inv : Owned tokens k h t s) {a : PoolAction β}
    (careful : Careful s (u, a)) {s' : Pool β τ} {ev : List (Event β τ)}
    (acted : s.act (u, a) = some (s', ev)) : ∃ h' t', Owned tokens k h' t' s' := by
  cases a with
  | pop =>
    simp only [Pool.act] at acted
    split at acted
    next unread =>
      obtain ⟨⟨sys, ev'⟩, called, result⟩ := Option.map_eq_some_iff.mp acted
      cases result
      obtain ⟨idle, rfl, rfl⟩ := Sys.act_call _ _ _ _ _ called
      refine ⟨h, t, inv.quiet _ _ ?_ rfl (fun _ => rfl) rfl (by rw [idle]; rfl) (by rw [idle]; rfl)
        unread (by simp [Pc.stored])⟩
      exact inv.positions.moved rfl rfl rfl (fun _ => rfl) (by rw [idle]; rfl) (by rw [idle]; rfl)
    · cases acted
  | read =>
    simp only [Pool.act] at acted
    split at acted
    · cases acted
    next i unread =>
      cases acted
      exact ⟨h, t, inv.read i unread⟩
  | push b plen =>
    simp only [Pool.act] at acted
    split at acted
    next allowed =>
      obtain ⟨⟨sys, ev'⟩, called, result⟩ := Option.map_eq_some_iff.mp acted
      cases result
      obtain ⟨idle, rfl, rfl⟩ := Sys.act_call _ _ _ _ _ called
      refine ⟨h, t, inv.calledPush idle allowed.1 b plen allowed.2 ?_⟩
      exact inv.positions.moved rfl rfl rfl (fun _ => rfl) (by rw [idle]; rfl) (by rw [idle]; rfl)
    · cases acted
  | step spurious =>
    simp only [Pool.act] at acted
    obtain ⟨⟨sys, ev'⟩, stepped, result⟩ := Option.map_eq_some_iff.mp acted
    cases result
    exact ⟨_, _, inv.ringStep spurious careful (Sys.step_effect _ _ _ _ _ stepped)⟩

end Owned

/-- The allocator as `create_allocator` returns it, before any client call. -/
def Pool.start (rb : Ringbuf β) : Pool β τ where
  sys := { rb := rb, pc := fun _ => .idle }
  held := fun _ => []
  unread := fun _ => none

/-- A full ring of distinct buffers starts with every buffer queued. -/
theorem Quiescent.owned {k : Nat} {rb : Ringbuf β} (q : Quiescent k (2 ^ k) 0 rb)
    (memory : Nat → β) (plen : UInt64)
    (distinct : ∀ i < 2 ^ k, ∀ j < 2 ^ k, memory i = memory j → i = j)
    (contents : rb.contents = (List.range (2 ^ k)).map fun j => (some (memory j), plen)) :
    Owned { b | ∃ i < 2 ^ k, memory i = b } k (2 ^ k) 0 (Pool.start rb : Pool β τ) := by
  have positions : Positions k (2 ^ k) 0 (Pool.start rb : Pool β τ).sys := q.positions
  have packet : ∀ i < 2 ^ k, (rb.cells i).packet = some (memory i) := by
    intro i inside
    rw [q.contents, Nat.sub_zero, List.map_inj_left] at contents
    have entry := contents i (List.mem_range.mpr inside)
    rw [Nat.zero_add, Nat.mod_eq_of_lt inside] at entry
    exact congrArg Prod.fst entry
  have filled : ∀ i, Filled rb i ↔ i < 2 ^ k := by
    intro i
    refine (positions.filled_iff i).trans ?_
    constructor
    · rintro ⟨p, -, high, slot, -⟩
      rw [← slot]
      exact Nat.mod_lt p (Nat.two_pow_pos k)
    · intro inside
      have seq := q.full i (Nat.zero_le i) inside
      rw [Nat.mod_eq_of_lt inside] at seq
      exact ⟨i, Nat.zero_le i, inside, Nat.mod_eq_of_lt inside, seq⟩
  -- nobody holds anything, so each buffer is where `create_allocator` has queued it
  have located : ∀ b x, (Pool.start rb : Pool β τ).custody.At b x ↔
      ∃ i < 2 ^ k, x = .queued i ∧ memory i = b := by
    intro b x
    cases x with
    | held t => simp [Custody.At, Pool.custody, Pool.start]
    | pushing t => simp [Custody.At, Pool.custody, Pool.start, Pc.carries]
    | popping t => simp [Custody.At, Pool.custody, Pool.start, Pool.fetched, Pc.reading]
    | queued j =>
      have here : (Pool.start rb : Pool β τ).custody.At b (.queued j) ↔
          j < 2 ^ k ∧ (rb.cells j).packet = some b := and_congr_left fun _ => filled j
      rw [here]
      constructor
      · rintro ⟨inside, content⟩
        rw [packet j inside] at content
        exact ⟨j, inside, rfl, Option.some.inj content⟩
      · rintro ⟨i, inside, same, rfl⟩
        cases same
        exact ⟨inside, packet j inside⟩
  refine ⟨positions, ⟨?_, ?_, ?_⟩, fun _ => List.nodup_nil, ?_, ?_⟩
  · intro b x there
    obtain ⟨i, inside, -, same⟩ := (located b x).mp there
    exact ⟨i, inside, same⟩
  · rintro b ⟨i, inside, same⟩
    exact ⟨.queued i, (located b _).mpr ⟨i, inside, rfl, same⟩⟩
  · intro b x y there there'
    obtain ⟨i, inside, rfl, same⟩ := (located b x).mp there
    obtain ⟨j, inside', rfl, same'⟩ := (located b y).mp there'
    rw [distinct i inside j inside' (same.trans same'.symm)]
  · intro u i seen
    cases seen
  · intro u pos packet seen
    cases seen

/-- Exclusive ownership, in every state of every run of careful steps. -/
theorem allocator_ownership [DecidableEq β] [DecidableEq τ] (k : Nat) (one_le : 1 ≤ k)
    (le_bits : k ≤ 63) (cells : Nat → RingbufCell β) (alloc : Nat → Option β)
    (memory : Nat → β) (cacheline memorySize : UInt64)
    (allocated : ∀ i < 2 ^ k, alloc i = some (memory i))
    (distinct : ∀ i < 2 ^ k, ∀ j < 2 ^ k, memory i = memory j → i = j)
    (rb : Ringbuf β) (freed : List (Freed β))
    (created : createAllocator true (some cells) alloc cacheline memorySize
      (UInt64.ofNat (2 ^ k)) = some (rb, freed))
    (schedule : List (τ × PoolAction β)) (s : Pool β τ) (log : List (Event β τ))
    (ran : Runs.run Pool.act (Pool.start rb) schedule = some (s, log))
    (careful : Runs.Along Pool.act Careful (Pool.start rb) schedule) :
    s.custody.Exclusive { b | ∃ i < 2 ^ k, memory i = b } := by
  obtain ⟨rb', created', quiescent, contents⟩ :=
    createAllocator_filled k one_le le_bits cells alloc memory cacheline memorySize allocated
  rw [created] at created'
  cases created'
  have owned : ∃ h t, Owned { b | ∃ i < 2 ^ k, memory i = b } k h t s := by
    refine Runs.run_induction Pool.act Careful (Pool.start rb)
      (fun _ s _ => ∃ h t, Owned { b | ∃ i < 2 ^ k, memory i = b } k h t s) ?_ ?_
      schedule s log ran careful
    · exact ⟨2 ^ k, 0, quiescent.owned memory _ distinct contents⟩
    · rintro _ ⟨u, a⟩ mid _ after ev _ ⟨h, t, inv⟩ allowed acted
      exact inv.step allowed acted
  obtain ⟨h, t, inv⟩ := owned
  exact Custody.exclusive_of_placed inv.placed

/-- One thread pops, reads its buffer and starts to push it back. -/
def borrowAndReturn : List (Bool × PoolAction Nat) :=
  [(false, .pop), (false, .step false), (false, .step false), (false, .step false),
    (false, .step false), (false, .read), (false, .push 10 64), (false, .step false)]

theorem allocator_ownership_borrowed : ∃ rb freed s log,
    createAllocator true (some fun _ => ⟨0, 0, none⟩) (fun i => some (10 + i)) 64 2048
      (UInt64.ofNat (2 ^ 1)) = some (rb, freed) ∧
    Runs.run Pool.act (Pool.start rb) borrowAndReturn = some (s, log) ∧
    s.custody.Exclusive { b | ∃ i < 2 ^ 1, 10 + i = b } := by
  have runs : ((createAllocator true (some fun _ => ⟨0, 0, none⟩) (fun i => some (10 + i)) 64 2048
      (UInt64.ofNat (2 ^ 1))).bind fun made =>
        Runs.run Pool.act (Pool.start made.1) borrowAndReturn).isSome = true := by
    decide +kernel
  have careful : (createAllocator true (some fun _ => ⟨0, 0, none⟩) (fun i => some (10 + i)) 64
      2048 (UInt64.ofNat (2 ^ 1))).all (fun made =>
        decide (Runs.Along Pool.act Careful (Pool.start made.1) borrowAndReturn)) = true := by
    decide +kernel
  obtain ⟨⟨s, log⟩, both⟩ := Option.isSome_iff_exists.mp runs
  obtain ⟨⟨rb, freed⟩, created, ran⟩ := Option.bind_eq_some_iff.mp both
  rw [created, Option.all_some, decide_eq_true_eq] at careful
  refine ⟨rb, freed, s, log, created, ran, ?_⟩
  exact allocator_ownership 1 (by decide) (by decide) (fun _ => ⟨0, 0, none⟩)
    (fun i => some (10 + i)) (10 + ·) 64 2048 (fun _ _ => rfl) (fun _ _ _ _ same => by omega)
    rb freed created borrowAndReturn s log ran careful

/-- A second thread pushes into the cell the first one has popped and not read. -/
def overtaken : List (Bool × PoolAction Nat) :=
  [(false, .pop), (false, .step false), (false, .step false), (false, .step false),
    (false, .step false), (true, .pop), (true, .step false), (true, .step false),
    (true, .step false), (true, .step false), (true, .read), (true, .push 11 64),
    (true, .step false), (true, .step false), (true, .step false), (true, .step false),
    (true, .step false), (true, .step false), (false, .read)]

/-- The cell is read after it was pushed into again: its buffer is lost and the new one
is both queued and held. -/
theorem overtaken_not_exclusive : ∃ rb freed s log,
    createAllocator true (some fun _ => ⟨0, 0, none⟩) (fun i => some (10 + i)) 64 2048
      (UInt64.ofNat (2 ^ 1)) = some (rb, freed) ∧
    Runs.run Pool.act (Pool.start rb) overtaken = some (s, log) ∧
    ¬s.custody.Exclusive { b | ∃ i < 2 ^ 1, 10 + i = b } := by
  have seen : (createAllocator true (some fun _ => ⟨0, 0, none⟩) (fun i => some (10 + i)) 64 2048
      (UInt64.ofNat (2 ^ 1))).bind (fun made =>
        (Runs.run Pool.act (Pool.start made.1) overtaken).map fun r =>
          (r.1.held false, r.1.sys.rb.tail, r.1.sys.rb.head, r.1.sys.rb.mask,
            r.1.sys.rb.cells 0)) = some ([11], 2, 3, 1, ⟨3, 64, some 11⟩) := by
    decide +kernel
  obtain ⟨⟨rb, freed⟩, created, rest⟩ := Option.bind_eq_some_iff.mp seen
  obtain ⟨⟨s, log⟩, ran, observed⟩ := Option.map_eq_some_iff.mp rest
  simp only [Prod.mk.injEq] at observed
  obtain ⟨held, tail, head, mask, cell⟩ := observed
  refine ⟨rb, freed, s, log, created, ran, ?_⟩
  intro exclusive
  -- position 2 is the cell 0 again
  have queued : s.custody.At 11 (.queued 0) := by
    refine ⟨⟨2, ?_, ?_, ?_⟩, ?_⟩
    · rw [head, tail]
      decide
    · rw [Ringbuf.slot, mask]
      rfl
    · rw [cell]
      rfl
    · simp only [Pool.custody, cell]
  refine (exclusive 11 ⟨1, by decide, rfl⟩).2.1 false (.inl ?_) ⟨0, queued⟩
  show 11 ∈ s.held false
  rw [held]
  exact List.mem_singleton_self 11

end Kpnet.Ring
