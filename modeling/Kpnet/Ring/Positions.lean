import Kpnet.Ring.Interleaving

/-!
# Positions under interleaving

The structural invariant of the threaded ring. With `t ≤ h ≤ t + 2^k` the positions
behind `tail` and `head`, a cell belongs to one position at a time, in one of four
phases: open for the push of `p` (sequence number `p`, `h ≤ p`), being written
(`p`, `p < h`), filled (`p + 1`, `t ≤ p < h`), being popped (`p + 1`, `p < t`).
The invariant is kept by every step whose successful exchanges find the cell still in
the phase that was tested; no bound on the counters is needed for that.
-/
namespace Kpnet.Ring

variable {α τ : Type}

namespace Pc

/-- The position a thread has claimed and not yet published. -/
def writing : Pc α → Option UInt64
  | .writePacket _ _ pos | .writePlen _ _ pos | .publish _ _ pos => some pos
  | _ => none

/-- The call and the position of a thread about to try its exchange. -/
def swapping : Pc α → Option (RingCall α × UInt64)
  | .cas call pos => some (call, pos)
  | _ => none

theorem swapping_eq_some (pc : Pc α) (call : RingCall α) (pos : UInt64) :
    pc.swapping = some (call, pos) ↔ pc = .cas call pos := by
  cases pc <;> simp [swapping]

/-- The position a thread has claimed and not yet released. -/
def reading : Pc α → Option UInt64
  | .release pos => some pos
  | _ => none

end Pc

namespace Event

def pushed : Event α τ → Option UInt64
  | .claimed _ (.push _ _) pos => some pos
  | _ => none

def popped : Event α τ → Option UInt64
  | .claimed _ .pop pos => some pos
  | _ => none

end Event

/-- The positions of the successful pushes of a log, in order. -/
def pushes (log : List (Event α τ)) : List UInt64 := log.filterMap Event.pushed

/-- The positions of the successful pops of a log, in order. -/
def pops (log : List (Event α τ)) : List UInt64 := log.filterMap Event.popped

/-- Threads on a ring of `2^k` cells with `h` pushes and `t` pops claimed. -/
structure Positions (k h t : Nat) (s : Sys α τ) : Prop where
  one_le : 1 ≤ k
  le_bits : k ≤ 63
  mask : s.rb.mask = UInt64.ofNat (2 ^ k - 1)
  head : s.rb.head = UInt64.ofNat h
  tail : s.rb.tail = UInt64.ofNat t
  ordered : t ≤ h
  bounded : h ≤ t + 2 ^ k
  behind : ∀ p, t ≤ p → p < h →
    (s.rb.cells (p % 2 ^ k)).seq = UInt64.ofNat (p + 1) ∨
    (s.rb.cells (p % 2 ^ k)).seq = UInt64.ofNat p
  ahead : ∀ p, h ≤ p → p < t + 2 ^ k →
    (s.rb.cells (p % 2 ^ k)).seq = UInt64.ofNat p ∨
    2 ^ k ≤ p ∧ (s.rb.cells (p % 2 ^ k)).seq = UInt64.ofNat (p - 2 ^ k + 1)
  writer : ∀ u x, (s.pc u).writing = some x → ∃ p, x = UInt64.ofNat p ∧ t ≤ p ∧ p < h ∧
    (s.rb.cells (p % 2 ^ k)).seq = UInt64.ofNat p
  reader : ∀ u x, (s.pc u).reading = some x → ∃ p, x = UInt64.ofNat p ∧ p < t ∧
    h ≤ p + 2 ^ k ∧ (s.rb.cells (p % 2 ^ k)).seq = UInt64.ofNat (p + 1)
  writer_unique : ∀ u v x, (s.pc u).writing = some x → (s.pc v).writing = some x → u = v
  reader_unique : ∀ u v x, (s.pc u).reading = some x → (s.pc v).reading = some x → u = v

namespace Positions

variable {k h t : Nat} {s : Sys α τ}

theorem slot (inv : Positions k h t s) (p : Nat) : s.rb.slot (UInt64.ofNat p) = p % 2 ^ k :=
  slot_ofNat inv.le_bits inv.mask p

/-- The invariant reads counters, sequence numbers and claims only. -/
theorem congr (inv : Positions k h t s) {s' : Sys α τ} (mask : s'.rb.mask = s.rb.mask)
    (head : s'.rb.head = s.rb.head) (tail : s'.rb.tail = s.rb.tail)
    (seq : ∀ i, (s'.rb.cells i).seq = (s.rb.cells i).seq)
    (writing : ∀ u, (s'.pc u).writing = (s.pc u).writing)
    (reading : ∀ u, (s'.pc u).reading = (s.pc u).reading) : Positions k h t s' := by
  refine ⟨inv.one_le, inv.le_bits, mask.trans inv.mask, head.trans inv.head,
    tail.trans inv.tail, inv.ordered, inv.bounded, ?_, ?_, ?_, ?_, ?_, ?_⟩
  · simpa only [seq] using inv.behind
  · simpa only [seq] using inv.ahead
  · simpa only [seq, writing] using inv.writer
  · simpa only [seq, reading] using inv.reader
  · simpa only [writing] using inv.writer_unique
  · simpa only [reading] using inv.reader_unique

/-- A cell ready for the push of `h` means there is room. -/
theorem room (inv : Positions k h t s)
    (ready : (s.rb.cells (h % 2 ^ k)).seq = UInt64.ofNat h) : h < t + 2 ^ k := by
  have two := two_le_size inv.one_le
  have half := size_le_half inv.le_bits
  have bounded := inv.bounded
  by_contra full
  have lapped : h = t + 2 ^ k := by omega
  have same : h % 2 ^ k = t % 2 ^ k := by rw [lapped, Nat.add_mod_right]
  rw [same] at ready
  rcases inv.behind t (Nat.le_refl t) (by omega) with filled | written
  · have equal := Counter.eq_of_ofNat (filled.symm.trans ready) (by omega) (by omega)
    omega
  · have equal := Counter.eq_of_ofNat (written.symm.trans ready) (by omega) (by omega)
    omega

/-- A cell ready for the pop of `t` means something is queued. -/
theorem queued (inv : Positions k h t s)
    (ready : (s.rb.cells (t % 2 ^ k)).seq = UInt64.ofNat (t + 1)) : t < h := by
  have two := two_le_size inv.one_le
  have half := size_le_half inv.le_bits
  have ordered := inv.ordered
  by_contra drained
  rcases inv.ahead t (by omega) (by omega) with vacant | ⟨low, popping⟩
  · have equal := Counter.eq_of_ofNat (vacant.symm.trans ready) (by omega) (by omega)
    omega
  · have equal := Counter.eq_of_ofNat (popping.symm.trans ready) (by omega) (by omega)
    omega

/-- A cell being written is not being popped. -/
theorem writer_reader_apart (inv : Positions k h t s) {p q : Nat} (p_low : t ≤ p) (p_high : p < h)
    (written : (s.rb.cells (p % 2 ^ k)).seq = UInt64.ofNat p) (q_high : q < t)
    (q_low : h ≤ q + 2 ^ k) (popping : (s.rb.cells (q % 2 ^ k)).seq = UInt64.ofNat (q + 1)) :
    p % 2 ^ k ≠ q % 2 ^ k := by
  intro same
  have two := two_le_size inv.one_le
  have half := size_le_half inv.le_bits
  rw [same, popping] at written
  have equal := Counter.eq_of_ofNat written (by omega) (by omega)
  have again := Counter.eq_of_mod same (by omega) (by omega)
  omega

/-- The writers' positions are pairwise in different cells. -/
theorem writers_apart (inv : Positions k h t s) {u v : τ} {p q : Nat}
    (u_writes : (s.pc u).writing = some (UInt64.ofNat p)) (p_low : t ≤ p) (p_high : p < h)
    (v_writes : (s.pc v).writing = some (UInt64.ofNat q)) (q_low : t ≤ q) (q_high : q < h)
    (same : p % 2 ^ k = q % 2 ^ k) : u = v := by
  have bounded := inv.bounded
  have equal := Counter.eq_of_mod same (by omega) (by omega)
  subst equal
  exact inv.writer_unique u v _ u_writes v_writes

/-- The readers' positions are pairwise in different cells. -/
theorem readers_apart (inv : Positions k h t s) {u v : τ} {p q : Nat}
    (u_reads : (s.pc u).reading = some (UInt64.ofNat p)) (p_high : p < t) (p_low : h ≤ p + 2 ^ k)
    (v_reads : (s.pc v).reading = some (UInt64.ofNat q)) (q_high : q < t) (q_low : h ≤ q + 2 ^ k)
    (same : p % 2 ^ k = q % 2 ^ k) : u = v := by
  have ordered := inv.ordered
  have equal := Counter.eq_of_mod same (by omega) (by omega)
  subst equal
  exact inv.reader_unique u v _ u_reads v_reads

/-- The cell of a writer is no other writer's, no reader's and no other position's. -/
theorem writer_cell (inv : Positions k h t s) {u : τ} {p : Nat}
    (writes : (s.pc u).writing = some (UInt64.ofNat p)) (low : t ≤ p) (high : p < h)
    (seq : (s.rb.cells (p % 2 ^ k)).seq = UInt64.ofNat p) :
    (∀ v x, v ≠ u → (s.pc v).writing = some x → s.rb.slot x ≠ p % 2 ^ k) ∧
    (∀ v x, (s.pc v).reading = some x → s.rb.slot x ≠ p % 2 ^ k) ∧
    (∀ q, t ≤ q → q < h → q ≠ p → q % 2 ^ k ≠ p % 2 ^ k) := by
  refine ⟨?_, ?_, ?_⟩
  · intro v x other v_writes same
    obtain ⟨q, rfl, q_low, q_high, -⟩ := inv.writer v x v_writes
    rw [inv.slot] at same
    exact other (inv.writers_apart v_writes q_low q_high writes low high same)
  · intro v x v_reads same
    obtain ⟨q, rfl, q_high, q_low, q_seq⟩ := inv.reader v x v_reads
    rw [inv.slot] at same
    exact inv.writer_reader_apart low high seq q_high q_low q_seq same.symm
  · intro q q_low q_high distinct same
    have bounded := inv.bounded
    exact distinct (Counter.eq_of_mod same (by omega) (by omega))

variable [DecidableEq τ] {u : τ}

/-- A successful exchange on `head` that finds the cell of `h` still open. -/
theorem claimedPush (inv : Positions k h t s) (packet : Option α) (plen pos : UInt64)
    (current : s.rb.head = pos) (ready : (s.rb.cells (s.rb.slot pos)).seq = pos) :
    Positions k (h + 1) t
      (s.move { s.rb with head := pos + 1 } u (.writePacket packet plen pos)) := by
  have two := two_le_size inv.one_le
  have half := size_le_half inv.le_bits
  have ordered := inv.ordered
  have bounded := inv.bounded
  rw [inv.head] at current
  subst current
  rw [inv.slot] at ready
  have room := inv.room ready
  -- nobody writes to a position that has not been claimed
  have fresh : ∀ v, (s.pc v).writing ≠ some (UInt64.ofNat h) := by
    intro v writes
    obtain ⟨p, word, low, high, -⟩ := inv.writer v _ writes
    have equal := Counter.eq_of_ofNat word (by omega) (by omega)
    omega
  refine ⟨inv.one_le, inv.le_bits, inv.mask, ?_, inv.tail, by omega, by omega, ?_, ?_, ?_, ?_, ?_, ?_⟩
  · rw [UInt64.ofNat_add, UInt64.ofNat_one, Sys.move_rb]
  · intro p low high
    by_cases last : p = h
    · subst last
      exact .inr ready
    · exact inv.behind p low (by omega)
  · intro p low high
    exact inv.ahead p (by omega) high
  · intro v x writes
    rcases s.move_cases _ Pc.writing writes with ⟨-, claim⟩ | ⟨-, old⟩
    · cases claim
      exact ⟨h, rfl, by omega, by omega, ready⟩
    · obtain ⟨p, word, low, high, seq⟩ := inv.writer v x old
      exact ⟨p, word, low, by omega, seq⟩
  · intro v x reads
    rcases s.move_cases _ Pc.reading reads with ⟨-, claim⟩ | ⟨-, old⟩
    · cases claim
    · obtain ⟨p, word, high, low, seq⟩ := inv.reader v x old
      -- a cell being popped is not the open cell of `h`
      have apart : h ≠ p + 2 ^ k := by
        intro lapped
        rw [lapped, Nat.add_mod_right, seq] at ready
        have equal := Counter.eq_of_ofNat ready (by omega) (by omega)
        omega
      exact ⟨p, word, high, by omega, seq⟩
  · exact s.move_unique_of_fresh _ Pc.writing rfl fresh inv.writer_unique
  · exact s.move_unique_of_none _ Pc.reading rfl inv.reader_unique

/-- A successful exchange on `tail` that finds the cell of `t` still filled. -/
theorem claimedPop (inv : Positions k h t s) (pos : UInt64) (current : s.rb.tail = pos)
    (ready : (s.rb.cells (s.rb.slot pos)).seq = pos + 1) :
    Positions k h (t + 1) (s.move { s.rb with tail := pos + 1 } u (.release pos)) := by
  have two := two_le_size inv.one_le
  have half := size_le_half inv.le_bits
  have ordered := inv.ordered
  have bounded := inv.bounded
  rw [inv.tail] at current
  subst current
  rw [inv.slot, ← UInt64.ofNat_one, ← UInt64.ofNat_add] at ready
  have queued := inv.queued ready
  -- nobody reads a position that has not been popped
  have fresh : ∀ v, (s.pc v).reading ≠ some (UInt64.ofNat t) := by
    intro v reads
    obtain ⟨p, word, high, low, -⟩ := inv.reader v _ reads
    have equal := Counter.eq_of_ofNat word (by omega) (by omega)
    omega
  refine ⟨inv.one_le, inv.le_bits, inv.mask, inv.head, ?_, by omega, by omega, ?_, ?_, ?_, ?_, ?_, ?_⟩
  · rw [UInt64.ofNat_add, UInt64.ofNat_one, Sys.move_rb]
  · intro p low high
    exact inv.behind p (by omega) high
  · intro p low high
    by_cases lapped : p = t + 2 ^ k
    · -- the popped cell is the last one ahead, and still holds the old entry
      subst lapped
      refine .inr ⟨by omega, ?_⟩
      rw [Nat.add_mod_right, Nat.add_sub_cancel]
      exact ready
    · exact inv.ahead p low (by omega)
  · intro v x writes
    rcases s.move_cases _ Pc.writing writes with ⟨-, claim⟩ | ⟨-, old⟩
    · cases claim
    · obtain ⟨p, word, low, high, seq⟩ := inv.writer v x old
      -- a cell being written is not the filled cell of `t`
      have apart : p ≠ t := by
        rintro rfl
        have equal := Counter.eq_of_ofNat (seq.symm.trans ready) (by omega) (by omega)
        omega
      exact ⟨p, word, by omega, high, seq⟩
  · intro v x reads
    rcases s.move_cases _ Pc.reading reads with ⟨-, claim⟩ | ⟨-, old⟩
    · cases claim
      exact ⟨t, rfl, by omega, by omega, ready⟩
    · obtain ⟨p, word, high, low, seq⟩ := inv.reader v x old
      exact ⟨p, word, by omega, low, seq⟩
  · exact s.move_unique_of_none _ Pc.writing rfl inv.writer_unique
  · exact s.move_unique_of_fresh _ Pc.reading rfl fresh inv.reader_unique

/-- The releasing store of a push turns its cell from written into filled. -/
theorem published (inv : Positions k h t s) (pos : UInt64)
    (writes : (s.pc u).writing = some pos) :
    Positions k h t (s.move (s.rb.setCell (s.rb.slot pos)
      { s.rb.cells (s.rb.slot pos) with seq := pos + 1 }) u .idle) := by
  have bounded := inv.bounded
  obtain ⟨p, rfl, p_low, p_high, p_seq⟩ := inv.writer u pos writes
  rw [inv.slot, ← UInt64.ofNat_one, ← UInt64.ofNat_add]
  have window : ∀ q, t ≤ q → q < t + 2 ^ k → q ≠ p → q % 2 ^ k ≠ p % 2 ^ k :=
    fun q low high distinct same => distinct (Counter.eq_of_mod same (by omega) (by omega))
  refine ⟨inv.one_le, inv.le_bits, inv.mask, inv.head, inv.tail, inv.ordered, inv.bounded,
    ?_, ?_, ?_, ?_, ?_, ?_⟩
  · intro q low high
    by_cases same : q = p
    · subst same
      exact .inl (by rw [Sys.move_rb, Ringbuf.setCell_self])
    · rw [Sys.move_rb, Ringbuf.setCell_of_ne _ _ (window q low (by omega) same)]
      exact inv.behind q low high
  · intro q low high
    rw [Sys.move_rb, Ringbuf.setCell_of_ne _ _ (window q (by omega) high (by omega))]
    exact inv.ahead q low high
  · intro v x v_writes
    rcases s.move_cases _ Pc.writing v_writes with ⟨-, claim⟩ | ⟨other, old⟩
    · cases claim
    · obtain ⟨q, rfl, low, high, seq⟩ := inv.writer v x old
      have apart : q % 2 ^ k ≠ p % 2 ^ k :=
        fun same => other (inv.writers_apart old low high writes p_low p_high same)
      exact ⟨q, rfl, low, high, by rw [Sys.move_rb, Ringbuf.setCell_of_ne _ _ apart]; exact seq⟩
  · intro v x v_reads
    rcases s.move_cases _ Pc.reading v_reads with ⟨-, claim⟩ | ⟨-, old⟩
    · cases claim
    · obtain ⟨q, rfl, high, low, seq⟩ := inv.reader v x old
      have apart := (inv.writer_reader_apart p_low p_high p_seq high low seq).symm
      exact ⟨q, rfl, high, low, by rw [Sys.move_rb, Ringbuf.setCell_of_ne _ _ apart]; exact seq⟩
  · exact s.move_unique_of_none _ Pc.writing rfl inv.writer_unique
  · exact s.move_unique_of_none _ Pc.reading rfl inv.reader_unique

/-- The releasing store of a pop opens its cell for the next lap. -/
theorem released (inv : Positions k h t s) (pos : UInt64)
    (reads : (s.pc u).reading = some pos) :
    Positions k h t (s.move (s.rb.setCell (s.rb.slot pos)
      { s.rb.cells (s.rb.slot pos) with seq := pos + s.rb.mask + 1 }) u .idle) := by
  have ordered := inv.ordered
  obtain ⟨p, rfl, p_high, p_low, p_seq⟩ := inv.reader u pos reads
  rw [inv.slot, inv.mask, next_lap]
  have window : ∀ q, t ≤ q → q < t + 2 ^ k → q ≠ p + 2 ^ k → q % 2 ^ k ≠ p % 2 ^ k := by
    intro q low high distinct same
    rw [← Nat.add_mod_right p] at same
    exact distinct (Counter.eq_of_mod same (by omega) (by omega))
  refine ⟨inv.one_le, inv.le_bits, inv.mask, inv.head, inv.tail, inv.ordered, inv.bounded,
    ?_, ?_, ?_, ?_, ?_, ?_⟩
  · intro q low high
    have bounded := inv.bounded
    rw [Sys.move_rb, Ringbuf.setCell_of_ne _ _ (window q low (by omega) (by omega))]
    exact inv.behind q low high
  · intro q low high
    by_cases lapped : q = p + 2 ^ k
    · -- a lap later the cell is open again
      subst lapped
      exact .inl (by rw [Sys.move_rb, Nat.add_mod_right, Ringbuf.setCell_self])
    · rw [Sys.move_rb, Ringbuf.setCell_of_ne _ _ (window q (by omega) high lapped)]
      exact inv.ahead q low high
  · intro v x v_writes
    rcases s.move_cases _ Pc.writing v_writes with ⟨-, claim⟩ | ⟨-, old⟩
    · cases claim
    · obtain ⟨q, rfl, low, high, seq⟩ := inv.writer v x old
      have apart := inv.writer_reader_apart low high seq p_high p_low p_seq
      exact ⟨q, rfl, low, high, by rw [Sys.move_rb, Ringbuf.setCell_of_ne _ _ apart]; exact seq⟩
  · intro v x v_reads
    rcases s.move_cases _ Pc.reading v_reads with ⟨-, claim⟩ | ⟨other, old⟩
    · cases claim
    · obtain ⟨q, rfl, high, low, seq⟩ := inv.reader v x old
      have apart : q % 2 ^ k ≠ p % 2 ^ k :=
        fun same => other (inv.readers_apart old high low reads p_high p_low same)
      exact ⟨q, rfl, high, low, by rw [Sys.move_rb, Ringbuf.setCell_of_ne _ _ apart]; exact seq⟩
  · exact s.move_unique_of_none _ Pc.writing rfl inv.writer_unique
  · exact s.move_unique_of_none _ Pc.reading rfl inv.reader_unique

/-- A move that keeps counters, sequence numbers and the thread's claims. -/
theorem moved (inv : Positions k h t s) {rb : Ringbuf α} {pc : Pc α}
    (mask : rb.mask = s.rb.mask) (head : rb.head = s.rb.head) (tail : rb.tail = s.rb.tail)
    (seq : ∀ i, (rb.cells i).seq = (s.rb.cells i).seq)
    (writing : pc.writing = (s.pc u).writing) (reading : pc.reading = (s.pc u).reading) :
    Positions k h t (s.move rb u pc) := by
  refine inv.congr mask head tail seq ?_ ?_
  · intro v
    by_cases same : v = u
    · rw [same, Sys.move_self, writing]
    · rw [Sys.move_of_ne _ _ _ same]
  · intro v
    by_cases same : v = u
    · rw [same, Sys.move_self, reading]
    · rw [Sys.move_of_ne _ _ _ same]

end Positions

/-- A cell store that keeps the sequence number keeps all of them. -/
theorem seq_setCell (rb : Ringbuf α) (i : Nat) (cell : RingbufCell α)
    (same : cell.seq = (rb.cells i).seq) (j : Nat) :
    ((rb.setCell i cell).cells j).seq = (rb.cells j).seq := by
  by_cases equal : j = i
  · rw [equal, Ringbuf.setCell_self, same]
  · rw [Ringbuf.setCell_of_ne _ _ equal]

/-- A successful exchange finds the cell in the phase the thread has tested. A stale
test passes the exchange only when the counter has come all the way around. -/
def Fresh (s : Sys α τ) (i : τ × Action α) : Prop :=
  ∀ call pos, i.2 = .step false → s.pc i.1 = .cas call pos → call.counter s.rb = pos →
    (s.rb.cells (s.rb.slot pos)).seq = pos + call.lead

instance [DecidableEq α] (s : Sys α τ) (i : τ × Action α) : Decidable (Fresh s i) :=
  decidable_of_iff (∀ x ∈ (s.pc i.1).swapping, i.2 = .step false → x.1.counter s.rb = x.2 →
      (s.rb.cells (s.rb.slot x.2)).seq = x.2 + x.1.lead) (by
    simp only [Fresh, Option.mem_def, Prod.forall, Pc.swapping_eq_some]
    exact forall₂_congr fun _ _ => ⟨fun f a b => f b a, fun f a b => f b a⟩)

namespace Positions

variable {k h t : Nat} {s s' : Sys α τ} [DecidableEq τ] {u : τ} {a : Action α}

/-- Every fresh step keeps the invariant, counting the claims it makes. -/
theorem step (inv : Positions k h t s) (fresh : Fresh s (u, a)) {ev : List (Event α τ)}
    (effect : s.Effect u a s' ev) :
    Positions k (h + (pushes ev).length) (t + (pops ev).length) s' := by
  cases effect with
  | called c at_pc chosen =>
    exact inv.moved rfl rfl rfl (fun _ => rfl) (by rw [at_pc]; rfl) (by rw [at_pc]; rfl)
  | loaded c at_pc =>
    exact inv.moved rfl rfl rfl (fun _ => rfl) (by rw [at_pc]; rfl) (by rw [at_pc]; rfl)
  | tested c pos at_pc ready =>
    exact inv.moved rfl rfl rfl (fun _ => rfl) (by rw [at_pc]; rfl) (by rw [at_pc]; rfl)
  | refused c pos at_pc =>
    exact inv.moved rfl rfl rfl (fun _ => rfl) (by rw [at_pc]; rfl) (by rw [at_pc]; rfl)
  | retried c pos at_pc =>
    rcases at_pc with at_pc | at_pc <;>
      exact inv.moved rfl rfl rfl (fun _ => rfl) (by rw [at_pc]; rfl) (by rw [at_pc]; rfl)
  | claimedPush packet plen pos at_pc current strong =>
    have ready := fresh _ pos strong at_pc current
    rw [RingCall.lead, UInt64.add_zero] at ready
    exact inv.claimedPush packet plen pos current ready
  | claimedPop pos at_pc current strong =>
    exact inv.claimedPop pos current (fresh _ pos strong at_pc current)
  | wrotePacket packet plen pos at_pc =>
    exact inv.moved rfl rfl rfl (seq_setCell _ _ _ rfl) (by rw [at_pc]; rfl) (by rw [at_pc]; rfl)
  | wrotePlen packet plen pos at_pc =>
    exact inv.moved rfl rfl rfl (seq_setCell _ _ _ rfl) (by rw [at_pc]; rfl) (by rw [at_pc]; rfl)
  | published packet plen pos at_pc => exact inv.published pos (by rw [at_pc]; rfl)
  | released pos at_pc => exact inv.released pos (by rw [at_pc]; rfl)

end Positions

/-- Between calls, with all threads idle, the phases are those of a quiescent ring. -/
theorem Quiescent.positions {k h t : Nat} {rb : Ringbuf α} (q : Quiescent k h t rb) :
    Positions k h t ({ rb := rb, pc := fun _ => .idle } : Sys α τ) := by
  refine ⟨q.one_le, q.le_bits, q.mask, q.head, q.tail, q.ordered, q.bounded,
    fun p low high => .inl (q.full p low high), fun p low high => .inl (q.free p low high),
    ?_, ?_, ?_, ?_⟩ <;> simp [Pc.writing, Pc.reading]

end Kpnet.Ring
