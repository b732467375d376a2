import Kpnet.Ring.Positions

/-!
# Exactly-once claiming

While fewer than 2^63 pushes have succeeded, a thread's stale copy of a counter can
never be overtaken by a full turn, so every successful exchange is fresh and the
positions of the log are claimed in order, once each, with the packet of the push of a
position in its cell until the pop of that position has stored its sequence number.
-/
namespace Kpnet.Ring

variable {α τ : Type}

namespace RingCall

/-- The position behind the counter the call competes for. -/
def position (h t : Nat) : RingCall α → Nat
  | .push _ _ => h
  | .pop => t

end RingCall

theorem Positions.counter {k h t : Nat} {s : Sys α τ} (inv : Positions k h t s)
    (call : RingCall α) : call.counter s.rb = UInt64.ofNat (call.position h t) := by
  cases call with
  | push packet plen => exact inv.head
  | pop => exact inv.tail

/-- What the local copies of a thread still say about the ring. -/
structure Tests (k h t : Nat) (s : Sys α τ) : Prop where
  loaded : ∀ u call x, s.pc u = .test call x →
    ∃ p, x = UInt64.ofNat p ∧ p ≤ call.position h t
  tested : ∀ u call x, s.pc u = .cas call x →
    ∃ p, x = UInt64.ofNat p ∧ p ≤ call.position h t ∧
      (p = call.position h t → (s.rb.cells (p % 2 ^ k)).seq = x + call.lead)

/-- Below 2^63 positions a test that is still good for the exchange is good for the cell. -/
theorem Tests.fresh {k h t : Nat} {s : Sys α τ} (inv : Positions k h t s) (tests : Tests k h t s)
    (small : h < 2 ^ 63) (i : τ × Action α) : Fresh s i := by
  intro call pos _ at_pc current
  obtain ⟨p, rfl, le, good⟩ := tests.tested i.1 call pos at_pc
  have ordered := inv.ordered
  have bound : call.position h t ≤ h := by
    cases call with
    | push packet plen => exact Nat.le_refl h
    | pop => exact ordered
  rw [inv.counter] at current
  have equal := Counter.eq_of_ofNat current (by omega) (by omega)
  rw [inv.slot]
  exact good equal.symm

section Step

variable {k h t : Nat} {s : Sys α τ}

/-- A tested cell is not the one a writer is about to publish. -/
theorem tested_ne_writer (inv : Positions k h t s) {p q : Nat} (call : RingCall α)
    (current : q = call.position h t)
    (ready : (s.rb.cells (q % 2 ^ k)).seq = UInt64.ofNat q + call.lead)
    (low : t ≤ p) (high : p < h) (seq : (s.rb.cells (p % 2 ^ k)).seq = UInt64.ofNat p) :
    q % 2 ^ k ≠ p % 2 ^ k := by
  intro same
  have two := two_le_size inv.one_le
  have half := size_le_half inv.le_bits
  have bounded := inv.bounded
  rw [same, seq] at ready
  -- the number of the cell would have to be that of two positions less than a lap apart
  cases call with
  | push packet plen =>
    rw [RingCall.lead, UInt64.add_zero] at ready
    simp only [RingCall.position] at current
    have equal := Counter.eq_of_ofNat ready (by omega) (by omega)
    omega
  | pop =>
    rw [RingCall.lead, ← UInt64.ofNat_one, ← UInt64.ofNat_add] at ready
    simp only [RingCall.position] at current
    have equal := Counter.eq_of_ofNat ready (by omega) (by omega)
    have again := Counter.eq_of_mod same (by omega) (by omega)
    omega

/-- A tested cell is not the one a reader is about to release. -/
theorem tested_ne_reader (inv : Positions k h t s) {p q : Nat} (call : RingCall α)
    (current : q = call.position h t)
    (ready : (s.rb.cells (q % 2 ^ k)).seq = UInt64.ofNat q + call.lead)
    (high : p < t) (low : h ≤ p + 2 ^ k)
    (seq : (s.rb.cells (p % 2 ^ k)).seq = UInt64.ofNat (p + 1)) : q % 2 ^ k ≠ p % 2 ^ k := by
  intro same
  have two := two_le_size inv.one_le
  have half := size_le_half inv.le_bits
  have ordered := inv.ordered
  rw [same, seq] at ready
  cases call with
  | push packet plen =>
    rw [RingCall.lead, UInt64.add_zero] at ready
    simp only [RingCall.position] at current
    have equal := Counter.eq_of_ofNat ready (by omega) (by omega)
    have again := Counter.eq_of_mod same (by omega) (by omega)
    omega
  | pop =>
    rw [RingCall.lead, ← UInt64.ofNat_one, ← UInt64.ofNat_add] at ready
    simp only [RingCall.position] at current
    have equal := Counter.eq_of_ofNat ready (by omega) (by omega)
    omega

variable [DecidableEq τ] {u : τ}

/-- Tests survive a move that neither takes back a claim nor touches a tested cell. -/
theorem Tests.moved (tests : Tests k h t s) {h' t' : Nat} (rb : Ringbuf α) (pc : Pc α)
    (h_le : h ≤ h') (t_le : t ≤ t')
    (untested : ∀ call x, pc ≠ .test call x) (unswapped : ∀ call x, pc ≠ .cas call x)
    (kept : ∀ (call : RingCall α) (x : UInt64) (p : Nat), x = UInt64.ofNat p →
      p = call.position h t → p = call.position h' t' →
      (s.rb.cells (p % 2 ^ k)).seq = x + call.lead → (rb.cells (p % 2 ^ k)).seq = x + call.lead) :
    Tests k h' t' (s.move rb u pc) := by
  have grows : ∀ call : RingCall α, call.position h t ≤ call.position h' t' := by
    intro call
    cases call with
    | push packet plen => exact h_le
    | pop => exact t_le
  constructor
  · intro v call x at_pc
    by_cases same : v = u
    · rw [same, Sys.move_self] at at_pc
      exact absurd at_pc (untested call x)
    · rw [Sys.move_of_ne _ _ _ same] at at_pc
      obtain ⟨p, word, le⟩ := tests.loaded v call x at_pc
      exact ⟨p, word, le.trans (grows call)⟩
  · intro v call x at_pc
    by_cases same : v = u
    · rw [same, Sys.move_self] at at_pc
      exact absurd at_pc (unswapped call x)
    · rw [Sys.move_of_ne _ _ _ same] at at_pc
      obtain ⟨p, word, le, good⟩ := tests.tested v call x at_pc
      refine ⟨p, word, le.trans (grows call), ?_⟩
      intro reached
      -- the counters only grow, so what is current now has been current all the time
      have still := grows call
      have now : p = call.position h t := by omega
      exact kept call x p word now reached (good now)

theorem Tests.step (inv : Positions k h t s) (tests : Tests k h t s) {a : Action α}
    {s' : Sys α τ} {ev : List (Event α τ)} (effect : s.Effect u a s' ev) :
    Tests k (h + (pushes ev).length) (t + (pops ev).length) s' := by
  cases effect with
  | called c at_pc chosen => exact tests.moved _ _ (by simp) (by simp) (by simp) (by simp) (by simp)
  | loaded c at_pc =>
    constructor
    · intro v call x seen
      by_cases same : v = u
      · rw [same, Sys.move_self, Pc.test.injEq] at seen
        obtain ⟨rfl, rfl⟩ := seen
        -- what has just been loaded is the counter itself
        exact ⟨_, inv.counter c, Nat.le_refl _⟩
      · rw [Sys.move_of_ne _ _ _ same] at seen
        exact tests.loaded v call x seen
    · intro v call x seen
      by_cases same : v = u
      · rw [same, Sys.move_self] at seen
        cases seen
      · rw [Sys.move_of_ne _ _ _ same] at seen
        exact tests.tested v call x seen
  | tested c pos at_pc ready =>
    constructor
    · intro v call x seen
      by_cases same : v = u
      · rw [same, Sys.move_self] at seen
        cases seen
      · rw [Sys.move_of_ne _ _ _ same] at seen
        exact tests.loaded v call x seen
    · intro v call x seen
      by_cases same : v = u
      · rw [same, Sys.move_self, Pc.cas.injEq] at seen
        obtain ⟨rfl, rfl⟩ := seen
        obtain ⟨p, rfl, le⟩ := tests.loaded u c pos at_pc
        rw [inv.slot] at ready
        exact ⟨p, rfl, le, fun _ => ready⟩
      · rw [Sys.move_of_ne _ _ _ same] at seen
        exact tests.tested v call x seen
  | refused c pos at_pc => exact tests.moved _ _ (by simp) (by simp) (by simp) (by simp) (by simp)
  | retried c pos at_pc => exact tests.moved _ _ (by simp) (by simp) (by simp) (by simp) (by simp)
  | claimedPush packet plen pos at_pc current strong =>
    exact tests.moved _ _ (by simp) (by simp) (by simp) (by simp) (by simp)
  | claimedPop pos at_pc current strong =>
    exact tests.moved _ _ (by simp) (by simp) (by simp) (by simp) (by simp)
  | wrotePacket packet plen pos at_pc =>
    refine tests.moved _ _ (by simp) (by simp) (by simp) (by simp) ?_
    intro call x p _ _ _ good
    rw [← good]
    apply seq_setCell
    rfl
  | wrotePlen packet plen pos at_pc =>
    refine tests.moved _ _ (by simp) (by simp) (by simp) (by simp) ?_
    intro call x p _ _ _ good
    rw [← good]
    apply seq_setCell
    rfl
  | published packet plen pos at_pc =>
    -- the stores that change a number are to cells that no current test can be about
    refine tests.moved _ _ (by simp) (by simp) (by simp) (by simp) ?_
    rintro call _ q rfl reached _ good
    obtain ⟨p, rfl, low, high, seq⟩ := inv.writer u pos (by rw [at_pc]; rfl)
    rw [inv.slot, Ringbuf.setCell_of_ne _ _ (tested_ne_writer inv call reached good low high seq)]
    exact good
  | released pos at_pc =>
    refine tests.moved _ _ (by simp) (by simp) (by simp) (by simp) ?_
    rintro call _ q rfl reached _ good
    obtain ⟨p, rfl, high, low, seq⟩ := inv.reader u pos (by rw [at_pc]; rfl)
    rw [inv.slot, Ringbuf.setCell_of_ne _ _ (tested_ne_reader inv call reached good high low seq)]
    exact good

end Step

/-- A store of a sequence number keeps every entry. -/
theorem entry_setCell_seq (rb : Ringbuf α) (i : Nat) (seq : UInt64) (j : Nat) :
    (rb.setCell i { rb.cells i with seq := seq }).entry j = rb.entry j := by
  by_cases same : j = i
  · rw [same, Ringbuf.entry, Ringbuf.setCell_self, Ringbuf.entry]
  · rw [Ringbuf.entry, Ringbuf.setCell_of_ne _ _ same, Ringbuf.entry]

/-- The push of a position, with its packet and length, is complete in the log. -/
def Written (log : List (Event α τ)) (x : UInt64) (entry : Option α × UInt64) : Prop :=
  ∃ v, Event.claimed v (.push entry.1 entry.2) x ∈ log ∧ Event.published v x ∈ log

theorem Written.append {log : List (Event α τ)} {x : UInt64} {entry : Option α × UInt64}
    (written : Written log x entry) (ev : List (Event α τ)) : Written (log ++ ev) x entry := by
  obtain ⟨v, claimed, published⟩ := written
  exact ⟨v, List.mem_append_left ev claimed, List.mem_append_left ev published⟩

/-- Every pop claims a position after the releasing store of its push. -/
def PopsAfterPushes (log : List (Event α τ)) : Prop :=
  ∀ (i : Nat) (u : τ) (x : UInt64), log[i]? = some (.claimed u .pop x) →
    ∃ j < i, ∃ v, log[j]? = some (.published v x)

theorem PopsAfterPushes.append {log : List (Event α τ)} (ordered : PopsAfterPushes log)
    (e : Event α τ) (published : ∀ u x, e = .claimed u .pop x → ∃ v, Event.published v x ∈ log) :
    PopsAfterPushes (log ++ [e]) := by
  intro i u x seen
  rcases Nat.lt_or_ge i log.length with inside | outside
  · rw [List.getElem?_append_left inside] at seen
    obtain ⟨j, before, v, found⟩ := ordered i u x seen
    exact ⟨j, before, v, by rw [List.getElem?_append_left (before.trans inside)]; exact found⟩
  · rw [List.getElem?_append_right outside, List.getElem?_singleton] at seen
    split at seen
    · -- the new event is the pop, and its push is somewhere before
      cases seen
      obtain ⟨v, member⟩ := published u x rfl
      obtain ⟨j, found⟩ := List.mem_iff_getElem?.mp member
      obtain ⟨before, -⟩ := List.getElem?_eq_some_iff.mp found
      exact ⟨j, by omega, v, by rw [List.getElem?_append_left before]; exact found⟩
    · cases seen

theorem PopsAfterPushes.append_nil {log : List (Event α τ)} (ordered : PopsAfterPushes log) :
    PopsAfterPushes (log ++ []) := by
  rw [List.append_nil]
  exact ordered

/-- What the log and the ring say about a thread that has claimed a position. -/
def ThreadLogged (rb : Ringbuf α) (log : List (Event α τ)) (u : τ) : Pc α → Prop
  | .writePacket packet plen x => .claimed u (.push packet plen) x ∈ log
  | .writePlen packet plen x =>
    .claimed u (.push packet plen) x ∈ log ∧ (rb.cells (rb.slot x)).packet = packet
  | .publish packet plen x =>
    .claimed u (.push packet plen) x ∈ log ∧ rb.entry (rb.slot x) = (packet, plen)
  | .release x => Written log x (rb.entry (rb.slot x))
  | _ => True

/-- A thread's part of the log survives while its cell is left alone. -/
theorem ThreadLogged.append {rb rb' : Ringbuf α} {log : List (Event α τ)} {u : τ} {pc : Pc α}
    (logged : ThreadLogged rb log u pc) (mask : rb'.mask = rb.mask) (ev : List (Event α τ))
    (kept : ∀ x, pc.writing = some x ∨ pc.reading = some x →
      rb'.entry (rb.slot x) = rb.entry (rb.slot x)) : ThreadLogged rb' (log ++ ev) u pc := by
  have slot : ∀ x, rb'.slot x = rb.slot x := fun x => by rw [Ringbuf.slot, mask, Ringbuf.slot]
  cases pc with
  | writePacket packet plen x => exact List.mem_append_left ev logged
  | writePlen packet plen x =>
    refine ⟨List.mem_append_left ev logged.1, ?_⟩
    rw [slot, ← logged.2]
    exact congrArg Prod.fst (kept x (.inl rfl))
  | publish packet plen x =>
    exact ⟨List.mem_append_left ev logged.1, by rw [slot, kept x (.inl rfl), logged.2]⟩
  | release x =>
    have written : Written log x (rb.entry (rb.slot x)) := logged
    rw [← kept x (.inr rfl), ← slot] at written
    exact written.append ev
  | _ => trivial

/-- What the log says about the cells and the threads. -/
structure Logged (k h t : Nat) (s : Sys α τ) (log : List (Event α τ)) : Prop where
  pushed : pushes log = (List.range h).map UInt64.ofNat
  popped : pops log = (List.range t).map UInt64.ofNat
  after : PopsAfterPushes log
  threads : ∀ u, ThreadLogged s.rb log u (s.pc u)
  filled : ∀ p, t ≤ p → p < h → (s.rb.cells (p % 2 ^ k)).seq = UInt64.ofNat (p + 1) →
    Written log (UInt64.ofNat p) (s.rb.entry (p % 2 ^ k))

namespace Logged

variable {k h t : Nat} {s : Sys α τ} {log : List (Event α τ)} [DecidableEq τ] {u : τ}

/-- The threads' parts after a move: the mover's by hand, the others' by their cells. -/
theorem moved_threads (logged : Logged k h t s log) (rb : Ringbuf α) (pc : Pc α)
    (mask : rb.mask = s.rb.mask) (ev : List (Event α τ))
    (mover : ThreadLogged rb (log ++ ev) u pc)
    (kept : ∀ v x, v ≠ u → (s.pc v).writing = some x ∨ (s.pc v).reading = some x →
      rb.entry (s.rb.slot x) = s.rb.entry (s.rb.slot x)) :
    ∀ v, ThreadLogged (s.move rb u pc).rb (log ++ ev) v ((s.move rb u pc).pc v) := by
  intro v
  by_cases same : v = u
  · rw [same, Sys.move_self]
    exact mover
  · rw [Sys.move_of_ne _ _ _ same]
    exact (logged.threads v).append mask ev (fun x => kept v x same)

/-- A step on local variables only, with at most a refusal logged. -/
theorem local_step (logged : Logged k h t s log) (pc : Pc α)
    (unclaimed : ∀ log, ThreadLogged s.rb log u pc) (ev : List (Event α τ))
    (quiet : ev = [] ∨ ∃ call, ev = [.refused u call]) :
    Logged k h t (s.move s.rb u pc) (log ++ ev) := by
  refine ⟨?_, ?_, ?_, logged.moved_threads _ _ rfl ev (unclaimed _) (fun _ _ _ _ => rfl),
    fun p low high seq => (logged.filled p low high seq).append ev⟩
  · rcases quiet with rfl | ⟨call, rfl⟩ <;>
      simp [pushes, List.filterMap_append, ← logged.pushed, Event.pushed]
  · rcases quiet with rfl | ⟨call, rfl⟩ <;>
      simp [pops, List.filterMap_append, ← logged.popped, Event.popped]
  · rcases quiet with rfl | ⟨call, rfl⟩
    · exact logged.after.append_nil
    · exact logged.after.append _ (fun _ _ impossible => by cases impossible)

/-- A successful exchange on `head` logs the next position. -/
theorem claimedPush (inv : Positions k h t s) (logged : Logged k h t s log)
    (packet : Option α) (plen pos : UInt64) (current : s.rb.head = pos)
    (ready : (s.rb.cells (s.rb.slot pos)).seq = pos) :
    Logged k (h + 1) t (s.move { s.rb with head := pos + 1 } u (.writePacket packet plen pos))
      (log ++ [.claimed u (.push packet plen) pos]) := by
  rw [inv.head] at current
  subst current
  rw [inv.slot] at ready
  refine ⟨?_, ?_, logged.after.append _ (fun _ _ impossible => by cases impossible),
    logged.moved_threads _ _ rfl _ (List.mem_append_right log (List.mem_singleton_self _))
      (fun _ _ _ _ => rfl), ?_⟩
  · simp [pushes, List.filterMap_append, List.range_succ, ← logged.pushed, Event.pushed]
  · simp [pops, List.filterMap_append, ← logged.popped, Event.popped]
  · intro p low high seq
    by_cases last : p = h
    · -- the new position is claimed and not filled
      subst last
      have equal := Counter.eq_of_ofNat (seq.symm.trans ready) (by omega) (by omega)
      omega
    · exact (logged.filled p low (by omega) seq).append _

/-- A successful exchange on `tail` takes over the filled cell of its position. -/
theorem claimedPop (inv : Positions k h t s) (logged : Logged k h t s log) (pos : UInt64)
    (current : s.rb.tail = pos) (ready : (s.rb.cells (s.rb.slot pos)).seq = pos + 1) :
    Logged k h (t + 1) (s.move { s.rb with tail := pos + 1 } u (.release pos))
      (log ++ [.claimed u .pop pos]) := by
  rw [inv.tail] at current
  subst current
  rw [inv.slot, ← UInt64.ofNat_one, ← UInt64.ofNat_add] at ready
  have written := logged.filled t (Nat.le_refl t) (inv.queued ready) ready
  rw [← inv.slot] at written
  refine ⟨?_, ?_, ?_, logged.moved_threads _ _ rfl _ (written.append _) (fun _ _ _ _ => rfl),
    fun p low high seq => (logged.filled p (by omega) high seq).append _⟩
  · simp [pushes, List.filterMap_append, ← logged.pushed, Event.pushed]
  · simp [pops, List.filterMap_append, List.range_succ, ← logged.popped, Event.popped]
  · refine logged.after.append _ ?_
    intro v x same
    cases same
    obtain ⟨w, -, published⟩ := written
    exact ⟨w, published⟩

/-- A store of packet or length into the cell of a writer. -/
theorem stored (inv : Positions k h t s) (logged : Logged k h t s log) (pos : UInt64)
    (writes : (s.pc u).writing = some pos) (cell : RingbufCell α) (pc : Pc α)
    (seq : cell.seq = (s.rb.cells (s.rb.slot pos)).seq)
    (mover : ThreadLogged (s.rb.setCell (s.rb.slot pos) cell) (log ++ []) u pc) :
    Logged k h t (s.move (s.rb.setCell (s.rb.slot pos) cell) u pc) (log ++ []) := by
  obtain ⟨p, rfl, low, high, p_seq⟩ := inv.writer u pos writes
  obtain ⟨writers, readers, others⟩ := inv.writer_cell writes low high p_seq
  rw [inv.slot] at seq mover ⊢
  refine ⟨by simp [← logged.pushed], by simp [← logged.popped], logged.after.append_nil,
    logged.moved_threads _ _ (Ringbuf.setCell_mask _ _ _) [] mover ?_, ?_⟩
  · intro v x other claims
    have apart : s.rb.slot x ≠ p % 2 ^ k := claims.elim (writers v x other) (readers v x)
    rw [Ringbuf.entry, Ringbuf.setCell_of_ne _ _ apart, Ringbuf.entry]
  · intro q q_low q_high q_seq
    have half := size_le_half inv.le_bits
    have bounded := inv.bounded
    by_cases same : q = p
    · -- a cell that is still being written does not count as filled
      subst same
      rw [Sys.move_rb, Ringbuf.setCell_self, seq, p_seq] at q_seq
      have equal := Counter.eq_of_ofNat q_seq (by omega) (by omega)
      omega
    · have apart := others q q_low q_high same
      rw [Sys.move_rb, Ringbuf.setCell_of_ne _ _ apart] at q_seq
      rw [Sys.move_rb, Ringbuf.entry, Ringbuf.setCell_of_ne _ _ apart]
      exact (logged.filled q q_low q_high q_seq).append []

/-- The releasing store of a push makes its entry the entry of its position. -/
theorem published (inv : Positions k h t s) (logged : Logged k h t s log)
    (packet : Option α) (plen pos : UInt64) (at_pc : s.pc u = .publish packet plen pos) :
    Logged k h t (s.move (s.rb.setCell (s.rb.slot pos)
      { s.rb.cells (s.rb.slot pos) with seq := pos + 1 }) u .idle)
      (log ++ [.published u pos]) := by
  have thread := logged.threads u
  rw [at_pc] at thread
  obtain ⟨claimed, entry⟩ := thread
  obtain ⟨p, rfl, low, high, p_seq⟩ := inv.writer u pos (by rw [at_pc]; rfl)
  rw [inv.slot] at entry ⊢
  refine ⟨?_, ?_, logged.after.append _ (fun _ _ impossible => by cases impossible),
    logged.moved_threads _ _ (Ringbuf.setCell_mask _ _ _) _ trivial
      (fun _ _ _ _ => entry_setCell_seq _ _ _ _), ?_⟩
  · simp [pushes, List.filterMap_append, ← logged.pushed, Event.pushed]
  · simp [pops, List.filterMap_append, ← logged.popped, Event.popped]
  · intro q q_low q_high q_seq
    rw [Sys.move_rb, entry_setCell_seq]
    by_cases same : q = p
    · -- the position that becomes filled by this store
      subst same
      rw [entry]
      exact ⟨u, List.mem_append_left _ claimed,
        List.mem_append_right log (List.mem_singleton_self _)⟩
    · have bounded := inv.bounded
      have apart : q % 2 ^ k ≠ p % 2 ^ k :=
        fun equal => same (Counter.eq_of_mod equal (by omega) (by omega))
      rw [Sys.move_rb, Ringbuf.setCell_of_ne _ _ apart] at q_seq
      exact (logged.filled q q_low q_high q_seq).append _

/-- The releasing store of a pop gives its cell back. -/
theorem released (inv : Positions k h t s) (logged : Logged k h t s log) (pos : UInt64)
    (at_pc : s.pc u = .release pos) :
    Logged k h t (s.move (s.rb.setCell (s.rb.slot pos)
      { s.rb.cells (s.rb.slot pos) with seq := pos + s.rb.mask + 1 }) u .idle)
      (log ++ [.released u pos]) := by
  obtain ⟨p, rfl, high, low, p_seq⟩ := inv.reader u pos (by rw [at_pc]; rfl)
  rw [inv.slot]
  refine ⟨?_, ?_, logged.after.append _ (fun _ _ impossible => by cases impossible),
    logged.moved_threads _ _ (Ringbuf.setCell_mask _ _ _) _ trivial
      (fun _ _ _ _ => entry_setCell_seq _ _ _ _), ?_⟩
  · simp [pushes, List.filterMap_append, ← logged.pushed, Event.pushed]
  · simp [pops, List.filterMap_append, ← logged.popped, Event.popped]
  · intro q q_low q_high q_seq
    have ordered := inv.ordered
    have bounded := inv.bounded
    have apart : q % 2 ^ k ≠ p % 2 ^ k := by
      rw [← Nat.add_mod_right p]
      intro equal
      have lapped := Counter.eq_of_mod equal (by omega) (by omega)
      omega
    rw [Sys.move_rb, Ringbuf.setCell_of_ne _ _ apart] at q_seq
    rw [Sys.move_rb, entry_setCell_seq]
    exact (logged.filled q q_low q_high q_seq).append _

/-- Every fresh step keeps the log in step with the ring. -/
theorem step (inv : Positions k h t s) (logged : Logged k h t s log) {a : Action α}
    (fresh : Fresh s (u, a)) {s' : Sys α τ} {ev : List (Event α τ)}
    (effect : s.Effect u a s' ev) :
    Logged k (h + (pushes ev).length) (t + (pops ev).length) s' (log ++ ev) := by
  cases effect with
  | called c at_pc chosen => exact logged.local_step _ (fun _ => by trivial) [] (.inl rfl)
  | loaded c at_pc => exact logged.local_step _ (fun _ => by trivial) [] (.inl rfl)
  | tested c pos at_pc ready => exact logged.local_step _ (fun _ => by trivial) [] (.inl rfl)
  | refused c pos at_pc => exact logged.local_step _ (fun _ => by trivial) _ (.inr ⟨c, rfl⟩)
  | retried c pos at_pc => exact logged.local_step _ (fun _ => by trivial) [] (.inl rfl)
  | claimedPush packet plen pos at_pc current strong =>
    have ready := fresh _ pos strong at_pc current
    rw [RingCall.lead, UInt64.add_zero] at ready
    exact logged.claimedPush inv packet plen pos current ready
  | claimedPop pos at_pc current strong =>
    exact logged.claimedPop inv pos current (fresh _ pos strong at_pc current)
  | wrotePacket packet plen pos at_pc =>
    have thread := logged.threads u
    rw [at_pc] at thread
    refine logged.stored inv pos (by rw [at_pc]; rfl) _ _ rfl
      ⟨List.mem_append_left [] thread, ?_⟩
    change ((s.rb.setCell (s.rb.slot pos) _).cells (s.rb.slot pos)).packet = packet
    rw [Ringbuf.setCell_self]
  | wrotePlen packet plen pos at_pc =>
    have thread := logged.threads u
    rw [at_pc] at thread
    refine logged.stored inv pos (by rw [at_pc]; rfl) _ _ rfl
      ⟨List.mem_append_left [] thread.1, ?_⟩
    change (s.rb.setCell (s.rb.slot pos) _).entry (s.rb.slot pos) = (packet, plen)
    rw [Ringbuf.entry, Ringbuf.setCell_self, thread.2]
  | published packet plen pos at_pc => exact logged.published inv packet plen pos at_pc
  | released pos at_pc => exact logged.released inv pos at_pc

end Logged

theorem pushes_append (log ev : List (Event α τ)) : pushes (log ++ ev) = pushes log ++ pushes ev :=
  List.filterMap_append

theorem pops_append (log ev : List (Event α τ)) : pops (log ++ ev) = pops log ++ pops ev :=
  List.filterMap_append

/-- The three invariants along every run, while fewer than 2^63 pushes have succeeded. -/
theorem run_invariants [DecidableEq τ] {k : Nat} {rb : Ringbuf α} (start : Quiescent k 0 0 rb)
    (schedule : List (τ × Action α)) (s : Sys α τ) (log : List (Event α τ))
    (ran : Runs.run Sys.act { rb := rb, pc := fun _ => .idle } schedule = some (s, log))
    (few : (pushes log).length < 2 ^ 63) :
    Positions k (pushes log).length (pops log).length s ∧
    Logged k (pushes log).length (pops log).length s log := by
  have invariant := Runs.run_induction Sys.act (fun _ _ => True)
    ({ rb := rb, pc := fun _ => .idle } : Sys α τ)
    (fun _ s log => (pushes log).length < 2 ^ 63 →
      Positions k (pushes log).length (pops log).length s ∧
      Tests k (pushes log).length (pops log).length s ∧
      Logged k (pushes log).length (pops log).length s log)
    ?_ ?_ schedule s log ran (Runs.along_true _ _ _) few
  · exact ⟨invariant.1, invariant.2.2⟩
  · intro _
    refine ⟨start.positions, ⟨by simp, by simp⟩, ⟨rfl, rfl, by simp [PopsAfterPushes], ?_, ?_⟩⟩
    · exact fun _ => trivial
    · intro p _ high
      exact absurd high (Nat.not_lt_zero p)
  · intro is i mid before after ev _ ih _ acted small
    rw [pushes_append, List.length_append] at small
    obtain ⟨positions, tests, logged⟩ := ih (by omega)
    -- before the counters wrap no test is stale
    have fresh := tests.fresh positions (by omega) i
    have effect := Sys.act_effect mid after i ev acted
    rw [pushes_append, pops_append, List.length_append, List.length_append]
    exact ⟨positions.step fresh effect, Tests.step positions tests effect,
      Logged.step positions logged fresh effect⟩

private theorem eq_of_nodup_filterMap {β ε : Type} (f : ε → Option β) (l : List ε)
    (nodup : (l.filterMap f).Nodup) {a b : ε} {x : β} (a_mem : a ∈ l) (b_mem : b ∈ l)
    (fa : f a = some x) (fb : f b = some x) : a = b := by
  induction l with
  | nil => simp at a_mem
  | cons e l ih =>
    have tail : (l.filterMap f).Nodup := by
      rw [List.filterMap_cons] at nodup
      split at nodup
      · exact nodup
      · exact (List.nodup_cons.mp nodup).2
    have absent : f e = some x → ∀ c ∈ l, f c ≠ some x := by
      intro fe c member fc
      rw [List.filterMap_cons, fe] at nodup
      exact (List.nodup_cons.mp nodup).1 (List.mem_filterMap.mpr ⟨c, member, fc⟩)
    rcases List.mem_cons.mp a_mem with rfl | a_tail <;>
      rcases List.mem_cons.mp b_mem with rfl | b_tail
    · rfl
    · exact absurd fb (absent fa b b_tail)
    · exact absurd fa (absent fb a a_tail)
    · exact ih tail a_tail b_tail

private theorem nodup_positions {n : Nat} (small : n < 2 ^ 64) :
    ((List.range n).map UInt64.ofNat).Nodup := by
  refine List.Nodup.map_on ?_ List.nodup_range
  intro p p_mem q q_mem same
  rw [List.mem_range] at p_mem q_mem
  exact Counter.eq_of_ofNat same (by omega) (by omega)

/-- Exactly-once claiming, for any number of threads and any schedule. -/
theorem ring_claims_once [DecidableEq τ] (k : Nat) (one_le : 1 ≤ k) (le_bits : k ≤ 63)
    (rbMalloc : Bool) (cellsMalloc : Option (Nat → RingbufCell α)) (rb : Ringbuf α)
    (created : createRingbuf rbMalloc cellsMalloc (UInt64.ofNat (2 ^ k)) = some rb)
    (schedule : List (τ × Action α)) (s : Sys α τ) (log : List (Event α τ))
    (ran : Runs.run Sys.act { rb := rb, pc := fun _ => .idle } schedule = some (s, log))
    (few : (pushes log).length < 2 ^ 63) :
    (pushes log).Nodup ∧ (pops log).Nodup ∧
    s.rb.tail.toNat ≤ s.rb.head.toNat ∧ s.rb.head.toNat ≤ s.rb.tail.toNat + 2 ^ k ∧
    PopsAfterPushes log ∧
    ∀ u x, s.pc u = .release x →
      (∃ v packet plen, Event.claimed v (.push packet plen) x ∈ log) ∧
      ∀ v packet plen, Event.claimed v (.push packet plen) x ∈ log →
        s.rb.entry (s.rb.slot x) = (packet, plen) := by
  have start := createRingbuf_quiescent rbMalloc cellsMalloc k one_le le_bits rb created
  obtain ⟨positions, logged⟩ := run_invariants start schedule s log ran few
  have ordered := positions.ordered
  have bounded := positions.bounded
  have pushesOnce : (pushes log).Nodup := by
    rw [logged.pushed]
    exact nodup_positions (by omega)
  have popsOnce : (pops log).Nodup := by
    rw [logged.popped]
    exact nodup_positions (by omega)
  refine ⟨pushesOnce, popsOnce, ?_, ?_, logged.after, ?_⟩
  · rw [positions.head, positions.tail, Counter.toNat_ofNat_of_lt (by omega),
      Counter.toNat_ofNat_of_lt (by omega)]
    exact ordered
  · rw [positions.head, positions.tail, Counter.toNat_ofNat_of_lt (by omega),
      Counter.toNat_ofNat_of_lt (by omega)]
    exact bounded
  · intro u x at_pc
    have thread := logged.threads u
    rw [at_pc] at thread
    obtain ⟨w, claimed, -⟩ := thread
    refine ⟨⟨w, _, _, claimed⟩, ?_⟩
    intro v packet plen other
    -- two claims of one position are the same event
    have same := eq_of_nodup_filterMap Event.pushed log pushesOnce claimed other rfl rfl
    simp only [Event.claimed.injEq, RingCall.push.injEq] at same
    exact Prod.ext same.2.1.1 same.2.1.2

/-- A push by one thread and the exchange of a pop by another. -/
def twoThreads : List (Bool × Action Nat) :=
  [(false, .call (.push (some 7) 64)), (true, .call .pop), (false, .step false),
    (false, .step false), (false, .step true), (false, .step false), (false, .step false),
    (false, .step false), (false, .step false), (false, .step false), (false, .step false),
    (true, .step false), (true, .step false), (true, .step false)]

/-- The hypotheses are met by two threads on a ring of two cells, stopped between the
exchange of a pop and its releasing store. -/
theorem ring_claims_once_two_threads : ∃ rb s log,
    createRingbuf true (some fun _ => ⟨0, 0, none⟩) (UInt64.ofNat (2 ^ 1)) = some rb ∧
    Runs.run Sys.act { rb := rb, pc := fun _ => .idle } twoThreads = some (s, log) ∧
    s.pc true = .release 0 ∧ s.rb.entry (s.rb.slot 0) = (some 7, 64) := by
  refine ⟨_, _, _, rfl, rfl, rfl, ?_⟩
  exact ((ring_claims_once 1 (by decide) (by decide) true (some fun _ => ⟨0, 0, none⟩) _ rfl
    twoThreads _ _ rfl (by decide)).2.2.2.2.2 true 0 rfl).2 false (some 7) 64 (by decide)

end Kpnet.Ring
