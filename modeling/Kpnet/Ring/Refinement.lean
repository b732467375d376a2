import Kpnet.Lib.BoundedQueue
import Kpnet.Ring.Ringbuf

/-!
# The ring refines a bounded queue

Between calls the sequence numbers encode the queue: with `t ≤ h ≤ t + 2^k` the
unbounded positions behind `tail` and `head`, the cell of a position in `[t, h)` holds
its successor and the cell of a position in `[h, t + 2^k)` holds the position itself.
The invariant is stated on positions, so it survives the wrap of the counters.
-/
namespace Kpnet.Ring

open BoundedQueue (Call Reply)

variable {α : Type}

/-- A ring no thread is working on, with the positions behind its counters. -/
structure Quiescent (k h t : Nat) (rb : Ringbuf α) : Prop where
  one_le : 1 ≤ k
  le_bits : k ≤ 63
  size : rb.size = UInt64.ofNat (2 ^ k)
  mask : rb.mask = UInt64.ofNat (2 ^ k - 1)
  head : rb.head = UInt64.ofNat h
  tail : rb.tail = UInt64.ofNat t
  ordered : t ≤ h
  bounded : h ≤ t + 2 ^ k
  full : ∀ p, t ≤ p → p < h → (rb.cells (p % 2 ^ k)).seq = UInt64.ofNat (p + 1)
  free : ∀ p, h ≤ p → p < t + 2 ^ k → (rb.cells (p % 2 ^ k)).seq = UInt64.ofNat p

theorem two_le_size {k : Nat} (one_le : 1 ≤ k) : 2 ≤ 2 ^ k := by
  calc 2 = 2 ^ 1 := rfl
    _ ≤ 2 ^ k := Nat.pow_le_pow_right Nat.two_pos one_le

theorem size_le_half {k : Nat} (le_bits : k ≤ 63) : 2 ^ k ≤ 2 ^ 63 :=
  Nat.pow_le_pow_right Nat.two_pos le_bits

theorem slot_ofNat {rb : Ringbuf α} {k : Nat} (le_bits : k ≤ 63)
    (mask : rb.mask = UInt64.ofNat (2 ^ k - 1)) (p : Nat) :
    rb.slot (UInt64.ofNat p) = p % 2 ^ k := by
  rw [Ringbuf.slot, mask, Counter.toNat_and_mask p k (by omega)]

/-- The sequence number a pop leaves: the position one lap later. -/
theorem next_lap (p k : Nat) :
    UInt64.ofNat p + UInt64.ofNat (2 ^ k - 1) + 1 = UInt64.ofNat (p + 2 ^ k) := by
  have positive := Nat.two_pow_pos k
  rw [← UInt64.ofNat_add, ← UInt64.ofNat_one, ← UInt64.ofNat_add]
  congr 1
  omega

/-- The claim loop leaves with the counter's position when its cell is ready, after
any finite number of spurious failures. -/
theorem claimLoop_ready (rb : Ringbuf α) (counter lead : UInt64)
    (ready : (rb.cells (rb.slot counter)).seq = counter + lead)
    (fuel : Nat) (cas : List Bool) (enough : cas.length < fuel) :
    claimLoop rb counter lead fuel cas counter = some (some counter) := by
  induction fuel generalizing cas with
  | zero => omega
  | succ fuel ih =>
    have zero : ((rb.cells (rb.slot counter)).seq - (counter + lead)).toInt64 = 0 := by
      rw [ready, UInt64.sub_self]
      rfl
    cases cas with
    | nil => simp [claimLoop, zero]
    | cons spurious cas =>
      cases spurious with
      | false => simp [claimLoop, zero]
      | true =>
        -- a spurious failure reloads the same counter
        simp only [List.length_cons] at enough
        simp only [claimLoop, zero, if_true, List.headD_cons, Bool.true_eq_false, and_false,
          if_false, List.tail_cons]
        exact ih cas (by omega)

/-- The claim loop gives up at once when the cell is a lap behind. -/
theorem claimLoop_behind (rb : Ringbuf α) (counter lead : UInt64)
    (behind : ((rb.cells (rb.slot counter)).seq - (counter + lead)).toInt64 < 0)
    (fuel : Nat) (cas : List Bool) (enough : 0 < fuel) :
    claimLoop rb counter lead fuel cas counter = some none := by
  cases fuel with
  | zero => omega
  | succ fuel =>
    have nonzero : ((rb.cells (rb.slot counter)).seq - (counter + lead)).toInt64 ≠ 0 := by
      intro zero
      rw [zero] at behind
      exact absurd behind (by decide)
    simp only [claimLoop, if_neg nonzero, if_pos behind]

namespace Quiescent

variable {k h t : Nat} {rb : Ringbuf α}

theorem slot (q : Quiescent k h t rb) (p : Nat) : rb.slot (UInt64.ofNat p) = p % 2 ^ k :=
  slot_ofNat q.le_bits q.mask p

/-- The executable contents, read at unbounded positions. -/
theorem contents (q : Quiescent k h t rb) :
    rb.contents = (List.range (h - t)).map fun i => rb.entry ((t + i) % 2 ^ k) := by
  have half := size_le_half q.le_bits
  have ordered := q.ordered
  have bounded := q.bounded
  have distance : (rb.head - rb.tail).toNat = h - t := by
    rw [q.head, q.tail, Counter.ofNat_sub_ofNat ordered, Counter.toNat_ofNat_of_lt (by omega)]
  rw [Ringbuf.contents, distance]
  apply List.map_congr_left
  intro i _
  rw [q.tail, ← UInt64.ofNat_add, q.slot]

theorem contents_length (q : Quiescent k h t rb) : rb.contents.length = h - t := by
  rw [q.contents, List.length_map, List.length_range]

/-- A push into a ring with room appends, keeps the encoding and stores into one cell. -/
theorem push_room (q : Quiescent k h t rb) (room : h < t + 2 ^ k) (packet : Option α)
    (plen : UInt64) (fuel : Nat) (cas : List Bool) (enough : cas.length < fuel) :
    ∃ rb', pushRingbuf fuel cas rb packet plen = some (0, rb') ∧ Quiescent k (h + 1) t rb' ∧
      rb'.contents = rb.contents ++ [(packet, plen)] ∧
      ∀ i, i ≠ h % 2 ^ k → rb'.entry i = rb.entry i := by
  have ordered := q.ordered
  have ready : (rb.cells (rb.slot rb.head)).seq = rb.head + 0 := by
    rw [q.head, q.slot, q.free h (Nat.le_refl h) room, UInt64.add_zero]
  -- no other position of the current lap shares the cell of `head`
  have apart : ∀ p, t ≤ p → p < t + 2 ^ k → p ≠ h → p % 2 ^ k ≠ h % 2 ^ k :=
    fun p low high distinct same => distinct (Counter.eq_of_mod same (by omega) (by omega))
  have returned := claimLoop_ready rb rb.head 0 ready fuel cas enough
  refine ⟨_, by rw [pushRingbuf, returned], ?_⟩
  have after : Quiescent k (h + 1) t ({ rb with head := rb.head + 1 }.setCell (rb.slot rb.head)
      { packet := packet, plen := plen, seq := rb.head + 1 }) := by
    refine ⟨q.one_le, q.le_bits, q.size, q.mask, ?_, q.tail, by omega, by omega, ?_, ?_⟩
    · rw [Ringbuf.setCell_head, q.head, UInt64.ofNat_add, UInt64.ofNat_one]
    · intro p low high
      rw [q.head, q.slot]
      by_cases last : p = h
      · rw [last, Ringbuf.setCell_self, UInt64.ofNat_add, UInt64.ofNat_one]
      · rw [Ringbuf.setCell_of_ne _ _ (apart p low (by omega) last)]
        exact q.full p low (by omega)
    · intro p low high
      rw [q.head, q.slot, Ringbuf.setCell_of_ne _ _ (apart p (by omega) high (by omega))]
      exact q.free p (by omega) high
  have others : ∀ i, i ≠ h % 2 ^ k → ({ rb with head := rb.head + 1 }.setCell (rb.slot rb.head)
      { packet := packet, plen := plen, seq := rb.head + 1 }).entry i = rb.entry i := by
    intro i other
    rw [Ringbuf.entry, Ringbuf.entry, q.head, q.slot, Ringbuf.setCell_of_ne _ _ other]
  refine ⟨after, ?_, others⟩
  rw [after.contents, q.contents, show h + 1 - t = h - t + 1 by omega, List.range_succ,
    List.map_append, List.map_singleton]
  congr 1
  · apply List.map_congr_left
    intro i member
    have inside := List.mem_range.mp member
    exact others _ (apart (t + i) (by omega) (by omega) (by omega))
  · rw [Ringbuf.entry, q.head, q.slot, show t + (h - t) = h by omega, Ringbuf.setCell_self]

/-- A push into a full ring is refused and changes nothing. -/
theorem push_full (q : Quiescent k h t rb) (filled : h = t + 2 ^ k) (packet : Option α)
    (plen : UInt64) (fuel : Nat) (cas : List Bool) (enough : 0 < fuel) :
    pushRingbuf fuel cas rb packet plen = some (-1, rb) := by
  have two := two_le_size q.one_le
  have half := size_le_half q.le_bits
  -- the cell of `head` still belongs to the oldest entry
  have lapped : (rb.cells (rb.slot rb.head)).seq = UInt64.ofNat (t + 1) := by
    rw [q.head, q.slot, filled, Nat.add_mod_right]
    exact q.full t (Nat.le_refl t) (by omega)
  have behind : ((rb.cells (rb.slot rb.head)).seq - (rb.head + 0)).toInt64 < 0 := by
    rw [Counter.toInt64_neg, lapped, q.head, UInt64.add_zero, UInt64.toNat_sub,
      UInt64.toNat_ofNat', UInt64.toNat_ofNat']
    omega
  rw [pushRingbuf, claimLoop_behind rb rb.head 0 behind fuel cas enough]

/-- A pop from a non-empty ring returns the cell of the oldest entry and removes it. -/
theorem pop_some (q : Quiescent k h t rb) (queued : t < h) (fuel : Nat) (cas : List Bool)
    (enough : cas.length < fuel) :
    ∃ rb', popRingbuf fuel cas rb = some (some (t % 2 ^ k), rb') ∧ Quiescent k h (t + 1) rb' ∧
      rb.contents = rb'.entry (t % 2 ^ k) :: rb'.contents := by
  have bounded := q.bounded
  have ready : (rb.cells (rb.slot rb.tail)).seq = rb.tail + 1 := by
    rw [q.tail, q.slot, q.full t (Nat.le_refl t) queued, UInt64.ofNat_add, UInt64.ofNat_one]
  have apart : ∀ p, t < p → p < t + 2 ^ k → p % 2 ^ k ≠ t % 2 ^ k :=
    fun p low high same => by
      have equal := Counter.eq_of_mod same (by omega) (by omega)
      omega
  have returned := claimLoop_ready rb rb.tail 1 ready fuel cas enough
  have oldest : rb.slot rb.tail = t % 2 ^ k := by rw [q.tail, q.slot]
  rw [← oldest]
  refine ⟨_, by rw [popRingbuf, returned], ?_⟩
  have after : Quiescent k h (t + 1) ({ rb with tail := rb.tail + 1 }.setCell (rb.slot rb.tail)
      { rb.cells (rb.slot rb.tail) with seq := rb.tail + rb.mask + 1 }) := by
    refine ⟨q.one_le, q.le_bits, q.size, q.mask, q.head, ?_, by omega, by omega, ?_, ?_⟩
    · rw [Ringbuf.setCell_tail, q.tail, UInt64.ofNat_add, UInt64.ofNat_one]
    · intro p low high
      rw [q.tail, q.slot, Ringbuf.setCell_of_ne _ _ (apart p (by omega) (by omega))]
      exact q.full p (by omega) high
    · intro p low high
      rw [q.tail, q.slot]
      by_cases lapped : p = t + 2 ^ k
      · -- the popped cell waits for the position one lap on
        rw [lapped, Nat.add_mod_right, Ringbuf.setCell_self, q.mask]
        exact next_lap t k
      · rw [Ringbuf.setCell_of_ne _ _ (apart p (by omega) (by omega))]
        exact q.free p low (by omega)
  refine ⟨after, ?_⟩
  rw [q.contents, after.contents, show h - t = h - (t + 1) + 1 by omega,
    List.range_succ_eq_map, List.map_cons, List.map_map]
  congr 1
  · rw [Nat.add_zero, Ringbuf.entry, Ringbuf.entry, q.tail, q.slot, Ringbuf.setCell_self]
  · apply List.map_congr_left
    intro i member
    have inside := List.mem_range.mp member
    rw [Function.comp_apply, Ringbuf.entry, Ringbuf.entry, q.tail, q.slot,
      show t + i.succ = t + 1 + i by omega,
      Ringbuf.setCell_of_ne _ _ (apart (t + 1 + i) (by omega) (by omega))]

/-- A pop from an empty ring returns `NULL` and changes nothing. -/
theorem pop_empty (q : Quiescent k h t rb) (drained : h = t) (fuel : Nat) (cas : List Bool)
    (enough : 0 < fuel) : popRingbuf fuel cas rb = some (none, rb) := by
  have positive := Nat.two_pow_pos k
  -- the cell of `tail` has not been pushed into yet
  have behind : ((rb.cells (rb.slot rb.tail)).seq - (rb.tail + 1)).toInt64 < 0 := by
    rw [Counter.toInt64_neg, q.tail, q.slot, q.free t (by omega) (by omega), UInt64.toNat_sub,
      UInt64.toNat_add, UInt64.toNat_ofNat']
    simp only [UInt64.toNat_one]
    omega
  rw [popRingbuf, claimLoop_behind rb rb.tail 1 behind fuel cas enough]

end Quiescent

/-- A new ring is quiescent and empty. -/
theorem createRingbuf_quiescent (rbMalloc : Bool) (cellsMalloc : Option (Nat → RingbufCell α))
    (k : Nat) (one_le : 1 ≤ k) (le_bits : k ≤ 63) (rb : Ringbuf α)
    (created : createRingbuf rbMalloc cellsMalloc (UInt64.ofNat (2 ^ k)) = some rb) :
    Quiescent k 0 0 rb := by
  have half := size_le_half le_bits
  have positive := Nat.two_pow_pos k
  unfold createRingbuf at created
  split at created
  · split at created
    · cases created
    · cases created
      refine ⟨one_le, le_bits, rfl, ?_, rfl, rfl, Nat.le_refl 0, by omega, ?_, ?_⟩
      · simp only [← UInt64.ofNat_one]
        exact Counter.ofNat_sub_ofNat positive
      · intro p _ high
        omega
      · intro p _ high
        have inside : p % 2 ^ k = p := Nat.mod_eq_of_lt (by omega)
        have bound : p < (UInt64.ofNat (2 ^ k)).toNat := by
          rw [Counter.toNat_ofNat_of_lt (by omega)]
          omega
        simp only [inside, if_pos bound]
  · cases created

/-- One call on the ring, with the pattern of spurious failures it meets. -/
def callRingbuf (fuel : Nat) (rb : Ringbuf α)
    (c : Call (Option α × UInt64) × List Bool) :
    Option (Reply (Option α × UInt64) × Ringbuf α) :=
  match c.1 with
  | .push (packet, plen) =>
    match pushRingbuf fuel c.2 rb packet plen with
    | none => none
    | some (ret, rb) => some (if ret = 0 then .accepted else .rejected, rb)
  | .pop =>
    match popRingbuf fuel c.2 rb with
    | none => none
    | some (none, rb) => some (.empty, rb)
    | some (some i, rb) => some (.popped (rb.entry i), rb)

/-- How `push_ringbuf` and `pop_ringbuf` answer on a ring, for every pattern of
spurious failures: as a queue of capacity `cap` holding `rb.contents`. -/
structure AnswersAsQueue (cap : Nat) (rb : Ringbuf α) : Prop where
  push_appends : ∀ packet plen fuel cas, cas.length < fuel → rb.contents.length < cap →
    ∃ rb', pushRingbuf fuel cas rb packet plen = some (0, rb') ∧
      rb'.contents = rb.contents ++ [(packet, plen)]
  push_refuses : ∀ packet plen fuel cas, cas.length < fuel → ¬rb.contents.length < cap →
    pushRingbuf fuel cas rb packet plen = some (-1, rb)
  pop_oldest : ∀ x rest fuel cas, cas.length < fuel → rb.contents = x :: rest →
    ∃ i rb', popRingbuf fuel cas rb = some (some i, rb') ∧ rb'.entry i = x ∧
      rb'.contents = rest
  pop_null : ∀ fuel cas, cas.length < fuel → rb.contents = [] →
    popRingbuf fuel cas rb = some (none, rb)

namespace Quiescent

variable {k h t : Nat} {rb : Ringbuf α}

theorem answers (q : Quiescent k h t rb) : AnswersAsQueue (2 ^ k) rb := by
  have count := q.contents_length
  have ordered := q.ordered
  have bounded := q.bounded
  constructor
  · intro packet plen fuel cas enough room
    obtain ⟨rb', pushed, -, contents, -⟩ := q.push_room (by omega) packet plen fuel cas enough
    exact ⟨rb', pushed, contents⟩
  · intro packet plen fuel cas enough full
    exact q.push_full (by omega) packet plen fuel cas (by omega)
  · intro x rest fuel cas enough front
    have nonempty : rb.contents.length = rest.length + 1 := by rw [front, List.length_cons]
    obtain ⟨rb', popped, -, contents⟩ := q.pop_some (by omega) fuel cas enough
    rw [front, List.cons.injEq] at contents
    exact ⟨_, rb', popped, contents.1.symm, contents.2.symm⟩
  · intro fuel cas enough drained
    rw [drained, List.length_nil] at count
    exact q.pop_empty (by omega) fuel cas (by omega)

/-- Call-by-call simulation of the bounded queue. -/
theorem call_simulates (q : Quiescent k h t rb) (fuel : Nat)
    (c : Call (Option α × UInt64) × List Bool) (enough : c.2.length < fuel) :
    ∃ after, callRingbuf fuel rb c =
        some ((BoundedQueue.apply (2 ^ k) rb.contents c.1).1, after) ∧
      after.contents = (BoundedQueue.apply (2 ^ k) rb.contents c.1).2 ∧
      ∃ h' t', Quiescent k h' t' after := by
  have count := q.contents_length
  have ordered := q.ordered
  have bounded := q.bounded
  obtain ⟨call, cas⟩ := c
  cases call with
  | push x =>
    obtain ⟨packet, plen⟩ := x
    by_cases room : h < t + 2 ^ k
    · obtain ⟨after, pushed, kept, contents, -⟩ := q.push_room room packet plen fuel cas enough
      have fits : rb.contents.length < 2 ^ k := by omega
      exact ⟨after, by simp [callRingbuf, pushed, BoundedQueue.apply, fits],
        by simp [contents, BoundedQueue.apply, fits], h + 1, t, kept⟩
    · have refused := q.push_full (by omega) packet plen fuel cas (by omega)
      have filled : ¬rb.contents.length < 2 ^ k := by omega
      exact ⟨rb, by simp [callRingbuf, refused, BoundedQueue.apply, filled],
        by simp [BoundedQueue.apply, filled], h, t, q⟩
  | pop =>
    by_cases queued : t < h
    · obtain ⟨after, popped, kept, contents⟩ := q.pop_some queued fuel cas enough
      exact ⟨after, by simp [callRingbuf, popped, BoundedQueue.apply, contents],
        by simp [BoundedQueue.apply, contents], h, t + 1, kept⟩
    · have drained : rb.contents = [] := List.eq_nil_of_length_eq_zero (by omega)
      have returned := q.pop_empty (by omega) fuel cas (by omega)
      exact ⟨rb, by simp [callRingbuf, returned, BoundedQueue.apply, drained],
        by simp [BoundedQueue.apply, drained], h, t, q⟩

end Quiescent

/-- Every run of calls on a new ring returns, with the replies of the bounded queue and
its contents, and leaves a ring that answers the next call as that queue does. -/
theorem ringbuf_refines_queue (k : Nat) (one_le : 1 ≤ k) (le_bits : k ≤ 62)
    (rbMalloc : Bool) (cellsMalloc : Option (Nat → RingbufCell α)) (rb : Ringbuf α)
    (created : createRingbuf rbMalloc cellsMalloc (UInt64.ofNat (2 ^ k)) = some rb)
    (calls : List (Call (Option α × UInt64) × List Bool)) (fuel : Nat)
    (enough : ∀ c ∈ calls, c.2.length < fuel) :
    ∃ replies after,
      BoundedQueue.runWith (callRingbuf fuel) rb calls = some (replies, after) ∧
      BoundedQueue.run (2 ^ k) [] (calls.map Prod.fst) = (replies, after.contents) ∧
      AnswersAsQueue (2 ^ k) after := by
  have start := createRingbuf_quiescent rbMalloc cellsMalloc k one_le (by omega) rb created
  have drained : rb.contents = [] := List.eq_nil_of_length_eq_zero start.contents_length
  obtain ⟨after, ran, contents, h, t, kept⟩ := BoundedQueue.runWith_simulates (2 ^ k)
    (callRingbuf fuel) Prod.fst Ringbuf.contents (fun rb => ∃ h t, Quiescent k h t rb)
    (fun c => c.2.length < fuel)
    (fun rb c ⟨_, _, q⟩ enough => q.call_simulates fuel c enough) rb ⟨0, 0, start⟩ calls enough
  rw [drained] at ran contents
  exact ⟨_, after, ran, by rw [contents], kept.answers⟩

/-- The hypotheses of the refinement are met by a ring of two cells and a run that
fills it, overfills it and drains it under spurious failures. -/
theorem ringbuf_refines_queue_two : ∃ replies after,
    BoundedQueue.runWith (callRingbuf 3)
      ({ size := 2, mask := 1, head := 0, tail := 0,
         cells := fun i => if i < 2 then ⟨UInt64.ofNat i, 0, none⟩ else ⟨0, 0, none⟩ } : Ringbuf Nat)
      [(.push (some 7, 64), [true]), (.push (some 8, 64), []), (.push (some 9, 64), []),
        (.pop, [true, true]), (.pop, []), (.pop, [])] = some (replies, after) ∧
    BoundedQueue.run (2 ^ 1) []
      [.push (some 7, 64), .push (some 8, 64), .push (some 9, 64), .pop, .pop, .pop] =
      (replies, after.contents) ∧ AnswersAsQueue (2 ^ 1) after :=
  ringbuf_refines_queue 1 (by decide) (by decide) true (some fun _ => ⟨0, 0, none⟩) _ rfl _ 3
    (by decide)

end Kpnet.Ring
