import Kpnet.Ring.Refinement

/-!
# Rings in the hands of one thread

Single-threaded clients (the timer wheel, the packet builders) always meet a ring
between calls. `RingQueue` carries that fact, so its operations are total and their
effect is stated on the contents alone.
-/
namespace Kpnet.Ring

variable {α : Type}

/-- A ring between calls. -/
structure RingQueue (α : Type) where
  rb : Ringbuf α
  quiescent : ∃ k h t, Quiescent k h t rb

namespace Quiescent

variable {k h t : Nat} {rb : Ringbuf α}

theorem capacity (q : Quiescent k h t rb) : rb.size.toNat = 2 ^ k := by
  have half := size_le_half q.le_bits
  rw [q.size, Counter.toNat_ofNat_of_lt (by omega)]

/-- What one call of `push_ringbuf` without spurious failures leaves behind. -/
theorem push_returns (q : Quiescent k h t rb) (packet : Option α) (plen : UInt64) :
    ∃ rb', pushRingbuf 1 [] rb packet plen =
        some (if rb.contents.length < 2 ^ k then 0 else -1, rb') ∧
      (∃ h', Quiescent k h' t rb') ∧
      rb'.contents =
        (if rb.contents.length < 2 ^ k then rb.contents ++ [(packet, plen)] else rb.contents) ∧
      ∀ i, i ≠ h % 2 ^ k → rb'.entry i = rb.entry i := by
  have count := q.contents_length
  have ordered := q.ordered
  have bounded := q.bounded
  by_cases room : h < t + 2 ^ k
  · have fits : rb.contents.length < 2 ^ k := by omega
    obtain ⟨rb', pushed, kept, contents, others⟩ := q.push_room room packet plen 1 [] (by decide)
    exact ⟨rb', by rw [pushed, if_pos fits], ⟨h + 1, kept⟩, by rw [contents, if_pos fits], others⟩
  · have filled : ¬rb.contents.length < 2 ^ k := by omega
    have refused := q.push_full (by omega) packet plen 1 [] (by decide)
    exact ⟨rb, by rw [refused, if_neg filled], ⟨h, q⟩, by rw [if_neg filled], fun _ _ => rfl⟩

/-- What one call of `pop_ringbuf` without spurious failures leaves behind. -/
theorem pop_returns (q : Quiescent k h t rb) :
    ∃ cell rb', popRingbuf 1 [] rb = some (cell, rb') ∧ (∃ t', Quiescent k h t' rb') ∧
      cell.map rb'.entry = rb.contents.head? ∧ rb'.contents = rb.contents.tail := by
  have count := q.contents_length
  have ordered := q.ordered
  by_cases queued : t < h
  · obtain ⟨rb', popped, kept, contents⟩ := q.pop_some queued 1 [] (by decide)
    exact ⟨_, rb', popped, ⟨t + 1, kept⟩, by simp [contents], by simp [contents]⟩
  · have drained : rb.contents = [] := List.eq_nil_of_length_eq_zero (by omega)
    exact ⟨none, rb, q.pop_empty (by omega) 1 [] (by decide), ⟨t, q⟩, by simp [drained],
      by simp [drained]⟩

end Quiescent

namespace RingQueue

/-- The queued packets, oldest first. -/
def contents (q : RingQueue α) : List (Option α × UInt64) := q.rb.contents

def capacity (q : RingQueue α) : Nat := q.rb.size.toNat

theorem push_isSome (q : RingQueue α) (packet : Option α) (plen : UInt64) :
    (pushRingbuf 1 [] q.rb packet plen).isSome = true := by
  obtain ⟨k, h, t, quiescent⟩ := q.quiescent
  obtain ⟨rb', pushed, -⟩ := quiescent.push_returns packet plen
  rw [pushed, Option.isSome_some]

theorem push_quiescent (q : RingQueue α) (packet : Option α) (plen : UInt64) :
    ∃ k h t, Quiescent k h t
      ((pushRingbuf 1 [] q.rb packet plen).get (q.push_isSome packet plen)).2 := by
  obtain ⟨k, h, t, quiescent⟩ := q.quiescent
  obtain ⟨rb', pushed, ⟨h', kept⟩, -⟩ := quiescent.push_returns packet plen
  exact ⟨k, h', t, by simpa only [pushed, Option.get_some] using kept⟩

/-- `push_ringbuf` on a ring between calls. -/
def push (q : RingQueue α) (packet : Option α) (plen : UInt64) : Int × RingQueue α :=
  let r := (pushRingbuf 1 [] q.rb packet plen).get (q.push_isSome packet plen)
  (r.1, ⟨r.2, q.push_quiescent packet plen⟩)

theorem pop_isSome (q : RingQueue α) : (popRingbuf 1 [] q.rb).isSome = true := by
  obtain ⟨k, h, t, quiescent⟩ := q.quiescent
  obtain ⟨cell, rb', popped, -⟩ := quiescent.pop_returns
  rw [popped, Option.isSome_some]

theorem pop_quiescent (q : RingQueue α) :
    ∃ k h t, Quiescent k h t ((popRingbuf 1 [] q.rb).get q.pop_isSome).2 := by
  obtain ⟨k, h, t, quiescent⟩ := q.quiescent
  obtain ⟨cell, rb', popped, ⟨t', kept⟩, -⟩ := quiescent.pop_returns
  exact ⟨k, h, t', by simpa only [popped, Option.get_some] using kept⟩

/-- `pop_ringbuf` on a ring between calls, with the packet and length that its caller
reads through the returned cell. -/
def pop (q : RingQueue α) : Option (Option α × UInt64) × RingQueue α :=
  let r := (popRingbuf 1 [] q.rb).get q.pop_isSome
  (r.1.map r.2.entry, ⟨r.2, q.pop_quiescent⟩)

theorem push_spec (q : RingQueue α) (packet : Option α) (plen : UInt64) :
    (q.push packet plen).1 = (if q.contents.length < q.capacity then 0 else -1) ∧
    (q.push packet plen).2.contents =
      (if q.contents.length < q.capacity then q.contents ++ [(packet, plen)] else q.contents) ∧
    (q.push packet plen).2.capacity = q.capacity := by
  obtain ⟨k, h, t, quiescent⟩ := q.quiescent
  obtain ⟨rb', pushed, ⟨h', kept⟩, contents, -⟩ := quiescent.push_returns packet plen
  simp only [push, RingQueue.contents, RingQueue.capacity, pushed, Option.get_some,
    quiescent.capacity, kept.capacity, contents, and_self]

theorem pop_spec (q : RingQueue α) :
    q.pop.1 = q.contents.head? ∧ q.pop.2.contents = q.contents.tail ∧
    q.pop.2.capacity = q.capacity := by
  obtain ⟨k, h, t, quiescent⟩ := q.quiescent
  obtain ⟨cell, rb', popped, ⟨t', kept⟩, read, contents⟩ := quiescent.pop_returns
  simp only [pop, RingQueue.contents, RingQueue.capacity, popped, Option.get_some,
    quiescent.capacity, kept.capacity, contents, read, and_self]

@[simp] theorem capacity_push (q : RingQueue α) (packet : Option α) (plen : UInt64) :
    (q.push packet plen).2.capacity = q.capacity := (q.push_spec packet plen).2.2

@[simp] theorem pop_fst (q : RingQueue α) : q.pop.1 = q.contents.head? := q.pop_spec.1

@[simp] theorem contents_pop (q : RingQueue α) : q.pop.2.contents = q.contents.tail :=
  q.pop_spec.2.1

@[simp] theorem capacity_pop (q : RingQueue α) : q.pop.2.capacity = q.capacity :=
  q.pop_spec.2.2

theorem contents_push (q : RingQueue α) (packet : Option α) (plen : UInt64) :
    (q.push packet plen).2.contents =
      if q.contents.length < q.capacity then q.contents ++ [(packet, plen)] else q.contents :=
  (q.push_spec packet plen).2.1

/-- `pop_ringbuf` on a ring between calls, when its caller has not read the returned cell yet. -/
def popCell (q : RingQueue α) : Option Nat × RingQueue α :=
  let r := (popRingbuf 1 [] q.rb).get q.pop_isSome
  (r.1, ⟨r.2, q.pop_quiescent⟩)

/-- What the cell has now. -/
def entry (q : RingQueue α) (i : Nat) : Option α × UInt64 := q.rb.entry i

/-- The cell was the last to be popped, so a push comes to it when it has come to all the others. -/
def Popped (q : RingQueue α) (i : Nat) : Prop :=
  ∃ k h t, Quiescent k h (t + 1) q.rb ∧ i = t % 2 ^ k

theorem popCell_nil {q : RingQueue α} (drained : q.contents = []) : q.popCell = (none, q) := by
  obtain ⟨rb, k, h, t, quiescent⟩ := q
  have count := quiescent.contents_length
  have ordered := quiescent.ordered
  rw [show rb.contents = [] from drained, List.length_nil] at count
  have returned := quiescent.pop_empty (by omega) 1 [] (by decide)
  simp only [popCell, returned, Option.get_some]

theorem popCell_cons {q : RingQueue α} {entry : Option α × UInt64}
    {rest : List (Option α × UInt64)} (queued : q.contents = entry :: rest) :
    ∃ i after, q.popCell = (some i, after) ∧ after.Popped i ∧ after.entry i = entry ∧
      after.contents = rest ∧ after.capacity = q.capacity := by
  obtain ⟨rb, k, h, t, quiescent⟩ := q
  have count := quiescent.contents_length
  rw [show rb.contents = entry :: rest from queued, List.length_cons] at count
  obtain ⟨rb', popped, kept, contents⟩ := quiescent.pop_some (by omega) 1 [] (by decide)
  rw [show rb.contents = entry :: rest from queued] at contents
  obtain ⟨read, others⟩ := List.cons.inj contents
  refine ⟨t % 2 ^ k, ⟨rb', k, h, t + 1, kept⟩, ?_, ⟨k, h, t, kept, rfl⟩, read.symm, others.symm, ?_⟩
  · simp only [popCell, popped, Option.get_some]
  · rw [capacity, capacity, kept.capacity, quiescent.capacity]

namespace Popped

variable {q : RingQueue α} {i : Nat}

protected theorem push (popped : q.Popped i) (packet : Option α) (plen : UInt64) :
    (q.push packet plen).2.Popped i := by
  obtain ⟨k, h, t, quiescent, cell⟩ := popped
  obtain ⟨rb', pushed, ⟨h', kept⟩, -⟩ := quiescent.push_returns packet plen
  exact ⟨k, h', t, by simpa only [RingQueue.push, pushed, Option.get_some] using kept, cell⟩

/-- While another cell is free too, a push does not store into the popped one. -/
theorem entry_push (popped : q.Popped i) (room : q.contents.length + 1 < q.capacity)
    (packet : Option α) (plen : UInt64) : (q.push packet plen).2.entry i = q.entry i := by
  obtain ⟨k, h, t, quiescent, cell⟩ := popped
  obtain ⟨rb', pushed, -, -, others⟩ := quiescent.push_returns packet plen
  have count := quiescent.contents_length
  have ordered := quiescent.ordered
  rw [contents, capacity, quiescent.capacity] at room
  -- the push stores at `h`, less than a lap behind the popped position
  have apart : i ≠ h % 2 ^ k := by
    rw [cell]
    intro same
    have equal := Counter.eq_of_mod same.symm (by omega) (by omega)
    omega
  have read := others i apart
  simpa only [RingQueue.push, RingQueue.entry, pushed, Option.get_some] using read

end Popped

end RingQueue

/-- The allocation loop of `create_allocator` when every allocation succeeds. -/
theorem fillAllocator_filled {k : Nat} (alloc : Nat → Option α) (memory : Nat → α)
    (plen : UInt64) (allocated : ∀ i < 2 ^ k, alloc i = some (memory i))
    (left i : Nat) (total : i + left = 2 ^ k) (rb : Ringbuf α) (freed : List (Freed α))
    (quiescent : Quiescent k i 0 rb)
    (queued : rb.contents = (List.range i).map fun j => (some (memory j), plen)) :
    ∃ rb', fillAllocator alloc plen left i rb freed = some (rb', freed) ∧
      Quiescent k (2 ^ k) 0 rb' ∧
      rb'.contents = (List.range (2 ^ k)).map fun j => (some (memory j), plen) := by
  induction left generalizing i rb with
  | zero =>
    have last : i = 2 ^ k := by omega
    subst last
    exact ⟨rb, rfl, quiescent, queued⟩
  | succ left ih =>
    -- the `i`-th buffer finds room behind the ones before it
    obtain ⟨rb', pushed, quiescent', contents, -⟩ :=
      quiescent.push_room (by omega) (some (memory i)) plen 1 [] (by decide)
    have queued' : rb'.contents = (List.range (i + 1)).map fun j => (some (memory j), plen) := by
      rw [contents, queued, List.range_succ, List.map_append, List.map_singleton]
    obtain ⟨last, filled, rest⟩ := ih (i + 1) (by omega) rb' quiescent' queued'
    refine ⟨last, ?_, rest⟩
    rw [fillAllocator, allocated i (by omega)]
    simp only [pushed]
    exact filled

/-- The ring as `create_allocator` initialises it. -/
theorem initialized_quiescent {k : Nat} (one_le : 1 ≤ k) (le_bits : k ≤ 63)
    (cells : Nat → RingbufCell α) :
    Quiescent k 0 0 ({
      size := UInt64.ofNat (2 ^ k), mask := UInt64.ofNat (2 ^ k) - 1, head := 0, tail := 0,
      cells := fun i =>
        if i < 2 ^ k then { cells i with seq := UInt64.ofNat i } else cells i } : Ringbuf α) := by
  have two := two_le_size one_le
  refine ⟨one_le, le_bits, rfl, ?_, rfl, rfl, by omega, by omega, by omega, ?_⟩
  · rw [← UInt64.ofNat_one]
    exact Counter.ofNat_sub_ofNat (by omega)
  · intro p _ high
    have inside : p < 2 ^ k := by omega
    simp only [Nat.mod_eq_of_lt inside, if_pos inside]

/-- An allocator none of whose allocations fails is a full ring of its buffers. -/
theorem createAllocator_filled (k : Nat) (one_le : 1 ≤ k) (le_bits : k ≤ 63)
    (cells : Nat → RingbufCell α) (alloc : Nat → Option α) (memory : Nat → α)
    (cacheline memorySize : UInt64) (allocated : ∀ i < 2 ^ k, alloc i = some (memory i)) :
    ∃ rb, createAllocator true (some cells) alloc cacheline memorySize (UInt64.ofNat (2 ^ k)) =
        some (rb, []) ∧
      Quiescent k (2 ^ k) 0 rb ∧
      rb.contents = (List.range (2 ^ k)).map fun j =>
        (some (memory j), alignUp memorySize cacheline) := by
  have half := size_le_half le_bits
  have length : (UInt64.ofNat (2 ^ k)).toNat = 2 ^ k := Counter.toNat_ofNat_of_lt (by omega)
  simp only [createAllocator, if_true]
  rw [length]
  have empty := initialized_quiescent one_le le_bits cells
  have drained := List.eq_nil_of_length_eq_zero empty.contents_length
  exact fillAllocator_filled alloc memory _ allocated _ 0 (by omega) _ [] empty drained

namespace RingQueue

section Allocator

variable (k : Nat) (one_le : 1 ≤ k) (le_bits : k ≤ 63) (cells : Nat → RingbufCell α)
  (memory : Nat → α) (cacheline memorySize : UInt64)

include one_le le_bits

theorem allocator_isSome : (createAllocator true (some cells) (fun i => some (memory i))
    cacheline memorySize (UInt64.ofNat (2 ^ k))).isSome = true := by
  obtain ⟨rb, created, -⟩ := createAllocator_filled k one_le le_bits cells _ memory cacheline
    memorySize (fun _ _ => rfl)
  rw [created, Option.isSome_some]

theorem allocator_quiescent : ∃ k' h t, Quiescent k' h t ((createAllocator true (some cells)
    (fun i => some (memory i)) cacheline memorySize (UInt64.ofNat (2 ^ k))).get
      (allocator_isSome k one_le le_bits cells memory cacheline memorySize)).1 := by
  obtain ⟨rb, created, quiescent, -⟩ := createAllocator_filled k one_le le_bits cells _ memory
    cacheline memorySize (fun _ _ => rfl)
  exact ⟨k, 2 ^ k, 0, by simpa only [created, Option.get_some] using quiescent⟩

/-- `create_allocator` when every allocation succeeds. -/
def allocator : RingQueue α :=
  ⟨((createAllocator true (some cells) (fun i => some (memory i)) cacheline memorySize
    (UInt64.ofNat (2 ^ k))).get
      (allocator_isSome k one_le le_bits cells memory cacheline memorySize)).1,
    allocator_quiescent k one_le le_bits cells memory cacheline memorySize⟩

theorem contents_allocator :
    (allocator k one_le le_bits cells memory cacheline memorySize).contents =
      (List.range (2 ^ k)).map fun j => (some (memory j), alignUp memorySize cacheline) := by
  obtain ⟨rb, created, -, contents⟩ := createAllocator_filled k one_le le_bits cells _ memory
    cacheline memorySize (fun _ _ => rfl)
  simpa only [RingQueue.contents, allocator, created, Option.get_some] using contents

end Allocator

/-- An allocator of two buffers, in cells that were blank. -/
def pair (memory : Nat → α) (cacheline memorySize : UInt64) : RingQueue α :=
  allocator 1 (by decide) (by decide) (fun _ => ⟨0, 0, none⟩) memory cacheline memorySize

theorem contents_pair (memory : Nat → α) (cacheline memorySize : UInt64) :
    (pair memory cacheline memorySize).contents =
      [(some (memory 0), alignUp memorySize cacheline),
        (some (memory 1), alignUp memorySize cacheline)] := by
  rw [pair, contents_allocator]
  rfl

/-- A ring never holds more than its size. -/
theorem length_contents_le (q : RingQueue α) : q.contents.length ≤ q.capacity := by
  obtain ⟨k, h, t, quiescent⟩ := q.quiescent
  have bounded := quiescent.bounded
  rw [contents, quiescent.contents_length, capacity, quiescent.capacity]
  exact Nat.sub_le_iff_le_add'.mpr bounded

end RingQueue

end Kpnet.Ring
