import Kpnet.Ring.Allocators

/-!
# Freeing a ring

`free_ringbuf.c` frees the packet of every cell, queued or not. What it frees are the last packets that
were pushed into the ring, as many as there are cells; a packet that was popped is one of them until
another one has taken its cell.
-/
namespace Kpnet.Ring

open BoundedQueue (Call pushed popped)

variable {α : Type}

/-- What `free_ringbuf` passes to `free`, before the cells and the ring. -/
def freeRingbuf (rb : Ringbuf α) : List (Option α) := (List.range rb.size.toNat).map rb.packet

/-- A new ring, with what was pushed into it on the way and how much of that was popped again: an
allocator has been drained after a failure. -/
inductive Origin (k : Nat) : Ringbuf α → List (Option α) → Nat → Prop where
  | ringbuf {rbMalloc : Bool} {cellsMalloc : Option (Nat → RingbufCell α)} {rb : Ringbuf α}
      (created : createRingbuf rbMalloc cellsMalloc (UInt64.ofNat (2 ^ k)) = some rb) :
      Origin k rb [] 0
  | allocator {rbMalloc : Bool} {cellsMalloc : Option (Nat → RingbufCell α)}
      {alloc : Nat → Option α} {cacheline memorySize : UInt64} {rb : Ringbuf α}
      {freed : List (Freed α)}
      (created : createAllocator rbMalloc cellsMalloc alloc cacheline memorySize
        (UInt64.ofNat (2 ^ k)) = some (rb, freed)) :
      Origin k rb ((List.range (2 ^ k)).map alloc) (2 ^ k - rb.contents.length)

/-- The packets that were popped and still lie in their cells. -/
def stale (k : Nat) (history : List (Option α)) (t : Nat) : List (Option α) :=
  (history.take t).drop (history.length - 2 ^ k)

theorem Origin.recorded {k t : Nat} (one_le : 1 ≤ k) (le_bits : k ≤ 63) {rb : Ringbuf α}
    {history : List (Option α)} (origin : Origin k rb history t) :
    Recorded k (fun _ => none) rb history t := by
  cases origin with
  | ringbuf created => exact createRingbuf_recorded _ _ one_le le_bits created
  | @allocator rbMalloc cellsMalloc alloc cacheline memorySize _ freed created =>
    obtain rfl | rfl := Bool.eq_false_or_eq_true rbMalloc
    · cases cellsMalloc with
      | none => cases created
      | some cells =>
        obtain ⟨rb', freed', t, returned, recorded, -⟩ :=
          createAllocator_recorded one_le le_bits cells alloc cacheline memorySize
        rw [created] at returned
        cases returned
        -- all of the history is in the cells, so the length of the queue tells what was popped
        have ordered := recorded.quiescent.ordered
        have count := recorded.quiescent.contents_length
        rw [List.length_map, List.length_range] at ordered count
        have drained : 2 ^ k - rb.contents.length = t := by omega
        rw [drained]
        exact recorded
    · cases created

namespace Recorded

variable {k t : Nat} {rb : Ringbuf α} {history : List (Option α)}

/-- What is freed is what is queued, and what is stale. -/
theorem freeRingbuf_perm (recorded : Recorded k (fun _ => none) rb history t) :
    (freeRingbuf rb).reduceOption.Perm
      ((stale k history t).reduceOption ++ (rb.contents.map Prod.fst).reduceOption) := by
  have bounded := recorded.quiescent.bounded
  have ordered := recorded.quiescent.ordered
  have cells := recorded.written.perm
  have cut : history.drop (history.length - 2 ^ k) = stale k history t ++ history.drop t := by
    rw [stale, ← List.drop_append_of_le_length (by rw [List.length_take]; omega),
      List.take_append_drop]
  have never : ((List.range (2 ^ k - history.length)).map fun _ => (none : Option α)).reduceOption =
      [] := by
    rw [List.map_const', List.length_range]
    exact List.filterMap_replicate_of_none rfl
  rw [cut] at cells
  have pointers := cells.filterMap id
  rw [freeRingbuf, recorded.quiescent.capacity, recorded.contents]
  refine pointers.trans (List.Perm.of_eq ?_)
  rw [List.filterMap_append, List.filterMap_append]
  exact (congrArg _ never).trans (List.append_nil _)

/-- Nothing but the queue is freed exactly if only `NULL` is stale. -/
theorem freeRingbuf_perm_iff (recorded : Recorded k (fun _ => none) rb history t) :
    (freeRingbuf rb).reduceOption.Perm (rb.contents.map Prod.fst).reduceOption ↔
      ∀ packet ∈ stale k history t, packet = none := by
  have freed := recorded.freeRingbuf_perm
  have none_iff : (stale k history t).reduceOption = [] ↔
      ∀ packet ∈ stale k history t, packet = none := List.filterMap_eq_nil_iff
  rw [← none_iff]
  constructor
  · intro same
    have length := (freed.symm.trans same).length_eq
    rw [List.length_append] at length
    exact List.eq_nil_of_length_eq_zero (by omega)
  · intro none
    rw [none, List.nil_append] at freed
    exact freed

end Recorded

/-- After any run on a new ring, `free_ringbuf` frees the queued packets, and only these, exactly if
every packet that was popped was `NULL` or has lost its cell to another one; it has after the ring has
been filled up again. Then none is freed twice that is not queued twice. -/
theorem freeRingbuf_exact_iff (k : Nat) (one_le : 1 ≤ k) (le_bits : k ≤ 63) (rb : Ringbuf α)
    (before : List (Option α)) (drained : Nat) (origin : Origin k rb before drained)
    (calls : List (Call (Option α × UInt64) × List Bool)) (fuel : Nat)
    (enough : ∀ c ∈ calls, c.2.length < fuel) :
    ∃ replies after history t, BoundedQueue.runWith (callRingbuf fuel) rb calls =
        some (replies, after) ∧
      history = before ++ (pushed (calls.map Prod.fst) replies).map Prod.fst ∧
      t = drained + popped replies ∧
      ((freeRingbuf after).reduceOption.Perm (after.contents.map Prod.fst).reduceOption ↔
        ∀ packet ∈ stale k history t, packet = none) ∧
      ((∀ packet ∈ stale k history t, packet = none) →
        (after.contents.map Prod.fst).reduceOption.Nodup → (freeRingbuf after).reduceOption.Nodup) ∧
      (t = 0 ∨ after.contents.length = 2 ^ k → ∀ packet ∈ stale k history t, packet = none) := by
  obtain ⟨replies, after, ran, recorded⟩ := (origin.recorded one_le le_bits).run fuel calls enough
  have exact_iff := recorded.freeRingbuf_perm_iff
  refine ⟨replies, after, _, _, ran, rfl, rfl, exact_iff, ?_, ?_⟩
  · intro clean distinct
    exact (exact_iff.mpr clean).nodup_iff.mpr distinct
  · intro kept
    have nothing : stale k (before ++ (pushed (calls.map Prod.fst) replies).map Prod.fst)
        (drained + popped replies) = [] := by
      have ordered := recorded.quiescent.ordered
      rw [recorded.quiescent.contents_length] at kept
      rw [stale, List.drop_eq_nil_iff, List.length_take]
      omega
    rw [nothing]
    exact List.forall_mem_nil _

/-- A new ring of two cells. -/
def newPair : Ringbuf Nat :=
  { size := 2, mask := 1, head := 0, tail := 0
    cells := fun i => if i < 2 then ⟨UInt64.ofNat i, 0, none⟩ else ⟨0, 0, none⟩ }

theorem newPair_created :
    createRingbuf true (some fun _ => ⟨0, 0, none⟩) (UInt64.ofNat (2 ^ 1)) = some newPair := rfl

/-- A packet is pushed and popped, and two more are pushed. -/
def refilled : List (Call (Option Nat × UInt64) × List Bool) :=
  [(.push (some 7, 64), []), (.pop, []), (.push (some 8, 64), []), (.push (some 9, 64), [])]

/-- The ring is full again after that. -/
theorem freeRingbuf_exact_iff_refilled :
    ∃ replies after, BoundedQueue.runWith (callRingbuf 1) newPair refilled = some (replies, after) ∧
      (freeRingbuf after).reduceOption.Perm (after.contents.map Prod.fst).reduceOption := by
  obtain ⟨replies, after, history, t, ran, -, -, exact_iff, -, kept⟩ := freeRingbuf_exact_iff 1
    (by decide) (by decide) newPair [] 0 (.ringbuf newPair_created) refilled 1 (by decide)
  have full : (BoundedQueue.runWith (callRingbuf 1) newPair refilled).map
      (fun result => result.2.contents.length) = some 2 := rfl
  rw [ran] at full
  exact ⟨replies, after, ran, exact_iff.mpr (kept (.inr (Option.some_inj.mp full)))⟩

/-- A packet that was popped and is still in its cell is freed all the same. -/
theorem freeRingbuf_stale :
    ∃ replies after, createRingbuf true (some fun _ => ⟨0, 0, none⟩) 2 = some newPair ∧
      BoundedQueue.runWith (callRingbuf 1) newPair [(.push (some 7, 64), []), (.pop, [])] =
        some (replies, after) ∧
      after.contents = [] ∧ (freeRingbuf after).reduceOption = [7] :=
  ⟨_, _, rfl, rfl, rfl, rfl⟩

end Kpnet.Ring
