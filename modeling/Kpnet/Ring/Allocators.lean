import Kpnet.Ring.History

/-!
# Allocators that run out of memory

`create_allocator.c` for every pattern of allocations that succeed and fail. After a failure the ring is
drained, every buffer in it is freed together with its cell, and the loop goes on with the `NULL` it has
got.
-/
namespace Kpnet.Ring

variable {α : Type}

/-- A ring that holds so many distinct buffers. -/
structure Stocked (memoryNum : Nat) (rb : Ringbuf α) : Prop where
  count : rb.contents.length = memoryNum
  present : ∀ e ∈ rb.contents, e.1 ≠ none
  distinct : (rb.contents.map Prod.fst).Nodup

section Fill

variable {k t : Nat} {initial : Nat → Option α} {rb : Ringbuf α}

/-- Draining pops all that is queued, and keeps the packets in their cells. -/
theorem drainAllocator_recorded {history : List (Option α)} (fuel : Nat) (freed : List (Freed α))
    (recorded : Recorded k initial rb history t) (enough : history.length < t + fuel) :
    ∃ rb' freed', drainAllocator fuel rb freed = some (rb', freed') ∧
      Recorded k initial rb' history history.length := by
  have ordered := recorded.quiescent.ordered
  induction fuel generalizing rb t freed with
  | zero => omega
  | succ fuel ih =>
    by_cases queued : t < history.length
    · obtain ⟨i, mid, returned, next⟩ := recorded.pop queued 1 [] (by decide)
      obtain ⟨rb', freed', drained, last⟩ := ih (freed ++ [.packet (mid.cells i).packet, .cell i]) next
        (by omega) next.quiescent.ordered
      refine ⟨rb', freed', ?_, last⟩
      rw [drainAllocator, returned]
      exact drained
    · have empty : history.length = t := by omega
      refine ⟨rb, freed, ?_, ?_⟩
      · rw [drainAllocator, recorded.quiescent.pop_empty empty 1 [] (by decide)]
      · rw [empty]
        exact recorded

/-- Whatever is allocated is pushed. A failure pops all that came before it, so that the last one is
what the ring starts with. -/
theorem fillAllocator_recorded (alloc : Nat → Option α) (plen : UInt64) (left i : Nat)
    (freed : List (Freed α)) (total : i + left = 2 ^ k)
    (recorded : Recorded k initial rb ((List.range i).map alloc) t) :
    ∃ rb' freed' t', fillAllocator alloc plen left i rb freed = some (rb', freed') ∧
      Recorded k initial rb' ((List.range (2 ^ k)).map alloc) t' ∧
      ((∀ j, i ≤ j → j < 2 ^ k → alloc j ≠ none) → t' = t ∧ freed' = freed) ∧
      ((∃ j, i ≤ j ∧ j < 2 ^ k ∧ alloc j = none) → t' < 2 ^ k ∧ alloc t' = none) := by
  induction left generalizing i rb t freed with
  | zero =>
    have last : i = 2 ^ k := by omega
    refine ⟨rb, freed, t, rfl, last ▸ recorded, fun _ => ⟨rfl, rfl⟩, ?_⟩
    rintro ⟨j, behind, inside, -⟩
    omega
  | succ left ih =>
    have ordered := recorded.quiescent.ordered
    have bounded := recorded.quiescent.bounded
    have size := recorded.quiescent.capacity
    rw [List.length_map, List.length_range] at ordered bounded
    have grown (j : Nat) : (List.range j).map alloc ++ [alloc j] = (List.range (j + 1)).map alloc := by
      rw [List.range_succ, List.map_append, List.map_singleton]
    cases allocated : alloc i with
    | some memory =>
      obtain ⟨mid, pushed, next⟩ := recorded.push (by simp; omega) (some memory) plen 1 [] (by decide)
      rw [← allocated, grown] at next
      obtain ⟨rb', freed', t', filled, last, kept, failed⟩ := ih (i + 1) freed (by omega) next
      refine ⟨rb', freed', t', ?_, last, ?_, ?_⟩
      · rw [fillAllocator, allocated]
        simp only [pushed]
        exact filled
      · intro all
        exact kept fun j behind inside => all j (by omega) inside
      · rintro ⟨j, behind, inside, missing⟩
        have other : j ≠ i := by
          rintro rfl
          rw [allocated] at missing
          cases missing
        exact failed ⟨j, by omega, inside, missing⟩
    | none =>
      obtain ⟨drained, freed₁, returned, empty⟩ := drainAllocator_recorded (rb.size.toNat + 1) freed
        recorded (by rw [List.length_map, List.length_range, size]; omega)
      rw [List.length_map, List.length_range] at empty
      obtain ⟨mid, pushed, next⟩ := empty.push (by simp) none plen 1 [] (by decide)
      rw [← allocated, grown] at next
      obtain ⟨rb', freed', t', filled, last, kept, failed⟩ :=
        ih (i + 1) (freed₁ ++ [.packet none]) (by omega) next
      refine ⟨rb', freed', t', ?_, last, ?_, ?_⟩
      · rw [fillAllocator, allocated]
        simp only [returned, pushed]
        exact filled
      · intro all
        exact absurd allocated (all i (Nat.le_refl i) (by omega))
      · intro _
        by_cases later : ∃ j, i + 1 ≤ j ∧ j < 2 ^ k ∧ alloc j = none
        · exact failed later
        · have stays := (kept fun j behind inside missing => later ⟨j, behind, inside, missing⟩).1
          exact ⟨by omega, by rw [stays]; exact allocated⟩

end Fill

/-- A ring is returned in any case, with all that was allocated in its cells. -/
theorem createAllocator_recorded {k : Nat} (one_le : 1 ≤ k) (le_bits : k ≤ 63)
    (cells : Nat → RingbufCell α) (alloc : Nat → Option α) (cacheline memorySize : UInt64) :
    ∃ rb freed t, createAllocator true (some cells) alloc cacheline memorySize
        (UInt64.ofNat (2 ^ k)) = some (rb, freed) ∧
      Recorded k (fun _ => none) rb ((List.range (2 ^ k)).map alloc) t ∧
      ((∀ j < 2 ^ k, alloc j ≠ none) → t = 0 ∧ freed = []) ∧
      ((∃ j < 2 ^ k, alloc j = none) → t < 2 ^ k ∧ alloc t = none) := by
  have half := size_le_half le_bits
  have length : (UInt64.ofNat (2 ^ k)).toNat = 2 ^ k := Counter.toNat_ofNat_of_lt (by omega)
  simp only [createAllocator, if_true]
  rw [length]
  have empty := initialized_quiescent one_le le_bits cells
  obtain ⟨rb, freed, t, filled, recorded, kept, failed⟩ := fillAllocator_recorded alloc
    (alignUp memorySize cacheline) (2 ^ k) 0 [] (Nat.zero_add _) ⟨empty, .nil fun _ _ => rfl⟩
  refine ⟨rb, freed, t, filled, ⟨recorded.quiescent, ?_⟩, ?_, ?_⟩
  · exact recorded.written.full (by simp) _
  · intro all
    exact kept fun j _ inside => all j inside
  · rintro ⟨j, inside, missing⟩
    exact failed ⟨j, Nat.zero_le j, inside, missing⟩

/-- `create_allocator` returns a ring whenever there is memory for the ring itself, so it would have to
hold every buffer. It does exactly if no allocation fails; after a failure there is a `NULL` in it. Up to
the first failure, buffers that are all in use have different addresses. -/
theorem createAllocator_stocked_iff (k : Nat) (one_le : 1 ≤ k) (le_bits : k ≤ 63)
    (cells : Nat → RingbufCell α) (alloc : Nat → Option α) (cacheline memorySize : UInt64)
    (fresh : ∀ i < 2 ^ k, (∀ j ≤ i, alloc j ≠ none) → ∀ j < i, alloc j ≠ alloc i) :
    ∃ rb freed, createAllocator true (some cells) alloc cacheline memorySize
        (UInt64.ofNat (2 ^ k)) = some (rb, freed) ∧
      (Stocked (2 ^ k) rb ↔ ∀ i < 2 ^ k, alloc i ≠ none) ∧
      ((∀ i < 2 ^ k, alloc i ≠ none) → freed = []) ∧
      ((∃ i < 2 ^ k, alloc i = none) → none ∈ rb.contents.map Prod.fst) := by
  obtain ⟨rb, freed, t, created, recorded, kept, failed⟩ :=
    createAllocator_recorded one_le le_bits cells alloc cacheline memorySize
  have queued := recorded.contents
  have missing : (∃ i < 2 ^ k, alloc i = none) → none ∈ rb.contents.map Prod.fst := by
    intro short
    obtain ⟨inside, null⟩ := failed short
    have first : ((List.range (2 ^ k)).map alloc)[t]? = some none := by simp [inside, null]
    rw [queued]
    apply List.mem_of_getElem? (i := 0)
    rw [List.getElem?_drop, Nat.add_zero, first]
  refine ⟨rb, freed, created, ⟨?_, ?_⟩, fun all => (kept all).2, missing⟩
  · intro stocked i inside null
    obtain ⟨e, member, absent⟩ := List.mem_map.mp (missing ⟨i, inside, null⟩)
    exact stocked.present e member absent
  · intro all
    rw [(kept all).1, List.drop_zero] at queued
    constructor
    case count =>
      have length := congrArg List.length queued
      simpa using length
    case present =>
      intro e member null
      have packet : e.1 ∈ (List.range (2 ^ k)).map alloc := by
        rw [← queued]
        exact List.mem_map_of_mem member
      obtain ⟨i, low, same⟩ := List.mem_map.mp packet
      exact all i (List.mem_range.mp low) (same.trans null)
    case distinct =>
      rw [queued]
      refine List.Nodup.map_on ?_ List.nodup_range
      intro i low j low' same
      rw [List.mem_range] at low low'
      rcases Nat.lt_trichotomy i j with before | equal | behind
      · exact absurd same (fresh j low' (fun l le => all l (by omega)) i before)
      · exact equal
      · exact absurd same.symm (fresh i low (fun l le => all l (by omega)) j behind)

/-- Two buffers, both of them there. -/
theorem createAllocator_stocked_iff_pair :
    ∃ rb freed, createAllocator true (some fun _ => ⟨0, 0, none⟩) some 64 64 2 = some (rb, freed) ∧
      Stocked 2 rb := by
  obtain ⟨rb, freed, created, stocked, -⟩ := createAllocator_stocked_iff 1 (by decide) (by decide)
    (fun _ => ⟨0, 0, none⟩) some 64 64
    (fun i _ _ j before same => by rw [Option.some_inj] at same; omega)
  exact ⟨rb, freed, created, stocked.mpr fun i _ missing => by cases missing⟩

/-- With the second of two allocations failing, a ring with a `NULL` is returned; the first buffer is
freed, and its cell as well, which was not allocated by itself. -/
theorem createAllocator_not_stocked :
    ∃ rb freed, createAllocator true (some fun _ => ⟨0, 0, none⟩)
        (fun i => if i = 0 then some 7 else none) 64 64 2 = some (rb, freed) ∧
      ¬Stocked 2 rb ∧ rb.contents = [(none, 64)] ∧
      freed = [.packet (some 7), .cell 0, .packet none] := by
  refine ⟨_, _, rfl, ?_, rfl, rfl⟩
  intro stocked
  exact stocked.present (none, 64) (List.mem_singleton.mpr rfl) rfl

end Kpnet.Ring
