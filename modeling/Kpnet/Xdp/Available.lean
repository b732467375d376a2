import Kpnet.Lib.Supply
import Kpnet.Xdp.Slab

/-!
# What the slab allocator can still hand out

The blocks that the next calls of `slab_alloc_64b` return. No block in the hands of a client is
among them, an allocation takes one away, and what a client stores in its own block changes
nothing.
-/
namespace Kpnet.Xdp

open Bytes

/-- `slab_alloc_64b` as a supply; `NULL` is no block. -/
def slabNext (umemBase : UInt64) (umem : Bytes) (alloc : UmemSlabAllocator) :
    Option UInt64 × UmemSlabAllocator :=
  let (ptr, alloc) := slabAlloc64b umemBase umem alloc
  (if ptr = 0 then none else some ptr, alloc)

/-- The blocks that `slab_alloc_64b` can still hand out. -/
def slabAvailable (umemBase : UInt64) (umem : Bytes) (alloc : UmemSlabAllocator) : Set UInt64 :=
  Supply.available (slabNext umemBase umem) alloc

namespace Slabbed

variable {umemBase : UInt64} {stack : UmemStack} {popped : List UInt64} {s : SlabSystem}
  {free : List UInt64} {p : UInt64}

/-- A block stays live while others are handed out. -/
theorem stays_live (mapped : Mapped umemBase stack)
    (inv : Slabbed umemBase stack popped s free) (held : p ∈ s.live) :
    ∃ popped' free' live', p ∈ live' ∧ Slabbed umemBase stack popped'
      ⟨(slabAlloc64b umemBase s.umem s.alloc).2, s.umem, live'⟩ free' := by
  obtain ⟨⟨popped', free', inv'⟩, -⟩ := inv.allocated mapped
  refine ⟨popped', free', _, ?_, inv'⟩
  split
  · exact held
  · exact List.mem_cons_of_mem _ held

theorem live_notMem (mapped : Mapped umemBase stack)
    (inv : Slabbed umemBase stack popped s free) (held : p ∈ s.live) :
    p ∉ slabAvailable umemBase s.umem s.alloc := by
  refine Supply.notMem_available (fun alloc => ∃ popped free live, p ∈ live ∧
    Slabbed umemBase stack popped ⟨alloc, s.umem, live⟩ free) ?_ ?_
    ⟨popped, free, s.live, held, inv⟩
  · rintro alloc ⟨popped, free, live, held, inv⟩ again
    obtain ⟨⟨popped', free', inv'⟩, -⟩ := inv.allocated mapped
    simp only [slabNext] at again
    split at again
    · cases again
    next given =>
      -- the block would be live twice
      rw [Option.some_inj] at again
      rw [if_neg given, again] at inv'
      have once := (List.nodup_append.mp inv'.nodup).1
      exact (List.nodup_cons.mp once).1 held
  · rintro alloc ⟨popped, free, live, held, inv⟩
    exact inv.stays_live mapped held

/-- An allocation takes one block away. -/
theorem available_of_block (mapped : Mapped umemBase stack)
    (inv : Slabbed umemBase stack popped s free)
    (given : (slabAlloc64b umemBase s.umem s.alloc).1 ≠ 0) :
    slabAvailable umemBase s.umem s.alloc =
      insert (slabAlloc64b umemBase s.umem s.alloc).1
        (slabAvailable umemBase s.umem (slabAlloc64b umemBase s.umem s.alloc).2) ∧
    (slabAlloc64b umemBase s.umem s.alloc).1 ∉
      slabAvailable umemBase s.umem (slabAlloc64b umemBase s.umem s.alloc).2 := by
  constructor
  · have next : (slabNext umemBase s.umem s.alloc).1 = some _ := if_neg given
    exact Supply.available_of_some next
  · obtain ⟨⟨popped', free', inv'⟩, -⟩ := inv.allocated mapped
    rw [if_neg given] at inv'
    exact inv'.live_notMem mapped List.mem_cons_self

/-- A failed allocation changes nothing, and there is nothing left. -/
theorem available_of_null (mapped : Mapped umemBase stack)
    (inv : Slabbed umemBase stack popped s free)
    (null : (slabAlloc64b umemBase s.umem s.alloc).1 = 0) :
    (slabAlloc64b umemBase s.umem s.alloc).2 = s.alloc ∧
    slabAvailable umemBase s.umem s.alloc = ∅ := by
  obtain ⟨empty, exhausted, drained⟩ := (inv.allocated mapped).2 null
  have same : (slabAlloc64b umemBase s.umem s.alloc).2 = s.alloc := by
    rw [slabAlloc64b, if_neg (not_not.mpr empty), if_pos exhausted, umemStackPop, if_pos drained]
    rfl
  have next : (slabNext umemBase s.umem s.alloc).1 = none := if_pos null
  exact ⟨same, Supply.available_of_none next same⟩

/-- A store into a live block misses the free ones. -/
theorem store_apart (mapped : Mapped umemBase stack)
    (inv : Slabbed umemBase stack popped s free) (held : p ∈ s.live) {offset : Nat}
    {bytes : List UInt8} (above : (p - umemBase).toNat ≤ offset)
    (inside : offset + bytes.length ≤ (p - umemBase).toNat + 64) :
    ∀ q ∈ free, u64 (put s.umem offset bytes) (q - umemBase).toNat =
      u64 s.umem (q - umemBase).toNat := by
  intro q member
  obtain ⟨off, taken, block⟩ := inv.blocks p (List.mem_append_left free held)
  obtain ⟨off', taken', block'⟩ := inv.blocks q (List.mem_append_right s.live member)
  have differ : p ≠ q := by
    rintro rfl
    exact (List.nodup_append.mp inv.nodup).2.2 p held p member rfl
  have apart := block.apart mapped (inv.mem_stack taken) (inv.mem_stack taken') block' differ
  obtain ⟨-, start, low, -⟩ := block.offset mapped (inv.mem_stack taken)
  obtain ⟨-, start', low', -⟩ := block'.offset mapped (inv.mem_stack taken')
  exact u64_put_of_disjoint _ _ _ _ (by omega)

theorem store_live (mapped : Mapped umemBase stack)
    (inv : Slabbed umemBase stack popped s free) (held : p ∈ s.live) {offset : Nat}
    {bytes : List UInt8} (above : (p - umemBase).toNat ≤ offset)
    (inside : offset + bytes.length ≤ (p - umemBase).toNat + 64) :
    Slabbed umemBase stack popped { s with umem := put s.umem offset bytes } free :=
  ⟨inv.stack, inv.linked.congr (inv.store_apart mapped held above inside), inv.nodup, inv.blocks,
    inv.tail, inv.behind⟩

theorem slabAlloc64b_store (mapped : Mapped umemBase stack)
    (inv : Slabbed umemBase stack popped s free) (held : p ∈ s.live) {offset : Nat}
    {bytes : List UInt8} (above : (p - umemBase).toNat ≤ offset)
    (inside : offset + bytes.length ≤ (p - umemBase).toNat + 64) :
    slabAlloc64b umemBase (put s.umem offset bytes) s.alloc =
      slabAlloc64b umemBase s.umem s.alloc := by
  unfold slabAlloc64b
  by_cases filled : s.alloc.freeList ≠ 0
  · -- the only bytes that are read are those of a free block
    have first : s.alloc.freeList ∈ free := by
      cases free with
      | nil => exact absurd inv.linked filled
      | cons q free =>
        rw [inv.linked.1]
        exact List.mem_cons_self
    rw [if_pos filled, if_pos filled, inv.store_apart mapped held above inside _ first]
  · rw [if_neg filled, if_neg filled]

theorem available_store (mapped : Mapped umemBase stack)
    (inv : Slabbed umemBase stack popped s free) (held : p ∈ s.live) {offset : Nat}
    {bytes : List UInt8} (above : (p - umemBase).toNat ≤ offset)
    (inside : offset + bytes.length ≤ (p - umemBase).toNat + 64) :
    slabAvailable umemBase (put s.umem offset bytes) s.alloc =
      slabAvailable umemBase s.umem s.alloc := by
  refine Supply.available_eq_of_simulates (fun alloc alloc' => alloc = alloc' ∧
    ∃ popped free live, p ∈ live ∧ Slabbed umemBase stack popped ⟨alloc, s.umem, live⟩ free)
    ?_ ?_ ⟨rfl, popped, free, s.live, held, inv⟩
  · rintro alloc _ ⟨rfl, popped, free, live, held, inv⟩
    have same := inv.slabAlloc64b_store mapped held above inside
    simp only [slabNext, same]
  · rintro alloc _ ⟨rfl, popped, free, live, held, inv⟩
    have same := inv.slabAlloc64b_store mapped held above inside
    simp only [slabNext, same]
    exact ⟨trivial, inv.stays_live mapped held⟩

end Slabbed

end Kpnet.Xdp
