import Kpnet.Lib.Bytes

/-!
# The packet area

The memory shared with the kernel is cut into chunks. `create_umem_stack.c`,
`umem_stack_pop.c` and `umem_stack_push.c` keep the chunks nobody uses on a stack;
`slab_alloc_64b.c` and `slab_free_64b.c` cut single chunks further into blocks of 64 bytes,
with the freed ones linked through their own first bytes.
-/
namespace Kpnet.Xdp

open Bytes

/-- `umem_stack_t`. -/
structure UmemStack where
  addrs : Nat → UInt64
  top : UInt32
  cap : UInt32

/-- `create_umem_stack`; the two allocations may fail, and the second leaves what it finds
above the chunks. -/
def createUmemStack (stackMalloc : Bool) (addrsMalloc : Option (Nat → UInt64))
    (numChunks chunkSize : UInt32) : Option UmemStack :=
  if stackMalloc then
    match addrsMalloc with
    | none => none
    | some garbage => some {
        addrs := fun i =>
          if i < numChunks.toNat then UInt64.ofNat i * chunkSize.toUInt64 else garbage i
        top := numChunks
        cap := numChunks }
  else none

/-- `umem_stack_pop`; all ones is the empty stack. -/
def umemStackPop (stack : UmemStack) : UInt64 × UmemStack :=
  if stack.top = 0 then (-1, stack)
  else (stack.addrs (stack.top - 1).toNat, { stack with top := stack.top - 1 })

/-- `umem_stack_push`; a full stack drops the address. -/
def umemStackPush (stack : UmemStack) (addr : UInt64) : UmemStack :=
  if stack.top = stack.cap then stack
  else { stack with
    addrs := Function.update stack.addrs stack.top.toNat addr
    top := stack.top + 1 }

/-- `umem_slab_allocator_t`; address 0 is `NULL`. -/
structure UmemSlabAllocator where
  freeList : UInt64
  stack : UmemStack
  curPos : UInt64
  curEnd : UInt64

/-- The block at `cur_pos`. -/
def slabBump (alloc : UmemSlabAllocator) : UInt64 × UmemSlabAllocator :=
  (alloc.curPos, { alloc with curPos := alloc.curPos + 64 })

/-- `slab_alloc_64b`. A freed block starts with the address of the next one. -/
def slabAlloc64b (umemBase : UInt64) (umem : Bytes) (alloc : UmemSlabAllocator) :
    UInt64 × UmemSlabAllocator :=
  if alloc.freeList ≠ 0 then
    (alloc.freeList, { alloc with freeList := u64 umem (alloc.freeList - umemBase).toNat })
  -- the chunk is used up, or there was none yet
  else if alloc.curEnd ≤ alloc.curPos then
    let (offset, stack) := umemStackPop alloc.stack
    if offset = -1 then (0, { alloc with stack := stack })
    else slabBump { alloc with
      stack := stack
      curPos := umemBase + offset
      curEnd := umemBase + offset + 4096 }
  else slabBump alloc

/-- `slab_free_64b`, with the packet area it leaves. -/
def slabFree64b (umemBase : UInt64) (umem : Bytes) (alloc : UmemSlabAllocator) (ptr : UInt64) :
    UmemSlabAllocator × Bytes :=
  ({ alloc with freeList := ptr }, put umem (ptr - umemBase).toNat (le64 alloc.freeList))

namespace UmemStack

/-- The addresses on the stack, the top last. -/
def contents (stack : UmemStack) : List UInt64 := (List.range stack.top.toNat).map stack.addrs

@[simp] theorem length_contents (stack : UmemStack) : stack.contents.length = stack.top.toNat := by
  simp [contents]

end UmemStack

theorem toNat_pos {n : UInt32} (nonzero : n ≠ 0) : 0 < n.toNat :=
  Nat.pos_of_ne_zero fun zero => nonzero (UInt32.toNat_inj.mp zero)

theorem top_pred {top : UInt32} (nonempty : top ≠ 0) : (top - 1).toNat = top.toNat - 1 := by
  have positive : 1 ≤ top.toNat := toNat_pos nonempty
  exact UInt32.toNat_sub_of_le top 1 (UInt32.le_iff_toNat_le.mpr positive)

/-- A pop takes the last address off the stack. -/
theorem umemStackPop_contents (stack : UmemStack) (nonempty : stack.top ≠ 0) :
    stack.contents = (umemStackPop stack).2.contents ++ [(umemStackPop stack).1] := by
  have positive : 0 < stack.top.toNat := toNat_pos nonempty
  simp only [umemStackPop, if_neg nonempty, UmemStack.contents, top_pred nonempty]
  conv => lhs; rw [← Nat.sub_one_add_one_eq_of_pos positive, List.range_succ]
  rw [List.map_append, List.map_singleton]

/-- A push below the capacity puts the address on top. -/
theorem umemStackPush_contents (stack : UmemStack) (addr : UInt64)
    (room : stack.top.toNat < stack.cap.toNat) :
    (umemStackPush stack addr).contents = stack.contents ++ [addr] := by
  have differs : stack.top ≠ stack.cap := by
    intro same
    rw [same] at room
    exact Nat.lt_irrefl _ room
  have bound := stack.cap.toNat_lt
  have count : (stack.top + 1).toNat = stack.top.toNat + 1 := by
    rw [UInt32.toNat_add, UInt32.toNat_one, Nat.mod_eq_of_lt (by omega)]
  simp only [umemStackPush, if_neg differs, UmemStack.contents, count, List.range_succ,
    List.map_append, List.map_singleton, Function.update_self]
  congr 1
  -- what is below the top is not written to
  refine List.map_congr_left fun i member => ?_
  have apart : i ≠ stack.top.toNat := Nat.ne_of_lt (List.mem_range.mp member)
  exact Function.update_of_ne apart addr stack.addrs

/-- A new stack holds the multiples of the chunk size. -/
theorem createUmemStack_contents {stackMalloc : Bool} {addrsMalloc : Option (Nat → UInt64)}
    {numChunks chunkSize : UInt32} {stack : UmemStack}
    (created : createUmemStack stackMalloc addrsMalloc numChunks chunkSize = some stack) :
    stack.top = numChunks ∧ stack.cap = numChunks ∧
    stack.contents = (List.range numChunks.toNat).map fun i =>
      UInt64.ofNat i * chunkSize.toUInt64 := by
  unfold createUmemStack at created
  split at created
  · split at created
    · cases created
    · cases created
      refine ⟨rfl, rfl, List.map_congr_left fun i member => ?_⟩
      exact if_pos (List.mem_range.mp member)
  · cases created

end Kpnet.Xdp
