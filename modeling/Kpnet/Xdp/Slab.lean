import Kpnet.Lib.Runs
import Kpnet.Xdp.Umem

/-!
# Blocks of the slab allocator

The blocks that `slab_alloc_64b` has handed out, the freed ones that are linked through
their first bytes, and the rest of the chunk it is cutting up never overlap, in any order
of allocations and frees, as long as clients free what they hold and write to no freed
block.
-/
namespace Kpnet.Xdp

open Bytes
open Runs

/-- The allocator, the packet area, and the blocks in the hands of the clients. -/
structure SlabSystem where
  alloc : UmemSlabAllocator
  umem : Bytes
  live : List UInt64

inductive SlabAction where
  | alloc
  | free (ptr : UInt64)
  | write (offset : Nat) (bytes : List UInt8)

/-- What an allocation returned, and the allocator it was asked of. -/
structure Allocation where
  ptr : UInt64
  before : UmemSlabAllocator

/-- One call, or a store of a client into the packet area. -/
def slabAct (umemBase : UInt64) (s : SlabSystem) :
    SlabAction → Option (SlabSystem × List Allocation)
  | .alloc =>
    let (ptr, alloc) := slabAlloc64b umemBase s.umem s.alloc
    some ({ s with alloc := alloc, live := if ptr = 0 then s.live else ptr :: s.live },
      [⟨ptr, s.alloc⟩])
  | .free ptr =>
    let (alloc, umem) := slabFree64b umemBase s.umem s.alloc ptr
    some ({ alloc := alloc, umem := umem, live := s.live.erase ptr }, [])
  | .write offset bytes => some ({ s with umem := put s.umem offset bytes }, [])

/-- The free list: every block starts with the address of the next, the last with `NULL`. -/
def Linked (umemBase : UInt64) (umem : Bytes) : UInt64 → List UInt64 → Prop
  | head, [] => head = 0
  | head, p :: free => head = p ∧ p ≠ 0 ∧ Linked umemBase umem (u64 umem (p - umemBase).toNat) free

/-- Clients free live blocks only, and write to none that is on the free list. -/
def ProperUse (umemBase : UInt64) (s : SlabSystem) : SlabAction → Prop
  | .alloc => True
  | .free ptr => ptr ∈ s.live
  | .write offset bytes => ∀ free, Linked umemBase s.umem s.alloc.freeList free → ∀ p ∈ free,
      offset + bytes.length ≤ (p - umemBase).toNat ∨ (p - umemBase).toNat + 64 ≤ offset

/-- A stack of distinct chunks of a packet area that is mapped at `umemBase`: the area does
not contain the null address and does not reach the end of the address space. -/
structure Mapped (umemBase : UInt64) (stack : UmemStack) : Prop where
  base : 0 < umemBase.toNat
  distinct : stack.contents.Nodup
  aligned : ∀ off ∈ stack.contents, 4096 ∣ off.toNat
  inside : ∀ off ∈ stack.contents, umemBase.toNat + off.toNat + 4096 < 2 ^ 64

/-- A block of a chunk. -/
def BlockOf (umemBase off p : UInt64) : Prop :=
  ∃ j < 64, p.toNat = umemBase.toNat + off.toNat + 64 * j

/-- What is left of the chunk that is being cut up; there is none at first. -/
def TailOf (umemBase : UInt64) (popped : List UInt64) (curPos curEnd : UInt64) : Prop :=
  (curPos.toNat = 0 ∧ curEnd.toNat = 0) ∨
  ∃ off ∈ popped, ∃ j ≤ 64, curPos.toNat = umemBase.toNat + off.toNat + 64 * j ∧
    curEnd.toNat = umemBase.toNat + off.toNat + 4096

/-- The allocator after any number of calls; `popped` are the chunks it has taken, `free` is
its free list. -/
structure Slabbed (umemBase : UInt64) (stack : UmemStack) (popped : List UInt64)
    (s : SlabSystem) (free : List UInt64) : Prop where
  stack : stack.contents = s.alloc.stack.contents ++ popped
  linked : Linked umemBase s.umem s.alloc.freeList free
  nodup : (s.live ++ free).Nodup
  blocks : ∀ p ∈ s.live ++ free, ∃ off ∈ popped, BlockOf umemBase off p
  tail : TailOf umemBase popped s.alloc.curPos s.alloc.curEnd
  behind : ∀ p ∈ s.live ++ free,
    p.toNat < s.alloc.curPos.toNat ∨ s.alloc.curEnd.toNat ≤ p.toNat

section

variable {umemBase : UInt64} {stack : UmemStack}

/-- The free list is what the first bytes of its blocks say. -/
theorem Linked.congr {umem umem' : Bytes} {head : UInt64} {free : List UInt64}
    (linked : Linked umemBase umem head free)
    (same : ∀ p ∈ free, u64 umem' (p - umemBase).toNat = u64 umem (p - umemBase).toNat) :
    Linked umemBase umem' head free := by
  induction free generalizing head with
  | nil => exact linked
  | cons p free ih =>
    obtain ⟨first, nonzero, rest⟩ := linked
    refine ⟨first, nonzero, ?_⟩
    rw [same p List.mem_cons_self]
    exact ih rest fun q member => same q (List.mem_cons_of_mem p member)

/-- Where a block of a mapped chunk is, from the base of the packet area. -/
theorem BlockOf.offset (mapped : Mapped umemBase stack) {off p : UInt64}
    (member : off ∈ stack.contents) (block : BlockOf umemBase off p) :
    p ≠ 0 ∧ (p - umemBase).toNat = p.toNat - umemBase.toNat ∧ umemBase.toNat ≤ p.toNat ∧
      64 ∣ p.toNat - umemBase.toNat := by
  obtain ⟨j, small, address⟩ := block
  have base := mapped.base
  have aligned := mapped.aligned off member
  refine ⟨?_, ?_, by omega, by omega⟩
  · rintro rfl
    rw [UInt64.toNat_zero] at address
    omega
  · exact UInt64.toNat_sub_of_le p umemBase (UInt64.le_iff_toNat_le.mpr (by omega))

/-- Blocks at different addresses do not overlap. -/
theorem BlockOf.apart (mapped : Mapped umemBase stack) {off off' p q : UInt64}
    (member : off ∈ stack.contents) (member' : off' ∈ stack.contents)
    (block : BlockOf umemBase off p) (block' : BlockOf umemBase off' q) (differ : p ≠ q) :
    p.toNat + 64 ≤ q.toNat ∨ q.toNat + 64 ≤ p.toNat := by
  obtain ⟨-, -, above, aligned⟩ := block.offset mapped member
  obtain ⟨-, -, above', aligned'⟩ := block'.offset mapped member'
  have distinct : p.toNat ≠ q.toNat := fun same => differ (UInt64.toNat_inj.mp same)
  omega

/-- Different chunks do not overlap. -/
theorem Mapped.chunks_apart (mapped : Mapped umemBase stack) {off off' : UInt64}
    (member : off ∈ stack.contents) (member' : off' ∈ stack.contents) (differ : off ≠ off') :
    off.toNat + 4096 ≤ off'.toNat ∨ off'.toNat + 4096 ≤ off.toNat := by
  have aligned := mapped.aligned off member
  have aligned' := mapped.aligned off' member'
  have distinct : off.toNat ≠ off'.toNat := fun same => differ (UInt64.toNat_inj.mp same)
  omega

end

namespace Slabbed

variable {umemBase : UInt64} {stack : UmemStack} {popped : List UInt64} {s : SlabSystem}
  {free : List UInt64}

theorem mem_stack (inv : Slabbed umemBase stack popped s free) {off : UInt64}
    (taken : off ∈ popped) : off ∈ stack.contents := by
  rw [inv.stack]
  exact List.mem_append_right _ taken

/-- A block is cut off a chunk that is not used up. -/
theorem bump (mapped : Mapped umemBase stack) (inv : Slabbed umemBase stack popped s free)
    (room : s.alloc.curPos.toNat < s.alloc.curEnd.toNat) :
    (slabBump s.alloc).1 ≠ 0 ∧ Slabbed umemBase stack popped
      { s with alloc := (slabBump s.alloc).2, live := s.alloc.curPos :: s.live } free := by
  rcases inv.tail with ⟨-, zero⟩ | ⟨off, taken, j, -, start, stop⟩
  · omega
  · have inside := mapped.inside off (inv.mem_stack taken)
    have base := mapped.base
    have block : BlockOf umemBase off s.alloc.curPos := ⟨j, by omega, start⟩
    have next : (s.alloc.curPos + 64).toNat = s.alloc.curPos.toNat + 64 := by
      have step : (64 : UInt64).toNat = 64 := rfl
      rw [UInt64.toNat_add, step, Nat.mod_eq_of_lt (by omega)]
    -- every block handed out lies before `cur_pos` or behind `cur_end`
    have unused : s.alloc.curPos ∉ s.live ++ free := by
      intro used
      have before := inv.behind _ used
      omega
    refine ⟨(block.offset mapped (inv.mem_stack taken)).1, ?_⟩
    exact {
      stack := inv.stack
      linked := inv.linked
      nodup := List.nodup_cons.mpr ⟨unused, inv.nodup⟩
      blocks := fun p member => by
        rcases List.mem_cons.mp member with rfl | old
        · exact ⟨off, taken, block⟩
        · exact inv.blocks p old
      tail := .inr ⟨off, taken, j + 1, by omega, by
        simp only [slabBump, next]
        omega, stop⟩
      behind := fun p member => by
        simp only [slabBump, next]
        rcases List.mem_cons.mp member with rfl | old
        · omega
        · have before := inv.behind p old
          omega }

/-- A new chunk is taken off the stack once the old one is used up. -/
theorem refill (mapped : Mapped umemBase stack) (inv : Slabbed umemBase stack popped s free)
    (nonempty : s.alloc.stack.top ≠ 0) :
    (umemStackPop s.alloc.stack).1 ≠ -1 ∧
    (umemBase + (umemStackPop s.alloc.stack).1).toNat <
      (umemBase + (umemStackPop s.alloc.stack).1 + 4096).toNat ∧
    Slabbed umemBase stack ((umemStackPop s.alloc.stack).1 :: popped)
      { s with alloc := { s.alloc with
          stack := (umemStackPop s.alloc.stack).2
          curPos := umemBase + (umemStackPop s.alloc.stack).1
          curEnd := umemBase + (umemStackPop s.alloc.stack).1 + 4096 } } free := by
  have contents := umemStackPop_contents s.alloc.stack nonempty
  generalize umemStackPop s.alloc.stack = result at contents ⊢
  obtain ⟨off, rest⟩ := result
  dsimp only at contents ⊢
  -- the top of the stack joins the chunks taken before
  have cut : stack.contents = rest.contents ++ off :: popped := by
    rw [inv.stack, contents, List.append_assoc, List.singleton_append]
  have member : off ∈ stack.contents := by simp [cut]
  have inside := mapped.inside off member
  have start : (umemBase + off).toNat = umemBase.toNat + off.toNat := by
    rw [UInt64.toNat_add, Nat.mod_eq_of_lt (by omega)]
  have stop : (umemBase + off + 4096).toNat = umemBase.toNat + off.toNat + 4096 := by
    have size : (4096 : UInt64).toNat = 4096 := rfl
    rw [UInt64.toNat_add, start, size, Nat.mod_eq_of_lt (by omega)]
  refine ⟨?_, by omega, ?_⟩
  · -- a chunk at the end of the address space would look like the empty stack
    rintro rfl
    have ones : (-1 : UInt64).toNat = 2 ^ 64 - 1 := rfl
    omega
  · refine ⟨cut, inv.linked, inv.nodup, ?_, ?_, ?_⟩
    · intro p used
      obtain ⟨off', taken, block⟩ := inv.blocks p used
      exact ⟨off', List.mem_cons_of_mem off taken, block⟩
    · exact .inr ⟨off, List.mem_cons_self, 0, Nat.zero_le _, by simp [start], by simp [stop]⟩
    · intro p used
      obtain ⟨off', taken, j, small, address⟩ := inv.blocks p used
      -- no chunk comes off the stack twice
      have differ : off ≠ off' := by
        rintro rfl
        have distinct := mapped.distinct
        rw [cut] at distinct
        exact (List.nodup_cons.mp (List.nodup_append.mp distinct).2.1).1 taken
      have apart := mapped.chunks_apart member (inv.mem_stack taken) differ
      dsimp only
      omega

/-- One call of `slab_alloc_64b`. A null pointer means that nothing was left. -/
theorem allocated (mapped : Mapped umemBase stack) (inv : Slabbed umemBase stack popped s free) :
    (∃ popped' free', Slabbed umemBase stack popped'
      { s with
        alloc := (slabAlloc64b umemBase s.umem s.alloc).2
        live := if (slabAlloc64b umemBase s.umem s.alloc).1 = 0 then s.live
          else (slabAlloc64b umemBase s.umem s.alloc).1 :: s.live } free') ∧
    ((slabAlloc64b umemBase s.umem s.alloc).1 = 0 →
      s.alloc.freeList = 0 ∧ s.alloc.curEnd ≤ s.alloc.curPos ∧ s.alloc.stack.top = 0) := by
  by_cases filled : s.alloc.freeList ≠ 0
  · -- the first block of the free list becomes live
    have taken : slabAlloc64b umemBase s.umem s.alloc = (s.alloc.freeList,
        { s.alloc with freeList := u64 s.umem (s.alloc.freeList - umemBase).toNat }) := by
      rw [slabAlloc64b, if_pos filled]
    rw [taken]
    refine ⟨?_, fun null => absurd null filled⟩
    rw [if_neg filled]
    cases free with
    | nil => exact absurd inv.linked filled
    | cons p free =>
      obtain ⟨rfl, -, rest⟩ := inv.linked
      have moved : (s.live ++ s.alloc.freeList :: free).Perm
          (s.alloc.freeList :: s.live ++ free) := List.perm_middle
      refine ⟨popped, free, inv.stack, rest, moved.nodup_iff.mp inv.nodup,
        fun p member => ?_, inv.tail, fun p member => ?_⟩
      · exact inv.blocks p (moved.mem_iff.mpr member)
      · exact inv.behind p (moved.mem_iff.mpr member)
  · have empty : s.alloc.freeList = 0 := not_not.mp filled
    by_cases exhausted : s.alloc.curEnd ≤ s.alloc.curPos
    · -- the current chunk is used up, and there may be another one
      by_cases drained : s.alloc.stack.top = 0
      · have nothing : slabAlloc64b umemBase s.umem s.alloc = (0, s.alloc) := by
          rw [slabAlloc64b, if_neg filled, if_pos exhausted, umemStackPop, if_pos drained]
          rfl
        rw [nothing]
        exact ⟨⟨popped, free, inv⟩, fun _ => ⟨empty, exhausted, drained⟩⟩
      · obtain ⟨proper, room, refilled⟩ := inv.refill mapped drained
        obtain ⟨nonzero, bumped⟩ := refilled.bump mapped room
        have cut : slabAlloc64b umemBase s.umem s.alloc = slabBump { s.alloc with
            stack := (umemStackPop s.alloc.stack).2
            curPos := umemBase + (umemStackPop s.alloc.stack).1
            curEnd := umemBase + (umemStackPop s.alloc.stack).1 + 4096 } := by
          rw [slabAlloc64b, if_neg filled, if_pos exhausted]
          exact if_neg proper
        rw [cut]
        refine ⟨⟨(umemStackPop s.alloc.stack).1 :: popped, free, ?_⟩,
          fun null => absurd null nonzero⟩
        rw [if_neg nonzero]
        exact bumped
    · -- a block is left in the current chunk
      have room : s.alloc.curPos.toNat < s.alloc.curEnd.toNat :=
        UInt64.lt_iff_toNat_lt.mp (UInt64.not_le.mp exhausted)
      obtain ⟨nonzero, bumped⟩ := inv.bump mapped room
      have cut : slabAlloc64b umemBase s.umem s.alloc = slabBump s.alloc := by
        rw [slabAlloc64b, if_neg filled, if_neg exhausted]
      rw [cut]
      refine ⟨⟨popped, free, ?_⟩, fun null => absurd null nonzero⟩
      rw [if_neg nonzero]
      exact bumped

/-- One call of `slab_free_64b`: the block becomes the first of the free list. -/
theorem freed (mapped : Mapped umemBase stack) (inv : Slabbed umemBase stack popped s free)
    {ptr : UInt64} (held : ptr ∈ s.live) :
    Slabbed umemBase stack popped
      { alloc := (slabFree64b umemBase s.umem s.alloc ptr).1
        umem := (slabFree64b umemBase s.umem s.alloc ptr).2
        live := s.live.erase ptr } (ptr :: free) := by
  -- the block changes sides, and all that is said of blocks is said of both sides together
  have moved : (s.live ++ free).Perm (s.live.erase ptr ++ ptr :: free) := by
    refine ((List.perm_cons_erase held).append_right free).trans ?_
    exact List.perm_middle.symm
  have nodup := moved.nodup_iff.mp inv.nodup
  obtain ⟨off, taken, block⟩ := inv.blocks ptr (List.mem_append_left free held)
  obtain ⟨nonzero, offset, above, -⟩ := block.offset mapped (inv.mem_stack taken)
  refine ⟨inv.stack, ⟨rfl, nonzero, ?_⟩, nodup,
    fun p member => inv.blocks p (moved.mem_iff.mpr member), inv.tail,
    fun p member => inv.behind p (moved.mem_iff.mpr member)⟩
  simp only [slabFree64b, u64_put_self]
  refine inv.linked.congr fun q member => ?_
  -- the store stays inside of the block that is freed
  obtain ⟨off', taken', block'⟩ := inv.blocks q (List.mem_append_right _ member)
  obtain ⟨-, offset', above', -⟩ := block'.offset mapped (inv.mem_stack taken')
  have differ : ptr ≠ q := by
    rintro rfl
    exact (List.nodup_cons.mp (List.nodup_append.mp nodup).2.1).1 member
  have apart := block.apart mapped (inv.mem_stack taken) (inv.mem_stack taken') block' differ
  refine u64_put_of_disjoint _ _ _ _ ?_
  rw [length_le64, offset, offset']
  omega

/-- A store of a client away from the free list. -/
theorem written (inv : Slabbed umemBase stack popped s free) {offset : Nat} {bytes : List UInt8}
    (proper : ProperUse umemBase s (.write offset bytes)) :
    Slabbed umemBase stack popped { s with umem := put s.umem offset bytes } free := by
  refine ⟨inv.stack, ?_, inv.nodup, inv.blocks, inv.tail, inv.behind⟩
  refine inv.linked.congr fun p member => ?_
  have apart := proper free inv.linked p member
  exact u64_put_of_disjoint _ _ _ _ (by omega)

/-- Live and free blocks do not overlap. -/
theorem pairwise_apart (mapped : Mapped umemBase stack)
    (inv : Slabbed umemBase stack popped s free) :
    (s.live ++ free).Pairwise (fun p q => p.toNat + 64 ≤ q.toNat ∨ q.toNat + 64 ≤ p.toNat) := by
  refine List.pairwise_iff_forall_sublist.mpr fun {p q} order => ?_
  have both := order.subset
  obtain ⟨off, here, block⟩ := inv.blocks p (both (by simp))
  obtain ⟨off', here', block'⟩ := inv.blocks q (both (by simp))
  refine block.apart mapped (inv.mem_stack here) (inv.mem_stack here') block' ?_
  rintro rfl
  exact (List.nodup_iff_sublist.mp inv.nodup) p order

/-- A block does not reach into the rest of the current chunk. -/
theorem apart_rest (mapped : Mapped umemBase stack) (inv : Slabbed umemBase stack popped s free)
    {p : UInt64} (member : p ∈ s.live ++ free) :
    p.toNat + 64 ≤ s.alloc.curPos.toNat ∨ s.alloc.curEnd.toNat ≤ p.toNat := by
  obtain ⟨off, here, block⟩ := inv.blocks p member
  obtain ⟨-, -, above, aligned⟩ := block.offset mapped (inv.mem_stack here)
  rcases inv.behind p member with before | after
  · rcases inv.tail with ⟨zero, -⟩ | ⟨off', here', j', -, start, -⟩
    · -- there is no current chunk yet, and nothing is before address 0
      omega
    · -- both are a multiple of 64 above the base
      have chunk := mapped.aligned off' (inv.mem_stack here')
      omega
  · exact .inr after

end Slabbed

/-- `kpnet_env_init` leaves the allocator without blocks, on top of its stack. -/
def SlabSystem.initial (stack : UmemStack) (umem : Bytes) : SlabSystem :=
  { alloc := { freeList := 0, stack := stack, curPos := 0, curEnd := 0 }
    umem := umem
    live := [] }

/-- An allocation that failed was asked of an allocator with nothing left. -/
def Allocation.Excused (a : Allocation) : Prop :=
  a.ptr = 0 → a.before.freeList = 0 ∧ a.before.curEnd ≤ a.before.curPos ∧ a.before.stack.top = 0

theorem slabbed_initial (umemBase : UInt64) (stack : UmemStack) (umem : Bytes) :
    Slabbed umemBase stack [] (.initial stack umem) [] :=
  ⟨(List.append_nil _).symm, rfl, List.nodup_nil, by simp [SlabSystem.initial],
    .inl ⟨rfl, rfl⟩, by simp [SlabSystem.initial]⟩

/-- One call, or one store of a client. -/
theorem Slabbed.step {umemBase : UInt64} {stack : UmemStack} {popped free : List UInt64}
    {s after : SlabSystem} {action : SlabAction} {ev : List Allocation}
    (mapped : Mapped umemBase stack) (inv : Slabbed umemBase stack popped s free)
    (proper : ProperUse umemBase s action)
    (stepped : slabAct umemBase s action = some (after, ev)) :
    (∃ popped' free', Slabbed umemBase stack popped' after free') ∧ ∀ a ∈ ev, a.Excused := by
  cases action with
  | alloc =>
    obtain ⟨inv', null⟩ := inv.allocated mapped
    simp only [slabAct, Option.some.injEq, Prod.mk.injEq] at stepped
    obtain ⟨rfl, rfl⟩ := stepped
    refine ⟨inv', fun a member => ?_⟩
    rw [List.mem_singleton.mp member]
    exact null
  | free ptr =>
    cases stepped
    refine ⟨⟨popped, _, inv.freed mapped proper⟩, ?_⟩
    intro a member
    cases member
  | write offset bytes =>
    cases stepped
    refine ⟨⟨popped, free, inv.written proper⟩, ?_⟩
    intro a member
    cases member

theorem run_slabbed {umemBase : UInt64} {stack : UmemStack} (mapped : Mapped umemBase stack)
    {umem : Bytes} {actions : List SlabAction} {s : SlabSystem} {log : List Allocation}
    (ran : run (slabAct umemBase) (.initial stack umem) actions = some (s, log))
    (proper : Along (slabAct umemBase) (ProperUse umemBase) (.initial stack umem) actions) :
    (∃ popped free, Slabbed umemBase stack popped s free) ∧ ∀ a ∈ log, a.Excused := by
  refine run_induction (slabAct umemBase) (ProperUse umemBase) (.initial stack umem)
    (fun _ s log => (∃ popped free, Slabbed umemBase stack popped s free) ∧ ∀ a ∈ log, a.Excused)
    ?_ ?_ actions s log ran proper
  · exact ⟨⟨[], [], slabbed_initial umemBase stack umem⟩, by simp⟩
  · rintro _ action mid log after ev _ ⟨⟨popped, free, inv⟩, excused⟩ allowed stepped
    obtain ⟨kept, new⟩ := inv.step mapped allowed stepped
    refine ⟨kept, fun a member => ?_⟩
    rcases List.mem_append.mp member with old | last
    · exact excused a old
    · exact new a last

/-- After any calls in any order: the free list ends, and the live blocks, the free ones and
the rest of the current chunk are disjoint, aligned parts of chunks that were popped. An
allocation has failed only when there was nothing left. -/
theorem slab_blocks_disjoint (umemBase : UInt64) (stack : UmemStack)
    (mapped : Mapped umemBase stack) (umem : Bytes) (actions : List SlabAction) (s : SlabSystem)
    (log : List Allocation)
    (ran : run (slabAct umemBase) (.initial stack umem) actions = some (s, log))
    (proper : Along (slabAct umemBase) (ProperUse umemBase) (.initial stack umem) actions) :
    (∃ free, Linked umemBase s.umem s.alloc.freeList free ∧ (s.live ++ free).Nodup ∧
      (s.live ++ free).Pairwise
        (fun p q => p.toNat + 64 ≤ q.toNat ∨ q.toNat + 64 ≤ p.toNat) ∧
      (∀ p ∈ s.live ++ free,
        (p.toNat + 64 ≤ s.alloc.curPos.toNat ∨ s.alloc.curEnd.toNat ≤ p.toNat) ∧
        64 ∣ p.toNat - umemBase.toNat ∧
        ∃ off ∈ stack.contents.drop s.alloc.stack.top.toNat,
          umemBase.toNat + off.toNat ≤ p.toNat ∧
          p.toNat + 64 ≤ umemBase.toNat + off.toNat + 4096)) ∧
    (s.alloc.curPos < s.alloc.curEnd → 64 ∣ s.alloc.curPos.toNat - umemBase.toNat ∧
      ∃ off ∈ stack.contents.drop s.alloc.stack.top.toNat,
        umemBase.toNat + off.toNat ≤ s.alloc.curPos.toNat ∧
        s.alloc.curEnd.toNat = umemBase.toNat + off.toNat + 4096) ∧
    ∀ a ∈ log, a.ptr = 0 →
      a.before.freeList = 0 ∧ a.before.curEnd ≤ a.before.curPos ∧ a.before.stack.top = 0 := by
  obtain ⟨⟨popped, free, inv⟩, nulls⟩ := run_slabbed mapped ran proper
  -- the chunks taken are those that the stack has lost
  have taken : stack.contents.drop s.alloc.stack.top.toNat = popped := by
    rw [inv.stack, ← UmemStack.length_contents, List.drop_left]
  rw [taken]
  refine ⟨⟨free, inv.linked, inv.nodup, inv.pairwise_apart mapped, ?_⟩, ?_, nulls⟩
  · intro p member
    obtain ⟨off, here, block⟩ := inv.blocks p member
    obtain ⟨-, -, -, aligned⟩ := block.offset mapped (inv.mem_stack here)
    obtain ⟨j, small, address⟩ := block
    exact ⟨inv.apart_rest mapped member, aligned, off, here, by omega, by omega⟩
  · intro room
    have room := UInt64.lt_iff_toNat_lt.mp room
    rcases inv.tail with ⟨-, zero⟩ | ⟨off, here, j, -, start, stop⟩
    · omega
    · have chunk := mapped.aligned off (inv.mem_stack here)
      exact ⟨by omega, off, here, by omega, stop⟩

/-- A stack of a single chunk. -/
def oneChunk : UmemStack := ⟨fun _ => 8192, 1, 1⟩

theorem mapped_oneChunk : Mapped 65536 oneChunk := by
  have only (off : UInt64) (member : off ∈ oneChunk.contents) : off = 8192 :=
    List.mem_singleton.mp member
  refine ⟨by decide, by decide, ?_, ?_⟩
  · intro off member
    rw [only off member]
    decide
  · intro off member
    rw [only off member]
    decide

/-- The second block is freed and handed out again. -/
def reuse : List SlabAction := [.alloc, .alloc, .free 73792, .alloc]

theorem slab_blocks_disjoint_reuse : ∃ s log,
    run (slabAct 65536) (.initial oneChunk fun _ => 0) reuse = some (s, log) ∧
    s.live = [73792, 73728] ∧
    ∃ free, Linked 65536 s.umem s.alloc.freeList free ∧ (s.live ++ free).Nodup := by
  have seen : (run (slabAct 65536) (.initial oneChunk fun _ => 0) reuse).map (fun r => r.1.live) =
      some [73792, 73728] := by
    decide +kernel
  obtain ⟨⟨s, log⟩, ran, live⟩ := Option.map_eq_some_iff.mp seen
  have proper : Along (slabAct 65536) (ProperUse 65536) (.initial oneChunk fun _ => 0) reuse := by
    refine ⟨trivial, fun _ _ first => ?_⟩
    cases first
    refine ⟨trivial, fun _ _ second => ?_⟩
    cases second
    refine ⟨by unfold ProperUse; decide +kernel, fun _ _ third => ?_⟩
    cases third
    exact ⟨trivial, fun _ _ _ => trivial⟩
  obtain ⟨⟨free, linked, nodup, -⟩, -⟩ :=
    slab_blocks_disjoint 65536 oneChunk mapped_oneChunk (fun _ => 0) reuse s log ran proper
  exact ⟨s, log, ran, live, free, linked, nodup⟩

end Kpnet.Xdp
