import Kpnet.Lib.Runs
import Kpnet.Lib.Tokens
import Kpnet.Xdp.Rings

/-!
# No chunk is lost

The chunks of the packet area go round: from the stack to the fill ring (`xdp_fill`), to the
kernel, back in descriptors on the receive ring, to the user (`xdp_rx`) and onto the stack
again (`umem_stack_push`); a chunk the slab allocator has taken stays with it. Whatever the
order of the calls and of the kernel's steps, every chunk is in one of these places.
-/
namespace Kpnet.Xdp

open Runs
open Tokens

/-- Where a chunk can be. -/
inductive UmemPlace where
  | stack
  | fillRing
  | kernel
  | rxRing
  | user
  | slab
  deriving DecidableEq, Repr

/-- The two rings, the stack inside of the slab allocator that shares it, and the chunks in
the hands of the kernel, of the user and of the slab allocator. -/
structure UmemSystem where
  alloc : UmemSlabAllocator
  fillRing : SlotRing UInt64
  rxRing : SlotRing XdpDesc
  kernel : List UInt64
  user : List UInt64
  slab : List UInt64

/-- The addresses in a place. -/
def UmemSystem.place (s : UmemSystem) : UmemPlace → List UInt64
  | .stack => s.alloc.stack.contents
  | .fillRing => s.fillRing.window ringBits
  | .kernel => s.kernel
  | .rxRing => (s.rxRing.window ringBits).map XdpDesc.addr
  | .user => s.user
  | .slab => s.slab

/-- A call, with the packet area the slab allocator finds, or a step of the kernel. -/
inductive UmemAction where
  | fill (maxN : UInt32)
  | slabAlloc (umem : Bytes)
  | rx (maxN : UInt32)
  | push (addr : UInt64)
  | kernelTake
  | kernelPublish (addr : UInt64) (len options : UInt32)

/-- One step; the log keeps the addresses that a push drops. The user pushes what it has, the
kernel publishes what it has taken and leaves no more than 4096 descriptors unread. -/
def umemAct (umemBase : UInt64) (s : UmemSystem) :
    UmemAction → Option (UmemSystem × List UInt64)
  | .fill maxN =>
    let (_, fillRing, stack) := xdpFill s.fillRing s.alloc.stack maxN
    some ({ s with fillRing := fillRing, alloc := { s.alloc with stack := stack } }, [])
  | .slabAlloc umem =>
    let (_, alloc) := slabAlloc64b umemBase umem s.alloc
    some ({ s with
      alloc := alloc
      slab := s.slab ++ s.alloc.stack.contents.drop alloc.stack.top.toNat }, [])
  | .rx maxN =>
    let (out, rxRing) := xdpRx s.rxRing maxN
    some ({ s with rxRing := rxRing, user := s.user ++ out.map Prod.fst }, [])
  | .push addr =>
    if addr ∈ s.user then
      let stack := umemStackPush s.alloc.stack addr
      some ({ s with alloc := { s.alloc with stack := stack }, user := s.user.erase addr },
        if stack.top = s.alloc.stack.top then [addr] else [])
    else none
  | .kernelTake =>
    if s.fillRing.producer = s.fillRing.consumer then none
    else
      let addr := s.fillRing.slots (SlotRing.slot ringBits s.fillRing.consumer)
      some ({ s with fillRing := s.fillRing.release 1, kernel := s.kernel ++ [addr] }, [])
  | .kernelPublish addr len options =>
    if addr ∈ s.kernel ∧ s.rxRing.used < 4096 then
      some ({ s with
        rxRing := (s.rxRing.write ringBits 0 ⟨addr, len, options⟩).publish 1
        kernel := s.kernel.erase addr }, [])
    else none

/-- All addresses, place by place. -/
def UmemSystem.owned (s : UmemSystem) : List UInt64 :=
  s.place .stack ++ s.place .fillRing ++ s.place .kernel ++ s.place .rxRing ++ s.place .user ++
    s.place .slab

/-- The same chunks as ever, and rings within their size. -/
structure Conserved (chunks : List UInt64) (s : UmemSystem) : Prop where
  owned : s.owned.Perm chunks
  cap : s.alloc.stack.cap.toNat = chunks.length
  fill : s.fillRing.used ≤ 4096
  rx : s.rxRing.used ≤ 4096

/-- The slab allocator takes nothing off the stack, or its top. -/
theorem slabAlloc64b_stack (umemBase : UInt64) (umem : Bytes) (alloc : UmemSlabAllocator) :
    alloc.stack.contents = (slabAlloc64b umemBase umem alloc).2.stack.contents ++
      alloc.stack.contents.drop (slabAlloc64b umemBase umem alloc).2.stack.top.toNat ∧
    (slabAlloc64b umemBase umem alloc).2.stack.cap = alloc.stack.cap := by
  have untouched : alloc.stack.contents = alloc.stack.contents ++
      alloc.stack.contents.drop alloc.stack.top.toNat := by
    rw [List.drop_of_length_le (by rw [UmemStack.length_contents]), List.append_nil]
  have popped : alloc.stack.contents = (umemStackPop alloc.stack).2.contents ++
      alloc.stack.contents.drop (umemStackPop alloc.stack).2.top.toNat ∧
      (umemStackPop alloc.stack).2.cap = alloc.stack.cap := by
    by_cases drained : alloc.stack.top = 0
    · rw [umemStackPop, if_pos drained]
      exact ⟨untouched, rfl⟩
    · have contents := umemStackPop_contents alloc.stack drained
      refine ⟨?_, by rw [umemStackPop, if_neg drained]⟩
      rw [← UmemStack.length_contents]
      conv => rhs; rw [contents]
      rw [List.drop_left, ← contents]
  -- only a call that finds neither a free block nor a rest pops a chunk
  unfold slabAlloc64b
  split
  · exact ⟨untouched, rfl⟩
  · split
    · dsimp only
      split
      · exact popped
      · exact popped
    · exact ⟨untouched, rfl⟩

namespace Conserved

variable {chunks : List UInt64} {s : UmemSystem}

/-- Whatever is somewhere is a chunk. -/
theorem mem_chunks (inv : Conserved chunks s) {a : UInt64} (x : UmemPlace)
    (here : a ∈ s.place x) : a ∈ chunks := by
  refine inv.owned.mem_iff.mp ?_
  simp only [UmemSystem.owned, List.mem_append]
  cases x with
  | stack => exact .inl (.inl (.inl (.inl (.inl here))))
  | fillRing => exact .inl (.inl (.inl (.inl (.inr here))))
  | kernel => exact .inl (.inl (.inl (.inr here)))
  | rxRing => exact .inl (.inl (.inr here))
  | user => exact .inl (.inr here)
  | slab => exact .inr here

/-- What the user holds is not on the stack, which therefore has room for it. -/
theorem stack_room (inv : Conserved chunks s) {addr : UInt64} (held : addr ∈ s.user) :
    s.alloc.stack.top.toNat < s.alloc.stack.cap.toNat := by
  have total := inv.owned.length_eq
  have positive := List.length_pos_of_mem held
  simp only [UmemSystem.owned, UmemSystem.place, List.length_append,
    UmemStack.length_contents] at total
  rw [inv.cap]
  omega

/-- A step keeps the placement if it keeps the count of every address. -/
theorem perm_of_count (inv : Conserved chunks s) {s' : UmemSystem}
    (same : ∀ c, s'.owned.count c = s.owned.count c) : s'.owned.Perm chunks :=
  (List.perm_iff_count.mpr same).trans inv.owned

section Steps

variable {umemBase : UInt64} {s' : UmemSystem} {dropped : List UInt64}

theorem fill_step (inv : Conserved chunks s) (valid : ∀ a ∈ chunks, a ≠ -1) {maxN : UInt32}
    (stepped : umemAct umemBase s (.fill maxN) = some (s', dropped)) :
    Conserved chunks s' ∧ dropped = [] := by
  obtain ⟨moved, ring', stack', filled, bounded, window, contents, cap⟩ :=
    xdpFill_moves s.fillRing s.alloc.stack maxN inv.fill
      fun a member => valid a (inv.mem_chunks .stack member)
  simp only [umemAct, filled, Option.some.injEq, Prod.mk.injEq] at stepped
  obtain ⟨rfl, rfl⟩ := stepped
  refine ⟨⟨inv.perm_of_count fun c => ?_, ?_, bounded, inv.rx⟩, rfl⟩
  · simp only [UmemSystem.owned, UmemSystem.place, List.count_append, window, contents,
      List.count_reverse]
    omega
  · rw [← inv.cap, ← cap]

/-- What the stack has lost is with the allocator. -/
theorem slabAlloc_step (inv : Conserved chunks s) {umem : Bytes}
    (stepped : umemAct umemBase s (.slabAlloc umem) = some (s', dropped)) :
    Conserved chunks s' ∧ dropped = [] := by
  obtain ⟨contents, cap⟩ := slabAlloc64b_stack umemBase umem s.alloc
  simp only [umemAct, Option.some.injEq, Prod.mk.injEq] at stepped
  obtain ⟨rfl, rfl⟩ := stepped
  refine ⟨⟨inv.perm_of_count fun c => ?_, ?_, inv.fill, inv.rx⟩, rfl⟩
  · have split := congrArg (List.count c) contents
    rw [List.count_append] at split
    simp only [UmemSystem.owned, UmemSystem.place, List.count_append]
    omega
  · rw [← inv.cap, ← cap]

theorem rx_step (inv : Conserved chunks s) {maxN : UInt32}
    (stepped : umemAct umemBase s (.rx maxN) = some (s', dropped)) :
    Conserved chunks s' ∧ dropped = [] := by
  obtain ⟨moved, ring', received, -, window, fewer⟩ := xdpRx_moves s.rxRing maxN
  simp only [umemAct, received, Option.some.injEq, Prod.mk.injEq] at stepped
  obtain ⟨rfl, rfl⟩ := stepped
  refine ⟨⟨inv.perm_of_count fun c => ?_, inv.cap, inv.fill, ?_⟩, rfl⟩
  · have outputs : (moved.map fun desc => (desc.addr, desc.len)).map Prod.fst =
        moved.map XdpDesc.addr := by
      rw [List.map_map]
      rfl
    simp only [UmemSystem.owned, UmemSystem.place, List.count_append, outputs, window,
      List.map_append]
    omega
  · exact Nat.le_trans fewer inv.rx

theorem push_step (inv : Conserved chunks s) {addr : UInt64}
    (stepped : umemAct umemBase s (.push addr) = some (s', dropped)) :
    Conserved chunks s' ∧ dropped = [] := by
  simp only [umemAct] at stepped
  split at stepped
  next held =>
    have room := inv.stack_room held
    have contents := umemStackPush_contents s.alloc.stack addr room
    simp only [Option.some.injEq, Prod.mk.injEq] at stepped
    obtain ⟨rfl, rfl⟩ := stepped
    refine ⟨⟨inv.perm_of_count fun c => ?_, ?_, inv.fill, inv.rx⟩, ?_⟩
    · -- one count less with the user, one more on the stack
      have taken := (List.perm_cons_erase held).count_eq c
      rw [List.count_cons] at taken
      simp only [UmemSystem.owned, UmemSystem.place, List.count_append, contents,
        List.count_singleton]
      omega
    · rw [← inv.cap]
      unfold umemStackPush
      split <;> rfl
    · -- a push that finds room makes the stack longer, so it has dropped nothing
      refine if_neg fun unchanged => ?_
      have longer := congrArg List.length contents
      simp only [UmemStack.length_contents, List.length_append, List.length_singleton,
        unchanged] at longer
      omega
  · cases stepped

theorem kernelTake_step (inv : Conserved chunks s)
    (stepped : umemAct umemBase s .kernelTake = some (s', dropped)) :
    Conserved chunks s' ∧ dropped = [] := by
  simp only [umemAct] at stepped
  split at stepped
  · cases stepped
  next differ =>
    have taken := SlotRing.window_take_one ringBits s.fillRing differ
    simp only [Option.some.injEq, Prod.mk.injEq] at stepped
    obtain ⟨rfl, rfl⟩ := stepped
    refine ⟨⟨inv.perm_of_count fun c => ?_, inv.cap, ?_, inv.rx⟩, rfl⟩
    · have split := congrArg (List.count c) taken
      rw [List.count_cons] at split
      simp only [UmemSystem.owned, UmemSystem.place, List.count_append, List.count_singleton]
      omega
    · rw [SlotRing.used_release s.fillRing 1 (s.fillRing.used_pos differ)]
      exact Nat.le_trans (Nat.sub_le _ _) inv.fill

theorem kernelPublish_step (inv : Conserved chunks s) {addr : UInt64} {len options : UInt32}
    (stepped : umemAct umemBase s (.kernelPublish addr len options) = some (s', dropped)) :
    Conserved chunks s' ∧ dropped = [] := by
  simp only [umemAct] at stepped
  split at stepped
  next allowed =>
    obtain ⟨held, room⟩ := allowed
    have size : 2 ^ ringBits = 4096 := rfl
    have window := SlotRing.window_add_one ringBits (by decide) s.rxRing ⟨addr, len, options⟩
      (by rw [size]; exact room)
    simp only [Option.some.injEq, Prod.mk.injEq] at stepped
    obtain ⟨rfl, rfl⟩ := stepped
    refine ⟨⟨inv.perm_of_count fun c => ?_, inv.cap, inv.fill, ?_⟩, rfl⟩
    · have taken := (List.perm_cons_erase held).count_eq c
      rw [List.count_cons] at taken
      simp only [UmemSystem.owned, UmemSystem.place, List.count_append, window, List.map_append,
        List.map_singleton, List.count_singleton]
      omega
    · rw [SlotRing.used_publish _ 1 (by rw [SlotRing.used_write, UInt32.toNat_one]; omega),
        SlotRing.used_write, UInt32.toNat_one]
      exact room
  · cases stepped

/-- One step hands chunks on and drops none. -/
theorem step (inv : Conserved chunks s) (valid : ∀ a ∈ chunks, a ≠ -1) {a : UmemAction}
    (stepped : umemAct umemBase s a = some (s', dropped)) :
    Conserved chunks s' ∧ dropped = [] := by
  cases a with
  | fill maxN => exact inv.fill_step valid stepped
  | slabAlloc umem => exact inv.slabAlloc_step stepped
  | rx maxN => exact inv.rx_step stepped
  | push addr => exact inv.push_step stepped
  | kernelTake => exact inv.kernelTake_step stepped
  | kernelPublish addr len options => exact inv.kernelPublish_step stepped

end Steps

/-- In every place, an address counts at most once. -/
theorem nodup_place (inv : Conserved chunks s) (distinct : chunks.Nodup) (x : UmemPlace) :
    (s.place x).Nodup := by
  refine List.nodup_iff_count_le_one.mpr fun c => ?_
  have once := List.nodup_iff_count_le_one.mp (inv.owned.nodup_iff.mpr distinct) c
  simp only [UmemSystem.owned, List.count_append] at once
  cases x <;> omega

theorem placed (inv : Conserved chunks s) (distinct : chunks.Nodup) :
    Placed { a | a ∈ chunks } fun a x => a ∈ s.place x := by
  refine ⟨fun a x here => inv.mem_chunks x here, ?_, ?_⟩
  · intro a member
    have somewhere := inv.owned.mem_iff.mpr member
    simp only [UmemSystem.owned, List.mem_append] at somewhere
    rcases somewhere with ((((here | here) | here) | here) | here) | here
    · exact ⟨.stack, here⟩
    · exact ⟨.fillRing, here⟩
    · exact ⟨.kernel, here⟩
    · exact ⟨.rxRing, here⟩
    · exact ⟨.user, here⟩
    · exact ⟨.slab, here⟩
  · intro a x y here there
    -- two places would count the address twice
    have once := List.nodup_iff_count_le_one.mp (inv.owned.nodup_iff.mpr distinct) a
    simp only [UmemSystem.owned, List.count_append] at once
    have first := List.count_pos_iff.mpr here
    have second := List.count_pos_iff.mpr there
    cases x <;> cases y <;> first | rfl | omega

end Conserved

/-- The addresses `create_umem_stack` puts on its stack. -/
def chunkAddrs (numChunks chunkSize : UInt32) : List UInt64 :=
  (List.range numChunks.toNat).map fun i => UInt64.ofNat i * chunkSize.toUInt64

theorem toNat_chunkAddr (chunkSize : UInt32) {i : Nat} (small : i < 4096) :
    (UInt64.ofNat i * chunkSize.toUInt64).toNat = i * chunkSize.toNat := by
  have bound := chunkSize.toNat_lt
  have product : i * chunkSize.toNat ≤ 4096 * 2 ^ 32 :=
    Nat.mul_le_mul (by omega) (by omega)
  rw [UInt64.toNat_mul, UInt64.toNat_ofNat', UInt32.toNat_toUInt64,
    Nat.mod_eq_of_lt (show i < 2 ^ 64 by omega), Nat.mod_eq_of_lt (by omega)]

theorem nodup_chunkAddrs (numChunks chunkSize : UInt32) (few : numChunks.toNat ≤ 4096)
    (positive : 0 < chunkSize.toNat) : (chunkAddrs numChunks chunkSize).Nodup := by
  refine List.Nodup.map_on ?_ List.nodup_range
  intro i inside j inside' same
  have low := List.mem_range.mp inside
  have low' := List.mem_range.mp inside'
  have equal := congrArg UInt64.toNat same
  rw [toNat_chunkAddr chunkSize (by omega), toNat_chunkAddr chunkSize (by omega)] at equal
  exact Nat.eq_of_mul_eq_mul_right positive equal

/-- None of them is the mark of the empty stack. -/
theorem chunkAddr_ne (numChunks chunkSize : UInt32) (few : numChunks.toNat ≤ 4096) :
    ∀ a ∈ chunkAddrs numChunks chunkSize, a ≠ -1 := by
  rintro a member rfl
  obtain ⟨i, inside, same⟩ := List.mem_map.mp member
  have low := List.mem_range.mp inside
  have bound := chunkSize.toNat_lt
  have value := congrArg UInt64.toNat same
  rw [toNat_chunkAddr chunkSize (by omega)] at value
  have product : i * chunkSize.toNat ≤ 4096 * 2 ^ 32 :=
    Nat.mul_le_mul (by omega) (by omega)
  have ones : (-1 : UInt64).toNat = 2 ^ 64 - 1 := rfl
  omega

/-- Nothing has left the stack yet. -/
def UmemSystem.initial (alloc : UmemSlabAllocator) (fillRing : SlotRing UInt64)
    (rxRing : SlotRing XdpDesc) : UmemSystem :=
  { alloc := alloc
    fillRing := fillRing
    rxRing := rxRing
    kernel := []
    user := []
    slab := [] }

/-- At first all chunks are on the stack. -/
theorem conserved_initial {numChunks chunkSize : UInt32} {stackMalloc : Bool}
    {addrsMalloc : Option (Nat → UInt64)} {alloc : UmemSlabAllocator}
    {fillRing : SlotRing UInt64} {rxRing : SlotRing XdpDesc}
    (created : createUmemStack stackMalloc addrsMalloc numChunks chunkSize = some alloc.stack)
    (fillEmpty : fillRing.producer = fillRing.consumer)
    (rxEmpty : rxRing.producer = rxRing.consumer) :
    Conserved (chunkAddrs numChunks chunkSize) (.initial alloc fillRing rxRing) := by
  obtain ⟨-, cap, contents⟩ := createUmemStack_contents created
  have noFill := SlotRing.used_eq_zero fillEmpty
  have noRx := SlotRing.used_eq_zero rxEmpty
  have fills := SlotRing.window_eq_nil ringBits fillEmpty
  have rxs := SlotRing.window_eq_nil ringBits rxEmpty
  refine ⟨?_, ?_, ?_, ?_⟩
  · have start : (UmemSystem.initial alloc fillRing rxRing).owned =
        chunkAddrs numChunks chunkSize := by
      simp [UmemSystem.owned, UmemSystem.place, UmemSystem.initial, contents, fills, rxs,
        chunkAddrs]
    rw [start]
  · simp [UmemSystem.initial, cap, chunkAddrs]
  · simp [UmemSystem.initial, noFill]
  · simp [UmemSystem.initial, noRx]

/-- After any steps in any order, every chunk is in exactly one place, the rings are within
their size, and no push has dropped an address. -/
theorem umem_conservation (numChunks chunkSize : UInt32) (few : numChunks.toNat ≤ 4096)
    (positive : 0 < chunkSize.toNat) (stackMalloc : Bool)
    (addrsMalloc : Option (Nat → UInt64)) (alloc : UmemSlabAllocator)
    (created : createUmemStack stackMalloc addrsMalloc numChunks chunkSize = some alloc.stack)
    (fillRing : SlotRing UInt64) (fillEmpty : fillRing.producer = fillRing.consumer)
    (rxRing : SlotRing XdpDesc) (rxEmpty : rxRing.producer = rxRing.consumer)
    (umemBase : UInt64) (actions : List UmemAction) (s : UmemSystem) (dropped : List UInt64)
    (ran : run (umemAct umemBase) (.initial alloc fillRing rxRing) actions = some (s, dropped)) :
    Placed { a | ∃ i < numChunks.toNat, UInt64.ofNat i * chunkSize.toUInt64 = a }
      (fun a x => a ∈ s.place x) ∧
    (∀ x, (s.place x).Nodup) ∧
    (s.fillRing.producer - s.fillRing.consumer).toNat ≤ 4096 ∧
    (s.rxRing.producer - s.rxRing.consumer).toNat ≤ 4096 ∧
    dropped = [] := by
  have distinct := nodup_chunkAddrs numChunks chunkSize few positive
  have start := conserved_initial created fillEmpty rxEmpty
  have held : Conserved (chunkAddrs numChunks chunkSize) s ∧ dropped = [] := by
    refine run_induction (umemAct umemBase) (fun _ _ => True) (.initial alloc fillRing rxRing)
      (fun _ s dropped => Conserved (chunkAddrs numChunks chunkSize) s ∧ dropped = []) ?_ ?_
      actions s dropped ran (along_true _ _ _)
    · exact ⟨start, rfl⟩
    · rintro _ a mid log after ev _ ⟨inv, rfl⟩ _ stepped
      obtain ⟨inv', nothing⟩ := inv.step (chunkAddr_ne numChunks chunkSize few) stepped
      exact ⟨inv', by rw [nothing, List.append_nil]⟩
  refine ⟨?_, held.1.nodup_place distinct, held.1.fill, held.1.rx, held.2⟩
  have placed := held.1.placed distinct
  simpa [chunkAddrs] using placed

/-- A stack of two chunks, and a slab allocator that has none yet. -/
def twoChunks : UmemSlabAllocator where
  freeList := 0
  stack := ⟨fun i => if i < 2 then UInt64.ofNat i * 4096 else 0, 2, 2⟩
  curPos := 0
  curEnd := 0

/-- One chunk goes round, the other one to the slab allocator. -/
def roundTrip : List UmemAction :=
  [.fill 1, .kernelTake, .slabAlloc fun _ => 0, .fill 8, .kernelPublish 4096 60 0, .rx 64,
    .push 4096]

theorem umem_conservation_round_trip : ∃ s dropped,
    run (umemAct 65536) (.initial twoChunks ⟨0xFFFFFFFF, 0xFFFFFFFF, fun _ => 0⟩
      ⟨0xFFFFFFFF, 0xFFFFFFFF, fun _ => ⟨0, 0, 0⟩⟩) roundTrip = some (s, dropped) ∧
    Placed { a | ∃ i < (2 : UInt32).toNat, UInt64.ofNat i * (4096 : UInt32).toUInt64 = a }
      fun a x => a ∈ s.place x := by
  have returned : (run (umemAct 65536) (.initial twoChunks ⟨0xFFFFFFFF, 0xFFFFFFFF, fun _ => 0⟩
      ⟨0xFFFFFFFF, 0xFFFFFFFF, fun _ => ⟨0, 0, 0⟩⟩) roundTrip).isSome = true := by
    decide +kernel
  obtain ⟨⟨s, dropped⟩, ran⟩ := Option.isSome_iff_exists.mp returned
  exact ⟨s, dropped, ran, (umem_conservation 2 4096 (by decide) (by decide) true (some fun _ => 0)
    twoChunks rfl _ rfl _ rfl 65536 roundTrip s dropped ran).1⟩

end Kpnet.Xdp
