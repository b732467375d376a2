import Kpnet.Lib.SlotRing
import Kpnet.Xdp.Umem

/-!
# The rings of an AF_XDP socket

`xdp_fill.c`, `xdp_rx.c`, `xdp_tx.c` and `xdp_complete_tx.c`: the user's side of the rings through
which chunks of the packet area go to the kernel and come back. Each call reads both indices of
its ring once, moves as many entries as it may, and stores its own index.
-/
namespace Kpnet.Xdp

/-- `xdp_desc_t`. -/
structure XdpDesc where
  addr : UInt64
  len : UInt32
  options : UInt32
  deriving DecidableEq, Repr

/-- `RING_MASK` is `UMEM_CHUNK_COUNT - 1`, the low 12 bits of an index. -/
def ringBits : Nat := 12

def umemChunkCount : UInt32 := 4096

/-- `XDP_MAX_SEGS`. -/
def xdpMaxSegs : UInt32 := 16

/-- `XDP_PKT_CONTD`. -/
def xdpPktContd : UInt32 := 1

/-- The loop of `xdp_fill`, from entry `i` on; an empty stack ends it early. -/
def xdpFillLoop : Nat → Nat → SlotRing UInt64 → UmemStack → Nat × SlotRing UInt64 × UmemStack
  | 0, i, ring, stack => (i, ring, stack)
  | left + 1, i, ring, stack =>
    let (addr, stack) := umemStackPop stack
    if addr = -1 then (i, ring, stack)
    else xdpFillLoop left (i + 1) (ring.write ringBits i addr) stack

/-- `xdp_fill`. -/
def xdpFill (ring : SlotRing UInt64) (stack : UmemStack) (maxN : UInt32) :
    UInt32 × SlotRing UInt64 × UmemStack :=
  let freeEntries := umemChunkCount - (ring.producer - ring.consumer)
  let n := if freeEntries < maxN then freeEntries else maxN
  if n = 0 then (0, ring, stack)
  else
    let (n, ring, stack) := xdpFillLoop n.toNat 0 ring stack
    (UInt32.ofNat n, if 0 < n then ring.publish (UInt32.ofNat n) else ring, stack)

/-- What the two rings that the kernel fills have in common: the entries to read are those between
the indices, no more than `max_n`. -/
def takeBatch {α β : Type} (out : α → β) (ring : SlotRing α) (maxN : UInt32) :
    List β × SlotRing α :=
  let n := ring.producer - ring.consumer
  if n = 0 then ([], ring)
  else
    let n := if maxN < n then maxN else n
    ((ring.entries ringBits ring.consumer n.toNat).map out, ring.release n)

/-- `xdp_rx`, with the addresses and lengths it puts out. -/
def xdpRx (ring : SlotRing XdpDesc) (maxN : UInt32) :
    List (UInt64 × UInt32) × SlotRing XdpDesc :=
  takeBatch (fun desc => (desc.addr, desc.len)) ring maxN

/-- `xdp_complete_tx`, with the addresses it puts out. -/
def xdpCompleteTx (ring : SlotRing UInt64) (maxN : UInt32) : List UInt64 × SlotRing UInt64 :=
  takeBatch id ring maxN

/-- The descriptor of segment `i` out of `n`; all but the last announce another one. -/
def txDesc (xdpSegs : Nat → UInt64) (xdpSegLens : Nat → UInt32) (n : UInt32) (i : Nat) : XdpDesc :=
  { addr := xdpSegs i
    len := xdpSegLens i
    options := if UInt32.ofNat i < n - 1 then xdpPktContd else 0 }

/-- `xdp_tx`. What `sendto` answers changes nothing. -/
def xdpTx (ring : SlotRing XdpDesc) (xdpSegs : Nat → UInt64) (xdpSegLens : Nat → UInt32)
    (n : UInt32) : UInt32 × SlotRing XdpDesc :=
  if n = 0 ∨ xdpMaxSegs < n then (0, ring)
  else
    let diff := umemChunkCount - (ring.producer - ring.consumer)
    if diff < n then (0, ring)
    else (n, (ring.writeAll ringBits (txDesc xdpSegs xdpSegLens n) n.toNat).publish n)

/-- The free slots of a ring, as the producers compute them. -/
theorem toNat_free {α : Type} (ring : SlotRing α) (bounded : ring.used ≤ 4096) :
    (umemChunkCount - (ring.producer - ring.consumer)).toNat = 4096 - ring.used := by
  have size : umemChunkCount.toNat = 4096 := rfl
  rw [UInt32.toNat_sub_of_le _ _ (UInt32.le_iff_toNat_le.mpr (by rw [size]; exact bounded)), size,
    SlotRing.used]

/-- The loop moves addresses from the stack to the slots behind the window, in the order in
which they come off. -/
theorem xdpFillLoop_moves (left i : Nat) (ring : SlotRing UInt64) (stack : UmemStack)
    (room : ring.used + i + left ≤ 4096) (valid : ∀ a ∈ stack.contents, a ≠ -1) :
    ∃ moved ring' stack', xdpFillLoop left i ring stack = (i + moved.length, ring', stack') ∧
      moved.length ≤ left ∧ ring'.used = ring.used ∧
      ring'.upTo ringBits (i + moved.length) = ring.upTo ringBits i ++ moved ∧
      stack.contents = stack'.contents ++ moved.reverse ∧ stack'.cap = stack.cap := by
  induction left generalizing i ring stack with
  | zero => exact ⟨[], ring, stack, rfl, Nat.le_refl 0, rfl, by simp, by simp, rfl⟩
  | succ left ih =>
    rw [xdpFillLoop]
    by_cases drained : stack.top = 0
    · refine ⟨[], ring, stack, ?_, Nat.zero_le _, rfl, by simp, by simp, rfl⟩
      simp [umemStackPop, drained]
    · have popped := umemStackPop_contents stack drained
      have kept : (umemStackPop stack).2.cap = stack.cap := by
        rw [umemStackPop, if_neg drained]
      -- an address of the stack is not the mark of the empty stack
      have proper : (umemStackPop stack).1 ≠ -1 := valid _ (by simp [popped])
      obtain ⟨moved, ring', stack', loop, few, used, upTo, contents, cap⟩ :=
        ih (i + 1) (ring.write ringBits i (umemStackPop stack).1) (umemStackPop stack).2
          (by rw [SlotRing.used_write]; omega)
          (fun a member => valid a (by rw [popped]; exact List.mem_append_left _ member))
      refine ⟨(umemStackPop stack).1 :: moved, ring', stack', ?_, ?_, used, ?_, ?_, ?_⟩
      · simp only [if_neg proper, loop, List.length_cons, Nat.add_assoc, Nat.add_comm 1]
      · simpa using few
      · rw [List.length_cons, Nat.add_comm moved.length, ← Nat.add_assoc, upTo,
          SlotRing.upTo_write _ (by decide) ring i _ (by
            have size : 2 ^ ringBits = 4096 := rfl
            omega),
          List.append_assoc, List.singleton_append]
      · rw [popped, contents, List.reverse_cons, List.append_assoc]
      · rw [cap, kept]

/-- What one call of `xdp_fill` does: addresses go from the stack to the end of the window. -/
theorem xdpFill_moves (ring : SlotRing UInt64) (stack : UmemStack) (maxN : UInt32)
    (bounded : ring.used ≤ 4096) (valid : ∀ a ∈ stack.contents, a ≠ -1) :
    ∃ moved ring' stack', xdpFill ring stack maxN = (UInt32.ofNat moved.length, ring', stack') ∧
      ring'.used ≤ 4096 ∧ ring'.window ringBits = ring.window ringBits ++ moved ∧
      stack.contents = stack'.contents ++ moved.reverse ∧ stack'.cap = stack.cap := by
  have free := toNat_free ring bounded
  -- the smaller of the request and the free slots
  have few : (if umemChunkCount - (ring.producer - ring.consumer) < maxN
      then umemChunkCount - (ring.producer - ring.consumer) else maxN).toNat ≤
      4096 - ring.used := by
    split
    · omega
    next larger =>
      have le := UInt32.le_iff_toNat_le.mp (UInt32.not_lt.mp larger)
      omega
  simp only [xdpFill]
  generalize (if umemChunkCount - (ring.producer - ring.consumer) < maxN
    then umemChunkCount - (ring.producer - ring.consumer) else maxN) = n at few ⊢
  by_cases zero : n = 0
  · rw [if_pos zero]
    exact ⟨[], ring, stack, rfl, bounded, by simp, by simp, rfl⟩
  · rw [if_neg zero]
    obtain ⟨moved, ring', stack', loop, short, used, upTo, contents, cap⟩ :=
      xdpFillLoop_moves n.toNat 0 ring stack (by omega) valid
    have small : moved.length < 2 ^ 32 := by omega
    have index : (UInt32.ofNat moved.length).toNat = moved.length :=
      UInt32.toNat_ofNat_of_lt' small
    rw [loop]
    simp only [Nat.zero_add] at upTo ⊢
    refine ⟨moved, _, stack', rfl, ?_⟩
    split
    · refine ⟨?_, ?_, contents, cap⟩
      · rw [SlotRing.used_publish _ _ (by omega)]
        omega
      · rw [SlotRing.window_publish _ _ _ (by omega), index, upTo, SlotRing.upTo_zero]
    next none =>
      have nothing : moved = [] := List.eq_nil_of_length_eq_zero (by omega)
      subst nothing
      refine ⟨by omega, ?_, contents, cap⟩
      rw [← SlotRing.upTo_zero, ← SlotRing.upTo_zero]
      exact upTo

/-- A batch is cut off the front of the window. -/
theorem takeBatch_eq {α β : Type} (out : α → β) (ring : SlotRing α) (maxN : UInt32) :
    takeBatch out ring maxN =
      (((ring.window ringBits).take (min maxN.toNat ring.used)).map out,
        ring.release (UInt32.ofNat (min maxN.toNat ring.used))) := by
  by_cases idle : ring.producer - ring.consumer = 0
  · have empty : ring.used = 0 := by
      rw [SlotRing.used, idle]
      rfl
    rw [takeBatch, if_pos idle, empty, Nat.min_zero]
    simp [SlotRing.release]
  · simp only [takeBatch, if_neg idle]
    have few : (if maxN < ring.producer - ring.consumer then maxN
        else ring.producer - ring.consumer).toNat = min maxN.toNat ring.used := by
      split
      next smaller =>
        have le : maxN.toNat < ring.used := UInt32.lt_iff_toNat_lt.mp smaller
        omega
      next larger =>
        have le : ring.used ≤ maxN.toNat :=
          UInt32.le_iff_toNat_le.mp (UInt32.not_lt.mp larger)
        rw [Nat.min_eq_right le]
        rfl
    generalize (if maxN < ring.producer - ring.consumer then maxN
      else ring.producer - ring.consumer) = n at few ⊢
    rw [← few, SlotRing.entries_consumer _ _ _ (by omega), UInt32.ofNat_toNat]

/-- What one call of `xdp_rx` does: it puts out the oldest entries of the window and releases
them. -/
theorem xdpRx_moves (ring : SlotRing XdpDesc) (maxN : UInt32) :
    ∃ moved ring', xdpRx ring maxN = (moved.map fun desc => (desc.addr, desc.len), ring') ∧
      moved.length = min maxN.toNat ring.used ∧
      ring.window ringBits = moved ++ ring'.window ringBits ∧ ring'.used ≤ ring.used := by
  have count : (UInt32.ofNat (min maxN.toNat ring.used)).toNat = min maxN.toNat ring.used := by
    have small := maxN.toNat_lt
    exact UInt32.toNat_ofNat_of_lt' (show _ < 2 ^ 32 by omega)
  rw [xdpRx, takeBatch_eq]
  refine ⟨_, _, rfl, by simp, ?_, ?_⟩
  · rw [SlotRing.window_release _ _ _ (by omega), count, List.take_append_drop]
  · rw [SlotRing.used_release _ _ (by omega)]
    omega

end Kpnet.Xdp
