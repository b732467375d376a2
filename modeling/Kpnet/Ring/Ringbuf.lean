import Kpnet.Lib.Counter

/-!
# The packet ring

`ringbuf_t` is a bounded multi-producer multi-consumer ring: every cell carries a
sequence number that says for which position it is free or filled, and `head` and
`tail` are free-running 64-bit counters advanced by compare-and-swap. This module
embeds `ring_buffer.h`, `create_ringbuf.c`, `push_ringbuf.c`, `pop_ringbuf.c` and
`create_allocator.c` as run by a single thread; the interleaved reading of the same
functions is in `Kpnet.Ring.Interleaving`.
-/
namespace Kpnet.Ring

variable {α : Type}

/-- `ringbuf_cell_t`; a `NULL` packet is `none`. -/
structure RingbufCell (α : Type) where
  seq : UInt64
  plen : UInt64
  packet : Option α
  deriving DecidableEq, Repr

/-- `ringbuf_t`; the `cells` array is read by index. -/
structure Ringbuf (α : Type) where
  size : UInt64
  mask : UInt64
  head : UInt64
  tail : UInt64
  cells : Nat → RingbufCell α

namespace Ringbuf

/-- The index of `&rb->cells[pos & rb->mask]`. -/
def slot (rb : Ringbuf α) (pos : UInt64) : Nat := (pos &&& rb.mask).toNat

def setCell (rb : Ringbuf α) (i : Nat) (cell : RingbufCell α) : Ringbuf α :=
  { rb with cells := Function.update rb.cells i cell }

@[simp] theorem setCell_mask (rb : Ringbuf α) (i : Nat) (cell : RingbufCell α) :
    (rb.setCell i cell).mask = rb.mask := rfl

@[simp] theorem setCell_head (rb : Ringbuf α) (i : Nat) (cell : RingbufCell α) :
    (rb.setCell i cell).head = rb.head := rfl

@[simp] theorem setCell_tail (rb : Ringbuf α) (i : Nat) (cell : RingbufCell α) :
    (rb.setCell i cell).tail = rb.tail := rfl

@[simp] theorem setCell_self (rb : Ringbuf α) (i : Nat) (cell : RingbufCell α) :
    (rb.setCell i cell).cells i = cell := by
  simp only [setCell, Function.update_self]

theorem setCell_of_ne (rb : Ringbuf α) {i j : Nat} (cell : RingbufCell α) (distinct : j ≠ i) :
    (rb.setCell i cell).cells j = rb.cells j := by
  simp only [setCell, Function.update_of_ne distinct]

/-- What a consumer takes out of a cell. -/
def entry (rb : Ringbuf α) (i : Nat) : Option α × UInt64 :=
  ((rb.cells i).packet, (rb.cells i).plen)

/-- The queued packets, oldest first, as the two counters delimit them. -/
def contents (rb : Ringbuf α) : List (Option α × UInt64) :=
  (List.range (rb.head - rb.tail).toNat).map fun i =>
    rb.entry (rb.slot (rb.tail + UInt64.ofNat i))

end Ringbuf

/-- `create_ringbuf`. `cellsMalloc` is what the second `malloc` returns: `plen` keeps
the bytes found there, `seq` and `packet` are initialised. -/
def createRingbuf (rbMalloc : Bool) (cellsMalloc : Option (Nat → RingbufCell α))
    (size : UInt64) : Option (Ringbuf α) :=
  if rbMalloc then
    match cellsMalloc with
    | none => none
    | some garbage => some {
        size := size
        mask := size - 1
        head := 0
        tail := 0
        cells := fun i =>
          if i < size.toNat then { garbage i with seq := UInt64.ofNat i, packet := none }
          else garbage i }
  else none

/-- The `for (;;)` loop shared by `push_ringbuf` (`lead` 0 on `head`) and `pop_ringbuf`
(`lead` 1 on `tail`). The list gives, compare-and-swap by compare-and-swap, whether
the weak form fails spuriously; past its end none does. `none` is running out of fuel,
`some none` the early return, `some (some pos)` the `break` with position `pos` claimed. -/
def claimLoop (rb : Ringbuf α) (counter lead : UInt64) :
    Nat → List Bool → UInt64 → Option (Option UInt64)
  | 0, _, _ => none
  | fuel + 1, cas, pos =>
    let diff := ((rb.cells (rb.slot pos)).seq - (pos + lead)).toInt64
    if diff = 0 then
      if counter = pos ∧ cas.headD false = false then some (some pos)
      -- a failed exchange falls through to the reload of the counter
      else claimLoop rb counter lead fuel cas.tail counter
    else if diff < 0 then some none
    else claimLoop rb counter lead fuel cas counter

/-- `push_ringbuf`. -/
def pushRingbuf (fuel : Nat) (cas : List Bool) (rb : Ringbuf α) (packet : Option α)
    (plen : UInt64) : Option (Int × Ringbuf α) :=
  match claimLoop rb rb.head 0 fuel cas rb.head with
  | none => none
  | some none => some (-1, rb)
  | some (some pos) =>
    some (0, { rb with head := pos + 1 }.setCell (rb.slot pos)
      { packet := packet, plen := plen, seq := pos + 1 })

/-- `pop_ringbuf`; the returned cell pointer is the cell's index. -/
def popRingbuf (fuel : Nat) (cas : List Bool) (rb : Ringbuf α) :
    Option (Option Nat × Ringbuf α) :=
  match claimLoop rb rb.tail 1 fuel cas rb.tail with
  | none => none
  | some none => some (none, rb)
  | some (some pos) =>
    some (some (rb.slot pos), { rb with tail := pos + 1 }.setCell (rb.slot pos)
      { rb.cells (rb.slot pos) with seq := pos + rb.mask + 1 })

/-- The arguments `create_allocator` passes to `free` on its failure path. -/
inductive Freed (α : Type) where
  | packet (p : Option α)
  | cell (index : Nat)
  deriving DecidableEq, Repr

/-- The draining loop of `create_allocator`, entered when an allocation fails. -/
def drainAllocator : Nat → Ringbuf α → List (Freed α) →
    Option (Ringbuf α × List (Freed α))
  | 0, _, _ => none
  | fuel + 1, rb, freed =>
    match popRingbuf 1 [] rb with
    | none => none
    | some (none, rb) => some (rb, freed)
    | some (some i, rb) =>
      drainAllocator fuel rb (freed ++ [.packet (rb.cells i).packet, .cell i])

/-- The allocation loop of `create_allocator`: after a failed `aligned_alloc` the ring
is drained, and the `NULL` is pushed all the same. -/
def fillAllocator (alloc : Nat → Option α) (plen : UInt64) :
    Nat → Nat → Ringbuf α → List (Freed α) → Option (Ringbuf α × List (Freed α))
  | 0, _, rb, freed => some (rb, freed)
  | left + 1, i, rb, freed =>
    match alloc i with
    | some memory =>
      match pushRingbuf 1 [] rb (some memory) plen with
      | none => none
      | some (_, rb) => fillAllocator alloc plen left (i + 1) rb freed
    | none =>
      match drainAllocator (rb.size.toNat + 1) rb freed with
      | none => none
      | some (rb, freed) =>
        match pushRingbuf 1 [] rb none plen with
        | none => none
        | some (_, rb) => fillAllocator alloc plen left (i + 1) rb (freed ++ [.packet none])

/-- `memory_size + (CACHELINE_SIZE - 1) & ~(CACHELINE_SIZE - 1)`. -/
def alignUp (memorySize cacheline : UInt64) : UInt64 :=
  (memorySize + (cacheline - 1)) &&& ~~~(cacheline - 1)

/-- `create_allocator`; `alloc i` is what the `i`-th `aligned_alloc` returns. Unlike
`create_ringbuf` it leaves the packets of the cells uninitialised. -/
def createAllocator (rbMalloc : Bool) (cellsMalloc : Option (Nat → RingbufCell α))
    (alloc : Nat → Option α) (cacheline memorySize memoryNum : UInt64) :
    Option (Ringbuf α × List (Freed α)) :=
  if rbMalloc then
    match cellsMalloc with
    | none => none
    | some garbage =>
      fillAllocator alloc (alignUp memorySize cacheline) memoryNum.toNat 0
        { size := memoryNum
          mask := memoryNum - 1
          head := 0
          tail := 0
          cells := fun i =>
            if i < memoryNum.toNat then { garbage i with seq := UInt64.ofNat i }
            else garbage i } []
  else none

end Kpnet.Ring
