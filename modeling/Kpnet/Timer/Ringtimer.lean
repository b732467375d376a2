import Kpnet.Ring.Queue

/-!
# The timer wheel

`ringtimer_t` is an array of `max` slots with a cursor `current`. A slot is the first
node of a circular doubly linked list of pending timers, each with the number of further
revolutions it has to wait for. Nodes come from a ring allocator and go back to it when
they fire. This module embeds `create_ringtimer.c`, `insert_ringtimer.c` and
`tick_ringtimer.c`, run by the one thread that owns the wheel.
-/
namespace Kpnet.Timer

open Kpnet.Ring (RingQueue)

variable {A : Type}

/-- `ringtimer_callback_t`. -/
structure RingtimerCallback (A : Type) where
  retries : UInt64
  signal : UInt64
  prev : A
  next : A
  deriving DecidableEq, Repr

/-- `ringtimer_t`, with the memory behind its node pointers. -/
structure Ringtimer (A : Type) where
  timers : Nat → Option A
  current : UInt32
  max : UInt32
  allocator : RingQueue A
  nodes : A → RingtimerCallback A

/-- `MAX_TICK_TIME`, the length of `timer_tick_result_t.signals`. -/
def maxTickTime : Nat := 64

/-- `create_ringtimer`; the flags say which of its two allocations succeed. -/
def createRingtimer (timerMalloc timersCalloc : Bool) (timersCount : UInt32)
    (allocator : RingQueue A) (nodes : A → RingtimerCallback A) : Option (Ringtimer A) :=
  if timerMalloc && timersCalloc then
    some { timers := fun _ => none, current := 0, max := timersCount, allocator := allocator
           nodes := nodes }
  else none

/-- The 32-bit `slot` of `insert_ringtimer`. -/
def insertSlot (ring : Ringtimer A) (time : UInt64) : UInt32 :=
  (ring.current.toUInt64 + (time - 1)).toUInt32

variable [DecidableEq A]

/-- The store `p->next = v`. -/
def setNext (nodes : A → RingtimerCallback A) (p v : A) : A → RingtimerCallback A :=
  Function.update nodes p { nodes p with next := v }

/-- The store `p->prev = v`. -/
def setPrev (nodes : A → RingtimerCallback A) (p v : A) : A → RingtimerCallback A :=
  Function.update nodes p { nodes p with prev := v }

section Stores

variable (nodes : A → RingtimerCallback A) (p v x : A)

@[simp] theorem setNext_next : (setNext nodes p v x).next = if x = p then v else (nodes x).next := by
  by_cases same : x = p <;> simp [setNext, same]

@[simp] theorem setNext_prev : (setNext nodes p v x).prev = (nodes x).prev := by
  by_cases same : x = p <;> simp [setNext, same]

@[simp] theorem setNext_signal : (setNext nodes p v x).signal = (nodes x).signal := by
  by_cases same : x = p <;> simp [setNext, same]

@[simp] theorem setNext_retries : (setNext nodes p v x).retries = (nodes x).retries := by
  by_cases same : x = p <;> simp [setNext, same]

@[simp] theorem setPrev_prev : (setPrev nodes p v x).prev = if x = p then v else (nodes x).prev := by
  by_cases same : x = p <;> simp [setPrev, same]

@[simp] theorem setPrev_next : (setPrev nodes p v x).next = (nodes x).next := by
  by_cases same : x = p <;> simp [setPrev, same]

@[simp] theorem setPrev_signal : (setPrev nodes p v x).signal = (nodes x).signal := by
  by_cases same : x = p <;> simp [setPrev, same]

@[simp] theorem setPrev_retries : (setPrev nodes p v x).retries = (nodes x).retries := by
  by_cases same : x = p <;> simp [setPrev, same]

variable {p x}

theorem setNext_of_ne (other : x ≠ p) : setNext nodes p v x = nodes x :=
  Function.update_of_ne other _ _

theorem setPrev_of_ne (other : x ≠ p) : setPrev nodes p v x = nodes x :=
  Function.update_of_ne other _ _

end Stores

/-- `last->next = cur; cur->next = first; cur->prev = last; …; first->prev = cur`. -/
def linkLast (nodes : A → RingtimerCallback A) (first cur : A) (signal retries : UInt64) :
    A → RingtimerCallback A :=
  let last := (nodes first).prev
  let nodes := setNext nodes last cur
  let nodes := Function.update nodes cur
    { retries := retries, signal := signal, prev := last, next := first }
  setPrev nodes first cur

/-- `insert_ringtimer`: whether it returns the ring or `NULL`, and the ring after it.
`none` is the loop that waits for a free node forever. -/
def insertRingtimer (signal time : UInt64) (ring : Ringtimer A) : Option (Bool × Ringtimer A) :=
  let slot := insertSlot ring time
  match ring.allocator.pop with
  | (none, _) => none
  -- a cell without a node is put back, and no timer is set
  | (some (none, _), allocator) =>
    some (false, { ring with allocator := (allocator.push none 0).2 })
  | (some (some cur, _), allocator) =>
    let i := (slot % ring.max).toNat
    let retries := (slot / ring.max).toUInt64
    match ring.timers i with
    -- alone in its slot, a node is its own neighbour
    | none => some (true, { ring with
        allocator := allocator
        timers := Function.update ring.timers i (some cur)
        nodes := Function.update ring.nodes cur
          { retries := retries, signal := signal, prev := cur, next := cur } })
    | some first => some (true, { ring with
        allocator := allocator
        nodes := linkLast ring.nodes first cur signal retries })

/-- `t->prev->next = t->next; t->next->prev = t->prev`. -/
def unlink (nodes : A → RingtimerCallback A) (t : A) : A → RingtimerCallback A :=
  let nodes := setNext nodes (nodes t).prev (nodes t).next
  setPrev nodes (nodes t).next (nodes t).prev

/-- The removal of a fired node from the current slot and its return to the allocator. -/
def removeNode (ring : Ringtimer A) (t : A) : Ringtimer A :=
  let allocator := (ring.allocator.push (some t) 64).2
  -- the last node of the slot
  if (ring.nodes t).next = t then
    { ring with
      allocator := allocator
      timers := Function.update ring.timers ring.current.toNat none }
  else
    let nodes := unlink ring.nodes t
    { ring with
      allocator := allocator
      nodes := nodes
      -- the slot may have started with the node
      timers :=
        if ring.timers ring.current.toNat = some t then
          Function.update ring.timers ring.current.toNat (some (nodes t).next)
        else ring.timers }

/-- What `tick_ringtimer` does with one node; `none` is a store past `res.signals`. -/
def tickNode (ring : Ringtimer A) (t : A) (signals : List Int32) :
    Option (Ringtimer A × List Int32) :=
  if (ring.nodes t).signal = 0 then some (ring, signals)
  else if (ring.nodes t).retries = 0 then
    if signals.length < maxTickTime then
      some (removeNode ring t, signals ++ [(ring.nodes t).signal.toUInt32.toInt32])
    else none
  else
    some ({ ring with
      nodes := Function.update ring.nodes t
        { ring.nodes t with retries := (ring.nodes t).retries - 1 } }, signals)

/-- The `do … while (t != head)` loop of `tick_ringtimer`. -/
def tickLoop (head : A) : Nat → A → Ringtimer A → List Int32 →
    Option (Ringtimer A × List Int32)
  | 0, _, _, _ => none
  | fuel + 1, t, ring, signals =>
    -- read before the node can be handed out again
    let next := (ring.nodes t).next
    match tickNode ring t signals with
    | none => none
    | some (ring, signals) =>
      if ring.timers ring.current.toNat = none ∨ next = head then some (ring, signals)
      else tickLoop head fuel next ring signals

/-- `tick_ringtimer`: the reported signals and the ring after it. -/
def tickRingtimer (fuel : Nat) (ring : Ringtimer A) : Option (List Int32 × Ringtimer A) :=
  match ring.timers ring.current.toNat with
  | none => some ([], { ring with current := (ring.current + 1) % ring.max })
  | some head =>
    match tickLoop head fuel head ring [] with
    | none => none
    | some (ring, signals) =>
      some (signals, { ring with current := (ring.current + 1) % ring.max })

end Kpnet.Timer
