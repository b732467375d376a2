import Kpnet.Lib.CircularList
import Kpnet.Timer.Ringtimer

/-!
# One slot of the wheel

What inserting a node and ticking do to the circular list of a slot. The walk of
`tick_ringtimer` remembers the node it started from; it visits every node once when that
node stays, or when every node of the slot is removed.
-/
namespace Kpnet.Timer

open CircularList

variable {A : Type}

/-- The nodes of a slot, linked in this order. -/
def Chained (nodes : A → RingtimerCallback A) (l : List A) : Prop :=
  Cyclic (fun a => (nodes a).next) (fun a => (nodes a).prev) l

/-- A node due at this tick. -/
def Ringtimer.fires (ring : Ringtimer A) (a : A) : Bool := (ring.nodes a).retries = 0

theorem Chained.congr {nodes nodes' : A → RingtimerCallback A} {l : List A}
    (chained : Chained nodes l) (same : ∀ a ∈ l, nodes' a = nodes a) : Chained nodes' l :=
  Cyclic.congr chained (fun a member => by rw [same a member])
    (fun a member => by rw [same a member])

theorem Chained.prev_mem {nodes : A → RingtimerCallback A} {a : A} {l : List A}
    (chained : Chained nodes (a :: l)) : (nodes a).prev ∈ a :: l := by
  rw [Cyclic.prev_head chained]
  exact List.getLastD_mem_cons

/-- The part of the walk of `tick_ringtimer` over the nodes `l` of the list `all` of the
current slot, up to how the list is linked afterwards. -/
structure Walked (all l : List A) (ring ring' : Ringtimer A) : Prop where
  current : ring'.current = ring.current
  max : ring'.max = ring.max
  timers : ∀ i, i ≠ ring.current.toNat → ring'.timers i = ring.timers i
  far : ∀ a, a ∉ all → ring'.nodes a = ring.nodes a
  signal : ∀ a, (ring'.nodes a).signal = (ring.nodes a).signal
  retries : ∀ a, a ∉ l → (ring'.nodes a).retries = (ring.nodes a).retries
  waits : ∀ a ∈ l, ring.fires a = false →
    (ring'.nodes a).retries = (ring.nodes a).retries - 1
  capacity : ring'.allocator.capacity = ring.allocator.capacity
  freed : ring'.allocator.contents =
    ring.allocator.contents ++ (l.filter ring.fires).map fun a => (some a, 64)

variable [DecidableEq A]

section Link

variable {nodes : A → RingtimerCallback A} {first cur : A} {l : List A} (signal retries : UInt64)

/-- A linked-in node is the new last one. -/
theorem Chained.linkLast (chained : Chained nodes (first :: l)) (fresh : cur ∉ first :: l) :
    Chained (linkLast nodes first cur signal retries) (first :: l ++ [cur]) := by
  have last : (nodes first).prev = l.getLastD first := Cyclic.prev_head chained
  have inside := chained.prev_mem
  have cur_last : cur ≠ (nodes first).prev := fun same => fresh (same ▸ inside)
  have cur_first : cur ≠ first := fun same => fresh (by simp [same])
  have nodup := chained.1
  -- four stores, one for each pointer of the two new links
  refine Cyclic.append chained fresh ?_ ?_ ?_ ?_ ?_ ?_
  · rw [← last]
    simp [Timer.linkLast, Function.update_of_ne cur_last.symm]
  · simp [Timer.linkLast]
  · simp [Timer.linkLast, cur_first, last]
  · simp [Timer.linkLast]
  · intro x member other
    have apart : x ≠ cur := fun same => fresh (same ▸ member)
    rw [← last] at other
    simp [Timer.linkLast, Function.update_of_ne apart, other]
  · intro y member
    have apart : y ≠ cur := fun same => fresh (by simp [← same, member])
    have other : y ≠ first := fun same => (List.nodup_cons.mp nodup).1 (same ▸ member)
    simp [Timer.linkLast, Function.update_of_ne apart, other]

theorem linkLast_new :
    (linkLast nodes first cur signal retries cur).signal = signal ∧
    (linkLast nodes first cur signal retries cur).retries = retries := by
  simp [Timer.linkLast]

theorem linkLast_old {x : A} (other : x ≠ cur) :
    (linkLast nodes first cur signal retries x).signal = (nodes x).signal ∧
    (linkLast nodes first cur signal retries x).retries = (nodes x).retries := by
  simp [Timer.linkLast, Function.update_of_ne other]

theorem linkLast_far (chained : Chained nodes (first :: l)) {x : A} (other : x ≠ cur)
    (outside : x ∉ first :: l) : linkLast nodes first cur signal retries x = nodes x := by
  have inside := chained.prev_mem
  have not_last : x ≠ (nodes first).prev := fun same => outside (same ▸ inside)
  have not_first : x ≠ first := fun same => outside (by simp [same])
  simp only [Timer.linkLast, setPrev_of_ne _ _ not_first, Function.update_of_ne other,
    setNext_of_ne _ _ not_last]

end Link

/-- An insert with a free node at hand links the node in as the last one of its slot. -/
theorem insertRingtimer_spec (ring : Ringtimer A) (signal time : UInt64) (l : List A) (cur : A)
    (plen : UInt64) (allocator : Ring.RingQueue A)
    (front : ring.timers (insertSlot ring time % ring.max).toNat = l.head?)
    (chained : Chained ring.nodes l) (fresh : cur ∉ l)
    (popped : ring.allocator.pop = (some (some cur, plen), allocator)) :
    ∃ timers nodes, insertRingtimer signal time ring =
        some (true, { ring with allocator := allocator, timers := timers, nodes := nodes }) ∧
      timers (insertSlot ring time % ring.max).toNat = (l ++ [cur]).head? ∧
      (∀ i, i ≠ (insertSlot ring time % ring.max).toNat → timers i = ring.timers i) ∧
      Chained nodes (l ++ [cur]) ∧
      (nodes cur).signal = signal ∧
      (nodes cur).retries = (insertSlot ring time / ring.max).toUInt64 ∧
      (∀ x, x ≠ cur → (nodes x).signal = (ring.nodes x).signal ∧
        (nodes x).retries = (ring.nodes x).retries) ∧
      ∀ x, x ≠ cur → x ∉ l → nodes x = ring.nodes x := by
  cases l with
  | nil =>
    -- an empty slot: the node is a ring by itself
    refine ⟨Function.update ring.timers (insertSlot ring time % ring.max).toNat (some cur),
      Function.update ring.nodes cur
        { retries := (insertSlot ring time / ring.max).toUInt64, signal := signal
          prev := cur, next := cur }, ?_, ?_, ?_, ?_, ?_, ?_, ?_, ?_⟩
    · rw [insertRingtimer, popped]
      simp only [front, List.head?_nil]
    · simp
    · intro i other
      simp only [Function.update_of_ne other]
    · exact Cyclic.singleton (by simp) (by simp)
    · simp
    · simp
    · intro x other
      simp only [Function.update_of_ne other, and_self]
    · intro x other _
      simp only [Function.update_of_ne other]
  | cons first l =>
    refine ⟨ring.timers, linkLast ring.nodes first cur signal
        (insertSlot ring time / ring.max).toUInt64, ?_, front, fun _ _ => rfl,
      chained.linkLast signal _ fresh, (linkLast_new signal _).1, (linkLast_new signal _).2,
      fun x other => linkLast_old signal _ other,
      fun x other outside => linkLast_far signal _ chained other outside⟩
    rw [insertRingtimer, popped]
    simp only [front, List.head?_cons]

section Unlink

variable {nodes : A → RingtimerCallback A} {t a : A} {l : List A}

/-- The two stores of an unlinking, the second not disturbed by the first. -/
theorem unlink_eq (chained : Chained nodes (t :: a :: l)) :
    unlink nodes t = setPrev (setNext nodes (l.getLastD a) a) a (l.getLastD a) := by
  have next : (nodes t).next = a := Cyclic.next_head chained
  have prev : (nodes t).prev = l.getLastD a := by
    rw [show (nodes t).prev = (a :: l).getLastD t from Cyclic.prev_head chained,
      List.getLastD_cons]
  have apart : t ≠ l.getLastD a := by
    intro same
    have member : l.getLastD a ∈ a :: l := List.getLastD_mem_cons
    exact (List.nodup_cons.mp chained.1).1 (same ▸ member)
  simp only [Timer.unlink, next, prev, setNext_of_ne _ _ apart]

theorem Chained.unlink (chained : Chained nodes (t :: a :: l)) :
    Chained (unlink nodes t) (a :: l) := by
  rw [unlink_eq chained]
  have nodup := (List.nodup_cons.mp chained.1).2
  refine Cyclic.unlink chained ?_ ?_ ?_ ?_
  · simp
  · simp
  · intro x member other
    simp only [setPrev_next, setNext_next, if_neg other]
  · intro y member
    have other : y ≠ a := fun same => (List.nodup_cons.mp nodup).1 (same ▸ member)
    simp [other]

theorem unlink_kept (chained : Chained nodes (t :: a :: l)) (x : A) :
    (unlink nodes t x).signal = (nodes x).signal ∧
    (unlink nodes t x).retries = (nodes x).retries := by
  simp [unlink_eq chained]

theorem unlink_far (chained : Chained nodes (t :: a :: l)) {x : A} (outside : x ∉ a :: l) :
    unlink nodes t x = nodes x := by
  have member : l.getLastD a ∈ a :: l := List.getLastD_mem_cons
  have not_last : x ≠ l.getLastD a := fun same => outside (same ▸ member)
  have not_first : x ≠ a := fun same => outside (by simp [same])
  rw [unlink_eq chained, setPrev_of_ne _ _ not_first, setNext_of_ne _ _ not_last]

end Unlink

end Kpnet.Timer
