import Kpnet.Lib.Runs
import Kpnet.Timer.Tick

/-!
# Punctuality of the timer wheel

A punctual timer service keeps the deadlines of its pending timers and reports a timer
at its deadline. The wheel answers like it in every run in which inserts do not cross
the end of the wheel within their last revolution and ticks meet orderly slots. A node
of slot `i` stands for the deadline `d` with `(d - 1) % max = i` that its remaining
revolutions give.
-/
namespace Kpnet.Timer

open CircularList

variable {A : Type}

inductive TimerCall where
  | insert (signal time : UInt64)
  | tick
  deriving DecidableEq, Repr

/-- What a call returns: the ring or `NULL`, or the reported signals. -/
inductive TimerReply where
  | inserted (ok : Bool)
  | ticked (signals : List Int32)
  deriving DecidableEq, Repr

/-- `insert_ringtimer` and `tick_ringtimer` as one machine. -/
def callRingtimer [DecidableEq A] (fuel : Nat) (ring : Ringtimer A) :
    TimerCall → Option (Ringtimer A × List TimerReply)
  | .insert signal time => (insertRingtimer signal time ring).map fun r => (r.2, [.inserted r.1])
  | .tick => (tickRingtimer fuel ring).map fun r => (r.2, [.ticked r.1])

/-- The punctual timer service: the ticks so far, and the pending timers by deadline. -/
structure Punctual where
  now : Nat
  pending : List (Nat × UInt64)
  deriving DecidableEq, Repr

namespace Punctual

/-- The timers due at the next tick. -/
def due (s : Punctual) : List (Nat × UInt64) := s.pending.filter fun p => p.1 = s.now + 1

/-- The timers that a wheel of `m` slots keeps in slot `i`. -/
def slot (s : Punctual) (m i : Nat) : List (Nat × UInt64) :=
  s.pending.filter fun p => (p.1 - 1) % m = i

/-- The service after a tick. -/
def ticked (s : Punctual) : Punctual where
  now := s.now + 1
  pending := s.pending.filter fun p => p.1 ≠ s.now + 1

def act (s : Punctual) : TimerCall → Option (Punctual × List TimerReply)
  | .insert signal time =>
    some ({ s with pending := s.pending ++ [(s.now + time.toNat, signal)] }, [.inserted true])
  | .tick =>
    some (s.ticked, [.ticked (s.due.map fun p => p.2.toUInt32.toInt32)])

/-- What is asked of the caller of a wheel with `m` slots and `n` nodes: nonzero signals,
delays that are at least one and stay below 2^32 from the cursor, and a free node. -/
def Allowed (m n : Nat) (s : Punctual) : TimerCall → Prop
  | .insert signal time =>
    signal ≠ 0 ∧ 1 ≤ time.toNat ∧ s.now % m + (time.toNat - 1) < 2 ^ 32 ∧ s.pending.length < n
  | .tick => True

/-- When the wheel keeps up: the cursor and the part of the delay beyond whole revolutions
stay within one revolution; and at a tick no more signals are due than the result holds,
and the oldest timer of the current slot is not due unless all timers of the slot are. -/
def Steady (m : Nat) (s : Punctual) : TimerCall → Prop
  | .insert _ time => s.now % m + (time.toNat - 1) % m < m
  | .tick =>
    s.due.length ≤ maxTickTime ∧
    ((∀ p ∈ (s.slot m (s.now % m)).head?, p.1 ≠ s.now + 1) ∨
      ∀ p ∈ s.slot m (s.now % m), p.1 = s.now + 1)

instance (m n : Nat) (s : Punctual) : (c : TimerCall) → Decidable (s.Allowed m n c)
  | .insert signal time => inferInstanceAs (Decidable (signal ≠ 0 ∧ 1 ≤ time.toNat ∧
      s.now % m + (time.toNat - 1) < 2 ^ 32 ∧ s.pending.length < n))
  | .tick => inferInstanceAs (Decidable True)

instance (m : Nat) (s : Punctual) : (c : TimerCall) → Decidable (s.Steady m c)
  | .insert _ time => inferInstanceAs (Decidable (s.now % m + (time.toNat - 1) % m < m))
  | .tick => inferInstanceAs (Decidable (s.due.length ≤ maxTickTime ∧
      ((∀ p ∈ (s.slot m (s.now % m)).head?, p.1 ≠ s.now + 1) ∨
        ∀ p ∈ s.slot m (s.now % m), p.1 = s.now + 1)))

theorem slot_insert (s : Punctual) (m i : Nat) (p : Nat × UInt64) :
    ({ s with pending := s.pending ++ [p] } : Punctual).slot m i =
      s.slot m i ++ if (p.1 - 1) % m = i then [p] else [] := by
  by_cases same : (p.1 - 1) % m = i <;> simp [slot, same]

/-- What is due lies in the current slot. -/
theorem due_eq (s : Punctual) (m : Nat) :
    s.due = (s.slot m (s.now % m)).filter fun p => p.1 = s.now + 1 := by
  rw [due, slot, List.filter_filter]
  refine List.filter_congr fun p _ => ?_
  by_cases same : p.1 = s.now + 1 <;> simp [same]

theorem slot_ticked (s : Punctual) (m i : Nat) :
    s.ticked.slot m i = (s.slot m i).filter fun p => !decide (p.1 = s.now + 1) := by
  rw [slot, ticked, slot, List.filter_filter, List.filter_filter]
  refine List.filter_congr fun p _ => ?_
  rw [Bool.and_comm, decide_not]

/-- A tick takes nothing out of the other slots. -/
theorem slot_ticked_of_ne (s : Punctual) (m i : Nat) (other : i ≠ s.now % m) :
    s.ticked.slot m i = s.slot m i := by
  rw [slot_ticked, List.filter_eq_self]
  intro p member
  have home : (p.1 - 1) % m = i := by simpa using (List.mem_filter.mp member).2
  simp only [Bool.not_eq_true', decide_eq_false_iff_not]
  intro same
  rw [same, Nat.add_sub_cancel] at home
  exact other home.symm

theorem length_ticked (s : Punctual) :
    s.due.length + s.ticked.pending.length = s.pending.length := by
  rw [due, ticked, List.length_eq_length_filter_add (l := s.pending)
    (fun p => decide (p.1 = s.now + 1))]
  simp only [ne_eq, decide_not]

end Punctual

/-- Node `a` stands for the pending timer `p` at time `now`. -/
def Entry (nodes : A → RingtimerCallback A) (m now : Nat) (a : A) (p : Nat × UInt64) : Prop :=
  (nodes a).signal = p.2 ∧ p.2 ≠ 0 ∧ now < p.1 ∧ (nodes a).retries.toNat = (p.1 - 1 - now) / m

section Arithmetic

variable {m now d : Nat}

/-- In the current slot, no revolution to go means due. -/
theorem revolutions_eq_zero (positive : 0 < m) (later : now < d)
    (slot : (d - 1) % m = now % m) : (d - 1 - now) / m = 0 ↔ d = now + 1 := by
  rw [Nat.div_eq_zero_iff]
  constructor
  · rintro (zero | short)
    · omega
    · have same := Counter.eq_of_mod slot (by omega) (by omega)
      omega
  · intro same
    exact .inr (by omega)

/-- A tick past another slot leaves the revolutions to go. -/
theorem revolutions_other (later : now < d) (slot : (d - 1) % m ≠ now % m) :
    now + 1 < d ∧ (d - 1 - now) / m = (d - 1 - (now + 1)) / m := by
  have after : now + 1 < d := by
    by_contra not_after
    have same : d - 1 = now := by omega
    exact slot (by rw [same])
  refine ⟨after, ?_⟩
  -- the quotient drops only when a multiple of `m` is passed
  have off : ¬m ∣ d - 1 - (now + 1) + 1 := by
    intro divides
    rw [show d - 1 - (now + 1) + 1 = d - 1 - now by omega] at divides
    exact slot ((Nat.modEq_iff_dvd' (by omega)).mpr divides).symm
  have step := Nat.succ_div_of_not_dvd off
  rw [show d - 1 - (now + 1) + 1 = d - 1 - now by omega] at step
  exact step

/-- A tick past its own slot takes one revolution from a timer that is not due. -/
theorem revolutions_own (later : now < d) (slot : (d - 1) % m = now % m) (waits : d ≠ now + 1) :
    now + 1 < d ∧ (d - 1 - now) / m = (d - 1 - (now + 1)) / m + 1 := by
  have divides : m ∣ d - 1 - (now + 1) + 1 := by
    rw [show d - 1 - (now + 1) + 1 = d - 1 - now by omega]
    exact (Nat.modEq_iff_dvd' (by omega)).mp slot.symm
  refine ⟨by omega, ?_⟩
  have step := Nat.succ_div_of_dvd divides
  rw [show d - 1 - (now + 1) + 1 = d - 1 - now by omega] at step
  exact step

/-- An insert whose last revolution ends on the wheel needs the revolutions of its delay. -/
theorem revolutions_insert {cursor delay : Nat} (positive : 0 < m)
    (within : cursor + delay % m < m) : (cursor + delay) / m = delay / m := by
  have split := Nat.div_add_mod delay m
  calc (cursor + delay) / m = (cursor + delay % m + m * (delay / m)) / m := by
        congr 1
        omega
    _ = (cursor + delay % m) / m + delay / m := Nat.add_mul_div_left _ _ positive
    _ = delay / m := by rw [Nat.div_eq_of_lt within, Nat.zero_add]

end Arithmetic

theorem forall₂_imp_mem {α β : Type} {R S : α → β → Prop} {l : List α} {l' : List β}
    (related : List.Forall₂ R l l') (imp : ∀ a ∈ l, ∀ b ∈ l', R a b → S a b) :
    List.Forall₂ S l l' := by
  induction related with
  | nil => exact .nil
  | cons first _ ih =>
    refine .cons (imp _ (by simp) _ (by simp) first) (ih fun a member b member' => ?_)
    exact imp a (List.mem_cons_of_mem _ member) b (List.mem_cons_of_mem _ member')

theorem exists_mem_of_forall₂ {α β : Type} {R : α → β → Prop} {l : List α} {l' : List β}
    (related : List.Forall₂ R l l') (a : α) (member : a ∈ l) : ∃ b ∈ l', R a b := by
  induction related with
  | nil => cases member
  | @cons x y xs ys first _ ih =>
    rcases List.mem_cons.mp member with rfl | later
    · exact ⟨y, List.mem_cons_self .., first⟩
    · obtain ⟨b, found, holds⟩ := ih later
      exact ⟨b, List.mem_cons_of_mem y found, holds⟩

/-- The wheel that serves the pending timers of `s`: the nodes of each slot, the free
nodes, and how they stand for the timers. -/
structure Wheel (m n : Nat) (s : Punctual) (nodes : Nat → List A) (free : List A)
    (ring : Ringtimer A) : Prop where
  positive : 0 < m
  max : ring.max.toNat = m
  current : ring.current.toNat = s.now % m
  front : ∀ i < m, ring.timers i = (nodes i).head?
  chained : ∀ i < m, Chained ring.nodes (nodes i)
  entries : ∀ i < m, List.Forall₂ (Entry ring.nodes m s.now) (nodes i) (s.slot m i)
  apart : ∀ i < m, ∀ j < m, ∀ a ∈ nodes i, a ∈ nodes j → i = j
  queued : ring.allocator.contents.map Prod.fst = free.map some
  nodup : free.Nodup
  used : ∀ i < m, ∀ a ∈ nodes i, a ∉ free
  count : free.length + s.pending.length = n
  fits : n ≤ ring.allocator.capacity

namespace Wheel

variable {m n : Nat} {s : Punctual} {nodes : Nat → List A} {free : List A} {ring : Ringtimer A}

theorem contents_length (wheel : Wheel m n s nodes free ring) :
    ring.allocator.contents.length = free.length := by
  have lengths := congrArg List.length wheel.queued
  rwa [List.length_map, List.length_map] at lengths

/-- The node of the current slot that is due is the one of a due timer. -/
theorem fires_iff (wheel : Wheel m n s nodes free ring) {a : A} {p : Nat × UInt64}
    (slot : (p.1 - 1) % m = s.now % m) (entry : Entry ring.nodes m s.now a p) :
    ring.fires a = true ↔ p.1 = s.now + 1 := by
  obtain ⟨-, -, later, revolutions⟩ := entry
  rw [Ringtimer.fires, decide_eq_true_iff, ← UInt64.toNat_inj, revolutions, UInt64.toNat_zero]
  exact revolutions_eq_zero wheel.positive later slot

/-- The 32-bit slot number does not wrap for an allowed delay. -/
theorem insertSlot_toNat (ring : Ringtimer A) (time : UInt64) (one_le : 1 ≤ time.toNat)
    (small : ring.current.toNat + (time.toNat - 1) < 2 ^ 32) :
    (insertSlot ring time).toNat = ring.current.toNat + (time.toNat - 1) := by
  have below : (1 : UInt64) ≤ time := UInt64.le_iff_toNat_le.mpr one_le
  rw [insertSlot, UInt64.toNat_toUInt32, UInt64.toNat_add, UInt32.toNat_toUInt64,
    UInt64.toNat_sub_of_le time 1 below, UInt64.toNat_one]
  omega

theorem nonzero (wheel : Wheel m n s nodes free ring) {i : Nat} (low : i < m) {a : A}
    (member : a ∈ nodes i) : (ring.nodes a).signal ≠ 0 := by
  obtain ⟨p, -, signal, nonzero, -⟩ := exists_mem_of_forall₂ (wheel.entries i low) a member
  rw [signal]
  exact nonzero

/-- While fewer timers are pending than there are nodes, the allocator hands one out. -/
theorem free_node (wheel : Wheel m n s nodes free ring) (available : s.pending.length < n) :
    ∃ cur rest plen, free = cur :: rest ∧ ring.allocator.pop.1 = some (some cur, plen) ∧
      ring.allocator.pop.2.contents.map Prod.fst = rest.map some := by
  have count := wheel.count
  have queued := wheel.queued
  obtain ⟨cur, rest, rfl⟩ : ∃ cur rest, free = cur :: rest :=
    List.exists_cons_of_length_pos (by omega)
  cases contents : ring.allocator.contents with
  | nil => simp [contents] at queued
  | cons entry others =>
    rw [contents, List.map_cons, List.map_cons, List.cons.injEq] at queued
    refine ⟨cur, rest, entry.2, rfl, ?_, ?_⟩
    · rw [Ring.RingQueue.pop_fst, contents, List.head?_cons, ← queued.1]
    · rw [Ring.RingQueue.contents_pop, contents, List.tail_cons, queued.2]

/-- The slot and the revolutions the code computes are those of the new deadline. -/
theorem insert_place (wheel : Wheel m n s nodes free ring) (signal time : UInt64)
    (allowed : s.Allowed m n (.insert signal time)) (steady : s.Steady m (.insert signal time)) :
    (insertSlot ring time % ring.max).toNat = (s.now + time.toNat - 1) % m ∧
    (insertSlot ring time / ring.max).toUInt64.toNat = (s.now + time.toNat - 1 - s.now) / m := by
  obtain ⟨-, one_le, small, -⟩ := allowed
  rw [← wheel.current] at small
  have slotNat := insertSlot_toNat ring time one_le small
  constructor
  · rw [UInt32.toNat_mod, slotNat, wheel.max, wheel.current, Nat.mod_add_mod,
      Nat.add_sub_assoc one_le]
  · rw [UInt32.toNat_toUInt64, UInt32.toNat_div, slotNat, wheel.max, wheel.current,
      revolutions_insert wheel.positive steady]
    congr 1
    omega

/-- The nodes of the current slot, paired with its timers. -/
theorem current_entries (wheel : Wheel m n s nodes free ring) :
    List.Forall₂ (fun a p => Entry ring.nodes m s.now a p ∧ (p.1 - 1) % m = s.now % m ∧
        (ring.fires a = true ↔ p.1 = s.now + 1))
      (nodes (s.now % m)) (s.slot m (s.now % m)) := by
  refine forall₂_imp_mem (wheel.entries _ (Nat.mod_lt _ wheel.positive)) ?_
  intro a _ p member entry
  have home : (p.1 - 1) % m = s.now % m := by simpa using (List.mem_filter.mp member).2
  exact ⟨entry, home, wheel.fires_iff home entry⟩

/-- A steady slot is orderly. -/
theorem orderly (wheel : Wheel m n s nodes free ring) (steady : s.Steady m .tick) :
    ring.Orderly (nodes (s.now % m)) := by
  have related := wheel.current_entries
  rcases steady.2 with waits | due
  · left
    generalize nodes (s.now % m) = l at related
    generalize s.slot m (s.now % m) = timers at related waits
    cases related with
    | nil => simp
    | @cons b p l ps entry _ =>
      rintro a ⟨⟩
      rw [Bool.eq_false_iff]
      exact fun fires => waits p rfl (entry.2.2.mp fires)
  · refine .inr fun a member => ?_
    obtain ⟨p, member', entry⟩ := exists_mem_of_forall₂ related a member
    exact entry.2.2.mpr (due p member')

/-- A node that is linked in is in its own slot only. -/
theorem mem_linked {cur a : A} {slot i : Nat}
    (member : a ∈ Function.update nodes slot (nodes slot ++ [cur]) i) :
    a ∈ nodes i ∨ a = cur ∧ i = slot := by
  by_cases same : i = slot
  · subst same
    rw [Function.update_self, List.mem_append, List.mem_singleton] at member
    exact member.imp_right fun new => ⟨new, rfl⟩
  · rw [Function.update_of_ne same] at member
    exact .inl member

/-- A steady insert is answered by linking in a node for the new deadline. -/
theorem insert [DecidableEq A] (wheel : Wheel m n s nodes free ring) (signal time : UInt64)
    (allowed : s.Allowed m n (.insert signal time)) (steady : s.Steady m (.insert signal time)) :
    ∃ ring' nodes' free', insertRingtimer signal time ring = some (true, ring') ∧
      Wheel m n { s with pending := s.pending ++ [(s.now + time.toNat, signal)] }
        nodes' free' ring' := by
  obtain ⟨index, revolutions⟩ := wheel.insert_place signal time allowed steady
  obtain ⟨nonzero, one_le, -, available⟩ := allowed
  have count := wheel.count
  obtain ⟨cur, free, plen, rfl, popped, rest⟩ := wheel.free_node available
  -- the node is free, so it is in no slot yet
  generalize slot_eq : (s.now + time.toNat - 1) % m = slot at index
  have inside : slot < m := slot_eq ▸ Nat.mod_lt _ wheel.positive
  have unused : ∀ i < m, cur ∉ nodes i := fun i low member =>
    wheel.used i low cur member (List.mem_cons_self ..)
  have old : ∀ i < m, ∀ a ∈ nodes i, a ≠ cur := fun i low a member same =>
    unused i low (same ▸ member)
  obtain ⟨timers, cells, inserted, front, others, chained, newSignal, newRetries, kept, far⟩ :=
    insertRingtimer_spec ring signal time (nodes slot) cur plen ring.allocator.pop.2
      (by rw [index]; exact wheel.front _ inside) (wheel.chained _ inside) (unused _ inside)
      (Prod.ext popped rfl)
  rw [index] at front others
  refine ⟨_, Function.update nodes slot (nodes slot ++ [cur]), free, inserted, wheel.positive,
    wheel.max, wheel.current, ?_, ?_, ?_, ?_, rest, (List.nodup_cons.mp wheel.nodup).2, ?_, ?_, ?_⟩
  · intro i low
    by_cases same : i = slot
    · rw [same, Function.update_self]
      exact front
    · rw [Function.update_of_ne same]
      exact (others i same).trans (wheel.front i low)
  · intro i low
    by_cases same : i = slot
    · rw [same, Function.update_self]
      exact chained
    · rw [Function.update_of_ne same]
      refine (wheel.chained i low).congr fun a member => far a (old i low a member) ?_
      exact fun member' => same (wheel.apart i low slot inside a member member')
  · intro i low
    -- the links of old nodes change, their timers do not
    have before : List.Forall₂ (Entry cells m s.now) (nodes i) (s.slot m i) := by
      refine forall₂_imp_mem (wheel.entries i low) fun a member p _ entry => ?_
      obtain ⟨signal_eq, retries_eq⟩ := kept a (old i low a member)
      rwa [Entry, signal_eq, retries_eq]
    rw [Punctual.slot_insert, slot_eq]
    by_cases same : i = slot
    · rw [same, Function.update_self, if_pos rfl]
      rw [same] at before
      refine List.rel_append before (.cons ?_ .nil)
      exact ⟨newSignal, nonzero, Nat.lt_add_of_pos_right one_le, by rw [newRetries, revolutions]⟩
    · rw [Function.update_of_ne same, if_neg (Ne.symm same), List.append_nil]
      exact before
  · intro i low j low' a member member'
    rcases mem_linked member with here | ⟨rfl, rfl⟩ <;>
      rcases mem_linked member' with there | ⟨new, rfl⟩
    · exact wheel.apart i low j low' a here there
    · exact absurd (new ▸ here) (unused i low)
    · exact absurd there (unused j low')
    · rfl
  · intro i low a member member'
    rcases mem_linked member with here | ⟨rfl, -⟩
    · exact wheel.used i low a here (List.mem_cons_of_mem cur member')
    · exact (List.nodup_cons.mp wheel.nodup).1 member'
  · simp only [List.length_cons] at count
    simp only [List.length_append, List.length_singleton]
    omega
  · rw [Ring.RingQueue.capacity_pop]
    exact wheel.fits

/-- The due nodes stand for the due timers. -/
theorem due_entries (wheel : Wheel m n s nodes free ring) :
    List.Forall₂ (Entry ring.nodes m s.now) ((nodes (s.now % m)).filter ring.fires) s.due := by
  rw [s.due_eq m]
  have filtered := List.rel_filter
    (fun _ _ entry => entry.2.2.trans decide_eq_true_iff.symm) wheel.current_entries
  exact filtered.imp fun _ _ entry => entry.1

/-- The waiting nodes of the current slot stand for its timers after the tick. -/
theorem waiting_entries (wheel : Wheel m n s nodes free ring) {ring' : Ringtimer A}
    (walked : Walked (nodes (s.now % m)) (nodes (s.now % m)) ring ring') :
    List.Forall₂ (Entry ring'.nodes m (s.now + 1))
      ((nodes (s.now % m)).filter fun a => !ring.fires a) (s.ticked.slot m (s.now % m)) := by
  have filtered := List.rel_filter (p := fun a => !ring.fires a)
    (q := fun p => !decide (p.1 = s.now + 1))
    (fun a p entry => by
      simp only [Bool.not_eq_true', ← Bool.not_eq_true, decide_eq_true_iff]
      exact not_congr entry.2.2) wheel.current_entries
  rw [Punctual.slot_ticked]
  refine forall₂_imp_mem filtered ?_
  rintro a member p member' ⟨⟨signal, nonzero, later, revolutions⟩, home, -⟩
  obtain ⟨inside, waits⟩ := List.mem_filter.mp member
  have waits : ring.fires a = false := by simpa using waits
  have notDue : p.1 ≠ s.now + 1 := by simpa using (List.mem_filter.mp member').2
  obtain ⟨after, less⟩ := revolutions_own later home notDue
  have positive : (1 : UInt64) ≤ (ring.nodes a).retries := by
    rw [UInt64.le_iff_toNat_le, revolutions, less]
    exact Nat.le_add_left 1 _
  refine ⟨by rw [walked.signal, signal], nonzero, after, ?_⟩
  rw [walked.waits a inside waits, UInt64.toNat_sub_of_le _ _ positive, revolutions, less,
    UInt64.toNat_one, Nat.add_sub_cancel]

/-- The cursor after a tick. -/
theorem current_tick (wheel : Wheel m n s nodes free ring) :
    ((ring.current + 1) % ring.max).toNat = (s.now + 1) % m := by
  have low : s.now % m < m := Nat.mod_lt _ wheel.positive
  have bits := ring.max.toNat_lt
  rw [wheel.max] at bits
  rw [UInt32.toNat_mod, UInt32.toNat_add, wheel.max, wheel.current, UInt32.toNat_one,
    Nat.mod_eq_of_lt (show s.now % m + 1 < 2 ^ 32 by omega), Nat.mod_add_mod]

/-- The wheel after the walk of a tick. -/
theorem afterTick [DecidableEq A] (wheel : Wheel m n s nodes free ring) {ring' : Ringtimer A}
    (walked : Walked (nodes (s.now % m)) (nodes (s.now % m)) ring ring')
    (front : ring'.timers ring.current.toNat =
      ((nodes (s.now % m)).filter fun a => !ring.fires a).head?)
    (chained : Chained ring'.nodes ((nodes (s.now % m)).filter fun a => !ring.fires a)) :
    Wheel m n s.ticked
      (Function.update nodes (s.now % m) ((nodes (s.now % m)).filter fun a => !ring.fires a))
      (free ++ (nodes (s.now % m)).filter ring.fires)
      { ring' with current := (ring.current + 1) % ring.max } := by
  have inside : s.now % m < m := Nat.mod_lt _ wheel.positive
  rw [wheel.current] at front
  -- a walk over one slot cannot reach the nodes of another
  have elsewhere : ∀ i < m, i ≠ s.now % m → ∀ a ∈ nodes i, a ∉ nodes (s.now % m) :=
    fun i low other a member member' => other (wheel.apart i low _ inside a member member')
  have kept : ∀ i a, a ∈ Function.update nodes (s.now % m)
      ((nodes (s.now % m)).filter fun a => !ring.fires a) i → a ∈ nodes i := by
    intro i a member
    by_cases same : i = s.now % m
    · rw [same, Function.update_self] at member
      rw [same]
      exact List.mem_of_mem_filter member
    · rwa [Function.update_of_ne same] at member
  refine ⟨wheel.positive, by rw [walked.max, wheel.max], wheel.current_tick, ?_, ?_, ?_, ?_, ?_, ?_,
    ?_, ?_, ?_⟩
  · intro i low
    by_cases same : i = s.now % m
    · rw [same, Function.update_self]
      exact front
    · rw [Function.update_of_ne same]
      exact (walked.timers i (by rwa [wheel.current])).trans (wheel.front i low)
  · intro i low
    by_cases same : i = s.now % m
    · rw [same, Function.update_self]
      exact chained
    · rw [Function.update_of_ne same]
      exact (wheel.chained i low).congr fun a member =>
        walked.far a (elsewhere i low same a member)
  · intro i low
    by_cases same : i = s.now % m
    · rw [same, Function.update_self]
      have waiting := wheel.waiting_entries walked
      exact waiting
    · rw [Function.update_of_ne same, s.slot_ticked_of_ne m i same]
      refine forall₂_imp_mem (wheel.entries i low) ?_
      rintro a member p member' ⟨signal, nonzero, later, revolutions⟩
      have home : (p.1 - 1) % m = i := by simpa using (List.mem_filter.mp member').2
      obtain ⟨after, same_revolutions⟩ := revolutions_other later (home ▸ same)
      refine ⟨by rw [walked.signal, signal], nonzero, after, ?_⟩
      rw [walked.retries a (elsewhere i low same a member), revolutions, same_revolutions]
      rfl
  · intro i low j low' a member member'
    exact wheel.apart i low j low' a (kept i a member) (kept j a member')
  · rw [walked.freed, List.map_append, wheel.queued, List.map_append, List.map_map]
    rfl
  · refine List.nodup_append'.mpr ⟨wheel.nodup, (wheel.chained _ inside).1.filter _, ?_⟩
    intro a free' member
    exact wheel.used _ inside a (List.mem_of_mem_filter member) free'
  · intro i low a member member'
    rcases List.mem_append.mp member' with free' | fired
    · exact wheel.used i low a (kept i a member) free'
    · -- a node that has just been freed was due, and due nodes are out of their slot
      have due := (List.mem_filter.mp fired).2
      by_cases same : i = s.now % m
      · rw [same, Function.update_self] at member
        have waits := (List.mem_filter.mp member).2
        simp [due] at waits
      · exact elsewhere i low same a (kept i a member) (List.mem_of_mem_filter fired)
  · have count := wheel.count
    have shrink := s.length_ticked
    rw [List.length_append, wheel.due_entries.length_eq]
    omega
  · rw [walked.capacity]
    exact wheel.fits

/-- A steady tick reports what is due and keeps serving the rest. -/
theorem tick [DecidableEq A] (wheel : Wheel m n s nodes free ring) (steady : s.Steady m .tick)
    (fuel : Nat) (enough : n ≤ fuel) :
    ∃ ring' nodes' free', tickRingtimer fuel ring =
        some (s.due.map fun p => p.2.toUInt32.toInt32, ring') ∧
      Wheel m n s.ticked nodes' free' ring' := by
  have inside : s.now % m < m := Nat.mod_lt _ wheel.positive
  have count := wheel.count
  have fits := wheel.fits
  have shrink := s.length_ticked
  have number := wheel.due_entries.length_eq
  have length : (nodes (s.now % m)).length ≤ s.pending.length := by
    rw [wheel.current_entries.length_eq]
    exact List.length_filter_le _ _
  obtain ⟨ring', ticked, walked, front, chained⟩ := tickRingtimer_orderly ring
    (nodes (s.now % m)) fuel (by rw [wheel.current]; exact wheel.front _ inside)
    (wheel.chained _ inside) (fun a member => wheel.nonzero inside member)
    (wheel.orderly steady) (by omega) (by rw [number]; exact steady.1)
    (by rw [wheel.contents_length, number]; omega)
  -- signal by signal, in the order of the slot
  have signals : ((nodes (s.now % m)).filter ring.fires).map ring.report =
      s.due.map fun p => p.2.toUInt32.toInt32 := by
    rw [← List.forall₂_eq_eq_eq, List.forall₂_map_left_iff, List.forall₂_map_right_iff]
    refine wheel.due_entries.imp fun a p entry => ?_
    rw [Ringtimer.report, entry.1]
  rw [signals] at ticked
  exact ⟨_, _, _, ticked, wheel.afterTick walked front chained⟩

/-- A new wheel serves no timer. -/
theorem create (timersCount : UInt32) (positive : 0 < timersCount.toNat)
    (allocator : Ring.RingQueue A) (memory : A → RingtimerCallback A) (free : List A)
    (queued : allocator.contents.map Prod.fst = free.map some) (nodup : free.Nodup) :
    Wheel timersCount.toNat free.length ⟨0, []⟩ (fun _ => []) free
      { timers := fun _ => none, current := 0, max := timersCount, allocator := allocator
        nodes := memory } := by
  have bounded := allocator.length_contents_le
  have lengths := congrArg List.length queued
  rw [List.length_map, List.length_map] at lengths
  refine ⟨positive, rfl, (Nat.zero_mod _).symm, fun _ _ => rfl, fun _ _ => Cyclic.nil,
    fun _ _ => .nil, ?_, queued, nodup, ?_, rfl, by rw [← lengths]; exact bounded⟩ <;> simp

end Wheel

/-- The wheel answers every steady run like the punctual service: each timer is reported
by the tick at its deadline and by no other. -/
theorem ringtimer_punctual [DecidableEq A] (timersCount : UInt32)
    (positive : 0 < timersCount.toNat) (allocator : Ring.RingQueue A)
    (memory : A → RingtimerCallback A) (free : List A)
    (queued : allocator.contents.map Prod.fst = free.map some) (nodup : free.Nodup)
    (timerMalloc timersCalloc : Bool) (ring : Ringtimer A)
    (created : createRingtimer timerMalloc timersCalloc timersCount allocator memory = some ring)
    (calls : List TimerCall)
    (steady : Runs.Along Punctual.act
      (fun s c => s.Allowed timersCount.toNat free.length c ∧ s.Steady timersCount.toNat c)
      ⟨0, []⟩ calls)
    (fuel : Nat) (enough : free.length ≤ fuel) :
    ∃ ring' s log, Runs.run (callRingtimer fuel) ring calls = some (ring', log) ∧
      Runs.run Punctual.act ⟨0, []⟩ calls = some (s, log) := by
  rw [createRingtimer] at created
  split at created
  · cases created
    -- one call, from any wheel that serves the timers of the punctual service
    have step : ∀ (ring : Ringtimer A) (s : Punctual) (c : TimerCall),
        (∃ nodes free', Wheel timersCount.toNat free.length s nodes free' ring) →
        s.Allowed timersCount.toNat free.length c ∧ s.Steady timersCount.toNat c →
        ∃ ring' s' log, callRingtimer fuel ring c = some (ring', log) ∧ s.act c = some (s', log) ∧
          ∃ nodes free', Wheel timersCount.toNat free.length s' nodes free' ring' := by
      rintro ring s c ⟨nodes, free', wheel⟩ ⟨allowed, steady⟩
      cases c with
      | insert signal time =>
        obtain ⟨ring', nodes', free', inserted, wheel'⟩ := wheel.insert signal time allowed steady
        exact ⟨ring', _, _, by rw [callRingtimer, inserted]; rfl, rfl, nodes', free', wheel'⟩
      | tick =>
        obtain ⟨ring', nodes', free', ticked, wheel'⟩ := wheel.tick steady fuel enough
        exact ⟨ring', _, _, by rw [callRingtimer, ticked]; rfl, rfl, nodes', free', wheel'⟩
    obtain ⟨ring', s, log, ran, ran', -⟩ := Runs.run_simulates (callRingtimer fuel) Punctual.act
      _ _ step calls _ ⟨0, []⟩
      ⟨_, free, Wheel.create timersCount positive allocator memory free queued nodup⟩ steady
    exact ⟨ring', s, log, ran, ran'⟩
  · cases created

/-- An allocator of two nodes. -/
def twoNodes : Ring.RingQueue Nat :=
  .pair id 64 64

/-- A wheel of three slots and two nodes. -/
def smallWheel : Ringtimer Nat where
  timers := fun _ => none
  current := 0
  max := 3
  allocator := twoNodes
  nodes := fun a => ⟨0, 0, a, a⟩

theorem ringtimer_punctual_two_timers :
    createRingtimer true true 3 twoNodes (fun a => ⟨0, 0, a, a⟩) = some smallWheel ∧
    ∃ ring' s log,
      Runs.run (callRingtimer 2) smallWheel
        [.insert 7 4, .tick, .insert 9 1, .tick, .tick, .tick] = some (ring', log) ∧
      Runs.run Punctual.act ⟨0, []⟩
        [.insert 7 4, .tick, .insert 9 1, .tick, .tick, .tick] = some (s, log) :=
  ⟨rfl, ringtimer_punctual 3 (by decide) twoNodes (fun a => ⟨0, 0, a, a⟩) [0, 1]
    (by rw [twoNodes, Ring.RingQueue.contents_pair]; rfl) (by decide) true true smallWheel rfl
    [.insert 7 4, .tick, .insert 9 1, .tick, .tick, .tick] (by decide) 2 (by decide)⟩

/-- An insert across the end of the wheel, which fires one revolution late. -/
def lateCalls : List TimerCall := [.tick, .tick, .insert 7 2, .tick, .tick]

/-- Two timers in one slot, the second of which fires together with the first. -/
def earlyCalls : List TimerCall := [.insert 7 1, .insert 9 4, .tick]

/-- The logs of the wheel on the two runs, neither of which is the punctual one: the first
misses the signal at its last tick, the second reports 9 three ticks early. -/
theorem ringtimer_unpunctual :
    (Runs.Along Punctual.act (fun s c => s.Allowed 3 2 c) ⟨0, []⟩ lateCalls ∧
      (Runs.run (callRingtimer 4) smallWheel lateCalls).map Prod.snd =
        some [.ticked [], .ticked [], .inserted true, .ticked [], .ticked []] ∧
      (Runs.run Punctual.act ⟨0, []⟩ lateCalls).map Prod.snd ≠
        some [.ticked [], .ticked [], .inserted true, .ticked [], .ticked []]) ∧
    Runs.Along Punctual.act (fun s c => s.Allowed 3 2 c) ⟨0, []⟩ earlyCalls ∧
      (Runs.run (callRingtimer 4) smallWheel earlyCalls).map Prod.snd =
        some [.inserted true, .inserted true, .ticked [7, 9]] ∧
      (Runs.run Punctual.act ⟨0, []⟩ earlyCalls).map Prod.snd ≠
        some [.inserted true, .inserted true, .ticked [7, 9]] := by
  refine ⟨⟨by decide, ?_, by decide⟩, by decide, ?_, by decide⟩ <;> decide +kernel

end Kpnet.Timer
