import Kpnet.Timer.Punctual

/-!
# One timer on the wheel

A wheel that never holds more than one timer walks no list, so what the timer waits for is known
even where the wheel is late: a timer armed across the end of the wheel is one revolution late.
-/
namespace Kpnet.Timer

open CircularList
open Kpnet.Ring (RingQueue)

variable {A : Type}

/-- A wheel of `m` slots with its cursor, all of whose free cells hold nodes. -/
structure Cursor (m cursor : Nat) (ring : Ringtimer A) : Prop where
  max : ring.max.toNat = m
  current : ring.current.toNat = cursor
  low : cursor < m
  nodes : ∀ entry ∈ ring.allocator.contents, entry.1 ≠ none

/-- No timer is pending, and there is a node for one. -/
structure Slack (m cursor : Nat) (ring : Ringtimer A) : Prop extends Cursor m cursor ring where
  empty : ∀ i, ring.timers i = none
  free : ring.allocator.contents ≠ []

/-- One timer is pending, `left` ticks away. -/
structure Wound (m cursor left : Nat) (signal : UInt64) (ring : Ringtimer A) : Prop extends
    Cursor m cursor ring where
  pending : ∃ t i, i < m ∧ ring.timers i = some t ∧ (∀ j, j ≠ i → ring.timers j = none) ∧
    Chained ring.nodes [t] ∧ (ring.nodes t).signal = signal ∧
    left = (i + m - cursor) % m + m * (ring.nodes t).retries.toNat + 1
  room : ring.allocator.contents.length < ring.allocator.capacity

/-- When a timer armed for `time` ticks fires. -/
def expiry (m cursor time : Nat) : Nat := if cursor + (time - 1) < m then time else time + m

variable {m cursor left : Nat} {signal : UInt64} {ring : Ringtimer A}

theorem Cursor.tick (wheel : Cursor m cursor ring) :
    ((ring.current + 1) % ring.max).toNat = (cursor + 1) % m := by
  have bits := ring.max.toNat_lt
  have low := wheel.low
  rw [wheel.max] at bits
  rw [UInt32.toNat_mod, UInt32.toNat_add, wheel.max, wheel.current, UInt32.toNat_one,
    Nat.mod_eq_of_lt (show cursor + 1 < 2 ^ 32 by omega)]

/-- How far slot `i` is ahead of the cursor. -/
theorem distance_eq (i : Nat) (inside : i < m) (low : cursor < m) :
    (i + m - cursor) % m = if cursor ≤ i then i - cursor else i + m - cursor := by
  split
  next ahead =>
    rw [show i + m - cursor = i - cursor + m by omega, Nat.add_mod_right, Nat.mod_eq_of_lt (by omega)]
  next around => exact Nat.mod_eq_of_lt (by omega)

/-- The distance after a tick. -/
theorem distance_tick (i : Nat) (inside : i < m) (low : cursor < m) :
    (i + m - (cursor + 1) % m) % m =
      if i = cursor then m - 1 else (i + m - cursor) % m - 1 := by
  rw [distance_eq i inside (Nat.mod_lt _ (by omega)), distance_eq i inside low]
  by_cases last : cursor + 1 = m
  · rw [last, Nat.mod_self]
    split_ifs <;> omega
  · rw [Nat.mod_eq_of_lt (show cursor + 1 < m by omega)]
    split_ifs <;> omega

/-- The distance and the revolutions that an insert gives to its timer. Beyond the end of the wheel one
revolution is counted that the slot has already wrapped by. -/
theorem expiry_eq {time : Nat} (one_le : 1 ≤ time) (short : time ≤ m) (low : cursor < m) :
    expiry m cursor time = ((cursor + (time - 1)) % m + m - cursor) % m +
      m * ((cursor + (time - 1)) / m) + 1 := by
  rw [expiry]
  split
  next within =>
    rw [Nat.mod_eq_of_lt within, Nat.div_eq_of_lt within,
      show cursor + (time - 1) + m - cursor = time - 1 + m by omega, Nat.add_mod_right,
      Nat.mod_eq_of_lt (by omega)]
    omega
  next beyond =>
    have wraps : (cursor + (time - 1)) % m = cursor + (time - 1) - m := by
      rw [Nat.mod_eq_sub_mod (by omega), Nat.mod_eq_of_lt (by omega)]
    have once : (cursor + (time - 1)) / m = 1 := Nat.div_eq_of_lt_le (by omega) (by omega)
    rw [wraps, once, show cursor + (time - 1) - m + m - cursor = time - 1 by omega,
      Nat.mod_eq_of_lt (by omega)]
    omega

variable [DecidableEq A]

/-- A single timer is armed. Its slot number counts from the first slot on, and so do its revolutions,
even if it is only the cursor that is far from there. -/
theorem Slack.insert (slack : Slack m cursor ring) (signal time : UInt64) (one_le : 1 ≤ time.toNat)
    (short : time.toNat ≤ m) (fits : 2 * m < 2 ^ 32) :
    ∃ ring', insertRingtimer signal time ring = some (true, ring') ∧
      Wound m cursor (expiry m cursor time.toNat) signal ring' := by
  obtain ⟨⟨max, current, low, nodes⟩, empty, free⟩ := slack
  obtain ⟨⟨packet, plen⟩, rest, contents⟩ := List.exists_cons_of_ne_nil free
  have holds := nodes (packet, plen) (by simp [contents])
  obtain ⟨cur, rfl⟩ := Option.ne_none_iff_exists'.mp holds
  have popped : ring.allocator.pop = (some (some cur, plen), ring.allocator.pop.2) := by
    rw [← List.head?_cons (l := rest), ← contents, ← ring.allocator.pop_fst]
  have slot := Wheel.insertSlot_toNat ring time one_le (by omega)
  have place : (insertSlot ring time % ring.max).toNat = (cursor + (time.toNat - 1)) % m := by
    rw [UInt32.toNat_mod, slot, max, current]
  have revolutions : (insertSlot ring time / ring.max).toUInt64.toNat =
      (cursor + (time.toNat - 1)) / m := by
    rw [UInt32.toNat_toUInt64, UInt32.toNat_div, slot, max, current]
  obtain ⟨timers, nodes', inserted, here, elsewhere, chained, signal', retries, -, -⟩ :=
    insertRingtimer_spec ring signal time [] cur plen ring.allocator.pop.2 (empty _) Cyclic.nil
      (by simp) popped
  refine ⟨_, inserted, ⟨max, current, low, ?_⟩, ?_, ?_⟩
  · intro entry member
    rw [RingQueue.contents_pop] at member
    exact nodes entry (List.mem_of_mem_tail member)
  · refine ⟨cur, (insertSlot ring time % ring.max).toNat, ?_, here, ?_, chained, signal', ?_⟩
    · rw [place]
      exact Nat.mod_lt _ (by omega)
    · intro j other
      exact (elsewhere j other).trans (empty j)
    · dsimp only
      rw [retries, revolutions, place, expiry_eq one_le short low]
  · have bounded := ring.allocator.length_contents_le
    have positive := List.length_pos_iff.mpr free
    dsimp only
    rw [RingQueue.contents_pop, RingQueue.capacity_pop, List.length_tail]
    omega

/-- A tick past the slot of a single timer that has a revolution to go. -/
theorem tick_single_waits {t : A} {fuel : Nat} (here : ring.timers ring.current.toNat = some t)
    (chained : Chained ring.nodes [t]) (nonzero : (ring.nodes t).signal ≠ 0)
    (revolves : ring.fires t = false) (enough : 1 ≤ fuel) :
    ∃ ring', tickRingtimer fuel ring =
        some ([], { ring' with current := (ring.current + 1) % ring.max }) ∧
      Walked [t] [t] ring ring' ∧ ring'.allocator.contents = ring.allocator.contents ∧
      ring'.timers ring.current.toNat = some t ∧ Chained ring'.nodes [t] := by
  have bounded := ring.allocator.length_contents_le
  have none : [t].filter ring.fires = [] := by simp [revolves]
  have all : [t].filter (fun a => !ring.fires a) = [t] := by simp [revolves]
  obtain ⟨ring', ticked, walked, front, linked⟩ := tickRingtimer_orderly ring [t] fuel
    (by rw [here, List.head?_cons]) chained (by simp [nonzero]) (.inl (by simp [revolves])) enough
    (by simp [none]) (by simp [none, bounded])
  have freed := walked.freed
  rw [none, List.map_nil] at ticked
  rw [none, List.map_nil, List.append_nil] at freed
  rw [all] at front linked
  exact ⟨ring', ticked, walked, freed, front, linked⟩

/-- A tick that the timer is not due at brings it one tick nearer. -/
theorem Wound.tick_waits (wound : Wound m cursor left signal ring) (nonzero : signal ≠ 0)
    (waits : left ≠ 1) (fuel : Nat) (enough : 1 ≤ fuel) :
    ∃ ring', tickRingtimer fuel ring = some ([], ring') ∧
      Wound m ((cursor + 1) % m) (left - 1) signal ring' := by
  have moved := wound.toCursor.tick
  obtain ⟨⟨max, current, low, nodes⟩, ⟨t, i, inside, here, elsewhere, chained, is, rfl⟩, room⟩ := wound
  by_cases away : i = cursor
  · -- the timer is in the slot, with a revolution to go
    subst away
    have again : (ring.nodes t).retries.toNat ≠ 0 := by
      intro zero
      rw [zero, Nat.add_sub_cancel_left, Nat.mod_self] at waits
      exact waits rfl
    have revolves : ring.fires t = false := by
      simpa [Ringtimer.fires, ← UInt64.toNat_inj] using again
    obtain ⟨ring', ticked, walked, freed, front, linked⟩ :=
      tick_single_waits (by rw [current, here]) chained (by rw [is]; exact nonzero) revolves enough
    refine ⟨_, ticked, ⟨by dsimp only; rw [walked.max, max], moved, Nat.mod_lt _ (by omega), ?_⟩,
      ?_, ?_⟩
    · dsimp only
      rw [freed]
      exact nodes
    · refine ⟨t, i, inside, by rw [← current]; exact front, ?_, linked,
        by dsimp only; rw [walked.signal, is], ?_⟩
      · intro j other
        dsimp only
        rw [walked.timers j (by rw [current]; exact other), elsewhere j other]
      · have one_le : (1 : UInt64) ≤ (ring.nodes t).retries := by
          rw [UInt64.le_iff_toNat_le, UInt64.toNat_one]
          omega
        have fewer := Nat.mul_le_mul_left m (show 1 ≤ (ring.nodes t).retries.toNat by omega)
        dsimp only
        rw [walked.waits t (by simp) revolves, UInt64.toNat_sub_of_le _ _ one_le, UInt64.toNat_one,
          Nat.add_sub_cancel_left, Nat.mod_self, distance_tick i inside low, if_pos rfl, Nat.mul_sub]
        omega
    · dsimp only
      rw [freed, walked.capacity]
      exact room
  · -- the slot is empty
    refine ⟨{ ring with current := (ring.current + 1) % ring.max }, ?_,
      ⟨max, moved, Nat.mod_lt _ (by omega), nodes⟩,
      ⟨t, i, inside, here, elsewhere, chained, is, ?_⟩, room⟩
    · rw [tickRingtimer, current, elsewhere cursor (Ne.symm away)]
    · have ahead : 0 < (i + m - cursor) % m := by
        rw [distance_eq i inside low]
        split_ifs <;> omega
      dsimp only
      rw [distance_tick i inside low, if_neg away]
      omega

/-- The tick it is due at reports it and leaves the wheel empty. -/
theorem Wound.tick_fires (wound : Wound m cursor 1 signal ring) (nonzero : signal ≠ 0)
    (fuel : Nat) (enough : 1 ≤ fuel) :
    ∃ ring', tickRingtimer fuel ring = some ([signal.toUInt32.toInt32], ring') ∧
      Slack m ((cursor + 1) % m) ring' := by
  have moved := wound.toCursor.tick
  obtain ⟨⟨max, current, low, nodes⟩, ⟨t, i, inside, here, elsewhere, chained, is, due⟩, room⟩ := wound
  -- it is in the slot of the cursor, with no revolution to go
  have near : (i + m - cursor) % m = 0 := by omega
  have none_left : m * (ring.nodes t).retries.toNat = 0 := by omega
  have at_cursor : i = cursor := by
    rw [distance_eq i inside low] at near
    split_ifs at near <;> omega
  have zero : (ring.nodes t).retries.toNat = 0 := by
    rcases Nat.mul_eq_zero.mp none_left with none | zero
    · omega
    · exact zero
  have fires : ring.fires t = true := by
    simpa [Ringtimer.fires, ← UInt64.toNat_inj] using zero
  subst at_cursor
  obtain ⟨ring', ticked, walked, front, -⟩ := tickRingtimer_orderly ring [t] fuel
    (by rw [current, here]; rfl) chained (by simp [is, nonzero]) (.inr (by simp [fires])) enough
    (by simp [fires, maxTickTime]) (by simp [fires]; omega)
  simp only [List.filter_cons, fires, if_true, List.filter_nil, List.map_cons, List.map_nil,
    Bool.not_true, Bool.false_eq_true, if_false, List.head?_nil] at ticked front
  have freed := walked.freed
  simp only [List.filter_cons, fires, if_true, List.filter_nil, List.map_cons, List.map_nil] at freed
  rw [Ringtimer.report, is] at ticked
  refine ⟨_, ticked, ⟨by dsimp only; rw [walked.max, max], moved, Nat.mod_lt _ (by omega), ?_⟩,
    ?_, ?_⟩
  · dsimp only
    rw [freed, List.forall_mem_append, List.forall_mem_singleton]
    exact ⟨nodes, Option.some_ne_none t⟩
  · intro j
    by_cases same : j = i
    · rw [same, ← current]
      exact front
    · dsimp only
      rw [walked.timers j (by rw [current]; exact same), elsewhere j same]
  · dsimp only
    rw [freed]
    simp

end Kpnet.Timer
