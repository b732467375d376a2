import Kpnet.Timer.Punctual

/-!
# What one tick does to any slot

The loop of `tick_ringtimer` ends on every slot whose timers carry signals, also when the node it
started from has been unlinked and `t != head` can no longer become false: every round takes a node
out or a revolution off one. That a tick treats every timer once is another matter. When the first
timer of the slot is due and another one is not, the walk goes round until it has fired them all.
-/
namespace Kpnet.Timer

open CircularList

variable {A : Type}

/-- A tick has treated each timer of the slot once: what was due is reported and gone, the others
have one revolution less to go, and nothing else has changed. -/
structure Treated (ring : Ringtimer A) (l : List A) (signals : List Int32) (ring' : Ringtimer A) :
    Prop where
  reported : signals = (l.filter ring.fires).map ring.report
  front : ring'.timers ring.current.toNat = (l.filter fun a => !ring.fires a).head?
  chained : Chained ring'.nodes (l.filter fun a => !ring.fires a)
  waits : ∀ a ∈ l, ring.fires a = false →
    (ring'.nodes a).retries = (ring.nodes a).retries - 1
  signal : ∀ a, (ring'.nodes a).signal = (ring.nodes a).signal
  timers : ∀ i, i ≠ ring.current.toNat → ring'.timers i = ring.timers i
  far : ∀ a, a ∉ l → ring'.nodes a = ring.nodes a
  current : ring'.current = (ring.current + 1) % ring.max
  max : ring'.max = ring.max

variable [DecidableEq A]

/-- `tick_ringtimer` returns, and has treated each timer of the slot once. -/
def TreatsOnce (ring : Ringtimer A) (l : List A) : Prop :=
  ∃ fuel signals ring', tickRingtimer fuel ring = some (signals, ring') ∧
    Treated ring l signals ring'

/-- A tick that returns has stored its signals within the array. -/
theorem tickRingtimer_length {fuel : Nat} {ring ring' : Ringtimer A} {signals : List Int32}
    (ticked : tickRingtimer fuel ring = some (signals, ring')) :
    signals.length ≤ maxTickTime ∧ tickUnbounded fuel ring = some (signals, ring') := by
  rw [tickRingtimer_eq_unbounded, Option.filter_eq_some_iff] at ticked
  exact ⟨by simpa using ticked.2, ticked.1⟩

/-- A tick on a slot whose first node is due reports all its nodes, if it ends. -/
theorem tickUnbounded_drains {fuel : Nat} {ring ring' : Ringtimer A} {head : A} {l : List A}
    {signals : List Int32} (front : ring.timers ring.current.toNat = some head)
    (chained : Chained ring.nodes (head :: l)) (due : ring.due head = true)
    (ticked : tickUnbounded fuel ring = some (signals, ring')) :
    signals.length = (head :: l).length := by
  obtain ⟨last, fired, rest, walked, roamed⟩ := walkSlot_drains ring head l fuel front chained due
  rw [tickUnbounded, walked] at ticked
  cases rest with
  | cons b rest => cases ticked
  | nil =>
    have all := roamed.perm.length_eq
    rw [List.append_nil] at all
    cases ticked
    rw [List.length_map, all]

theorem TreatsOnce.few {ring : Ringtimer A} {l : List A} (treats : TreatsOnce ring l) :
    (l.filter ring.fires).length ≤ maxTickTime := by
  obtain ⟨fuel, signals, ring', ticked, treated⟩ := treats
  have fits := (tickRingtimer_length ticked).1
  rwa [treated.reported, List.length_map] at fits

section Slot

variable (ring : Ringtimer A) (l : List A) (front : ring.timers ring.current.toNat = l.head?)
  (chained : Chained ring.nodes l) (nonzero : ∀ a ∈ l, (ring.nodes a).signal ≠ 0)

include front chained nonzero

theorem treatsOnce_of_orderly (orderly : ring.Orderly l)
    (few : (l.filter ring.fires).length ≤ maxTickTime) : TreatsOnce ring l := by
  obtain ⟨ring', ticked, stretch, waits, front', linked⟩ :=
    tickRingtimer_passes ring l l.length front chained nonzero orderly (Nat.le_refl _) few
  exact ⟨l.length, _, _, ticked, rfl, front', linked, waits, stretch.signal, stretch.timers,
    stretch.far, rfl, stretch.max⟩

theorem TreatsOnce.orderly (treats : TreatsOnce ring l) : ring.Orderly l := by
  obtain ⟨fuel, signals, ring', ticked, treated⟩ := treats
  by_contra disorderly
  rw [Ringtimer.Orderly, not_or] at disorderly
  obtain ⟨first, others⟩ := disorderly
  cases l with
  | nil => simp at others
  | cons head l =>
    have fires : ring.fires head = true := by simpa using first
    have due : ring.due head = true := by
      rw [Ringtimer.due_eq_fires nonzero head (by simp), fires]
    -- the walk fires every node, but not all of them were due
    have all := tickUnbounded_drains front chained due (tickRingtimer_length ticked).2
    rw [treated.reported, List.length_map, List.length_filter_eq_length_iff] at all
    exact others all

/-- A tick treats every timer of its slot once exactly if the first timer is not due or all of them
are, and no more are due than the result has room for. -/
theorem treatsOnce_iff :
    TreatsOnce ring l ↔ ring.Orderly l ∧ (l.filter ring.fires).length ≤ maxTickTime := by
  constructor
  · intro treats
    exact ⟨treats.orderly ring l front chained nonzero, treats.few⟩
  · rintro ⟨orderly, few⟩
    exact treatsOnce_of_orderly ring l front chained nonzero orderly few

/-- A walk has ended after as many rounds as its nodes have revolutions to go, and one for each. -/
theorem walkSlot_ends (fuel : Nat) (light : ring.weight l ≤ fuel) :
    (walkSlot fuel ring).2.2 = none := by
  cases l with
  | nil => rw [walkSlot, front, List.head?_nil]
  | cons head l =>
    by_cases due : ring.due head = true
    · obtain ⟨ring', fired, rest, walked, roamed⟩ :=
        walkSlot_drains ring head l fuel front chained due
      rw [walked, roamed.ends nonzero light, List.head?_nil]
    · rw [Bool.not_eq_true] at due
      obtain ⟨ring', walked, -⟩ := walkSlot_stays ring head l fuel front chained due
        (Nat.le_trans (ring.length_le_weight (head :: l)) light)
      rw [walked]

/-- With that many rounds or more, the tick returns the same. -/
theorem tickRingtimer_ticks :
    ∃ signals ring', ∀ fuel, ring.weight l ≤ fuel →
      tickUnbounded fuel ring = some (signals, ring') := by
  have ended := walkSlot_ends ring l front chained nonzero (ring.weight l) (Nat.le_refl _)
  rcases walked : walkSlot (ring.weight l) ring with ⟨last, signals, at_node⟩
  rw [walked] at ended
  cases ended
  refine ⟨signals, { last with current := (last.current + 1) % last.max }, ?_⟩
  intro fuel light
  rw [tickUnbounded, walkSlot_ended ring light (by rw [walked]), walked]

/-- The loop of `tick_ringtimer` ends on every slot, and the tick returns then unless it has stored
past the array. -/
theorem tickRingtimer_ends :
    ∃ signals ring', ∀ fuel, ring.weight l ≤ fuel →
      tickUnbounded fuel ring = some (signals, ring') ∧
      tickRingtimer fuel ring =
        if signals.length ≤ maxTickTime then some (signals, ring') else none := by
  obtain ⟨signals, ring', ticked⟩ := tickRingtimer_ticks ring l front chained nonzero
  refine ⟨signals, ring', fun fuel light => ⟨ticked fuel light, ?_⟩⟩
  rw [tickRingtimer_eq_unbounded, ticked fuel light, Option.filter_some]
  simp only [decide_eq_true_eq]

end Slot

/-- A wheel with two timers in its first slot, with these revolutions to go; the allocator has
given out both its nodes. -/
def twoTimers (first second : UInt64) : Ringtimer Nat where
  timers := fun i => if i = 0 then some 0 else none
  current := 0
  max := 3
  allocator := twoNodes.pop.2.pop.2
  nodes := fun a => if a = 0 then ⟨first, 7, 1, 1⟩ else ⟨second, 9, 0, 0⟩

theorem twoTimers_chained (first second : UInt64) :
    Chained (twoTimers first second).nodes [0, 1] :=
  have single : Cyclic (fun _ => 0) (fun _ => 0) [0] := Cyclic.singleton rfl rfl
  Cyclic.append single (by decide) rfl rfl rfl rfl (by simp) (by simp)

theorem twoTimers_nonzero (first second : UInt64) :
    ∀ a ∈ [0, 1], ((twoTimers first second).nodes a).signal ≠ 0 := by
  simp [twoTimers]

theorem treatsOnce_iff_two_timers : TreatsOnce (twoTimers 2 0) [0, 1] := by
  have treats := treatsOnce_iff (twoTimers 2 0) [0, 1] rfl (twoTimers_chained 2 0)
    (twoTimers_nonzero 2 0)
  -- the first of them has two revolutions to go
  have first : ∀ a, [0, 1].head? = some a → (twoTimers 2 0).fires a = false := by
    rintro _ ⟨⟩
    rfl
  exact treats.mpr ⟨.inl first, by decide⟩

/-- The first timer is due and the second has a revolution to go; both are reported. -/
theorem second_timer_not_treated_once :
    (twoTimers 0 1).timers (twoTimers 0 1).current.toNat = [0, 1].head? ∧
    Chained (twoTimers 0 1).nodes [0, 1] ∧
    (∀ a ∈ [0, 1], ((twoTimers 0 1).nodes a).signal ≠ 0) ∧
    (tickRingtimer 3 (twoTimers 0 1)).map Prod.fst = some [7, 9] ∧
    ¬TreatsOnce (twoTimers 0 1) [0, 1] := by
  refine ⟨rfl, twoTimers_chained 0 1, twoTimers_nonzero 0 1, by decide +kernel, ?_⟩
  intro treats
  have orderly := treats.orderly _ _ rfl (twoTimers_chained 0 1) (twoTimers_nonzero 0 1)
  rcases orderly with first | all
  · exact absurd (first 0 rfl) (by decide)
  · exact absurd (all 1 (by simp)) (by decide)

theorem tickRingtimer_ends_two_timers :
    ∃ signals ring', ∀ fuel, (twoTimers 0 1).weight [0, 1] ≤ fuel →
      tickUnbounded fuel (twoTimers 0 1) = some (signals, ring') ∧
      tickRingtimer fuel (twoTimers 0 1) =
        if signals.length ≤ maxTickTime then some (signals, ring') else none :=
  tickRingtimer_ends (twoTimers 0 1) [0, 1] rfl (twoTimers_chained 0 1) (twoTimers_nonzero 0 1)

end Kpnet.Timer
