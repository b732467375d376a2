import Kpnet.Timer.Shape

/-!
# The results of a tick and their array

`tick_ringtimer` stores the signals it reports without a look at the length of `res.signals`. How
many it stores is known before the tick: the timers that are due, or, where the first timer of the
slot is one of them, all timers of the slot.
-/
namespace Kpnet.Timer

open CircularList
open Kpnet.Ring (RingQueue)

variable {A : Type}

namespace Ringtimer

/-- Whether a node carries a signal. -/
def carries (ring : Ringtimer A) (a : A) : Bool := (ring.nodes a).signal ≠ 0

/-- The nodes of a slot that a tick reports. -/
def reportable (ring : Ringtimer A) (l : List A) : List A :=
  if l.head?.any ring.due then l.filter ring.carries else l.filter ring.due

end Ringtimer

theorem length_reportable_le (ring : Ringtimer A) (l : List A) :
    (ring.reportable l).length ≤ l.length := by
  rw [Ringtimer.reportable]
  split
  · exact List.length_filter_le _ _
  · exact List.length_filter_le _ _

/-- Nodes that have been taken out with a signal each, the others being left. -/
theorem length_fired {ring : Ringtimer A} {l fired rest : List A} (split : (fired ++ rest).Perm l)
    (live : ∀ a ∈ fired, (ring.nodes a).signal ≠ 0) :
    fired.length + (rest.filter ring.carries).length = (l.filter ring.carries).length := by
  have all : fired.filter ring.carries = fired :=
    List.filter_eq_self.mpr fun a member => decide_eq_true (live a member)
  rw [← (split.filter ring.carries).length_eq, List.filter_append, all, List.length_append]

variable [DecidableEq A]

/-- Every store `res.signals[res.count++]` of a tick, for however many rounds it goes on, has
`res.count` below `MAX_TICK_TIME`. -/
def StoresFit (ring : Ringtimer A) : Prop :=
  ∀ rounds count, count < (walkSlot rounds ring).2.1.length → count < maxTickTime

theorem storesFit_iff_length (ring : Ringtimer A) :
    StoresFit ring ↔ ∀ rounds, (walkSlot rounds ring).2.1.length ≤ maxTickTime :=
  forall_congr' fun _ => ⟨fun fit => by_contra fun long => Nat.lt_irrefl _ (fit _ (Nat.lt_of_not_le long)),
    fun short _ low => Nat.lt_of_lt_of_le low short⟩

section Slot

variable (ring : Ringtimer A) (l : List A) (front : ring.timers ring.current.toNat = l.head?)
  (chained : Chained ring.nodes l)

include front chained

theorem reported_le (rounds : Nat) :
    (walkSlot rounds ring).2.1.length ≤ (ring.reportable l).length := by
  cases l with
  | nil => simp [walkSlot, front]
  | cons head l =>
    rw [Ringtimer.reportable, List.head?_cons, Option.any_some]
    split_ifs with due
    · obtain ⟨ring', fired, rest, walked, roamed⟩ :=
        walkSlot_drains ring head l rounds front chained due
      have count := length_fired roamed.perm roamed.live
      rw [walked, List.length_map]
      omega
    · rw [Bool.not_eq_true] at due
      -- a walk of more rounds than needed has reported all that any walk reports
      obtain ⟨ring', walked, -⟩ := walkSlot_stays ring head l (rounds + (head :: l).length) front
        chained due (Nat.le_add_left _ _)
      have more := (walkSlot_reported_front ring
        (Nat.le_add_right rounds (head :: l).length)).length_le
      rwa [walked, List.length_map] at more

theorem exists_reported : ∃ rounds, (walkSlot rounds ring).2.1.length = (ring.reportable l).length := by
  cases l with
  | nil => exact ⟨0, by simp [walkSlot, front, Ringtimer.reportable]⟩
  | cons head l =>
    rw [Ringtimer.reportable, List.head?_cons, Option.any_some]
    split_ifs with due
    · obtain ⟨ring', fired, rest, walked, roamed⟩ := walkSlot_drains ring head l
        (burden ring.toil (head :: l)) front chained due
      have none_left : rest.filter ring.carries = [] := by
        rw [List.filter_eq_nil_iff]
        intro a member
        simp [Ringtimer.carries, roamed.spent (Nat.le_refl _) a member]
      have count := length_fired roamed.perm roamed.live
      rw [none_left, List.length_nil, Nat.add_zero] at count
      exact ⟨_, by rw [walked, List.length_map, count]⟩
    · rw [Bool.not_eq_true] at due
      obtain ⟨ring', walked, -⟩ := walkSlot_stays ring head l (head :: l).length front chained due
        (Nat.le_refl _)
      exact ⟨_, by rw [walked, List.length_map]⟩

/-- The stores of a tick fit exactly if it does not report more than the array holds. -/
theorem storesFit_iff : StoresFit ring ↔ (ring.reportable l).length ≤ maxTickTime := by
  rw [storesFit_iff_length]
  constructor
  · intro fit
    obtain ⟨rounds, count⟩ := exists_reported ring l front chained
    rw [← count]
    exact fit rounds
  · intro few rounds
    exact Nat.le_trans (reported_le ring l front chained rounds) few

end Slot

/-- A call is uncrowded if it is no tick, or if the tick reports no more timers of its slot than the
array holds. -/
def Uncrowded (ring : Ringtimer A) : TimerCall → Prop
  | .insert _ _ => True
  | .tick => ∀ l, ring.timers ring.current.toNat = l.head? → Chained ring.nodes l →
    (ring.reportable l).length ≤ maxTickTime

section Wheel

variable {pool : List A} {ring : Ringtimer A} (fuel : Nat) (calls : List TimerCall)

/-- Two conditions that agree on every wheel in shape agree along a run. -/
theorem along_congr_of_shaped (cond cond' : Ringtimer A → TimerCall → Prop)
    (start : ∃ slots free, Shaped pool slots free ring)
    (same : ∀ slots free ring c, Shaped pool slots free ring → (cond ring c ↔ cond' ring c)) :
    Runs.Along (callUnbounded fuel) cond ring calls ↔
      Runs.Along (callUnbounded fuel) cond' ring calls := by
  refine Runs.along_congr (callUnbounded fuel) cond cond'
    (fun ring => ∃ slots free, Shaped pool slots free ring) calls ring start ?_ ?_
  · rintro c - ring ring' ev ⟨slots, free, shaped⟩ called
    obtain ⟨slots', free', shaped', -⟩ := shaped.call called
    exact ⟨slots', free', shaped'⟩
  · rintro c - ring ⟨slots, free, shaped⟩
    exact same slots free ring c shaped

/-- A wheel with no more nodes than the array has places is never crowded. -/
theorem along_uncrowded_of_few (start : ∃ slots free, Shaped pool slots free ring)
    (few : pool.length ≤ maxTickTime) :
    Runs.Along (callUnbounded fuel) Uncrowded ring calls := by
  refine (along_congr_of_shaped fuel calls Uncrowded (fun _ _ => True) start ?_).mpr
    (Runs.along_true _ _ _)
  intro slots free ring c shaped
  have low := shaped.current_low
  have slot := (storesFit_iff ring _ (shaped.front _ low) (shaped.chained _ low)).mpr
    (Nat.le_trans (length_reportable_le ring _) (Nat.le_trans (shaped.length_slot_le low) few))
  cases c with
  | insert signal time => exact iff_of_true trivial trivial
  | tick => exact iff_true_intro fun l front chained => (storesFit_iff ring l front chained).mp slot

end Wheel

/-- In a run of inserts and ticks, every store of every tick fits into its array exactly if all ticks
are uncrowded. -/
theorem ringtimer_stores_fit_iff (timersCount : UInt32) (positive : 0 < timersCount)
    (allocator : RingQueue A) (memory : A → RingtimerCallback A) (pool : List A)
    (queued : allocator.contents.map Prod.fst = pool.map some) (nodup : pool.Nodup)
    (timerMalloc timersCalloc : Bool) (ring : Ringtimer A)
    (created : createRingtimer timerMalloc timersCalloc timersCount allocator memory = some ring)
    (fuel : Nat) (calls : List TimerCall) :
    (∀ before mid log, before ++ [.tick] <+: calls →
      Runs.run (callUnbounded fuel) ring before = some (mid, log) → StoresFit mid) ↔
      Runs.Along (callUnbounded fuel) Uncrowded ring calls := by
  have start : ∃ slots free, Shaped pool slots free ring :=
    ⟨_, pool, .of_created timersCount positive allocator memory pool queued nodup timerMalloc
      timersCalloc ring created⟩
  rw [along_congr_of_shaped fuel calls Uncrowded (fun ring c => c = .tick → StoresFit ring) start ?_,
    Runs.along_iff_forall_initial]
  · constructor
    · intro fit before c mid log initial ran same
      exact fit before mid log (same ▸ initial) ran
    · intro fit before mid log initial ran
      exact fit before .tick mid log initial ran rfl
  · intro slots free ring c shaped
    have low := shaped.current_low
    cases c with
    | insert signal time => exact iff_of_true trivial fun other => nomatch other
    | tick =>
      constructor
      · intro few _
        exact (storesFit_iff ring _ (shaped.front _ low) (shaped.chained _ low)).mpr
          (few _ (shaped.front _ low) (shaped.chained _ low))
      · intro fit l front chained
        exact (storesFit_iff ring l front chained).mp (fit rfl)

theorem ringtimer_stores_fit_iff_early_timers :
    createRingtimer true true 3 twoNodes (fun a => ⟨0, 0, a, a⟩) = some smallWheel ∧
    ∀ before mid log, before ++ [.tick] <+: earlyCalls →
      Runs.run (callUnbounded 4) smallWheel before = some (mid, log) → StoresFit mid := by
  have queued : twoNodes.contents.map Prod.fst = [0, 1].map some := by
    rw [twoNodes, RingQueue.contents_pair]
    rfl
  have start : ∃ slots free, Shaped [0, 1] slots free smallWheel :=
    ⟨_, [0, 1], .of_created 3 (by decide) twoNodes (fun a => ⟨0, 0, a, a⟩) [0, 1] queued (by decide)
      true true smallWheel rfl⟩
  have fit := ringtimer_stores_fit_iff 3 (by decide) twoNodes (fun a => ⟨0, 0, a, a⟩) [0, 1] queued
    (by decide) true true smallWheel rfl 4 earlyCalls
  exact ⟨rfl, fit.mpr (along_uncrowded_of_few 4 earlyCalls start (by decide))⟩

/-- Inserts for the next tick, one after the other, all end up in the current slot. -/
theorem Shaped.gather {pool free : List A} {slots : Nat → List A} {ring : Ringtimer A} (fuel k : Nat)
    (shaped : Shaped pool slots free ring) (signal : UInt64) (nonzero : signal ≠ 0)
    (due : ∀ a ∈ slots ring.current.toNat, ring.due a = true) (enough : k ≤ free.length) :
    ∃ slots' free' ring' log, Runs.run (callUnbounded fuel) ring
        (List.replicate k (.insert signal 1)) = some (ring', log) ∧ Shaped pool slots' free' ring' ∧
      (slots' ring'.current.toNat).length = (slots ring.current.toNat).length + k ∧
      ∀ a ∈ slots' ring'.current.toNat, ring'.due a = true := by
  induction k generalizing slots free ring with
  | zero => exact ⟨slots, free, ring, [], rfl, shaped, rfl, due⟩
  | succ k ih =>
    have low := shaped.current_low
    have available : ring.allocator.contents ≠ [] := by
      rw [← List.length_pos_iff, shaped.length_contents]
      omega
    have here : insertSlot ring 1 = ring.current := by simp [insertSlot]
    have place : (insertSlot ring 1 % ring.max).toNat = ring.current.toNat := by
      rw [here, UInt32.toNat_mod, Nat.mod_eq_of_lt low]
    have at_once : (insertSlot ring 1 / ring.max).toUInt64 = 0 := by
      rw [here, ← UInt64.toNat_inj, UInt32.toNat_toUInt64, UInt32.toNat_div, Nat.div_eq_of_lt low]
      rfl
    obtain ⟨cur, free', mid, rfl, inserted, max, current, shaped', new, revolutions, kept⟩ :=
      shaped.insert signal 1 available
    rw [place] at shaped'
    rw [at_once] at revolutions
    rw [List.length_cons] at enough
    have due' : ∀ a ∈ Function.update slots ring.current.toNat (slots ring.current.toNat ++ [cur])
        mid.current.toNat, mid.due a = true := by
      intro a member
      rw [current, Function.update_self, List.mem_append, List.mem_singleton] at member
      by_cases fresh : a = cur
      · rw [fresh, Ringtimer.due, new, revolutions]
        exact decide_eq_true ⟨nonzero, rfl⟩
      · have before := due a (member.resolve_right fresh)
        rwa [Ringtimer.due, (kept a fresh).1, (kept a fresh).2]
    obtain ⟨slots', free'', ring', log, ran, final, count, all⟩ := ih shaped' due' (by omega)
    refine ⟨slots', free'', ring', .inserted true :: log, ?_, final, ?_, all⟩
    · simp only [List.replicate_succ, Runs.run, callUnbounded, inserted, Option.map_some, ran,
        List.singleton_append]
    · rw [count, current, Function.update_self, List.length_append, List.length_singleton]
      omega

/-- A new allocator of `2 ^ k` nodes. -/
def freshNodes (k : Nat) (one_le : 1 ≤ k) (le_bits : k ≤ 63) : RingQueue Nat :=
  .allocator k one_le le_bits (fun _ => ⟨0, 0, none⟩) id 64 64

/-- A wheel of the size that `create_client` makes. -/
def clientWheel (allocator : RingQueue Nat) : Ringtimer Nat where
  timers := fun _ => none
  current := 0
  max := 5 * 60
  allocator := allocator
  nodes := fun a => ⟨0, 0, a, a⟩

/-- 65 timers for the next tick. -/
theorem crowded_tick_overruns :
    let nodes := freshNodes 8 (by decide) (by decide)
    createRingtimer true true (5 * 60) nodes (fun a => ⟨0, 0, a, a⟩) = some (clientWheel nodes) ∧
    nodes.contents.length = 256 ∧
    ∃ mid log, Runs.run (callUnbounded 0) (clientWheel nodes) (List.replicate 65 (.insert 7 1)) =
      some (mid, log) ∧ ¬StoresFit mid := by
  intro nodes
  have contents : nodes.contents = (List.range 256).map fun a => (some a, 64) :=
    RingQueue.contents_allocator 8 (by decide) (by decide) (fun _ => ⟨0, 0, none⟩) id 64 64
  have shaped : Shaped (List.range 256) (fun _ => []) (List.range 256) (clientWheel nodes) :=
    .of_created (5 * 60) (by decide) nodes (fun a => ⟨0, 0, a, a⟩) (List.range 256)
      (by rw [contents, List.map_map]; rfl) List.nodup_range true true (clientWheel nodes) rfl
  refine ⟨rfl, by rw [contents, List.length_map, List.length_range], ?_⟩
  obtain ⟨slots, free, mid, log, ran, shaped', count, due⟩ := shaped.gather 0 65 7 (by decide)
    (by simp) (by simp)
  refine ⟨mid, log, ran, ?_⟩
  have low := shaped'.current_low
  rw [storesFit_iff mid _ (shaped'.front _ low) (shaped'.chained _ low)]
  have all : mid.reportable (slots mid.current.toNat) = slots mid.current.toNat := by
    rw [Ringtimer.reportable]
    split_ifs
    · refine List.filter_eq_self.mpr fun a member => ?_
      have both := due a member
      rw [Ringtimer.due, decide_eq_true_iff] at both
      exact decide_eq_true both.1
    · exact List.filter_eq_self.mpr due
  rw [all, count]
  decide

end Kpnet.Timer
