import Kpnet.Lib.Tokens
import Kpnet.Timer.Once

/-!
# The shape of the wheel

Every node of the allocator is always in one place: queued in the allocator or linked into the list
of one slot. Each slot is `NULL` or the first node of a circular list. Both hold after every insert
and every tick, whatever the walk of a tick has unlinked on its way.
-/
namespace Kpnet.Timer

open CircularList Tokens
open Kpnet.Ring (RingQueue)

variable {A : Type}

/-- A wheel with the nodes `pool`: `free` of them are queued, the others are linked into the slots. -/
structure Shaped (pool : List A) (slots : Nat → List A) (free : List A) (ring : Ringtimer A) :
    Prop where
  current : ring.current < ring.max
  front : ∀ i < ring.max.toNat, ring.timers i = (slots i).head?
  chained : ∀ i < ring.max.toNat, Chained ring.nodes (slots i)
  queued : ring.allocator.contents.map Prod.fst = free.map some
  placed : (free ++ inRows ring.max.toNat slots).Perm pool
  nodup : pool.Nodup
  fits : pool.length ≤ ring.allocator.capacity

/-- All timers that are pending carry a signal. -/
def Live (slots : Nat → List A) (ring : Ringtimer A) : Prop :=
  ∀ i < ring.max.toNat, ∀ a ∈ slots i, (ring.nodes a).signal ≠ 0

namespace Shaped

variable {pool free : List A} {slots : Nat → List A} {ring : Ringtimer A}

theorem placed_nodup (shaped : Shaped pool slots free ring) :
    (free ++ inRows ring.max.toNat slots).Nodup := shaped.placed.nodup_iff.mpr shaped.nodup

/-- No node is in two slots. -/
theorem apart (shaped : Shaped pool slots free ring) {i j : Nat} (low : i < ring.max.toNat)
    (low' : j < ring.max.toNat) {a : A} (member : a ∈ slots i) (member' : a ∈ slots j) : i = j :=
  eq_of_mem_rows (List.nodup_append.mp shaped.placed_nodup).2.1 low low' member member'

/-- No node of a slot is free. -/
theorem used (shaped : Shaped pool slots free ring) {i : Nat} (low : i < ring.max.toNat) {a : A}
    (member : a ∈ slots i) : a ∉ free := by
  intro member'
  exact (List.nodup_append.mp shaped.placed_nodup).2.2 a member' a
    (mem_inRows.mpr ⟨i, low, member⟩) rfl

theorem current_low (shaped : Shaped pool slots free ring) :
    ring.current.toNat < ring.max.toNat := UInt32.lt_iff_toNat_lt.mp shaped.current

theorem length_slot_le (shaped : Shaped pool slots free ring) {i : Nat}
    (low : i < ring.max.toNat) : (slots i).length ≤ pool.length := by
  have within : slots i ⊆ inRows ring.max.toNat slots := fun a member =>
    mem_inRows.mpr ⟨i, low, member⟩
  have nodup := (shaped.chained i low).1
  calc (slots i).length ≤ (inRows ring.max.toNat slots).length :=
        (List.subperm_of_subset nodup within).length_le
    _ ≤ (free ++ inRows ring.max.toNat slots).length := by simp
    _ = pool.length := shaped.placed.length_eq

theorem length_contents (shaped : Shaped pool slots free ring) :
    ring.allocator.contents.length = free.length := by
  simpa using congrArg List.length shaped.queued

/-- What is handed back always finds a cell. -/
theorem room (shaped : Shaped pool slots free ring) {fired rest : List A} {i : Nat}
    (low : i < ring.max.toNat) (split : (fired ++ rest).Perm (slots i)) :
    ring.allocator.contents.length + fired.length ≤ ring.allocator.capacity := by
  have taken := (inRows_perm slots (Function.update slots i rest) low fired
    (by rwa [Function.update_self]) (fun j _ other => Function.update_of_ne other _ _)).length_eq
  have total := shaped.placed.length_eq
  have fits := shaped.fits
  rw [List.length_append] at taken total
  rw [shaped.length_contents]
  omega

/-- A new wheel with all its nodes queued. -/
theorem create (timersCount : UInt32) (positive : 0 < timersCount) (allocator : RingQueue A)
    (memory : A → RingtimerCallback A) (pool : List A)
    (queued : allocator.contents.map Prod.fst = pool.map some) (nodup : pool.Nodup) :
    Shaped pool (fun _ => []) pool
      { timers := fun _ => none, current := 0, max := timersCount, allocator := allocator
        nodes := memory } := by
  have bounded := allocator.length_contents_le
  have lengths := congrArg List.length queued
  rw [List.length_map, List.length_map] at lengths
  refine ⟨positive, fun _ _ => rfl, fun _ _ => Cyclic.nil, queued, ?_, nodup, ?_⟩
  · rw [inRows, List.flatMap_eq_nil_iff.mpr fun _ _ => rfl, List.append_nil]
  · rw [← lengths]
    exact bounded

theorem of_created (timersCount : UInt32) (positive : 0 < timersCount) (allocator : RingQueue A)
    (memory : A → RingtimerCallback A) (pool : List A)
    (queued : allocator.contents.map Prod.fst = pool.map some) (nodup : pool.Nodup)
    (timerMalloc timersCalloc : Bool) (ring : Ringtimer A)
    (created : createRingtimer timerMalloc timersCalloc timersCount allocator memory = some ring) :
    Shaped pool (fun _ => []) pool ring := by
  rw [createRingtimer] at created
  split at created
  · cases created
    exact create timersCount positive allocator memory pool queued nodup
  · cases created

end Shaped

variable [DecidableEq A]

namespace Shaped

variable {pool free : List A} {slots : Nat → List A} {ring : Ringtimer A}

/-- An insert takes the first free node and links it in as the last of its slot. -/
theorem insert (shaped : Shaped pool slots free ring) (signal time : UInt64)
    (available : ring.allocator.contents ≠ []) :
    ∃ cur free' ring', free = cur :: free' ∧
      insertRingtimer signal time ring = some (true, ring') ∧ ring'.max = ring.max ∧
      ring'.current = ring.current ∧
      Shaped pool (Function.update slots (insertSlot ring time % ring.max).toNat
        (slots (insertSlot ring time % ring.max).toNat ++ [cur])) free' ring' ∧
      (ring'.nodes cur).signal = signal ∧
      (ring'.nodes cur).retries = (insertSlot ring time / ring.max).toUInt64 ∧
      ∀ a, a ≠ cur → (ring'.nodes a).signal = (ring.nodes a).signal ∧
        (ring'.nodes a).retries = (ring.nodes a).retries := by
  obtain ⟨⟨packet, plen⟩, rest, contents⟩ := List.exists_cons_of_ne_nil available
  have queued := shaped.queued
  rw [contents, List.map_cons] at queued
  obtain ⟨cur, free', rfl, rfl, queued'⟩ := List.map_eq_cons_iff.mp queued.symm
  have popped : ring.allocator.pop = (some (some cur, plen), ring.allocator.pop.2) := by
    rw [← List.head?_cons (l := rest), ← contents, ← ring.allocator.pop_fst]
  generalize place : (insertSlot ring time % ring.max).toNat = i
  have low : i < ring.max.toNat := by
    rw [← place, UInt32.toNat_mod]
    exact Nat.mod_lt _ (Nat.zero_lt_of_lt shaped.current_low)
  have unused : ∀ j < ring.max.toNat, ∀ a ∈ slots j, a ≠ cur := by
    rintro j low' a member rfl
    exact shaped.used low' member (List.mem_cons_self ..)
  obtain ⟨timers, nodes, inserted, front, others, chained, new, revolutions, kept, far⟩ :=
    insertRingtimer_spec ring signal time (slots i) cur plen ring.allocator.pop.2
      (by rw [place]; exact shaped.front i low) (shaped.chained i low)
      (fun member => unused i low cur member rfl) popped
  rw [place] at front others
  refine ⟨cur, free', _, rfl, inserted, rfl, rfl, ⟨shaped.current, ?_, ?_, ?_, ?_, shaped.nodup, ?_⟩,
    new, revolutions, kept⟩
  · apply (Function.forall_update_iff slots fun j l => j < ring.max.toNat → timers j = l.head?).mpr
    exact ⟨fun _ => front, fun j other low' => (others j other).trans (shaped.front j low')⟩
  · -- the stores touch the new node and its slot only
    apply (Function.forall_update_iff slots fun j l => j < ring.max.toNat → Chained nodes l).mpr
    refine ⟨fun _ => chained, ?_⟩
    intro j other low'
    refine (shaped.chained j low').congr fun a member => far a (unused j low' a member) ?_
    exact fun member' => other (shaped.apart low' low member member')
  · rw [RingQueue.contents_pop, contents, List.tail_cons]
    exact queued'.symm
  · -- the node moves from the queue to its slot
    have moved := inRows_perm (Function.update slots i (slots i ++ [cur])) slots low [cur]
      (by rw [Function.update_self]; exact List.perm_append_comm)
      (fun j _ other => (Function.update_of_ne other _ _).symm)
    refine .trans ?_ shaped.placed
    calc (free' ++ inRows ring.max.toNat (Function.update slots i (slots i ++ [cur]))).Perm
          (free' ++ ([cur] ++ inRows ring.max.toNat slots)) := moved.symm.append_left free'
      _ |>.Perm (cur :: free' ++ inRows ring.max.toNat slots) := by simp
  · rw [RingQueue.capacity_pop]
    exact shaped.fits

/-- What a walk that has ended leaves of its slot. -/
theorem walk (shaped : Shaped pool slots free ring) {fuel : Nat} {ring' : Ringtimer A}
    {signals : List Int32} (ended : walkSlot fuel ring = (ring', signals, none)) :
    ∃ fired rest, Stretch (slots ring.current.toNat) fired ring ring' ∧
      Chained ring'.nodes rest ∧ ring'.timers ring.current.toNat = rest.head? ∧
      (fired ++ rest).Perm (slots ring.current.toNat) ∧ signals = fired.map ring.report := by
  have front := shaped.front _ shaped.current_low
  have chained := shaped.chained _ shaped.current_low
  cases slot : slots ring.current.toNat with
  | nil =>
    rw [slot, List.head?_nil] at front
    rw [walkSlot, front] at ended
    cases ended
    exact ⟨[], [], .refl _ ring, Cyclic.nil, front, .refl _, rfl⟩
  | cons head l =>
    rw [slot, List.head?_cons] at front
    rw [slot] at chained
    by_cases due : ring.due head = true
    · obtain ⟨last, fired, rest, walked, roamed⟩ :=
        walkSlot_drains ring head l fuel front chained due
      rw [walked] at ended
      cases rest with
      | cons b rest => cases ended
      | nil =>
        cases ended
        exact ⟨fired, [], roamed.toStretch, roamed.chained, roamed.emptied rfl, roamed.perm, rfl⟩
    · rw [Bool.not_eq_true] at due
      -- the walk may have been given fewer rounds than it could have needed
      obtain ⟨last, walked, stretch, timers, linked, -⟩ := walkSlot_stays ring head l
        (fuel + (head :: l).length) front chained due (Nat.le_add_left _ _)
      rw [walkSlot_ended ring (Nat.le_add_right fuel _) (by rw [ended]), ended] at walked
      cases walked
      refine ⟨_, _, stretch, linked, ?_, List.filter_append_perm _ _, rfl⟩
      rw [timers, front, List.filter_cons_of_pos (by simp [due]), List.head?_cons]

/-- A tick that returns hands back the nodes it has reported. -/
theorem tick (shaped : Shaped pool slots free ring) {fuel : Nat} {ring' : Ringtimer A}
    {signals : List Int32} (ticked : tickUnbounded fuel ring = some (signals, ring')) :
    ∃ fired rest, (fired ++ rest).Perm (slots ring.current.toNat) ∧
      signals = fired.map ring.report ∧ ring'.max = ring.max ∧
      (∀ a, (ring'.nodes a).signal = (ring.nodes a).signal) ∧
      Shaped pool (Function.update slots ring.current.toNat rest) (free ++ fired) ring' := by
  have low := shaped.current_low
  rw [tickUnbounded] at ticked
  rcases walked : walkSlot fuel ring with ⟨last, more, _ | t⟩ <;> rw [walked] at ticked
  · cases ticked
    obtain ⟨fired, rest, stretch, linked, front, split, reported⟩ := shaped.walk walked
    refine ⟨fired, rest, split, reported, stretch.max, stretch.signal, ?_, ?_, ?_, ?_, ?_,
      shaped.nodup, ?_⟩
    · rw [UInt32.lt_iff_toNat_lt]
      dsimp only
      rw [UInt32.toNat_mod, stretch.max]
      exact Nat.mod_lt _ (Nat.zero_lt_of_lt low)
    · dsimp only
      rw [stretch.max]
      apply (Function.forall_update_iff slots
        fun i l => i < ring.max.toNat → last.timers i = l.head?).mpr
      refine ⟨fun _ => front, ?_⟩
      intro i other inside
      rw [stretch.timers i other]
      exact shaped.front i inside
    · -- the walk has stored to the nodes of its own slot only
      dsimp only
      rw [stretch.max]
      apply (Function.forall_update_iff slots
        fun i l => i < ring.max.toNat → Chained last.nodes l).mpr
      refine ⟨fun _ => linked, ?_⟩
      intro i other inside
      refine (shaped.chained i inside).congr fun a member => stretch.far a ?_
      exact fun member' => other (shaped.apart inside low member member')
    · dsimp only
      rw [stretch.allocator, contents_freeNodes _ _ (shaped.room low split), List.map_append,
        shaped.queued, List.map_append, List.map_map]
      rfl
    · dsimp only
      rw [stretch.max, List.append_assoc]
      refine .trans (.append_left free ?_) shaped.placed
      exact inRows_perm slots _ low fired (by rwa [Function.update_self])
        (fun j _ other => Function.update_of_ne other _ _)
    · dsimp only
      rw [stretch.allocator, capacity_freeNodes]
      exact shaped.fits
  · cases ticked

end Shaped

/-- `insert_ringtimer` and `tick_ringtimer` as one machine, with room for every signal. -/
def callUnbounded (fuel : Nat) (ring : Ringtimer A) :
    TimerCall → Option (Ringtimer A × List TimerReply)
  | .insert signal time => (insertRingtimer signal time ring).map fun r => (r.2, [.inserted r.1])
  | .tick => (tickUnbounded fuel ring).map fun r => (r.2, [.ticked r.1])

/-- What is asked of the caller of the wheel: a signal, and a free node to keep it in. -/
def Admitted (ring : Ringtimer A) : TimerCall → Prop
  | .insert signal _ => signal ≠ 0 ∧ ring.allocator.contents ≠ []
  | .tick => True

instance (ring : Ringtimer A) : (c : TimerCall) → Decidable (Admitted ring c)
  | .insert signal _ => inferInstanceAs (Decidable (signal ≠ 0 ∧ ring.allocator.contents ≠ []))
  | .tick => inferInstanceAs (Decidable True)

section Step

variable {pool free : List A} {slots : Nat → List A} {ring ring' : Ringtimer A} {fuel : Nat}
  {c : TimerCall} {log : List TimerReply}

/-- The shape is kept by every call that returns, whatever the signals are. -/
theorem Shaped.call (shaped : Shaped pool slots free ring)
    (called : callUnbounded fuel ring c = some (ring', log)) :
    ∃ slots' free', Shaped pool slots' free' ring' ∧
      (Admitted ring c → Live slots ring → Live slots' ring') := by
  cases c with
  | insert signal time =>
    have available : ring.allocator.contents ≠ [] := by
      -- on an empty allocator the insert waits for ever
      intro empty
      have popped : ring.allocator.pop = (none, ring.allocator.pop.2) := by
        rw [← List.head?_nil, ← empty, ← ring.allocator.pop_fst]
      rw [callUnbounded, insertRingtimer, popped] at called
      cases called
    obtain ⟨cur, free', last, rfl, inserted, max, -, shaped', new, -, kept⟩ :=
      shaped.insert signal time available
    rw [callUnbounded, inserted] at called
    cases called
    refine ⟨_, free', shaped', ?_⟩
    intro admitted live i low a member
    rw [max] at low
    by_cases fresh : a = cur
    · rw [fresh, new]
      exact admitted.1
    · rw [(kept a fresh).1]
      refine live i low a ?_
      by_cases same : i = (insertSlot ring time % ring.max).toNat
      · rw [same, Function.update_self] at member
        rw [same]
        simpa [fresh] using member
      · rwa [Function.update_of_ne same] at member
  | tick =>
    rw [callUnbounded, Option.map_eq_some_iff] at called
    obtain ⟨⟨signals, last⟩, ticked, same⟩ := called
    cases same
    obtain ⟨fired, rest, split, -, max, signal, shaped'⟩ := shaped.tick ticked
    refine ⟨_, _, shaped', ?_⟩
    intro _ live i low a member
    rw [max] at low
    rw [signal]
    refine live i low a ?_
    by_cases same : i = ring.current.toNat
    · rw [same, Function.update_self] at member
      rw [same]
      exact split.subset (List.mem_append_right fired member)
    · rwa [Function.update_of_ne same] at member

/-- A call that is admitted returns. -/
theorem Shaped.call_returns (shaped : Shaped pool slots free ring) (live : Live slots ring)
    (admitted : Admitted ring c) (enough : pool.length * 2 ^ 64 ≤ fuel) :
    callUnbounded fuel ring c ≠ none := by
  cases c with
  | insert signal time =>
    obtain ⟨cur, free', last, -, inserted, -⟩ := shaped.insert signal time admitted.2
    rw [callUnbounded, inserted]
    exact Option.some_ne_none _
  | tick =>
    have low := shaped.current_low
    obtain ⟨signals, last, ticked⟩ := tickRingtimer_ticks ring (slots ring.current.toNat)
      (shaped.front _ low) (shaped.chained _ low) (live _ low)
    have light : ring.weight (slots ring.current.toNat) ≤ fuel :=
      calc ring.weight (slots ring.current.toNat)
          ≤ (slots ring.current.toNat).length * 2 ^ 64 := ring.weight_le _
        _ ≤ pool.length * 2 ^ 64 := Nat.mul_le_mul_right _ (shaped.length_slot_le low)
        _ ≤ fuel := enough
    rw [callUnbounded, ticked fuel light]
    exact Option.some_ne_none _

end Step

/-- The wheel after any run of inserts and ticks: the calls have all returned, the slots are empty
or head circular lists, no node is in two of them, and every node of the allocator is in one place. -/
theorem ringtimer_keeps_shape (timersCount : UInt32) (positive : 0 < timersCount)
    (allocator : RingQueue A) (memory : A → RingtimerCallback A) (pool : List A)
    (queued : allocator.contents.map Prod.fst = pool.map some) (nodup : pool.Nodup)
    (timerMalloc timersCalloc : Bool) (ring : Ringtimer A)
    (created : createRingtimer timerMalloc timersCalloc timersCount allocator memory = some ring)
    (fuel : Nat) (enough : pool.length * 2 ^ 64 ≤ fuel) (calls : List TimerCall)
    (admitted : Runs.Along (callUnbounded fuel) Admitted ring calls) :
    ∃ after log, Runs.run (callUnbounded fuel) ring calls = some (after, log) ∧
      ∃ slots free, Shaped pool slots free after ∧
        ∀ i < after.max.toNat, ∀ j < after.max.toNat, i ≠ j → (slots i).Disjoint (slots j) := by
  have start : ∃ slots free, Shaped pool slots free ring ∧ Live slots ring :=
    ⟨_, pool, .of_created timersCount positive allocator memory pool queued nodup timerMalloc
      timersCalloc ring created, fun i _ a member => nomatch member⟩
  obtain ⟨after, log, ran, slots, free, shaped, -⟩ := Runs.run_returns (callUnbounded fuel) Admitted
    (fun ring => ∃ slots free, Shaped pool slots free ring ∧ Live slots ring)
    (fun ring call ⟨slots, free, shaped, live⟩ admitted => by
      obtain ⟨⟨ring', ev⟩, called⟩ := Option.ne_none_iff_exists'.mp
        (shaped.call_returns live admitted enough)
      obtain ⟨slots', free', shaped', live'⟩ := shaped.call called
      exact ⟨ring', ev, called, slots', free', shaped', live' admitted live⟩)
    calls ring start admitted
  refine ⟨after, log, ran, slots, free, shaped, ?_⟩
  intro i low j low' apart a member member'
  exact apart (shaped.apart low low' member member')

theorem ringtimer_keeps_shape_early_timers :
    createRingtimer true true 3 twoNodes (fun a => ⟨0, 0, a, a⟩) = some smallWheel ∧
    ∃ after log, Runs.run (callUnbounded (2 * 2 ^ 64)) smallWheel earlyCalls = some (after, log) ∧
      ∃ slots free, Shaped [0, 1] slots free after ∧
        ∀ i < after.max.toNat, ∀ j < after.max.toNat, i ≠ j → (slots i).Disjoint (slots j) := by
  refine ⟨rfl, ringtimer_keeps_shape 3 (by decide) twoNodes (fun a => ⟨0, 0, a, a⟩) [0, 1]
    (by rw [twoNodes, RingQueue.contents_pair]; rfl) (by decide) true true smallWheel rfl
    (2 * 2 ^ 64) (Nat.le_refl _) earlyCalls ?_⟩
  decide +kernel

end Kpnet.Timer
