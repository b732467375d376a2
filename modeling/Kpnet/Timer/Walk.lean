import Kpnet.Timer.Slot

/-!
# The walk of a tick, with room for every signal

The loop of `tick_ringtimer` as it would run if `res.signals` had no end, and how the tick of the
source follows from it. While the node it started from stays in the slot, the walk passes every
node once.
-/
namespace Kpnet.Timer

open CircularList
open Kpnet.Ring (RingQueue)

variable {A : Type}

namespace Ringtimer

/-- What is reported for a node: its signal, cut to the `i32` of the result. -/
def report (ring : Ringtimer A) (a : A) : Int32 :=
  (ring.nodes a).signal.toUInt32.toInt32

/-- A node that is reported when the walk comes to it. -/
def due (ring : Ringtimer A) (a : A) : Bool :=
  (ring.nodes a).signal ≠ 0 ∧ (ring.nodes a).retries = 0

/-- The revolutions of a node after the walk has passed it. -/
def aged (ring : Ringtimer A) (a : A) : UInt64 :=
  if (ring.nodes a).signal = 0 then (ring.nodes a).retries else (ring.nodes a).retries - 1

end Ringtimer

/-- `push_ringbuf (ring->allocator, t, 64)` for one node after the other. -/
def freeNodes (allocator : RingQueue A) (fired : List A) : RingQueue A :=
  fired.foldl (fun allocator t => (allocator.push (some t) 64).2) allocator

theorem capacity_freeNodes (allocator : RingQueue A) (fired : List A) :
    (freeNodes allocator fired).capacity = allocator.capacity := by
  induction fired generalizing allocator with
  | nil => rfl
  | cons t fired ih => exact (ih _).trans (allocator.capacity_push (some t) 64)

/-- While the ring has cells, nothing that is handed back is lost. -/
theorem contents_freeNodes (allocator : RingQueue A) (fired : List A)
    (room : allocator.contents.length + fired.length ≤ allocator.capacity) :
    (freeNodes allocator fired).contents =
      allocator.contents ++ fired.map fun t => (some t, 64) := by
  -- each node takes one cell of the room for all of them
  induction fired generalizing allocator with
  | nil => simp [freeNodes]
  | cons t fired ih =>
    rw [List.length_cons] at room
    have pushed := allocator.contents_push (some t) 64
    rw [if_pos (by omega)] at pushed
    have rest := ih (allocator.push (some t) 64).2 (by
      rw [pushed, allocator.capacity_push, List.length_append, List.length_singleton]
      omega)
    rw [pushed, List.append_assoc] at rest
    exact rest

/-- A stretch of a walk that has taken `fired` out of the nodes `all` of the current slot, up to
how these are linked afterwards. -/
structure Stretch (all fired : List A) (ring ring' : Ringtimer A) : Prop where
  current : ring'.current = ring.current
  max : ring'.max = ring.max
  timers : ∀ i, i ≠ ring.current.toNat → ring'.timers i = ring.timers i
  far : ∀ a, a ∉ all → ring'.nodes a = ring.nodes a
  signal : ∀ a, (ring'.nodes a).signal = (ring.nodes a).signal
  allocator : ring'.allocator = freeNodes ring.allocator fired

namespace Stretch

variable {all fired fired' l : List A} {ring mid ring' : Ringtimer A}

theorem refl (all : List A) (ring : Ringtimer A) : Stretch all [] ring ring :=
  ⟨rfl, rfl, fun _ _ => rfl, fun _ _ => rfl, fun _ => rfl, rfl⟩

theorem trans (first : Stretch all fired ring mid) (rest : Stretch all fired' mid ring') :
    Stretch all (fired ++ fired') ring ring' := by
  refine ⟨rest.current.trans first.current, rest.max.trans first.max, ?_, ?_, ?_, ?_⟩
  · intro i other
    rw [rest.timers i (by rwa [first.current]), first.timers i other]
  · intro a outside
    rw [rest.far a outside, first.far a outside]
  · intro a
    rw [rest.signal, first.signal]
  · rw [rest.allocator, first.allocator, freeNodes, freeNodes, freeNodes, List.foldl_append]

theorem report_eq (stretch : Stretch all fired ring ring') : ring'.report = ring.report := by
  funext a
  rw [Ringtimer.report, stretch.signal, Ringtimer.report]

/-- Whether a node is due depends on the walk by the revolutions it has left only. -/
theorem due_eq (stretch : Stretch all fired ring ring') {a : A}
    (same : (ring'.nodes a).retries = (ring.nodes a).retries) : ring'.due a = ring.due a := by
  simp only [Ringtimer.due, stretch.signal, same]

theorem aged_eq (stretch : Stretch all fired ring ring') {a : A}
    (same : (ring'.nodes a).retries = (ring.nodes a).retries) : ring'.aged a = ring.aged a := by
  simp only [Ringtimer.aged, stretch.signal, same]

end Stretch

variable [DecidableEq A]

/-- What `tick_ringtimer` does with one node, and what it reports then. -/
def visitNode (ring : Ringtimer A) (t : A) : Ringtimer A × List Int32 :=
  if (ring.nodes t).signal = 0 then (ring, [])
  else if (ring.nodes t).retries = 0 then
    (removeNode ring t, [(ring.nodes t).signal.toUInt32.toInt32])
  else
    ({ ring with
      nodes := Function.update ring.nodes t
        { ring.nodes t with retries := (ring.nodes t).retries - 1 } }, [])

/-- At most `fuel` rounds of the `do … while (t != head)` loop: the ring, all that was reported,
and the node the loop goes on with unless it has ended. -/
def walk (head : A) : Nat → A → Ringtimer A → Ringtimer A × List Int32 × Option A
  | 0, t, ring => (ring, [], some t)
  | fuel + 1, t, ring =>
    let next := (ring.nodes t).next
    let visited := visitNode ring t
    if visited.1.timers visited.1.current.toNat = none ∨ next = head then
      (visited.1, visited.2, none)
    else
      let rest := walk head fuel next visited.1
      (rest.1, visited.2 ++ rest.2.1, rest.2.2)

/-- The walk over the current slot. -/
def walkSlot (fuel : Nat) (ring : Ringtimer A) : Ringtimer A × List Int32 × Option A :=
  match ring.timers ring.current.toNat with
  | none => (ring, [], none)
  | some head => walk head fuel head ring

/-- `tick_ringtimer` with a result that has room for every signal. -/
def tickUnbounded (fuel : Nat) (ring : Ringtimer A) : Option (List Int32 × Ringtimer A) :=
  match walkSlot fuel ring with
  | (ring, signals, none) =>
    some (signals, { ring with current := (ring.current + 1) % ring.max })
  | (_, _, some _) => none

theorem tickNode_eq_visit (ring : Ringtimer A) (t : A) (signals : List Int32)
    (fits : signals.length ≤ maxTickTime) :
    tickNode ring t signals =
      if signals.length + (visitNode ring t).2.length ≤ maxTickTime then
        some ((visitNode ring t).1, signals ++ (visitNode ring t).2)
      else none := by
  rw [tickNode, visitNode]
  by_cases zero : (ring.nodes t).signal = 0
  · simp [zero, fits]
  · by_cases last : (ring.nodes t).retries = 0
    · simp [zero, last]
    · simp [zero, last, fits]

/-- The loop of `tick_ringtimer` does what the walk does until a signal finds the array full. -/
theorem tickLoop_eq_walk (head : A) (fuel : Nat) (t : A) (ring : Ringtimer A)
    (signals : List Int32) (fits : signals.length ≤ maxTickTime) :
    tickLoop head fuel t ring signals =
      match walk head fuel t ring with
      | (ring', more, none) =>
        if signals.length + more.length ≤ maxTickTime then some (ring', signals ++ more) else none
      | (_, _, some _) => none := by
  induction fuel generalizing t ring signals with
  | zero => rfl
  | succ fuel ih =>
    rw [tickLoop, tickNode_eq_visit ring t signals fits, walk]
    by_cases more : signals.length + (visitNode ring t).2.length ≤ maxTickTime
    · rw [if_pos more]
      dsimp only
      split_ifs with ended
      · simp only [if_pos more]
      · rw [ih _ _ _ (by rwa [List.length_append])]
        rcases walk head fuel (ring.nodes t).next (visitNode ring t).1 with ⟨ring', rest, _ | t'⟩
        · simp only [List.length_append, List.append_assoc, Nat.add_assoc]
        · rfl
    · -- the store past the array comes before the loop goes on or ends
      rw [if_neg more]
      dsimp only
      split_ifs with ended
      · simp only [if_neg more]
      · rcases walk head fuel (ring.nodes t).next (visitNode ring t).1 with ⟨ring', rest, _ | t'⟩
        · dsimp only
          rw [if_neg (by rw [List.length_append]; omega)]
        · rfl

/-- `tick_ringtimer` returns what the walk reports if that fits into the array. -/
theorem tickRingtimer_eq_unbounded (fuel : Nat) (ring : Ringtimer A) :
    tickRingtimer fuel ring =
      (tickUnbounded fuel ring).filter fun r => r.1.length ≤ maxTickTime := by
  rw [tickRingtimer, tickUnbounded, walkSlot]
  cases ring.timers ring.current.toNat with
  | none => simp [Option.filter]
  | some head =>
    dsimp only
    rw [tickLoop_eq_walk head fuel head ring [] (Nat.zero_le _)]
    rcases walk head fuel head ring with ⟨ring', signals, _ | t'⟩
    · by_cases fits : signals.length ≤ maxTickTime <;> simp [Option.filter, fits]
    · rfl

/-- More rounds add to what is reported. -/
theorem walk_reported_front (head t : A) (ring : Ringtimer A) {fuel fuel' : Nat}
    (more : fuel ≤ fuel') : (walk head fuel t ring).2.1 <+: (walk head fuel' t ring).2.1 := by
  induction fuel generalizing t ring fuel' with
  | zero => exact List.nil_prefix
  | succ fuel ih =>
    obtain ⟨fuel', rfl⟩ : ∃ n, fuel' = n + 1 := ⟨fuel' - 1, by omega⟩
    simp only [walk]
    split_ifs
    · exact List.prefix_rfl
    · exact (List.prefix_append_right_inj _).mpr (ih _ _ (by omega))

/-- A walk that has ended takes no more rounds. -/
theorem walk_ended (head t : A) (ring : Ringtimer A) {fuel fuel' : Nat} (more : fuel ≤ fuel')
    (ended : (walk head fuel t ring).2.2 = none) :
    walk head fuel' t ring = walk head fuel t ring := by
  induction fuel generalizing t ring fuel' with
  | zero => cases ended
  | succ fuel ih =>
    obtain ⟨fuel', rfl⟩ : ∃ n, fuel' = n + 1 := ⟨fuel' - 1, by omega⟩
    simp only [walk] at ended ⊢
    split_ifs at ended ⊢
    · rfl
    · rw [ih _ _ (by omega) ended]

theorem walkSlot_reported_front (ring : Ringtimer A) {fuel fuel' : Nat} (more : fuel ≤ fuel') :
    (walkSlot fuel ring).2.1 <+: (walkSlot fuel' ring).2.1 := by
  rw [walkSlot, walkSlot]
  cases ring.timers ring.current.toNat with
  | none => exact List.prefix_rfl
  | some head => exact walk_reported_front head head ring more

theorem walkSlot_ended (ring : Ringtimer A) {fuel fuel' : Nat} (more : fuel ≤ fuel')
    (ended : (walkSlot fuel ring).2.2 = none) : walkSlot fuel' ring = walkSlot fuel ring := by
  simp only [walkSlot] at ended ⊢
  cases front : ring.timers ring.current.toNat with
  | none => rfl
  | some head =>
    rw [front] at ended
    exact walk_ended head head ring more ended

section Visit

variable {l : List A} {t : A} {ring : Ringtimer A} (all : List A)

/-- A node that is not due stays linked, with its revolutions counted down. -/
theorem visitNode_stays (stays : ring.due t = false) (member : t ∈ all) :
    ∃ ring', visitNode ring t = (ring', []) ∧ Stretch all [] ring ring' ∧
      ring'.timers = ring.timers ∧ (∀ l, Chained ring.nodes l → Chained ring'.nodes l) ∧
      ∀ a, (ring'.nodes a).retries = if a = t then ring.aged a else (ring.nodes a).retries := by
  by_cases zero : (ring.nodes t).signal = 0
  · refine ⟨ring, by rw [visitNode, if_pos zero], .refl all ring, rfl, fun _ chained => chained, ?_⟩
    intro a
    by_cases same : a = t <;> simp [same, Ringtimer.aged, zero]
  · have waits : (ring.nodes t).retries ≠ 0 := by simpa [Ringtimer.due, zero] using stays
    refine ⟨{ ring with
      nodes := Function.update ring.nodes t
        { ring.nodes t with retries := (ring.nodes t).retries - 1 } }, ?_, ?_, rfl, ?_, ?_⟩
    · rw [visitNode, if_neg zero, if_neg waits]
    · refine ⟨rfl, rfl, fun _ _ => rfl, ?_, ?_, rfl⟩
      · intro a outside
        have apart : a ≠ t := fun same => outside (same ▸ member)
        exact Function.update_of_ne apart _ _
      · intro a
        by_cases same : a = t <;> simp [same]
    · intro l chained
      refine Cyclic.congr chained ?_ ?_ <;>
      · intro a _
        by_cases same : a = t <;> simp [same]
    · intro a
      by_cases same : a = t <;> simp [same, Ringtimer.aged, zero]

/-- A due node is reported, unlinked and handed back to the allocator. -/
theorem visitNode_fires (due : ring.due t = true) (chained : Chained ring.nodes (t :: l))
    (inside : ∀ a ∈ t :: l, a ∈ all) :
    ∃ ring', visitNode ring t = (ring', [ring.report t]) ∧ Stretch all [t] ring ring' ∧
      Chained ring'.nodes l ∧ (∀ a, (ring'.nodes a).retries = (ring.nodes a).retries) ∧
      (ring.timers ring.current.toNat = some t → ring'.timers ring.current.toNat = l.head?) ∧
      (l ≠ [] → ring.timers ring.current.toNat ≠ some t → ring'.timers = ring.timers) := by
  obtain ⟨nonzero, zero⟩ : (ring.nodes t).signal ≠ 0 ∧ (ring.nodes t).retries = 0 := by
    simpa [Ringtimer.due] using due
  have next : (ring.nodes t).next = l.headD t := Cyclic.next_head chained
  refine ⟨removeNode ring t, ?_, ?_⟩
  · rw [visitNode, if_neg nonzero, if_pos zero, Ringtimer.report]
  cases l with
  | nil =>
    have last : (ring.nodes t).next = t := next
    rw [removeNode, if_pos last]
    refine ⟨⟨rfl, rfl, ?_, fun _ _ => rfl, fun _ => rfl, rfl⟩, Cyclic.nil, fun _ => rfl, ?_,
      fun empty => absurd rfl empty⟩
    · intro i other
      simp only [Function.update_of_ne other]
    · intro _
      simp only [Function.update_self, List.head?_nil]
  | cons b l =>
    have apart : b ≠ t := by
      intro same
      exact (List.nodup_cons.mp chained.1).1 (by simp [same])
    have more : (ring.nodes t).next ≠ t := by
      rw [next]
      exact apart
    have linked : (unlink ring.nodes t t).next = b := by
      rw [unlink_far chained (List.nodup_cons.mp chained.1).1]
      exact next
    rw [removeNode, if_neg more]
    refine ⟨⟨rfl, rfl, ?_, ?_, fun a => (unlink_kept chained a).1, rfl⟩, Chained.unlink chained,
      fun a => (unlink_kept chained a).2, ?_, ?_⟩
    · intro i other
      dsimp only
      split_ifs
      · exact Function.update_of_ne other _ _
      · rfl
    · intro a outside
      exact unlink_far chained fun member => outside (inside a (List.mem_cons_of_mem t member))
    · intro front
      simp only [if_pos front, Function.update_self, linked, List.head?_cons]
    · intro _ behind
      simp only [if_neg behind]

end Visit

/-- A round that leaves the slot with a node, and the rounds after it. -/
theorem walk_succ {head t front after : A} {ring mid ring' : Ringtimer A}
    {signals more : List Int32} {ended : Option A} {fuel : Nat}
    (next : (ring.nodes t).next = after) (visited : visitNode ring t = (mid, signals))
    (stays : mid.timers mid.current.toNat = some front)
    (walked : (if after = head then (mid, [], none) else walk head fuel after mid) =
      (ring', more, ended)) :
    walk head (fuel + 1) t ring = (ring', signals ++ more, ended) := by
  simp only [walk, visited, stays, next, reduceCtorEq, false_or]
  by_cases around : after = head
  · rw [if_pos around] at walked ⊢
    cases walked
    rw [List.append_nil]
  · rw [if_neg around] at walked ⊢
    rw [walked]

/-- The rest of a walk whose first node `head` stays: `done` behind it, `l` ahead. -/
theorem walk_staying (all : List A) (head : A) (done l : List A) (ring : Ringtimer A) (fuel : Nat)
    (front : ring.timers ring.current.toNat = some head)
    (chained : Chained ring.nodes (head :: done ++ l)) (inside : ∀ a ∈ head :: done ++ l, a ∈ all)
    (enough : l.length ≤ fuel) :
    ∃ ring', (if l.headD head = head then (ring, [], none)
        else walk head fuel (l.headD head) ring) =
          (ring', (l.filter ring.due).map ring.report, none) ∧
      Stretch all (l.filter ring.due) ring ring' ∧ ring'.timers = ring.timers ∧
      Chained ring'.nodes (head :: done ++ l.filter fun a => !ring.due a) ∧
      ∀ a, (ring'.nodes a).retries =
        if a ∈ l ∧ ring.due a = false then ring.aged a else (ring.nodes a).retries := by
  induction l generalizing done ring fuel with
  | nil => exact ⟨ring, by simp, .refl all ring, rfl, by simpa using chained, by simp⟩
  | cons t l ih =>
    -- seen from `t`, the nodes already walked over come last
    have rotated : Chained ring.nodes (t :: (l ++ head :: done)) := Cyclic.rotate chained
    have fresh : t ∉ l ++ head :: done := (List.nodup_cons.mp rotated.1).1
    rw [List.mem_append, not_or] at fresh
    have apart : t ≠ head := fun same => fresh.2 (by simp [same])
    have next : (ring.nodes t).next = l.headD head := by
      rw [show (ring.nodes t).next = (l ++ head :: done).headD t from Cyclic.next_head rotated]
      cases l <;> rfl
    rw [List.length_cons] at enough
    obtain ⟨fuel, rfl⟩ : ∃ fuel', fuel = fuel' + 1 := ⟨fuel - 1, by omega⟩
    rw [List.headD_cons, if_neg apart]
    by_cases due : ring.due t = true
    · -- `t` is reported and unlinked, and `head` is still the first
      obtain ⟨mid, visited, first, unlinked, retries, -, kept⟩ := visitNode_fires all due rotated
        (fun a member => inside a (by simp at member ⊢; tauto))
      have timers : mid.timers = ring.timers := by
        refine kept (by simp) ?_
        rw [front]
        exact fun same => apart (Option.some.inj same).symm
      have stays : mid.timers mid.current.toNat = some head := by
        rw [timers, first.current, front]
      have dues : mid.due = ring.due := funext fun a => first.due_eq (retries a)
      obtain ⟨ring', walked, rest, same, linked, aged⟩ := ih done mid fuel stays
        (Cyclic.rotate unlinked) (fun a member => inside a (by simp at member ⊢; tauto)) (by omega)
      rw [dues, first.report_eq] at walked
      rw [dues] at rest linked
      refine ⟨ring', ?_, ?_, same.trans timers, ?_, ?_⟩
      · rw [walk_succ next visited stays walked, List.filter_cons_of_pos due, List.map_cons,
          List.singleton_append]
      · rw [List.filter_cons_of_pos due]
        exact first.trans rest
      · simpa [due] using linked
      · intro a
        rw [aged, dues, retries, first.aged_eq (retries a)]
        by_cases same : a = t <;> simp [same, due, fresh.1]
    · -- `t` stays and joins the nodes behind
      rw [Bool.not_eq_true] at due
      obtain ⟨mid, visited, first, timers, chained', retries⟩ := visitNode_stays all due
        (inside t (by simp))
      have stays : mid.timers mid.current.toNat = some head := by
        rw [timers, first.current, front]
      have others : ∀ a ∈ l, (mid.nodes a).retries = (ring.nodes a).retries := by
        intro a member
        rw [retries, if_neg]
        rintro rfl
        exact fresh.1 member
      have dues : ∀ a ∈ l, mid.due a = ring.due a := fun a member => first.due_eq (others a member)
      obtain ⟨ring', walked, rest, same, linked, aged⟩ := ih (done ++ [t]) mid fuel stays
        (by simpa using chained' _ chained)
        (fun a member => inside a (by simp at member ⊢; tauto)) (by omega)
      rw [List.filter_congr dues, first.report_eq] at walked
      rw [List.filter_congr dues] at rest
      rw [List.filter_congr fun a member => by rw [dues a member]] at linked
      refine ⟨ring', ?_, ?_, same.trans timers, ?_, ?_⟩
      · rw [walk_succ next visited stays walked, List.filter_cons_of_neg (by simp [due]),
          List.nil_append]
      · rw [List.filter_cons_of_neg (by simp [due])]
        exact first.trans rest
      · simpa [due] using linked
      · intro a
        rw [aged, retries]
        by_cases same : a = t
        · subst same
          simp [fresh.1, due]
        · by_cases ahead : a ∈ l
          · simp [same, ahead, dues a ahead, first.aged_eq (others a ahead)]
          · simp [same, ahead]

end Kpnet.Timer
