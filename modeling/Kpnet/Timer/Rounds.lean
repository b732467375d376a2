import Kpnet.Timer.Walk

/-!
# Walks that go round

Once the node it started from is gone, the walk of `tick_ringtimer` can only end with an empty slot:
it goes round, takes a revolution off every node it passes and takes the node out when there is none
left. What is left of the revolutions bounds the rounds it takes.
-/
namespace Kpnet.Timer

open CircularList

variable {A : Type}

namespace Ringtimer

/-- How often a walk that goes round has to come to each of the nodes. -/
def weight (ring : Ringtimer A) (l : List A) : Nat :=
  (l.map fun a => (ring.nodes a).retries.toNat + 1).sum

/-- How often it has to come to a node before it reports it; never for a node without a signal. -/
def toil (ring : Ringtimer A) (a : A) : Nat :=
  if (ring.nodes a).signal = 0 then 0 else (ring.nodes a).retries.toNat + 1

theorem toil_eq_zero {ring : Ringtimer A} {a : A} : ring.toil a = 0 ↔ (ring.nodes a).signal = 0 := by
  by_cases zero : (ring.nodes a).signal = 0 <;> simp [toil, zero]

theorem length_le_weight (ring : Ringtimer A) (l : List A) : l.length ≤ ring.weight l := by
  induction l with
  | nil => exact Nat.zero_le _
  | cons a l ih =>
    simp only [weight, List.map_cons, List.sum_cons, List.length_cons] at ih ⊢
    omega

theorem weight_le (ring : Ringtimer A) (l : List A) : ring.weight l ≤ l.length * 2 ^ 64 := by
  induction l with
  | nil => exact Nat.zero_le _
  | cons a l ih =>
    have bits := (ring.nodes a).retries.toNat_lt
    simp only [weight, List.map_cons, List.sum_cons, List.length_cons] at ih ⊢
    omega

/-- A node that waits has a revolution taken off. -/
theorem aged_lt {ring : Ringtimer A} {t : A} (waits : ring.due t = false)
    (nonzero : (ring.nodes t).signal ≠ 0) :
    (ring.aged t).toNat < (ring.nodes t).retries.toNat := by
  have positive : (ring.nodes t).retries ≠ 0 := by simpa [due, nonzero] using waits
  have one_le : (1 : UInt64) ≤ (ring.nodes t).retries := by
    rw [UInt64.le_iff_toNat_le, UInt64.toNat_one, Nat.one_le_iff_ne_zero]
    exact fun zero => positive (UInt64.toNat_inj.mp zero)
  have bound := UInt64.le_iff_toNat_le.mp one_le
  rw [aged, if_neg nonzero, UInt64.toNat_sub_of_le _ _ one_le]
  rw [UInt64.toNat_one] at bound ⊢
  omega

/-- A node that waits takes one of the rounds to come. -/
theorem weight_waits [DecidableEq A] {ring ring' : Ringtimer A} {t : A} {l : List A}
    (waits : ring.due t = false) (nonzero : (ring.nodes t).signal ≠ 0) (fresh : t ∉ l)
    (retries : ∀ a, (ring'.nodes a).retries = if a = t then ring.aged a else (ring.nodes a).retries) :
    ring'.weight (l ++ [t]) < ring.weight (t :: l) := by
  have fewer := aged_lt waits nonzero
  have others : (l.map fun a => (ring'.nodes a).retries.toNat + 1) =
      l.map fun a => (ring.nodes a).retries.toNat + 1 := by
    refine List.map_congr_left fun a member => ?_
    rw [retries a, if_neg]
    rintro rfl
    exact fresh member
  simp only [weight, List.map_append, others, List.sum_append, List.map_cons, List.map_nil,
    List.sum_cons, List.sum_nil, retries t, if_true]
  omega

end Ringtimer

/-- At most `fuel` rounds of a walk over the nodes `l` that cannot come back to its first node:
`fired` have been taken out, and the walk has come to the first of `rest`. -/
structure Roamed (all : List A) (fuel : Nat) (l fired rest : List A)
    (ring ring' : Ringtimer A) : Prop extends Stretch all fired ring ring' where
  chained : Chained ring'.nodes rest
  emptied : rest = [] → ring'.timers ring.current.toNat = none
  perm : (fired ++ rest).Perm l
  live : ∀ a ∈ fired, (ring.nodes a).signal ≠ 0
  order : (∀ a ∈ l, ring.due a = true) → fired ++ rest = l
  ends : (∀ a ∈ l, (ring.nodes a).signal ≠ 0) → ring.weight l ≤ fuel → rest = []
  spent : burden ring.toil l ≤ fuel → ∀ a ∈ rest, (ring.nodes a).signal = 0

namespace Roamed

variable {all l l' fired rest : List A} {fuel : Nat} {t : A} {ring mid ring' : Ringtimer A}

theorem refl (all : List A) (chained : Chained ring.nodes (t :: l)) :
    Roamed all 0 (t :: l) [] (t :: l) ring ring := by
  refine ⟨.refl all ring, chained, by simp, .refl _, by simp, fun _ => rfl, ?_, ?_⟩
  · intro _ light
    simp [Ringtimer.weight] at light
  · intro none_left a member
    exact Ringtimer.toil_eq_zero.mp
      (forall_eq_zero_of_burden (Nat.eq_zero_of_le_zero none_left) a member)

/-- Nothing is left in the slot. -/
theorem done (emptied : ring.timers ring.current.toNat = none) :
    Roamed all fuel [] [] [] ring ring :=
  ⟨.refl all ring, Cyclic.nil, fun _ => emptied, .refl _, by simp, fun _ => rfl, fun _ _ => rfl,
    by simp⟩

/-- A round that takes a node out, and the rounds after it. -/
theorem fires (first : Stretch all [t] ring mid) (due : ring.due t = true)
    (retries : ∀ a, (mid.nodes a).retries = (ring.nodes a).retries)
    (roamed : Roamed all fuel l fired rest mid ring') :
    Roamed all (fuel + 1) (t :: l) (t :: fired) rest ring ring' := by
  have nonzero : (ring.nodes t).signal ≠ 0 := by
    rw [Ringtimer.due, decide_eq_true_iff] at due
    exact due.1
  refine ⟨first.trans roamed.toStretch, roamed.chained, ?_, roamed.perm.cons t, ?_, ?_, ?_, ?_⟩
  · intro empty
    rw [← first.current]
    exact roamed.emptied empty
  · intro a member
    rcases List.mem_cons.mp member with rfl | member
    · exact nonzero
    · rw [← first.signal]
      exact roamed.live a member
  · intro all_due
    rw [List.cons_append, roamed.order fun a member => by
      rw [first.due_eq (retries a)]; exact all_due a (List.mem_cons_of_mem t member)]
  · intro signals light
    refine roamed.ends (fun a member => by
      rw [first.signal]; exact signals a (List.mem_cons_of_mem t member)) ?_
    simp only [Ringtimer.weight, retries, List.map_cons, List.sum_cons] at light ⊢
    omega
  · intro light a member
    have toils : mid.toil = ring.toil := funext fun a => by
      simp only [Ringtimer.toil, first.signal, retries]
    have less : burden ring.toil l < burden ring.toil (t :: l) :=
      burden_removed (Nat.pos_of_ne_zero fun none => nonzero (Ringtimer.toil_eq_zero.mp none))
    rw [← first.signal]
    exact roamed.spent (by rw [toils]; omega) a member

/-- A round that only passes a node, and the rounds after it. -/
theorem passes [DecidableEq A] (first : Stretch all [] ring mid) (stays : ring.due t = false) (fresh : t ∉ l)
    (retries : ∀ a, (mid.nodes a).retries = if a = t then ring.aged a else (ring.nodes a).retries)
    (roamed : Roamed all fuel (l ++ [t]) fired rest mid ring') :
    Roamed all (fuel + 1) (t :: l) fired rest ring ring' := by
  refine ⟨first.trans roamed.toStretch, roamed.chained, ?_,
    roamed.perm.trans List.perm_append_comm, ?_, ?_, ?_, ?_⟩
  · intro empty
    rw [← first.current]
    exact roamed.emptied empty
  · intro a member
    rw [← first.signal]
    exact roamed.live a member
  · intro all_due
    rw [all_due t (by simp)] at stays
    cases stays
  · intro signals light
    have fewer := Ringtimer.weight_waits stays (signals t (by simp)) fresh retries
    refine roamed.ends (fun a member => ?_) (by omega)
    rw [first.signal]
    exact signals a (by simpa [or_comm] using member)
  · intro light a member
    rw [← first.signal]
    by_cases dead : (ring.nodes t).signal = 0
    · -- a node without a signal brings nothing but the next one nearer, if there is any
      have toils : mid.toil = ring.toil := funext fun a => by
        by_cases same : a = t <;> simp [Ringtimer.toil, first.signal, retries, same, dead]
      by_cases heavy : ∃ a ∈ l, ring.toil a ≠ 0
      · have less := burden_passed (Ringtimer.toil_eq_zero.mpr dead) toils heavy
        exact roamed.spent (by omega) a member
      · have inside := roamed.perm.subset (List.mem_append_right fired member)
        rw [first.signal]
        rcases List.mem_append.mp inside with ahead | same
        · exact Ringtimer.toil_eq_zero.mp (by_contra fun toil => heavy ⟨a, ahead, toil⟩)
        · rwa [List.mem_singleton.mp same]
    · have fewer := Ringtimer.aged_lt stays dead
      have less : burden mid.toil (l ++ [t]) < burden ring.toil (t :: l) := by
        refine burden_paid ?_ ?_ ?_
        · simp only [Ringtimer.toil, first.signal, dead, if_false, retries t, if_true]
          omega
        · simp [Ringtimer.toil, first.signal, dead]
        · intro b ahead
          have other : b ≠ t := fun same => fresh (same ▸ ahead)
          simp only [Ringtimer.toil, first.signal, retries b, if_neg other]
      exact roamed.spent (by omega) a member

end Roamed

variable [DecidableEq A]

/-- A walk that cannot come back to its first node goes round until the slot is empty. -/
theorem walk_gone (all : List A) (head t : A) (l : List A) (ring : Ringtimer A) (fuel : Nat)
    (gone : head ∉ t :: l) (front : ∃ h ∈ t :: l, ring.timers ring.current.toNat = some h)
    (chained : Chained ring.nodes (t :: l)) (inside : ∀ a ∈ t :: l, a ∈ all) :
    ∃ ring' fired rest, walk head fuel t ring = (ring', fired.map ring.report, rest.head?) ∧
      Roamed all fuel (t :: l) fired rest ring ring' := by
  -- by the rounds left; the slot turns with the walk, so its nodes are generalized too
  induction fuel generalizing t l ring with
  | zero => exact ⟨ring, [], t :: l, rfl, .refl all chained⟩
  | succ fuel ih =>
    have fresh : t ∉ l := (List.nodup_cons.mp chained.1).1
    have next : (ring.nodes t).next = l.headD t := Cyclic.next_head chained
    have later : l.headD t ≠ head := by
      intro same
      cases l <;> simp_all
    by_cases due : ring.due t = true
    · obtain ⟨mid, visited, first, unlinked, retries, advanced, kept⟩ :=
        visitNode_fires all due chained inside
      obtain ⟨h, member, front⟩ := front
      cases l with
      | nil =>
        -- the last node of the slot
        rw [List.mem_singleton.mp member] at front
        have emptied : mid.timers mid.current.toNat = none := by
          rw [first.current]
          exact advanced front
        refine ⟨mid, [t], [], ?_, .fires first due retries (.done emptied)⟩
        simp only [walk, visited, emptied, true_or, if_true, List.map_cons, List.map_nil,
          List.head?_nil]
      | cons b l =>
        have front' : ∃ h ∈ b :: l, mid.timers mid.current.toNat = some h := by
          rw [first.current]
          by_cases same : h = t
          · exact ⟨b, by simp, advanced (by rw [front, same])⟩
          · rw [kept (by simp) (by simpa [front] using same)]
            exact ⟨h, (List.mem_cons.mp member).resolve_left same, front⟩
        obtain ⟨ring', fired, rest, walked, roamed⟩ := ih b l mid
          (fun member => gone (List.mem_cons_of_mem t member)) front' unlinked
          (fun a member => inside a (List.mem_cons_of_mem t member))
        obtain ⟨h, -, stays⟩ := front'
        refine ⟨ring', t :: fired, rest, ?_, .fires first due retries roamed⟩
        rw [walk_succ next visited stays ((if_neg later).trans walked), first.report_eq,
          List.singleton_append, List.map_cons]
    · -- the node waits, or carries no signal, and the walk goes on behind it
      rw [Bool.not_eq_true] at due
      obtain ⟨mid, visited, first, timers, chained', retries⟩ := visitNode_stays all due
        (inside t (by simp))
      obtain ⟨t', l', turned⟩ : ∃ t' l', l ++ [t] = t' :: l' := by
        cases l with
        | nil => exact ⟨t, [], rfl⟩
        | cons b l => exact ⟨b, l ++ [t], rfl⟩
      have same_nodes : ∀ a, a ∈ t' :: l' ↔ a ∈ t :: l := by
        intro a
        rw [← turned, List.mem_append, List.mem_singleton, List.mem_cons, or_comm]
      have ahead : l.headD t = t' := by
        cases l <;> cases turned <;> rfl
      rw [ahead] at next later
      have rotated : Chained mid.nodes (t' :: l') := by
        rw [← turned]
        exact Cyclic.rotate (chained' _ chained)
      obtain ⟨h, member, front⟩ := front
      have front' : mid.timers mid.current.toNat = some h := by
        rw [timers, first.current, front]
      obtain ⟨ring', fired, rest, walked, roamed⟩ := ih t' l' mid
        (by rwa [same_nodes]) ⟨h, (same_nodes h).mpr member, front'⟩ rotated
        (fun a member => inside a ((same_nodes a).mp member))
      refine ⟨ring', fired, rest, ?_, .passes first due fresh retries (by rwa [turned])⟩
      rw [walk_succ next visited front' ((if_neg later).trans walked), first.report_eq,
        List.nil_append]

section Slot

variable (ring : Ringtimer A) (head : A) (l : List A) (fuel : Nat)
  (front : ring.timers ring.current.toNat = some head) (chained : Chained ring.nodes (head :: l))

include front chained

/-- A tick on a slot whose first node stays passes every node once. -/
theorem walkSlot_stays (stays : ring.due head = false) (enough : (head :: l).length ≤ fuel) :
    ∃ ring', walkSlot fuel ring =
        (ring', ((head :: l).filter ring.due).map ring.report, none) ∧
      Stretch (head :: l) ((head :: l).filter ring.due) ring ring' ∧
      ring'.timers = ring.timers ∧
      Chained ring'.nodes ((head :: l).filter fun a => !ring.due a) ∧
      ∀ a, (ring'.nodes a).retries =
        if a ∈ head :: l ∧ ring.due a = false then ring.aged a else (ring.nodes a).retries := by
  have fresh : head ∉ l := (List.nodup_cons.mp chained.1).1
  have next : (ring.nodes head).next = l.headD head := Cyclic.next_head chained
  rw [List.length_cons] at enough
  obtain ⟨fuel, rfl⟩ : ∃ fuel', fuel = fuel' + 1 := ⟨fuel - 1, by omega⟩
  obtain ⟨mid, visited, first, timers, chained', retries⟩ := visitNode_stays (head :: l) stays
    (by simp)
  have others : ∀ a ∈ l, (mid.nodes a).retries = (ring.nodes a).retries := by
    intro a member
    rw [retries, if_neg]
    rintro rfl
    exact fresh member
  have dues : ∀ a ∈ l, mid.due a = ring.due a := fun a member => first.due_eq (others a member)
  have front' : mid.timers mid.current.toNat = some head := by
    rw [timers, first.current, front]
  obtain ⟨ring', walked, rest, same, linked, aged⟩ := walk_staying (head :: l) head [] l mid fuel
    front' (chained' _ chained) (fun a member => member) (by omega)
  rw [List.filter_congr dues, first.report_eq] at walked
  rw [List.filter_congr dues] at rest
  rw [List.filter_congr fun a member => by rw [dues a member]] at linked
  refine ⟨ring', ?_, ?_, same.trans timers, ?_, ?_⟩
  · rw [walkSlot, front]
    dsimp only
    rw [walk_succ next visited front' walked, List.filter_cons_of_neg (by simp [stays]),
      List.nil_append]
  · rw [List.filter_cons_of_neg (by simp [stays])]
    exact first.trans rest
  · simpa [stays] using linked
  · intro a
    rw [aged, retries]
    by_cases same : a = head
    · subst same
      simp [fresh, stays]
    · by_cases ahead : a ∈ l
      · simp [same, ahead, dues a ahead, first.aged_eq (others a ahead)]
      · simp [same, ahead]

/-- A tick on a slot whose first node is due takes that node out, and then one node after the other
as their turn comes. -/
theorem walkSlot_drains (due : ring.due head = true) :
    ∃ ring' fired rest, walkSlot fuel ring = (ring', fired.map ring.report, rest.head?) ∧
      Roamed (head :: l) fuel (head :: l) fired rest ring ring' := by
  rw [walkSlot, front]
  cases fuel with
  | zero => exact ⟨ring, [], head :: l, rfl, .refl _ chained⟩
  | succ fuel =>
    have fresh : head ∉ l := (List.nodup_cons.mp chained.1).1
    have next : (ring.nodes head).next = l.headD head := Cyclic.next_head chained
    obtain ⟨mid, visited, first, unlinked, retries, advanced, -⟩ :=
      visitNode_fires (head :: l) due chained fun a member => member
    have front' : mid.timers mid.current.toNat = l.head? := by
      rw [first.current]
      exact advanced front
    cases l with
    | nil =>
      exact ⟨mid, [head], [], by simp [walk, visited, front'], .fires first due retries (.done front')⟩
    | cons b l =>
      have later : b ≠ head := by
        rintro rfl
        exact fresh (by simp)
      obtain ⟨ring', fired, rest, walked, roamed⟩ := walk_gone (head :: b :: l) head b l mid fuel
        fresh ⟨b, by simp, front'⟩ unlinked (fun a member => List.mem_cons_of_mem head member)
      refine ⟨ring', head :: fired, rest, ?_, .fires first due retries roamed⟩
      dsimp only
      rw [walk_succ next visited front' ((if_neg later).trans walked), first.report_eq,
        List.singleton_append, List.map_cons]

end Slot

end Kpnet.Timer
