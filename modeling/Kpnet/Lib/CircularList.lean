import Mathlib.Tactic
import Mathlib.Data.List.Cycle

/-!
# Circular doubly linked lists

Nodes threaded through `next` and `prev` into a ring without a sentinel, the list of its
nodes read from any of them on. Linking a node in at the end and unlinking the node the
list starts from are stated on whatever the two pointer maps become, so they apply to
any heap the pointers are stored in. A walk round the ring that works off a weight on each
node has a measure that counts the nodes without weight in its way.
-/
namespace CircularList

variable {A : Type} {next prev next' prev' : A → A}

/-- `b` follows `a`, by both pointers. -/
def Link (next prev : A → A) (a b : A) : Prop := next a = b ∧ prev b = a

/-- The distinct nodes of a ring, in order. -/
def Cyclic (next prev : A → A) (l : List A) : Prop :=
  l.Nodup ∧ Cycle.Chain (Link next prev) (l : Cycle A)

/-- Links inside a segment read `next` of all but its last node and `prev` of all but
its first. -/
theorem isChain_congr (l : List A) (chain : List.IsChain (Link next prev) l)
    (nexts : ∀ x ∈ l.dropLast, next' x = next x) (prevs : ∀ y ∈ l.tail, prev' y = prev y) :
    List.IsChain (Link next' prev') l := by
  induction l with
  | nil => exact .nil
  | cons a l ih =>
    cases l with
    | nil => exact .singleton a
    | cons b l =>
      rw [List.isChain_cons_cons] at chain ⊢
      simp only [List.dropLast_cons_cons, List.mem_cons, forall_eq_or_imp, List.tail_cons] at nexts prevs
      refine ⟨⟨nexts.1.trans chain.1.1, prevs.1.trans chain.1.2⟩, ih chain.2 nexts.2 prevs.2⟩

/-- The last node of a list without repetitions is not among the others. -/
theorem ne_getLastD_of_mem_dropLast (a : A) (l : List A) (nodup : (a :: l).Nodup) (x : A)
    (member : x ∈ (a :: l).dropLast) : x ≠ l.getLastD a := by
  induction l generalizing a with
  | nil => cases member
  | cons b l ih =>
    rw [List.nodup_cons] at nodup
    rw [List.getLastD_cons]
    rw [List.dropLast_cons_cons, List.mem_cons] at member
    rcases member with rfl | member
    · -- the first of a list without repetitions is not its last
      intro same
      rw [same] at nodup
      exact nodup.1 List.getLastD_mem_cons
    · exact ih b nodup.2 member

namespace Cyclic

theorem nil : Cyclic next prev [] := ⟨List.nodup_nil, trivial⟩

theorem singleton {a : A} (next_self : next a = a) (prev_self : prev a = a) :
    Cyclic next prev [a] :=
  ⟨List.nodup_singleton a, (Cycle.chain_singleton _ _).mpr ⟨next_self, prev_self⟩⟩

/-- A ring may be read from any of its nodes on. -/
theorem rotate {l₁ l₂ : List A} (ring : Cyclic next prev (l₁ ++ l₂)) :
    Cyclic next prev (l₂ ++ l₁) := by
  refine ⟨List.nodup_append_comm.mp ring.1, ?_⟩
  rw [Cycle.coe_eq_coe.mpr (List.isRotated_append : l₂ ++ l₁ ~r l₁ ++ l₂)]
  exact ring.2

theorem isChain {a : A} {l : List A} (ring : Cyclic next prev (a :: l)) :
    List.IsChain (Link next prev) (a :: l ++ [a]) := ring.2

theorem next_head {a : A} {l : List A} (ring : Cyclic next prev (a :: l)) :
    next a = l.headD a := by
  have chain := ring.isChain
  cases l with
  | nil => exact (List.isChain_cons_cons.mp chain).1.1
  | cons b l => exact (List.isChain_cons_cons.mp chain).1.1

theorem prev_head {a : A} {l : List A} (ring : Cyclic next prev (a :: l)) :
    prev a = l.getLastD a := by
  -- the link that closes the ring
  have seam := (List.isChain_append.mp ring.isChain).2.2
  exact (seam (l.getLastD a) (by simp [List.getLast?_cons, List.getLastD_eq_getLast?]) a rfl).2

/-- A ring reads the pointers of its own nodes only. -/
theorem congr {l : List A} (ring : Cyclic next prev l) (nexts : ∀ x ∈ l, next' x = next x)
    (prevs : ∀ x ∈ l, prev' x = prev x) : Cyclic next' prev' l := by
  cases l with
  | nil => exact nil
  | cons a l =>
    refine ⟨ring.1, isChain_congr (a :: l ++ [a]) ring.isChain ?_ ?_⟩
    · rw [List.dropLast_concat]
      exact nexts
    · intro y member
      simp only [List.cons_append, List.tail_cons, List.mem_append, List.mem_singleton] at member
      exact prevs y (by simpa [or_comm] using member)

/-- Linking a new node in between the last node and the first. -/
theorem append {a b : A} {l : List A} (ring : Cyclic next prev (a :: l)) (fresh : b ∉ a :: l)
    (last_next : next' (l.getLastD a) = b) (new_next : next' b = a)
    (new_prev : prev' b = l.getLastD a) (first_prev : prev' a = b)
    (nexts : ∀ x ∈ a :: l, x ≠ l.getLastD a → next' x = next x)
    (prevs : ∀ y ∈ l, prev' y = prev y) : Cyclic next' prev' (a :: l ++ [b]) := by
  refine ⟨?_, ?_⟩
  · rw [List.nodup_append_comm, List.singleton_append, List.nodup_cons]
    exact ⟨fresh, ring.1⟩
  · show List.IsChain _ (a :: (l ++ [b]) ++ [a])
    rw [List.cons_append, List.append_assoc, ← List.cons_append]
    -- the old links, the two new ones, and the seam between
    refine List.isChain_append.mpr ⟨?_, ?_, ?_⟩
    · refine isChain_congr (a :: l) (List.isChain_append.mp ring.isChain).1 ?_ prevs
      intro x member
      exact nexts x (List.mem_of_mem_dropLast member)
        (ne_getLastD_of_mem_dropLast a l ring.1 x member)
    · exact List.isChain_pair.mpr ⟨new_next, first_prev⟩
    · intro x last y first
      simp only [List.getLast?_cons, Option.mem_def, Option.some.injEq] at last
      rw [← List.getLastD_eq_getLast?] at last
      cases first
      rw [← last]
      exact ⟨last_next, new_prev⟩

/-- Unlinking the node the list starts from, its neighbours joined. -/
theorem unlink {t a : A} {l : List A} (ring : Cyclic next prev (t :: a :: l))
    (last_next : next' (l.getLastD a) = a) (first_prev : prev' a = l.getLastD a)
    (nexts : ∀ x ∈ a :: l, x ≠ l.getLastD a → next' x = next x)
    (prevs : ∀ y ∈ l, prev' y = prev y) : Cyclic next' prev' (a :: l) := by
  have nodup := (List.nodup_cons.mp ring.1).2
  refine ⟨nodup, ?_⟩
  have inner : List.IsChain (Link next prev) (a :: l) :=
    (List.isChain_append.mp (List.isChain_cons_cons.mp ring.isChain).2).1
  refine List.isChain_append.mpr ⟨?_, .singleton a, ?_⟩
  · refine isChain_congr (a :: l) inner ?_ prevs
    intro x member
    exact nexts x (List.mem_of_mem_dropLast member)
      (ne_getLastD_of_mem_dropLast a l nodup x member)
  · intro x last y first
    simp only [List.getLast?_cons, Option.mem_def, Option.some.injEq] at last
    rw [← List.getLastD_eq_getLast?] at last
    cases first
    rw [← last]
    exact ⟨last_next, first_prev⟩

end Cyclic

/-- How many rounds a walk that goes round can still take before it has paid off all the weight on
its nodes, when each round pays for the node it comes to or passes a node without weight. -/
def burden (weight : A → Nat) (l : List A) : Nat :=
  l.length * (l.map weight).sum + l.findIdx fun a => weight a ≠ 0

section Burden

variable {weight weight' : A → Nat} {t : A} {l : List A}

theorem forall_eq_zero_of_burden (none_left : burden weight l = 0) : ∀ a ∈ l, weight a = 0 := by
  intro a member
  have positive := List.length_pos_of_mem member
  have sum := (Nat.mul_eq_zero.mp (Nat.add_eq_zero_iff.mp none_left).1).resolve_left (by omega)
  exact List.sum_eq_zero_iff.mp sum _ (List.mem_map_of_mem member)

/-- A node that is taken out takes its weight with it. -/
theorem burden_removed (heavy : 0 < weight t) : burden weight l < burden weight (t :: l) := by
  have ahead : (l.findIdx fun a => weight a ≠ 0) ≤ l.length := List.findIdx_le_length
  have more := Nat.mul_le_mul_left (l.length + 1)
    (show 1 + (l.map weight).sum ≤ weight t + (l.map weight).sum by omega)
  simp only [burden, List.length_cons, List.map_cons, List.sum_cons]
  rw [Nat.mul_add, Nat.mul_one, Nat.add_mul, Nat.one_mul] at more
  omega

/-- A node that is passed for a part of its weight. -/
theorem burden_paid (paid : weight' t < weight t) (heavy : 0 < weight' t)
    (others : ∀ a ∈ l, weight' a = weight a) :
    burden weight' (l ++ [t]) < burden weight (t :: l) := by
  have ahead : ((l ++ [t]).findIdx fun a => weight' a ≠ 0) < (l ++ [t]).length :=
    List.findIdx_lt_length_of_exists ⟨t, by simp, by simp; omega⟩
  have more := Nat.mul_le_mul_left (l.length + 1)
    (show (l.map weight).sum + weight' t + 1 ≤ weight t + (l.map weight).sum by omega)
  rw [Nat.mul_add, Nat.mul_one] at more
  rw [List.length_append, List.length_singleton] at ahead
  simp only [burden, List.length_cons, List.length_append, List.map_cons, List.map_append,
    List.sum_cons, List.sum_append, List.map_nil, List.sum_nil, List.map_congr_left others,
    List.length_nil, Nat.zero_add, Nat.add_zero]
  omega

/-- A node without weight that is passed brings the next one with weight nearer. -/
theorem burden_passed (light : weight t = 0) (same : weight' = weight)
    (heavy : ∃ a ∈ l, weight a ≠ 0) : burden weight' (l ++ [t]) < burden weight (t :: l) := by
  subst same
  have nearer : ((l ++ [t]).findIdx fun a => weight' a ≠ 0) = l.findIdx fun a => weight' a ≠ 0 := by
    rw [List.findIdx_append, if_pos]
    simpa using heavy
  simp only [burden, nearer, List.findIdx_cons, light, List.length_append, List.length_cons,
    List.map_append, List.map_cons, List.sum_append, List.sum_cons, List.map_nil, List.sum_nil]
  simp

end Burden

end CircularList
