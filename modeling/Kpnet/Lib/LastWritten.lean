import Mathlib.Tactic

/-!
# Cells that keep the end of a history

Entries are written one after the other into `n` cells, round and round, and never erased. The cells
then hold the last `n` entries of all that was ever written, each where its position says, and as long
as less was written, what was there at first.
-/

/-- What the cells hold after a history of entries. -/
structure LastWritten {β : Type} (n : Nat) (initial cells : Nat → β) (history : List β) : Prop where
  last : ∀ p, history.length ≤ p + n → p < history.length → history[p]? = some (cells (p % n))
  rest : ∀ p, history.length ≤ p → p < n → cells p = initial p

namespace LastWritten

variable {β : Type} {n : Nat} {initial cells : Nat → β} {history : List β}

theorem nil (fresh : ∀ p < n, cells p = initial p) : LastWritten n initial cells [] :=
  ⟨fun _ _ low => absurd low (Nat.not_lt_zero _), fun p _ low => fresh p low⟩

/-- One more entry takes the place of the oldest one. -/
theorem push (written : LastWritten n initial cells history) (x : β) :
    LastWritten n initial (Function.update cells (history.length % n) x) (history ++ [x]) := by
  constructor
  · intro p near low
    rw [List.length_append, List.length_singleton] at near low
    by_cases newest : p = history.length
    · rw [newest, List.getElem?_append_right (Nat.le_refl _), Nat.sub_self, Function.update_self]
      rfl
    · -- the last `n` positions have cells of their own
      have apart : p % n ≠ history.length % n := by
        intro same
        have gap : (history.length - p) % n = 0 := Nat.sub_mod_eq_zero_of_mod_eq same.symm
        rw [Nat.mod_eq_of_lt (by omega)] at gap
        omega
      rw [List.getElem?_append_left (by omega), Function.update_of_ne apart]
      exact written.last p (by omega) (by omega)
  · intro p behind low
    rw [List.length_append, List.length_singleton] at behind
    have inside : history.length % n = history.length := Nat.mod_eq_of_lt (by omega)
    rw [inside, Function.update_of_ne (by omega)]
    exact written.rest p (by omega) low

/-- Once every cell was written, it does not matter what was there at first. -/
theorem full (written : LastWritten n initial cells history) (many : n ≤ history.length)
    (initial' : Nat → β) : LastWritten n initial' cells history :=
  ⟨written.last, fun p behind low => absurd low (by omega)⟩

/-- The last `m` entries are read in the order in which they were written. -/
theorem map_last (written : LastWritten n initial cells history) {m : Nat} (few : m ≤ n)
    (inside : m ≤ history.length) :
    (List.range m).map (fun i => cells ((history.length - m + i) % n)) =
      history.drop (history.length - m) := by
  apply List.ext_getElem
  · rw [List.length_map, List.length_range, List.length_drop]
    omega
  · intro i low low'
    rw [List.length_map, List.length_range] at low
    have entry := written.last (history.length - m + i) (by omega) (by omega)
    rw [List.getElem?_eq_getElem (by omega), Option.some_inj] at entry
    rw [List.getElem_map, List.getElem_range, List.getElem_drop, entry]

/-- Read cell by cell, the entries come in another order. -/
theorem perm (written : LastWritten n initial cells history) :
    ((List.range n).map cells).Perm
      (history.drop (history.length - n) ++
        (List.range (n - history.length)).map fun i => initial (history.length + i)) := by
  by_cases many : n ≤ history.length
  · have turned : (List.range n).map (fun i => (history.length - n + i) % n) =
        (List.range n).rotate (history.length - n) := by
      apply List.ext_getElem
      · simp
      · intro i low low'
        simp [List.getElem_rotate, Nat.add_comm]
    have whole := written.map_last (Nat.le_refl n) many
    have cut : n - history.length = 0 := by omega
    rw [← Function.comp_def cells, ← List.map_map, turned] at whole
    rw [cut, List.range_zero, List.map_nil, List.append_nil, ← whole]
    exact (List.rotate_perm _ _).symm.map cells
  · have start : history.length - n = 0 := by omega
    have parts : n = history.length + (n - history.length) := by omega
    have first := written.map_last (m := history.length) (by omega) (Nat.le_refl _)
    have low : (List.range history.length).map cells = history := by
      rw [Nat.sub_self, List.drop_zero] at first
      conv => rhs; rw [← first]
      apply List.map_congr_left
      intro i member
      have inside := List.mem_range.mp member
      rw [Nat.zero_add, Nat.mod_eq_of_lt (by omega)]
    have high : (List.range (n - history.length)).map (fun i => cells (history.length + i)) =
        (List.range (n - history.length)).map fun i => initial (history.length + i) := by
      apply List.map_congr_left
      intro i member
      have inside := List.mem_range.mp member
      exact written.rest _ (by omega) (by omega)
    rw [start, List.drop_zero, ← high]
    conv => lhs; rw [parts, List.range_add, List.map_append, List.map_map, low]
    exact List.Perm.refl _

end LastWritten
