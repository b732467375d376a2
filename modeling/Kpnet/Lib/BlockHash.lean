import Mathlib.Tactic

/-!
# Hashing by blocks

A compression function is applied to every whole block of a message, and what is left waits
for more. It does not matter in which pieces the message comes.
-/
namespace BlockHash

/-- A hash on its way: the state after the whole blocks, and what came behind them. -/
@[ext] structure Running (σ α : Type) (n : Nat) where
  state : σ
  pending : List α
  short : pending.length < n

variable {σ α : Type} {n : Nat}

/-- The blocks of `n`, without what is left at the end. -/
def blocks (n : Nat) (l : List α) : List (List α) :=
  (List.range (l.length / n)).map fun i => (l.drop (n * i)).take n

namespace Running

variable (compress : σ → List α → σ)

def start (state : σ) (positive : 0 < n) : Running σ α n := ⟨state, [], positive⟩

def step (r : Running σ α n) (a : α) : Running σ α n :=
  if room : r.pending.length + 1 < n then
    ⟨r.state, r.pending ++ [a], by simpa using room⟩
  else
    ⟨compress r.state (r.pending ++ [a]), [], Nat.zero_lt_of_lt r.short⟩

def absorb (r : Running σ α n) (l : List α) : Running σ α n := l.foldl (step compress) r

@[simp] theorem absorb_nil (r : Running σ α n) : r.absorb compress [] = r := rfl

@[simp] theorem absorb_cons (r : Running σ α n) (a : α) (l : List α) :
    r.absorb compress (a :: l) = (r.step compress a).absorb compress l := rfl

theorem absorb_append (r : Running σ α n) (l l' : List α) :
    r.absorb compress (l ++ l') = (r.absorb compress l).absorb compress l' :=
  List.foldl_append

/-- What does not complete a block only waits. -/
theorem absorb_of_short (r : Running σ α n) (l : List α)
    (room : r.pending.length + l.length < n) :
    (r.absorb compress l).state = r.state ∧ (r.absorb compress l).pending = r.pending ++ l := by
  induction l generalizing r with
  | nil => simp
  | cons a l ih =>
    rw [List.length_cons] at room
    have fits : r.pending.length + 1 < n := by omega
    have first : r.step compress a = ⟨r.state, r.pending ++ [a], by simpa using fits⟩ :=
      dif_pos fits
    obtain ⟨state, pending⟩ := ih (r.step compress a) (by rw [first]; simp; omega)
    rw [absorb_cons]
    constructor
    · rw [state, first]
    · rw [pending, first, List.append_assoc, List.singleton_append]

/-- What completes a block is compressed with what waited. -/
theorem absorb_of_full (r : Running σ α n) (l : List α)
    (full : r.pending.length + l.length = n) :
    (r.absorb compress l).state = compress r.state (r.pending ++ l) ∧
      (r.absorb compress l).pending = [] := by
  have short := r.short
  rcases l.eq_nil_or_concat' with rfl | ⟨before, a, rfl⟩
  · rw [List.length_nil] at full
    omega
  · rw [List.length_append, List.length_singleton] at full
    -- all but the last only wait, and the last makes the block whole
    obtain ⟨state, pending⟩ := absorb_of_short compress r before (by omega)
    have last : ¬ (r.absorb compress before).pending.length + 1 < n := by
      rw [pending, List.length_append]
      omega
    rw [absorb_append, absorb_cons, absorb_nil, step, dif_neg last, state, pending,
      List.append_assoc]
    exact ⟨rfl, rfl⟩

/-- Of a message that starts with a block, the whole blocks are compressed in order. -/
theorem absorb_blocks (r : Running σ α n) (empty : r.pending = []) (l : List α) (k : Nat)
    (whole : n * k ≤ l.length) :
    (r.absorb compress (l.take (n * k))).state =
        (List.range k).foldl (fun s i => compress s ((l.drop (n * i)).take n)) r.state ∧
      (r.absorb compress (l.take (n * k))).pending = [] := by
  induction k with
  | zero => simp [empty]
  | succ k ih =>
    rw [Nat.mul_add, Nat.mul_one] at whole
    obtain ⟨state, pending⟩ := ih (by omega)
    have full : (r.absorb compress (l.take (n * k))).pending.length +
        ((l.drop (n * k)).take n).length = n := by
      rw [pending, List.length_take, List.length_drop, List.length_nil]
      omega
    have next := absorb_of_full compress _ _ full
    rw [pending, state, List.nil_append] at next
    rw [Nat.mul_add, Nat.mul_one, List.take_add, absorb_append, List.range_succ,
      List.foldl_append]
    exact next

/-- An input that completes the block: then whole blocks of the rest, and what is left. -/
theorem absorb_full_append (r : Running σ α n) (front rest : List α)
    (full : r.pending.length + front.length = n) :
    (r.absorb compress (front ++ rest)).state =
        (List.range (rest.length / n)).foldl
          (fun s i => compress s ((rest.drop (n * i)).take n))
          (compress r.state (r.pending ++ front)) ∧
      (r.absorb compress (front ++ rest)).pending = rest.drop (n * (rest.length / n)) := by
  have positive : 0 < n := Nat.zero_lt_of_lt r.short
  obtain ⟨first, empty⟩ := absorb_of_full compress r front full
  obtain ⟨state, none⟩ := absorb_blocks compress _ empty rest (rest.length / n)
    (Nat.mul_div_le _ _)
  -- the rest behind its whole blocks does not make another one
  have left : (rest.drop (n * (rest.length / n))).length < n := by
    have remainder := Nat.mod_lt rest.length positive
    have divided := Nat.div_add_mod rest.length n
    rw [List.length_drop]
    omega
  obtain ⟨last, waits⟩ := absorb_of_short compress
    ((r.absorb compress front).absorb compress (rest.take (n * (rest.length / n))))
    (rest.drop (n * (rest.length / n))) (by rw [none, List.length_nil, Nat.zero_add]; exact left)
  rw [← absorb_append, List.take_append_drop, ← absorb_append] at last waits
  rw [last, waits, state, first, none, List.nil_append]
  exact ⟨rfl, rfl⟩

/-- How much waits is the length of the message modulo the width of a block. -/
theorem length_pending (r : Running σ α n) (l : List α) :
    (r.absorb compress l).pending.length = (r.pending.length + l.length) % n := by
  induction l generalizing r with
  | nil => exact (Nat.mod_eq_of_lt r.short).symm
  | cons a l ih =>
    rw [absorb_cons, ih, List.length_cons, step]
    split
    · rw [List.length_append, List.length_singleton]
      congr 1
      omega
    next full =>
      have short := r.short
      have width : r.pending.length + (l.length + 1) = l.length + n := by omega
      rw [width, Nat.add_mod_right, List.length_nil, Nat.zero_add]

/-- A message of whole blocks leaves their compression. -/
theorem state_absorb_start (state : σ) (positive : 0 < n) (l : List α) (whole : n ∣ l.length) :
    ((start state positive).absorb compress l).state = (blocks n l).foldl compress state := by
  have counted : n * (l.length / n) = l.length := Nat.mul_div_cancel' whole
  have taken := (absorb_blocks compress (start state positive) rfl l (l.length / n)
    (Nat.le_of_eq counted)).1
  rw [counted, List.take_length] at taken
  rw [taken, blocks, List.foldl_map]
  rfl

/-- What waits of a message is what its whole blocks leave. -/
theorem pending_absorb_start (state : σ) (positive : 0 < n) (l : List α) :
    ((start state positive).absorb compress l).pending = l.drop (n * (l.length / n)) := by
  obtain ⟨-, none⟩ := absorb_blocks compress (start state positive) rfl l (l.length / n)
    (Nat.mul_div_le _ _)
  have remainder := Nat.mod_lt l.length positive
  have divided := Nat.div_add_mod l.length n
  obtain ⟨-, waits⟩ := absorb_of_short compress
    ((start state positive).absorb compress (l.take (n * (l.length / n))))
    (l.drop (n * (l.length / n))) (by rw [none, List.length_nil, List.length_drop]; omega)
  rw [← absorb_append, List.take_append_drop, none, List.nil_append] at waits
  exact waits

end Running

end BlockHash
