import Mathlib.Data.Set.Card

/-!
# Supplies

A supply hands one thing out at each call and may run dry. What it still has is what the
calls from now on return, and an invariant on the things that are out keeps these apart from
the ones that are left.
-/
namespace Supply

variable {σ τ α : Type}

/-- What the call after `n` others returns. -/
def nth (next : σ → Option α × σ) : σ → Nat → Option α
  | s, 0 => (next s).1
  | s, n + 1 => nth next (next s).2 n

/-- All that the supply still has. -/
def available (next : σ → Option α × σ) (s : σ) : Set α := {a | ∃ n, nth next s n = some a}

section

variable {next : σ → Option α × σ} {s : σ} {a : α}

theorem available_of_some (given : (next s).1 = some a) :
    available next s = insert a (available next (next s).2) := by
  ext b
  constructor
  · rintro ⟨n, found⟩
    cases n with
    | zero =>
      rw [nth, given, Option.some_inj] at found
      exact .inl found.symm
    | succ n => exact .inr ⟨n, found⟩
  · rintro (rfl | ⟨n, found⟩)
    · exact ⟨0, given⟩
    · exact ⟨n + 1, found⟩

/-- A call that returns nothing and changes nothing is one of many. -/
theorem available_of_none (nothing : (next s).1 = none) (same : (next s).2 = s) :
    available next s = ∅ := by
  have dry (n : Nat) : nth next s n = none := by
    induction n with
    | zero => exact nothing
    | succ n ih => rw [nth, same, ih]
  refine Set.eq_empty_of_forall_notMem ?_
  rintro b ⟨n, found⟩
  rw [dry n] at found
  cases found

/-- What is out, and stays out at every call, does not come again. -/
theorem notMem_available (out : σ → Prop) (fresh : ∀ s, out s → (next s).1 ≠ some a)
    (stays : ∀ s, out s → out (next s).2) (now : out s) : a ∉ available next s := by
  rintro ⟨n, found⟩
  induction n generalizing s with
  | zero => exact fresh s now found
  | succ n ih => exact ih (stays s now) found

/-- Supplies that return the same, step by step, have the same left. -/
theorem available_eq_of_simulates {next' : τ → Option α × τ} {t : τ} (related : σ → τ → Prop)
    (same : ∀ s t, related s t → (next s).1 = (next' t).1)
    (kept : ∀ s t, related s t → related (next s).2 (next' t).2) (now : related s t) :
    available next s = available next' t := by
  have agree (n : Nat) : nth next s n = nth next' t n := by
    induction n generalizing s t with
    | zero => exact same s t now
    | succ n ih => exact ih (kept s t now)
  ext b
  simp only [available, agree]

end

end Supply
