import Mathlib.Data.Multiset.AddSub

/-!
# Acquired resources

A log of what a program has acquired and released. What it holds afterwards is a multiset, and a log
that releases what is not held has no meaning. What else is held does not matter, and a program that
gives up on its way releases in reverse what it has acquired so far.
-/
namespace Acquisition

variable {ρ : Type} [DecidableEq ρ]

inductive Event (ρ : Type) where
  | acquire (r : ρ)
  | release (r : ρ)
  deriving DecidableEq, Repr

/-- What is held after a log. -/
def run (held : Multiset ρ) : List (Event ρ) → Option (Multiset ρ)
  | [] => some held
  | .acquire r :: log => run (r ::ₘ held) log
  | .release r :: log => if r ∈ held then run (held.erase r) log else none

/-- Everything acquired, from the last to the first. -/
def releases (rs : List ρ) : List (Event ρ) := rs.reverse.map .release

theorem run_append (held : Multiset ρ) (log log' : List (Event ρ)) :
    run held (log ++ log') = (run held log).bind fun held => run held log' := by
  induction log generalizing held with
  | nil => rfl
  | cons e log ih =>
    cases e with
    | acquire r => exact ih (r ::ₘ held)
    | release r =>
      simp only [List.cons_append, run]
      split
      · exact ih (held.erase r)
      · rfl

/-- What else is held stays held. -/
theorem run_frame {held after : Multiset ρ} {log : List (Event ρ)} (others : Multiset ρ)
    (ran : run held log = some after) : run (others + held) log = some (others + after) := by
  induction log generalizing held with
  | nil =>
    cases ran
    rfl
  | cons e log ih =>
    cases e with
    | acquire r =>
      rw [run, ← Multiset.add_cons]
      exact ih ran
    | release r =>
      rw [run] at ran ⊢
      split at ran
      next member =>
        rw [if_pos (Multiset.mem_add.mpr (.inr member)), Multiset.erase_add_right_pos _ member]
        exact ih ran
      · cases ran

theorem run_acquires (held : Multiset ρ) (rs : List ρ) :
    run held (rs.map .acquire) = some (held + rs) := by
  induction rs generalizing held with
  | nil => exact congrArg some (Multiset.add_zero held).symm
  | cons r rs ih =>
    rw [List.map_cons, run, ih, ← Multiset.cons_coe, Multiset.add_cons, Multiset.cons_add]

/-- The ladder: whatever was acquired is released in reverse order. -/
theorem run_ladder (held : Multiset ρ) (rs : List ρ) :
    run held (rs.map .acquire ++ releases rs) = some held := by
  induction rs generalizing held with
  | nil => rfl
  | cons r rs ih =>
    rw [releases, List.reverse_cons, List.map_append, ← releases, ← List.append_assoc,
      List.map_cons, List.cons_append, List.cons_append, run, run_append, ih]
    simp [run]

end Acquisition
