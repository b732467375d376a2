import Kpnet.Lib.Tokens

/-!
# Custody of buffers

Where a buffer of a ring allocator can be: held by a thread, on its way into the ring
in a push, on its way out in the cell a pop has returned, or queued in a cell. Each move
of the allocator's clients hands at most one buffer on, so the buffers stay placed.
-/
namespace Kpnet.Ring

open Tokens

variable {β τ : Type}

inductive Place (τ : Type) where
  | held (thread : τ)
  | pushing (thread : τ)
  | popping (thread : τ)
  | queued (cell : Nat)
  deriving DecidableEq, Repr

/-- What the threads hold, carry into a push and have fetched by a pop without having
read it, and which cells are filled with what. -/
structure Custody (β τ : Type) where
  held : τ → List β
  carried : τ → Option β
  fetched : τ → Option Nat
  filled : Nat → Prop
  packet : Nat → Option β

namespace Custody

variable {tokens : Set β} {c : Custody β τ} {u : τ}

def At (c : Custody β τ) (b : β) : Place τ → Prop
  | .held t => b ∈ c.held t
  | .pushing t => c.carried t = some b
  | .popping t => ∃ i, c.fetched t = some i ∧ c.packet i = some b
  | .queued i => c.filled i ∧ c.packet i = some b

/-- A buffer is with a thread: in its hands, in its push or in the cell it fetched. -/
def Holds (c : Custody β τ) (t : τ) (b : β) : Prop :=
  c.At b (.held t) ∨ c.At b (.pushing t) ∨ c.At b (.popping t)

def Queued (c : Custody β τ) (b : β) : Prop := ∃ i, c.At b (.queued i)

/-- No buffer is with two threads, with a thread and queued, or lost. -/
def Exclusive (tokens : Set β) (c : Custody β τ) : Prop :=
  ∀ b ∈ tokens, (∀ t u, c.Holds t b → c.Holds u b → t = u) ∧
    (∀ t, c.Holds t b → ¬c.Queued b) ∧ ((∃ t, c.Holds t b) ∨ c.Queued b)

theorem exclusive_of_placed (placed : Placed tokens c.At) : Exclusive tokens c := by
  intro b member
  refine ⟨?_, ?_, ?_⟩
  · rintro t u (at_t | at_t | at_t) (at_u | at_u | at_u) <;>
      have same := placed.unique b _ _ at_t at_u <;> cases same <;> rfl
  · rintro t (at_t | at_t | at_t) ⟨i, at_i⟩ <;>
      have same := placed.unique b _ _ at_t at_i <;> cases same
  · obtain ⟨x, there⟩ := placed.total b member
    cases x with
    | held t => exact .inl ⟨t, .inl there⟩
    | pushing t => exact .inl ⟨t, .inr (.inl there)⟩
    | popping t => exact .inl ⟨t, .inr (.inr there)⟩
    | queued i => exact .inr ⟨i, there⟩

/-- A store into a cell that is neither filled nor fetched moves no buffer. -/
theorem store (placed : Placed tokens c.At) (i : Nat) (packet : Option β)
    (vacant : ¬c.filled i) (unread : ∀ t, c.fetched t ≠ some i) :
    Placed tokens { c with packet := Function.update c.packet i packet }.At := by
  refine placed.congr ?_
  intro d x
  cases x with
  | held t => rfl
  | pushing t => rfl
  | popping t =>
    refine exists_congr fun j => and_congr_right fun fetched => ?_
    have apart : j ≠ i := by
      rintro rfl
      exact unread t fetched
    simp only [Function.update_of_ne apart]
  | queued j =>
    refine and_congr_right fun full => ?_
    have apart : j ≠ i := by
      rintro rfl
      exact vacant full
    simp only [Function.update_of_ne apart]

variable [DecidableEq τ]

/-- A thread puts a buffer it holds into a push. -/
theorem give [DecidableEq β] (placed : Placed tokens c.At) (b : β) (member : b ∈ c.held u)
    (once : (c.held u).Nodup) (free : c.carried u = none) :
    Placed tokens { c with
      held := Function.update c.held u ((c.held u).erase b)
      carried := Function.update c.carried u (some b) }.At := by
  refine placed.move b (.held u) (.pushing u) member ?_ ?_ ?_
  · simp only [At, Function.update_self]
    exact once.not_mem_erase
  · simp only [At, Function.update_self]
  · intro d x other
    cases x with
    | held t =>
      by_cases same : t = u
      · subst same
        simp only [At, Function.update_self]
        exact List.mem_erase_of_ne (by simpa using other)
      · simp only [At, Function.update_of_ne same]
    | pushing t =>
      by_cases same : t = u
      · subst same
        have distinct : b ≠ d := by simpa [eq_comm] using other
        simp [At, free, distinct]
      · simp only [At, Function.update_of_ne same]
    | popping t => rfl
    | queued i => rfl

/-- A thread takes back the buffer of a refused push. -/
theorem takeBack (placed : Placed tokens c.At) (b : β) (carries : c.carried u = some b) :
    Placed tokens { c with
      held := Function.update c.held u (b :: c.held u)
      carried := Function.update c.carried u none }.At := by
  refine placed.move b (.pushing u) (.held u) carries ?_ ?_ ?_
  · simp [At]
  · simp [At]
  · intro d x other
    cases x with
    | held t =>
      by_cases same : t = u
      · subst same
        have distinct : d ≠ b := by simpa using other
        simp [At, distinct]
      · simp only [At, Function.update_of_ne same]
    | pushing t =>
      by_cases same : t = u
      · subst same
        have distinct : b ≠ d := by simpa [eq_comm] using other
        simp [At, carries, distinct]
      · simp only [At, Function.update_of_ne same]
    | popping t => rfl
    | queued i => rfl

/-- A pop fetches a filled cell. -/
theorem fetch (placed : Placed tokens c.At) (i : Nat) (free : c.fetched u = none)
    (full : c.filled i) :
    Placed tokens { c with
      fetched := Function.update c.fetched u (some i)
      filled := fun j => c.filled j ∧ j ≠ i }.At := by
  -- all that changes is what cell `i` counts for
  have others : ∀ d x, c.packet i ≠ some d ∨ x ≠ .queued i ∧ x ≠ .popping u →
      ({ c with
        fetched := Function.update c.fetched u (some i)
        filled := fun j => c.filled j ∧ j ≠ i }.At d x ↔ c.At d x) := by
    intro d x other
    cases x with
    | held t => rfl
    | pushing t => rfl
    | popping t =>
      by_cases same : t = u
      · subst same
        have distinct : c.packet i ≠ some d := by simpa using other
        simp [At, free, distinct]
      · simp only [At, Function.update_of_ne same]
    | queued j =>
      by_cases same : j = i
      · subst same
        have distinct : c.packet j ≠ some d := by simpa using other
        simp [At, distinct]
      · simp [At, same]
  cases content : c.packet i with
  -- a cell without a buffer moves nothing
  | none => exact placed.congr fun d x => others d x (.inl (by simp [content]))
  | some b =>
    refine placed.move b (.queued i) (.popping u) ⟨full, content⟩ ?_ ?_ ?_
    · simp [At]
    · exact ⟨i, by simp, content⟩
    · intro d x other
      refine others d x (other.imp ?_ id)
      intro distinct same
      rw [content] at same
      exact distinct (Option.some.inj same).symm

/-- A push publishes the cell it has stored its buffer in. -/
theorem publish (placed : Placed tokens c.At) (i : Nat) (stored : c.packet i = c.carried u) :
    Placed tokens { c with
      carried := Function.update c.carried u none
      filled := fun j => c.filled j ∨ j = i }.At := by
  -- the mirror image: the cell starts to count, the push stops to
  have others : ∀ d x, c.carried u ≠ some d ∨ x ≠ .pushing u ∧ x ≠ .queued i →
      ({ c with
        carried := Function.update c.carried u none
        filled := fun j => c.filled j ∨ j = i }.At d x ↔ c.At d x) := by
    intro d x other
    cases x with
    | held t => rfl
    | pushing t =>
      by_cases same : t = u
      · subst same
        have distinct : c.carried t ≠ some d := by simpa using other
        simp [At, distinct]
      · simp only [At, Function.update_of_ne same]
    | popping t => rfl
    | queued j =>
      by_cases same : j = i
      · subst same
        have distinct : c.packet j ≠ some d := by
          rw [stored]
          simpa using other
        simp [At, distinct]
      · simp [At, same]
  cases content : c.carried u with
  | none => exact placed.congr fun d x => others d x (.inl (by simp [content]))
  | some b =>
    refine placed.move b (.pushing u) (.queued i) content ?_ ?_ ?_
    · simp [At]
    · exact ⟨.inr rfl, stored.trans content⟩
    · intro d x other
      refine others d x (other.imp ?_ id)
      intro distinct same
      rw [content] at same
      exact distinct (Option.some.inj same).symm

/-- A thread reads the buffer out of the cell it has fetched. -/
theorem read (placed : Placed tokens c.At) (i : Nat) (fetched : c.fetched u = some i) :
    Placed tokens { c with
      held := match c.packet i with
        | some b => Function.update c.held u (b :: c.held u)
        | none => c.held
      fetched := Function.update c.fetched u none }.At := by
  cases content : c.packet i with
  | none =>
    refine placed.congr ?_
    intro d x
    cases x with
    | popping t =>
      by_cases same : t = u
      · subst same
        simp [At, fetched, content]
      · simp only [At, Function.update_of_ne same]
    | _ => rfl
  | some b =>
    refine placed.move b (.popping u) (.held u) ⟨i, fetched, content⟩ ?_ ?_ ?_
    · simp [At]
    · simp [At]
    · intro d x other
      cases x with
      | held t =>
        by_cases same : t = u
        · subst same
          have distinct : d ≠ b := by simpa using other
          simp [At, distinct]
        · simp only [At, Function.update_of_ne same]
      | pushing t => rfl
      | popping t =>
        by_cases same : t = u
        · subst same
          have distinct : b ≠ d := by simpa [eq_comm] using other
          simp [At, fetched, content, distinct]
        · simp only [At, Function.update_of_ne same]
      | queued j => rfl

end Custody

end Kpnet.Ring
