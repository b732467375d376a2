import Kpnet.Lib.Bytes

/-!
# Code and the places it touches

Straight-line code and loops over the bytes behind one pointer, as a monad that keeps a
record of every load and store. What the code computes and what it touches are read off the
same program, so a bound on the latter is a bound on that very code.
-/

/-- Code that works on the bytes behind a pointer: its result, the bytes it leaves, and the
places it touched, each an offset and a length. -/
def Traced (α : Type) : Type := Bytes → (α × Bytes) × List (Nat × Nat)

namespace Traced

open Bytes

variable {α β γ : Type}

instance : Monad Traced where
  pure a := fun b => ((a, b), [])
  bind m f := fun b =>
    let ((a, b'), places) := m b
    let (result, others) := f a b'
    (result, places ++ others)

/-- The result and the bytes left behind. -/
def exec (m : Traced α) (b : Bytes) : α × Bytes := (m b).1

def touched (m : Traced α) (b : Bytes) : List (Nat × Nat) := (m b).2

/-- Every byte touched is one of the first `n`. -/
def Within (n : Nat) (m : Traced α) (b : Bytes) : Prop :=
  ∀ place ∈ m.touched b, ∀ i < place.2, place.1 + i < n

def load (o n : Nat) : Traced (List UInt8) := fun b => ((slice b o n, b), [(o, n)])

def load8 (o : Nat) : Traced UInt8 := fun b => ((b o, b), [(o, 1)])

def load16 (o : Nat) : Traced UInt16 := fun b => ((u16 b o, b), [(o, 2)])

def load32 (o : Nat) : Traced UInt32 := fun b => ((u32 b o, b), [(o, 4)])

def load64 (o : Nat) : Traced UInt64 := fun b => ((u64 b o, b), [(o, 8)])

def store (o : Nat) (l : List UInt8) : Traced Unit := fun b => (((), put b o l), [(o, l.length)])

/-- `p + o`; to compute an address touches nothing. -/
def address (o : Nat) : Traced Bytes := fun b => ((shift b o, b), [])

section Exec

variable (b : Bytes) (o n : Nat) (l : List UInt8)

@[simp] theorem exec_pure (a : α) : (pure a : Traced α).exec b = (a, b) := rfl

@[simp] theorem exec_bind (m : Traced α) (f : α → Traced β) :
    (m >>= f).exec b = (f (m.exec b).1).exec (m.exec b).2 := rfl

@[simp] theorem exec_map (f : α → β) (m : Traced α) :
    (f <$> m).exec b = (f (m.exec b).1, (m.exec b).2) := rfl

@[simp] theorem exec_load : (load o n).exec b = (slice b o n, b) := rfl

@[simp] theorem exec_load8 : (load8 o).exec b = (b o, b) := rfl

@[simp] theorem exec_load16 : (load16 o).exec b = (u16 b o, b) := rfl

@[simp] theorem exec_load32 : (load32 o).exec b = (u32 b o, b) := rfl

@[simp] theorem exec_load64 : (load64 o).exec b = (u64 b o, b) := rfl

@[simp] theorem exec_store : (store o l).exec b = ((), put b o l) := rfl

@[simp] theorem exec_address : (address o).exec b = (shift b o, b) := rfl

/-- A loop that changes nothing behind the pointer. -/
theorem exec_foldlM {f : β → α → Traced β} {g : β → α → β} {b : Bytes}
    (reads : ∀ acc x, (f acc x).exec b = (g acc x, b)) (xs : List α) (acc : β) :
    (xs.foldlM f acc).exec b = (xs.foldl g acc, b) := by
  induction xs generalizing acc with
  | nil => rfl
  | cons x xs ih =>
    rw [List.foldlM_cons, exec_bind, reads, ih, List.foldl_cons]

end Exec

section Within

variable (size : Nat) (b : Bytes) (o n : Nat) (l : List UInt8)

@[simp] theorem within_pure (a : α) : Within size (pure a : Traced α) b := by
  intro place member
  cases member

@[simp] theorem within_address : Within size (address o) b := by
  intro place member
  cases member

/-- A sequence stays within the bound exactly if both parts do. -/
@[simp] theorem within_bind (m : Traced α) (f : α → Traced β) :
    Within size (m >>= f) b ↔
      Within size m b ∧ Within size (f (m.exec b).1) (m.exec b).2 := by
  have places : (m >>= f).touched b =
      m.touched b ++ (f (m.exec b).1).touched (m.exec b).2 := rfl
  rw [Within, places]
  simp only [List.mem_append, or_imp, forall_and]
  rfl

@[simp] theorem within_map (f : α → β) (m : Traced α) :
    Within size (f <$> m) b ↔ Within size m b := by
  have places : (f <$> m).touched b = m.touched b ++ [] := rfl
  rw [Within, places, List.append_nil]
  rfl

@[simp] theorem within_ite (c : Prop) {_ : Decidable c} (m m' : Traced α) :
    Within size (if c then m else m') b ↔
      (c → Within size m b) ∧ (¬c → Within size m' b) := by
  split
  next holds => simp [holds]
  next fails => simp [fails]

/-- One place that is not empty. -/
theorem within_singleton {m : Traced α} {b : Bytes} {o n : Nat} (positive : 0 < n)
    (place : m.touched b = [(o, n)]) : Within size m b ↔ o + n ≤ size := by
  rw [Within, place, List.forall_mem_singleton]
  constructor
  · intro inside
    have last := inside (n - 1) (by show n - 1 < n; omega)
    dsimp only at last
    omega
  · intro inside i low
    dsimp only at low ⊢
    omega

theorem within_load (positive : 0 < n) : Within size (load o n) b ↔ o + n ≤ size :=
  within_singleton size positive rfl

@[simp] theorem within_load8 : Within size (load8 o) b ↔ o + 1 ≤ size :=
  within_singleton size (by omega) rfl

@[simp] theorem within_load16 : Within size (load16 o) b ↔ o + 2 ≤ size :=
  within_singleton size (by omega) rfl

@[simp] theorem within_load32 : Within size (load32 o) b ↔ o + 4 ≤ size :=
  within_singleton size (by omega) rfl

@[simp] theorem within_load64 : Within size (load64 o) b ↔ o + 8 ≤ size :=
  within_singleton size (by omega) rfl

theorem within_store (positive : 0 < l.length) :
    Within size (store o l) b ↔ o + l.length ≤ size :=
  within_singleton size positive rfl

/-- A loop that changes nothing stays within the bound exactly if every pass does. -/
theorem within_foldlM {f : β → α → Traced β} {g : β → α → β} {b : Bytes} {p : α → Prop}
    (reads : ∀ acc x, (f acc x).exec b = (g acc x, b))
    (places : ∀ acc x, Within size (f acc x) b ↔ p x) (xs : List α) (acc : β) :
    Within size (xs.foldlM f acc) b ↔ ∀ x ∈ xs, p x := by
  induction xs generalizing acc with
  | nil => simp
  | cons x xs ih =>
    rw [List.foldlM_cons, within_bind, places, reads, ih, List.forall_mem_cons]

end Within

end Traced
