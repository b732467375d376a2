import Mathlib.Tactic

/-!
# Hexadecimal numerals

The number that the leading digits of a text write, and `strtol` in base 16, which also takes white
space, a sign and a `0x` before them.
-/
namespace HexNumeral

/-- The value of a digit. -/
def digit (c : UInt8) : Option Nat :=
  if 48 ≤ c ∧ c ≤ 57 then some (c.toNat - 48)
  else if 65 ≤ c ∧ c ≤ 70 then some (c.toNat - 55)
  else if 97 ≤ c ∧ c ≤ 102 then some (c.toNat - 87)
  else none

/-- More digits behind those that make `n`, up to the first character that is none. -/
def leadingFrom (n : Nat) : List UInt8 → Nat
  | [] => n
  | c :: s =>
    match digit c with
    | none => n
    | some d => leadingFrom (16 * n + d) s

def leading (s : List UInt8) : Nat := leadingFrom 0 s

def isSpace (c : UInt8) : Bool := decide ((9 ≤ c ∧ c ≤ 13) ∨ c = 32)

/-- The digits of `strtol`, which may follow a `0x`. -/
def magnitude : List UInt8 → Nat
  | c :: x :: s => if c = 48 ∧ (x = 120 ∨ x = 88) then leading s else leading (c :: x :: s)
  | s => leading s

/-- `strtol` in base 16, for numbers in its range; the text ends at its first null character. -/
def strtol (s : List UInt8) : Int :=
  match (s.takeWhile (· ≠ 0)).dropWhile isSpace with
  | [] => 0
  | c :: s =>
    if c = 45 then -(magnitude s : Int)
    else if c = 43 then magnitude s
    else magnitude (c :: s)

/-- A character that means nothing to `strtol` but for being a digit or not. -/
def Plain (c : UInt8) : Prop := ¬isSpace c ∧ c ≠ 45 ∧ c ≠ 43 ∧ c ≠ 120 ∧ c ≠ 88

instance (c : UInt8) : Decidable (Plain c) := inferInstanceAs (Decidable (_ ∧ _))

/-- The three ranges of digits. -/
theorem digit_eq_some {c : UInt8} {d : Nat} (value : digit c = some d) :
    (48 ≤ c.toNat ∧ c.toNat ≤ 57 ∧ d = c.toNat - 48) ∨
    (65 ≤ c.toNat ∧ c.toNat ≤ 70 ∧ d = c.toNat - 55) ∨
    (97 ≤ c.toNat ∧ c.toNat ≤ 102 ∧ d = c.toNat - 87) := by
  unfold digit at value
  split at value
  next range =>
    cases value
    exact .inl ⟨UInt8.le_iff_toNat_le.mp range.1, UInt8.le_iff_toNat_le.mp range.2, rfl⟩
  · split at value
    next range =>
      cases value
      exact .inr (.inl ⟨UInt8.le_iff_toNat_le.mp range.1, UInt8.le_iff_toNat_le.mp range.2, rfl⟩)
    · split at value
      next range =>
        cases value
        exact .inr (.inr ⟨UInt8.le_iff_toNat_le.mp range.1, UInt8.le_iff_toNat_le.mp range.2, rfl⟩)
      · cases value

theorem digit_lt {c : UInt8} {d : Nat} (value : digit c = some d) : d < 16 := by
  have ranges := digit_eq_some value
  omega

/-- Only one digit has the value 0. -/
theorem digit_pos {c : UInt8} {d : Nat} (value : digit c = some d) (nonzero : c ≠ 48) : 0 < d := by
  have differ : c.toNat ≠ 48 := fun same => nonzero (UInt8.toNat_inj.mp same)
  have ranges := digit_eq_some value
  omega

theorem plain_of_digit {c : UInt8} (isDigit : (digit c).isSome) : Plain c := by
  obtain ⟨d, value⟩ := Option.isSome_iff_exists.mp isDigit
  have ranges := digit_eq_some value
  refine ⟨?_, ?_, ?_, ?_, ?_⟩
  · intro blank
    rcases of_decide_eq_true blank with ⟨-, low⟩ | rfl
    · have below : c.toNat ≤ 13 := low
      omega
    · cases value
  all_goals
    rintro rfl
    cases value

theorem leading_takeWhile (n : Nat) (s : List UInt8) :
    leadingFrom n (s.takeWhile (· ≠ 0)) = leadingFrom n s := by
  induction s generalizing n with
  | nil => rfl
  | cons c s ih =>
    by_cases last : c = 0
    · rw [last]
      rfl
    · rw [List.takeWhile_cons_of_pos (by simpa using last), leadingFrom, leadingFrom]
      cases digit c with
      | none => rfl
      | some d => exact ih _

/-- Without white space, signs and crosses `strtol` reads the leading digits. -/
theorem strtol_eq_leading {s : List UInt8} (plain : ∀ c ∈ s, Plain c) : strtol s = leading s := by
  rw [leading, ← leading_takeWhile, strtol]
  have kept : ∀ c ∈ s.takeWhile (· ≠ 0), Plain c := fun c member =>
    plain c (List.takeWhile_subset _ member)
  generalize s.takeWhile (· ≠ 0) = t at kept
  cases t with
  | nil => rfl
  | cons c t =>
    obtain ⟨visible, minus, plus, -⟩ := kept c List.mem_cons_self
    rw [List.dropWhile_cons_of_neg visible]
    simp only [if_neg minus, if_neg plus]
    cases t with
    | nil => rfl
    | cons x t =>
      obtain ⟨-, -, -, small, capital⟩ := kept x (by simp)
      simp only [magnitude, small, capital, or_self, and_false, if_false]
      rfl

/-- What is behind a character that is no digit does not count. -/
theorem leadingFrom_append {c : UInt8} (other : digit c = none) (n : Nat) (s t : List UInt8) :
    leadingFrom n (s ++ c :: t) = leadingFrom n s := by
  induction s generalizing n with
  | nil => simp only [List.nil_append, leadingFrom, other]
  | cons x s ih =>
    rw [List.cons_append, leadingFrom, leadingFrom]
    cases digit x with
    | none => rfl
    | some d => exact ih _

/-- So many digits make no larger number. -/
theorem leadingFrom_lt (n : Nat) (s : List UInt8) : leadingFrom n s < (n + 1) * 16 ^ s.length := by
  induction s generalizing n with
  | nil => simp [leadingFrom]
  | cons c s ih =>
    rw [leadingFrom, List.length_cons, Nat.pow_succ]
    cases value : digit c with
    | none =>
      have positive : 0 < 16 ^ s.length := Nat.pow_pos (by decide)
      calc n < (n + 1) * 1 := by omega
        _ ≤ (n + 1) * (16 ^ s.length * 16) := Nat.mul_le_mul_left _ (by omega)
    | some d =>
      have small := digit_lt value
      calc leadingFrom (16 * n + d) s
          < (16 * n + d + 1) * 16 ^ s.length := ih _
        _ ≤ (16 * (n + 1)) * 16 ^ s.length := Nat.mul_le_mul_right _ (by omega)
        _ = (n + 1) * (16 ^ s.length * 16) := by ring

end HexNumeral
