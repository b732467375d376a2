import Mathlib.Tactic

/-!
# End-around carries

Sums in ones' complement: a carry out of the highest place is added at the lowest. Whenever the
carries are brought back, the digit they end in is the same.
-/
namespace OnesComplement

/-- The digit that a sum ends in, in base `b`. -/
def fold (b n : Nat) : Nat := if n = 0 then 0 else (n - 1) % (b - 1) + 1

variable {b : Nat}

theorem fold_of_lt {n : Nat} (small : n < b) : fold b n = n := by
  unfold fold
  split
  · omega
  · rw [Nat.mod_eq_of_lt (by omega)]
    omega

theorem fold_lt (base : 2 ≤ b) (n : Nat) : fold b n < b := by
  unfold fold
  split
  · omega
  · have below := Nat.mod_lt (n - 1) (show 0 < b - 1 by omega)
    omega

/-- Multiples of `b - 1` are of no account, but a sum is 0 only if it was. -/
theorem fold_add_mul {n : Nat} (positive : 0 < n) (q : Nat) :
    fold b (n + q * (b - 1)) = fold b n := by
  rw [fold, fold, if_neg (by omega), if_neg (by omega),
    show n + q * (b - 1) - 1 = n - 1 + q * (b - 1) by omega, Nat.add_mul_mod_self_right]

/-- One carry brought back. -/
theorem fold_carry (base : 2 ≤ b) (n : Nat) : fold b (n % b + n / b) = fold b n := by
  -- bringing a carry back takes `b - 1` off for each
  have parts : n = n % b + n / b + n / b * (b - 1) := by
    have divided := Nat.mod_add_div n b
    have whole : n / b * (b - 1) + n / b = b * (n / b) := by
      rw [← Nat.mul_succ, Nat.succ_eq_add_one, Nat.sub_add_cancel (by omega), Nat.mul_comm]
    omega
  rcases Nat.eq_zero_or_pos (n % b + n / b) with zero | positive
  · obtain ⟨low, high⟩ := Nat.add_eq_zero_iff.mp zero
    rw [low, high, Nat.zero_mul] at parts
    rw [zero, parts]
  · calc fold b (n % b + n / b)
        = fold b (n % b + n / b + n / b * (b - 1)) := (fold_add_mul positive _).symm
      _ = fold b n := by rw [← parts]

theorem fold_pos {n : Nat} (positive : 0 < n) : 0 < fold b n := by
  rw [fold, if_neg (by omega)]
  omega

/-- What the digit leaves out are multiples of `b - 1`. -/
theorem exists_eq_fold_add {n : Nat} (positive : 0 < n) : ∃ q, n = fold b n + q * (b - 1) := by
  have divided := Nat.mod_add_div (n - 1) (b - 1)
  rw [Nat.mul_comm] at divided
  refine ⟨(n - 1) / (b - 1), ?_⟩
  rw [fold, if_neg (by omega)]
  omega

theorem fold_mod {n : Nat} (positive : 0 < n) : fold b n % (b - 1) = n % (b - 1) := by
  obtain ⟨q, parts⟩ := exists_eq_fold_add (b := b) positive
  conv => rhs; rw [parts]
  rw [Nat.add_mul_mod_self_right]

/-- Sums end in the same digit if they differ by such multiples, unless one of them is 0. -/
theorem fold_eq_fold_iff {n m : Nat} (positive : 0 < n) (positive' : 0 < m) :
    fold b n = fold b m ↔ n % (b - 1) = m % (b - 1) := by
  constructor
  · intro same
    rw [← fold_mod positive, same, fold_mod positive']
  · intro same
    have shifted : (n - 1) % (b - 1) = (m - 1) % (b - 1) := by
      have congruent : n - 1 + 1 ≡ m - 1 + 1 [MOD b - 1] := by
        rw [Nat.sub_add_cancel positive, Nat.sub_add_cancel positive']
        exact same
      exact Nat.ModEq.add_right_cancel' 1 congruent
    rw [fold, fold, if_neg (by omega), if_neg (by omega), shifted]

/-- It does not matter when the carries are brought back. -/
theorem fold_add (base : 2 ≤ b) (n m : Nat) : fold b (fold b n + m) = fold b (n + m) := by
  rcases Nat.eq_zero_or_pos n with rfl | positive
  · rw [fold_of_lt (show 0 < b by omega)]
  · obtain ⟨q, parts⟩ := exists_eq_fold_add (b := b) positive
    have first := fold_pos (b := b) positive
    have moved : n + m = fold b n + m + q * (b - 1) := by omega
    rw [moved, fold_add_mul (by omega)]

/-- The highest digit is that of the sums that are 0 but for their sign. -/
theorem fold_eq_top (base : 2 ≤ b) (n : Nat) : fold b n = b - 1 ↔ 0 < n ∧ n % (b - 1) = 0 := by
  rcases Nat.eq_zero_or_pos n with rfl | positive
  · rw [fold_of_lt (by omega)]
    omega
  · have below := Nat.mod_lt (n - 1) (show 0 < b - 1 by omega)
    have next : n % (b - 1) = ((n - 1) % (b - 1) + 1) % (b - 1) := by
      rw [Nat.mod_add_mod, Nat.sub_add_cancel positive]
    rw [fold, if_neg (by omega), next]
    constructor
    · intro top
      rw [top, Nat.mod_self]
      exact ⟨positive, rfl⟩
    · rintro ⟨-, zero⟩
      by_contra other
      rw [Nat.mod_eq_of_lt (by omega)] at zero
      omega

/-- A sum that is added to itself is 0 only if it was, in an even base. -/
theorem fold_twice_eq_top_iff (base : 2 ≤ b) (odd : Nat.Coprime (b - 1) 2) (n : Nat) :
    fold b (fold b n + n) = b - 1 ↔ fold b n = b - 1 := by
  have half : b - 1 ∣ 2 * n ↔ b - 1 ∣ n := odd.dvd_mul_left
  rw [fold_add base, fold_eq_top base, fold_eq_top base, ← Nat.two_mul, ← Nat.dvd_iff_mod_eq_zero,
    ← Nat.dvd_iff_mod_eq_zero, half]
  omega

/-- The digit that makes a sum 0 but for the sign is the one that is missing to the highest digit,
and never the highest digit itself. -/
theorem add_fold_eq_top_iff (base : 3 ≤ b) (digit : Nat) {n : Nat} (positive : 0 < n) :
    digit + fold b n = b - 1 ↔ (digit + n) % (b - 1) = 0 ∧ digit < b - 1 := by
  have below := Nat.mod_lt (n - 1) (show 0 < b - 1 by omega)
  have folded : fold b n = (n - 1) % (b - 1) + 1 := by rw [fold, if_neg (by omega)]
  have sum : (digit + n) % (b - 1) = (digit + fold b n) % (b - 1) := by
    rw [folded, show digit + n = digit + 1 + (n - 1) by omega, ← Nat.add_mod_mod]
    congr 1
    omega
  rw [sum]
  constructor
  · intro top
    rw [top, Nat.mod_self]
    exact ⟨rfl, by omega⟩
  · rintro ⟨zero, lower⟩
    obtain ⟨q, times⟩ := Nat.dvd_of_mod_eq_zero zero
    -- the sum is positive and less than twice the highest digit
    have once : q = 1 := by
      rcases q with _ | _ | q
      · omega
      · rfl
      · rw [Nat.mul_add, Nat.mul_add] at times
        omega
    rw [times, once, Nat.mul_one]

/-- The sum of two digits, with the carry brought back. -/
def add (b x y : Nat) : Nat := if x + y < b then x + y else x + y - (b - 1)

theorem add_eq_fold (base : 2 ≤ b) {x y : Nat} (digit : x < b) (digit' : y < b) :
    add b x y = fold b (x + y) := by
  unfold add
  split
  next fits => rw [fold_of_lt fits]
  next carries =>
    have once : x + y = x + y - (b - 1) + 1 * (b - 1) := by omega
    rw [once, fold_add_mul (by omega), fold_of_lt (by omega), ← once]

/-- Digit by digit, a sum ends in the digit of the whole. -/
theorem foldl_add (base : 2 ≤ b) (digits : List Nat) (n : Nat) (start : n < b)
    (small : ∀ d ∈ digits, d < b) : digits.foldl (add b) n = fold b (n + digits.sum) := by
  induction digits generalizing n with
  | nil => rw [List.foldl_nil, List.sum_nil, Nat.add_zero, fold_of_lt start]
  | cons d digits ih =>
    obtain ⟨first, rest⟩ := List.forall_mem_cons.mp small
    have sum := add_eq_fold base start first
    rw [List.foldl_cons, ih _ (by rw [sum]; exact fold_lt base _) rest, sum, fold_add base,
      List.sum_cons, Nat.add_assoc]

end OnesComplement
