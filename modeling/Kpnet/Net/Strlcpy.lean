import Kpnet.Lib.Bytes

/-!
# Copying the name of a device

`_strlcpy` of `eth_open.c`, by its two loops: one that copies until there is no room left for more
than the null character, and one that only looks for the end of what was not copied.
-/
namespace Kpnet.Net

open Bytes

/-- `do { if ((*d++ = *s++) == 0) break; } while (--n != 0);`, and nothing if `n` is 0. -/
def copyLoop (m : Bytes) (d s : Nat) : Nat → Bytes × Nat × Nat × Nat
  | 0 => (m, d, s, 0)
  | n + 1 =>
    let c := m s
    let m := put m d [c]
    -- at the `break` the last character is not counted
    if c = 0 then (m, d + 1, s + 1, n + 1) else copyLoop m (d + 1) (s + 1) n

/-- `while (*s++);`, for so many characters. -/
def scanEnd (m : Bytes) : Nat → Nat → Option Nat
  | 0, _ => none
  | fuel + 1, s => if m s = 0 then some (s + 1) else scanEnd m fuel (s + 1)

/-- `_strlcpy`: the memory it leaves, and its result. -/
def strlcpy (fuel : Nat) (m : Bytes) (dst src siz : Nat) : Option (Bytes × Nat) :=
  let (m, d, s, n) :=
    if siz ≠ 0 then
      if siz - 1 ≠ 0 then copyLoop m dst src (siz - 1) else (m, dst, src, siz - 1)
    else (m, dst, src, siz)
  if n = 0 then
    let m := if siz ≠ 0 then put m d [0] else m
    match scanEnd m fuel s with
    | none => none
    | some s => some (m, s - src - 1)
  else some (m, s - src - 1)

/-- The characters up to the first null character. -/
structure CString (m : Bytes) (s : Nat) (chars : List UInt8) : Prop where
  bytes : slice m s (chars.length + 1) = chars ++ [0]
  nonzero : ∀ c ∈ chars, c ≠ 0

section Strings

variable {m : Bytes} {s d : Nat} {c : UInt8} {chars : List UInt8}

/-- A string of one character more. -/
theorem CString.cons_iff :
    CString m s (c :: chars) ↔ m s = c ∧ c ≠ 0 ∧ CString m (s + 1) chars := by
  have split : slice m s ((c :: chars).length + 1) = m s :: slice m (s + 1) (chars.length + 1) := by
    rw [List.length_cons, Nat.add_comm (chars.length + 1) 1, slice_add]
    simp [slice]
  constructor
  · rintro ⟨bytes, nonzero⟩
    rw [split, List.cons_append, List.cons.injEq] at bytes
    exact ⟨bytes.1, nonzero c List.mem_cons_self, bytes.2,
      fun c member => nonzero c (List.mem_cons_of_mem _ member)⟩
  · rintro ⟨head, some, bytes, nonzero⟩
    refine ⟨by rw [split, head, bytes, List.cons_append], ?_⟩
    intro c' member
    rcases List.mem_cons.mp member with rfl | member
    · exact some
    · exact nonzero c' member

theorem CString.nil (string : CString m s []) : m s = 0 := head_of_slice string.bytes

/-- A store that does not touch a string. -/
theorem CString.put (string : CString m s chars) {l : List UInt8}
    (apart : d + l.length ≤ s ∨ s + chars.length + 1 ≤ d) : CString (put m d l) s chars :=
  ⟨by rw [slice_put_of_disjoint m d s _ l (by omega), string.bytes], string.nonzero⟩

theorem CString.drop (string : CString m s chars) {k : Nat} (inside : k ≤ chars.length) :
    CString m (s + k) (chars.drop k) := by
  induction k generalizing s chars with
  | zero => exact string
  | succ k ih =>
    cases chars with
    | nil => cases inside
    | cons c chars =>
      have rest := ih (CString.cons_iff.mp string).2.2 (Nat.le_of_succ_le_succ inside)
      rwa [Nat.add_right_comm] at rest

/-- The first loop: the string with its null character, or as much of it as there is room for. -/
theorem copyLoop_spec {n : Nat} (string : CString m s chars)
    (apart : d + n ≤ s ∨ s + chars.length + 1 ≤ d) :
    copyLoop m d s n =
      if chars.length < n then
        (put m d (chars ++ [0]), d + chars.length + 1, s + chars.length + 1, n - chars.length)
      else (put m d (chars.take n), d + n, s + n, 0) := by
  induction n generalizing m d s chars with
  | zero =>
    rw [copyLoop, if_neg (Nat.not_lt_zero _), List.take_zero, put_nil, Nat.add_zero, Nat.add_zero]
  | succ n ih =>
    cases chars with
    | nil => simp [copyLoop, string.nil]
    | cons c chars =>
      obtain ⟨head, some, rest⟩ := CString.cons_iff.mp string
      rw [List.length_cons] at apart
      have kept : CString (put m d [c]) (s + 1) chars := by
        apply rest.put
        rw [List.length_singleton]
        omega
      have front (l : List UInt8) : put (put m d [c]) (d + 1) l = put m d (c :: l) :=
        (put_append m d [c] l).symm
      have turned := ih (d := d + 1) kept (by omega)
      rw [copyLoop, head]
      simp only [if_neg some, turned, front, List.length_cons, List.take_succ_cons,
        List.cons_append, Nat.add_lt_add_iff_right, Nat.add_sub_add_right]
      -- the same counts, from one character further on
      split
      · simp only [Prod.mk.injEq, true_and, and_true]
        omega
      · simp only [Prod.mk.injEq, true_and, and_true]
        omega

/-- The second loop, from any place of a string on. -/
theorem scanEnd_spec {fuel : Nat} (string : CString m s chars) (enough : chars.length < fuel) :
    scanEnd m fuel s = some (s + chars.length + 1) := by
  induction chars generalizing fuel s with
  | nil =>
    cases fuel with
    | zero => cases enough
    | succ fuel => rw [scanEnd, if_pos string.nil, List.length_nil]
  | cons c chars ih =>
    cases fuel with
    | zero => cases enough
    | succ fuel =>
      obtain ⟨head, some, rest⟩ := CString.cons_iff.mp string
      rw [scanEnd, head, if_neg some, ih rest (Nat.lt_of_succ_lt_succ enough), List.length_cons]
      congr 1
      omega

/-- `_strlcpy` on any string and any room for it, which do not overlap: it stores as many characters
as there is room for and a null character behind them, nothing if there is no room at all, and
returns the length of the whole string. -/
theorem strlcpy_spec (m : Bytes) (dst src siz : Nat) (chars : List UInt8)
    (string : CString m src chars) (apart : dst + siz ≤ src ∨ src + chars.length + 1 ≤ dst)
    (fuel : Nat) (enough : chars.length < fuel) :
    strlcpy fuel m dst src siz =
      some (if siz = 0 then m else put m dst (chars.take (siz - 1) ++ [0]), chars.length) := by
  cases siz with
  | zero =>
    have scanned := scanEnd_spec string enough
    simp [strlcpy, scanned, Nat.add_assoc]
  | succ n =>
    have copied := copyLoop_spec (d := dst) (n := n) string (by omega)
    have loop : (if n ≠ 0 then copyLoop m dst src n else (m, dst, src, n)) =
        copyLoop m dst src n := by
      cases n with
      | zero => rfl
      | succ n => rfl
    simp only [strlcpy, Nat.add_sub_cancel, loop.trans copied, if_pos (Nat.succ_ne_zero n),
      if_neg (Nat.succ_ne_zero n)]
    by_cases fits : chars.length < n
    · have room : n - chars.length ≠ 0 := by omega
      have length : src + chars.length + 1 - src - 1 = chars.length := by omega
      simp only [if_pos fits, if_neg room, length, List.take_of_length_le (Nat.le_of_lt fits)]
    · have length : (chars.take n).length = n := List.length_take_of_le (by omega)
      -- the rest of the string is where it was
      have rest : CString (put (put m dst (chars.take n)) (dst + n) [0]) (src + n)
          (chars.drop n) := by
        apply CString.put
        · apply (string.put _).drop (by omega)
          omega
        · rw [List.length_singleton, List.length_drop]
          omega
      have stored : put (put m dst (chars.take n)) (dst + n) [0] =
          put m dst (chars.take n ++ [0]) := by
        rw [put_append, length]
      have scanned := scanEnd_spec rest (show (chars.drop n).length < fuel by
        rw [List.length_drop]
        omega)
      rw [stored] at scanned
      have total : src + n + (chars.drop n).length + 1 - src - 1 = chars.length := by
        rw [List.length_drop]
        omega
      simp only [if_neg fits, stored, scanned, total, if_true]

end Strings

/-- The name of the loopback device. -/
def loopback : Bytes := put (fun _ => 0) 32 [108, 111]

theorem strlcpy_spec_short :
    strlcpy 3 loopback 0 32 2 = some (put loopback 0 [108, 0], 2) := by
  have string : CString loopback 32 [108, 111] := by
    constructor
    · rfl
    · simp
  exact strlcpy_spec loopback 0 32 2 [108, 111] string (.inl (by decide)) 3 (by decide)

end Kpnet.Net
