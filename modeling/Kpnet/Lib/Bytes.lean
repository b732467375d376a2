import Mathlib.Tactic

/-!
# Bytes behind a pointer

The memory a C program sees through a pointer, as a function of the offset: little-endian
loads of 16, 32 and 64 bits, stores of byte strings, copies, pointer arithmetic, and what
a load finds after a store.
-/

/-- The bytes from a pointer on. -/
abbrev Bytes : Type := Nat → UInt8

namespace Bytes

/-- The little-endian value of a byte string. -/
def word : List UInt8 → Nat
  | [] => 0
  | b :: l => b.toNat + 256 * word l

/-- The `n` low bytes of a value, least significant first. -/
def bytesOf : Nat → Nat → List UInt8
  | 0, _ => []
  | n + 1, v => UInt8.ofNat v :: bytesOf n (v / 256)

def le16 (v : UInt16) : List UInt8 := bytesOf 2 v.toNat

def le32 (v : UInt32) : List UInt8 := bytesOf 4 v.toNat

def le64 (v : UInt64) : List UInt8 := bytesOf 8 v.toNat

/-- `p + o`. -/
def shift (b : Bytes) (o : Nat) : Bytes := fun i => b (o + i)

/-- The `n` bytes at offset `o`. -/
def slice (b : Bytes) (o n : Nat) : List UInt8 := (List.range n).map fun i => b (o + i)

/-- `memcpy (p + o, l, length l)`. -/
def put (b : Bytes) (o : Nat) (l : List UInt8) : Bytes := fun i =>
  if o ≤ i then l[i - o]?.getD (b i) else b i

def u16 (b : Bytes) (o : Nat) : UInt16 := UInt16.ofNat (word (slice b o 2))

def u32 (b : Bytes) (o : Nat) : UInt32 := UInt32.ofNat (word (slice b o 4))

def u64 (b : Bytes) (o : Nat) : UInt64 := UInt64.ofNat (word (slice b o 8))

theorem word_bytesOf (n v : Nat) : word (bytesOf n v) = v % 256 ^ n := by
  induction n generalizing v with
  | zero => simp [bytesOf, word, Nat.mod_one]
  | succ n ih =>
    -- the low byte, and the rest as the value divided by the base
    have split : v % 256 ^ (n + 1) = v % 256 + 256 * (v / 256 % 256 ^ n) := by
      rw [Nat.pow_succ', Nat.mod_mul]
    simp only [bytesOf, word, ih, split]
    rfl

theorem word_lt (l : List UInt8) : word l < 256 ^ l.length := by
  induction l with
  | nil => simp [word]
  | cons b l ih =>
    have small : b.toNat < 256 := b.toNat_lt
    rw [word, List.length_cons, Nat.pow_succ']
    omega

@[simp] theorem length_bytesOf (n v : Nat) : (bytesOf n v).length = n := by
  induction n generalizing v with
  | zero => rfl
  | succ n ih => simp [bytesOf, ih]

@[simp] theorem length_le16 (v : UInt16) : (le16 v).length = 2 := length_bytesOf 2 v.toNat

@[simp] theorem length_le32 (v : UInt32) : (le32 v).length = 4 := length_bytesOf 4 v.toNat

@[simp] theorem length_le64 (v : UInt64) : (le64 v).length = 8 := length_bytesOf 8 v.toNat

@[simp] theorem length_slice (b : Bytes) (o n : Nat) : (slice b o n).length = n := by
  simp [slice]

theorem ofNat_word_le16 (v : UInt16) : UInt16.ofNat (word (le16 v)) = v := by
  have small : v.toNat < 256 ^ 2 := v.toNat_lt
  rw [le16, word_bytesOf, Nat.mod_eq_of_lt small, UInt16.ofNat_toNat]

theorem ofNat_word_le32 (v : UInt32) : UInt32.ofNat (word (le32 v)) = v := by
  have small : v.toNat < 256 ^ 4 := v.toNat_lt
  rw [le32, word_bytesOf, Nat.mod_eq_of_lt small, UInt32.ofNat_toNat]

theorem bytesOf_add (m n v : Nat) : bytesOf (m + n) v = bytesOf m v ++ bytesOf n (v / 256 ^ m) := by
  induction m generalizing v with
  | zero => simp [bytesOf]
  | succ m ih =>
    rw [Nat.succ_add, bytesOf, ih, bytesOf, List.cons_append, Nat.div_div_eq_div_mul, Nat.pow_succ']

theorem ofNat_word_le64 (v : UInt64) : UInt64.ofNat (word (le64 v)) = v := by
  have small : v.toNat < 256 ^ 8 := v.toNat_lt
  rw [le64, word_bytesOf, Nat.mod_eq_of_lt small, UInt64.ofNat_toNat]

/-- A byte string is the encoding of its value. -/
theorem bytesOf_word (l : List UInt8) : bytesOf l.length (word l) = l := by
  induction l with
  | nil => rfl
  | cons b l ih =>
    have small : b.toNat < 256 := b.toNat_lt
    have low : (b.toNat + 256 * word l) % 256 = b.toNat := by omega
    have high : (b.toNat + 256 * word l) / 256 = word l := by omega
    rw [List.length_cons, bytesOf, word, high, ih]
    -- what is left is the low byte
    congr 1
    apply UInt8.toNat_inj.mp
    rw [UInt8.toNat_ofNat', low]

theorem le16_ofNat (n : Nat) : le16 (UInt16.ofNat n) = bytesOf 2 n := by
  have low := bytesOf_word (bytesOf 2 n)
  rw [length_bytesOf, word_bytesOf] at low
  rw [le16, UInt16.toNat_ofNat']
  exact low

/-- A double word is two words, the low one first. -/
theorem le32_eq (v : UInt32) :
    le32 v = le16 (UInt16.ofNat v.toNat) ++ le16 (UInt16.ofNat (v.toNat / 65536)) := by
  rw [le16_ofNat, le16_ofNat]
  exact bytesOf_add 2 2 v.toNat

/-- A slice is read byte by byte. -/
theorem slice_congr {b b' : Bytes} {o o' n : Nat} (same : ∀ i < n, b (o + i) = b' (o' + i)) :
    slice b o n = slice b' o' n :=
  List.map_congr_left fun i member => same i (List.mem_range.mp member)

theorem eq_of_slice_eq {b b' : Bytes} {o o' n : Nat} (same : slice b o n = slice b' o' n) (i : Nat)
    (low : i < n) : b (o + i) = b' (o' + i) :=
  List.map_inj_left.mp same i (List.mem_range.mpr low)

theorem u16_congr {b b' : Bytes} {o o' : Nat} (same : ∀ i < 2, b (o + i) = b' (o' + i)) :
    u16 b o = u16 b' o' := by
  rw [u16, slice_congr same, u16]

theorem u32_congr {b b' : Bytes} {o o' : Nat} (same : ∀ i < 4, b (o + i) = b' (o' + i)) :
    u32 b o = u32 b' o' := by
  rw [u32, slice_congr same, u32]

@[simp] theorem shift_shift (b : Bytes) (o p : Nat) : shift (shift b o) p = shift b (o + p) := by
  funext i
  simp [shift, Nat.add_assoc]

@[simp] theorem shift_zero (b : Bytes) : shift b 0 = b := by
  funext i
  rw [shift, Nat.zero_add]

@[simp] theorem u16_shift (b : Bytes) (o p : Nat) : u16 (shift b o) p = u16 b (o + p) :=
  u16_congr fun i _ => by rw [shift, Nat.add_assoc]

@[simp] theorem u32_shift (b : Bytes) (o p : Nat) : u32 (shift b o) p = u32 b (o + p) :=
  u32_congr fun i _ => by rw [shift, Nat.add_assoc]

@[simp] theorem u64_shift (b : Bytes) (o p : Nat) : u64 (shift b o) p = u64 b (o + p) := by
  have same : slice (shift b o) p 8 = slice b (o + p) 8 :=
    slice_congr fun i _ => by rw [shift, Nat.add_assoc]
  rw [u64, same, u64]

@[simp] theorem slice_shift (b : Bytes) (o p n : Nat) :
    slice (shift b o) p n = slice b (o + p) n :=
  slice_congr fun i _ => by rw [shift, Nat.add_assoc]

theorem put_nil (b : Bytes) (o : Nat) : put b o [] = b := by
  funext i
  simp [put]

/-- Inside a store its bytes are found, outside of it the old ones. -/
theorem put_inside (b : Bytes) (o i : Nat) (l : List UInt8) (inside : i < l.length) :
    put b o l (o + i) = l.get ⟨i, inside⟩ := by
  simp [put, inside]

theorem put_before (b : Bytes) (o i : Nat) (l : List UInt8) (before : i < o) :
    put b o l i = b i := by
  rw [put, if_neg (by omega)]

theorem put_after (b : Bytes) (o i : Nat) (l : List UInt8) (after : o + l.length ≤ i) :
    put b o l i = b i := by
  rw [put]
  split
  · rw [List.getElem?_eq_none (by omega), Option.getD_none]
  · rfl

/-- A slice inside of a store is the part of the stored string. -/
theorem slice_put (b : Bytes) (o k n : Nat) (l : List UInt8) (inside : k + n ≤ l.length) :
    slice (put b o l) (o + k) n = (l.drop k).take n := by
  apply List.ext_getElem
  · simp only [length_slice, List.length_take, List.length_drop]
    omega
  · intro i low high
    rw [length_slice] at low
    -- the `i`-th byte of the slice is byte `k + i` of the stored string
    simp only [slice, List.getElem_map, List.getElem_range, Nat.add_assoc]
    rw [put_inside b o (k + i) l (by omega)]
    simp

/-- A slice away from a store is untouched. -/
theorem slice_put_of_disjoint (b : Bytes) (o p n : Nat) (l : List UInt8)
    (apart : p + n ≤ o ∨ o + l.length ≤ p) : slice (put b o l) p n = slice b p n := by
  refine slice_congr fun i low => ?_
  rcases apart with before | after
  · exact put_before b o (p + i) l (by omega)
  · exact put_after b o (p + i) l (by omega)

theorem u16_put_of_disjoint (b : Bytes) (o p : Nat) (l : List UInt8)
    (apart : p + 2 ≤ o ∨ o + l.length ≤ p) : u16 (put b o l) p = u16 b p := by
  rw [u16, slice_put_of_disjoint b o p 2 l apart, u16]

theorem u32_put_of_disjoint (b : Bytes) (o p : Nat) (l : List UInt8)
    (apart : p + 4 ≤ o ∨ o + l.length ≤ p) : u32 (put b o l) p = u32 b p := by
  rw [u32, slice_put_of_disjoint b o p 4 l apart, u32]

/-- A store is found where it was made. -/
theorem slice_put_self (b : Bytes) (o : Nat) (l : List UInt8) :
    slice (put b o l) o l.length = l := by
  have found := slice_put b o 0 l.length l (by omega)
  rwa [Nat.add_zero, List.drop_zero, List.take_length] at found

theorem slice_put_append (b : Bytes) (o : Nat) (l l' : List UInt8) :
    slice (put b o (l ++ l')) o l.length = l := by
  have found := slice_put b o 0 l.length (l ++ l') (by rw [List.length_append]; omega)
  rwa [Nat.add_zero, List.drop_zero, List.take_left' rfl] at found

theorem u16_put_self (b : Bytes) (o : Nat) (v : UInt16) : u16 (put b o (le16 v)) o = v := by
  have found := slice_put_self b o (le16 v)
  rw [length_le16] at found
  rw [u16, found, ofNat_word_le16]

theorem u32_put_self (b : Bytes) (o : Nat) (v : UInt32) : u32 (put b o (le32 v)) o = v := by
  have found := slice_put_self b o (le32 v)
  rw [length_le32] at found
  rw [u32, found, ofNat_word_le32]

/-- Of two stores to one place the second is found. -/
theorem put_put (b : Bytes) (o : Nat) {l l' : List UInt8} (length : l.length = l'.length) :
    put (put b o l) o l' = put b o l' := by
  funext i
  by_cases before : i < o
  · rw [put_before _ _ _ _ before, put_before _ _ _ _ before, put_before _ _ _ _ before]
  · by_cases after : o + l'.length ≤ i
    · rw [put_after _ _ _ _ after, put_after _ _ _ _ (by omega), put_after _ _ _ _ after]
    · obtain ⟨k, rfl⟩ : ∃ k, i = o + k := ⟨i - o, by omega⟩
      rw [put_inside _ _ _ _ (by omega), put_inside _ _ _ _ (by omega)]

/-- Two stores that do not touch each other, in either order. -/
theorem put_comm (b : Bytes) {o p : Nat} {l l' : List UInt8}
    (apart : o + l.length ≤ p ∨ p + l'.length ≤ o) :
    put (put b o l) p l' = put (put b p l') o l := by
  funext i
  by_cases first : o ≤ i ∧ i < o + l.length
  · obtain ⟨k, rfl⟩ : ∃ k, i = o + k := ⟨i - o, by omega⟩
    have outside : put (put b o l) p l' (o + k) = put b o l (o + k) := by
      rcases apart with before | after
      · exact put_before _ _ _ _ (by omega)
      · exact put_after _ _ _ _ (by omega)
    rw [outside, put_inside _ _ _ _ (by omega), put_inside _ _ _ _ (by omega)]
  · have outside (b' : Bytes) : put b' o l i = b' i := by
      by_cases before : i < o
      · exact put_before _ _ _ _ before
      · exact put_after _ _ _ _ (by omega)
    rw [outside]
    exact congrArg (fun v => if p ≤ i then l'[i - p]?.getD v else v) (outside b)

/-- What is done to the memory behind a pointer. -/
def modify (b : Bytes) (o : Nat) (f : Bytes → Bytes) : Bytes := fun i =>
  if o ≤ i then f (shift b o) (i - o) else b i

@[simp] theorem shift_modify (b : Bytes) (o : Nat) (f : Bytes → Bytes) :
    shift (modify b o f) o = f (shift b o) := by
  funext i
  rw [shift, modify, if_pos (Nat.le_add_right o i), Nat.add_sub_cancel_left]

theorem modify_zero (b : Bytes) (f : Bytes → Bytes) : modify b 0 f = f b := by
  have seen := shift_modify b 0 f
  rwa [shift_zero, shift_zero] at seen

theorem modify_congr {b : Bytes} {o : Nat} {f g : Bytes → Bytes}
    (same : f (shift b o) = g (shift b o)) : modify b o f = modify b o g := by
  funext i
  rw [modify, modify, same]

/-- It changes nothing there exactly if it does so behind the pointer. -/
theorem modify_eq_self_iff (b : Bytes) (o : Nat) (f : Bytes → Bytes) :
    modify b o f = b ↔ f (shift b o) = shift b o := by
  constructor
  · intro same
    have seen := congrArg (shift · o) same
    simpa only [shift_modify] using seen
  · intro same
    funext i
    rw [modify, same, shift]
    split
    next behind => rw [Nat.add_sub_cancel' behind]
    next before => rfl

/-- A string is stored part by part. -/
theorem put_append (b : Bytes) (o : Nat) (l l' : List UInt8) :
    put b o (l ++ l') = put (put b o l) (o + l.length) l' := by
  funext i
  by_cases behind : o + l.length ≤ i
  · have inside : o ≤ i := by omega
    rw [put, if_pos inside, List.getElem?_append_right (by omega), put, if_pos behind,
      put_after b o i l behind, Nat.sub_sub]
  · rw [put_before (put b o l) _ _ _ (by omega), put, put]
    split
    · rw [List.getElem?_append_left (by omega)]
    · rfl

theorem shift_put (b : Bytes) (o k : Nat) (l : List UInt8) :
    shift (put b (o + k) l) o = put (shift b o) k l := by
  funext i
  simp only [shift, put, Nat.add_le_add_iff_left, Nat.add_sub_add_left]

/-- What was stored over is put back. -/
theorem put_put_slice (b : Bytes) (o : Nat) (l : List UInt8) :
    put (put b o l) o (slice b o l.length) = b := by
  funext i
  by_cases before : i < o
  · rw [put_before _ _ _ _ before, put_before _ _ _ _ before]
  · by_cases after : o + l.length ≤ i
    · rw [put_after _ _ _ _ (by rw [length_slice]; exact after), put_after _ _ _ _ after]
    · obtain ⟨k, rfl⟩ : ∃ k, i = o + k := ⟨i - o, by omega⟩
      rw [put_inside _ _ _ _ (by rw [length_slice]; omega)]
      simp [slice]

theorem toNat_u16 (b : Bytes) (o : Nat) : (u16 b o).toNat = word (slice b o 2) := by
  have bound := word_lt (slice b o 2)
  rw [length_slice] at bound
  rw [u16, UInt16.toNat_ofNat_of_lt' bound]

theorem le16_u16 (b : Bytes) (o : Nat) : le16 (u16 b o) = slice b o 2 := by
  have bound := word_lt (slice b o 2)
  have same := bytesOf_word (slice b o 2)
  rw [length_slice] at bound same
  rw [le16, u16, UInt16.toNat_ofNat_of_lt' bound, same]

theorem le32_u32 (b : Bytes) (o : Nat) : le32 (u32 b o) = slice b o 4 := by
  have bound := word_lt (slice b o 4)
  have same := bytesOf_word (slice b o 4)
  rw [length_slice] at bound same
  rw [le32, u32, UInt32.toNat_ofNat_of_lt' bound, same]

/-- A field that is stored as it was loaded is unchanged. -/
theorem put_le16_u16 (b : Bytes) (o : Nat) : put b o (le16 (u16 b o)) = b := by
  have back := put_put_slice b o (le16 0)
  rw [put_put _ _ (by simp), length_le16, ← le16_u16] at back
  exact back

theorem put_le32_u32 (b : Bytes) (o : Nat) : put b o (le32 (u32 b o)) = b := by
  have back := put_put_slice b o (le32 0)
  rw [put_put _ _ (by simp), length_le32, ← le32_u32] at back
  exact back

/-- A store changes nothing if the value was there. -/
theorem put_le16_eq_iff (b : Bytes) (o : Nat) (v : UInt16) : put b o (le16 v) = b ↔ u16 b o = v := by
  constructor
  · intro same
    rw [← same, u16_put_self]
  · intro stored
    rw [← stored, put_le16_u16]

theorem put_le32_eq_iff (b : Bytes) (o : Nat) (v : UInt32) : put b o (le32 v) = b ↔ u32 b o = v := by
  constructor
  · intro same
    rw [← same, u32_put_self]
  · intro stored
    rw [← stored, put_le32_u32]

/-- A stored address is loaded again, and no store next to it changes that. -/
theorem u64_put_self (b : Bytes) (o : Nat) (v : UInt64) : u64 (put b o (le64 v)) o = v := by
  have found := slice_put_self b o (le64 v)
  rw [length_le64] at found
  rw [u64, found, ofNat_word_le64]

theorem u64_put_of_disjoint (b : Bytes) (o p : Nat) (l : List UInt8)
    (apart : p + 8 ≤ o ∨ o + l.length ≤ p) : u64 (put b o l) p = u64 b p := by
  rw [u64, slice_put_of_disjoint b o p 8 l apart, u64]

/-- Of a slice, any part is the slice there. -/
theorem take_drop_slice (b : Bytes) (o n k m : Nat) (inside : k + m ≤ n) :
    ((slice b o n).drop k).take m = slice b (o + k) m := by
  apply List.ext_getElem
  · simp only [length_slice, List.length_take, List.length_drop]
    omega
  · intro i low high
    simp [slice, Nat.add_assoc]

theorem drop_slice (b : Bytes) (o n k : Nat) : (slice b o n).drop k = slice b (o + k) (n - k) := by
  apply List.ext_getElem
  · simp only [length_slice, List.length_drop]
  · intro i low high
    simp [slice, Nat.add_assoc]

/-- A slice is cut anywhere. -/
theorem slice_add (b : Bytes) (o n m : Nat) :
    slice b o (n + m) = slice b o n ++ slice b (o + n) m := by
  simp [slice, List.range_add, Function.comp_def, Nat.add_assoc]

/-- Pieces of one width, the last of them cut off at `n`, make up the first `n` bytes. -/
theorem flatMap_slices (b : Bytes) (width n k : Nat) :
    (List.range k).flatMap (fun i => slice b (width * i) (min width (n - width * i))) =
      slice b 0 (min (width * k) n) := by
  induction k with
  | zero => simp [slice]
  | succ k ih =>
    rw [List.range_succ, List.flatMap_append, ih, List.flatMap_singleton, Nat.mul_add, Nat.mul_one]
    by_cases inside : width * k ≤ n
    · have total : min (width * k + width) n = width * k + min width (n - width * k) := by omega
      rw [total, slice_add, min_eq_left inside, Nat.zero_add]
    · have none : min width (n - width * k) = 0 := by omega
      have total : min (width * k + width) n = min (width * k) n := by omega
      rw [none, total]
      exact List.append_nil _

/-- A part of a known slice. -/
theorem slice_of_slice {b : Bytes} {o n : Nat} {l : List UInt8} (found : slice b o n = l)
    (k m : Nat) (part : List UInt8) (inside : k + m ≤ n) (field : (l.drop k).take m = part) :
    slice b (o + k) m = part := by
  rw [← take_drop_slice b o n k m inside, found, field]

/-- The byte a known slice starts with. -/
theorem head_of_slice {b : Bytes} {o n : Nat} {x : UInt8} {l : List UInt8}
    (found : slice b o n = x :: l) : b o = x := by
  cases n with
  | zero => cases found
  | succ n =>
    have head := congrArg List.head? found
    simpa [slice, List.range_succ_eq_map] using head

/-- A load inside of a known slice finds the field encoded there. -/
theorem u16_of_slice {b : Bytes} {o n : Nat} {l : List UInt8} (found : slice b o n = l) (k : Nat)
    (v : UInt16) (inside : k + 2 ≤ n) (field : (l.drop k).take 2 = le16 v) :
    u16 b (o + k) = v := by
  rw [u16, slice_of_slice found k 2 _ inside field, ofNat_word_le16]

theorem u32_of_slice {b : Bytes} {o n : Nat} {l : List UInt8} (found : slice b o n = l) (k : Nat)
    (v : UInt32) (inside : k + 4 ≤ n) (field : (l.drop k).take 4 = le32 v) :
    u32 b (o + k) = v := by
  rw [u32, slice_of_slice found k 4 _ inside field, ofNat_word_le32]

/-- A string stored right in front of a known slice makes a longer one. -/
theorem slice_put_front {b : Bytes} {o p : Nat} {l k : List UInt8} (found : slice b o l.length = l)
    (front : p + k.length = o) : slice (put b p k) p (k ++ l).length = k ++ l := by
  rw [List.length_append, slice_add, slice_put_self, front,
    slice_put_of_disjoint _ _ _ _ _ (by omega), found]

/-- A field in the middle of a known slice is stored anew. -/
theorem slice_put_middle {b : Bytes} {o : Nat} {l field field' rest : List UInt8}
    (found : slice b o (l ++ (field ++ rest)).length = l ++ (field ++ rest))
    (length : field'.length = field.length) :
    slice (put b (o + l.length) field') o (l ++ (field' ++ rest)).length = l ++ (field' ++ rest) := by
  rw [List.length_append, slice_add, List.length_append, slice_add] at found
  obtain ⟨before, behind⟩ := List.append_inj found (by rw [length_slice])
  obtain ⟨-, after⟩ := List.append_inj behind (by rw [length_slice])
  rw [List.length_append, slice_add, List.length_append, slice_add, slice_put_self, length,
    slice_put_of_disjoint _ _ _ _ _ (by omega), slice_put_of_disjoint _ _ _ _ _ (by omega), before,
    after]

/-- A known slice in two parts. -/
theorem slice_eq_append {b : Bytes} {o n m : Nat} {l l' : List UInt8}
    (found : slice b o (m + n) = l ++ l') (length : l.length = n) :
    slice b o n = l ∧ slice b (o + n) m = l' := by
  rw [Nat.add_comm, slice_add] at found
  exact List.append_inj found (by rw [length_slice, length])

/-- The field that a known slice starts with, and what comes behind it. -/
theorem u16_of_slice_append {b : Bytes} {o n : Nat} {v : UInt16} {l : List UInt8}
    (found : slice b o (n + 2) = le16 v ++ l) : u16 b o = v ∧ slice b (o + 2) n = l := by
  obtain ⟨field, rest⟩ := slice_eq_append found (length_le16 v)
  exact ⟨by rw [u16, field, ofNat_word_le16], rest⟩

theorem u32_of_slice_append {b : Bytes} {o n : Nat} {v : UInt32} {l : List UInt8}
    (found : slice b o (n + 4) = le32 v ++ l) : u32 b o = v ∧ slice b (o + 4) n = l := by
  obtain ⟨field, rest⟩ := slice_eq_append found (length_le32 v)
  exact ⟨by rw [u32, field, ofNat_word_le32], rest⟩

end Bytes
