import Kpnet.Lib.Bytes

/-!
# Attributes

A row of attributes, each with its length and type in front and filled up to a multiple of four bytes:
how it is written, how it is parsed, and that the parser finds what was written and the rest behind it.
-/
namespace Attributes

open Bytes

/-- The next multiple of four. -/
def align (n : Nat) : Nat := (n + 3) / 4 * 4

structure Attribute where
  type : UInt16
  payload : List UInt8
  deriving DecidableEq, Repr

/-- The length of an attribute without its filling. -/
def Attribute.length (a : Attribute) : Nat := 4 + a.payload.length

def zeros (n : Nat) : List UInt8 := List.replicate n 0

def Attribute.encode (a : Attribute) : List UInt8 :=
  le16 (UInt16.ofNat a.length) ++ (le16 a.type ++
    (a.payload ++ zeros (align a.length - a.length)))

def encodeAll (as : List Attribute) : List UInt8 := as.flatMap Attribute.encode

/-- The attributes of a text, if it holds nothing else. The last one may lack its filling. -/
def parse (l : List UInt8) : Option (List Attribute) :=
  if l = [] then some []
  else if l.length < 4 then none
  else
    let length := word (l.take 2)
    if length < 4 ∨ l.length < length then none
    else (parse (l.drop (align length))).map
      (⟨UInt16.ofNat (word ((l.drop 2).take 2)), (l.drop 4).take (length - 4)⟩ :: ·)
termination_by l.length
decreasing_by
  simp only [List.length_drop, align]
  omega

/-- The attributes up to the first that does not fit. -/
def scan (l : List UInt8) : List Attribute :=
  if l.length < 4 then []
  else
    let length := word (l.take 2)
    if length < 4 ∨ l.length < length then []
    else ⟨UInt16.ofNat (word ((l.drop 2).take 2)), (l.drop 4).take (length - 4)⟩ ::
      scan (l.drop (align length))
termination_by l.length
decreasing_by
  simp only [List.length_drop, align]
  omega

theorem le_align (n : Nat) : n ≤ align n ∧ align n < n + 4 ∧ align n % 4 = 0 := by
  unfold align
  omega

theorem align_eq {n : Nat} (whole : n % 4 = 0) : align n = n := by
  unfold align
  omega

@[simp] theorem length_zeros (n : Nat) : (zeros n).length = n := List.length_replicate

@[simp] theorem Attribute.length_encode (a : Attribute) : a.encode.length = align a.length := by
  have above := (le_align a.length).1
  have total : a.length = 4 + a.payload.length := rfl
  simp only [encode, List.length_append, length_le16, length_zeros]
  omega

/-- An attribute that needs no filling. -/
theorem Attribute.encode_whole {a : Attribute} (whole : a.length % 4 = 0) :
    a.encode = le16 (UInt16.ofNat a.length) ++ (le16 a.type ++ a.payload) := by
  rw [encode, align_eq whole, Nat.sub_self]
  exact congrArg _ (congrArg _ (List.append_nil _))

theorem length_encodeAll_cons (a : Attribute) (as : List Attribute) :
    (encodeAll (a :: as)).length = align a.length + (encodeAll as).length := by
  rw [encodeAll, List.flatMap_cons, List.length_append, a.length_encode, encodeAll]

theorem parse_eq_some_nil_iff (l : List UInt8) : parse l = some [] ↔ l = [] := by
  constructor
  · intro parsed
    rw [parse] at parsed
    split at parsed
    next empty => exact empty
    · split at parsed
      · cases parsed
      · dsimp only at parsed
        split at parsed
        · cases parsed
        · obtain ⟨rest, -, cons⟩ := Option.map_eq_some_iff.mp parsed
          cases cons
  · rintro rfl
    rw [parse]
    rfl

/-- An attribute is parsed as it was written, and then what comes behind it. -/
theorem parse_encode_append (a : Attribute) (small : a.length < 65536) (rest : List UInt8) :
    parse (a.encode ++ rest) = (parse rest).map (a :: ·) := by
  have above := (le_align a.length).1
  have total : a.length = 4 + a.payload.length := rfl
  have whole : (a.encode ++ rest).length = align a.length + rest.length := by
    rw [List.length_append, a.length_encode]
  have some : a.encode ++ rest ≠ [] := by
    intro empty
    rw [empty, List.length_nil] at whole
    omega
  have length : word ((a.encode ++ rest).take 2) = a.length := by
    rw [Attribute.encode, List.append_assoc, List.take_left' (length_le16 _), le16_ofNat,
      word_bytesOf]
    omega
  have type : UInt16.ofNat (word (((a.encode ++ rest).drop 2).take 2)) = a.type := by
    rw [Attribute.encode, List.append_assoc, List.drop_left' (length_le16 _), List.append_assoc,
      List.take_left' (length_le16 _), ofNat_word_le16]
  have payload : ((a.encode ++ rest).drop 4).take (a.length - 4) = a.payload := by
    have header : (le16 (UInt16.ofNat a.length) ++ le16 a.type).length = 4 := by simp
    rw [Attribute.encode, ← List.append_assoc, List.append_assoc, List.drop_left' header,
      List.append_assoc, List.take_left' (by omega)]
  rw [parse, if_neg some, if_neg (by omega)]
  simp only [length, type, payload]
  rw [if_neg (by omega), List.drop_left' a.length_encode]

theorem parse_encodeAll_append (as : List Attribute) (small : ∀ a ∈ as, a.length < 65536)
    (rest : List UInt8) : parse (encodeAll as ++ rest) = (parse rest).map (as ++ ·) := by
  induction as with
  | nil => simp [encodeAll]
  | cons a as ih =>
    have later := ih fun b member => small b (List.mem_cons_of_mem a member)
    rw [encodeAll, List.flatMap_cons, List.append_assoc, ← encodeAll,
      parse_encode_append a (small a List.mem_cons_self), later, Option.map_map]
    rfl

theorem parse_encodeAll (as : List Attribute) (small : ∀ a ∈ as, a.length < 65536) :
    parse (encodeAll as) = some as := by
  have none := (parse_eq_some_nil_iff []).mpr rfl
  have alone := parse_encodeAll_append as small []
  rw [List.append_nil, none] at alone
  rw [alone, Option.map_some, List.append_nil]

/-- The last attribute without its filling. -/
theorem parse_unfilled (a : Attribute) (small : a.length < 65536) :
    parse (le16 (UInt16.ofNat a.length) ++ (le16 a.type ++ a.payload)) = some [a] := by
  have above := (le_align a.length).1
  have total : a.length = 4 + a.payload.length := rfl
  have none := (parse_eq_some_nil_iff []).mpr rfl
  have header : (le16 (UInt16.ofNat a.length) ++ le16 a.type).length = 4 := by simp
  rw [← List.append_assoc]
  have whole : (le16 (UInt16.ofNat a.length) ++ le16 a.type ++ a.payload).length = a.length := by
    rw [List.length_append, header, total]
  have some : le16 (UInt16.ofNat a.length) ++ le16 a.type ++ a.payload ≠ [] := by
    intro empty
    rw [empty, List.length_nil] at whole
    omega
  have length : word ((le16 (UInt16.ofNat a.length) ++ le16 a.type ++ a.payload).take 2) =
      a.length := by
    rw [List.append_assoc, List.take_left' (length_le16 _), le16_ofNat, word_bytesOf]
    omega
  have type : UInt16.ofNat (word (((le16 (UInt16.ofNat a.length) ++ le16 a.type ++
      a.payload).drop 2).take 2)) = a.type := by
    rw [List.append_assoc, List.drop_left' (length_le16 _), List.take_left' (length_le16 _),
      ofNat_word_le16]
  have payload : ((le16 (UInt16.ofNat a.length) ++ le16 a.type ++ a.payload).drop 4).take
      (a.length - 4) = a.payload := by
    rw [List.drop_left' header, List.take_of_length_le (by omega)]
  have behind : (le16 (UInt16.ofNat a.length) ++ le16 a.type ++ a.payload).drop
      (align a.length) = [] := List.drop_of_length_le (by omega)
  rw [parse, if_neg some, if_neg (by omega)]
  simp only [length, type, payload, behind, none]
  rw [if_neg (by omega)]
  rfl

end Attributes
