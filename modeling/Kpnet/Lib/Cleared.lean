import Kpnet.Lib.Bytes

/-!
# Messages in a cleared buffer

A message grows field by field in a buffer that was cleared, and fields are stored again once more is
known. What lies behind it are null bytes, so that gaps need not be written.
-/

open Bytes

/-- The fields of a message at the start of a buffer of `n` bytes that are clear behind it. -/
structure Cleared (n : Nat) (b : Bytes) (fields : List (List UInt8)) : Prop where
  message : slice b 0 fields.flatten.length = fields.flatten
  clear : ∀ i, fields.flatten.length ≤ i → i < n → b i = 0

namespace Cleared

variable {n : Nat} {b : Bytes} {fields : List (List UInt8)} {field field' : List UInt8}

/-- How the message is cut into fields does not matter. -/
theorem congr {fields' : List (List UInt8)} (cleared : Cleared n b fields)
    (same : fields.flatten = fields'.flatten) : Cleared n b fields' :=
  ⟨same ▸ cleared.message, same ▸ cleared.clear⟩

/-- One more field at the end. -/
theorem write (cleared : Cleared n b fields) (o : Nat) (place : fields.flatten.length = o)
    (more : List UInt8) : Cleared n (put b o more) (fields ++ [more]) := by
  subst place
  have longer : (fields ++ [more]).flatten = fields.flatten ++ more := by simp
  constructor
  · rw [longer, List.length_append, slice_add, Nat.zero_add, slice_put_self,
      slice_put_of_disjoint _ _ _ _ _ (by omega), cleared.message]
  · intro i behind inside
    rw [longer, List.length_append] at behind
    rw [put_after _ _ _ _ behind]
    exact cleared.clear i (by omega) inside

/-- A gap of null bytes. -/
theorem skip (cleared : Cleared n b fields) (k : Nat) (fits : fields.flatten.length + k ≤ n) :
    Cleared n b (fields ++ [List.replicate k 0]) := by
  have longer : (fields ++ [List.replicate k 0]).flatten =
      fields.flatten ++ List.replicate k 0 := by simp
  constructor
  · rw [longer, List.length_append, List.length_replicate, slice_add, Nat.zero_add,
      cleared.message]
    congr 1
    apply List.eq_replicate_iff.mpr
    refine ⟨by simp, fun x member => ?_⟩
    obtain ⟨i, low, rfl⟩ := List.mem_map.mp member
    rw [List.mem_range] at low
    exact cleared.clear _ (by omega) (by omega)
  · intro i behind inside
    rw [longer, List.length_append] at behind
    exact cleared.clear i (by omega) inside

/-- The fields in front of one, the field itself, and those behind it. -/
theorem flatten_split (fields : List (List UInt8)) {i : Nat} (found : fields[i]? = some field) :
    fields.flatten = (fields.take i).flatten ++ (field ++ (fields.drop (i + 1)).flatten) := by
  obtain ⟨inside, rfl⟩ := List.getElem?_eq_some_iff.mp found
  rw [← List.flatten_cons, ← List.flatten_append, ← List.drop_eq_getElem_cons inside,
    List.take_append_drop]

/-- A field is stored again. -/
theorem patch (cleared : Cleared n b fields) (i o : Nat) (found : fields[i]? = some field)
    (place : (fields.take i).flatten.length = o) (same : field'.length = field.length) :
    Cleared n (put b o field') (fields.set i field') := by
  subst place
  have inside := (List.getElem?_eq_some_iff.mp found).1
  have before := flatten_split fields found
  have after := flatten_split (fields.set i field') (i := i) (List.getElem?_set_self inside)
  rw [List.take_set_of_le (Nat.le_refl i), List.drop_set_of_lt (Nat.lt_succ_self i)] at after
  have total : (fields.set i field').flatten.length = fields.flatten.length := by
    rw [before, after]
    simp only [List.length_append, same]
  constructor
  · have message := cleared.message
    rw [before] at message
    have stored := slice_put_middle message same
    rwa [Nat.zero_add, ← after] at stored
  · intro j behind low
    rw [total] at behind
    have far : (fields.take i).flatten.length + field'.length ≤ j := by
      rw [before] at behind
      simp only [List.length_append] at behind
      omega
    rw [put_after _ _ _ _ far]
    exact cleared.clear j behind low

/-- A field is read as it was stored. -/
theorem slice_eq (cleared : Cleared n b fields) (i o : Nat) (found : fields[i]? = some field)
    (place : (fields.take i).flatten.length = o) : slice b o field.length = field := by
  subst place
  have message := cleared.message
  rw [flatten_split fields found, List.length_append, slice_add, Nat.zero_add, List.length_append,
    slice_add] at message
  obtain ⟨-, rest⟩ := List.append_inj message (by simp)
  exact (List.append_inj rest (by simp)).1

theorem u16_eq {v : UInt16} (cleared : Cleared n b fields) (i o : Nat)
    (found : fields[i]? = some (le16 v)) (place : (fields.take i).flatten.length = o) :
    u16 b o = v := by
  have field := cleared.slice_eq i o found place
  rw [length_le16] at field
  rw [u16, field, ofNat_word_le16]

theorem u32_eq {v : UInt32} (cleared : Cleared n b fields) (i o : Nat)
    (found : fields[i]? = some (le32 v)) (place : (fields.take i).flatten.length = o) :
    u32 b o = v := by
  have field := cleared.slice_eq i o found place
  rw [length_le32] at field
  rw [u32, field, ofNat_word_le32]

end Cleared
