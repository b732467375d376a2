import Mathlib.Tactic

/-!
# Tokens in places

Indivisible tokens, each in exactly one of a set of places. A step of a system that
only hands one token on from a place to another keeps the placement. Where the places are
the rows of a table, all of it is a list, and taking tokens out of one row only permutes it.
-/
namespace Tokens

variable {β π : Type}

/-- Every token is in exactly one place, and nothing else is in any. -/
structure Placed (tokens : Set β) (loc : β → π → Prop) : Prop where
  sound : ∀ b x, loc b x → b ∈ tokens
  total : ∀ b ∈ tokens, ∃ x, loc b x
  unique : ∀ b x y, loc b x → loc b y → x = y

namespace Placed

variable {tokens : Set β} {loc loc' : β → π → Prop}

theorem congr (placed : Placed tokens loc) (same : ∀ b x, loc' b x ↔ loc b x) :
    Placed tokens loc' := by
  refine ⟨?_, ?_, ?_⟩
  · simpa only [same] using placed.sound
  · simpa only [same] using placed.total
  · simpa only [same] using placed.unique

/-- There are no more places with a token in them than there are names for tokens. -/
theorem card_le (placed : Placed tokens loc) {n : Nat} {name : Nat → β}
    (named : ∀ b ∈ tokens, ∃ i < n, name i = b) {ι : Type} (places : Finset ι) (place : ι → π)
    (apart : ∀ x ∈ places, ∀ y ∈ places, place x = place y → x = y)
    (occupied : ∀ x ∈ places, ∃ b, loc b (place x)) : places.card ≤ n := by
  -- the name of the token in a place tells the place
  have chosen : ∀ x, ∃ i, x ∈ places → i < n ∧ loc (name i) (place x) := by
    intro x
    by_cases member : x ∈ places
    · obtain ⟨b, there⟩ := occupied x member
      obtain ⟨i, small, rfl⟩ := named b (placed.sound b _ there)
      exact ⟨i, fun _ => ⟨small, there⟩⟩
    · exact ⟨0, fun present => absurd present member⟩
  choose number good using chosen
  have inj : Set.InjOn number places := by
    intro x x_mem y y_mem same
    have there := (good y y_mem).2
    rw [← same] at there
    exact apart x x_mem y y_mem (placed.unique _ _ _ (good x x_mem).2 there)
  have fits := Finset.card_le_card_of_injOn number
    (fun x member => Finset.mem_coe.mpr (Finset.mem_range.mpr (good x member).1)) inj
  rwa [Finset.card_range] at fits

/-- One token goes from `source` to `target`, everything else stays. -/
theorem move (placed : Placed tokens loc) (b : β) (source target : π) (here : loc b source)
    (gone : ¬loc' b source) (arrived : loc' b target)
    (same : ∀ c x, c ≠ b ∨ x ≠ source ∧ x ≠ target → (loc' c x ↔ loc c x)) :
    Placed tokens loc' := by
  have only : ∀ x, loc' b x → x = target := by
    intro x there
    by_contra elsewhere
    have left : x ≠ source := by
      rintro rfl
      exact gone there
    have before := (same b x (.inr ⟨left, elsewhere⟩)).mp there
    exact left (placed.unique b x source before here)
  refine ⟨?_, ?_, ?_⟩
  · intro c x there
    by_cases moved : c = b
    · rw [moved]
      exact placed.sound b source here
    · exact placed.sound c x ((same c x (.inl moved)).mp there)
  · intro c member
    by_cases moved : c = b
    · exact ⟨target, moved ▸ arrived⟩
    · obtain ⟨x, before⟩ := placed.total c member
      exact ⟨x, (same c x (.inl moved)).mpr before⟩
  · intro c x y there there'
    by_cases moved : c = b
    · subst moved
      rw [only x there, only y there']
    · exact placed.unique c x y ((same c x (.inl moved)).mp there)
        ((same c y (.inl moved)).mp there')

end Placed

/-- The tokens of the first `m` rows of a table, row by row. -/
def inRows (m : Nat) (row : Nat → List β) : List β := (List.range m).flatMap row

section Rows

variable {m i j : Nat} {row row' : Nat → List β} {b : β}

theorem mem_inRows : b ∈ inRows m row ↔ ∃ i < m, b ∈ row i := by
  simp only [inRows, List.mem_flatMap, List.mem_range]

/-- Tokens taken out of one row, and the table that is left. -/
theorem inRows_perm (row row' : Nat → List β) (inside : i < m) (taken : List β) (split : (taken ++ row' i).Perm (row i))
    (others : ∀ j < m, j ≠ i → row' j = row j) :
    (taken ++ inRows m row').Perm (inRows m row) := by
  induction m with
  | zero => cases inside
  | succ m ih =>
    simp only [inRows, List.range_succ, List.flatMap_append, List.flatMap_singleton] at ih ⊢
    by_cases last : i = m
    · subst last
      -- the rows before are the same, so the tokens come out of the last one
      rw [List.flatMap_congr fun j low => others j (by simp at low; omega) (by simp at low; omega)]
      calc (taken ++ (List.flatMap row (List.range i) ++ row' i)).Perm
            (List.flatMap row (List.range i) ++ (taken ++ row' i)) := by
              rw [← List.append_assoc, ← List.append_assoc]
              exact List.perm_append_comm.append_right _
        _ |>.Perm (List.flatMap row (List.range i) ++ row i) := split.append_left _
    · rw [others m (by omega) (Ne.symm last), ← List.append_assoc]
      exact (ih (by omega) fun j low => others j (by omega)).append_right _

/-- In a table without repetitions no token is in two rows. -/
theorem eq_of_mem_rows (nodup : (inRows m row).Nodup) (low : i < m) (low' : j < m)
    (member : b ∈ row i) (member' : b ∈ row j) : i = j := by
  by_contra apart
  have disjoint := List.pairwise_iff_getElem.mp (List.nodup_flatMap.mp nodup).2
  simp only [List.length_range, List.getElem_range] at disjoint
  rcases Nat.lt_or_gt_of_ne apart with before | behind
  · exact disjoint i j low low' before member member'
  · exact disjoint j i low' low behind member' member

end Rows

end Tokens
