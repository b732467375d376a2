import Kpnet.Lib.HexNumeral
import Kpnet.Sctp.Association

/-!
# MAC addresses as text

`build_mac_client_raw.c` scans two addresses of six groups into a MAC header, with every character
that it reads. Its second loop looks for the end of a group of `self` in `gateway`, so that the groups
of `self` are cut where those of `gateway` end.
-/
namespace Kpnet.Net

open Bytes HexNumeral
open Sctp (htons)

inductive Text where
  | gateway
  | self
  deriving DecidableEq, Repr

/-- The fields of `connection_args_t` that `build_mac_client_raw` uses; `none` is `NULL`. -/
structure MacArgs where
  packet : Option Bytes
  plen : UInt16

/-- `gateway[j] != ':' && gateway[j] != '\0'` does not hold. -/
def Ends (texts : Text → Bytes) (j : Nat) : Prop := texts .gateway j = 58 ∨ texts .gateway j = 0

instance (texts : Text → Bytes) (j : Nat) : Decidable (Ends texts j) :=
  inferInstanceAs (Decidable (_ ∨ _))

/-- An inner loop: the octet, where it stops, and what it has read. There is room for so many
characters in front of the null character of `octet`; one more is written past its end. -/
def scanOctet (texts : Text → Bytes) (source : Text) :
    Nat → Nat → Option (List UInt8 × Nat × List (Text × Nat))
  | 0, j => if Ends texts j then some ([], j, [(.gateway, j)]) else none
  | room + 1, j =>
    if Ends texts j then some ([], j, [(.gateway, j)])
    else
      match scanOctet texts source room (j + 1) with
      | none => none
      | some (octet, stop, reads) =>
        some (texts source j :: octet, stop, (.gateway, j) :: (source, j) :: reads)

/-- An outer loop over so many groups. -/
def scanOctets (texts : Text → Bytes) (source : Text) :
    Nat → Nat → Option (List (List UInt8) × List (Text × Nat))
  | 0, _ => some ([], [])
  | n + 1, j =>
    match scanOctet texts source 2 j with
    | none => none
    | some (octet, stop, reads) =>
      match scanOctets texts source n (stop + 1) with
      | none => none
      | some (octets, more) => some (octet :: octets, reads ++ more)

/-- `(u8) strtol (octet, NULL, 16)`. -/
def octetByte (octet : List UInt8) : UInt8 := UInt8.ofInt (strtol octet)

/-- `build_mac_client_raw`: its result, the arguments it leaves, and what it reads of the two
texts. A header always fits into a packet. -/
def buildMacClientRaw (allocated : Bool) (texts : Text → Bytes) (typelen : UInt16) (args : MacArgs) :
    Option (Bool × MacArgs × List (Text × Nat)) :=
  match args.packet with
  | none => some (false, args, [])
  | some packet =>
    if allocated then
      match scanOctets texts .gateway 6 0 with
      | none => none
      | some (gateway, reads) =>
        -- `gateway[j]` in the condition of this loop, too
        match scanOctets texts .self 6 0 with
        | none => none
        | some (self, more) =>
          let mac := gateway.map octetByte ++ self.map octetByte ++ le16 (htons typelen)
          some (true, ⟨some (put packet 0 mac), 14⟩, reads ++ more)
    else some (false, args, [])

/-- One or two digits. -/
structure Group (g : List UInt8) : Prop where
  width : g.length = 1 ∨ g.length = 2
  digits : ∀ c ∈ g, (digit c).isSome

theorem Group.length_bounds {g : List UInt8} (group : Group g) : 0 < g.length ∧ g.length ≤ 2 := by
  rcases group.width with one | two
  · omega
  · omega

theorem Group.one {c : UInt8} (hex : (digit c).isSome) : Group [c] :=
  ⟨.inl rfl, List.forall_mem_singleton.mpr hex⟩

theorem Group.two {c c' : UInt8} (hex : (digit c).isSome) (hex' : (digit c').isSome) :
    Group [c, c'] :=
  ⟨.inr rfl, List.forall_mem_cons.mpr ⟨hex, List.forall_mem_singleton.mpr hex'⟩⟩

/-- The characters of groups with a colon between them, and the null character. -/
def chars : List (List UInt8) → List UInt8
  | [] => [0]
  | [g] => g ++ [0]
  | g :: g' :: gs => g ++ 58 :: chars (g' :: gs)

/-- A MAC address as it is written. -/
structure MacText where
  groups : List (List UInt8)
  six : groups.length = 6
  formed : ∀ g ∈ groups, Group g

namespace MacText

/-- The text with its terminator. -/
def chars (t : MacText) : List UInt8 := Net.chars t.groups

/-- The bytes of the address. -/
def bytes (t : MacText) : List UInt8 := t.groups.map fun g => UInt8.ofNat (leading g)

/-- The text stands at the start of a memory. -/
def At (t : MacText) (m : Bytes) : Prop := slice m 0 t.chars.length = t.chars

end MacText

/-- The places of groups of these widths, as they are found in a text. -/
def places (m : Bytes) : Nat → List Nat → List (List UInt8)
  | _, [] => []
  | j, w :: ws => slice m j w :: places m (j + w + 1) ws

/-- Groups that start at a place of the memory. -/
def Spells (m : Bytes) : Nat → List (List UInt8) → Prop
  | _, [] => True
  | j, [g] => slice m j g.length = g ∧ m (j + g.length) = 0
  | j, g :: g' :: gs => slice m j g.length = g ∧ m (j + g.length) = 58 ∧
      Spells m (j + g.length + 1) (g' :: gs)

/-- How far they reach, with the character behind each. -/
def extent (ws : List Nat) : Nat := (ws.map (· + 1)).sum

theorem length_chars {gs : List (List UInt8)} (some : gs ≠ []) :
    (chars gs).length = extent (gs.map List.length) := by
  induction gs with
  | nil => exact absurd rfl some
  | cons g gs ih =>
    cases gs with
    | nil => simp [chars, extent]
    | cons g' gs =>
      have rest := ih (List.cons_ne_nil g' gs)
      rw [chars, List.length_append, List.length_cons, rest]
      simp only [extent, List.map_cons, List.sum_cons]
      omega

theorem spells_of_slice {m : Bytes} {j : Nat} {gs : List (List UInt8)}
    (found : slice m j (chars gs).length = chars gs) : Spells m j gs := by
  induction gs generalizing j with
  | nil => trivial
  | cons g gs ih =>
    cases gs with
    | nil =>
      rw [chars, List.length_append, slice_add] at found
      obtain ⟨front, back⟩ := List.append_inj found (by simp)
      exact ⟨front, List.head_eq_of_cons_eq back⟩
    | cons g' gs =>
      rw [chars, List.length_append, List.length_cons, slice_add, Nat.add_comm _ 1, slice_add]
        at found
      obtain ⟨front, back⟩ := List.append_inj found (by simp)
      obtain ⟨colon, rest⟩ := List.cons_eq_cons.mp back
      exact ⟨front, colon, ih rest⟩

theorem slice_succ (m : Bytes) (j n : Nat) : slice m j (n + 1) = m j :: slice m (j + 1) n := by
  rw [Nat.add_comm n 1, slice_add]
  rfl

/-- The first of some groups, and what is behind it. -/
theorem Spells.cons {m : Bytes} {j : Nat} {g : List UInt8} {gs : List (List UInt8)}
    (spelled : Spells m j (g :: gs)) :
    slice m j g.length = g ∧ (m (j + g.length) = 58 ∨ m (j + g.length) = 0) ∧
      Spells m (j + g.length + 1) gs := by
  cases gs with
  | nil => exact ⟨spelled.1, .inr spelled.2, trivial⟩
  | cons g' gs => exact ⟨spelled.1, .inl spelled.2.1, spelled.2.2⟩

theorem Group.inner {g : List UInt8} (group : Group g) : ∀ c ∈ g, ¬(c = 58 ∨ c = 0) := by
  rintro c member (rfl | rfl)
  · exact absurd (group.digits 58 member) (by decide)
  · exact absurd (group.digits 0 member) (by decide)

/-- The inner loop stops behind the group of `gateway`, with as many characters of the text that
it copies from. -/
theorem scanOctet_spec (texts : Text → Bytes) (source : Text) {g : List UInt8} {room j : Nat}
    (here : slice (texts .gateway) j g.length = g) (stop : Ends texts (j + g.length))
    (inner : ∀ c ∈ g, ¬(c = 58 ∨ c = 0)) (fits : g.length ≤ room) :
    ∃ reads, scanOctet texts source room j =
        some (slice (texts source) j g.length, j + g.length, reads) ∧
      ∀ t i, (t, i) ∈ reads ↔
        (t = .gateway ∧ j ≤ i ∧ i ≤ j + g.length) ∨ (t = source ∧ j ≤ i ∧ i < j + g.length) := by
  induction g generalizing room j with
  | nil =>
    have ends : Ends texts j := stop
    refine ⟨[(.gateway, j)], ?_, ?_⟩
    · cases room with
      | zero => exact if_pos ends
      | succ room => exact if_pos ends
    · intro t i
      simp only [List.mem_singleton, Prod.mk.injEq, List.length_nil, Nat.add_zero]
      constructor
      · rintro ⟨rfl, rfl⟩
        exact .inl ⟨rfl, Nat.le_refl i, Nat.le_refl i⟩
      · rintro (⟨rfl, low, high⟩ | ⟨-, low, high⟩)
        · exact ⟨rfl, Nat.le_antisymm high low⟩
        · omega
  | cons c g ih =>
    cases room with
    | zero => cases fits
    | succ room =>
      rw [List.length_cons, slice_succ] at here
      obtain ⟨first, rest⟩ := List.cons_eq_cons.mp here
      have goes : ¬Ends texts j := by
        rw [Ends, first]
        exact inner c List.mem_cons_self
      have behind : j + (c :: g).length = j + 1 + g.length := by
        rw [List.length_cons]
        omega
      rw [behind] at stop ⊢
      obtain ⟨reads, scanned, places⟩ := ih rest stop
        (fun d member => inner d (List.mem_cons_of_mem c member)) (Nat.le_of_succ_le_succ fits)
      refine ⟨(.gateway, j) :: (source, j) :: reads, ?_, ?_⟩
      · rw [scanOctet, if_neg goes, scanned, List.length_cons, slice_succ]
      · intro t i
        rw [List.mem_cons, List.mem_cons, places, Prod.mk.injEq, Prod.mk.injEq]
        constructor
        · rintro (⟨rfl, rfl⟩ | ⟨rfl, rfl⟩ | ⟨rfl, low, high⟩ | ⟨rfl, low, high⟩)
          · exact .inl ⟨rfl, by omega, by omega⟩
          · exact .inr ⟨rfl, by omega, by omega⟩
          · exact .inl ⟨rfl, by omega, by omega⟩
          · exact .inr ⟨rfl, by omega, by omega⟩
        · by_cases start : i = j
          · rintro (⟨rfl, -⟩ | ⟨rfl, -⟩)
            · exact .inl ⟨rfl, start⟩
            · exact .inr (.inl ⟨rfl, start⟩)
          · rintro (⟨rfl, low, high⟩ | ⟨rfl, low, high⟩)
            · exact .inr (.inr (.inl ⟨rfl, by omega, by omega⟩))
            · exact .inr (.inr (.inr ⟨rfl, by omega, by omega⟩))

/-- The outer loop. It reads `gateway` up to its terminator, and the other text one character
less far. -/
theorem scanOctets_spec (texts : Text → Bytes) (source : Text) {gs : List (List UInt8)} {j : Nat}
    (spelled : Spells (texts .gateway) j gs) (formed : ∀ g ∈ gs, Group g) :
    ∃ reads, scanOctets texts source gs.length j =
        some (places (texts source) j (gs.map List.length), reads) ∧
      (∀ t i, (t, i) ∈ reads → (t = .gateway ∧ i < j + extent (gs.map List.length)) ∨
        (t = source ∧ i + 1 < j + extent (gs.map List.length))) ∧
      (gs ≠ [] → ∃ i, (source, i) ∈ reads ∧ i + 2 = j + extent (gs.map List.length)) := by
  induction gs generalizing j with
  | nil => exact ⟨[], rfl, nofun, fun some => absurd rfl some⟩
  | cons g gs ih =>
    obtain ⟨here, stop, rest⟩ := spelled.cons
    have group := formed g List.mem_cons_self
    have width := group.length_bounds
    obtain ⟨reads, scanned, inside⟩ := scanOctet_spec texts source here stop group.inner width.2
    obtain ⟨more, scanned', inside', last⟩ :=
      ih rest fun g' member => formed g' (List.mem_cons_of_mem g member)
    have total : j + extent ((g :: gs).map List.length) =
        j + g.length + 1 + extent (gs.map List.length) := by
      simp only [extent, List.map_cons, List.sum_cons]
      omega
    rw [total]
    refine ⟨reads ++ more, ?_, ?_, ?_⟩
    · rw [List.length_cons, scanOctets, scanned]
      dsimp only
      rw [scanned']
      rfl
    · intro t i member
      rcases List.mem_append.mp member with old | new
      · rcases (inside t i).mp old with ⟨rfl, -, high⟩ | ⟨rfl, -, high⟩
        · exact .inl ⟨rfl, by omega⟩
        · exact .inr ⟨rfl, by omega⟩
      · exact inside' t i new
    · intro _
      cases gs with
      | nil =>
        have end_read : (source, j + g.length - 1) ∈ reads :=
          (inside source (j + g.length - 1)).mpr (.inr ⟨rfl, by omega, by omega⟩)
        refine ⟨j + g.length - 1, List.mem_append_left more end_read, ?_⟩
        simp only [extent, List.map_nil, List.sum_nil]
        omega
      | cons g' gs =>
        obtain ⟨i, member, place⟩ := last (List.cons_ne_nil g' gs)
        exact ⟨i, List.mem_append_right reads member, place⟩

/-- A short octet without special characters. -/
theorem octetByte_eq {octet : List UInt8} (plain : ∀ c ∈ octet, Plain c) :
    octetByte octet = UInt8.ofNat (leading octet) := by
  rw [octetByte, strtol_eq_leading plain, UInt8.ofInt]
  apply UInt8.toNat_inj.mp
  rw [UInt8.toNat_ofNat', UInt8.toNat_ofNat']
  omega

theorem leading_lt {octet : List UInt8} (short : octet.length ≤ 2) : leading octet < 256 := by
  have bound := leadingFrom_lt 0 octet
  have power : 16 ^ octet.length ≤ 16 ^ 2 := Nat.pow_le_pow_right (by decide) short
  rw [leading]
  omega

/-- Numbers below 256 by their bytes. -/
theorem map_ofNat_inj {l l' : List Nat} (small : ∀ n ∈ l, n < 256) (small' : ∀ n ∈ l', n < 256) :
    l.map UInt8.ofNat = l'.map UInt8.ofNat ↔ l = l' := by
  have back {l : List Nat} (small : ∀ n ∈ l, n < 256) :
      (l.map UInt8.ofNat).map UInt8.toNat = l := by
    rw [List.map_map]
    refine (List.map_congr_left fun n member => ?_).trans (List.map_id l)
    exact UInt8.toNat_ofNat_of_lt' (small n member)
  constructor
  · intro same
    rw [← back small, same, back small']
  · rintro rfl
    rfl

section Places

variable {m m' : Bytes} {gs : List (List UInt8)}

/-- Groups are found where they are. -/
theorem places_of_spells {j : Nat} (spelled : Spells m j gs) :
    places m j (gs.map List.length) = gs := by
  induction gs generalizing j with
  | nil => rfl
  | cons g gs ih =>
    obtain ⟨here, -, rest⟩ := spelled.cons
    rw [List.map_cons, places, here, ih rest]

theorem places_congr {n : Nat} (same : ∀ i < n, m i = m' i) (ws : List Nat) {j : Nat}
    (inside : j + extent ws ≤ n + 1) : places m j ws = places m' j ws := by
  induction ws generalizing j with
  | nil => rfl
  | cons w ws ih =>
    have total : extent (w :: ws) = w + 1 + extent ws := by simp [extent]
    rw [places, places, ih (by omega)]
    congr 1
    exact slice_congr fun i low => same (j + i) (by omega)

theorem length_places (m : Bytes) (j : Nat) (ws : List Nat) : (places m j ws).length = ws.length := by
  induction ws generalizing j with
  | nil => rfl
  | cons w ws ih => rw [places, List.length_cons, List.length_cons, ih]

theorem mem_places {ws : List Nat} {j : Nat} {octet : List UInt8} (member : octet ∈ places m j ws) :
    octet.length ∈ ws ∧ ∀ c ∈ octet, ∃ i, m i = c := by
  induction ws generalizing j with
  | nil => cases member
  | cons w ws ih =>
    rcases List.mem_cons.mp member with rfl | later
    · refine ⟨by simp, fun c inside => ?_⟩
      obtain ⟨i, -, here⟩ := List.mem_map.mp inside
      exact ⟨j + i, here⟩
    · obtain ⟨width, found⟩ := ih later
      exact ⟨List.mem_cons_of_mem w width, found⟩

end Places

namespace MacText

/-- The text as it stands in a memory that is clear behind it. -/
def memory (t : MacText) : Bytes := fun i => t.chars.getD i 0

theorem groups_ne_nil (t : MacText) : t.groups ≠ [] := by
  intro empty
  have six := t.six
  rw [empty] at six
  cases six

theorem length_chars (t : MacText) : t.chars.length = extent (t.groups.map List.length) :=
  Net.length_chars t.groups_ne_nil

theorem At.spells {t : MacText} {m : Bytes} (stands : t.At m) : Spells m 0 t.groups :=
  spells_of_slice stands

theorem At.eq_memory {t : MacText} {m : Bytes} (stands : t.At m) (i : Nat)
    (inside : i < t.chars.length) : m i = t.memory i := by
  have read : t.chars[i]? = some (m i) := by
    rw [← stands, slice, List.getElem?_map, List.getElem?_range inside, Option.map_some,
      Nat.zero_add]
  rw [memory, List.getD_eq_getElem?_getD, read]
  rfl

theorem at_memory (t : MacText) : t.At t.memory := by
  apply List.ext_getElem
  · simp
  · intro i low inside
    simp [slice, memory, List.getD_eq_getElem?_getD, inside]

theorem plain_memory (t : MacText) (i : Nat) : Plain (t.memory i) := by
  have all {gs : List (List UInt8)} (formed : ∀ g ∈ gs, Group g) : ∀ c ∈ Net.chars gs, Plain c := by
    induction gs with
    | nil => simp [Net.chars, Plain, isSpace]
    | cons g gs ih =>
      have digits : ∀ c ∈ g, Plain c := fun c member =>
        plain_of_digit ((formed g List.mem_cons_self).digits c member)
      cases gs with
      | nil =>
        intro c member
        rcases List.mem_append.mp member with inner | last
        · exact digits c inner
        · rw [List.mem_singleton.mp last]
          decide
      | cons g' gs =>
        intro c member
        rcases List.mem_append.mp member with inner | behind
        · exact digits c inner
        · rcases List.mem_cons.mp behind with rfl | later
          · decide
          · exact ih (fun h member => formed h (List.mem_cons_of_mem g member)) c later
  by_cases inside : i < t.chars.length
  · rw [memory, List.getD_eq_getElem?_getD, List.getElem?_eq_getElem inside]
    exact all t.formed _ (List.getElem_mem inside)
  · rw [memory, List.getD_eq_getElem?_getD, List.getElem?_eq_none (Nat.not_lt.mp inside)]
    decide

theorem width_le {t : MacText} {n : Nat} (member : n ∈ t.groups.map List.length) : n ≤ 2 := by
  obtain ⟨g, inside, rfl⟩ := List.mem_map.mp member
  exact (t.formed g inside).length_bounds.2

/-- The digits that stand in `s` where the groups of `g` would have theirs, up to a character that is
none, make the numbers of the groups of `s`; and what lies behind the terminator is not needed for
them. -/
structure Fits (g s : MacText) : Prop where
  inside : g.chars.length ≤ s.chars.length + 1
  numbers : (places s.memory 0 (g.groups.map List.length)).map leading = s.groups.map leading

end MacText

/-- The two addresses are written to the packet, and nothing is read behind their terminators. -/
def Written (g s : MacText) (result : Option (Bool × MacArgs × List (Text × Nat))) : Prop :=
  ∃ packet reads, result = some (true, ⟨some packet, 14⟩, reads) ∧
    slice packet 0 12 = g.bytes ++ s.bytes ∧
    (∀ i, (.gateway, i) ∈ reads → i < g.chars.length) ∧
    ∀ i, (.self, i) ∈ reads → i < s.chars.length

theorem bytes_of_groups (t : MacText) : t.groups.map octetByte = t.bytes :=
  List.map_congr_left fun g member => octetByte_eq fun c inside =>
    plain_of_digit ((t.formed g member).digits c inside)

/-- What the second loop makes of `s`, where it stays inside of it. -/
theorem bytes_of_places (g s : MacText) :
    (places s.memory 0 (g.groups.map List.length)).map octetByte = s.bytes ↔
      (places s.memory 0 (g.groups.map List.length)).map leading = s.groups.map leading := by
  have cut : (places s.memory 0 (g.groups.map List.length)).map octetByte =
      ((places s.memory 0 (g.groups.map List.length)).map leading).map UInt8.ofNat := by
    rw [List.map_map]
    refine List.map_congr_left fun octet member => octetByte_eq fun c inside => ?_
    obtain ⟨i, rfl⟩ := (mem_places member).2 c inside
    exact s.plain_memory i
  have whole : s.bytes = (s.groups.map leading).map UInt8.ofNat := by
    rw [List.map_map]
    rfl
  rw [cut, whole]
  apply map_ofNat_inj
  · intro n member
    obtain ⟨octet, inside, rfl⟩ := List.mem_map.mp member
    exact leading_lt (MacText.width_le (mem_places inside).1)
  · intro n member
    obtain ⟨octet, inside, rfl⟩ := List.mem_map.mp member
    exact leading_lt (MacText.width_le (List.mem_map_of_mem inside))

/-- What is written, and what is read for it: `gateway` up to its terminator, and of `self` one
character less. -/
theorem buildMacClientRaw_spec {g : MacText} {texts : Text → Bytes} (gateway : g.At (texts .gateway))
    (typelen : UInt16) (packet : Bytes) (plen : UInt16) :
    ∃ reads, buildMacClientRaw true texts typelen ⟨some packet, plen⟩ = some (true,
        ⟨some (put packet 0 (g.bytes ++
          (places (texts .self) 0 (g.groups.map List.length)).map octetByte ++
          le16 (htons typelen))), 14⟩, reads) ∧
      (∀ i, (.gateway, i) ∈ reads → i < g.chars.length) ∧
      (∀ i, (.self, i) ∈ reads → i + 1 < g.chars.length) ∧
      ∃ i, (.self, i) ∈ reads ∧ i + 2 = g.chars.length := by
  obtain ⟨reads, scanned, inside, -⟩ := scanOctets_spec texts .gateway gateway.spells g.formed
  obtain ⟨more, scanned', inside', last⟩ := scanOctets_spec texts .self gateway.spells g.formed
  rw [g.six, places_of_spells gateway.spells] at scanned
  rw [g.six] at scanned'
  rw [← g.length_chars, Nat.zero_add] at inside inside' last
  obtain ⟨i, read, place⟩ := last g.groups_ne_nil
  refine ⟨reads ++ more, ?_, ?_, ?_, i, List.mem_append_right reads read, place⟩
  · simp only [buildMacClientRaw, scanned, scanned', if_true, bytes_of_groups]
  · intro k member
    rcases List.mem_append.mp member with first | second
    · rcases inside _ k first with ⟨-, low⟩ | ⟨-, low⟩
      · exact low
      · omega
    · rcases inside' _ k second with ⟨-, low⟩ | ⟨no, -⟩
      · exact low
      · cases no
  · intro k member
    rcases List.mem_append.mp member with first | second
    · rcases inside _ k first with ⟨no, -⟩ | ⟨no, -⟩
      · cases no
      · cases no
    · rcases inside' _ k second with ⟨no, -⟩ | ⟨-, low⟩
      · cases no
      · exact low

/-- The addresses of two texts are written if and only if the second one fits over the first. -/
theorem written_iff_fits {g s : MacText} {texts : Text → Bytes} (gateway : g.At (texts .gateway))
    (self : s.At (texts .self)) (typelen : UInt16) (packet : Bytes) (plen : UInt16) :
    Written g s (buildMacClientRaw true texts typelen ⟨some packet, plen⟩) ↔ g.Fits s := by
  obtain ⟨reads, mac, inside, inside', i, read, place⟩ :=
    buildMacClientRaw_spec gateway typelen packet plen
  have found (fits : g.chars.length ≤ s.chars.length + 1) :
      places (texts .self) 0 (g.groups.map List.length) =
        places s.memory 0 (g.groups.map List.length) := by
    apply places_congr self.eq_memory
    rw [← g.length_chars]
    omega
  have header := slice_put_append packet 0
    (g.bytes ++ (places (texts .self) 0 (g.groups.map List.length)).map octetByte)
    (le16 (htons typelen))
  have twelve : (g.bytes ++
      (places (texts .self) 0 (g.groups.map List.length)).map octetByte).length = 12 := by
    simp [MacText.bytes, length_places, g.six]
  rw [twelve] at header
  constructor
  · rintro ⟨packet', reads', made, addresses, -, bounded⟩
    rw [mac] at made
    cases made
    have near := bounded i read
    have fits : g.chars.length ≤ s.chars.length + 1 := by omega
    rw [header, List.append_cancel_left_eq, found fits, bytes_of_places] at addresses
    exact ⟨fits, addresses⟩
  · rintro ⟨fits, numbers⟩
    refine ⟨_, _, mac, ?_, inside, ?_⟩
    · rw [header, found fits, (bytes_of_places g s).mpr numbers]
    · intro k member
      have near := inside' k member
      omega

/-- Groups of the same widths, but that the last one may be shorter in the second text. -/
def SameWidths : List (List UInt8) → List (List UInt8) → Prop
  | [g], [h] => h.length ≤ g.length
  | g :: g' :: gs, h :: h' :: hs => g.length = h.length ∧ SameWidths (g' :: gs) (h' :: hs)
  | _, _ => False

/-- The forms of a group. -/
theorem Group.cases {g : List UInt8} (group : Group g) :
    (∃ c d, g = [c] ∧ digit c = some d) ∨
    ∃ c d c' d', g = [c, c'] ∧ digit c = some d ∧ digit c' = some d' := by
  rcases group.width with one | two
  · obtain ⟨c, rfl⟩ := List.length_eq_one_iff.mp one
    obtain ⟨d, value⟩ := Option.isSome_iff_exists.mp (group.digits c (by simp))
    exact .inl ⟨c, d, rfl, value⟩
  · obtain ⟨c, c', rfl⟩ := List.length_eq_two.mp two
    obtain ⟨d, value⟩ := Option.isSome_iff_exists.mp (group.digits c (by simp))
    obtain ⟨d', value'⟩ := Option.isSome_iff_exists.mp (group.digits c' (by simp))
    exact .inr ⟨c, d, c', d', rfl, value, value'⟩

theorem digit_separator {c : UInt8} (ends : c = 58 ∨ c = 0) : digit c = none := by
  rcases ends with rfl | rfl
  · rfl
  · rfl

section Widths

variable {m : Bytes} {j : Nat} {g h : List UInt8} {gs hs : List (List UInt8)}

/-- A place that is one character too wide takes the separator in, which does not count. -/
theorem leading_slice_of_le (here : slice m j h.length = h)
    (behind : m (j + h.length) = 58 ∨ m (j + h.length) = 0) {n : Nat} (wide : h.length ≤ n) :
    leading (slice m j n) = leading h := by
  obtain ⟨k, rfl⟩ := Nat.exists_eq_add_of_le wide
  rw [slice_add, here]
  cases k with
  | zero => rw [slice, List.range_zero, List.map_nil, List.append_nil]
  | succ k =>
    rw [slice_succ]
    exact leadingFrom_append (digit_separator behind) 0 h _

/-- Where the widths agree, the places are those of the groups. -/
theorem numbers_of_sameWidths (spelled : Spells m j hs) (formed : ∀ g ∈ gs, Group g)
    (formed' : ∀ h ∈ hs, Group h) (widths : SameWidths gs hs) :
    (places m j (gs.map List.length)).map leading = hs.map leading ∧
    extent (gs.map List.length) ≤ extent (hs.map List.length) + 1 := by
  induction gs generalizing hs j with
  | nil => cases widths
  | cons g gs ih =>
    cases hs with
    | nil =>
      cases gs with
      | nil => cases widths
      | cons g' gs => cases widths
    | cons h hs =>
      obtain ⟨here, behind, rest⟩ := spelled.cons
      cases gs with
      | nil =>
        cases hs with
        | nil =>
          have wide : h.length ≤ g.length := widths
          have narrow := (formed g List.mem_cons_self).width
          have positive := (formed' h List.mem_cons_self).width
          simp only [List.map_cons, List.map_nil, places, extent, List.sum_cons, List.sum_nil,
            leading_slice_of_le here behind wide, true_and]
          omega
        | cons h' hs => cases widths
      | cons g' gs =>
        cases hs with
        | nil => cases widths
        | cons h' hs =>
          obtain ⟨same, later⟩ : g.length = h.length ∧ SameWidths (g' :: gs) (h' :: hs) := widths
          obtain ⟨numbers, inside⟩ := ih rest (fun x member => formed x (List.mem_cons_of_mem g member))
            (fun x member => formed' x (List.mem_cons_of_mem h member)) later
          constructor
          · rw [List.map_cons, same, places, List.map_cons, here]
            exact List.cons_eq_cons.mpr ⟨rfl, numbers⟩
          · simp only [extent, List.map_cons, List.sum_cons] at inside ⊢
            omega

/-- One digit of two is another number. -/
theorem leading_slice_ne_of_lt (group : Group h) (nonzero : 48 ∉ h) (here : slice m j h.length = h)
    {n : Nat} (positive : 0 < n) (narrow : n < h.length) : leading (slice m j n) ≠ leading h := by
  rcases group.cases with ⟨c, d, rfl, value⟩ | ⟨c, d, c', d', rfl, value, value'⟩
  · rw [List.length_singleton] at narrow
    omega
  · obtain rfl : n = 1 := by
      rw [List.length_cons, List.length_singleton] at narrow
      omega
    have first : m j = c := by
      rw [List.length_cons, slice_succ] at here
      exact List.head_eq_of_cons_eq here
    have real := digit_pos value fun zero => nonzero (by simp [zero])
    rw [slice_succ, first]
    simp only [slice, List.range_zero, List.map_nil, leading, leadingFrom, value, value']
    omega

/-- One character too late, too. -/
theorem leading_slice_ne_of_late (group : Group h) (nonzero : 48 ∉ h)
    (here : slice m j h.length = h) (behind : m (j + h.length) = 58 ∨ m (j + h.length) = 0)
    {n : Nat} (positive : 0 < n) : leading (slice m (j + 1) n) ≠ leading h := by
  obtain ⟨k, rfl⟩ := Nat.exists_eq_add_of_lt positive
  rw [Nat.zero_add, slice_succ]
  rcases group.cases with ⟨c, d, rfl, value⟩ | ⟨c, d, c', d', rfl, value, value'⟩
  · -- only the separator is left
    have none := digit_separator behind
    rw [List.length_singleton] at none
    have real := digit_pos value fun zero => nonzero (by simp [zero])
    simp only [leading, leadingFrom, value, none]
    omega
  · -- only the second digit is left
    have second : m (j + 1) = c' := by
      rw [List.length_cons, slice_succ, List.length_singleton, slice_succ] at here
      exact List.head_eq_of_cons_eq (List.tail_eq_of_cons_eq here)
    have none := digit_separator behind
    have real := digit_pos value fun zero => nonzero (by simp [zero])
    rw [second]
    cases k with
    | zero =>
      simp only [slice, List.range_zero, List.map_nil, leading, leadingFrom, value, value']
      omega
    | succ k =>
      have next : digit (m (j + 1 + 1)) = Option.none := none
      rw [slice_succ]
      simp only [leading, leadingFrom, value, value', next]
      omega

/-- Without zeros nothing else gives the right numbers. -/
theorem sameWidths_of_numbers (spelled : Spells m j hs) (formed : ∀ g ∈ gs, Group g)
    (formed' : ∀ h ∈ hs, Group h) (nonzero : ∀ h ∈ hs, 48 ∉ h) (some : gs ≠ [])
    (count : gs.length = hs.length)
    (numbers : (places m j (gs.map List.length)).map leading = hs.map leading) :
    SameWidths gs hs := by
  induction gs generalizing hs j with
  | nil => exact absurd rfl some
  | cons g gs ih =>
    cases hs with
    | nil => cases count
    | cons h hs =>
      obtain ⟨here, behind, rest⟩ := spelled.cons
      obtain ⟨first, later⟩ := List.cons_eq_cons.mp numbers
      have width := (formed g List.mem_cons_self).width
      have width' := (formed' h List.mem_cons_self).width
      have wide : h.length ≤ g.length := by
        by_contra narrow
        exact leading_slice_ne_of_lt (formed' h List.mem_cons_self) (nonzero h List.mem_cons_self)
          here (by omega) (by omega) first
      cases gs with
      | nil =>
        cases hs with
        | nil => exact wide
        | cons h' hs => cases count
      | cons g' gs =>
        cases hs with
        | nil => cases count
        | cons h' hs =>
          have same : g.length = h.length := by
            by_contra differ
            -- the next group is then read from its second character on
            obtain ⟨here', behind', -⟩ := rest.cons
            obtain ⟨next, -⟩ := List.cons_eq_cons.mp later
            have place : j + g.length + 1 = j + h.length + 1 + 1 := by omega
            rw [place] at next
            have width'' := (formed g' (by simp)).width
            exact leading_slice_ne_of_late (formed' h' (by simp)) (nonzero h' (by simp)) here' behind'
              (by omega) next
          rw [same] at later
          refine ⟨same, ih rest (fun x member => formed x (List.mem_cons_of_mem g member))
            (fun x member => formed' x (List.mem_cons_of_mem h member))
            (fun x member => nonzero x (List.mem_cons_of_mem h member)) (List.cons_ne_nil g' gs)
            (Nat.succ.inj count) later⟩

end Widths

namespace MacText

theorem Fits.of_sameWidths {g s : MacText} (widths : SameWidths g.groups s.groups) : g.Fits s := by
  obtain ⟨numbers, inside⟩ :=
    numbers_of_sameWidths s.at_memory.spells g.formed s.formed widths
  rw [← g.length_chars, ← s.length_chars] at inside
  exact ⟨inside, numbers⟩

theorem Fits.sameWidths {g s : MacText} (fits : g.Fits s) (nonzero : ∀ h ∈ s.groups, 48 ∉ h) :
    SameWidths g.groups s.groups :=
  sameWidths_of_numbers s.at_memory.spells g.formed s.formed nonzero g.groups_ne_nil
    (g.six.trans s.six.symm) fits.numbers

end MacText

/-- For any two addresses: they are written if and only if the digits of `self` at the places of the
groups of `gateway` make its own numbers. Groups of the same widths are enough for that, and where
`self` has no digit 0 nothing else is. -/
theorem mac_addresses_written_iff (g s : MacText) (texts : Text → Bytes)
    (gateway : g.At (texts .gateway)) (self : s.At (texts .self)) (typelen : UInt16)
    (packet : Bytes) (plen : UInt16) :
    (Written g s (buildMacClientRaw true texts typelen ⟨some packet, plen⟩) ↔ g.Fits s) ∧
    (SameWidths g.groups s.groups → g.Fits s) ∧
    ((∀ h ∈ s.groups, 48 ∉ h) → (g.Fits s ↔ SameWidths g.groups s.groups)) :=
  ⟨written_iff_fits gateway self typelen packet plen, .of_sameWidths,
    fun nonzero => ⟨fun fits => fits.sameWidths nonzero, .of_sameWidths⟩⟩

/-- The address 1:2:3:4:5:6. -/
def narrow : MacText where
  groups := [[49], [50], [51], [52], [53], [54]]
  six := rfl
  formed := by
    simp only [List.forall_mem_cons]
    exact ⟨.one rfl, .one rfl, .one rfl, .one rfl, .one rfl, .one rfl, nofun⟩

/-- The address 11:22:33:44:55:66. -/
def wide : MacText where
  groups := [[49, 49], [50, 50], [51, 51], [52, 52], [53, 53], [54, 54]]
  six := rfl
  formed := by
    simp only [List.forall_mem_cons]
    exact ⟨.two rfl rfl, .two rfl rfl, .two rfl rfl, .two rfl rfl, .two rfl rfl, .two rfl rfl,
      nofun⟩

/-- Two addresses in memory. -/
def inMemory (g s : MacText) : Text → Bytes
  | .gateway => g.memory
  | .self => s.memory

theorem mac_addresses_written_iff_narrow :
    Written narrow narrow
      (buildMacClientRaw true (inMemory narrow narrow) 0x0800 ⟨some fun _ => 0, 0⟩) := by
  have widths : SameWidths narrow.groups narrow.groups := by simp [narrow, SameWidths]
  have sure := mac_addresses_written_iff narrow narrow (inMemory narrow narrow) narrow.at_memory
    narrow.at_memory 0x0800 (fun _ => 0) 0
  exact sure.1.mpr (sure.2.1 widths)

/-- With `gateway` 1:2:3:4:5:6 the address 11:22:33:44:55:66 becomes 1:0:2:3:0:4. -/
theorem mac_addresses_lost : ∃ packet reads,
    buildMacClientRaw true (inMemory narrow wide) 0x0800 ⟨some fun _ => 0, 0⟩ =
      some (true, ⟨some packet, 14⟩, reads) ∧
    slice packet 0 12 = narrow.bytes ++ [1, 0, 2, 3, 0, 4] ∧
    ¬Written narrow wide
      (buildMacClientRaw true (inMemory narrow wide) 0x0800 ⟨some fun _ => 0, 0⟩) := by
  refine ⟨_, _, rfl, by decide +kernel, ?_⟩
  rw [written_iff_fits narrow.at_memory wide.at_memory]
  intro fits
  have widths := fits.sameWidths (by decide)
  cases widths.1

end Kpnet.Net
