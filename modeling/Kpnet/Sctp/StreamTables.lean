import Kpnet.Sctp.StreamCounts

/-!
# The tables of the streams

`prepare_sctp_threads.c` in full: one array for all streams, the records in it, and what is freed where an
allocation fails. The loop assigns an id to each record and clears the record afterwards.
-/
namespace Kpnet.Sctp

/-- `memset (threads[i], 0, sizeof (sctp_thread_t))`, whatever the record holds. -/
def cleared (_ : SctpThread) : SctpThread := SctpThread.zero

/-- What the loop does to the `i`-th record. The count it compares with is in network order. -/
def initThread (os : UInt16) (i : Nat) (thread : SctpThread) : SctpThread :=
  cleared { thread with
    id := if i ≤ os.toNat then UInt16.ofNat i else UInt16.ofNat (i - os.toNat) }

/-- The loop of `prepare_sctp_threads`, with the records it has got so far, and with what the new ones
hold. After a failed allocation it is over, and all that was allocated is freed. -/
def fillThreads (alloc : Nat → Option Nat) (held : Nat → SctpThread) (os : UInt16) (table : Nat) :
    Nat → Nat → List (Nat × SctpThread) → Except (List Nat) (List (Nat × SctpThread))
  | 0, _, threads => .ok threads
  | left + 1, i, threads =>
    match alloc (i + 1) with
    | none => .error (threads.map Prod.fst ++ [table])
    | some block =>
      fillThreads alloc held os table left (i + 1)
        (threads ++ [(block, initThread os i (held block))])

/-- How many records there are. -/
def threadCount (assoc : SctpAssociation) : Nat :=
  (ntohs assoc.mis).toNat + (ntohs assoc.os).toNat

/-- `prepare_sctp_threads`, with the blocks that it frees; `alloc 0` is the table. -/
def prepareSctpThreadsFreeing (alloc : Nat → Option Nat) (held : Nat → SctpThread)
    (assoc : SctpAssociation) : Int × SctpAssociation × List Nat :=
  match alloc 0 with
  | none => (-1, assoc, [])
  | some table =>
    match fillThreads alloc held assoc.os table (threadCount assoc) 0 [] with
    | .error freed => (-1, assoc, freed)
    | .ok threads =>
      (0, { assoc with
        misThreads := some threads
        osThreads := some (threads.drop (ntohs assoc.mis).toNat) }, [])

/-- Two tables of the given lengths with records of their own, cleared but for the id; nothing else of
the association has changed. -/
structure TablesSplit (assoc assoc' : SctpAssociation) : Prop where
  mis : assoc'.inboundThreads.length = (ntohs assoc.mis).toNat
  os : assoc'.outboundThreads.length = (ntohs assoc.os).toNat
  distinct : ((assoc'.inboundThreads ++ assoc'.outboundThreads).map Prod.fst).Nodup
  blank : ∀ thread ∈ assoc'.inboundThreads ++ assoc'.outboundThreads,
    { thread.2 with id := 0 } = SctpThread.zero
  others : assoc' = { assoc with misThreads := assoc'.misThreads, osThreads := assoc'.osThreads }

/-- In both tables a record's id is its index. -/
structure IdsByIndex (assoc : SctpAssociation) : Prop where
  mis : ∀ i < assoc.inboundThreads.length,
    assoc.inboundThreads[i]?.map (fun thread => thread.2.id) = some (UInt16.ofNat i)
  os : ∀ i < assoc.outboundThreads.length,
    assoc.outboundThreads[i]?.map (fun thread => thread.2.id) = some (UInt16.ofNat i)

section Fill

variable {alloc : Nat → Option Nat} {block : Nat → Nat} {n : Nat}

/-- The records of the first blocks. -/
def blankThreads (block : Nat → Nat) (n : Nat) : List (Nat × SctpThread) :=
  (List.range n).map fun i => (block i, SctpThread.zero)

theorem blankThreads_succ (block : Nat → Nat) (n : Nat) :
    blankThreads block (n + 1) = blankThreads block n ++ [(block n, SctpThread.zero)] := by
  rw [blankThreads, List.range_succ, List.map_append, List.map_singleton, ← blankThreads]

theorem blocks_blankThreads (block : Nat → Nat) (n : Nat) :
    (blankThreads block n).map Prod.fst = (List.range n).map block := by
  rw [blankThreads, List.map_map]
  rfl

theorem fillThreads_ok (held : Nat → SctpThread) (os : UInt16) (table : Nat)
    (given : ∀ i < n, alloc (i + 1) = some (block i)) (left i : Nat) (total : i + left = n) :
    fillThreads alloc held os table left i (blankThreads block i) = .ok (blankThreads block n) := by
  induction left generalizing i with
  | zero => rw [← total, Nat.add_zero, fillThreads]
  | succ left ih =>
    have next := ih (i + 1) (by omega)
    rw [blankThreads_succ] at next
    rw [fillThreads, given i (by omega)]
    exact next

/-- Up to the first failure the loop has got the blocks before it, and gives them back. -/
theorem fillThreads_error (held : Nat → SctpThread) (os : UInt16) (table : Nat)
    (given : ∀ i < n, alloc (i + 1) = some (block i)) (failed : alloc (n + 1) = none) (left i : Nat)
    (reached : i ≤ n) (within : n < i + left) :
    fillThreads alloc held os table left i (blankThreads block i) =
      .error ((List.range n).map block ++ [table]) := by
  induction left generalizing i with
  | zero => omega
  | succ left ih =>
    rw [fillThreads]
    by_cases here : i = n
    · rw [here, failed, ← blocks_blankThreads]
    · have next := ih (i + 1) (by omega) (by omega)
      rw [blankThreads_succ] at next
      rw [given i (by omega)]
      exact next

theorem allocThreads_some (given : ∀ i < n, alloc (i + 1) = some (block i)) :
    allocThreads alloc n = some (blankThreads block n) := by
  induction n with
  | zero => rfl
  | succ n ih =>
    have before := ih fun i low => given i (by omega)
    rw [blankThreads_succ]
    simp only [allocThreads, before, given n (by omega)]

theorem allocThreads_none (failed : alloc (n + 1) = none) (more : Nat) :
    allocThreads alloc (n + 1 + more) = none := by
  induction more with
  | zero =>
    rw [Nat.add_zero, allocThreads]
    cases allocThreads alloc n with
    | none => rfl
    | some threads => simp only [failed]
  | succ more ih => rw [← Nat.add_assoc, allocThreads, ih]

end Fill

/-- Either all allocations up to some number succeed, or one of them is the first to fail. -/
theorem first_failure (alloc : Nat → Option Nat) (n : Nat) :
    (∃ block : Nat → Nat, ∀ i ≤ n, alloc i = some (block i)) ∨
      ∃ f ≤ n, ∃ block : Nat → Nat, alloc f = none ∧ ∀ i < f, alloc i = some (block i) := by
  have known (i : Nat) (given : alloc i ≠ none) : alloc i = some ((alloc i).getD 0) := by
    obtain ⟨block, found⟩ := Option.ne_none_iff_exists'.mp given
    rw [found, Option.getD_some]
  by_cases short : ∃ f, f ≤ n ∧ alloc f = none
  · right
    obtain ⟨inside, failed⟩ := Nat.find_spec short
    refine ⟨Nat.find short, inside, fun i => (alloc i).getD 0, failed, ?_⟩
    intro i before
    apply known
    intro missing
    exact Nat.find_min short before ⟨by omega, missing⟩
  · left
    refine ⟨fun i => (alloc i).getD 0, ?_⟩
    intro i low
    apply known
    intro missing
    exact short ⟨i, low, missing⟩

section Prepare

variable {alloc : Nat → Option Nat} {block : Nat → Nat} (held : Nat → SctpThread)
  {assoc : SctpAssociation}

/-- The association with its tables. -/
def tabled (assoc : SctpAssociation) (threads : List (Nat × SctpThread)) : SctpAssociation :=
  { assoc with
    misThreads := some threads
    osThreads := some (threads.drop (ntohs assoc.mis).toNat) }

theorem prepare_ok (given : ∀ i ≤ threadCount assoc, alloc i = some (block i)) :
    prepareSctpThreadsFreeing alloc held assoc =
      (0, tabled assoc (blankThreads (fun i => block (i + 1)) (threadCount assoc)), []) := by
  have filled : fillThreads alloc held assoc.os (block 0) (threadCount assoc) 0 [] =
      .ok (blankThreads (fun i => block (i + 1)) (threadCount assoc)) :=
    fillThreads_ok held assoc.os (block 0) (fun i low => given (i + 1) (by omega)) _ 0 (Nat.zero_add _)
  simp only [prepareSctpThreadsFreeing, given 0 (Nat.zero_le _), filled]
  rfl

/-- The blocks before the first failure are freed, the table last. -/
theorem prepare_failed {f : Nat} (inside : f ≤ threadCount assoc) (failed : alloc f = none)
    (given : ∀ i < f, alloc i = some (block i)) :
    ∃ freed, prepareSctpThreadsFreeing alloc held assoc = (-1, assoc, freed) ∧
      freed.Perm ((List.range f).map block) := by
  cases f with
  | zero =>
    refine ⟨[], ?_, List.Perm.refl _⟩
    rw [prepareSctpThreadsFreeing, failed]
  | succ f =>
    have stopped : fillThreads alloc held assoc.os (block 0) (threadCount assoc) 0 [] =
        .error ((List.range f).map (fun i => block (i + 1)) ++ [block 0]) :=
      fillThreads_error held assoc.os (block 0) (fun i low => given (i + 1) (by omega)) failed _ 0
        (Nat.zero_le _) (by omega)
    refine ⟨(List.range f).map (fun i => block (i + 1)) ++ [block 0], ?_, ?_⟩
    · simp only [prepareSctpThreadsFreeing, given 0 (Nat.succ_pos f), stopped]
    · rw [List.range_succ_eq_map, List.map_cons, List.map_map]
      exact List.perm_append_singleton _ _

/-- But for the frees it is the function that the handlers call. -/
theorem prepareSctpThreadsFreeing_eq (alloc : Nat → Option Nat) (assoc : SctpAssociation) :
    (prepareSctpThreadsFreeing alloc held assoc).1 = (prepareSctpThreads alloc assoc).1 ∧
    (prepareSctpThreadsFreeing alloc held assoc).2.1 = (prepareSctpThreads alloc assoc).2 := by
  rcases first_failure alloc (threadCount assoc) with ⟨block, given⟩ | ⟨f, inside, block, failed, given⟩
  · have threads : ∀ i < threadCount assoc, alloc (i + 1) = some (block (i + 1)) :=
      fun i low => given (i + 1) (by omega)
    have made := allocThreads_some threads
    rw [threadCount] at made
    rw [prepare_ok held given, prepareSctpThreads, given 0 (Nat.zero_le _)]
    simp only [made, true_and]
    rfl
  · obtain ⟨freed, stopped, -⟩ := prepare_failed held inside failed given
    cases f with
    | zero =>
      rw [stopped, prepareSctpThreads, failed]
      exact ⟨rfl, rfl⟩
    | succ f =>
      have none := allocThreads_none failed (threadCount assoc - (f + 1))
      rw [Nat.add_sub_cancel' inside, threadCount] at none
      rw [stopped, prepareSctpThreads, given 0 (Nat.succ_pos f)]
      simp only [none, and_self]

end Prepare

section Tables

variable (assoc : SctpAssociation) (block : Nat → Nat)

theorem length_blankThreads (n : Nat) : (blankThreads block n).length = n := by
  rw [blankThreads, List.length_map, List.length_range]

theorem outbound_tabled :
    (tabled assoc (blankThreads block (threadCount assoc))).outboundThreads =
      (blankThreads block (threadCount assoc)).drop (ntohs assoc.mis).toNat := rfl

theorem inbound_tabled :
    (tabled assoc (blankThreads block (threadCount assoc))).inboundThreads =
      (blankThreads block (threadCount assoc)).take (ntohs assoc.mis).toNat := by
  have cut : threadCount assoc - (threadCount assoc - (ntohs assoc.mis).toNat) =
      (ntohs assoc.mis).toNat := by
    rw [threadCount]
    omega
  rw [SctpAssociation.inboundThreads, outbound_tabled]
  simp only [tabled, Option.getD_some, List.length_drop, length_blankThreads, cut]

theorem tabled_split (distinct : ((List.range (threadCount assoc)).map block).Nodup) :
    TablesSplit assoc (tabled assoc (blankThreads block (threadCount assoc))) := by
  have both : (tabled assoc (blankThreads block (threadCount assoc))).inboundThreads ++
      (tabled assoc (blankThreads block (threadCount assoc))).outboundThreads =
        blankThreads block (threadCount assoc) := by
    rw [inbound_tabled, outbound_tabled, List.take_append_drop]
  constructor
  case mis =>
    rw [inbound_tabled, List.length_take, length_blankThreads, threadCount]
    omega
  case os =>
    rw [outbound_tabled, List.length_drop, length_blankThreads, threadCount]
    omega
  case distinct =>
    rw [both, blocks_blankThreads]
    exact distinct
  case blank =>
    rw [both]
    intro thread member
    obtain ⟨i, -, rfl⟩ := List.mem_map.mp member
    rfl
  case others => rfl

/-- A cleared record has the id 0, so only the first one of a table has the right one. -/
theorem blank_ids_iff (threads : List (Nat × SctpThread))
    (blank : ∀ thread ∈ threads, thread.2 = SctpThread.zero) (short : threads.length < 65536) :
    (∀ i < threads.length, threads[i]?.map (fun thread => thread.2.id) = some (UInt16.ofNat i)) ↔
      threads.length ≤ 1 := by
  constructor
  · intro ids
    by_contra many
    have second := ids 1 (by omega)
    rw [List.getElem?_eq_getElem (by omega), Option.map_some, blank _ (List.getElem_mem _)] at second
    cases second
  · intro single i low
    have first : i = 0 := by omega
    subst first
    rw [List.getElem?_eq_getElem low, Option.map_some, blank _ (List.getElem_mem _)]
    rfl

theorem ids_tabled_iff :
    IdsByIndex (tabled assoc (blankThreads block (threadCount assoc))) ↔
      (ntohs assoc.mis).toNat ≤ 1 ∧ (ntohs assoc.os).toNat ≤ 1 := by
  have blank : ∀ thread ∈ blankThreads block (threadCount assoc), thread.2 = SctpThread.zero := by
    intro thread member
    obtain ⟨i, -, rfl⟩ := List.mem_map.mp member
    rfl
  have mis : ((blankThreads block (threadCount assoc)).take (ntohs assoc.mis).toNat).length =
      (ntohs assoc.mis).toNat := by
    rw [List.length_take, length_blankThreads, threadCount]
    omega
  have os : ((blankThreads block (threadCount assoc)).drop (ntohs assoc.mis).toNat).length =
      (ntohs assoc.os).toNat := by
    rw [List.length_drop, length_blankThreads, threadCount]
    omega
  have first := blank_ids_iff ((blankThreads block (threadCount assoc)).take (ntohs assoc.mis).toNat)
    (fun thread member => blank thread (List.mem_of_mem_take member))
    (by rw [mis]; exact (ntohs assoc.mis).toNat_lt)
  have second := blank_ids_iff ((blankThreads block (threadCount assoc)).drop (ntohs assoc.mis).toNat)
    (fun thread member => blank thread (List.mem_of_mem_drop member))
    (by rw [os]; exact (ntohs assoc.os).toNat_lt)
  rw [mis] at first
  rw [os] at second
  rw [← first, ← second]
  constructor
  · intro ids
    have inbound := ids.mis
    have outbound := ids.os
    rw [inbound_tabled, mis] at inbound
    rw [outbound_tabled, os] at outbound
    exact ⟨inbound, outbound⟩
  · rintro ⟨inbound, outbound⟩
    constructor
    · rw [inbound_tabled, mis]
      exact inbound
    · rw [outbound_tabled, os]
      exact outbound

end Tables

/-- Where all allocations succeed the tables are split as the association says, with records that are
blank; their ids are right exactly if there is no more than one stream each way. Where one fails,
everything before it is freed once and the association is as it was. Up to the first failure, blocks
that are all in use have different addresses. -/
theorem stream_tables_iff (alloc : Nat → Option Nat) (held : Nat → SctpThread)
    (assoc : SctpAssociation)
    (fresh : ∀ i j, i < j → j ≤ threadCount assoc → (∀ l ≤ j, alloc l ≠ none) → alloc i ≠ alloc j) :
    ((∀ i ≤ threadCount assoc, alloc i ≠ none) →
      ∃ assoc', prepareSctpThreadsFreeing alloc held assoc = (0, assoc', []) ∧
        TablesSplit assoc assoc' ∧
        (IdsByIndex assoc' ↔ (ntohs assoc.mis).toNat ≤ 1 ∧ (ntohs assoc.os).toNat ≤ 1)) ∧
    ((∃ i ≤ threadCount assoc, alloc i = none) →
      ∃ freed, prepareSctpThreadsFreeing alloc held assoc = (-1, assoc, freed) ∧ freed.Nodup ∧
        ∃ f ≤ threadCount assoc, alloc f = none ∧ (∀ i < f, alloc i ≠ none) ∧
          freed.Perm ((List.range f).filterMap alloc)) := by
  have apart {f : Nat} {block : Nat → Nat} (inside : f ≤ threadCount assoc + 1)
      (given : ∀ i < f, alloc i = some (block i)) : ((List.range f).map block).Nodup := by
    refine List.Nodup.map_on ?_ List.nodup_range
    intro i low j low' same
    rw [List.mem_range] at low low'
    have equal : alloc i = alloc j := by rw [given i low, given j low', same]
    have present (l : Nat) (below : l < f) : alloc l ≠ none := by
      rw [given l below]
      exact Option.some_ne_none _
    rcases Nat.lt_trichotomy i j with before | done | behind
    · exact absurd equal (fresh i j before (by omega) fun l le => present l (by omega))
    · exact done
    · exact absurd equal.symm (fresh j i behind (by omega) fun l le => present l (by omega))
  rcases first_failure alloc (threadCount assoc) with ⟨block, given⟩ | ⟨f, inside, block, failed, given⟩
  · refine ⟨fun _ => ⟨_, prepare_ok held given, tabled_split assoc _ ?_, ids_tabled_iff assoc _⟩, ?_⟩
    · have all := apart (Nat.le_refl _) fun i low => given i (by omega)
      rw [List.range_succ_eq_map, List.map_cons, List.nodup_cons, List.map_map] at all
      exact all.2
    · rintro ⟨i, low, missing⟩
      rw [given i low] at missing
      cases missing
  · refine ⟨fun all => absurd failed (all f inside), fun _ => ?_⟩
    obtain ⟨freed, stopped, perm⟩ := prepare_failed held inside failed given
    have taken : (List.range f).filterMap alloc = (List.range f).map block := by
      rw [← List.filterMap_eq_map]
      apply List.filterMap_congr
      intro i member
      exact given i (List.mem_range.mp member)
    refine ⟨freed, stopped, perm.nodup_iff.mpr (apart (by omega) given), f, inside, failed, ?_, ?_⟩
    · intro i before
      rw [given i before]
      exact Option.some_ne_none _
    · rw [taken]
      exact perm

/-- One stream each way, in blocks that are counted up. -/
theorem stream_tables_iff_single :
    ∃ assoc', prepareSctpThreadsFreeing some (fun _ => SctpThread.zero)
        { createdClient.assoc with mis := htons 1, os := htons 1 } = (0, assoc', []) ∧
      IdsByIndex assoc' := by
  have judged := stream_tables_iff some (fun _ => SctpThread.zero)
    { createdClient.assoc with mis := htons 1, os := htons 1 }
    (fun i j before _ _ same => by rw [Option.some_inj] at same; omega)
  obtain ⟨assoc', prepared, -, ids⟩ := judged.1 fun i _ => Option.some_ne_none i
  exact ⟨assoc', prepared, ids.mpr (by decide)⟩

/-- Of two inbound streams the second one has the id 0. -/
theorem stream_ids_lost :
    ∃ assoc', prepareSctpThreadsFreeing some (fun _ => SctpThread.zero)
        { createdClient.assoc with mis := htons 2, os := htons 1 } = (0, assoc', []) ∧
      assoc'.inboundThreads.map (fun thread => thread.2.id) = [0, 0] ∧ ¬IdsByIndex assoc' := by
  refine ⟨_, rfl, by decide, ?_⟩
  intro ids
  exact absurd (ids.mis 1 (by decide)) (by decide)

end Kpnet.Sctp
