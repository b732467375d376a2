import Mathlib.Tactic

/-!
# Runs of logged machines

A machine takes an input in a state, may be stuck, and logs events. Its runs on a list
of inputs, the condition that every step of a run is taken from a state meeting it, and
the induction rule on both.
-/
namespace Runs

variable {σ ι ε : Type}

def run (act : σ → ι → Option (σ × List ε)) (s : σ) : List ι → Option (σ × List ε)
  | [] => some (s, [])
  | i :: is =>
    match act s i with
    | none => none
    | some (s, ev) =>
      match run act s is with
      | none => none
      | some (s, log) => some (s, ev ++ log)

/-- Every input of the list is taken in a state where the condition allows it. -/
def Along (act : σ → ι → Option (σ × List ε)) (cond : σ → ι → Prop) : σ → List ι → Prop
  | _, [] => True
  | s, i :: is => cond s i ∧ ∀ s' ev, act s i = some (s', ev) → Along act cond s' is

instance decidableAlong (act : σ → ι → Option (σ × List ε)) (cond : σ → ι → Prop)
    [∀ s i, Decidable (cond s i)] : (s : σ) → (is : List ι) → Decidable (Along act cond s is)
  | _, [] => isTrue trivial
  | s, i :: is =>
    match stepped : act s i with
    | none => decidable_of_iff (cond s i) (by simp [Along, stepped])
    | some (s', ev) =>
      have := decidableAlong act cond s' is
      decidable_of_iff (cond s i ∧ Along act cond s' is) (by simp [Along, stepped])

/-- A run that goes through, by its first step. -/
theorem run_cons_eq_some {act : σ → ι → Option (σ × List ε)} {s after : σ} {i : ι} {is : List ι}
    {log : List ε} (ran : run act s (i :: is) = some (after, log)) :
    ∃ mid ev rest, act s i = some (mid, ev) ∧ run act mid is = some (after, rest) ∧
      log = ev ++ rest := by
  simp only [run] at ran
  split at ran
  · cases ran
  next mid ev stepped =>
    split at ran
    · cases ran
    next last rest ran' =>
      cases ran
      exact ⟨mid, ev, rest, stepped, ran', rfl⟩

theorem run_concat (act : σ → ι → Option (σ × List ε)) (s after : σ) (is : List ι) (i : ι)
    (log : List ε) (ran : run act s (is ++ [i]) = some (after, log)) :
    ∃ mid before ev, run act s is = some (mid, before) ∧ act mid i = some (after, ev) ∧
      log = before ++ ev := by
  induction is generalizing s log with
  | nil =>
    obtain ⟨mid, ev, rest, stepped, ended, rfl⟩ := run_cons_eq_some ran
    cases ended
    exact ⟨s, [], ev, rfl, stepped, List.append_nil ev⟩
  | cons j is ih =>
    obtain ⟨next, ev, tail, stepped, rest, rfl⟩ := run_cons_eq_some ran
    obtain ⟨mid, before, ev', ran', stepped', rfl⟩ := ih next tail rest
    exact ⟨mid, ev ++ before, ev', by simp only [run, stepped, ran'], stepped',
      (List.append_assoc ev before ev').symm⟩

theorem along_concat (act : σ → ι → Option (σ × List ε)) (cond : σ → ι → Prop) (s : σ)
    (is : List ι) (i : ι) (along : Along act cond s (is ++ [i])) :
    Along act cond s is ∧ ∀ mid log, run act s is = some (mid, log) → cond mid i := by
  induction is generalizing s with
  | nil =>
    refine ⟨trivial, ?_⟩
    intro mid log ran
    cases ran
    exact along.1
  | cons j is ih =>
    refine ⟨⟨along.1, fun s' ev stepped => (ih s' (along.2 s' ev stepped)).1⟩, ?_⟩
    intro mid log ran
    obtain ⟨next, ev, tail, stepped, rest, -⟩ := run_cons_eq_some ran
    exact (ih next (along.2 next ev stepped)).2 mid tail rest

/-- A run goes on where the one before has ended. -/
theorem run_append {act : σ → ι → Option (σ × List ε)} {s mid after : σ} {is js : List ι}
    {log log' : List ε} (ran : run act s is = some (mid, log))
    (goes : run act mid js = some (after, log')) :
    run act s (is ++ js) = some (after, log ++ log') := by
  induction is generalizing s log with
  | nil =>
    cases ran
    exact goes
  | cons i is ih =>
    obtain ⟨next, ev, tail, stepped, rest, rfl⟩ := run_cons_eq_some ran
    simp only [List.cons_append, run, stepped, ih rest, List.append_assoc]

theorem Along.append {act : σ → ι → Option (σ × List ε)} {cond : σ → ι → Prop} {s mid : σ}
    {is js : List ι} {log : List ε} (along : Along act cond s is)
    (ran : run act s is = some (mid, log)) (goes : Along act cond mid js) :
    Along act cond s (is ++ js) := by
  induction is generalizing s log with
  | nil =>
    cases ran
    exact goes
  | cons i is ih =>
    obtain ⟨next, ev, tail, stepped, rest, -⟩ := run_cons_eq_some ran
    refine ⟨along.1, ?_⟩
    intro s' ev' stepped'
    rw [stepped] at stepped'
    cases stepped'
    exact ih (along.2 next ev stepped) rest

/-- Induction on a run whose every step meets a condition, newest step last. -/
theorem run_induction (act : σ → ι → Option (σ × List ε)) (cond : σ → ι → Prop) (s : σ)
    (motive : List ι → σ → List ε → Prop) (start : motive [] s [])
    (step : ∀ is i mid log after ev, run act s is = some (mid, log) → motive is mid log →
      cond mid i → act mid i = some (after, ev) → motive (is ++ [i]) after (log ++ ev))
    (is : List ι) (after : σ) (log : List ε) (ran : run act s is = some (after, log))
    (along : Along act cond s is) : motive is after log := by
  induction is using List.reverseRecOn generalizing after log with
  | nil =>
    cases ran
    exact start
  | append_singleton is i ih =>
    obtain ⟨mid, before, ev, ran', stepped, rfl⟩ := run_concat act s after is i log ran
    obtain ⟨along', allowed⟩ := along_concat act cond s is i along
    exact step is i mid before after ev ran' (ih mid before ran' along')
      (allowed mid before ran') stepped

/-- Two machines that answer each allowed input alike from related states answer alike on
every run along which the inputs are allowed. -/
theorem run_simulates {σ' : Type} (act : σ → ι → Option (σ × List ε))
    (act' : σ' → ι → Option (σ' × List ε)) (cond : σ' → ι → Prop) (rel : σ → σ' → Prop)
    (step : ∀ s s' i, rel s s' → cond s' i → ∃ after after' ev,
      act s i = some (after, ev) ∧ act' s' i = some (after', ev) ∧ rel after after')
    (is : List ι) (s : σ) (s' : σ') (start : rel s s') (along : Along act' cond s' is) :
    ∃ after after' log, run act s is = some (after, log) ∧
      run act' s' is = some (after', log) ∧ rel after after' := by
  induction is generalizing s s' with
  | nil => exact ⟨s, s', [], rfl, rfl, start⟩
  | cons i is ih =>
    obtain ⟨mid, mid', ev, stepped, stepped', related⟩ := step s s' i start along.1
    obtain ⟨after, after', log, ran, ran', final⟩ := ih mid mid' related (along.2 mid' ev stepped')
    exact ⟨after, after', ev ++ log, by simp only [run, stepped, ran],
      by simp only [run, stepped', ran'], final⟩

/-- A machine that is never stuck where the condition holds is not stuck along a run. -/
theorem run_ne_none (act : σ → ι → Option (σ × List ε)) (cond : σ → ι → Prop)
    (step : ∀ s i, cond s i → act s i ≠ none) (is : List ι) (s : σ)
    (along : Along act cond s is) : run act s is ≠ none := by
  induction is generalizing s with
  | nil => exact Option.some_ne_none _
  | cons i is ih =>
    rw [run]
    split
    next stuck => exact absurd stuck (step s i along.1)
    next mid ev stepped =>
      split
      next stuck => exact absurd stuck (ih mid (along.2 mid ev stepped))
      · exact Option.some_ne_none _

/-- A machine that returns to an invariant wherever the condition allows a step runs through. -/
theorem run_returns (act : σ → ι → Option (σ × List ε)) (cond : σ → ι → Prop) (inv : σ → Prop)
    (step : ∀ s i, inv s → cond s i → ∃ s' ev, act s i = some (s', ev) ∧ inv s')
    (is : List ι) (s : σ) (start : inv s) (along : Along act cond s is) :
    ∃ after log, run act s is = some (after, log) ∧ inv after := by
  induction is generalizing s with
  | nil => exact ⟨s, [], rfl, start⟩
  | cons i is ih =>
    obtain ⟨mid, ev, stepped, held⟩ := step s i start along.1
    obtain ⟨after, log, ran, final⟩ := ih mid held (along.2 mid ev stepped)
    exact ⟨after, ev ++ log, by simp only [run, stepped, ran], final⟩

/-- A judgement of logs, made with what the log before has left behind. Where it is right about
the log of every step exactly if the condition allows the step, it is right about whole runs. -/
theorem judged_log_iff_along {γ : Type} (act : σ → ι → Option (σ × List ε)) (cond : σ → ι → Prop)
    (inv : σ → γ → Prop) (leaves : γ → List ε → γ) (good : γ → List ε → Prop)
    (nothing : ∀ g, good g [])
    (append : ∀ g ev log, good g (ev ++ log) ↔ good g ev ∧ good (leaves g ev) log)
    (step : ∀ s g i s' ev, inv s g → act s i = some (s', ev) →
      (cond s i → inv s' (leaves g ev)) ∧ (good g ev ↔ cond s i))
    (is : List ι) (s after : σ) (g : γ) (log : List ε) (start : inv s g)
    (ran : run act s is = some (after, log)) :
    good g log ↔ Along act cond s is := by
  induction is generalizing s g log with
  | nil =>
    cases ran
    exact iff_of_true (nothing g) trivial
  | cons i is ih =>
    obtain ⟨mid, ev, tail, stepped, rest, rfl⟩ := run_cons_eq_some ran
    obtain ⟨kept, first⟩ := step s g i mid ev start stepped
    -- the step is a function, so the rest of the run starts from `mid` only
    have next : (∀ s' ev', act s i = some (s', ev') → Along act cond s' is) ↔
        Along act cond mid is := by
      simp [stepped]
    rw [append, first, Along, next]
    -- behind a step that is not allowed nothing counts any more
    exact and_congr_right fun allowed => ih mid (leaves g ev) tail (kept allowed) rest

/-- Where single steps log good events exactly if the condition allows them, whole runs do. -/
theorem forall_log_iff_along (act : σ → ι → Option (σ × List ε)) (cond : σ → ι → Prop)
    (inv : σ → Prop) (good : ε → Prop)
    (keeps : ∀ s i s' ev, inv s → cond s i → act s i = some (s', ev) → inv s')
    (step : ∀ s i s' ev, inv s → act s i = some (s', ev) → ((∀ e ∈ ev, good e) ↔ cond s i))
    (is : List ι) (s after : σ) (log : List ε) (start : inv s)
    (ran : run act s is = some (after, log)) :
    (∀ e ∈ log, good e) ↔ Along act cond s is := by
  -- each event is judged by itself, so nothing needs to be left behind
  refine judged_log_iff_along act cond (fun s (_ : Unit) => inv s) (fun _ _ => ())
    (fun _ log => ∀ e ∈ log, good e) ?_ ?_ ?_ is s after () log start ran
  · intro _ e member
    cases member
  · intro _ ev log
    simp only [List.mem_append, or_imp, forall_and]
  · intro s _ i s' ev held stepped
    exact ⟨fun allowed => keeps s i s' ev held allowed stepped, step s i s' ev held stepped⟩

theorem Along.of_prefix {act : σ → ι → Option (σ × List ε)} {cond : σ → ι → Prop} {s : σ}
    {is is' : List ι} (along : Along act cond s is) (initial : is' <+: is) :
    Along act cond s is' := by
  induction is' generalizing s is with
  | nil => trivial
  | cons i is' ih =>
    obtain ⟨rest, rfl⟩ := initial
    exact ⟨along.1, fun s' ev stepped => ih (along.2 s' ev stepped) ⟨rest, rfl⟩⟩

/-- A run that goes through takes each of its inputs in the state it has come to. -/
theorem step_of_run {act : σ → ι → Option (σ × List ε)} {s after mid : σ} {is before : List ι} {i : ι}
    {log sofar : List ε} (ran : run act s is = some (after, log)) (initial : before ++ [i] <+: is)
    (reached : run act s before = some (mid, sofar)) : ∃ next ev, act mid i = some (next, ev) := by
  induction before generalizing s is log sofar with
  | nil =>
    obtain ⟨rest, rfl⟩ := initial
    cases reached
    obtain ⟨next, ev, -, stepped, -⟩ := run_cons_eq_some ran
    exact ⟨next, ev, stepped⟩
  | cons j before ih =>
    obtain ⟨rest, rfl⟩ := initial
    obtain ⟨second, ev, tail, stepped, remains, -⟩ := run_cons_eq_some ran
    obtain ⟨second', ev', tail', stepped', reached', -⟩ := run_cons_eq_some reached
    rw [stepped] at stepped'
    cases stepped'
    exact ih remains ⟨rest, rfl⟩ reached'

/-- Where a step leads to a good state exactly if the condition allows it, all states that a run
passes through are good exactly if all its steps are allowed. -/
theorem forall_reached_iff_along (act : σ → ι → Option (σ × List ε)) (cond : σ → ι → Prop)
    (inv good : σ → Prop) (good_of_inv : ∀ s, inv s → good s)
    (step : ∀ s i s' ev, inv s → act s i = some (s', ev) →
      (cond s i → inv s') ∧ (good s' → cond s i))
    (is : List ι) (s after : σ) (log : List ε) (start : inv s)
    (ran : run act s is = some (after, log)) :
    (∀ is' s' log', is' <+: is → run act s is' = some (s', log') → good s') ↔
      Along act cond s is := by
  induction is generalizing s log with
  | nil =>
    refine iff_of_true ?_ trivial
    intro is' s' log' initial ran'
    rw [List.prefix_nil.mp initial] at ran'
    cases ran'
    exact good_of_inv s start
  | cons i is ih =>
    obtain ⟨mid, ev, rest, stepped, remains, rfl⟩ := run_cons_eq_some ran
    obtain ⟨kept, allowed⟩ := step s i mid ev start stepped
    constructor
    · intro reached
      have first : run act s [i] = some (mid, ev) := by
        simp only [run, stepped, List.append_nil]
      have holds := allowed (reached [i] mid ev (by simp) first)
      refine ⟨holds, ?_⟩
      intro s' ev' stepped'
      rw [stepped] at stepped'
      cases stepped'
      -- what is reached from the middle is reached from the start
      refine (ih mid rest (kept holds) remains).mp ?_
      intro is' s' log' initial ran'
      refine reached (i :: is') s' (ev ++ log') (List.cons_prefix_cons.mpr ⟨rfl, initial⟩) ?_
      simp only [run, stepped, ran']
    · intro along is' s' log' initial ran'
      cases is' with
      | nil =>
        cases ran'
        exact good_of_inv s start
      | cons j is' =>
        obtain ⟨rfl, shorter⟩ := List.cons_prefix_cons.mp initial
        obtain ⟨mid', ev', rest', stepped', ran', -⟩ := run_cons_eq_some ran'
        rw [stepped] at stepped'
        cases stepped'
        exact (ih mid rest (kept along.1) remains).mpr (along.2 mid ev stepped) is' s' rest' shorter
          ran'

/-- A condition holds along a run if it holds of every input in the state the run has come to. -/
theorem along_iff_forall_initial (act : σ → ι → Option (σ × List ε)) (cond : σ → ι → Prop)
    (is : List ι) (s : σ) :
    Along act cond s is ↔ ∀ before i mid log, before ++ [i] <+: is →
      run act s before = some (mid, log) → cond mid i := by
  induction is generalizing s with
  | nil =>
    refine iff_of_true trivial ?_
    intro before i mid log initial
    simp at initial
  | cons j is ih =>
    constructor
    · intro along before i mid log initial ran
      exact (along_concat act cond s before i (along.of_prefix initial)).2 mid log ran
    · intro holds
      refine ⟨holds [] j s [] (by simp) rfl, ?_⟩
      intro s' ev stepped
      -- what is reached from the second state is reached from the first
      refine (ih s').mpr fun before i mid log initial ran =>
        holds (j :: before) i mid (ev ++ log) (List.cons_prefix_cons.mpr ⟨rfl, initial⟩) ?_
      simp only [run, stepped, ran]

/-- Conditions that say the same of the inputs of a run wherever an invariant holds say the same
along the run. -/
theorem along_congr (act : σ → ι → Option (σ × List ε)) (cond cond' : σ → ι → Prop) (inv : σ → Prop)
    (is : List ι) (s : σ) (start : inv s)
    (keeps : ∀ i ∈ is, ∀ s s' ev, inv s → act s i = some (s', ev) → inv s')
    (same : ∀ i ∈ is, ∀ s, inv s → (cond s i ↔ cond' s i)) :
    Along act cond s is ↔ Along act cond' s is := by
  induction is generalizing s with
  | nil => exact Iff.rfl
  | cons i is ih =>
    refine and_congr (same i List.mem_cons_self s start) ?_
    refine forall_congr' fun s' => forall_congr' fun ev => forall_congr' fun stepped => ?_
    exact ih s' (keeps i List.mem_cons_self s s' ev start stepped)
      (fun j member => keeps j (List.mem_cons_of_mem i member))
      (fun j member => same j (List.mem_cons_of_mem i member))

theorem along_of_forall (act : σ → ι → Option (σ × List ε)) (cond : ι → Prop) (s : σ)
    (is : List ι) (all : ∀ i ∈ is, cond i) : Along act (fun _ => cond) s is := by
  induction is generalizing s with
  | nil => trivial
  | cons i is ih =>
    rw [List.forall_mem_cons] at all
    exact ⟨all.1, fun s' _ _ => ih s' all.2⟩

theorem along_true (act : σ → ι → Option (σ × List ε)) (s : σ) (is : List ι) :
    Along act (fun _ _ => True) s is := by
  induction is generalizing s with
  | nil => trivial
  | cons i is ih => exact ⟨trivial, fun s' _ _ => ih s'⟩

end Runs
