import Mathlib.Tactic

/-!
# Bounded FIFO queues

The abstract queue of a fixed capacity, its replies, and the rule that lifts a
call-by-call simulation to runs of any length.
-/
namespace BoundedQueue

variable {β σ ι : Type}

inductive Call (β : Type) where
  | push (x : β)
  | pop
  deriving DecidableEq, Repr

inductive Reply (β : Type) where
  | accepted
  | rejected
  | popped (x : β)
  | empty
  deriving DecidableEq, Repr

def apply (cap : Nat) (q : List β) : Call β → Reply β × List β
  | .push x => if q.length < cap then (.accepted, q ++ [x]) else (.rejected, q)
  | .pop =>
    match q with
    | [] => (.empty, [])
    | x :: rest => (.popped x, rest)

def run (cap : Nat) (q : List β) : List (Call β) → List (Reply β) × List β
  | [] => ([], q)
  | c :: cs =>
    let (reply, q) := apply cap q c
    let (replies, q) := run cap q cs
    (reply :: replies, q)

/-- Runs of a possibly diverging implementation, call by call. -/
def runWith (exec : σ → ι → Option (Reply β × σ)) (s : σ) :
    List ι → Option (List (Reply β) × σ)
  | [] => some ([], s)
  | i :: is =>
    match exec s i with
    | none => none
    | some (reply, s) =>
      match runWith exec s is with
      | none => none
      | some (replies, s) => some (reply :: replies, s)

/-- An implementation that answers each call as the abstract queue does, under an
invariant it keeps, answers every run as the abstract queue does. -/
theorem runWith_simulates (cap : Nat) (exec : σ → ι → Option (Reply β × σ)) (call : ι → Call β)
    (view : σ → List β) (inv : σ → Prop) (ok : ι → Prop)
    (simulates : ∀ s i, inv s → ok i → ∃ after,
      exec s i = some ((apply cap (view s) (call i)).1, after) ∧
      view after = (apply cap (view s) (call i)).2 ∧ inv after)
    (s : σ) (holds : inv s) (is : List ι) (allowed : ∀ i ∈ is, ok i) :
    ∃ after, runWith exec s is = some ((run cap (view s) (is.map call)).1, after) ∧
      view after = (run cap (view s) (is.map call)).2 ∧ inv after := by
  induction is generalizing s with
  | nil => exact ⟨s, rfl, rfl, holds⟩
  | cons i is ih =>
    obtain ⟨next, stepped, viewed, kept⟩ :=
      simulates s i holds (allowed i List.mem_cons_self)
    obtain ⟨after, ran, seen, final⟩ :=
      ih next kept (fun j member => allowed j (List.mem_cons_of_mem i member))
    refine ⟨after, ?_, ?_, final⟩
    · simp only [runWith, stepped, ran, List.map_cons, run, viewed]
    · simp only [List.map_cons, run, seen, viewed]

/-- What went in, in a run with these replies. -/
def pushed : List (Call β) → List (Reply β) → List β
  | .push x :: calls, .accepted :: replies => x :: pushed calls replies
  | _ :: calls, _ :: replies => pushed calls replies
  | _, _ => []

/-- How many entries came out. -/
def popped : List (Reply β) → Nat
  | .popped _ :: replies => popped replies + 1
  | _ :: replies => popped replies
  | [] => 0

theorem pushed_cons (c : Call β) (reply : Reply β) (calls : List (Call β)) (replies : List (Reply β)) :
    pushed (c :: calls) (reply :: replies) = pushed [c] [reply] ++ pushed calls replies := by
  cases c with
  | push x =>
    cases reply with
    | accepted => rfl
    | rejected => rfl
    | popped y => rfl
    | empty => rfl
  | pop => rfl

theorem popped_cons (reply : Reply β) (replies : List (Reply β)) :
    popped (reply :: replies) = popped [reply] + popped replies := by
  cases reply with
  | accepted => exact (Nat.zero_add _).symm
  | rejected => exact (Nat.zero_add _).symm
  | popped x => exact Nat.add_comm _ _
  | empty => exact (Nat.zero_add _).symm

end BoundedQueue
