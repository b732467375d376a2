import Kpnet.Lib.Runs
import Kpnet.Ring.Refinement

/-!
# Threads on the ring

The same two functions, cut into their atomic steps and run by any number of threads
under any sequentially consistent schedule. A step of a thread is one shared access:
the load of a counter, the load of a sequence number, the weak compare-and-swap, the
stores of packet and length, the releasing store of the sequence number.
-/
namespace Kpnet.Ring

variable {α τ : Type}

/-- A call of `push_ringbuf` with its arguments, or of `pop_ringbuf`. -/
inductive RingCall (α : Type) where
  | push (packet : Option α) (plen : UInt64)
  | pop
  deriving DecidableEq, Repr

namespace RingCall

/-- How far ahead of the position a ready cell's sequence number is. -/
def lead : RingCall α → UInt64
  | .push _ _ => 0
  | .pop => 1

/-- The counter the call competes for. -/
def counter (rb : Ringbuf α) : RingCall α → UInt64
  | .push _ _ => rb.head
  | .pop => rb.tail

end RingCall

/-- Where a thread stands: the next shared access it makes and its local variables. -/
inductive Pc (α : Type) where
  | idle
  | load (call : RingCall α)
  | test (call : RingCall α) (pos : UInt64)
  | cas (call : RingCall α) (pos : UInt64)
  | writePacket (packet : Option α) (plen pos : UInt64)
  | writePlen (packet : Option α) (plen pos : UInt64)
  | publish (packet : Option α) (plen pos : UInt64)
  | release (pos : UInt64)
  deriving DecidableEq, Repr

/-- The observable outcomes of steps: a successful exchange, the two releasing stores,
and the return of -1 or `NULL`. -/
inductive Event (α τ : Type) where
  | claimed (thread : τ) (call : RingCall α) (pos : UInt64)
  | published (thread : τ) (pos : UInt64)
  | released (thread : τ) (pos : UInt64)
  | refused (thread : τ) (call : RingCall α)
  deriving DecidableEq, Repr

/-- What the scheduler picks for a thread: a new call of an idle thread, or the next
access of a busy one, with the verdict of a weak exchange. -/
inductive Action (α : Type) where
  | call (c : RingCall α)
  | step (spurious : Bool)
  deriving DecidableEq, Repr

/-- The ring and the threads on it. -/
structure Sys (α τ : Type) where
  rb : Ringbuf α
  pc : τ → Pc α

namespace Sys

variable [DecidableEq τ]

def move (s : Sys α τ) (rb : Ringbuf α) (t : τ) (pc : Pc α) : Sys α τ :=
  { rb := rb, pc := Function.update s.pc t pc }

@[simp] theorem move_rb (s : Sys α τ) (rb : Ringbuf α) (t : τ) (pc : Pc α) :
    (s.move rb t pc).rb = rb := rfl

@[simp] theorem move_self (s : Sys α τ) (rb : Ringbuf α) (t : τ) (pc : Pc α) :
    (s.move rb t pc).pc t = pc := by
  simp only [move, Function.update_self]

theorem move_of_ne (s : Sys α τ) (rb : Ringbuf α) {t u : τ} (pc : Pc α) (other : u ≠ t) :
    (s.move rb t pc).pc u = s.pc u := by
  simp only [move, Function.update_of_ne other]

/-- What is read off a thread after a move is read off the moved thread's new program
counter or off an untouched one. -/
theorem move_cases {β : Type} (s : Sys α τ) (rb : Ringbuf α) {t u : τ} {pc : Pc α}
    (f : Pc α → Option β) {x : β} (seen : f ((s.move rb t pc).pc u) = some x) :
    u = t ∧ f pc = some x ∨ u ≠ t ∧ f (s.pc u) = some x := by
  by_cases same : u = t
  · subst same
    rw [move_self] at seen
    exact .inl ⟨rfl, seen⟩
  · rw [move_of_ne s rb pc same] at seen
    exact .inr ⟨same, seen⟩

/-- Claims stay exclusive when a thread drops its claim. -/
theorem move_unique_of_none {β : Type} (s : Sys α τ) (rb : Ringbuf α) {t : τ} {pc : Pc α}
    (f : Pc α → Option β) (dropped : f pc = none)
    (unique : ∀ u v x, f (s.pc u) = some x → f (s.pc v) = some x → u = v) :
    ∀ u v x, f ((s.move rb t pc).pc u) = some x → f ((s.move rb t pc).pc v) = some x →
      u = v := by
  intro u v x u_claims v_claims
  rcases s.move_cases rb f u_claims with ⟨-, claim⟩ | ⟨-, old⟩
  · rw [dropped] at claim
    cases claim
  · rcases s.move_cases rb f v_claims with ⟨-, claim⟩ | ⟨-, old'⟩
    · rw [dropped] at claim
      cases claim
    · exact unique u v x old old'

/-- Claims stay exclusive when a thread claims what no thread has. -/
theorem move_unique_of_fresh {β : Type} (s : Sys α τ) (rb : Ringbuf α) {t : τ} {pc : Pc α}
    (f : Pc α → Option β) {y : β} (claims : f pc = some y)
    (fresh : ∀ u, f (s.pc u) ≠ some y)
    (unique : ∀ u v x, f (s.pc u) = some x → f (s.pc v) = some x → u = v) :
    ∀ u v x, f ((s.move rb t pc).pc u) = some x → f ((s.move rb t pc).pc v) = some x →
      u = v := by
  intro u v x u_claims v_claims
  rcases s.move_cases rb f u_claims with ⟨u_self, claim⟩ | ⟨-, old⟩ <;>
    rcases s.move_cases rb f v_claims with ⟨v_self, claim'⟩ | ⟨-, old'⟩
  · rw [u_self, v_self]
  · rw [claims] at claim
    cases claim
    exact absurd old' (fresh v)
  · rw [claims] at claim'
    cases claim'
    exact absurd old (fresh u)
  · exact unique u v x old old'

/-- The next access of a busy thread. -/
def step (s : Sys α τ) (t : τ) (spurious : Bool) : Option (Sys α τ × List (Event α τ)) :=
  match s.pc t with
  | .idle => none
  | .load c => some (s.move s.rb t (.test c (c.counter s.rb)), [])
  | .test c pos =>
    let diff := ((s.rb.cells (s.rb.slot pos)).seq - (pos + c.lead)).toInt64
    if diff = 0 then some (s.move s.rb t (.cas c pos), [])
    -- a cell that is behind: the ring is full for a push, empty for a pop
    else if diff < 0 then some (s.move s.rb t .idle, [.refused t c])
    -- a cell that is ahead was taken since the counter was read
    else some (s.move s.rb t (.load c), [])
  | .cas (.push packet plen) pos =>
    if s.rb.head = pos ∧ spurious = false then
      some (s.move { s.rb with head := pos + 1 } t (.writePacket packet plen pos),
        [.claimed t (.push packet plen) pos])
    else some (s.move s.rb t (.load (.push packet plen)), [])
  | .cas .pop pos =>
    if s.rb.tail = pos ∧ spurious = false then
      some (s.move { s.rb with tail := pos + 1 } t (.release pos), [.claimed t .pop pos])
    else some (s.move s.rb t (.load .pop), [])
  | .writePacket packet plen pos =>
    some (s.move (s.rb.setCell (s.rb.slot pos) { s.rb.cells (s.rb.slot pos) with packet := packet }) t
      (.writePlen packet plen pos), [])
  | .writePlen packet plen pos =>
    some (s.move (s.rb.setCell (s.rb.slot pos) { s.rb.cells (s.rb.slot pos) with plen := plen }) t
      (.publish packet plen pos), [])
  | .publish _ _ pos =>
    some (s.move (s.rb.setCell (s.rb.slot pos) { s.rb.cells (s.rb.slot pos) with seq := pos + 1 }) t
      .idle, [.published t pos])
  | .release pos =>
    some (s.move (s.rb.setCell (s.rb.slot pos)
      { s.rb.cells (s.rb.slot pos) with seq := pos + s.rb.mask + 1 }) t .idle, [.released t pos])

def act (s : Sys α τ) (i : τ × Action α) : Option (Sys α τ × List (Event α τ)) :=
  match i.2 with
  | .call c =>
    match s.pc i.1 with
    | .idle => some (s.move s.rb i.1 (.load c), [])
    | _ => none
  | .step spurious => s.step i.1 spurious

/-- Everything a step can do, with what it has tested. -/
inductive Effect (s : Sys α τ) (t : τ) (a : Action α) : Sys α τ → List (Event α τ) → Prop
  | called (c : RingCall α) (at_pc : s.pc t = .idle) (chosen : a = .call c) :
      Effect s t a (s.move s.rb t (.load c)) []
  | loaded (c : RingCall α) (at_pc : s.pc t = .load c) :
      Effect s t a (s.move s.rb t (.test c (c.counter s.rb))) []
  | tested (c : RingCall α) (pos : UInt64) (at_pc : s.pc t = .test c pos)
      (ready : (s.rb.cells (s.rb.slot pos)).seq = pos + c.lead) :
      Effect s t a (s.move s.rb t (.cas c pos)) []
  | refused (c : RingCall α) (pos : UInt64) (at_pc : s.pc t = .test c pos) :
      Effect s t a (s.move s.rb t .idle) [.refused t c]
  | retried (c : RingCall α) (pos : UInt64) (at_pc : s.pc t = .test c pos ∨ s.pc t = .cas c pos) :
      Effect s t a (s.move s.rb t (.load c)) []
  | claimedPush (packet : Option α) (plen pos : UInt64)
      (at_pc : s.pc t = .cas (.push packet plen) pos) (current : s.rb.head = pos)
      (strong : a = .step false) :
      Effect s t a (s.move { s.rb with head := pos + 1 } t (.writePacket packet plen pos))
        [.claimed t (.push packet plen) pos]
  | claimedPop (pos : UInt64) (at_pc : s.pc t = .cas .pop pos) (current : s.rb.tail = pos)
      (strong : a = .step false) :
      Effect s t a (s.move { s.rb with tail := pos + 1 } t (.release pos)) [.claimed t .pop pos]
  | wrotePacket (packet : Option α) (plen pos : UInt64)
      (at_pc : s.pc t = .writePacket packet plen pos) :
      Effect s t a (s.move (s.rb.setCell (s.rb.slot pos)
        { s.rb.cells (s.rb.slot pos) with packet := packet }) t (.writePlen packet plen pos)) []
  | wrotePlen (packet : Option α) (plen pos : UInt64)
      (at_pc : s.pc t = .writePlen packet plen pos) :
      Effect s t a (s.move (s.rb.setCell (s.rb.slot pos)
        { s.rb.cells (s.rb.slot pos) with plen := plen }) t (.publish packet plen pos)) []
  | published (packet : Option α) (plen pos : UInt64)
      (at_pc : s.pc t = .publish packet plen pos) :
      Effect s t a (s.move (s.rb.setCell (s.rb.slot pos)
        { s.rb.cells (s.rb.slot pos) with seq := pos + 1 }) t .idle) [.published t pos]
  | released (pos : UInt64) (at_pc : s.pc t = .release pos) :
      Effect s t a (s.move (s.rb.setCell (s.rb.slot pos)
        { s.rb.cells (s.rb.slot pos) with seq := pos + s.rb.mask + 1 }) t .idle) [.released t pos]

theorem step_effect (s s' : Sys α τ) (t : τ) (spurious : Bool) (ev : List (Event α τ))
    (stepped : s.step t spurious = some (s', ev)) : Effect s t (.step spurious) s' ev := by
  -- one case for each program counter, and within it one for each outcome of its test
  unfold step at stepped
  split at stepped
  · cases stepped
  next c at_pc =>
    cases stepped
    exact .loaded c at_pc
  next c pos at_pc =>
    dsimp only at stepped
    split at stepped
    next zero =>
      cases stepped
      exact .tested c pos at_pc ((Counter.toInt64_sub_eq_zero _ _).mp zero)
    · split at stepped
      · cases stepped
        exact .refused c pos at_pc
      · cases stepped
        exact .retried c pos (.inl at_pc)
  next packet plen pos at_pc =>
    split at stepped
    next current =>
      cases stepped
      exact .claimedPush packet plen pos at_pc current.1 (by rw [current.2])
    · cases stepped
      exact .retried _ pos (.inr at_pc)
  next pos at_pc =>
    split at stepped
    next current =>
      cases stepped
      exact .claimedPop pos at_pc current.1 (by rw [current.2])
    · cases stepped
      exact .retried _ pos (.inr at_pc)
  next packet plen pos at_pc =>
    cases stepped
    exact .wrotePacket packet plen pos at_pc
  next packet plen pos at_pc =>
    cases stepped
    exact .wrotePlen packet plen pos at_pc
  next packet plen pos at_pc =>
    cases stepped
    exact .published packet plen pos at_pc
  next pos at_pc =>
    cases stepped
    exact .released pos at_pc

/-- A call is made by an idle thread and starts with the load of the counter. -/
theorem act_call (s s' : Sys α τ) (t : τ) (c : RingCall α) (ev : List (Event α τ))
    (acted : s.act (t, .call c) = some (s', ev)) :
    s.pc t = .idle ∧ s' = s.move s.rb t (.load c) ∧ ev = [] := by
  simp only [act] at acted
  split at acted
  next at_pc =>
    cases acted
    exact ⟨at_pc, rfl, rfl⟩
  · cases acted

theorem act_effect (s s' : Sys α τ) (i : τ × Action α) (ev : List (Event α τ))
    (acted : s.act i = some (s', ev)) : Effect s i.1 i.2 s' ev := by
  unfold act at acted
  split at acted
  next c chosen =>
    split at acted
    next at_pc =>
      cases acted
      exact .called c at_pc chosen
    · cases acted
  next spurious chosen =>
    rw [chosen]
    exact step_effect s s' i.1 spurious ev acted

end Sys

end Kpnet.Ring
