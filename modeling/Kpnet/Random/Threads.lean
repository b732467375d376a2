import Kpnet.Random.Pool

/-!
# Threads on the pool

The same functions, cut into their accesses to `random_buffer_head` and to the buffer and run by any
number of threads. The head is atomic, but the load in the size test, the load that forms the
address and the `+=` are three accesses, and `generate_random_buffer` stores 0 before the buffer is
filled. As long as an address is formed and passed by in one go, with enough left behind it, and the
head is not stored to under a thread that still has to read, no byte comes twice.
-/
namespace Kpnet.Random

open Bytes Runs

/-- Which of the three functions is called. -/
inductive Width where
  | u16
  | u32
  | u64
  deriving DecidableEq, Repr

def Width.size : Width → UInt64
  | .u16 => 2
  | .u32 => 4
  | .u64 => 8

/-- The next access of a thread: in the size test, to form `buf`, to pass it by with `+=`, through
`buf`, and the store and the fill of `generate_random_buffer`. -/
inductive Pc where
  | idle
  | test (w : Width)
  | address (w : Width)
  | advance (w : Width) (buf : UInt32)
  | read (w : Width) (buf : UInt32)
  | reset (w : Width)
  | fill (w : Width)
  deriving DecidableEq, Repr

/-- The place and size of what a thread has formed an address for and not read yet. -/
def Pc.held : Pc → Option (Nat × Nat)
  | .advance w buf => some (buf.toNat, w.size.toNat)
  | .read w buf => some (buf.toNat, w.size.toNat)
  | _ => none

/-- The address is formed next. -/
def Pc.forming : Pc → Option Width
  | .address w => some w
  | _ => none

/-- The head is set to 0 next. -/
def Pc.resetting : Pc → Bool
  | .reset _ => true
  | _ => false

/-- The address is formed, the head is still on it. -/
def Pc.advancing : Pc → Bool
  | .advance _ _ => true
  | _ => false

/-- The head is already back at 0, the buffer is still the old one. -/
def Pc.filling : Pc → Bool
  | .fill _ => true
  | _ => false

/-- What the scheduler picks for a thread. -/
inductive Action where
  | call (w : Width)
  | step
  deriving DecidableEq, Repr

structure Sys (τ : Type) where
  pool : Pool
  pc : τ → Pc

variable {τ : Type} [DecidableEq τ]

namespace Sys

def move (s : Sys τ) (pool : Pool) (t : τ) (pc : Pc) : Sys τ :=
  { pool := pool, pc := Function.update s.pc t pc }

@[simp] theorem move_pool (s : Sys τ) (pool : Pool) (t : τ) (pc : Pc) :
    (s.move pool t pc).pool = pool := rfl

@[simp] theorem move_self (s : Sys τ) (pool : Pool) (t : τ) (pc : Pc) :
    (s.move pool t pc).pc t = pc := by
  simp only [move, Function.update_self]

theorem move_of_ne (s : Sys τ) (pool : Pool) {t u : τ} (pc : Pc) (other : u ≠ t) :
    (s.move pool t pc).pc u = s.pc u := by
  simp only [move, Function.update_of_ne other]

/-- What a thread holds after a move is what it has got by it, or what it held. -/
theorem held_move {s : Sys τ} {pool : Pool} {t u : τ} {pc : Pc} {place : Nat × Nat}
    (held : ((s.move pool t pc).pc u).held = some place) :
    u = t ∧ pc.held = some place ∨ u ≠ t ∧ (s.pc u).held = some place := by
  by_cases same : u = t
  · subst same
    rw [move_self] at held
    exact .inl ⟨rfl, held⟩
  · rw [move_of_ne s pool pc same] at held
    exact .inr ⟨same, held⟩

theorem held_move_none {s : Sys τ} {pool : Pool} {t : τ} {pc : Pc} (nothing : pc.held = none)
    (free : ∀ u, (s.pc u).held = none) (u : τ) : ((s.move pool t pc).pc u).held = none := by
  by_cases same : u = t
  · rw [same, move_self, nothing]
  · rw [move_of_ne _ _ _ same, free]

/-- A thread that did not start a fill by its move leaves the fills to the others. -/
theorem filling_move {s : Sys τ} {pool : Pool} {t u : τ} {pc : Pc} (calm : pc.filling = false)
    (fills : ((s.move pool t pc).pc u).filling = true) : u ≠ t ∧ (s.pc u).filling = true := by
  by_cases same : u = t
  · rw [same, move_self, calm] at fills
    cases fills
  · rw [move_of_ne _ _ _ same] at fills
    exact ⟨same, fills⟩

/-- The next access of a busy thread. -/
def step (entropy : Nat → Bytes) (s : Sys τ) (t : τ) : Option (Sys τ × List Draw) :=
  match s.pc t with
  | .idle => none
  | .test w =>
    -- the head may have moved on by the time the address is formed
    if s.pool.enough w.size then some (s.move s.pool t (.address w), [])
    else some (s.move s.pool t (.reset w), [])
  | .address w => some (s.move s.pool t (.advance w s.pool.head), [])
  | .advance w buf =>
    some (s.move { s.pool with head := s.pool.head + w.size.toUInt32 } t (.read w buf), [])
  | .read w buf => some (s.move s.pool t .idle, [s.pool.read w.size buf])
  | .reset w => some (s.move { s.pool with head := 0 } t (.fill w), [])
  | .fill w => some (s.move (s.pool.refill entropy) t (.test w), [])

def act (entropy : Nat → Bytes) (s : Sys τ) (i : τ × Action) : Option (Sys τ × List Draw) :=
  match i.2 with
  | .call w =>
    match s.pc i.1 with
    | .idle => some (s.move s.pool i.1 (.test w), [])
    | _ => none
  | .step => s.step entropy i.1

/-- Idle threads on a pool that has just been filled. -/
def start (entropy : Nat → Bytes) (p : Pool) : Sys τ :=
  { pool := generateRandomBuffer entropy p, pc := fun _ => .idle }

/-- An address is formed only while the size test would still succeed, no other thread is between
its address and its `+=`, and no fill is pending; the head is set to 0 only while no thread has an
address that it has not read through. -/
def Orderly (s : Sys τ) (i : τ × Action) : Prop :=
  i.2 = .step →
    (∀ w ∈ (s.pc i.1).forming,
      s.pool.enough w.size ∧ ∀ u, (s.pc u).advancing = false ∧ (s.pc u).filling = false) ∧
    ((s.pc i.1).resetting = true → ∀ u, (s.pc u).held = none)

instance decidableOrderly [Fintype τ] (s : Sys τ) (i : τ × Action) : Decidable (s.Orderly i) :=
  inferInstanceAs (Decidable (_ → _ ∧ _))

/-- Everything a step can do, with what it has tested. -/
inductive Effect (entropy : Nat → Bytes) (s : Sys τ) (t : τ) (a : Action) : Sys τ → List Draw → Prop
  | quiet (pc : Pc) (filling : (s.pc t).filling = false) (held : pc.held = none)
      (filling' : pc.filling = false) : Effect entropy s t a (s.move s.pool t pc) []
  | formed (w : Width) (at_pc : s.pc t = .address w) (chosen : a = .step) :
      Effect entropy s t a (s.move s.pool t (.advance w s.pool.head)) []
  | advanced (w : Width) (buf : UInt32) (at_pc : s.pc t = .advance w buf) :
      Effect entropy s t a
        (s.move { s.pool with head := s.pool.head + w.size.toUInt32 } t (.read w buf)) []
  | drawn (w : Width) (buf : UInt32) (at_pc : s.pc t = .read w buf) :
      Effect entropy s t a (s.move s.pool t .idle) [s.pool.read w.size buf]
  | reset (w : Width) (at_pc : s.pc t = .reset w) (chosen : a = .step) :
      Effect entropy s t a (s.move { s.pool with head := 0 } t (.fill w)) []
  | filled (w : Width) (at_pc : s.pc t = .fill w) :
      Effect entropy s t a (s.move (s.pool.refill entropy) t (.test w)) []

theorem act_effect {entropy : Nat → Bytes} {s after : Sys τ} {i : τ × Action} {ev : List Draw}
    (acted : s.act entropy i = some (after, ev)) : Effect entropy s i.1 i.2 after ev := by
  unfold act at acted
  split at acted
  · split at acted
    next at_pc =>
      cases acted
      exact .quiet _ (by rw [at_pc]; rfl) rfl rfl
    · cases acted
  next chosen =>
    unfold step at acted
    split at acted
    · cases acted
    next w at_pc =>
      split at acted
      · cases acted
        exact .quiet _ (by rw [at_pc]; rfl) rfl rfl
      · cases acted
        exact .quiet _ (by rw [at_pc]; rfl) rfl rfl
    next w at_pc =>
      cases acted
      exact .formed w at_pc chosen
    next w buf at_pc =>
      cases acted
      exact .advanced w buf at_pc
    next w buf at_pc =>
      cases acted
      exact .drawn w buf at_pc
    next w at_pc =>
      cases acted
      exact .reset w at_pc chosen
    next w at_pc =>
      simp only [Option.some.injEq, Prod.mk.injEq] at acted
      obtain ⟨rfl, rfl⟩ := acted
      exact .filled w at_pc

/-- Two places have no byte in common. -/
def Apart (place place' : Nat × Nat) : Prop :=
  place.1 + place.2 ≤ place'.1 ∨ place'.1 + place'.2 ≤ place.1

/-- What holds between the accesses of orderly threads: the places handed out since the last fill, read
already or not, are apart, and the head is behind all of them, but for a place it is still on. While
a fill is pending nothing is handed out. -/
structure Shared (s : Sys τ) (log : List Draw) : Prop where
  bounded : s.pool.head.toNat ≤ randomBufferSize
  filling : ∀ u, (s.pc u).filling = true → s.pool.head = 0 ∧ ∀ v, (s.pc v).held = none
  advancing : ∀ u place, (s.pc u).held = some place → (s.pc u).advancing = true →
    place.1 = s.pool.head.toNat ∧ 0 < place.2 ∧ place.1 + place.2 ≤ randomBufferSize
  passed : ∀ u place, (s.pc u).held = some place → (s.pc u).advancing = false →
    place.1 + place.2 ≤ s.pool.head.toNat
  alone : ∀ u v place place', u ≠ v → (s.pc u).held = some place → (s.pc v).held = some place' →
    Apart place place'
  unread : ∀ u place, (s.pc u).held = some place → ∀ d ∈ log, d.fill = s.pool.fills →
    Apart (d.offset, d.size) place
  behind : ∀ d ∈ log, d.fill ≤ s.pool.fills ∧
    (d.fill = s.pool.fills → (∀ u, (s.pc u).filling = false) →
      d.offset + d.size ≤ s.pool.head.toNat)
  inside : ∀ d ∈ log, d.Inside
  apart : log.Pairwise Draw.Apart

namespace Shared

variable {s : Sys τ} {t : τ} {log : List Draw}

/-- An access that neither touches the pool nor gets or gives up anything. -/
theorem quiet {pc : Pc} (shared : Shared s log) (before : (s.pc t).filling = false)
    (held : pc.held = none) (filling : pc.filling = false) : Shared (s.move s.pool t pc) log := by
  have others {u : τ} {place : Nat × Nat}
      (holds : ((s.move s.pool t pc).pc u).held = some place) :
      u ≠ t ∧ (s.pc u).held = some place := by
    rcases held_move holds with ⟨-, got⟩ | old
    · rw [held] at got
      cases got
    · exact old
  refine ⟨shared.bounded, ?_, ?_, ?_, ?_, ?_, ?_, shared.inside, shared.apart⟩
  · intro u fills
    obtain ⟨zero, free⟩ := shared.filling u (filling_move filling fills).2
    exact ⟨zero, held_move_none held free⟩
  · intro u place holds
    obtain ⟨other, old⟩ := others holds
    rw [move_of_ne _ _ _ other]
    exact shared.advancing u place old
  · intro u place holds
    obtain ⟨other, old⟩ := others holds
    rw [move_of_ne _ _ _ other]
    exact shared.passed u place old
  · intro u v place place' distinct holds holds'
    exact shared.alone u v place place' distinct (others holds).2 (others holds').2
  · intro u place holds
    exact shared.unread u place (others holds).2
  · intro d member
    refine ⟨(shared.behind d member).1, fun current still => ?_⟩
    refine (shared.behind d member).2 current fun u => ?_
    by_cases same : u = t
    · rw [same, before]
    · rw [← move_of_ne s s.pool pc same]
      exact still u

/-- An address is formed where nothing has been handed out since the last fill. -/
theorem formed {w : Width} (shared : Shared s log) (enough : s.pool.enough w.size)
    (calm : ∀ u, (s.pc u).advancing = false ∧ (s.pc u).filling = false) :
    Shared (s.move s.pool t (.advance w s.pool.head)) log := by
  have fits := (enough_iff shared.bounded w.size).mp enough
  have positive : 0 < w.size.toNat := by cases w <;> decide
  -- the head is behind all that the other threads hold
  have before {u : τ} {place : Nat × Nat} (holds : (s.pc u).held = some place) :
      place.1 + place.2 ≤ s.pool.head.toNat := shared.passed u place holds (calm u).1
  refine ⟨shared.bounded, ?_, ?_, ?_, ?_, ?_, ?_, shared.inside, shared.apart⟩
  · intro u fills
    have pending := (filling_move rfl fills).2
    rw [(calm u).2] at pending
    cases pending
  · intro u place holds advances
    rcases held_move holds with ⟨rfl, got⟩ | ⟨other, old⟩
    · cases got
      exact ⟨rfl, positive, fits⟩
    · rw [move_of_ne _ _ _ other, (calm u).1] at advances
      cases advances
  · intro u place holds passed
    rcases held_move holds with ⟨rfl, got⟩ | ⟨other, old⟩
    · rw [move_self] at passed
      cases passed
    · exact before old
  · intro u v place place' distinct holds holds'
    rcases held_move holds with ⟨rfl, got⟩ | ⟨other, old⟩
    · rcases held_move holds' with ⟨rfl, got'⟩ | ⟨other', old'⟩
      · exact absurd rfl distinct
      · cases got
        exact .inr (before old')
    · rcases held_move holds' with ⟨rfl, got'⟩ | ⟨other', old'⟩
      · cases got'
        exact .inl (before old)
      · exact shared.alone u v place place' distinct old old'
  · intro u place holds d member current
    rcases held_move holds with ⟨rfl, got⟩ | ⟨other, old⟩
    · cases got
      exact .inl ((shared.behind d member).2 current fun u => (calm u).2)
    · exact shared.unread u place old d member current
  · intro d member
    exact ⟨(shared.behind d member).1, fun current _ =>
      (shared.behind d member).2 current fun u => (calm u).2⟩

/-- The head passes the place it was on. -/
theorem advanced {w : Width} {buf : UInt32} (shared : Shared s log)
    (at_pc : s.pc t = .advance w buf) :
    Shared (s.move { s.pool with head := s.pool.head + w.size.toUInt32 } t (.read w buf)) log := by
  have mine : (s.pc t).held = some (buf.toNat, w.size.toNat) := by
    rw [at_pc]
    rfl
  obtain ⟨here, positive, inside⟩ := shared.advancing t _ mine (by rw [at_pc]; rfl)
  dsimp only at here positive inside
  have fits : s.pool.head.toNat + w.size.toNat ≤ randomBufferSize := by omega
  have moved := toNat_advanced fits
  have still (u : τ) : (s.pc u).filling = false := by
    rw [← Bool.not_eq_true]
    intro fills
    have nothing := (shared.filling u fills).2 t
    rw [mine] at nothing
    cases nothing
  -- no second thread has formed the same address
  have passed {u : τ} {place : Nat × Nat} (other : u ≠ t) (holds : (s.pc u).held = some place) :
      (s.pc u).advancing = false := by
    rw [← Bool.not_eq_true]
    intro advances
    obtain ⟨same, positive', -⟩ := shared.advancing u place holds advances
    rcases shared.alone u t place _ other holds mine with first | second
    · dsimp only at first
      omega
    · dsimp only at second
      omega
  have held {u : τ} {place : Nat × Nat}
      (holds : ((s.move { s.pool with head := s.pool.head + w.size.toUInt32 } t
        (.read w buf)).pc u).held = some place) : (s.pc u).held = some place := by
    rcases held_move holds with ⟨rfl, got⟩ | ⟨-, old⟩
    · rw [mine]
      exact got
    · exact old
  refine ⟨by rw [move_pool, moved]; exact fits, ?_, ?_, ?_, ?_, ?_, ?_, shared.inside, shared.apart⟩
  · intro u fills
    have pending := (filling_move rfl fills).2
    rw [still u] at pending
    cases pending
  · intro u place holds advances
    by_cases same : u = t
    · rw [same, move_self] at advances
      cases advances
    · rw [move_of_ne _ _ _ same, passed same (held holds)] at advances
      cases advances
  · intro u place holds _
    rw [move_pool, moved]
    rcases held_move holds with ⟨rfl, got⟩ | ⟨other, old⟩
    · cases got
      dsimp only
      omega
    · have before := shared.passed u place old (passed other old)
      omega
  · intro u v place place' distinct holds holds'
    exact shared.alone u v place place' distinct (held holds) (held holds')
  · intro u place holds
    exact shared.unread u place (held holds)
  · intro d member
    refine ⟨(shared.behind d member).1, fun current _ => ?_⟩
    have before := (shared.behind d member).2 current still
    rw [move_pool, moved]
    omega

/-- What is read is what was held. -/
theorem drawn {w : Width} {buf : UInt32} (shared : Shared s log) (at_pc : s.pc t = .read w buf) :
    Shared (s.move s.pool t .idle) (log ++ [s.pool.read w.size buf]) := by
  have mine : (s.pc t).held = some (buf.toNat, w.size.toNat) := by
    rw [at_pc]
    rfl
  -- the head has passed it, so it is inside
  have before := shared.passed t _ mine (by rw [at_pc]; rfl)
  have bounded := shared.bounded
  have left : Shared (s.move s.pool t .idle) log := shared.quiet (by rw [at_pc]; rfl) rfl rfl
  obtain ⟨-, filling, advancing, passed, alone, unread, behind, -, -⟩ := left
  refine ⟨bounded, filling, advancing, passed, alone, ?_, ?_, ?_, ?_⟩
  · intro u place holds
    rw [List.forall_mem_append, List.forall_mem_singleton]
    refine ⟨unread u place holds, fun _ => ?_⟩
    rcases held_move holds with ⟨-, got⟩ | ⟨other, old⟩
    · cases got
    · exact shared.alone t u _ place other.symm mine old
  · rw [List.forall_mem_append, List.forall_mem_singleton]
    exact ⟨behind, Nat.le_refl _, fun _ _ => before⟩
  · rw [List.forall_mem_append, List.forall_mem_singleton]
    exact ⟨shared.inside, Nat.le_trans before bounded⟩
  · rw [List.pairwise_append]
    refine ⟨shared.apart, List.pairwise_singleton _ _, ?_⟩
    intro d member new is
    cases List.mem_singleton.mp is
    exact fun current => shared.unread t _ mine d member current

/-- While nobody holds anything there is less to keep. -/
theorem of_free {τ : Type} {s : Sys τ} {log : List Draw} (nobody : ∀ u, (s.pc u).held = none)
    (bounded : s.pool.head.toNat ≤ randomBufferSize)
    (filling : ∀ u, (s.pc u).filling = true → s.pool.head = 0)
    (behind : ∀ d ∈ log, d.fill ≤ s.pool.fills ∧
      (d.fill = s.pool.fills → (∀ u, (s.pc u).filling = false) →
        d.offset + d.size ≤ s.pool.head.toNat))
    (inside : ∀ d ∈ log, d.Inside) (apart : log.Pairwise Draw.Apart) : Shared s log := by
  refine ⟨bounded, fun u fills => ⟨filling u fills, nobody⟩, ?_, ?_, ?_, ?_, behind, inside, apart⟩
  · intro u place holds
    rw [nobody] at holds
    cases holds
  · intro u place holds
    rw [nobody] at holds
    cases holds
  · intro u v place place' _ holds
    rw [nobody] at holds
    cases holds
  · intro u place holds
    rw [nobody] at holds
    cases holds

/-- The head goes back to 0 while nobody holds anything. -/
theorem reset {w : Width} (shared : Shared s log) (free : ∀ u, (s.pc u).held = none) :
    Shared (s.move { s.pool with head := 0 } t (.fill w)) log := by
  apply of_free (held_move_none rfl free) (Nat.zero_le _) (fun _ _ => rfl) _ shared.inside shared.apart
  intro d member
  refine ⟨(shared.behind d member).1, fun _ still => ?_⟩
  have pending := still t
  rw [move_self] at pending
  cases pending

/-- A fill makes all that was drawn before count for nothing. -/
theorem filled {entropy : Nat → Bytes} {w : Width} (shared : Shared s log)
    (at_pc : s.pc t = .fill w) : Shared (s.move (s.pool.refill entropy) t (.test w)) log := by
  obtain ⟨zero, free⟩ := shared.filling t (by rw [at_pc]; rfl)
  apply of_free (held_move_none rfl free) _ _ _ shared.inside shared.apart
  · rw [move_pool, refill_head]
    exact shared.bounded
  · intro u _
    rw [move_pool, refill_head, zero]
  · -- no draw so far is of the new fill
    intro d member
    have older := (shared.behind d member).1
    rw [move_pool, refill_fills]
    exact ⟨by omega, fun current => by omega⟩

/-- Every orderly access keeps it. -/
theorem act {entropy : Nat → Bytes} {after : Sys τ} {i : τ × Action} {ev : List Draw}
    (shared : Shared s log) (orderly : s.Orderly i) (acted : s.act entropy i = some (after, ev)) :
    Shared after (log ++ ev) := by
  have effect := act_effect acted
  cases effect with
  | quiet pc before held filling =>
    rw [List.append_nil]
    exact shared.quiet before held filling
  | formed w at_pc chosen =>
    obtain ⟨enough, calm⟩ := (orderly chosen).1 w (by rw [at_pc]; rfl)
    rw [List.append_nil]
    exact shared.formed enough calm
  | advanced w buf at_pc =>
    rw [List.append_nil]
    exact shared.advanced at_pc
  | drawn w buf at_pc => exact shared.drawn at_pc
  | reset w at_pc chosen =>
    rw [List.append_nil]
    exact shared.reset ((orderly chosen).2 (by rw [at_pc]; rfl))
  | filled w at_pc =>
    rw [List.append_nil]
    exact shared.filled at_pc

end Shared

/-- On a freshly filled pool, as long as every access is orderly, the head stays inside the buffer, as
does every read, and between two fills no byte comes twice. -/
theorem pool_shared_orderly (entropy : Nat → Bytes) (p : Pool) (is : List (τ × Action))
    (after : Sys τ) (log : List Draw)
    (ran : run (act entropy) (start entropy p) is = some (after, log))
    (orderly : Along (act entropy) Orderly (start entropy p) is) :
    after.pool.head.toNat ≤ randomBufferSize ∧ (∀ d ∈ log, d.Inside) ∧ log.Pairwise Draw.Apart := by
  have shared : Shared after log := by
    refine run_induction (act entropy) Orderly (start entropy p) (fun _ s log => Shared s log) ?_ ?_
      is after log ran orderly
    · exact Shared.of_free (fun _ => rfl) (Nat.zero_le _) (fun _ _ => rfl) (by simp) (by simp) .nil
    · intro _ i mid log after ev _ shared orderly acted
      exact shared.act orderly acted
  exact ⟨shared.bounded, shared.inside, shared.apart⟩

/-- Two threads whose size tests overlap, but not their draws. -/
theorem pool_shared_orderly_overlapping : ∃ (after : Sys Bool) (log : List Draw),
    run (act fun _ _ => 0xA5) (start (fun _ _ => 0xA5) (.start fun _ => 0))
      [(false, .call .u32), (true, .call .u64), (false, .step), (true, .step), (false, .step),
        (false, .step), (true, .step), (false, .step), (true, .step), (true, .step)] =
      some (after, log) ∧
    log.length = 2 ∧ after.pool.head.toNat ≤ randomBufferSize ∧ (∀ d ∈ log, d.Inside) ∧
    log.Pairwise Draw.Apart := by
  have draws : (run (act fun _ _ => 0xA5)
      (start (fun _ _ => 0xA5) (.start fun _ => 0) : Sys Bool)
      [(false, .call .u32), (true, .call .u64), (false, .step), (true, .step), (false, .step),
        (false, .step), (true, .step), (false, .step), (true, .step), (true, .step)]).map
      (fun ran => ran.2.length) = some 2 := by
    decide +kernel
  obtain ⟨⟨after, log⟩, ran, count⟩ := Option.map_eq_some_iff.mp draws
  refine ⟨after, log, ran, count, ?_⟩
  exact pool_shared_orderly _ _ _ after log ran (by decide +kernel)

/-- Two threads form their addresses before either has passed its own, and get the same four
bytes. -/
theorem pool_bytes_twice : ∃ (after : Sys Bool) (d : Draw),
    run (act fun _ _ => 0xA5) (start (fun _ _ => 0xA5) (.start fun _ => 0))
      [(false, .call .u32), (true, .call .u32), (false, .step), (true, .step), (false, .step),
        (true, .step), (false, .step), (true, .step), (false, .step), (true, .step)] =
      some (after, [d, d]) ∧
    d.size = 4 ∧ ¬[d, d].Pairwise Draw.Apart := by
  have draws : (run (act fun _ _ => 0xA5)
      (start (fun _ _ => 0xA5) (.start fun _ => 0) : Sys Bool)
      [(false, .call .u32), (true, .call .u32), (false, .step), (true, .step), (false, .step),
        (true, .step), (false, .step), (true, .step), (false, .step), (true, .step)]).map
      Prod.snd = some [⟨4, 0, 1, 0xA5A5A5A5⟩, ⟨4, 0, 1, 0xA5A5A5A5⟩] := by
    decide +kernel
  obtain ⟨⟨after, log⟩, ran, rfl⟩ := Option.map_eq_some_iff.mp draws
  refine ⟨after, _, ran, rfl, ?_⟩
  intro apart
  rcases List.rel_of_pairwise_cons apart (List.mem_singleton_self _) rfl with low | high
  · exact absurd low (by decide)
  · exact absurd high (by decide)

end Sys

end Kpnet.Random
