import Kpnet.Lib.Bytes
import Kpnet.Lib.Runs

/-!
# The pool of random bytes

`generate_random_buffer.c` and `get_random_from_buffer_u16.c`, `..._u32.c` and `..._u64.c`, run by
one thread. Verification tags and initial TSNs are drawn from a buffer of 1024 random bytes, in
order, and the buffer is filled anew when what is left of it is too short. At the start of the
program it has not been filled at all.
-/
namespace Kpnet.Random

open Bytes Runs

/-- `RANDOM_BUFFER_SIZE`. -/
def randomBufferSize : Nat := 1024

/-- `random_buffer` with what lies behind it, and `random_buffer_head`. `fills` counts the calls of
`get_random` so far; the program does not have it. -/
structure Pool where
  buffer : Bytes
  head : UInt32
  fills : Nat

/-- The pool at the start of the program. -/
def Pool.start (memory : Bytes) : Pool :=
  { buffer := put memory 0 (List.replicate randomBufferSize 0), head := 0, fills := 0 }

/-- `get_random (random_buffer, sizeof (random_buffer))`, where `getrandom` fills the whole buffer.
`entropy n` is what its call number `n` delivers. -/
def Pool.refill (entropy : Nat → Bytes) (p : Pool) : Pool :=
  { p with
    buffer := put p.buffer 0 (slice (entropy p.fills) 0 randomBufferSize)
    fills := p.fills + 1 }

@[simp] theorem refill_head (entropy : Nat → Bytes) (p : Pool) :
    (p.refill entropy).head = p.head := by
  simp only [Pool.refill]

@[simp] theorem refill_fills (entropy : Nat → Bytes) (p : Pool) :
    (p.refill entropy).fills = p.fills + 1 := by
  simp only [Pool.refill]

def generateRandomBuffer (entropy : Nat → Bytes) (p : Pool) : Pool :=
  { p with head := 0 }.refill entropy

/-- A value that was drawn: its size, where in the buffer it was read, and how often the buffer
had been filled by then. -/
structure Draw where
  size : Nat
  offset : Nat
  fill : Nat
  value : Nat
  deriving DecidableEq, Repr

/-- `sizeof (random_buffer) - random_buffer_head >= size`, in 64 bits. -/
def Pool.enough (p : Pool) (size : UInt64) : Prop :=
  size ≤ UInt64.ofNat randomBufferSize - p.head.toUInt64

instance decidableEnough (p : Pool) (size : UInt64) : Decidable (p.enough size) :=
  inferInstanceAs (Decidable (_ ≤ _))

/-- `*(T *) buf` for a `buf` that is `offset` bytes into the buffer. -/
def Pool.read (p : Pool) (size : UInt64) (offset : UInt32) : Draw :=
  { size := size.toNat
    offset := offset.toNat
    fill := p.fills
    value := word (slice p.buffer offset.toNat size.toNat) }

/-- The three functions, which differ in the size of what they return. They call themselves after
the buffer has been filled. -/
def getRandomFromBuffer (entropy : Nat → Bytes) (size : UInt64) : Nat → Pool → Option (Draw × Pool)
  | 0, _ => none
  | fuel + 1, p =>
    -- a buffer that was never filled passes the test as well
    if p.enough size then some (p.read size p.head, { p with head := p.head + size.toUInt32 })
    else getRandomFromBuffer entropy size fuel (generateRandomBuffer entropy p)

def getRandomFromBufferU16 (entropy : Nat → Bytes) (fuel : Nat) (p : Pool) : Option (Draw × Pool) :=
  getRandomFromBuffer entropy 2 fuel p

def getRandomFromBufferU32 (entropy : Nat → Bytes) (fuel : Nat) (p : Pool) : Option (Draw × Pool) :=
  getRandomFromBuffer entropy 4 fuel p

def getRandomFromBufferU64 (entropy : Nat → Bytes) (fuel : Nat) (p : Pool) : Option (Draw × Pool) :=
  getRandomFromBuffer entropy 8 fuel p

/-- A call of one of the three functions, or of `generate_random_buffer` itself. -/
inductive PoolCall where
  | generate
  | u16
  | u32
  | u64
  deriving DecidableEq, Repr

/-- A call and what it draws. One recursion is enough, as the buffer is full after it. -/
def Pool.call (entropy : Nat → Bytes) (p : Pool) : PoolCall → Option (Pool × List Draw)
  | .generate => some (generateRandomBuffer entropy p, [])
  | .u16 => (getRandomFromBufferU16 entropy 2 p).map fun drawn => (drawn.2, [drawn.1])
  | .u32 => (getRandomFromBufferU32 entropy 2 p).map fun drawn => (drawn.2, [drawn.1])
  | .u64 => (getRandomFromBufferU64 entropy 2 p).map fun drawn => (drawn.2, [drawn.1])

/-- The draw is read inside of the buffer. -/
def Draw.Inside (d : Draw) : Prop := d.offset + d.size ≤ randomBufferSize

/-- Two draws have no byte of one fill in common. -/
def Draw.Apart (d d' : Draw) : Prop :=
  d.fill = d'.fill → d.offset + d.size ≤ d'.offset ∨ d'.offset + d'.size ≤ d.offset

/-- The value is made of bytes that some fill has written. -/
def Draw.Filled (entropy : Nat → Bytes) (d : Draw) : Prop :=
  ∃ n, d.fill = n + 1 ∧ d.value = word (slice (entropy n) d.offset d.size)

/-- The pool after these draws, of which none was made before fill number `least`. -/
structure Pooled (entropy : Nat → Bytes) (least : Nat) (p : Pool) (log : List Draw) : Prop where
  bounded : p.head.toNat ≤ randomBufferSize
  filled : ∀ n, p.fills = n + 1 →
    slice p.buffer 0 randomBufferSize = slice (entropy n) 0 randomBufferSize
  since : least ≤ p.fills ∧ ∀ d ∈ log, least ≤ d.fill
  behind : ∀ d ∈ log, d.fill ≤ p.fills ∧ (d.fill = p.fills → d.offset + d.size ≤ p.head.toNat)
  inside : ∀ d ∈ log, d.Inside
  apart : log.Pairwise Draw.Apart
  written : ∀ d ∈ log, d.fill ≠ 0 → d.Filled entropy

/-- In a buffer that has not been left behind, the test is about what it seems to be about. -/
theorem enough_iff {p : Pool} (bounded : p.head.toNat ≤ randomBufferSize) (size : UInt64) :
    p.enough size ↔ p.head.toNat + size.toNat ≤ randomBufferSize := by
  have total : (UInt64.ofNat randomBufferSize).toNat = randomBufferSize := rfl
  have left : (UInt64.ofNat randomBufferSize - p.head.toUInt64).toNat =
      randomBufferSize - p.head.toNat := by
    rw [UInt64.toNat_sub_of_le _ _ (UInt64.le_iff_toNat_le.mpr (by rwa [total])), total,
      UInt32.toNat_toUInt64]
  rw [Pool.enough, UInt64.le_iff_toNat_le, left]
  omega

/-- The head advances without a wrap. -/
theorem toNat_advanced {head : UInt32} {size : UInt64}
    (fits : head.toNat + size.toNat ≤ randomBufferSize) :
    (head + size.toUInt32).toNat = head.toNat + size.toNat := by
  have small : randomBufferSize < 2 ^ 32 := by decide
  rw [UInt32.toNat_add, UInt64.toNat_toUInt32, Nat.mod_eq_of_lt (show size.toNat < 2 ^ 32 by omega),
    Nat.mod_eq_of_lt (by omega)]

/-- A draw returns, from the pool as it is or from one that was filled first. -/
theorem getRandomFromBuffer_returns (entropy : Nat → Bytes) {p : Pool} {size : UInt64}
    (bounded : p.head.toNat ≤ randomBufferSize) (small : size.toNat ≤ randomBufferSize) :
    ∃ ready, (ready = p ∨ ready = generateRandomBuffer entropy p) ∧
      ready.head.toNat + size.toNat ≤ randomBufferSize ∧
      getRandomFromBuffer entropy size 2 p =
        some (ready.read size ready.head, { ready with head := ready.head + size.toUInt32 }) := by
  by_cases fits : p.head.toNat + size.toNat ≤ randomBufferSize
  · refine ⟨p, .inl rfl, fits, ?_⟩
    rw [getRandomFromBuffer, if_pos ((enough_iff bounded size).mpr fits)]
  · -- after the fill the whole buffer is ahead, so the second call does not recurse
    have empty : (generateRandomBuffer entropy p).head.toNat = 0 := rfl
    have fits' : (generateRandomBuffer entropy p).head.toNat + size.toNat ≤ randomBufferSize := by
      omega
    refine ⟨generateRandomBuffer entropy p, .inr rfl, fits', ?_⟩
    rw [getRandomFromBuffer, if_neg (fun enough => fits ((enough_iff bounded size).mp enough)),
      getRandomFromBuffer, if_pos ((enough_iff (by omega) size).mpr fits')]

section

variable {entropy : Nat → Bytes} {p : Pool} {size : UInt64} {least : Nat} {log : List Draw}

theorem generateRandomBuffer_buffer : (generateRandomBuffer entropy p).buffer =
    put p.buffer 0 (slice (entropy p.fills) 0 randomBufferSize) := by
  simp only [generateRandomBuffer, Pool.refill]

theorem Pooled.generate (pooled : Pooled entropy least p log) :
    Pooled entropy least (generateRandomBuffer entropy p) log := by
  obtain ⟨-, -, ⟨least_le, since⟩, behind, inside, apart, written⟩ := pooled
  have fills : (generateRandomBuffer entropy p).fills = p.fills + 1 := rfl
  refine ⟨Nat.zero_le _, ?_, ⟨by omega, since⟩, ?_, inside, apart, written⟩
  · intro n last
    obtain rfl : p.fills = n := by omega
    have stored := slice_put_self p.buffer 0 (slice (entropy p.fills) 0 randomBufferSize)
    rwa [length_slice, ← generateRandomBuffer_buffer] at stored
  · -- what was drawn before belongs to an older fill
    intro d member
    have older := (behind d member).1
    exact ⟨by omega, fun same => by omega⟩

/-- A draw takes the bytes in front of the new head. -/
theorem Pooled.draw (pooled : Pooled entropy least p log)
    (fits : p.head.toNat + size.toNat ≤ randomBufferSize) :
    Pooled entropy least { p with head := p.head + size.toUInt32 } (log ++ [p.read size p.head]) := by
  obtain ⟨-, filled, ⟨least_le, since⟩, behind, inside, apart, written⟩ := pooled
  have advanced := toNat_advanced fits
  refine ⟨by dsimp only; omega, filled, ⟨least_le, ?_⟩, ?_, ?_, ?_, ?_⟩
  · rw [List.forall_mem_append, List.forall_mem_singleton]
    exact ⟨since, least_le⟩
  · rw [List.forall_mem_append, List.forall_mem_singleton]
    refine ⟨?_, Nat.le_refl _, fun _ => by rw [advanced]; exact Nat.le_refl _⟩
    intro d member
    obtain ⟨older, below⟩ := behind d member
    refine ⟨older, fun same => ?_⟩
    have := below same
    dsimp only
    omega
  · rw [List.forall_mem_append, List.forall_mem_singleton]
    exact ⟨inside, fits⟩
  · rw [List.pairwise_append]
    refine ⟨apart, List.pairwise_singleton _ _, ?_⟩
    intro d member new is
    cases List.mem_singleton.mp is
    -- the head was behind all earlier draws of this fill
    exact fun same => .inl ((behind d member).2 same)
  · rw [List.forall_mem_append, List.forall_mem_singleton]
    refine ⟨written, ?_⟩
    intro nonzero
    obtain ⟨n, last⟩ := Nat.exists_eq_succ_of_ne_zero nonzero
    refine ⟨n, last, ?_⟩
    -- the bytes are those of the newest fill
    have part (b : Bytes) := take_drop_slice b 0 randomBufferSize p.head.toNat size.toNat fits
    show word (slice p.buffer p.head.toNat size.toNat) = word (slice (entropy n) p.head.toNat size.toNat)
    rw [← Nat.zero_add p.head.toNat, ← part, filled n last, part]

/-- What one of the three functions returns and leaves behind. -/
theorem Pooled.getRandomFromBuffer (pooled : Pooled entropy least p log)
    (small : size.toNat ≤ randomBufferSize) :
    ∃ d after, Random.getRandomFromBuffer entropy size 2 p = some (d, after) ∧ p.fills ≤ d.fill ∧
      Pooled entropy least after (log ++ [d]) := by
  obtain ⟨ready, from_pool, fits, drawn⟩ :=
    getRandomFromBuffer_returns entropy pooled.bounded small
  refine ⟨_, _, drawn, ?_, ?_⟩
  · rcases from_pool with rfl | rfl
    · exact Nat.le_refl _
    · exact Nat.le_succ _
  · rcases from_pool with rfl | rfl
    · exact pooled.draw fits
    · exact pooled.generate.draw fits

/-- A call, of whichever function, leaves a pool behind from which no byte comes twice. -/
theorem Pooled.call {after : Pool} {c : PoolCall} {ev : List Draw}
    (pooled : Pooled entropy least p log) (called : p.call entropy c = some (after, ev)) :
    Pooled entropy least after (log ++ ev) := by
  have drawn (size : UInt64) (small : size.toNat ≤ randomBufferSize)
      (is : (Random.getRandomFromBuffer entropy size 2 p).map (fun drawn => (drawn.2, [drawn.1])) =
        some (after, ev)) : Pooled entropy least after (log ++ ev) := by
    obtain ⟨d, after', returned, -, pooled'⟩ := pooled.getRandomFromBuffer small
    rw [returned] at is
    cases is
    exact pooled'
  cases c with
  | generate =>
    simp only [Pool.call, Option.some.injEq, Prod.mk.injEq] at called
    obtain ⟨rfl, rfl⟩ := called
    rw [List.append_nil]
    exact pooled.generate
  | u16 => exact drawn 2 (by decide) called
  | u32 => exact drawn 4 (by decide) called
  | u64 => exact drawn 8 (by decide) called

end

/-- What the pool promises about a run: the head and every read stay inside the buffer, every value
is made of bytes of some fill, and no byte of a fill comes twice. -/
structure Fresh (entropy : Nat → Bytes) (after : Pool) (log : List Draw) : Prop where
  bounded : after.head.toNat ≤ randomBufferSize
  inside : ∀ d ∈ log, d.Inside
  filled : ∀ d ∈ log, d.Filled entropy
  apart : log.Pairwise Draw.Apart

theorem run_pooled {entropy : Nat → Bytes} {p after : Pool} {calls : List PoolCall} {log : List Draw}
    (bounded : p.head.toNat ≤ randomBufferSize)
    (filled : ∀ n, p.fills = n + 1 →
      slice p.buffer 0 randomBufferSize = slice (entropy n) 0 randomBufferSize)
    (ran : run (Pool.call entropy) p calls = some (after, log)) :
    Pooled entropy p.fills after log := by
  refine run_induction (Pool.call entropy) (fun _ _ => True) p
    (fun _ after log => Pooled entropy p.fills after log) ?_ ?_ calls after log ran
    (along_true _ _ _)
  · exact ⟨bounded, filled, ⟨Nat.le_refl _, by simp⟩, by simp, by simp, .nil, by simp⟩
  · intro _ c mid log after ev _ pooled _ called
    exact pooled.call called

/-- The first draw of the program is made from a buffer that nothing has been written to. -/
theorem start_call (entropy : Nat → Bytes) (memory : Bytes) {c : PoolCall} (draws : c ≠ .generate) :
    ∃ after d, (Pool.start memory).call entropy c = some (after, [d]) ∧ d.fill = 0 := by
  have drawn (size : UInt64) (fits : size.toNat ≤ randomBufferSize) :
      ∃ after d, (Random.getRandomFromBuffer entropy size 2 (Pool.start memory)).map
        (fun drawn => (drawn.2, [drawn.1])) = some (after, [d]) ∧ d.fill = 0 := by
    have empty : (Pool.start memory).head.toNat = 0 := rfl
    have enough := (enough_iff (p := Pool.start memory) (by omega) size).mpr (by omega)
    rw [Random.getRandomFromBuffer, if_pos enough]
    exact ⟨_, _, rfl, rfl⟩
  cases c with
  | generate => exact absurd rfl draws
  | u16 => exact drawn 2 (by decide)
  | u32 => exact drawn 4 (by decide)
  | u64 => exact drawn 8 (by decide)

/-- From the start of the program, the pool keeps its promise exactly if it is filled before
anything is drawn from it. -/
theorem draws_fresh_iff (entropy : Nat → Bytes) (memory : Bytes) (calls : List PoolCall)
    (after : Pool) (log : List Draw)
    (ran : run (Pool.call entropy) (Pool.start memory) calls = some (after, log)) :
    Fresh entropy after log ↔ ∀ c ∈ calls.head?, c = .generate := by
  cases calls with
  | nil =>
    cases ran
    exact iff_of_true ⟨Nat.zero_le _, by simp, by simp, .nil⟩ (by simp)
  | cons c rest =>
    simp only [List.head?_cons, Option.mem_some_iff, forall_eq']
    obtain ⟨mid, ev, log', called, ran', rfl⟩ := run_cons_eq_some ran
    constructor
    · -- a first draw is in the log, with no fill before it
      intro fresh
      by_contra draws
      obtain ⟨mid', d, called', zero⟩ := start_call entropy memory draws
      rw [called] at called'
      cases called'
      obtain ⟨n, positive, -⟩ := fresh.filled d (by simp)
      omega
    · rintro rfl
      -- the rest of the run starts from the first fill
      simp only [Pool.call, Option.some.injEq, Prod.mk.injEq] at called
      obtain ⟨rfl, rfl⟩ := called
      have start : Pooled entropy 0 (Pool.start memory) [] :=
        ⟨Nat.zero_le _, by simp [Pool.start], by simp, by simp, by simp, .nil, by simp⟩
      have pooled := run_pooled start.generate.bounded start.generate.filled ran'
      refine ⟨pooled.bounded, pooled.inside, ?_, pooled.apart⟩
      intro d member
      have later : 1 ≤ d.fill := pooled.since.2 d member
      exact pooled.written d member (by omega)

theorem draws_fresh_iff_mixed : ∃ after log,
    run (Pool.call fun _ _ => 0xA5) (Pool.start fun _ => 0) [.generate, .u64, .u16, .u32] =
      some (after, log) ∧
    Fresh (fun _ _ => 0xA5) after log := by
  have returns : (run (Pool.call fun _ _ => 0xA5) (Pool.start fun _ => 0)
      [.generate, .u64, .u16, .u32]).isSome = true := by
    decide +kernel
  obtain ⟨⟨after, log⟩, ran⟩ := Option.isSome_iff_exists.mp returns
  refine ⟨after, log, ran, ?_⟩
  rw [draws_fresh_iff _ _ _ after log ran]
  simp

/-- Whatever `getrandom` would deliver, the first value of the program is 0. -/
theorem first_draw_unfilled : ∃ after,
    run (Pool.call fun _ _ => 0xA5) (Pool.start fun _ => 0) [.u32] =
      some (after, [⟨4, 0, 0, 0⟩]) ∧
    ¬Fresh (fun _ _ => 0xA5) after [⟨4, 0, 0, 0⟩] := by
  have drawn : (run (Pool.call fun _ _ => 0xA5) (Pool.start fun _ => 0) [.u32]).map Prod.snd =
      some [⟨4, 0, 0, 0⟩] := by
    decide +kernel
  obtain ⟨⟨after, log⟩, ran, rfl⟩ := Option.map_eq_some_iff.mp drawn
  refine ⟨after, ran, ?_⟩
  intro fresh
  obtain ⟨n, positive, -⟩ := fresh.filled _ List.mem_cons_self
  cases positive

end Kpnet.Random
