import Kpnet.Sctp.Data
import Kpnet.Timer.Single

/-!
# Retransmission of the INIT

The loop of `create_client.c`, from the creation of its timer wheel on. Every turn takes a reading
of `update_time` and catches up with it second by second; a second in which T1 expires sends the
INIT again and arms the timer anew, for twice as long. The number of retransmissions is looked at
between turns only.
-/
namespace Kpnet.Sctp

open Kpnet.Ring (RingQueue)
open Kpnet.Timer

variable {A : Type}

/-- `SCTP_ASSOC_MAX_RETRANS`. -/
def sctpAssocMaxRetrans : Nat := 10

/-- `SCTP_TIMER_STEP`, in milliseconds. -/
def sctpTimerStep : UInt64 := 1000

/-- `SCTP_RTO_MIN / SCTP_TIMER_STEP` and `SCTP_RTO_MAX / SCTP_TIMER_STEP`. -/
def t1Min : UInt64 := 1000 / sctpTimerStep

def t1Max : UInt64 := 60000 / sctpTimerStep

/-- `SCTP_T1_INIT_EXPIRE`. -/
def sctpT1InitExpire : UInt64 := 1

/-- The variables of the loop. `resent` counts the calls of `eth_send_sctp` in it, which send the INIT
again; the program does not have it. -/
structure InitLoop (A : Type) where
  timer : Ringtimer A
  globalTime : UInt64
  t1Timer : UInt64
  handshakeRetrans : UInt64
  resent : Nat

variable [DecidableEq A]

/-- What is done before the loop, at time `globalTime`: `create_ringtimer` for five minutes, and T1
armed. `none` is a `NULL` timer followed, or an insert that waits forever. -/
def startInitLoop (timerMalloc timersCalloc : Bool) (eventsAllocator : RingQueue A)
    (nodes : A → RingtimerCallback A) (globalTime : UInt64) : Option (InitLoop A) :=
  match createRingtimer timerMalloc timersCalloc (5 * 60) eventsAllocator nodes with
  -- the result of `create_ringtimer` is not tested, `insert_ringtimer` follows it
  | none => none
  | some timer =>
    match insertRingtimer sctpT1InitExpire t1Min timer with
    | none => none
    | some (_, timer) =>
      some { timer := timer, globalTime := globalTime, t1Timer := t1Min, handshakeRetrans := 0
             resent := 0 }

/-- The `switch`. -/
def InitLoop.onSignal (c : InitLoop A) (signal : Int32) : Option (InitLoop A) :=
  if signal = 1 then
    -- the new delay is set before the INIT goes out, and whether it does is not looked at
    let t1Timer := min64 (c.t1Timer * 2) t1Max
    match insertRingtimer sctpT1InitExpire t1Timer c.timer with
    | none => none
    | some (_, timer) =>
      some { c with
        timer := timer
        t1Timer := t1Timer
        handshakeRetrans := c.handshakeRetrans + 1
        resent := c.resent + 1 }
  else some c

/-- One second: a tick, and what it has reported, last signal first. -/
def InitLoop.second (c : InitLoop A) : Option (InitLoop A) :=
  match tickRingtimer 256 c.timer with
  | none => none
  | some (signals, timer) =>
    match signals.reverse.foldlM InitLoop.onSignal { c with timer := timer } with
    | none => none
    | some c => some { c with globalTime := c.globalTime + sctpTimerStep }

/-- The inner loop, up to the reading `currentTime`. -/
def catchUp (currentTime : UInt64) : Nat → InitLoop A → Option (InitLoop A)
  | 0, _ => none
  | fuel + 1, c =>
    -- in 64 bits without sign, so a reading in the past would be a far future
    if sctpTimerStep ≤ currentTime - c.globalTime then
      match c.second with
      | none => none
      | some c => catchUp currentTime fuel c
    else some c

/-- A turn of the outer loop with a reading of `update_time`, which a loop that has been left does
not take any more. The inner loop makes one step for every second that has passed. -/
def InitLoop.turn (c : InitLoop A) (currentTime : UInt64) : Option (InitLoop A) :=
  -- the one place where the limit is looked at
  if sctpAssocMaxRetrans < c.handshakeRetrans.toNat then some c
  else catchUp currentTime ((currentTime - c.globalTime).toNat / 1000 + 1) c

/-- The outer loop on these readings. -/
def initLoop (c : InitLoop A) (readings : List UInt64) : Option (InitLoop A) :=
  readings.foldlM InitLoop.turn c

/-- The loop as a schedule: where the cursor of the wheel is, and in how many seconds T1 expires. -/
structure Backoff where
  cursor : Nat
  left : Nat
  t1 : Nat
  sent : Nat
  deriving DecidableEq, Repr

def Backoff.start : Backoff := { cursor := 0, left := 1, t1 := 1, sent := 0 }

def Backoff.second (b : Backoff) : Backoff :=
  let cursor := (b.cursor + 1) % 300
  if b.left = 1 then
    let t1 := min (b.t1 * 2) 60
    { cursor := cursor, left := expiry 300 cursor t1, t1 := t1, sent := b.sent + 1 }
  else { b with cursor := cursor, left := b.left - 1 }

/-- The schedule after `n` seconds. -/
def backoffAt (n : Nat) : Backoff := Backoff.second^[n] Backoff.start

theorem backoffAt_succ (n : Nat) : backoffAt (n + 1) = (backoffAt n).second :=
  Function.iterate_succ_apply' Backoff.second n Backoff.start

/-- In the second in which T1 expires it is armed anew. -/
theorem backoffAt_due {n : Nat} (due : (backoffAt n).left = 1) : backoffAt (n + 1) =
    { cursor := ((backoffAt n).cursor + 1) % 300
      left := expiry 300 (((backoffAt n).cursor + 1) % 300) (min ((backoffAt n).t1 * 2) 60)
      t1 := min ((backoffAt n).t1 * 2) 60
      sent := (backoffAt n).sent + 1 } := by
  rw [backoffAt_succ, Backoff.second, if_pos due]

/-- In any other it comes one second closer. -/
theorem backoffAt_waits {n : Nat} (waits : (backoffAt n).left ≠ 1) : backoffAt (n + 1) =
    { backoffAt n with
      cursor := ((backoffAt n).cursor + 1) % 300, left := (backoffAt n).left - 1 } := by
  rw [backoffAt_succ, Backoff.second, if_neg waits]

/-- T1 is never armed for less than a second, or for more than a minute. -/
theorem t1_backoffAt (n : Nat) : 1 ≤ (backoffAt n).t1 ∧ (backoffAt n).t1 ≤ 60 := by
  induction n with
  | zero => decide
  | succ n ih =>
    by_cases due : (backoffAt n).left = 1
    · rw [backoffAt_due due]
      dsimp only
      omega
    · rw [backoffAt_waits due]
      exact ih

theorem sent_succ (n : Nat) :
    (backoffAt n).sent ≤ (backoffAt (n + 1)).sent ∧
    (backoffAt (n + 1)).sent ≤ (backoffAt n).sent + 1 := by
  by_cases due : (backoffAt n).left = 1
  · rw [backoffAt_due due]
    exact ⟨Nat.le_succ _, Nat.le_refl _⟩
  · rw [backoffAt_waits due]
    exact ⟨Nat.le_refl _, Nat.le_succ _⟩

theorem sent_mono {n k : Nat} (le : n ≤ k) : (backoffAt n).sent ≤ (backoffAt k).sent := by
  induction le with
  | refl => exact Nat.le_refl _
  | step _ ih => exact Nat.le_trans ih (sent_succ _).1

theorem sent_le (n : Nat) : (backoffAt n).sent ≤ n := by
  induction n with
  | zero => decide
  | succ n ih => exact Nat.le_trans (sent_succ n).2 (Nat.succ_le_succ ih)

/-- The eleventh retransmission is due after 663 seconds, the twelfth after 723: T1 expires after 1,
3, 7, 15, 31, 63, 123, 183 and 243 seconds, is then armed across the end of the wheel, and expires
again after 603, 663 and 723. -/
theorem sent_table : (backoffAt 662).sent = 10 ∧ (backoffAt 663).sent = 11 ∧
    (backoffAt 722).sent = 11 ∧ (backoffAt 723).sent = 12 := by
  decide +kernel

theorem limit_passed_iff (n : Nat) : sctpAssocMaxRetrans < (backoffAt n).sent ↔ 663 ≤ n := by
  obtain ⟨before, eleven, -, -⟩ := sent_table
  have limit : sctpAssocMaxRetrans = 10 := rfl
  constructor
  · intro passed
    by_contra early
    have few := sent_mono (show n ≤ 662 by omega)
    omega
  · intro late
    have many := sent_mono late
    omega

theorem within_bound_iff (n : Nat) : (backoffAt n).sent ≤ sctpAssocMaxRetrans + 1 ↔ n < 723 := by
  obtain ⟨-, -, eleven, twelve⟩ := sent_table
  have limit : sctpAssocMaxRetrans = 10 := rfl
  constructor
  · intro few
    by_contra late
    have many := sent_mono (show 723 ≤ n by omega)
    omega
  · intro early
    have few := sent_mono (show n ≤ 722 by omega)
    omega

/-- The loop `n` seconds after `start`. -/
structure Follows (start : UInt64) (n : Nat) (c : InitLoop A) : Prop where
  wound : Wound 300 (backoffAt n).cursor (backoffAt n).left sctpT1InitExpire c.timer
  t1 : c.t1Timer.toNat = (backoffAt n).t1
  retrans : c.handshakeRetrans.toNat = (backoffAt n).sent
  resent : c.resent = (backoffAt n).sent
  time : c.globalTime.toNat = start.toNat + 1000 * n

namespace Follows

variable {start : UInt64} {n : Nat} {c : InitLoop A}

theorem toNat_min64_t1 (t1 : UInt64) (short : t1.toNat ≤ 60) :
    (min64 (t1 * 2) t1Max).toNat = min (t1.toNat * 2) 60 := by
  rw [toNat_min64, UInt64.toNat_mul, Nat.mod_eq_of_lt (by simp; omega)]
  rfl

/-- A second of the loop is a second of the schedule. -/
theorem second (follows : Follows start n c) (later : start.toNat + 1000 * n + 1000 < 2 ^ 64) :
    ∃ after, c.second = some after ∧ Follows start (n + 1) after := by
  obtain ⟨wound, t1, retrans, resent, time⟩ := follows
  obtain ⟨one_le, short⟩ := t1_backoffAt n
  have sent := sent_le n
  have stepped : (c.globalTime + sctpTimerStep).toNat = start.toNat + 1000 * (n + 1) := by
    have step : sctpTimerStep.toNat = 1000 := rfl
    rw [UInt64.toNat_add, time, step, Nat.mod_eq_of_lt later, Nat.add_assoc, Nat.mul_succ]
  by_cases due : (backoffAt n).left = 1
  · -- T1 expires: it is armed anew, and the INIT goes out again
    rw [due] at wound
    obtain ⟨timer, ticked, slack⟩ := wound.tick_fires (by decide) 256 (by decide)
    have doubled := toNat_min64_t1 c.t1Timer (by omega)
    obtain ⟨timer', inserted, wound'⟩ := slack.insert sctpT1InitExpire
      (min64 (c.t1Timer * 2) t1Max) (by omega) (by omega) (by decide)
    refine ⟨{ timer := timer', globalTime := c.globalTime + sctpTimerStep
              t1Timer := min64 (c.t1Timer * 2) t1Max, handshakeRetrans := c.handshakeRetrans + 1
              resent := c.resent + 1 }, ?_, ?_⟩
    · have signal : sctpT1InitExpire.toUInt32.toInt32 = 1 := by decide
      rw [signal] at ticked
      simp only [InitLoop.second, ticked, List.reverse_singleton, List.foldlM_cons, List.foldlM_nil,
        InitLoop.onSignal, if_true, inserted]
      rfl
    · have next := backoffAt_due due
      rw [doubled, t1] at wound'
      refine ⟨by rw [next]; exact wound', by rw [next, ← t1]; exact doubled, ?_,
        by rw [next]; exact congrArg (· + 1) resent, stepped⟩
      rw [next]
      dsimp only
      rw [UInt64.toNat_add, retrans, UInt64.toNat_one, Nat.mod_eq_of_lt (by omega)]
  · -- a tick without signal: nothing is sent, only the clock goes on
    obtain ⟨timer, ticked, wound'⟩ := wound.tick_waits (by decide) due 256 (by decide)
    refine ⟨{ c with timer := timer, globalTime := c.globalTime + sctpTimerStep }, ?_, ?_⟩
    · rw [InitLoop.second, ticked]
      rfl
    · have next := backoffAt_waits due
      exact ⟨by rw [next]; exact wound', by rw [next]; exact t1, by rw [next]; exact retrans,
        by rw [next]; exact resent, stepped⟩

omit [DecidableEq A] in
/-- How far the loop is behind a reading. -/
theorem gap {currentTime : UInt64} (follows : Follows start n c)
    (reached : start.toNat + 1000 * n ≤ currentTime.toNat) :
    (currentTime - c.globalTime).toNat = currentTime.toNat - (start.toNat + 1000 * n) := by
  have behind : c.globalTime ≤ currentTime := by
    rw [UInt64.le_iff_toNat_le, follows.time]
    exact reached
  rw [UInt64.toNat_sub_of_le _ _ behind, follows.time]

/-- The inner loop catches up with a reading that is not in the past. -/
theorem catchUp {currentTime : UInt64} (fuel : Nat) (follows : Follows start n c)
    (reached : start.toNat + 1000 * n ≤ currentTime.toNat)
    (enough : (currentTime.toNat - start.toNat) / 1000 < n + fuel) :
    ∃ after, Sctp.catchUp currentTime fuel c = some after ∧
      Follows start ((currentTime.toNat - start.toNat) / 1000) after := by
  -- on the seconds that are left, of which every turn of the loop takes one
  induction fuel generalizing n c with
  | zero => omega
  | succ fuel ih =>
    have bound := currentTime.toNat_lt
    have gap := follows.gap reached
    have step : sctpTimerStep.toNat = 1000 := rfl
    rw [Sctp.catchUp]
    split
    next behind =>
      rw [UInt64.le_iff_toNat_le, gap, step] at behind
      obtain ⟨after, second, follows'⟩ := follows.second (by omega)
      rw [second]
      apply ih follows'
      · rw [Nat.mul_succ, ← Nat.add_assoc]
        omega
      · omega
    next caught =>
      rw [UInt64.le_iff_toNat_le, gap, step] at caught
      have now : (currentTime.toNat - start.toNat) / 1000 = n := by omega
      rw [now]
      exact ⟨c, rfl, follows⟩

/-- A turn that is still taken brings the loop up to its reading. -/
theorem turn {currentTime : UInt64} (follows : Follows start n c)
    (reached : start.toNat + 1000 * n ≤ currentTime.toNat) (taken : n < 663) :
    ∃ after, c.turn currentTime = some after ∧
      Follows start ((currentTime.toNat - start.toNat) / 1000) after := by
  have below : ¬sctpAssocMaxRetrans < c.handshakeRetrans.toNat := by
    rw [follows.retrans, limit_passed_iff]
    omega
  rw [InitLoop.turn, if_neg below]
  apply follows.catchUp _ reached
  rw [follows.gap reached]
  omega

/-- A loop that has been left takes no more turns. -/
theorem initLoop_left (follows : Follows start n c) (left : 663 ≤ n) (readings : List UInt64) :
    initLoop c readings = some c := by
  have above : sctpAssocMaxRetrans < c.handshakeRetrans.toNat := by
    rw [follows.retrans, limit_passed_iff]
    exact left
  induction readings with
  | nil => rfl
  | cons reading readings ih =>
    rw [initLoop, List.foldlM_cons, InitLoop.turn, if_pos above]
    exact ih

/-- The whole loop: it is left at the first reading after 663 seconds, and has then sent what the
schedule has for that reading. -/
theorem initLoop (follows : Follows start n c) (taken : n < 663) (readings : List UInt64)
    (reached : ∀ reading ∈ readings, start.toNat + 1000 * n ≤ reading.toNat)
    (ordered : readings.Pairwise (· ≤ ·)) :
    ∃ after, Sctp.initLoop c readings = some after ∧
      (after.resent ≤ sctpAssocMaxRetrans + 1 ↔
        ∀ reading, readings.find? (fun reading => 663000 ≤ reading - start) = some reading →
          reading - start < 723000) := by
  induction readings generalizing n c with
  | nil =>
    refine ⟨c, rfl, ?_⟩
    rw [follows.resent, within_bound_iff]
    exact iff_of_true (by omega) (by simp)
  | cons reading readings ih =>
    obtain ⟨later, ordered⟩ := List.pairwise_cons.mp ordered
    have at_reading := reached reading List.mem_cons_self
    obtain ⟨mid, turned, follows'⟩ := follows.turn at_reading taken
    have elapsed : (reading - start).toNat = reading.toNat - start.toNat :=
      UInt64.toNat_sub_of_le _ _ (UInt64.le_iff_toNat_le.mpr (by omega))
    have six : (663000 : UInt64).toNat = 663000 := rfl
    have seven : (723000 : UInt64).toNat = 723000 := rfl
    rw [Sctp.initLoop, List.foldlM_cons, turned, List.find?_cons]
    by_cases left : 663 ≤ (reading.toNat - start.toNat) / 1000
    · -- this is the reading that `find?` finds, and the last one that is taken
      have found : decide (663000 ≤ reading - start) = true := by
        rw [decide_eq_true_iff, UInt64.le_iff_toNat_le, elapsed, six]
        omega
      refine ⟨mid, follows'.initLoop_left left readings, ?_⟩
      rw [found, follows'.resent, within_bound_iff]
      simp only [Option.some.injEq, forall_eq', UInt64.lt_iff_toNat_lt, elapsed, seven]
      omega
    · have passed : decide (663000 ≤ reading - start) = false := by
        rw [decide_eq_false_iff_not, UInt64.le_iff_toNat_le, elapsed, six]
        omega
      rw [passed]
      refine ih follows' (by omega) ?_ ordered
      intro other member
      have after := UInt64.le_iff_toNat_le.mp (later other member)
      omega

end Follows

/-- `create_allocator (CACHELINE_SIZE, 256)`, all of whose allocations succeed. -/
def eventsAllocator (cells : Nat → Ring.RingbufCell A) (memory : Nat → A) : RingQueue A :=
  RingQueue.allocator 8 (by decide) (by decide) cells memory 64 64

section Start

variable (cells : Nat → Ring.RingbufCell A) (memory : Nat → A) (nodes : A → RingtimerCallback A)
  (start : UInt64)

/-- T1 is armed for the first time on a new wheel. -/
theorem startInitLoop_follows :
    ∃ c, startInitLoop true true (eventsAllocator cells memory) nodes start = some c ∧
      Follows start 0 c := by
  have contents := RingQueue.contents_allocator 8 (by decide) (by decide) cells memory 64 64
  have slack : Slack 300 0 ({
      timers := fun _ => none, current := 0, max := 5 * 60, allocator := eventsAllocator cells memory
      nodes := nodes } : Ringtimer A) := by
    refine ⟨⟨rfl, rfl, by decide, ?_⟩, fun _ => rfl, ?_⟩
    · intro entry member
      rw [eventsAllocator, contents] at member
      obtain ⟨i, -, rfl⟩ := List.mem_map.mp member
      exact Option.some_ne_none _
    · intro empty
      have length := congrArg List.length empty
      rw [eventsAllocator, contents, List.length_map, List.length_range, List.length_nil] at length
      exact absurd length (by decide)
  obtain ⟨timer, inserted, wound⟩ :=
    slack.insert sctpT1InitExpire t1Min (by decide) (by decide) (by decide)
  refine ⟨{ timer := timer, globalTime := start, t1Timer := t1Min, handshakeRetrans := 0
            resent := 0 }, ?_, wound, rfl, rfl, rfl, rfl⟩
  simp only [startInitLoop, createRingtimer, Bool.and_self, if_true]
  rw [inserted]

/-- The INIT is sent again at most eleven times exactly if the first reading that finds the limit passed,
after 663 seconds, is taken before T1 expires once more, after 723. -/
theorem init_retransmissions_iff (timerMalloc timersCalloc : Bool) (readings : List UInt64)
    (c : InitLoop A)
    (started : startInitLoop timerMalloc timersCalloc (eventsAllocator cells memory) nodes start =
      some c)
    (ordered : (start :: readings).Pairwise (· ≤ ·)) :
    ∃ after, initLoop c readings = some after ∧
      (after.resent ≤ sctpAssocMaxRetrans + 1 ↔
        ∀ reading, readings.find? (fun reading => 663000 ≤ reading - start) = some reading →
          reading - start < 723000) := by
  have allocated : timerMalloc = true ∧ timersCalloc = true := by
    rw [← Bool.and_eq_true]
    by_contra failed
    simp [startInitLoop, createRingtimer, failed] at started
  obtain ⟨rfl, rfl⟩ := allocated
  obtain ⟨c', started', follows⟩ := startInitLoop_follows cells memory nodes start
  rw [started] at started'
  cases started'
  obtain ⟨later, ordered⟩ := List.pairwise_cons.mp ordered
  exact follows.initLoop (by decide) readings
    (fun reading member => UInt64.le_iff_toNat_le.mp (later reading member)) ordered

end Start

theorem init_retransmissions_iff_regular : ∃ c after,
    startInitLoop true true (eventsAllocator (fun _ => ⟨0, 0, none⟩) id) (fun _ => ⟨0, 0, 0, 0⟩) 5 =
      some c ∧
    initLoop c [70, 300000, 663005, 723005] = some after ∧
    after.resent ≤ sctpAssocMaxRetrans + 1 := by
  obtain ⟨c, started, -⟩ := startInitLoop_follows (fun _ => ⟨0, 0, none⟩) id
    (fun _ => (⟨0, 0, 0, 0⟩ : RingtimerCallback Nat)) 5
  obtain ⟨after, ran, bounded⟩ := init_retransmissions_iff _ _ _ 5 true true
    [70, 300000, 663005, 723005] c started (by decide)
  refine ⟨c, after, started, ran, bounded.mpr ?_⟩
  intro reading first
  have late : some 663005 = some reading := first
  cases late
  decide

/-- A clock that jumps by 723 seconds between two readings: twelve are sent in one turn. -/
theorem init_retransmitted_too_often : ∃ c after,
    startInitLoop true true (eventsAllocator (fun _ => ⟨0, 0, none⟩) id) (fun _ => ⟨0, 0, 0, 0⟩) 5 =
      some c ∧
    initLoop c [723005] = some after ∧ after.resent = 12 ∧
    ¬after.resent ≤ sctpAssocMaxRetrans + 1 := by
  obtain ⟨c, started, follows⟩ := startInitLoop_follows (fun _ => ⟨0, 0, none⟩) id
    (fun _ => (⟨0, 0, 0, 0⟩ : RingtimerCallback Nat)) 5
  obtain ⟨after, turned, follows'⟩ := follows.turn
    (show (5 : UInt64).toNat + 1000 * 0 ≤ (723005 : UInt64).toNat by decide) (by decide)
  have seconds : ((723005 : UInt64).toNat - (5 : UInt64).toNat) / 1000 = 723 := by decide
  rw [seconds] at follows'
  have twelve : after.resent = 12 := follows'.resent.trans sent_table.2.2.2
  refine ⟨c, after, started, ?_, twelve, by rw [twelve]; decide⟩
  rw [initLoop, List.foldlM_cons, turned]
  rfl

end Kpnet.Sctp
