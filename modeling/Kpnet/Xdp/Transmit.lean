import Kpnet.Lib.Runs
import Kpnet.Xdp.Rings

/-!
# Frames on the transmit ring

`xdp_tx` publishes the segments of a frame as consecutive descriptors and marks all but the
last as continued; the kernel takes descriptors off the other end whenever it likes. Cut
behind every unmarked descriptor, all that was ever published is the frames that the calls
accepted, whole and in order.
-/
namespace Kpnet.Xdp

open Runs

/-- What can happen to a transmit ring. -/
inductive TxAction where
  | call (xdpSegs : Nat → UInt64) (xdpSegLens : Nat → UInt32) (n : UInt32)
  | consume

/-- One call of `xdp_tx`, with the ring before and after it. -/
structure TxCall where
  xdpSegs : Nat → UInt64
  xdpSegLens : Nat → UInt32
  n : UInt32
  ret : UInt32
  before : SlotRing XdpDesc
  after : SlotRing XdpDesc

/-- The segments a call was given. -/
def TxCall.segments (c : TxCall) : List (UInt64 × UInt32) :=
  (List.range c.n.toNat).map fun i => (c.xdpSegs i, c.xdpSegLens i)

/-- Their descriptors. -/
def TxCall.descs (c : TxCall) : List XdpDesc :=
  (List.range c.n.toNat).map (txDesc c.xdpSegs c.xdpSegLens c.n)

inductive TxEvent where
  | called (c : TxCall)
  | consumed (desc : XdpDesc) (before after : SlotRing XdpDesc)

/-- The kernel takes the descriptor at its own index, if the indices differ. -/
def txAct (ring : SlotRing XdpDesc) : TxAction → Option (SlotRing XdpDesc × List TxEvent)
  | .call xdpSegs xdpSegLens n =>
    let (ret, after) := xdpTx ring xdpSegs xdpSegLens n
    some (after, [.called ⟨xdpSegs, xdpSegLens, n, ret, ring, after⟩])
  | .consume =>
    if ring.producer = ring.consumer then none
    else
      let desc := ring.slots (SlotRing.slot ringBits ring.consumer)
      some (ring.release 1, [.consumed desc ring (ring.release 1)])

/-- The descriptors the kernel has taken, in its order. -/
def consumed (log : List TxEvent) : List XdpDesc :=
  log.filterMap fun
    | .consumed desc _ _ => some desc
    | .called _ => none

/-- The calls that did not return 0. -/
def accepted (log : List TxEvent) : List TxCall :=
  log.filterMap fun
    | .called c => if c.ret = 0 then none else some c
    | .consumed _ _ _ => none

/-- Cuts behind every descriptor without `XDP_PKT_CONTD`; what is left has no end yet. -/
def splitPackets : List XdpDesc → List (List XdpDesc) × List XdpDesc
  | [] => ([], [])
  | d :: ds =>
    let (packets, rest) := splitPackets ds
    if d.options &&& xdpPktContd = 0 then ([d] :: packets, rest)
    else
      match packets with
      | [] => ([], d :: rest)
      | p :: packets => ((d :: p) :: packets, rest)

/-- A run of continued descriptors and one final one is cut off in one piece. -/
theorem splitPackets_append (front : List XdpDesc) (last : XdpDesc) (ds : List XdpDesc)
    (continued : ∀ d ∈ front, d.options = xdpPktContd) (final : last.options = 0) :
    splitPackets (front ++ last :: ds) =
      ((front ++ [last]) :: (splitPackets ds).1, (splitPackets ds).2) := by
  induction front with
  | nil => simp [splitPackets, final, xdpPktContd]
  | cons d front ih =>
    have tail := ih fun d member => continued d (List.mem_cons_of_mem _ member)
    have marked := continued d List.mem_cons_self
    simp [splitPackets, tail, marked, xdpPktContd]

/-- The descriptors of a call are such a run. -/
theorem splitPackets_descs (c : TxCall) (nonempty : c.n ≠ 0) (ds : List XdpDesc) :
    splitPackets (c.descs ++ ds) = (c.descs :: (splitPackets ds).1, (splitPackets ds).2) := by
  have positive : 0 < c.n.toNat := toNat_pos nonempty
  have bound := c.n.toNat_lt
  have last : (c.n - 1).toNat = c.n.toNat - 1 := top_pred nonempty
  have index (i : Nat) (inside : i < c.n.toNat) : (UInt32.ofNat i).toNat = i :=
    UInt32.toNat_ofNat_of_lt' (show _ < 2 ^ 32 by omega)
  have split : c.descs = (List.range (c.n.toNat - 1)).map (txDesc c.xdpSegs c.xdpSegLens c.n) ++
      [txDesc c.xdpSegs c.xdpSegLens c.n (c.n.toNat - 1)] := by
    rw [TxCall.descs]
    conv => lhs; rw [← Nat.sub_one_add_one_eq_of_pos positive, List.range_succ]
    rw [List.map_append, List.map_singleton]
  rw [split, List.append_assoc, List.singleton_append]
  apply splitPackets_append
  · -- `i < n - 1` marks all but the last
    intro d member
    obtain ⟨i, inside, rfl⟩ := List.mem_map.mp member
    have below := List.mem_range.mp inside
    refine if_pos (UInt32.lt_iff_toNat_lt.mpr ?_)
    rw [index i (by omega), last]
    exact below
  · refine if_neg fun less => ?_
    have below := UInt32.lt_iff_toNat_lt.mp less
    rw [index _ (by omega), last] at below
    omega

/-- What is refused, and why. -/
def TxCall.Refused (c : TxCall) : Prop :=
  (c.n = 0 ∨ 16 < c.n.toNat ∨ 4096 - c.before.used < c.n.toNat) ∧ c.ret = 0 ∧ c.after = c.before

/-- What is taken, and where it goes. -/
def TxCall.Taken (c : TxCall) : Prop :=
  c.n ≠ 0 ∧ c.n.toNat ≤ 16 ∧ c.before.used + c.n.toNat ≤ 4096 ∧ c.ret = c.n ∧
    c.after.used = c.before.used + c.n.toNat ∧
    c.after.window ringBits = c.before.window ringBits ++ c.descs

/-- One call of `xdp_tx`. -/
theorem xdpTx_cases (ring : SlotRing XdpDesc) (xdpSegs : Nat → UInt64)
    (xdpSegLens : Nat → UInt32) (n : UInt32) (bounded : ring.used ≤ 4096) :
    let call : TxCall := ⟨xdpSegs, xdpSegLens, n, (xdpTx ring xdpSegs xdpSegLens n).1, ring,
      (xdpTx ring xdpSegs xdpSegLens n).2⟩
    call.Refused ∨ call.Taken := by
  have free := toNat_free ring bounded
  have limit : xdpMaxSegs.toNat = 16 := rfl
  simp only [xdpTx]
  split
  next bad =>
    refine .inl ⟨?_, rfl, rfl⟩
    rcases bad with zero | many
    · exact .inl zero
    · have more := UInt32.lt_iff_toNat_lt.mp many
      exact .inr (.inl (by rw [limit] at more; exact more))
  next good =>
    have nonzero : n ≠ 0 := fun zero => good (.inl zero)
    have few := UInt32.le_iff_toNat_le.mp (UInt32.not_lt.mp fun many => good (.inr many))
    rw [limit] at few
    split
    next full =>
      -- the free entries are computed in 32 bits, as are the indices
      have less := UInt32.lt_iff_toNat_lt.mp full
      rw [free] at less
      exact .inl ⟨.inr (.inr less), rfl, rfl⟩
    next fits =>
      have room := UInt32.le_iff_toNat_le.mp (UInt32.not_lt.mp fits)
      rw [free] at room
      have size : 2 ^ ringBits = 4096 := rfl
      have written : (ring.writeAll ringBits (txDesc xdpSegs xdpSegLens n) n.toNat).used +
          n.toNat < 2 ^ 32 := by
        rw [SlotRing.used_writeAll]
        omega
      refine .inr ⟨nonzero, few, ?_, rfl, ?_, ?_⟩
      · dsimp only
        omega
      · rw [SlotRing.used_publish _ _ written, SlotRing.used_writeAll]
      · rw [SlotRing.window_publish _ _ _ written, SlotRing.upTo_writeAll _ (by decide) _ _ _ (by
          omega)]
        rfl

/-- What holds of a ring and its log after any number of steps. -/
structure Framed (ring : SlotRing XdpDesc) (log : List TxEvent) : Prop where
  bounded : ring.used ≤ 4096
  calls : ∀ c, .called c ∈ log → c.Refused ∨ c.Taken
  consumes : ∀ desc before after, .consumed desc before after ∈ log →
    before.window ringBits = desc :: after.window ringBits
  published : consumed log ++ ring.window ringBits = (accepted log).flatMap TxCall.descs

namespace Framed

variable {ring : SlotRing XdpDesc} {log : List TxEvent}

/-- A call whose outcome is known. -/
theorem call {c : TxCall} (framed : Framed c.before log) (outcome : c.Refused ∨ c.Taken) :
    Framed c.after (log ++ [.called c]) := by
  have calls : ∀ d, TxEvent.called d ∈ log ++ [.called c] → d.Refused ∨ d.Taken := by
    intro d member
    rcases List.mem_append.mp member with old | new
    · exact framed.calls d old
    · cases List.mem_singleton.mp new
      exact outcome
  have consumes : ∀ desc before after, TxEvent.consumed desc before after ∈ log ++ [.called c] →
      before.window ringBits = desc :: after.window ringBits := by
    intro desc before after member
    rcases List.mem_append.mp member with old | new
    · exact framed.consumes desc before after old
    · cases List.mem_singleton.mp new
  have published := framed.published
  rcases outcome with ⟨-, zero, same⟩ | ⟨nonzero, few, room, whole, used, window⟩
  · -- a call that is refused leaves ring and sequence as they were
    rw [same]
    refine ⟨framed.bounded, calls, consumes, ?_⟩
    simpa [consumed, accepted, zero] using published
  · refine ⟨by rw [used]; exact room, calls, consumes, ?_⟩
    -- the new entries are at the end of the window and of the published sequence
    have quiet : consumed (log ++ [.called c]) = consumed log := by simp [consumed]
    have extended : accepted (log ++ [.called c]) = accepted log ++ [c] := by
      simp [accepted, whole, nonzero]
    rw [quiet, extended, window, ← List.append_assoc, published, List.flatMap_append,
      List.flatMap_singleton]

/-- The kernel takes the oldest descriptor. -/
theorem consume (framed : Framed ring log) (differ : ring.producer ≠ ring.consumer) :
    Framed (ring.release 1) (log ++ [.consumed (ring.slots (SlotRing.slot ringBits ring.consumer))
      ring (ring.release 1)]) := by
  have taken := SlotRing.window_take_one ringBits ring differ
  refine ⟨?_, ?_, ?_, ?_⟩
  · rw [SlotRing.used_release ring 1 (ring.used_pos differ)]
    exact Nat.le_trans (Nat.sub_le _ _) framed.bounded
  · intro c member
    rcases List.mem_append.mp member with old | new
    · exact framed.calls c old
    · cases List.mem_singleton.mp new
  · intro desc before after member
    rcases List.mem_append.mp member with old | new
    · exact framed.consumes desc before after old
    · cases List.mem_singleton.mp new
      exact taken
  · have published := framed.published
    rw [taken] at published
    simpa [consumed, accepted] using published

/-- One step of the library or of the kernel. -/
theorem step (framed : Framed ring log) {after : SlotRing XdpDesc} {ev : List TxEvent}
    {a : TxAction} (stepped : txAct ring a = some (after, ev)) : Framed after (log ++ ev) := by
  cases a with
  | call xdpSegs xdpSegLens n =>
    have outcome := xdpTx_cases ring xdpSegs xdpSegLens n framed.bounded
    simp only [txAct, Option.some.injEq, Prod.mk.injEq] at stepped
    obtain ⟨rfl, rfl⟩ := stepped
    exact call framed outcome
  | consume =>
    simp only [txAct] at stepped
    split at stepped
    · cases stepped
    next differ =>
      cases stepped
      exact framed.consume differ

end Framed

/-- Accepted calls published something. -/
theorem Framed.accepted_nonempty {ring : SlotRing XdpDesc} {log : List TxEvent}
    (framed : Framed ring log) : ∀ c ∈ accepted log, c.n ≠ 0 := by
  intro c member
  obtain ⟨event, logged, kept⟩ := List.mem_filterMap.mp member
  cases event with
  | consumed desc before after => cases kept
  | called d =>
    dsimp only at kept
    split at kept
    · cases kept
    next nonzero =>
      cases kept
      rcases framed.calls c logged with ⟨-, zero, -⟩ | ⟨nonempty, -⟩
      · exact absurd zero nonzero
      · exact nonempty

/-- The frames are cut out again. -/
theorem splitPackets_flatMap (calls : List TxCall) (nonempty : ∀ c ∈ calls, c.n ≠ 0) :
    splitPackets (calls.flatMap TxCall.descs) = (calls.map TxCall.descs, []) := by
  induction calls with
  | nil => rfl
  | cons c calls ih =>
    rw [List.flatMap_cons, splitPackets_descs c (nonempty c List.mem_cons_self),
      ih fun d member => nonempty d (List.mem_cons_of_mem _ member)]
    rfl

/-- The transmit ring, for any indices to start with and any interleaving with the kernel. -/
theorem xdp_tx_framing (start after : SlotRing XdpDesc) (empty : start.producer = start.consumer)
    (actions : List TxAction) (log : List TxEvent)
    (ran : run txAct start actions = some (after, log)) :
    (after.producer - after.consumer).toNat ≤ 4096 ∧
    (∀ c, .called c ∈ log →
      ((c.n = 0 ∨ 16 < c.n.toNat ∨ 4096 - c.before.used < c.n.toNat) ∧
        c.ret = 0 ∧ c.after = c.before) ∨
      (¬(c.n = 0 ∨ 16 < c.n.toNat ∨ 4096 - c.before.used < c.n.toNat) ∧ c.ret = c.n ∧
        c.after.window ringBits = c.before.window ringBits ++ c.descs)) ∧
    (∀ desc before after, .consumed desc before after ∈ log →
      before.window ringBits = desc :: after.window ringBits) ∧
    (splitPackets (consumed log ++ after.window ringBits)).1.map
        (fun packet => packet.map fun desc => (desc.addr, desc.len)) =
      (accepted log).map TxCall.segments ∧
    (splitPackets (consumed log ++ after.window ringBits)).2 = [] := by
  have framed : Framed after log := by
    refine run_induction txAct (fun _ _ => True) start (fun _ ring log => Framed ring log) ?_ ?_
      actions after log ran (along_true txAct start actions)
    · have drained := SlotRing.used_eq_zero empty
      refine ⟨by omega, by simp, by simp, ?_⟩
      rw [SlotRing.window_eq_nil ringBits empty]
      rfl
    · intro _ a mid log after ev _ framed _ stepped
      exact framed.step stepped
  -- all that was published is cut up again, wherever the kernel has got to
  have cut := splitPackets_flatMap (accepted log) framed.accepted_nonempty
  rw [← framed.published] at cut
  refine ⟨framed.bounded, ?_, framed.consumes, ?_, by rw [cut]⟩
  · intro c member
    rcases framed.calls c member with refused | ⟨nonzero, few, room, whole, -, window⟩
    · exact .inl refused
    · refine .inr ⟨?_, whole, window⟩
      push Not
      exact ⟨nonzero, few, by omega⟩
  · rw [cut, List.map_map]
    refine List.map_congr_left fun c _ => ?_
    simp [TxCall.descs, TxCall.segments, txDesc]

/-- A ring whose indices are about to wrap. -/
def wrappingRing : SlotRing XdpDesc := ⟨0xFFFFFFFE, 0xFFFFFFFE, fun _ => ⟨0, 0, 0⟩⟩

/-- A frame in two segments, one the call does not take, and one more. -/
def threeCalls : List TxAction :=
  [.call (fun i => UInt64.ofNat (4096 * i)) (fun _ => 60) 2, .consume,
    .call (fun _ => 0) (fun _ => 1) 17, .call (fun _ => 12288) (fun _ => 20) 1]

theorem xdp_tx_framing_wrapping : ∃ after log,
    run txAct wrappingRing threeCalls = some (after, log) ∧
    (splitPackets (consumed log ++ after.window ringBits)).1.map
        (fun packet => packet.map fun desc => (desc.addr, desc.len)) =
      [[(0, 60), (4096, 60)], [(12288, 20)]] := by
  have seen : (run txAct wrappingRing threeCalls).map
      (fun r => (accepted r.2).map TxCall.segments) = some [[(0, 60), (4096, 60)], [(12288, 20)]] := by
    decide +kernel
  obtain ⟨⟨after, log⟩, ran, segments⟩ := Option.map_eq_some_iff.mp seen
  have framing := xdp_tx_framing wrappingRing after rfl threeCalls log ran
  exact ⟨after, log, ran, by rw [framing.2.2.2.1, segments]⟩

end Kpnet.Xdp
