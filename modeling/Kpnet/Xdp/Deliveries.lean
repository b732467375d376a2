import Kpnet.Lib.Runs
import Kpnet.Xdp.Rings

/-!
# What the kernel publishes is delivered

The receive ring and the completion ring are filled by the kernel and read by `xdp_rx` and
`xdp_complete_tx`. Whatever the order of publications and calls, the batches of the calls, one
behind the other, are the published entries in their order; what was not put out yet lies between
the indices, which may have wrapped any number of times.
-/
namespace Kpnet.Xdp

open Runs SlotRing

/-- What can happen to a ring that the kernel fills. -/
inductive ConsumerAction (α : Type) where
  | publish (entry : α)
  | call (maxN : UInt32)

inductive ConsumerEvent (α β : Type) where
  | published (entry : α)
  | returned (batch : List β)

section Runs

variable {α β : Type}

/-- One step; the kernel leaves no more than 4096 entries unread. -/
def consumerAct (call : SlotRing α → UInt32 → List β × SlotRing α) (ring : SlotRing α) :
    ConsumerAction α → Option (SlotRing α × List (ConsumerEvent α β))
  | .publish entry =>
    if ring.used < 4096 then
      some ((ring.write ringBits 0 entry).publish 1, [.published entry])
    else none
  | .call maxN =>
    let (batch, ring) := call ring maxN
    some (ring, [.returned batch])

/-- What the kernel has published, oldest first. -/
def publications (log : List (ConsumerEvent α β)) : List α :=
  log.filterMap fun
    | .published entry => some entry
    | .returned _ => none

/-- What the calls have put out, one batch behind the other. -/
def deliveries (log : List (ConsumerEvent α β)) : List β :=
  log.flatMap fun
    | .published _ => []
    | .returned batch => batch

@[simp] theorem publications_append_published (log : List (ConsumerEvent α β)) (entry : α) :
    publications (log ++ [.published entry]) = publications log ++ [entry] := by
  simp [publications]

@[simp] theorem publications_append_returned (log : List (ConsumerEvent α β)) (batch : List β) :
    publications (log ++ [.returned batch]) = publications log := by
  simp [publications]

@[simp] theorem deliveries_append_published (log : List (ConsumerEvent α β)) (entry : α) :
    deliveries (log ++ [.published entry]) = deliveries log := by
  simp [deliveries]

@[simp] theorem deliveries_append_returned (log : List (ConsumerEvent α β)) (batch : List β) :
    deliveries (log ++ [.returned batch]) = deliveries log ++ batch := by
  simp [deliveries]

/-- The ring that publications alone would leave. -/
def publishAll (ring : SlotRing α) (entries : List α) : SlotRing α :=
  entries.foldl (fun ring entry => (ring.write ringBits 0 entry).publish 1) ring

theorem publishAll_concat (ring : SlotRing α) (entries : List α) (entry : α) :
    publishAll ring (entries ++ [entry]) =
      ((publishAll ring entries).write ringBits 0 entry).publish 1 := by
  rw [publishAll, List.foldl_append]
  rfl

/-- What holds of a ring and its log after any number of steps. The two sides own one index each, so
the ring is known from what was published and how much was put out. -/
structure Delivered (out : α → β) (start ring : SlotRing α) (log : List (ConsumerEvent α β)) :
    Prop where
  bounded : ring.used ≤ 4096
  indices : ring =
    (publishAll start (publications log)).release (UInt32.ofNat (deliveries log).length)
  fifo : ∃ taken, start.window ringBits ++ publications log = taken ++ ring.window ringBits ∧
    deliveries log = taken.map out

/-- The outputs are the front of what was published, and the rest lies between the indices. -/
def InOrder (out : α → β) (start ring : SlotRing α) (log : List (ConsumerEvent α β)) : Prop :=
  deliveries log <+: (start.window ringBits ++ publications log).map out ∧
  ring.window ringBits = (start.window ringBits ++ publications log).drop (deliveries log).length

namespace Delivered

variable {out : α → β} {start ring : SlotRing α} {log : List (ConsumerEvent α β)}

theorem initial (bounded : start.used ≤ 4096) : Delivered out start start [] := by
  refine ⟨bounded, ?_, [], ?_, rfl⟩
  · simp [publications, deliveries, publishAll, release]
  · simp [publications]

/-- An entry is put behind the others. -/
theorem publish (delivered : Delivered out start ring log) (room : ring.used < 4096) (entry : α) :
    Delivered out start ((ring.write ringBits 0 entry).publish 1) (log ++ [.published entry]) := by
  obtain ⟨-, indices, taken, split, outputs⟩ := delivered
  refine ⟨?_, ?_, taken, ?_, ?_⟩
  · rw [used_publish _ _ (by rw [used_write, UInt32.toNat_one]; omega), used_write, UInt32.toNat_one]
    omega
  · -- the kernel's index does not depend on the other one
    rw [publications_append_published, deliveries_append_published, publishAll_concat, indices]
    rfl
  · rw [publications_append_published, window_add_one _ (by decide) _ _ room, ← List.append_assoc,
      split, List.append_assoc]
  · rw [deliveries_append_published, outputs]

/-- A batch is cut off the front. -/
theorem call (delivered : Delivered out start ring log) (maxN : UInt32) :
    Delivered out start (takeBatch out ring maxN).2
      (log ++ [.returned (takeBatch out ring maxN).1]) := by
  obtain ⟨bounded, indices, taken, split, outputs⟩ := delivered
  rw [takeBatch_eq]
  -- a batch is as long as the caller allows and the ring holds
  generalize count : min maxN.toNat ring.used = n
  have available : n ≤ ring.used := by omega
  have index : (UInt32.ofNat n).toNat = n :=
    UInt32.toNat_ofNat_of_lt' (show _ < 2 ^ 32 by omega)
  refine ⟨?_, ?_, taken ++ (ring.window ringBits).take n, ?_, ?_⟩
  · rw [used_release _ _ (by omega)]
    omega
  · rw [publications_append_returned, deliveries_append_returned, List.length_append,
      List.length_map, List.length_take, length_window, Nat.min_eq_left available, indices,
      release_release]
  · rw [publications_append_returned, window_release _ _ _ (by omega), index, List.append_assoc,
      List.take_append_drop, split]
  · rw [deliveries_append_returned, outputs, List.map_append]

/-- The invariant over whole runs. -/
theorem of_run {actions : List (ConsumerAction α)} (bounded : start.used ≤ 4096)
    (ran : run (consumerAct (takeBatch out)) start actions = some (ring, log)) :
    Delivered out start ring log := by
  refine run_induction _ (fun _ _ => True) start (fun _ ring log => Delivered out start ring log)
    (initial bounded) ?_ actions ring log ran (along_true _ start actions)
  intro _ action mid before after ev _ delivered _ stepped
  cases action with
  | publish entry =>
    simp only [consumerAct] at stepped
    split at stepped
    next room =>
      cases stepped
      exact delivered.publish room entry
    · cases stepped
  | call maxN =>
    cases stepped
    exact delivered.call maxN

theorem inOrder (delivered : Delivered out start ring log) : InOrder out start ring log := by
  obtain ⟨-, -, taken, split, outputs⟩ := delivered
  rw [InOrder, split, outputs, List.map_append, List.length_map]
  exact ⟨List.prefix_append _ _, (List.drop_left ..).symm⟩

/-- What was published and how much of it was put out says all. -/
theorem unique {ring' : SlotRing α} {log' : List (ConsumerEvent α β)}
    (delivered : Delivered out start ring log) (delivered' : Delivered out start ring' log')
    (published : publications log' = publications log)
    (amount : (deliveries log').length = (deliveries log).length) :
    ring' = ring ∧ deliveries log' = deliveries log := by
  constructor
  · rw [delivered'.indices, delivered.indices, published, amount]
  · obtain ⟨front, -⟩ := delivered.inOrder
    obtain ⟨front', -⟩ := delivered'.inOrder
    rw [published] at front'
    exact (List.prefix_of_prefix_length_le front' front amount.le).eq_of_length amount

end Delivered

/-- The next call puts out as many entries as its caller allows and the ring holds, from the front, and
gives their slots back. -/
def Batches (out : α → β) (call : SlotRing α → UInt32 → List β × SlotRing α) (ring : SlotRing α) :
    Prop :=
  ∀ maxN : UInt32, call ring maxN =
    (((ring.window ringBits).take (min maxN.toNat ring.used)).map out,
      ring.release (UInt32.ofNat (min maxN.toNat ring.used)))

theorem takeBatch_in_order (out : α → β) (start ring : SlotRing α) (actions : List (ConsumerAction α))
    (log : List (ConsumerEvent α β)) (bounded : start.used ≤ 4096)
    (ran : run (consumerAct (takeBatch out)) start actions = some (ring, log)) :
    InOrder out start ring log ∧ Batches out (takeBatch out) ring ∧
    ∀ actions' ring' log', run (consumerAct (takeBatch out)) start actions' = some (ring', log') →
      publications log' = publications log →
      (deliveries log').length = (deliveries log).length →
      ring' = ring ∧ deliveries log' = deliveries log := by
  have delivered : Delivered out start ring log := Delivered.of_run bounded ran
  refine ⟨delivered.inOrder, takeBatch_eq out ring, ?_⟩
  intro actions' ring' log' ran'
  exact delivered.unique (Delivered.of_run bounded ran')

end Runs

/-- Both rings deliver what the kernel publishes once and in its order. In every state that is reached
a call puts out the oldest entries, as many as its caller allows and the ring holds; and two runs with
the same publications that have put out equally much do not differ, however it was cut into
batches. -/
theorem consumer_rings_in_order :
    (∀ (start ring : SlotRing XdpDesc) actions log, start.used ≤ 4096 →
      run (consumerAct xdpRx) start actions = some (ring, log) →
      InOrder (fun desc => (desc.addr, desc.len)) start ring log ∧
      Batches (fun desc => (desc.addr, desc.len)) xdpRx ring ∧
      ∀ actions' ring' log', run (consumerAct xdpRx) start actions' = some (ring', log') →
        publications log' = publications log →
        (deliveries log').length = (deliveries log).length →
        ring' = ring ∧ deliveries log' = deliveries log) ∧
    (∀ (start ring : SlotRing UInt64) actions log, start.used ≤ 4096 →
      run (consumerAct xdpCompleteTx) start actions = some (ring, log) →
      InOrder id start ring log ∧ Batches id xdpCompleteTx ring ∧
      ∀ actions' ring' log', run (consumerAct xdpCompleteTx) start actions' = some (ring', log') →
        publications log' = publications log →
        (deliveries log').length = (deliveries log).length →
        ring' = ring ∧ deliveries log' = deliveries log) :=
  ⟨takeBatch_in_order fun desc : XdpDesc => (desc.addr, desc.len), takeBatch_in_order id⟩

/-- Three entries are published, and two calls put them out. -/
def threeEntries {α : Type} (first second third : α) : List (ConsumerAction α) :=
  [.publish first, .publish second, .call 1, .publish third, .call 9]

/-- The indices wrap behind the second entry. -/
theorem consumer_rings_in_order_wrapping :
    (∃ (ring : SlotRing XdpDesc) (log : List (ConsumerEvent XdpDesc (UInt64 × UInt32))),
      run (consumerAct xdpRx) ⟨4294967294, 4294967294, fun _ => ⟨0, 0, 0⟩⟩
        (threeEntries ⟨0, 66, 0⟩ ⟨4096, 50, 0⟩ ⟨8192, 110, 0⟩) = some (ring, log) ∧
      deliveries log = [(0, 66), (4096, 50), (8192, 110)] ∧ ring.window ringBits = [] ∧
      xdpRx ring 9 = ([], ring)) ∧
    (∃ (ring : SlotRing UInt64) (log : List (ConsumerEvent UInt64 UInt64)),
      run (consumerAct xdpCompleteTx) ⟨4294967294, 4294967294, fun _ => 0⟩
        (threeEntries 0 4096 8192) = some (ring, log) ∧
      deliveries log = [0, 4096, 8192] ∧ ring.window ringBits = [] ∧
      xdpCompleteTx ring 9 = ([], ring)) := by
  obtain ⟨rx, completion⟩ := consumer_rings_in_order
  obtain ⟨received, batches, -⟩ := rx ⟨4294967294, 4294967294, fun _ => ⟨0, 0, 0⟩⟩ _
    (threeEntries ⟨0, 66, 0⟩ ⟨4096, 50, 0⟩ ⟨8192, 110, 0⟩) _ (by decide) rfl
  obtain ⟨completed, batches', -⟩ := completion ⟨4294967294, 4294967294, fun _ => 0⟩ _
    (threeEntries 0 4096 8192) _ (by decide) rfl
  exact ⟨⟨_, _, rfl, received.1.eq_of_length rfl, received.2, batches 9⟩,
    ⟨_, _, rfl, completed.1.eq_of_length rfl, completed.2, batches' 9⟩⟩

end Kpnet.Xdp
