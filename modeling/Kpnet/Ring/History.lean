import Kpnet.Lib.LastWritten
import Kpnet.Ring.Queue

/-!
# What the cells of a ring still hold

`pop_ringbuf` takes an entry out of the queue by its sequence number alone: the packet stays in the
cell until a later push takes the cell. The cells therefore hold the last packets that were pushed,
whether they are still queued or not. That is what the failure path of `create_allocator` leaves
behind, and what `free_ringbuf` frees.
-/
namespace Kpnet.Ring

open BoundedQueue (Call Reply pushed popped pushed_cons popped_cons)

variable {α : Type}

/-- The packet in a cell. -/
def Ringbuf.packet (rb : Ringbuf α) (i : Nat) : Option α := (rb.cells i).packet

/-- A position that is claimed is that of the counter. -/
theorem claimLoop_claimed {rb : Ringbuf α} {counter lead : UInt64} {fuel : Nat} {cas : List Bool}
    {pos pos' : UInt64} (claimed : claimLoop rb counter lead fuel cas pos = some (some pos')) :
    pos' = counter := by
  induction fuel generalizing cas pos with
  | zero => cases claimed
  | succ fuel ih =>
    rw [claimLoop] at claimed
    split at claimed
    next ready =>
      split at claimed
      next exchanged =>
        cases claimed
        exact exchanged.1.symm
      next failed => exact ih claimed
    next other =>
      split at claimed
      next behind => cases claimed
      next ahead => exact ih claimed

/-- A push that is accepted stores its packet at `head`. -/
theorem packet_push {fuel : Nat} {cas : List Bool} {rb rb' : Ringbuf α} {packet : Option α}
    {plen : UInt64} (accepted : pushRingbuf fuel cas rb packet plen = some (0, rb')) :
    rb'.packet = Function.update rb.packet (rb.slot rb.head) packet := by
  unfold pushRingbuf at accepted
  split at accepted
  next stuck => cases accepted
  next full => cases accepted
  next pos claimed =>
    cases accepted
    rw [claimLoop_claimed claimed]
    funext i
    by_cases own : i = rb.slot rb.head
    · rw [own, Function.update_self, Ringbuf.packet, Ringbuf.setCell_self]
    · rw [Function.update_of_ne own, Ringbuf.packet, Ringbuf.setCell_of_ne _ _ own]
      rfl

/-- A pop leaves all packets where they are. -/
theorem packet_pop {fuel : Nat} {cas : List Bool} {rb rb' : Ringbuf α} {cell : Option Nat}
    (returned : popRingbuf fuel cas rb = some (cell, rb')) : rb'.packet = rb.packet := by
  unfold popRingbuf at returned
  split at returned
  next stuck => cases returned
  next drained =>
    cases returned
    rfl
  next pos claimed =>
    cases returned
    funext i
    by_cases own : i = rb.slot pos
    · rw [own, Ringbuf.packet, Ringbuf.setCell_self]
      rfl
    · rw [Ringbuf.packet, Ringbuf.setCell_of_ne _ _ own]
      rfl

/-- A ring between calls, with all packets that were ever pushed and the number of those that were
popped. -/
structure Recorded (k : Nat) (initial : Nat → Option α) (rb : Ringbuf α)
    (history : List (Option α)) (t : Nat) : Prop where
  quiescent : Quiescent k history.length t rb
  written : LastWritten (2 ^ k) initial rb.packet history

namespace Recorded

variable {k t : Nat} {initial : Nat → Option α} {rb : Ringbuf α} {history : List (Option α)}

/-- What is queued was pushed last. -/
theorem contents (recorded : Recorded k initial rb history t) :
    rb.contents.map Prod.fst = history.drop t := by
  have ordered := recorded.quiescent.ordered
  have bounded := recorded.quiescent.bounded
  have last := recorded.written.map_last (m := history.length - t) (by omega) (by omega)
  rw [show history.length - (history.length - t) = t by omega] at last
  rw [recorded.quiescent.contents, List.map_map, ← last]
  rfl

theorem push (recorded : Recorded k initial rb history t) (room : history.length < t + 2 ^ k)
    (packet : Option α) (plen : UInt64) (fuel : Nat) (cas : List Bool) (enough : cas.length < fuel) :
    ∃ rb', pushRingbuf fuel cas rb packet plen = some (0, rb') ∧
      Recorded k initial rb' (history ++ [packet]) t := by
  obtain ⟨rb', accepted, quiescent, -⟩ :=
    recorded.quiescent.push_room room packet plen fuel cas enough
  refine ⟨rb', accepted, ?_, ?_⟩
  · rw [List.length_append, List.length_singleton]
    exact quiescent
  · rw [packet_push accepted, recorded.quiescent.head, recorded.quiescent.slot]
    exact recorded.written.push packet

theorem pop (recorded : Recorded k initial rb history t) (queued : t < history.length) (fuel : Nat)
    (cas : List Bool) (enough : cas.length < fuel) :
    ∃ i rb', popRingbuf fuel cas rb = some (some i, rb') ∧
      Recorded k initial rb' history (t + 1) := by
  obtain ⟨rb', returned, quiescent, -⟩ := recorded.quiescent.pop_some queued fuel cas enough
  refine ⟨_, rb', returned, quiescent, ?_⟩
  rw [packet_pop returned]
  exact recorded.written

/-- One call of a run, whatever its reply is. -/
theorem call (recorded : Recorded k initial rb history t) (fuel : Nat)
    (c : Call (Option α × UInt64) × List Bool) (enough : c.2.length < fuel) :
    ∃ reply after, callRingbuf fuel rb c = some (reply, after) ∧
      Recorded k initial after (history ++ (pushed [c.1] [reply]).map Prod.fst)
        (t + popped [reply]) := by
  have ordered := recorded.quiescent.ordered
  have bounded := recorded.quiescent.bounded
  obtain ⟨call, cas⟩ := c
  cases call with
  | push x =>
    obtain ⟨packet, plen⟩ := x
    by_cases room : history.length < t + 2 ^ k
    · obtain ⟨after, accepted, next⟩ := recorded.push room packet plen fuel cas enough
      exact ⟨.accepted, after, by simp [callRingbuf, accepted], next⟩
    · have refused := recorded.quiescent.push_full (by omega) packet plen fuel cas (by omega)
      refine ⟨.rejected, rb, by simp [callRingbuf, refused], ?_⟩
      simpa [pushed, popped] using recorded
  | pop =>
    by_cases queued : t < history.length
    · obtain ⟨i, after, returned, next⟩ := recorded.pop queued fuel cas enough
      refine ⟨.popped (after.entry i), after, by simp [callRingbuf, returned], ?_⟩
      simpa [pushed, popped] using next
    · have returned := recorded.quiescent.pop_empty (by omega) fuel cas (by omega)
      refine ⟨.empty, rb, by simp [callRingbuf, returned], ?_⟩
      simpa [pushed, popped] using recorded

/-- A whole run: the history grows by what was accepted, and as much more is popped. -/
theorem run (recorded : Recorded k initial rb history t) (fuel : Nat)
    (calls : List (Call (Option α × UInt64) × List Bool))
    (enough : ∀ c ∈ calls, c.2.length < fuel) :
    ∃ replies after, BoundedQueue.runWith (callRingbuf fuel) rb calls = some (replies, after) ∧
      Recorded k initial after (history ++ (pushed (calls.map Prod.fst) replies).map Prod.fst)
        (t + popped replies) := by
  induction calls generalizing rb history t with
  | nil =>
    refine ⟨[], rb, rfl, ?_⟩
    simpa [pushed, popped] using recorded
  | cons c calls ih =>
    obtain ⟨first, rest⟩ := List.forall_mem_cons.mp enough
    obtain ⟨reply, mid, called, next⟩ := recorded.call fuel c first
    obtain ⟨replies, after, ran, final⟩ := ih next rest
    refine ⟨reply :: replies, after, ?_, ?_⟩
    · simp only [BoundedQueue.runWith, called, ran]
    · rw [List.map_cons, pushed_cons, popped_cons, List.map_append, ← List.append_assoc,
        ← Nat.add_assoc]
      exact final

end Recorded

/-- A new ring has no history, and no packets in its cells. -/
theorem createRingbuf_recorded (rbMalloc : Bool) (cellsMalloc : Option (Nat → RingbufCell α))
    {k : Nat} (one_le : 1 ≤ k) (le_bits : k ≤ 63) {rb : Ringbuf α}
    (created : createRingbuf rbMalloc cellsMalloc (UInt64.ofNat (2 ^ k)) = some rb) :
    Recorded k (fun _ => none) rb [] 0 := by
  have half := size_le_half le_bits
  refine ⟨createRingbuf_quiescent rbMalloc cellsMalloc k one_le le_bits rb created, .nil ?_⟩
  intro p low
  have bound : p < (UInt64.ofNat (2 ^ k)).toNat := by
    rw [Counter.toNat_ofNat_of_lt (by omega)]
    exact low
  unfold createRingbuf at created
  split at created
  · split at created
    · cases created
    · cases created
      simp only [Ringbuf.packet, if_pos bound]
  · cases created

end Kpnet.Ring
