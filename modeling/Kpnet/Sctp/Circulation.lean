import Kpnet.Lib.Runs
import Kpnet.Sctp.Data

/-!
# Buffers in circulation

The four builders and the transmitter at work on one association, in any order. Buffers go round
between the prefilled ring, the ring of frames that wait for a second chunk, and the transmit
ring. A builder gives its buffer back to the prefilled ring as soon as it has queued it, so the
next builder that takes it finds it still waiting to be sent.
-/
namespace Kpnet.Sctp

open Bytes Runs
open Kpnet.Ring (RingQueue)

/-- What is queued on a ring that may be `NULL`. -/
def held (ring : Option (RingQueue Nat)) : List (Option Nat × UInt64) :=
  match ring with
  | none => []
  | some q => q.contents

/-- The ring takes another packet. -/
def Roomy (ring : Option (RingQueue Nat)) : Prop :=
  ∃ q, ring = some q ∧ q.contents.length < q.capacity

instance (ring : Option (RingQueue Nat)) : Decidable (Roomy ring) :=
  inferInstanceAs (Decidable (∃ q ∈ ring, q.contents.length < q.capacity))

/-- What is queued after one more push. -/
def offered (ring : Option (RingQueue Nat)) (entry : Option Nat × UInt64) :
    List (Option Nat × UInt64) :=
  if Roomy ring then held ring ++ [entry] else held ring

/-- One call. The INIT ACK is built for an association of its own that shares the rings; `change`
is whatever handlers and application store in the association and its streams between two calls. -/
inductive BufferAction where
  | initAck (host : Host) (assoc : SctpAssociation)
  | cookieEcho
  | cookieAck
  | data (streamId : UInt16)
  | transmit
  | change (assoc : SctpAssociation) (buffers : Nat → Bytes)

/-- An entry of the transmit ring with the bytes in its buffer, as it is pushed or popped. -/
inductive Flow where
  | pushed (entry : Option Nat × UInt64) (frame : Option Bytes)
  | popped (entry : Option Nat × UInt64) (frame : Option Bytes)

/-- The entries that a builder has added to the transmit ring. -/
def Sender.added (s after : Sender) : List Flow :=
  ((held after.txRing).drop (held s.txRing).length).map fun entry =>
    .pushed entry (entry.1.map after.frames)

/-- What a builder of the handshake leaves. -/
def Sender.builds (s : Sender) (built : Option (Int × Endpoint)) : Option (Sender × List Flow) :=
  match built with
  | none => none
  | some (_, e) =>
    let after := { s with toEndpoint := e }
    some (after, s.added after)

def circulate (s : Sender) : BufferAction → Option (Sender × List Flow)
  | .initAck host assoc => s.builds (buildPrefilledMacIpSctpInitAckHdr host assoc s.toEndpoint)
  | .cookieEcho => s.builds (buildPrefilledMacIpSctpCookieEchoHdr s.assoc s.toEndpoint)
  | .cookieAck => s.builds (buildPrefilledMacIpSctpCookieAckHdr s.assoc s.toEndpoint)
  -- the DATA builder logs chunks of its own, which are of no account here
  | .data streamId =>
    match buildPrefilledMacIpSctpDataHdr s streamId with
    | none => none
    | some (after, _) => some (after, s.added after)
  | .transmit =>
    match s.txRing with
    | none => none
    | some tx =>
      match tx.pop with
      | (none, tx) => some ({ s with txRing := some tx }, [])
      | (some entry, tx) =>
        some ({ s with txRing := some tx }, [.popped entry (entry.1.map s.frames)])
  | .change assoc buffers => some ({ s with assoc := assoc, buffers := buffers }, [])

section Rings

variable (q : RingQueue Nat)

@[simp] theorem held_some : held (some q) = q.contents := rfl

theorem held_push (packet : Option Nat) (plen : UInt64) :
    held (some (q.push packet plen).2) = offered (some q) (packet, plen) := by
  simp only [held, offered, Roomy, Option.some.injEq, exists_eq_left', q.contents_push]

/-- A ring that has just been popped has room. -/
theorem roomy_pop {entry : Option Nat × UInt64} {rest : List (Option Nat × UInt64)}
    (queued : q.contents = entry :: rest) : Roomy (some q.pop.2) := by
  have bounded := q.length_contents_le
  refine ⟨_, rfl, ?_⟩
  rw [q.contents_pop, q.capacity_pop, queued, List.tail_cons]
  rw [queued, List.length_cons] at bounded
  omega

theorem offered_pop {entry : Option Nat × UInt64} {rest : List (Option Nat × UInt64)}
    (queued : q.contents = entry :: rest) (given : Option Nat × UInt64) :
    offered (some q.pop.2) given = rest ++ [given] := by
  rw [offered, if_pos (roomy_pop q queued), held_some, q.contents_pop, queued, List.tail_cons]

/-- What a pop leaves of the queue. -/
theorem contents_of_pop {entry : Option Nat × UInt64} {rest : RingQueue Nat}
    (popped : q.pop = (some entry, rest)) :
    q.contents = entry :: rest.contents ∧ rest = q.pop.2 := by
  have head := q.pop_fst
  have tail := q.contents_pop
  rw [popped] at head tail
  refine ⟨?_, by rw [popped]⟩
  rw [List.eq_cons_of_mem_head? (Option.mem_def.mpr head.symm), tail]

theorem contents_of_pop_none {rest : RingQueue Nat} (popped : q.pop = (none, rest)) :
    q.contents = [] ∧ rest.contents = [] := by
  have head := q.pop_fst
  have tail := q.contents_pop
  rw [popped] at head tail
  have empty := List.head?_eq_none_iff.mp head.symm
  refine ⟨empty, ?_⟩
  rw [tail, empty, List.tail_nil]

/-- An empty ring takes what it is given. -/
theorem offered_empty (empty : q.contents = []) (given : Option Nat × UInt64) :
    offered (some q) given = [given] := by
  have room : Roomy (some q) := by
    obtain ⟨k, h, t, quiescent⟩ := q.quiescent
    refine ⟨q, rfl, ?_⟩
    rw [empty, RingQueue.capacity, quiescent.capacity]
    exact Nat.two_pow_pos k
  rw [offered, if_pos room, held_some, empty, List.nil_append]

end Rings

theorem Queued.held_tx {e after : Endpoint} {buffer : Nat} {cellPlen : UInt64} {frame : Bytes}
    {plen : UInt32} (queued : Queued e buffer cellPlen frame plen after) :
    held after.txRing = offered e.txRing (some buffer, plen.toUInt64) := by
  obtain ⟨tx, tx', before, present, -, contents⟩ := queued.tx
  simp only [before, present, held_some, contents, offered, Roomy, Option.some.injEq,
    exists_eq_left']

/-- What a builder of the handshake does with rings and buffers. A cell without packet is lost. -/
theorem buildPrefilled_traffic {chunk : List UInt8} {peer : Option (UInt32 × UInt32)}
    {crc : Bytes → UInt32} {assoc : SctpAssociation} {e after : Endpoint} {ret : Int}
    (built : buildPrefilled chunk peer crc assoc e = some (ret, after)) :
    (∃ cellPlen rest, held e.prefilledRing = (none, cellPlen) :: rest ∧
      held after.prefilledRing = rest ∧ after.frames = e.frames ∧ after.txRing = e.txRing) ∨
    ∃ buffer cellPlen rest, held e.prefilledRing = (some buffer, cellPlen) :: rest ∧
      held after.prefilledRing = rest ++ [(some buffer, cellPlen)] ∧
      after.frames = Function.update e.frames buffer (builtFrame chunk peer crc assoc.verTag
        (cellPlen.toUInt32 + UInt32.ofNat chunk.length) (e.frames buffer)) ∧
      held after.txRing = offered e.txRing
        (some buffer, (cellPlen.toUInt32 + UInt32.ofNat chunk.length).toUInt64) := by
  unfold buildPrefilled at built
  split at built
  · cases built
  next ring present =>
    split at built
    · cases built
    next cellPlen rest popped =>
      cases built
      obtain ⟨contents, -⟩ := contents_of_pop ring popped
      exact .inl ⟨cellPlen, rest.contents, by rw [present, held_some, contents], rfl, rfl, rfl⟩
    next buffer cellPlen rest popped =>
      dsimp only at built
      split at built
      · cases built
      next tx queue =>
        cases built
        obtain ⟨contents, rfl⟩ := contents_of_pop ring popped
        refine .inr ⟨buffer, cellPlen, _, by rw [present, held_some, contents], ?_, rfl, ?_⟩
        · rw [held_push, offered_pop ring contents]
        · rw [held_push, queue]

/-- The length of the frame that a chunk with this payload is added to. -/
def dataLen (plen taken : UInt32) : UInt32 :=
  plen + (if plen < 1500 then (0 - (16 + taken)) &&& 3 else 0) + (16 + taken)

theorem dataFrame_snd (frame : Bytes) (plen : UInt32) (bundled : Bool) (verTag : UInt32)
    (chunk : DataChunk) : (dataFrame frame plen bundled verTag chunk).2 =
      dataLen plen (UInt32.ofNat chunk.payload.length) := rfl

theorem takeFrame_traffic {s after : Sender} {bundled : Bool} {packet : Option Nat}
    {cellPlen : UInt64} (took : s.takeFrame = some (bundled, packet, cellPlen, after)) :
    after.frames = s.frames ∧ after.txRing = s.txRing ∧
    ((bundled = true ∧ held s.bundling = (packet, cellPlen) :: held after.bundling ∧
        after.prefilledRing = s.prefilledRing) ∨
      (bundled = false ∧ held s.bundling = [] ∧
        (∃ waiting, after.bundling = some waiting ∧ waiting.contents = []) ∧
        ∃ ring rest, held s.prefilledRing = (packet, cellPlen) :: rest ∧
          after.prefilledRing = some ring ∧
          ∀ given, offered (some ring) given = rest ++ [given])) := by
  obtain ⟨bundling, waiting, present, ⟨rfl, popped, rfl⟩ |
    ⟨rfl, drained, ring, rest, filled, popped, rfl⟩⟩ := takeFrame_cases took
  · obtain ⟨contents, -⟩ := contents_of_pop bundling popped
    exact ⟨rfl, rfl, .inl ⟨rfl, by rw [present, held_some, contents, held_some], rfl⟩⟩
  · obtain ⟨empty, left⟩ := contents_of_pop_none bundling drained
    obtain ⟨contents, rfl⟩ := contents_of_pop ring popped
    exact ⟨rfl, rfl, .inr ⟨rfl, by rw [present, held_some, empty], ⟨waiting, rfl, left⟩, _, _,
      by rw [filled, held_some, contents], rfl, offered_pop ring contents⟩⟩

/-- What becomes of a finished frame, and what is logged of it. -/
theorem queueFrame_traffic {s after : Sender} {packet : Nat} {plen : UInt32} {bundled : Bool}
    {ev : List DataEvent} (queued : s.queueFrame packet plen bundled = some (after, ev)) :
    after.frames = s.frames ∧ after.prefilledRing = s.prefilledRing ∧
    (((plen < 1500 ∧ bundled = false) ∧ ev = [] ∧ after.txRing = s.txRing ∧
        held after.bundling = offered s.bundling (some packet, plen.toUInt64)) ∨
      (¬(plen < 1500 ∧ bundled = false) ∧ after.bundling = s.bundling ∧
        ev = [.pushed (some (s.frames packet)) plen.toUInt64 (decide (Roomy s.txRing))] ∧
        held after.txRing = offered s.txRing (some packet, plen.toUInt64))) := by
  obtain ⟨waits, bundling, present, rfl, rfl⟩ | ⟨leaves, tx, present, rfl, rfl⟩ :=
    queueFrame_cases queued
  · exact ⟨rfl, rfl, .inl ⟨waits, rfl, rfl, by rw [held_push, present]⟩⟩
  · refine ⟨rfl, rfl, .inr ⟨leaves, rfl, ?_, by rw [held_push, present]⟩⟩
    simp [Roomy, present, pushTx]

/-- What the builder of DATA chunks does with rings and buffers: it adds to the frame that waits,
or makes one of a template, which waits in turn or is as long as it can get. -/
theorem buildPrefilledMacIpSctpDataHdr_traffic {s after : Sender} {streamId : UInt16}
    {ev : List DataEvent} (returned : buildPrefilledMacIpSctpDataHdr s streamId = some (after, ev)) :
    ∃ block thread buffer cellPlen bundled rest frame plen,
      s.assoc.osThread streamId = some (block, thread) ∧
      dataFrame (s.frames buffer) cellPlen.toUInt32 bundled s.assoc.verTag
        (s.prefilledChunk streamId block thread) = (frame, plen) ∧
      after.frames = Function.update s.frames buffer frame ∧
      ((bundled = true ∧ held s.bundling = (some buffer, cellPlen) :: rest ∧
          held after.bundling = rest ∧
          held after.txRing = offered s.txRing (some buffer, plen.toUInt64) ∧
          held after.prefilledRing = offered s.prefilledRing (some buffer, cellPlen) ∧
          ev = [.wrote (s.prefilledChunk streamId block thread),
            .pushed (some frame) plen.toUInt64 (decide (Roomy s.txRing))]) ∨
        (bundled = false ∧ held s.bundling = [] ∧
          held s.prefilledRing = (some buffer, cellPlen) :: rest ∧
          held after.prefilledRing = rest ++ [(some buffer, cellPlen)] ∧
          ((plen < 1500 ∧ held after.bundling = [(some buffer, plen.toUInt64)] ∧
              after.txRing = s.txRing ∧ ev = [.wrote (s.prefilledChunk streamId block thread)]) ∨
            (¬plen < 1500 ∧ held after.bundling = [] ∧
              held after.txRing = offered s.txRing (some buffer, plen.toUInt64) ∧
              ev = [.wrote (s.prefilledChunk streamId block thread),
                .pushed (some frame) plen.toUInt64 (decide (Roomy s.txRing))])))) := by
  obtain ⟨block, thread, bundled, buffer, cellPlen, mid, frame, plen, queued, ev', ring, stream, took,
    built, queues, present, rfl, rfl⟩ := buildPrefilledMacIpSctpDataHdr_steps returned
  obtain ⟨frames, tx, source⟩ := takeFrame_traffic took
  obtain ⟨assoc, -⟩ := takeFrame_keeps took
  rw [frames, assoc] at built queues
  obtain ⟨frames', prefilled, sink⟩ := queueFrame_traffic queues
  simp only [store_frames, store_txRing, store_bundling, store_prefilledRing, Function.update_self,
    tx] at frames' prefilled sink
  have given : held (some (ring.push (some buffer) cellPlen).2) =
      offered mid.prefilledRing (some buffer, cellPlen) := by
    rw [held_push, ← present, prefilled]
  rcases source with ⟨rfl, waiting, same⟩ | ⟨rfl, none, ⟨left, present', empty⟩, rest⟩
  · -- a bundled frame always leaves
    rw [same] at given
    rcases sink with ⟨⟨-, impossible⟩, -⟩ | ⟨-, bundling, rfl, queue⟩
    · cases impossible
    · exact ⟨block, thread, buffer, cellPlen, true, _, frame, plen, stream, built, frames',
        .inl ⟨rfl, waiting, by rw [bundling], queue, given, rfl⟩⟩
  · obtain ⟨ring', rest, template, popped, back⟩ := rest
    rw [popped, back] at given
    refine ⟨block, thread, buffer, cellPlen, false, rest, frame, plen, stream, built, frames',
      .inr ⟨rfl, none, template, given, ?_⟩⟩
    rcases sink with ⟨⟨short, -⟩, rfl, queue, bundling⟩ | ⟨leaves, bundling, rfl, queue⟩
    · refine .inl ⟨short, ?_, queue, rfl⟩
      rw [bundling, present', offered_empty left empty]
    · refine .inr ⟨fun short => leaves ⟨short, rfl⟩, ?_, queue, rfl⟩
      rw [bundling, present', held_some, empty]

/-- The buffers among the entries of a ring. -/
def names (entries : List (Option Nat × UInt64)) : List Nat := entries.filterMap Prod.fst

@[simp] theorem names_append (entries entries' : List (Option Nat × UInt64)) :
    names (entries ++ entries') = names entries ++ names entries' := List.filterMap_append

@[simp] theorem names_cons_some (buffer : Nat) (plen : UInt64)
    (entries : List (Option Nat × UInt64)) :
    names ((some buffer, plen) :: entries) = buffer :: names entries := rfl

@[simp] theorem names_cons_none (plen : UInt64) (entries : List (Option Nat × UInt64)) :
    names ((none, plen) :: entries) = names entries := rfl

@[simp] theorem names_nil : names [] = [] := rfl

/-- All buffers that are in one of the three rings, as often as they are. -/
def Sender.inUse (s : Sender) : List Nat :=
  names (held s.prefilledRing) ++ (names (held s.bundling) ++ names (held s.txRing))

/-- The frames that wait to be sent, with what is in their buffers now. -/
def Sender.transmitting (s : Sender) : List ((Option Nat × UInt64) × Option Bytes) :=
  (held s.txRing).map fun entry => (entry, entry.1.map s.frames)

/-- The frames pushed in a log, and those popped, in order. -/
def pushes (log : List Flow) : List ((Option Nat × UInt64) × Option Bytes) :=
  log.filterMap fun
    | .pushed entry frame => some (entry, frame)
    | .popped _ _ => none

def pops (log : List Flow) : List ((Option Nat × UInt64) × Option Bytes) :=
  log.filterMap fun
    | .pushed _ _ => none
    | .popped entry frame => some (entry, frame)

@[simp] theorem pushes_append (log ev : List Flow) : pushes (log ++ ev) = pushes log ++ pushes ev :=
  List.filterMap_append

@[simp] theorem pops_append (log ev : List Flow) : pops (log ++ ev) = pops log ++ pops ev :=
  List.filterMap_append

/-- The ways of a buffer through a builder. -/
inductive Circulates (s after : Sender) : Prop where
  /-- A cell without packet is not given back. -/
  | lost (cellPlen : UInt64) (taken : held s.prefilledRing = (none, cellPlen) :: held after.prefilledRing)
      (frames : after.frames = s.frames) (bundling : held after.bundling = held s.bundling)
      (tx : held after.txRing = held s.txRing)
  /-- A template goes to the transmit ring and back. -/
  | queued (buffer : Nat) (cellPlen plen : UInt64) (rest : List (Option Nat × UInt64)) (frame : Bytes)
      (taken : held s.prefilledRing = (some buffer, cellPlen) :: rest)
      (given : held after.prefilledRing = rest ++ [(some buffer, cellPlen)])
      (frames : after.frames = Function.update s.frames buffer frame)
      (bundling : held after.bundling = held s.bundling)
      (tx : held after.txRing = offered s.txRing (some buffer, plen))
  /-- A template waits for a second chunk and goes back. -/
  | waits (buffer : Nat) (cellPlen plen : UInt64) (rest : List (Option Nat × UInt64)) (frame : Bytes)
      (taken : held s.prefilledRing = (some buffer, cellPlen) :: rest)
      (given : held after.prefilledRing = rest ++ [(some buffer, cellPlen)])
      (frames : after.frames = Function.update s.frames buffer frame)
      (bundling : held after.bundling = [(some buffer, plen)])
      (tx : held after.txRing = held s.txRing)
  /-- A frame that waited goes to the transmit ring, and to the templates. -/
  | bundled (buffer : Nat) (cellPlen plen : UInt64) (frame : Bytes)
      (taken : held s.bundling = (some buffer, cellPlen) :: held after.bundling)
      (given : held after.prefilledRing = offered s.prefilledRing (some buffer, cellPlen))
      (frames : after.frames = Function.update s.frames buffer frame)
      (tx : held after.txRing = offered s.txRing (some buffer, plen))

theorem names_offered (ring : Option (RingQueue Nat)) (buffer : Nat) (plen : UInt64) :
    names (offered ring (some buffer, plen)) =
      if Roomy ring then names (held ring) ++ [buffer] else names (held ring) := by
  unfold offered
  split
  · simp
  · rfl

/-- A template that went to the transmit ring is in two places, unless that was full. -/
theorem nodup_queued {s after : Sender} {buffer : Nat} {cellPlen plen : UInt64}
    {rest : List (Option Nat × UInt64)} (distinct : s.inUse.Nodup)
    (taken : held s.prefilledRing = (some buffer, cellPlen) :: rest)
    (given : held after.prefilledRing = rest ++ [(some buffer, cellPlen)])
    (bundling : held after.bundling = held s.bundling)
    (tx : held after.txRing = offered s.txRing (some buffer, plen)) :
    after.inUse.Nodup ↔ ¬Roomy s.txRing := by
  rw [Sender.inUse, taken, names_cons_some, List.cons_append] at distinct
  rw [Sender.inUse, given, bundling, tx, names_offered, names_append, names_cons_some, names_nil]
  -- the template is at the end of its own ring again, so a place on the other is one too many
  constructor
  · intro nodup room
    rw [if_pos room] at nodup
    exact List.disjoint_of_nodup_append nodup (a := buffer) (by simp) (by simp)
  · intro full
    rw [if_neg full, List.append_assoc, List.singleton_append]
    exact List.nodup_middle.mpr distinct

/-- A template that waits is in two places. -/
theorem not_nodup_waits {after : Sender} {buffer : Nat} {cellPlen plen : UInt64}
    {rest : List (Option Nat × UInt64)}
    (given : held after.prefilledRing = rest ++ [(some buffer, cellPlen)])
    (bundling : held after.bundling = [(some buffer, plen)]) : ¬after.inUse.Nodup := by
  rw [Sender.inUse, given, bundling]
  intro nodup
  exact List.disjoint_of_nodup_append nodup (a := buffer) (by simp) (by simp)

/-- A frame that waited is in two places, unless one of the two rings was full. -/
theorem nodup_bundled {s after : Sender} {buffer : Nat} {cellPlen plen : UInt64}
    (distinct : s.inUse.Nodup)
    (taken : held s.bundling = (some buffer, cellPlen) :: held after.bundling)
    (given : held after.prefilledRing = offered s.prefilledRing (some buffer, cellPlen))
    (tx : held after.txRing = offered s.txRing (some buffer, plen)) :
    after.inUse.Nodup ↔ ¬(Roomy s.txRing ∧ Roomy s.prefilledRing) := by
  rw [Sender.inUse, taken, names_cons_some, List.cons_append] at distinct
  rw [Sender.inUse, given, tx, names_offered, names_offered]
  constructor
  · rintro nodup ⟨room, room'⟩
    rw [if_pos room, if_pos room'] at nodup
    exact List.disjoint_of_nodup_append nodup (a := buffer) (by simp) (by simp)
  · intro full
    -- one of the two has taken it, or neither, and then it is lost
    by_cases room : Roomy s.txRing
    · have full' : ¬Roomy s.prefilledRing := fun room' => full ⟨room, room'⟩
      rw [if_pos room, if_neg full', ← List.append_assoc, ← List.append_assoc,
        List.nodup_append_comm, List.append_assoc, List.singleton_append]
      exact List.nodup_middle.mp distinct
    · rw [if_neg room]
      split
      · rw [List.append_assoc, List.singleton_append]
        exact distinct
      · exact (List.nodup_middle.mp distinct).of_cons

/-- A builder writes to a buffer that it took, so not to one that waits to be sent, and its own
frame is the last one queued. -/
theorem Circulates.transmitting {s after : Sender} (circulates : Circulates s after)
    (distinct : s.inUse.Nodup) :
    s.transmitting ++ pushes (s.added after) = after.transmitting := by
  -- what a push adds is behind what was there
  have appended {ring : Option (RingQueue Nat)} (entry : Option Nat × UInt64) :
      held ring <+: offered ring entry := by
    unfold offered
    split
    · exact List.prefix_append _ _
    · exact List.prefix_refl _
  have untouched {buffer : Nat} {frame : Bytes} (elsewhere : buffer ∉ names (held s.txRing))
      (frames : after.frames = Function.update s.frames buffer frame) :
      ∀ entry ∈ held s.txRing, entry.1.map after.frames = entry.1.map s.frames := by
    rintro ⟨packet, plen⟩ member
    cases packet with
    | none => rfl
    | some other =>
      have different : other ≠ buffer := by
        rintro rfl
        exact elsewhere (List.mem_filterMap.mpr ⟨_, member, rfl⟩)
      rw [Option.map_some, Option.map_some, frames, Function.update_of_ne different]
  have apart := List.disjoint_of_nodup_append distinct
  have apart' := List.disjoint_of_nodup_append (List.nodup_append.mp distinct).2.1
  obtain ⟨added, same⟩ : held s.txRing <+: held after.txRing ∧
      ∀ entry ∈ held s.txRing, entry.1.map after.frames = entry.1.map s.frames := by
    cases circulates with
    | lost cellPlen taken frames bundling tx =>
      exact ⟨by rw [tx], by rw [frames]; exact fun _ _ => rfl⟩
    | queued buffer cellPlen plen rest frame taken given frames bundling tx =>
      refine ⟨by rw [tx]; exact appended _, untouched ?_ frames⟩
      exact fun member => apart (a := buffer) (by simp [taken]) (by simp [member])
    | waits buffer cellPlen plen rest frame taken given frames bundling tx =>
      refine ⟨by rw [tx], untouched ?_ frames⟩
      exact fun member => apart (a := buffer) (by simp [taken]) (by simp [member])
    | bundled buffer cellPlen plen frame taken given frames tx =>
      refine ⟨by rw [tx]; exact appended _, untouched ?_ frames⟩
      exact apart' (a := buffer) (by simp [taken])
  obtain ⟨new, extended⟩ := added
  -- old entries with their bytes unchanged, then what was added
  rw [Sender.transmitting, Sender.transmitting, Sender.added, ← extended, List.drop_left,
    List.map_append]
  congr 1
  · refine List.map_congr_left fun entry member => ?_
    rw [same entry member]
  · simp [pushes, List.filterMap_map]

/-- The cell that the next builder takes holds a packet. -/
def Sender.HasTemplate (s : Sender) : Prop :=
  ((held s.prefilledRing).head?.bind Prod.fst).isSome = true

instance (s : Sender) : Decidable s.HasTemplate := inferInstanceAs (Decidable (_ = _))

/-- The length of the frame that a DATA chunk of the stream makes of the next template. -/
def Sender.nextLen (s : Sender) (streamId : UInt16) : UInt32 :=
  match (held s.prefilledRing).head?, s.assoc.osThread streamId with
  | some (_, cellPlen), some (_, thread) =>
    dataLen cellPlen.toUInt32 (min32 maxPayload (thread.posHigh - thread.posCurrent))
  | _, _ => 0

/-- The call leaves its buffer in one ring at most: whatever else would take it is full. -/
def Sender.KeepsApart (s : Sender) : BufferAction → Prop
  | .initAck _ _ => ¬(Roomy s.txRing ∧ s.HasTemplate)
  | .cookieEcho => ¬(Roomy s.txRing ∧ s.HasTemplate)
  | .cookieAck => ¬(Roomy s.txRing ∧ s.HasTemplate)
  | .data streamId =>
    if held s.bundling = [] then ¬s.nextLen streamId < 1500 ∧ ¬Roomy s.txRing
    else ¬(Roomy s.txRing ∧ Roomy s.prefilledRing)
  | .transmit => True
  | .change _ _ => True

/-- What one step does to the buffers: it circulates one, takes one off the transmit ring, or
leaves all where they are. -/
structure Sender.Stepped (s after : Sender) (ev : List Flow) (apart : Prop) : Prop where
  nodup : s.inUse.Nodup → (after.inUse.Nodup ↔ apart)
  flows : s.inUse.Nodup → s.transmitting ++ pushes ev = pops ev ++ after.transmitting

theorem Circulates.stepped {s after : Sender} {apart : Prop} (circulates : Circulates s after)
    (nodup : s.inUse.Nodup → (after.inUse.Nodup ↔ apart)) :
    s.Stepped after (s.added after) apart where
  nodup := nodup
  flows distinct := by
    have none : pops (s.added after) = [] := by
      rw [pops, Sender.added, List.filterMap_map]
      exact List.filterMap_eq_nil_iff.mpr fun _ _ => rfl
    rw [circulates.transmitting distinct, none, List.nil_append]

theorem builds_eq_some {s after : Sender} {built : Option (Int × Endpoint)} {ev : List Flow}
    (builds : s.builds built = some (after, ev)) :
    (∃ ret, built = some (ret, after.toEndpoint)) ∧ after.bundling = s.bundling ∧
      ev = s.added after := by
  unfold Sender.builds at builds
  split at builds
  · cases builds
  next ret e =>
    cases builds
    exact ⟨⟨ret, rfl⟩, rfl, rfl⟩

theorem circulate_data {s after : Sender} {streamId : UInt16} {ev : List Flow}
    (stepped : circulate s (.data streamId) = some (after, ev)) :
    ∃ ev', buildPrefilledMacIpSctpDataHdr s streamId = some (after, ev') ∧ ev = s.added after := by
  simp only [circulate] at stepped
  split at stepped
  · cases stepped
  next returned =>
    cases stepped
    exact ⟨_, returned, rfl⟩

/-- A builder of the handshake loses its cell, or queues its template and gives it back. -/
theorem builds_stepped {s after : Sender} {ev : List Flow} {chunk : List UInt8}
    {peer : Option (UInt32 × UInt32)} {crc : Bytes → UInt32} {assoc : SctpAssociation}
    (built : s.builds (buildPrefilled chunk peer crc assoc s.toEndpoint) = some (after, ev)) :
    s.Stepped after ev (¬(Roomy s.txRing ∧ s.HasTemplate)) := by
  obtain ⟨⟨ret, returned⟩, bundling, rfl⟩ := builds_eq_some built
  obtain ⟨cellPlen, rest, taken, left, frames, tx⟩ |
    ⟨buffer, cellPlen, rest, taken, given, frames, tx⟩ := buildPrefilled_traffic returned
  · have lost : Circulates s after :=
      .lost cellPlen (by rw [taken, left]) frames (by rw [bundling]) (by rw [tx])
    refine lost.stepped fun distinct => ?_
    have same : after.inUse = s.inUse := by
      simp only [Sender.inUse, taken, left, tx, bundling, names_cons_none]
    rw [same]
    exact iff_of_true distinct (by simp [Sender.HasTemplate, taken])
  · have queued : Circulates s after :=
      .queued buffer cellPlen _ rest _ taken given frames (by rw [bundling]) tx
    refine queued.stepped fun distinct => ?_
    rw [nodup_queued distinct taken given (by rw [bundling]) tx]
    simp [Sender.HasTemplate, taken]

/-- The length of a frame that a chunk of the stream was added to. -/
theorem dataFrame_plen {s : Sender} {streamId : UInt16} {block : Nat} {thread : SctpThread}
    {before frame : Bytes} {cellPlen plen verTag : UInt32} {bundled : Bool}
    (made : dataFrame before cellPlen bundled verTag (s.prefilledChunk streamId block thread) =
      (frame, plen)) :
    plen = dataLen cellPlen (min32 maxPayload (thread.posHigh - thread.posCurrent)) := by
  have length : UInt32.ofNat (s.prefilledChunk streamId block thread).payload.length =
      min32 maxPayload (thread.posHigh - thread.posCurrent) := by
    rw [Sender.prefilledChunk, length_slice, UInt32.ofNat_toNat]
  rw [← length, ← dataFrame_snd, made]

theorem nextLen_eq {s : Sender} {streamId : UInt16} {block : Nat} {thread : SctpThread}
    {packet : Option Nat} {cellPlen : UInt64} {rest : List (Option Nat × UInt64)}
    (stream : s.assoc.osThread streamId = some (block, thread))
    (taken : held s.prefilledRing = (packet, cellPlen) :: rest) :
    s.nextLen streamId =
      dataLen cellPlen.toUInt32 (min32 maxPayload (thread.posHigh - thread.posCurrent)) := by
  rw [Sender.nextLen, taken, stream]
  rfl

theorem data_stepped {s after : Sender} {streamId : UInt16} {ev : List DataEvent}
    (returned : buildPrefilledMacIpSctpDataHdr s streamId = some (after, ev)) :
    s.Stepped after (s.added after) (s.KeepsApart (.data streamId)) := by
  obtain ⟨block, thread, buffer, cellPlen, bundled, rest, frame, plen, stream, made, frames, way⟩ :=
    buildPrefilledMacIpSctpDataHdr_traffic returned
  rcases way with ⟨-, waiting, left, tx, given, -⟩ | ⟨-, none, taken, given, sink⟩
  · rw [← left] at waiting
    refine (Circulates.bundled buffer cellPlen _ frame waiting given frames tx).stepped ?_
    intro distinct
    rw [nodup_bundled distinct waiting given tx, Sender.KeepsApart, if_neg (by simp [waiting])]
  · have next : s.nextLen streamId = plen := by
      rw [nextLen_eq stream taken, dataFrame_plen made]
    rcases sink with ⟨short, waits, tx, -⟩ | ⟨long, left, tx, -⟩
    · refine (Circulates.waits buffer cellPlen _ rest frame taken given frames waits
        (by rw [tx])).stepped ?_
      intro distinct
      refine iff_of_false (not_nodup_waits given waits) ?_
      rw [Sender.KeepsApart, if_pos none, next]
      exact fun apart => apart.1 short
    · refine (Circulates.queued buffer cellPlen _ rest frame taken given frames (by rw [left, none])
        tx).stepped ?_
      intro distinct
      rw [nodup_queued distinct taken given (by rw [left, none]) tx, Sender.KeepsApart, if_pos none,
        next]
      exact ⟨fun full => ⟨long, full⟩, fun apart => apart.2⟩

/-- All steps of the association. -/
theorem circulate_stepped {s after : Sender} {action : BufferAction} {ev : List Flow}
    (stepped : circulate s action = some (after, ev)) :
    s.Stepped after ev (s.KeepsApart action) := by
  cases action with
  | initAck host assoc => exact builds_stepped stepped
  | cookieEcho =>
    simp only [circulate, buildPrefilledMacIpSctpCookieEchoHdr] at stepped
    split at stepped
    · cases stepped
    · exact builds_stepped stepped
  | cookieAck => exact builds_stepped stepped
  | data streamId =>
    obtain ⟨ev', returned, rfl⟩ := circulate_data stepped
    exact data_stepped returned
  | transmit =>
    simp only [circulate] at stepped
    split at stepped
    · cases stepped
    next tx present =>
      split at stepped
      next tx' drained =>
        cases stepped
        obtain ⟨empty, left⟩ := contents_of_pop_none tx drained
        constructor
        · intro distinct
          rw [Sender.inUse, present, held_some, empty] at distinct
          rw [Sender.inUse, held_some, left]
          exact iff_of_true distinct trivial
        · intro _
          simp only [Sender.transmitting, present, held_some, empty, left]
          rfl
      next entry tx' popped =>
        cases stepped
        obtain ⟨queued, -⟩ := contents_of_pop tx popped
        constructor
        · intro distinct
          rw [Sender.inUse, present, held_some, queued] at distinct
          refine iff_of_true (distinct.sublist ?_) trivial
          -- the rest of the queue is where it was
          refine (List.Sublist.refl _).append ((List.Sublist.refl _).append ?_)
          exact (List.sublist_cons_self entry _).filterMap _
        · intro _
          simp only [Sender.transmitting, present, held_some, queued, List.map_cons]
          exact List.append_nil _
  | change assoc buffers =>
    cases stepped
    exact ⟨fun distinct => iff_of_true distinct trivial, fun _ => List.append_nil _⟩

/-- No buffer is ever in two places, and frames leave with the bytes they were queued with,
exactly if no call along the run puts its buffer into two rings. -/
theorem frames_untouched_iff (s after : Sender) (actions : List BufferAction) (log : List Flow)
    (distinct : s.inUse.Nodup) (ran : run circulate s actions = some (after, log)) :
    (∀ done s' log', done <+: actions → run circulate s done = some (s', log') →
      s'.inUse.Nodup ∧ pops log' <+: s.transmitting ++ pushes log') ↔
    Along circulate Sender.KeepsApart s actions := by
  have states := forall_reached_iff_along circulate Sender.KeepsApart (fun s => s.inUse.Nodup)
    (fun s => s.inUse.Nodup) (fun _ nodup => nodup) (fun s action s' ev nodup stepped =>
      let kept := (circulate_stepped stepped).nodup nodup
      ⟨kept.mpr, kept.mp⟩) actions s after log distinct ran
  constructor
  · intro reached
    exact states.mp fun done s' log' initial ran' => (reached done s' log' initial ran').1
  · intro along done s' log' initial ran'
    refine ⟨states.mpr along done s' log' initial ran', ?_⟩
    -- what has been queued is what has been sent and what is still there, with the same bytes
    have kept := run_induction circulate Sender.KeepsApart s
      (fun _ s' log' => s'.inUse.Nodup ∧
        s.transmitting ++ pushes log' = pops log' ++ s'.transmitting)
      ⟨distinct, List.append_nil _⟩ (by
        rintro before action mid log' after' ev - ⟨nodup, flows⟩ apart stepped
        have step := circulate_stepped stepped
        refine ⟨(step.nodup nodup).mpr apart, ?_⟩
        rw [pushes_append, pops_append, ← List.append_assoc, flows, List.append_assoc,
          step.flows nodup, List.append_assoc])
      done s' log' ran' (along.of_prefix initial)
    exact ⟨s'.transmitting, kept.2.symm⟩

/-- A client whose transmit ring is full of other buffers. -/
def busyClient : Sender :=
  { streamingClient 0 [10] with txRing := some (RingQueue.pair (fun i => i + 2) 1 60) }

theorem frames_untouched_iff_busy : ∃ after log,
    run circulate busyClient [.cookieAck, .transmit] = some (after, log) ∧
    after.inUse.Nodup ∧ pops log <+: busyClient.transmitting ++ pushes log := by
  have returns : (run circulate busyClient [.cookieAck, .transmit]).isSome = true := by
    decide +kernel
  obtain ⟨⟨after, log⟩, ran⟩ := Option.isSome_iff_exists.mp returns
  refine ⟨after, log, ran, ?_⟩
  have full : ¬(Roomy busyClient.txRing ∧ busyClient.HasTemplate) := by decide +kernel
  have apart : Along circulate Sender.KeepsApart busyClient [.cookieAck, .transmit] :=
    ⟨full, fun _ _ _ => ⟨trivial, fun _ _ _ => trivial⟩⟩
  exact (frames_untouched_iff busyClient after [.cookieAck, .transmit] log (by decide +kernel)
    ran).mpr apart _ after log (List.prefix_refl _) ran

/-- The types of the chunks that frames start with. -/
def chunkTypes (frames : List ((Option Nat × UInt64) × Option Bytes)) : List (Option UInt8) :=
  frames.map fun p => p.2.map fun frame => frame 46

/-- The first template is sent as a COOKIE ACK, and then used for a DATA chunk before it has
left. -/
theorem frame_overwritten :
    (streamingClient 0 [10]).inUse.Nodup ∧ ∃ after log,
      run circulate (streamingClient 0 [10]) [.cookieAck, .cookieAck, .data 0, .transmit] =
        some (after, log) ∧
      chunkTypes (pushes log) = [some sctpCookieAck, some sctpCookieAck] ∧
      chunkTypes (pops log) = [some 0] ∧ ¬after.inUse.Nodup ∧
      ¬pops log <+: (streamingClient 0 [10]).transmitting ++ pushes log := by
  refine ⟨by decide +kernel, ?_⟩
  have ran : (run circulate (streamingClient 0 [10]) [.cookieAck, .cookieAck, .data 0, .transmit]).map
      (fun ran => (ran.1.inUse, chunkTypes (pushes ran.2), chunkTypes (pops ran.2))) =
      some ([1, 0, 0, 1], [some sctpCookieAck, some sctpCookieAck], [some 0]) := by
    decide +kernel
  obtain ⟨⟨after, log⟩, ran, values⟩ := Option.map_eq_some_iff.mp ran
  simp only [Prod.mk.injEq] at values
  obtain ⟨buffers, pushed, popped⟩ := values
  refine ⟨after, log, ran, pushed, popped, by rw [buffers]; decide, ?_⟩
  intro sent
  have types : chunkTypes (pops log) <+:
      chunkTypes ((streamingClient 0 [10]).transmitting ++ pushes log) := sent.map _
  have idle : (streamingClient 0 [10]).transmitting = [] := by decide +kernel
  rw [idle, List.nil_append, pushed, popped] at types
  exact absurd types (by decide)

end Kpnet.Sctp
