import Kpnet.Lib.Runs
import Kpnet.Ring.Queue
import Kpnet.Sctp.Acceptance

/-!
# The receiving thread

`recv_sctp_packet` in `recv_packet.c`, and whoever takes the frames from its ring. The thread has a
buffer of the allocator, receives into it until a frame passes the check, puts it on the ring and
takes the next buffer; the other side takes frames from the ring, and gives the buffers back in any
order. Whatever the order in which the two come to act, no buffer is lost, and the frames arrive in
order and as they were received.

Every call of `push_ringbuf` and `pop_ringbuf` is one step. A popped cell is read in a step of its
own: `pop_ringbuf` has released it by then, and a push that came all the way round would store into
it. With no more buffers than cells on a ring, none does.
-/
namespace Kpnet.Sctp

open Bytes
open Kpnet.Ring (RingQueue)

/-- What `recv` comes back with: `EAGAIN`, another error, or what has arrived, which is nothing when
the connection was closed. -/
inductive Recv where
  | again
  | failed
  | data (bytes : List UInt8)
  deriving DecidableEq, Repr

/-- Where `recv_sctp_packet` is, with its `buffer` and `data_size`. -/
inductive ReceivePc where
  | pops
  | reads (cell : Nat)
  | receives (buffer : Option Nat)
  | pushes (buffer : Option Nat) (dataSize : UInt64)
  | exited (status : Int)
  deriving DecidableEq, Repr

/-- The process: the two rings of `rb_arg_t` with addresses of buffers, the memory, the thread, the
cell that the other side has popped and not read yet, and what it has taken, with what it found
there. -/
structure Receiver where
  allocator : RingQueue Nat
  rb : RingQueue Nat
  memory : Bytes
  pc : ReceivePc
  popped : Option Nat
  held : List (Nat × List UInt8)

inductive ReceiveAct where
  | thread (answer : Recv)
  | pop
  | read
  | giveBack (i : Nat) (plen : UInt64)
  deriving DecidableEq, Repr

inductive ReceiveEvent where
  | received (frame : List UInt8)
  | accepted (frame : List UInt8)
  | taken (frame : List UInt8)
  deriving DecidableEq, Repr

/-- `exit`, after the buffer was pushed to the allocator; the result of that is not looked at. -/
def Receiver.exit (s : Receiver) (buffer : Option Nat) (status : Int) : Receiver :=
  { s with allocator := (s.allocator.push buffer 2048).2, pc := .exited status }

/-- The memory after a frame was received and checked; of one that is refused, a checksum may be left
cleared. -/
def checkedMemory (memory : Bytes) (b : Nat) (frame : List UInt8) : Bytes :=
  Bytes.modify (put memory b frame) b fun packet =>
    (sctpCheckChecksums packet (UInt64.ofNat frame.length)).2

/-- A turn of the loop with what `recv` has stored. `none` is a store through `NULL`. -/
def Receiver.receive (s : Receiver) (buffer : Option Nat) :
    Recv → Option (Receiver × List ReceiveEvent)
  | .again => some (s, [])
  | .failed => some (s.exit buffer 1, [])
  | .data bytes =>
    -- what does not fit into the buffer is cut off
    let frame := bytes.take 2048
    if frame = [] then some (s.exit buffer 0, [])
    else
      match buffer with
      | none => none
      | some b =>
        let dataSize := UInt64.ofNat frame.length
        let memory := checkedMemory s.memory b frame
        if (sctpCheckChecksums (shift (put s.memory b frame) b) dataSize).1 ≠ 0 then
          some ({ s with memory := memory }, [.received frame])
        else
          some ({ s with memory := memory, pc := .pushes buffer dataSize },
            [.received frame, .accepted frame])

/-- `recv_sctp_packet`, from one call to the next. -/
def Receiver.thread (s : Receiver) (answer : Recv) : Option (Receiver × List ReceiveEvent) :=
  match s.pc with
  | .pops =>
    match s.allocator.popCell with
    | (none, allocator) => some ({ s with allocator := allocator }, [])
    | (some cell, allocator) => some ({ s with allocator := allocator, pc := .reads cell }, [])
  | .reads cell => some ({ s with pc := .receives (s.allocator.entry cell).1 }, [])
  | .receives buffer => s.receive buffer answer
  | .pushes buffer dataSize =>
    match s.rb.push buffer dataSize with
    | (r, rb) => some ({ s with rb := rb, pc := if r = -1 then s.pc else .pops }, [])
  | .exited _ => none

/-- The other side calls `pop_ringbuf`, once it has read the cell before. -/
def Receiver.pop (s : Receiver) : Option Receiver :=
  match s.popped with
  | some _ => none
  | none =>
    match s.rb.popCell with
    | (popped, rb) => some { s with rb := rb, popped := popped }

/-- And reads what the popped cell has now: the frame of the buffer. `none` is a `NULL` there. -/
def Receiver.read (s : Receiver) : Option (Receiver × List ReceiveEvent) :=
  match s.popped with
  | none => none
  | some cell =>
    match s.rb.entry cell with
    | (none, _) => none
    | (some b, plen) =>
      let frame := slice s.memory b plen.toNat
      some ({ s with popped := none, held := s.held ++ [(b, frame)] }, [.taken frame])

/-- One of the buffers that were taken goes back to the allocator. -/
def Receiver.giveBack (s : Receiver) (i : Nat) (plen : UInt64) : Option Receiver :=
  if inside : i < s.held.length then
    some { s with
      allocator := (s.allocator.push (some s.held[i].1) plen).2
      held := s.held.eraseIdx i }
  else none

/-- One step of either side, until the thread ends the process. -/
def Receiver.act (s : Receiver) : ReceiveAct → Option (Receiver × List ReceiveEvent)
  | .thread answer => s.thread answer
  | .pop => match s.pc with
    | .exited _ => none
    | _ => s.pop.map fun s => (s, [])
  | .read => match s.pc with
    | .exited _ => none
    | _ => s.read
  | .giveBack i plen => match s.pc with
    | .exited _ => none
    | _ => (s.giveBack i plen).map fun s => (s, [])

def Receiver.start (allocator rb : RingQueue Nat) (memory : Bytes) : Receiver :=
  { allocator := allocator, rb := rb, memory := memory, pc := .pops, popped := none, held := [] }

def receivedFrames (log : List ReceiveEvent) : List (List UInt8) :=
  log.filterMap fun
    | .received frame => some frame
    | _ => none

def acceptedFrames (log : List ReceiveEvent) : List (List UInt8) :=
  log.filterMap fun
    | .accepted frame => some frame
    | _ => none

def takenFrames (log : List ReceiveEvent) : List (List UInt8) :=
  log.filterMap fun
    | .taken frame => some frame
    | _ => none

section Logs

variable (log ev : List ReceiveEvent)

@[simp] theorem receivedFrames_append :
    receivedFrames (log ++ ev) = receivedFrames log ++ receivedFrames ev := List.filterMap_append

@[simp] theorem acceptedFrames_append :
    acceptedFrames (log ++ ev) = acceptedFrames log ++ acceptedFrames ev := List.filterMap_append

@[simp] theorem takenFrames_append :
    takenFrames (log ++ ev) = takenFrames log ++ takenFrames ev := List.filterMap_append

end Logs

/-- The buffer of the thread, which may still be in the cell that it has popped. -/
def Receiver.own (s : Receiver) : List (Option Nat) :=
  match s.pc with
  | .reads cell => [(s.allocator.entry cell).1]
  | .receives buffer => [buffer]
  | .pushes buffer _ => [buffer]
  | _ => []

/-- What is in the cell that the other side has popped. -/
def Receiver.unread (s : Receiver) : List (Option Nat × UInt64) :=
  (s.popped.map s.rb.entry).toList

/-- A frame that still has to be put on the ring. -/
def ReceivePc.pending : ReceivePc → List (Option Nat × UInt64)
  | .pushes buffer dataSize => [(buffer, dataSize)]
  | _ => []

/-- All buffers there are, wherever they are. -/
def Receiver.buffers (s : Receiver) : List (Option Nat) :=
  s.own ++ ((s.unread ++ s.rb.contents).map Prod.fst ++ s.held.map (some ·.1) ++
    s.allocator.contents.map Prod.fst)

/-- The frames that were accepted and not taken yet, as the memory has them. -/
def Receiver.waiting (s : Receiver) : List (List UInt8) :=
  (s.unread ++ s.rb.contents ++ s.pc.pending).map fun entry =>
    slice s.memory (entry.1.getD 0) entry.2.toNat

/-- The 2048 bytes of two buffers do not overlap. -/
def NoOverlap (b c : Nat) : Prop := b + 2048 ≤ c ∨ c + 2048 ≤ b

/-- A frame, with nothing behind it. -/
def frameMemory (frame : List UInt8) : Bytes := put (fun _ => 0) 0 frame

/-- The check of a frame by itself. -/
def Passes (frame : List UInt8) : Prop :=
  (sctpCheckChecksums (frameMemory frame) (UInt64.ofNat frame.length)).1 = 0

instance : DecidablePred Passes := fun _ => inferInstanceAs (Decidable (_ = _))

/-- The first chunk ends within the frame; otherwise the check also reads what is left of frames before
it. -/
def Contained (frame : List UInt8) : Prop :=
  frame.length < 46 ∨
    50 ≤ frame.length ∧ 46 + chunkLen (frameMemory frame) ≤ frame.length

/-- The check stores into the two headers only. -/
theorem sctpCheckChecksums_behind (packet : Bytes) (plen : UInt64) {i : Nat} (behind : 46 ≤ i) :
    (sctpCheckChecksums packet plen).2 i = packet i := by
  have put16 (b : Bytes) (v : UInt16) : put b 24 (le16 v) i = b i :=
    put_after b 24 i _ (by rw [length_le16]; omega)
  have put32 (b : Bytes) (v : UInt32) : put b 42 (le32 v) i = b i :=
    put_after b 42 i _ (by rw [length_le32]; omega)
  unfold sctpCheckChecksums
  dsimp only
  split
  · rfl
  · split
    · exact put16 _ _
    · split
      · simp only [put16]
      · split
        · simp only [put32, put16]
        · simp only [put32, put16]

/-- What the check of a frame reads are bytes of the frame. -/
theorem sound_congr {packet packet' : Bytes} {plen : UInt64} (headers : 50 ≤ plen.toNat)
    (chunk : 46 + chunkLen packet ≤ plen.toNat) (same : ∀ i < plen.toNat, packet i = packet' i)
    (sound : Sound packet plen) : Sound packet' plen := by
  obtain ⟨long, ip, len, crc⟩ := sound
  have total : u16 packet 16 = u16 packet' 16 := u16_congr fun i low => same _ (by omega)
  have length : u16 packet 48 = u16 packet' 48 := u16_congr fun i low => same _ (by omega)
  have check : u32 packet 42 = u32 packet' 42 := u32_congr fun i low => same _ (by omega)
  refine ⟨long, (ipIntact_congr fun i _ _ => same i (by omega)).mp ip, ?_, ?_⟩
  · rw [ipLen, ← total]
    exact len
  · have covered : slice (put packet 42 (le32 0)) 34 (12 + chunkLen packet) =
        slice (put packet' 42 (le32 0)) 34 (12 + chunkLen packet) := by
      refine slice_congr fun i low => ?_
      simp only [put]
      rw [same (34 + i) (by omega)]
    rw [crcIntact_iff, firstCrc, crcOf] at crc ⊢
    rw [show chunkLen packet' = chunkLen packet by rw [chunkLen, chunkLen, length], ← check, crc,
      covered]

/-- The memory is the same outside of the buffer. -/
theorem slice_checkedMemory {memory : Bytes} {b c n : Nat} {frame : List UInt8} (apart : NoOverlap b c)
    (short : frame.length ≤ 2048) (inside : n ≤ 2048) :
    slice (checkedMemory memory b frame) c n = slice memory c n := by
  refine slice_congr fun i low => ?_
  rw [checkedMemory, Bytes.modify]
  obtain after | before := apart
  · rw [if_pos (by omega), sctpCheckChecksums_behind _ _ (by omega), shift,
      put_after _ _ _ _ (by omega)]
    exact congrArg memory (by omega)
  · rw [if_neg (by omega), put_before _ _ _ _ (by omega)]

/-- And there too, if the frame is accepted. -/
theorem checkedMemory_of_accepted {memory : Bytes} {b : Nat} {frame : List UInt8}
    (accepted : (sctpCheckChecksums (shift (put memory b frame) b)
      (UInt64.ofNat frame.length)).1 = 0) :
    checkedMemory memory b frame = put memory b frame := by
  obtain ⟨accepts, refuses⟩ := sctpCheckChecksums_sound (shift (put memory b frame) b)
    (UInt64.ofNat frame.length)
  have sound : Sound (shift (put memory b frame) b) (UInt64.ofNat frame.length) := by
    by_contra unsound
    rw [refuses unsound] at accepted
    cases accepted
  rw [checkedMemory, modify_eq_self_iff, accepts sound]

/-- Where the first chunk ends within the frame, the memory behind the frame has no say. -/
theorem accepted_iff_passes {memory : Bytes} {frame : List UInt8} (contained : Contained frame)
    (short : frame.length ≤ 2048) (stored : slice memory 0 frame.length = frame) :
    (sctpCheckChecksums memory (UInt64.ofNat frame.length)).1 = 0 ↔ Passes frame := by
  have length : (UInt64.ofNat frame.length).toNat = frame.length :=
    Counter.toNat_ofNat_of_lt (by omega)
  have verdict (packet : Bytes) :
      (sctpCheckChecksums packet (UInt64.ofNat frame.length)).1 = 0 ↔
        Sound packet (UInt64.ofNat frame.length) := by
    obtain ⟨accepts, refuses⟩ := sctpCheckChecksums_sound packet (UInt64.ofNat frame.length)
    by_cases sound : Sound packet (UInt64.ofNat frame.length)
    · exact iff_of_true (by rw [accepts sound]) sound
    · exact iff_of_false (by rw [refuses sound]; decide) sound
  rw [Passes, verdict, verdict]
  obtain few | ⟨headers, chunk⟩ := contained
  · exact iff_of_false (fun sound => absurd sound.headers (by omega))
      (fun sound => absurd sound.headers (by omega))
  · have alone : slice (frameMemory frame) 0 frame.length = frame := slice_put_self _ 0 frame
    have same : ∀ i < (UInt64.ofNat frame.length).toNat, frameMemory frame i = memory i := by
      intro i low
      have bytes := eq_of_slice_eq (alone.trans stored.symm) i (by omega)
      simpa only [Nat.zero_add] using bytes
    have field : chunkLen memory = chunkLen (frameMemory frame) := by
      rw [chunkLen, chunkLen, u16_congr fun i low => (same (48 + i) (by omega)).symm]
    constructor
    · exact sound_congr (by omega) (by omega) fun i low => (same i low).symm
    · exact sound_congr (by omega) (by omega) same

/-- What there is to know of a process after any number of steps: the frames between the two sides,
each with its buffer, oldest first. -/
structure Flowing (bs : List Nat) (s : Receiver) (log : List ReceiveEvent)
    (queue : List (Nat × List UInt8)) : Prop where
  buffers : s.buffers.Perm (bs.map some)
  queued : s.unread ++ s.rb.contents ++ s.pc.pending =
    queue.map fun e => (some e.1, UInt64.ofNat e.2.length)
  stored : ∀ e ∈ s.held ++ queue, e.2.length ≤ 2048 ∧ slice s.memory e.1 e.2.length = e.2
  order : acceptedFrames log = takenFrames log ++ queue.map Prod.snd
  room : bs.length ≤ s.allocator.capacity
  fits : bs.length ≤ s.rb.capacity
  reads : ∀ cell, s.pc = .reads cell → s.allocator.Popped cell
  popped : ∀ cell, s.popped = some cell → s.rb.Popped cell
  verdicts : (∀ frame ∈ receivedFrames log, Contained frame) →
    acceptedFrames log = (receivedFrames log).filter Passes

namespace Flowing

variable {bs : List Nat} {s : Receiver} {log : List ReceiveEvent} {queue : List (Nat × List UInt8)}

/-- No pointer that the thread or a ring has is `NULL`. -/
theorem eq_some (flowing : Flowing bs s log queue) {buffer : Option Nat}
    (member : buffer ∈ s.buffers) : ∃ b ∈ bs, buffer = some b := by
  obtain ⟨b, inside, same⟩ := List.mem_map.mp (flowing.buffers.mem_iff.mp member)
  exact ⟨b, inside, same.symm⟩

/-- The buffer of the thread is none of those that hold a frame. -/
theorem apart (flowing : Flowing bs s log queue) (distinct : bs.Pairwise NoOverlap) {b : Nat}
    (receives : s.pc = .receives (some b)) : ∀ e ∈ s.held ++ queue, NoOverlap b e.1 := by
  intro e member
  -- the relation that the buffers keep in any order
  have pairwise : (bs.map some).Pairwise fun x y => ∀ b c, x = some b → y = some c → NoOverlap b c := by
    rw [List.pairwise_map]
    refine distinct.imp ?_
    rintro b c apart _ _ ⟨⟩ ⟨⟩
    exact apart
  have symmetric : ∀ {x y : Option Nat}, (∀ b c, x = some b → y = some c → NoOverlap b c) →
      ∀ b c, y = some b → x = some c → NoOverlap b c :=
    fun apart b c here there => (apart c b there here).symm
  have everywhere := (flowing.buffers.pairwise_iff symmetric).mpr pairwise
  have queued := flowing.queued
  simp only [receives, ReceivePc.pending, List.append_nil] at queued
  rw [Receiver.buffers, Receiver.own, receives, List.singleton_append,
    List.pairwise_cons] at everywhere
  refine everywhere.1 (some e.1) ?_ b e.1 rfl rfl
  refine List.mem_append_left _ ?_
  obtain held | waits := List.mem_append.mp member
  · exact List.mem_append_right _ (List.mem_map_of_mem held)
  · rw [queued]
    refine List.mem_append_left _ ?_
    rw [List.map_map]
    exact List.mem_map_of_mem (f := Prod.fst ∘ _) waits

/-- There are as many buffers as there were. -/
theorem length_eq (flowing : Flowing bs s log queue) :
    s.own.length + s.unread.length + s.rb.contents.length + s.held.length +
      s.allocator.contents.length = bs.length := by
  have count := flowing.buffers.length_eq
  rw [Receiver.buffers] at count
  simp only [List.length_append, List.length_map] at count
  omega

/-- With a buffer in other hands the allocator has room for it. -/
theorem pushed (flowing : Flowing bs s log queue) {others : List (Option Nat)} {b : Option Nat}
    (elsewhere : s.buffers.Perm (b :: (others ++ s.allocator.contents.map Prod.fst)))
    (plen : UInt64) :
    (s.allocator.push b plen).2.contents = s.allocator.contents ++ [(b, plen)] := by
  have room := flowing.room
  have count := flowing.buffers.length_eq
  rw [elsewhere.length_eq, List.length_cons, List.length_append, List.length_map,
    List.length_map] at count
  rw [RingQueue.contents_push, if_pos (by omega)]

/-- The thread pops a cell with a buffer, if there is one. -/
theorem pops (flowing : Flowing bs s log queue) (waits : s.pc = .pops) (answer : Recv) :
    ∃ after, s.thread answer = some (after, []) ∧ Flowing bs after log queue := by
  cases remaining : s.allocator.contents with
  | nil =>
    have popped := RingQueue.popCell_nil remaining
    refine ⟨s, ?_, flowing⟩
    simp only [Receiver.thread, waits, popped]
    rw [← waits]
  | cons entry rest =>
    obtain ⟨cell, allocator, popped, last, read, contents, capacity⟩ :=
      RingQueue.popCell_cons remaining
    have room := flowing.room
    have buffers := flowing.buffers
    have queued := flowing.queued
    rw [waits] at queued
    refine ⟨{ s with allocator := allocator, pc := .reads cell }, ?_,
      { flowing with buffers := ?_, queued := queued, room := ?_, reads := ?_ }⟩
    · simp only [Receiver.thread, waits, popped]
    · -- the buffer comes from behind all the others to the front
      have own : s.own = [] := by simp only [Receiver.own, waits]
      rw [Receiver.buffers, own, remaining, List.nil_append, List.map_cons] at buffers
      refine List.Perm.trans ?_ buffers
      rw [Receiver.buffers, Receiver.own, contents]
      dsimp only
      rw [read, List.singleton_append]
      exact List.perm_middle.symm
    · rw [capacity]
      exact room
    · rintro _ ⟨⟩
      exact last

/-- The thread reads the cell, which is as it was when it was popped. -/
theorem reads_cell (flowing : Flowing bs s log queue) {cell : Nat} (waits : s.pc = .reads cell)
    (answer : Recv) :
    ∃ after, s.thread answer = some (after, []) ∧ Flowing bs after log queue := by
  have buffers := flowing.buffers
  have queued := flowing.queued
  rw [Receiver.buffers, Receiver.own, waits] at buffers
  rw [waits] at queued
  refine ⟨{ s with pc := .receives (s.allocator.entry cell).1 }, ?_,
    { flowing with buffers := buffers, queued := queued, reads := ?_ }⟩
  · simp only [Receiver.thread, waits]
  · rintro _ ⟨⟩

/-- The thread puts its frame on the ring, where a cell is free: the buffers of all its frames are
fewer than its cells. -/
theorem pushes (flowing : Flowing bs s log queue) {buffer : Option Nat} {dataSize : UInt64}
    (accepted : s.pc = .pushes buffer dataSize) (answer : Recv) :
    ∃ after, s.thread answer = some (after, []) ∧ Flowing bs after log queue := by
  obtain ⟨result, contents, capacity⟩ := s.rb.push_spec buffer dataSize
  have count := flowing.length_eq
  have fits := flowing.fits
  have buffers := flowing.buffers
  have queued := flowing.queued
  have own : s.own = [buffer] := by rw [Receiver.own, accepted]
  rw [own, List.length_singleton] at count
  rw [Receiver.buffers, own] at buffers
  rw [accepted, ReceivePc.pending] at queued
  rw [if_pos (by omega)] at result contents
  -- the popped cell is not the one that is stored into
  have unread : ({ s with rb := (s.rb.push buffer dataSize).2, pc := .pops } : Receiver).unread =
      s.unread := by
    cases popped : s.popped with
    | none => rw [Receiver.unread, Receiver.unread, popped]; rfl
    | some cell =>
      rw [Receiver.unread, popped, Option.map_some, Option.toList_some, List.length_singleton] at count
      have same := (flowing.popped cell popped).entry_push (by omega) buffer dataSize
      rw [Receiver.unread, Receiver.unread, popped, Option.map_some, Option.map_some, same]
  refine ⟨{ s with rb := (s.rb.push buffer dataSize).2, pc := .pops }, ?_,
    { flowing with buffers := ?_, queued := ?_, fits := ?_, reads := ?_, popped := ?_ }⟩
  · simp only [Receiver.thread, accepted, result]
    rfl
  · -- from the thread to the end of the ring
    refine List.Perm.trans (List.perm_iff_count.mpr fun a => ?_) buffers
    rw [Receiver.buffers, unread]
    simp only [Receiver.own, contents, List.nil_append, List.map_append, List.map_cons,
      List.map_nil, List.count_append, List.count_cons, List.count_nil]
    omega
  · rw [unread]
    simp only [ReceivePc.pending, contents, List.append_nil]
    rw [← List.append_assoc]
    exact queued
  · rw [capacity]
    exact fits
  · rintro _ ⟨⟩
  · intro cell popped
    exact (flowing.popped cell popped).push buffer dataSize

/-- The process ends; the buffer of the thread is back in the allocator. -/
theorem exit (flowing : Flowing bs s log queue) {buffer : Option Nat}
    (receives : s.pc = .receives buffer) (status : Int) :
    Flowing bs (s.exit buffer status) log queue := by
  have elsewhere : s.buffers.Perm (buffer :: (((s.unread ++ s.rb.contents).map Prod.fst ++
      s.held.map (some ·.1)) ++ s.allocator.contents.map Prod.fst)) := by
    rw [Receiver.buffers, Receiver.own, receives]
    exact List.Perm.refl _
  have pushed := flowing.pushed elsewhere 2048
  have room := flowing.room
  have buffers := flowing.buffers
  have queued := flowing.queued
  rw [receives] at queued
  refine { flowing with buffers := ?_, queued := queued, room := ?_, reads := ?_ }
  · refine List.Perm.trans (List.perm_iff_count.mpr fun a => ?_) (elsewhere.symm.trans buffers)
    rw [Receiver.buffers, Receiver.exit]
    simp only [Receiver.own, Receiver.unread, pushed, List.map_append, List.map_cons, List.map_nil,
      List.count_append, List.count_cons, List.count_nil]
    omega
  · rw [Receiver.exit, RingQueue.capacity_push]
    exact room
  · rintro _ ⟨⟩

/-- The verdict on a frame that is contained is its own. -/
theorem verdict_iff {memory : Bytes} {frame : List UInt8} {log : List ReceiveEvent} (b : Nat)
    (short : frame.length ≤ 2048) (contained : ∀ other ∈ receivedFrames log, Contained other)
    (member : frame ∈ receivedFrames log) :
    (sctpCheckChecksums (shift (put memory b frame) b) (UInt64.ofNat frame.length)).1 = 0 ↔
      Passes frame := by
  have stored : slice (shift (put memory b frame) b) 0 frame.length = frame := by
    rw [slice_shift]
    exact slice_put_self memory b frame
  exact accepted_iff_passes (contained frame member) short stored

/-- A frame is stored and refused, and the next one will be stored over it. -/
theorem refused (flowing : Flowing bs s log queue) (distinct : bs.Pairwise NoOverlap) {b : Nat}
    (receives : s.pc = .receives (some b)) {frame : List UInt8} (short : frame.length ≤ 2048)
    (verdict : (sctpCheckChecksums (shift (put s.memory b frame) b)
      (UInt64.ofNat frame.length)).1 ≠ 0) :
    Flowing bs { s with memory := checkedMemory s.memory b frame } (log ++ [.received frame])
      queue := by
  have others := flowing.apart distinct receives
  obtain ⟨buffers, queued, stored, order, room, fits, reads, popped, verdicts⟩ := flowing
  have one : receivedFrames [.received frame] = [frame] := rfl
  have none : acceptedFrames [.received frame] = [] ∧ takenFrames [.received frame] = [] := ⟨rfl, rfl⟩
  refine ⟨buffers, queued, ?_, ?_, room, fits, reads, popped, ?_⟩
  · intro e member
    obtain ⟨low, same⟩ := stored e member
    exact ⟨low, (slice_checkedMemory (others e member) short low).trans same⟩
  · simpa only [acceptedFrames_append, takenFrames_append, none, List.append_nil] using order
  · intro contained
    have broken : ¬Passes frame := by
      rw [← verdict_iff b short contained (by simp [one])]
      exact verdict
    rw [receivedFrames_append, one] at contained ⊢
    rw [acceptedFrames_append, none.1, List.filter_append, List.append_nil,
      verdicts fun other member => contained other (List.mem_append_left _ member)]
    simp [broken]

/-- A frame that is accepted is behind all the others, as it was received. -/
theorem accepted (flowing : Flowing bs s log queue) (distinct : bs.Pairwise NoOverlap) {b : Nat}
    (receives : s.pc = .receives (some b)) {frame : List UInt8} (short : frame.length ≤ 2048)
    (verdict : (sctpCheckChecksums (shift (put s.memory b frame) b)
      (UInt64.ofNat frame.length)).1 = 0) :
    Flowing bs { s with
        memory := checkedMemory s.memory b frame
        pc := .pushes (some b) (UInt64.ofNat frame.length) }
      (log ++ [.received frame, .accepted frame]) (queue ++ [(b, frame)]) := by
  have others := flowing.apart distinct receives
  obtain ⟨buffers, queued, stored, order, room, fits, -, popped, verdicts⟩ := flowing
  rw [receives] at queued
  rw [Receiver.buffers, Receiver.own, receives] at buffers
  have one : receivedFrames [.received frame, .accepted frame] = [frame] ∧
      acceptedFrames [.received frame, .accepted frame] = [frame] ∧
      takenFrames [.received frame, .accepted frame] = [] := ⟨rfl, rfl, rfl⟩
  refine ⟨buffers, ?_, ?_, ?_, room, fits, ?_, popped, ?_⟩
  · simp only [ReceivePc.pending, List.append_nil] at queued
    simp only [ReceivePc.pending, List.map_append, List.map_cons, List.map_nil]
    rw [← queued]
    rfl
  · intro e member
    rw [← List.append_assoc, List.mem_append, List.mem_singleton] at member
    obtain other | rfl := member
    · obtain ⟨low, same⟩ := stored e other
      exact ⟨low, (slice_checkedMemory (others e other) short low).trans same⟩
    · refine ⟨short, ?_⟩
      rw [checkedMemory_of_accepted verdict]
      exact slice_put_self _ _ _
  · rw [acceptedFrames_append, takenFrames_append, one.2.1, one.2.2, order, List.map_append,
      List.append_nil, List.append_assoc]
    rfl
  · rintro _ ⟨⟩
  · intro contained
    have intact : Passes frame := by
      rw [← verdict_iff b short contained (by simp [one])]
      exact verdict
    rw [receivedFrames_append, one.1] at contained ⊢
    rw [acceptedFrames_append, one.2.1, List.filter_append,
      verdicts fun other member => contained other (List.mem_append_left _ member)]
    simp [intact]

/-- One turn of the receiving loop. -/
theorem receive (flowing : Flowing bs s log queue) (distinct : bs.Pairwise NoOverlap)
    {buffer : Option Nat} (receives : s.pc = .receives buffer) (answer : Recv) :
    ∃ after ev queue', s.thread answer = some (after, ev) ∧ Flowing bs after (log ++ ev) queue' := by
  have reads : s.thread answer = s.receive buffer answer := by
    rw [Receiver.thread, receives]
  rw [reads]
  cases answer with
  | again => exact ⟨s, [], queue, rfl, by rwa [List.append_nil]⟩
  | failed =>
    refine ⟨s.exit buffer 1, [], queue, rfl, ?_⟩
    rw [List.append_nil]
    exact flowing.exit receives 1
  | data bytes =>
    have short : (bytes.take 2048).length ≤ 2048 := List.length_take_le _ _
    have own : buffer ∈ s.buffers := by
      rw [Receiver.buffers, Receiver.own, receives]
      exact List.mem_append_left _ (List.mem_singleton_self _)
    obtain ⟨b, -, rfl⟩ := flowing.eq_some own
    by_cases nothing : bytes.take 2048 = []
    · refine ⟨s.exit (some b) 0, [], queue, by simp only [Receiver.receive, if_pos nothing], ?_⟩
      rw [List.append_nil]
      exact flowing.exit receives 0
    · by_cases verdict : (sctpCheckChecksums (shift (put s.memory b (bytes.take 2048)) b)
          (UInt64.ofNat (bytes.take 2048).length)).1 = 0
      · exact ⟨_, _, _, by simp only [Receiver.receive, if_neg nothing, if_neg (not_not.mpr verdict)],
          flowing.accepted distinct receives short verdict⟩
      · exact ⟨_, _, _, by simp only [Receiver.receive, if_neg nothing, if_pos verdict],
          flowing.refused distinct receives short verdict⟩

/-- The other side pops the cell of the oldest frame, if there is one on the ring. -/
theorem pop (flowing : Flowing bs s log queue) {after : Receiver} (popped : s.pop = some after) :
    Flowing bs after log queue := by
  have buffers := flowing.buffers
  have queued := flowing.queued
  cases last : s.popped with
  | some cell =>
    rw [Receiver.pop, last] at popped
    cases popped
  | none =>
    have unread : s.unread = [] := by rw [Receiver.unread, last]; rfl
    rw [Receiver.buffers, unread] at buffers
    rw [unread] at queued
    cases remaining : s.rb.contents with
    | nil =>
      simp only [Receiver.pop, last, RingQueue.popCell_nil remaining, Option.some.injEq] at popped
      subst popped
      exact { flowing with buffers := buffers, queued := queued, popped := fun _ => nofun }
    | cons entry rest =>
      obtain ⟨cell, rb, returned, released, read, contents, capacity⟩ :=
        RingQueue.popCell_cons remaining
      have fits := flowing.fits
      simp only [Receiver.pop, last, returned, Option.some.injEq] at popped
      subst popped
      -- what was first on the ring is in the popped cell
      have first : [rb.entry cell] ++ rb.contents = s.rb.contents := by
        rw [read, contents, remaining]
        rfl
      refine { flowing with buffers := ?_, queued := ?_, fits := ?_, popped := ?_ }
      · rw [← first] at buffers
        exact buffers
      · rw [← first] at queued
        exact queued
      · rw [capacity]
        exact fits
      · rintro _ ⟨⟩
        exact released

/-- The other side reads the cell, and finds the frame that was the oldest. -/
theorem read (flowing : Flowing bs s log queue) {cell : Nat} (last : s.popped = some cell) :
    ∃ after ev queue', s.read = some (after, ev) ∧ Flowing bs after (log ++ ev) queue' := by
  obtain ⟨buffers, queued, stored, order, room, fits, reads, -, verdicts⟩ := flowing
  have unread : s.unread = [s.rb.entry cell] := by
    rw [Receiver.unread, last]
    rfl
  rw [Receiver.buffers, unread] at buffers
  rw [unread] at queued
  -- it is the first of the frames between the two sides
  cases queue with
  | nil => cases queued
  | cons e queue =>
    obtain ⟨b, frame⟩ := e
    rw [List.append_assoc, List.cons_append, List.map_cons] at queued
    obtain ⟨entry, others⟩ := List.cons.inj queued
    obtain ⟨low, same⟩ := stored (b, frame) (by simp)
    have length : (UInt64.ofNat frame.length).toNat = frame.length :=
      Counter.toNat_ofNat_of_lt (by dsimp only at low; omega)
    have found : s.read = some ({ s with popped := none, held := s.held ++ [(b, frame)] },
        [.taken frame]) := by
      simp only [Receiver.read, last, entry, length]
      rw [same]
    refine ⟨_, _, queue, found, ?_, others, ?_, ?_, room, fits, reads, fun _ => nofun, ?_⟩
    · refine List.Perm.trans (List.perm_iff_count.mpr fun a => ?_) buffers
      rw [Receiver.buffers, entry]
      simp only [Receiver.own, Receiver.unread, Option.map_none, Option.toList_none, List.nil_append,
        List.map_cons, List.map_append, List.map_nil, List.count_append, List.count_cons,
        List.count_nil]
      omega
    · intro other member
      exact stored other (by simpa [or_assoc] using member)
    · have one : acceptedFrames [.taken frame] = [] ∧ takenFrames [.taken frame] = [frame] :=
        ⟨rfl, rfl⟩
      rw [acceptedFrames_append, takenFrames_append, one.1, one.2, order, List.append_nil,
        List.map_cons, List.append_assoc]
      rfl
    · have none : receivedFrames [.taken frame] = [] ∧ acceptedFrames [.taken frame] = [] :=
        ⟨rfl, rfl⟩
      rw [receivedFrames_append, acceptedFrames_append, none.1, none.2, List.append_nil,
        List.append_nil]
      exact verdicts

/-- What the thread has popped and not read yet is not the cell that a buffer comes back into. -/
theorem own_giveBack (flowing : Flowing bs s log queue) {i : Nat} (inside : i < s.held.length)
    (plen : UInt64) : ({ s with
      allocator := (s.allocator.push (some s.held[i].1) plen).2
      held := s.held.eraseIdx i } : Receiver).own = s.own := by
  cases pc : s.pc with
  | reads cell =>
    have count := flowing.length_eq
    have room := flowing.room
    rw [Receiver.own, pc, List.length_singleton] at count
    have same := (flowing.reads cell pc).entry_push (by omega) (some s.held[i].1) plen
    simp only [Receiver.own, pc, same]
  | pops => simp only [Receiver.own, pc]
  | receives buffer => simp only [Receiver.own, pc]
  | pushes buffer dataSize => simp only [Receiver.own, pc]
  | exited status => simp only [Receiver.own, pc]

/-- A buffer comes back, and the allocator has room for it. -/
theorem giveBack (flowing : Flowing bs s log queue) {i : Nat} {plen : UInt64} {after : Receiver}
    (given : s.giveBack i plen = some after) : Flowing bs after log queue := by
  unfold Receiver.giveBack at given
  split at given
  next inside =>
    cases given
    have out : s.held.Perm (s.held[i] :: s.held.eraseIdx i) :=
      (List.getElem_cons_eraseIdx_perm inside).symm
    have counts (a : Option Nat) : (s.held.map (some ·.1)).count a =
        ((s.held.eraseIdx i).map (some ·.1)).count a +
          if (some s.held[i].1 == a) = true then 1 else 0 := by
      rw [(out.map (some ·.1)).count_eq, List.map_cons, List.count_cons]
    have elsewhere : s.buffers.Perm (some s.held[i].1 :: ((s.own ++
        ((s.unread ++ s.rb.contents).map Prod.fst ++ (s.held.eraseIdx i).map (some ·.1))) ++
        s.allocator.contents.map Prod.fst)) := by
      refine List.perm_iff_count.mpr fun a => ?_
      rw [Receiver.buffers]
      simp only [List.count_append, List.count_cons, counts a]
      omega
    have pushed := flowing.pushed elsewhere plen
    have own := flowing.own_giveBack inside plen
    have room := flowing.room
    refine { flowing with buffers := ?_, stored := ?_, room := ?_, reads := ?_ }
    · refine List.Perm.trans (List.perm_iff_count.mpr fun a => ?_)
        (elsewhere.symm.trans flowing.buffers)
      rw [Receiver.buffers, own]
      dsimp only
      rw [pushed]
      simp only [Receiver.unread, List.map_append, List.map_cons, List.map_nil, List.count_append,
        List.count_cons, List.count_nil]
      omega
    · intro e member
      refine flowing.stored e ?_
      obtain held | waits := List.mem_append.mp member
      · exact List.mem_append_left _ (List.mem_of_mem_eraseIdx held)
      · exact List.mem_append_right _ waits
    · rw [RingQueue.capacity_push]
      exact room
    · intro cell waits
      exact (flowing.reads cell waits).push _ plen
  next => cases given

/-- Any step of either side. -/
theorem act (flowing : Flowing bs s log queue) (distinct : bs.Pairwise NoOverlap) {a : ReceiveAct}
    {after : Receiver} {ev : List ReceiveEvent} (stepped : s.act a = some (after, ev)) :
    ∃ queue', Flowing bs after (log ++ ev) queue' := by
  cases a with
  | thread answer =>
    rw [Receiver.act] at stepped
    cases pc : s.pc with
    | pops =>
      obtain ⟨after', popped, flowing'⟩ := flowing.pops pc answer
      cases popped.symm.trans stepped
      exact ⟨queue, by rwa [List.append_nil]⟩
    | reads cell =>
      obtain ⟨after', read, flowing'⟩ := flowing.reads_cell pc answer
      cases read.symm.trans stepped
      exact ⟨queue, by rwa [List.append_nil]⟩
    | receives buffer =>
      obtain ⟨after', ev', queue', received, flowing'⟩ := flowing.receive distinct pc answer
      cases received.symm.trans stepped
      exact ⟨queue', flowing'⟩
    | pushes buffer dataSize =>
      obtain ⟨after', pushed, flowing'⟩ := flowing.pushes pc answer
      cases pushed.symm.trans stepped
      exact ⟨queue, by rwa [List.append_nil]⟩
    | exited status =>
      rw [Receiver.thread, pc] at stepped
      cases stepped
  | pop =>
    simp only [Receiver.act] at stepped
    split at stepped
    · cases stepped
    · obtain ⟨after', popped, same⟩ := Option.map_eq_some_iff.mp stepped
      cases same
      exact ⟨queue, by rw [List.append_nil]; exact flowing.pop popped⟩
  | read =>
    simp only [Receiver.act] at stepped
    split at stepped
    · cases stepped
    · cases last : s.popped with
      | none =>
        rw [Receiver.read, last] at stepped
        cases stepped
      | some cell =>
        obtain ⟨after', ev', queue', taken, flowing'⟩ := flowing.read last
        cases taken.symm.trans stepped
        exact ⟨queue', flowing'⟩
  | giveBack i plen =>
    simp only [Receiver.act] at stepped
    split at stepped
    · cases stepped
    · obtain ⟨after', given, same⟩ := Option.map_eq_some_iff.mp stepped
      cases same
      exact ⟨queue, by rw [List.append_nil]; exact flowing.giveBack given⟩

/-- The thread is never stuck: no pointer it follows is `NULL`. -/
theorem thread_isSome (flowing : Flowing bs s log queue) (distinct : bs.Pairwise NoOverlap)
    (runs : ∀ status, s.pc ≠ .exited status) (answer : Recv) : (s.thread answer).isSome := by
  cases pc : s.pc with
  | pops =>
    obtain ⟨after, popped, -⟩ := flowing.pops pc answer
    rw [popped, Option.isSome_some]
  | reads cell =>
    obtain ⟨after, read, -⟩ := flowing.reads_cell pc answer
    rw [read, Option.isSome_some]
  | receives buffer =>
    obtain ⟨after, ev, queue', received, -⟩ := flowing.receive distinct pc answer
    rw [received, Option.isSome_some]
  | pushes buffer dataSize =>
    obtain ⟨after, pushed, -⟩ := flowing.pushes pc answer
    rw [pushed, Option.isSome_some]
  | exited status => exact absurd pc (runs status)

/-- Neither is the other side. -/
theorem read_isSome (flowing : Flowing bs s log queue) (popped : s.popped.isSome) :
    s.read.isSome := by
  obtain ⟨cell, last⟩ := Option.isSome_iff_exists.mp popped
  obtain ⟨after, ev, queue', found, -⟩ := flowing.read last
  rw [found, Option.isSome_some]

/-- The frames between the two sides are what the memory holds in their buffers. -/
theorem waiting_eq (flowing : Flowing bs s log queue) : s.waiting = queue.map Prod.snd := by
  rw [Receiver.waiting, flowing.queued, List.map_map]
  refine List.map_congr_left fun e member => ?_
  obtain ⟨low, same⟩ := flowing.stored e (List.mem_append_right _ member)
  have length : (UInt64.ofNat e.2.length).toNat = e.2.length :=
    Counter.toNat_ofNat_of_lt (by omega)
  simp only [Function.comp_apply, Option.getD_some, length]
  exact same

end Flowing

theorem Flowing.start {bs : List Nat} {allocator rb : RingQueue Nat} (memory : Bytes)
    (filled : allocator.contents.map Prod.fst = bs.map some) (empty : rb.contents = [])
    (fits : bs.length ≤ rb.capacity) : Flowing bs (Receiver.start allocator rb memory) [] [] := by
  refine ⟨?_, ?_, nofun, rfl, ?_, fits, fun _ => nofun, fun _ => nofun, fun _ => rfl⟩
  · simp [Receiver.buffers, Receiver.own, Receiver.unread, Receiver.start, empty, filled]
  · simp [Receiver.start, Receiver.unread, ReceivePc.pending, empty]
  · have count := congrArg List.length filled
    rw [List.length_map, List.length_map] at count
    rw [← count]
    exact allocator.length_contents_le

/-- In whatever order the two sides act and whatever `recv` comes back with, on a ring with a cell for
each of the buffers: the frames that were accepted are those that were taken and those that wait, in
this order; if no chunk goes beyond its frame, they are those of all received that pass the check; a
frame that was taken stays as it is until its buffer is given back; every buffer is in one place; and
neither side is ever stuck. -/
theorem frames_pass_in_order (bs : List Nat) (distinct : bs.Pairwise NoOverlap)
    (allocator rb : RingQueue Nat) (memory : Bytes)
    (filled : allocator.contents.map Prod.fst = bs.map some) (empty : rb.contents = [])
    (fits : bs.length ≤ rb.capacity)
    (schedule : List ReceiveAct) (s : Receiver) (log : List ReceiveEvent)
    (ran : Runs.run Receiver.act (Receiver.start allocator rb memory) schedule = some (s, log)) :
    acceptedFrames log = takenFrames log ++ s.waiting ∧
    ((∀ frame ∈ receivedFrames log, Contained frame) →
      acceptedFrames log = (receivedFrames log).filter Passes) ∧
    (∀ e ∈ s.held, slice s.memory e.1 e.2.length = e.2) ∧
    s.buffers.Perm (bs.map some) ∧
    ((∀ status, s.pc ≠ .exited status) → ∀ answer, (s.thread answer).isSome) ∧
    (s.popped.isSome → s.read.isSome) := by
  obtain ⟨queue, flowing⟩ := Runs.run_induction Receiver.act (fun _ _ => True)
    (Receiver.start allocator rb memory) (fun _ s log => ∃ queue, Flowing bs s log queue)
    ⟨[], .start memory filled empty fits⟩ (by
      rintro _ a mid before after ev _ ⟨queue, flowing⟩ _ stepped
      exact flowing.act distinct stepped)
    schedule s log ran (Runs.along_true _ _ _)
  refine ⟨?_, flowing.verdicts, ?_, flowing.buffers, flowing.thread_isSome distinct,
    flowing.read_isSome⟩
  · rw [flowing.waiting_eq]
    exact flowing.order
  · intro e member
    exact (flowing.stored e (List.mem_append_left _ member)).2

/-- The allocator of `create_allocator` with two buffers, and an empty ring. -/
def twoBuffers : RingQueue Nat := RingQueue.pair (fun i => 4096 * (i + 1)) 64 2048

def noFrames : RingQueue Nat := twoBuffers.pop.2.pop.2

/-- A COOKIE ACK is received twice, the second time with a lost bit; then the connection is closed. -/
def twoReceptions : List ReceiveAct :=
  let frame := slice acknowledgedAlone 0 50
  [.thread .again, .thread .again, .thread (.data frame), .thread .again, .pop, .thread .again,
    .thread .again, .thread (.data (frame.set 41 0)), .read, .giveBack 0 2048, .thread (.data [])]

theorem frames_pass_in_order_two : ∃ s log,
    Runs.run Receiver.act (Receiver.start twoBuffers noFrames fun _ => 0) twoReceptions =
      some (s, log) ∧
    acceptedFrames log = takenFrames log ++ s.waiting ∧ s.buffers.Perm [some 4096, some 8192] ∧
    (takenFrames log).length = 1 := by
  have runs : ((Runs.run Receiver.act (Receiver.start twoBuffers noFrames fun _ => 0)
      twoReceptions).map fun r => (takenFrames r.2).length) = some 1 := by
    decide +kernel
  obtain ⟨⟨s, log⟩, ran, taken⟩ := Option.map_eq_some_iff.mp runs
  have filled : twoBuffers.contents.map Prod.fst = [4096, 8192].map some := by
    rw [twoBuffers, RingQueue.contents_pair]
    rfl
  have empty : noFrames.contents = [] := by
    rw [noFrames, RingQueue.contents_pop, RingQueue.contents_pop, twoBuffers,
      RingQueue.contents_pair]
    rfl
  have fits : [4096, 8192].length ≤ noFrames.capacity := by
    have inside := twoBuffers.length_contents_le
    rw [← List.length_map (f := Prod.fst), filled, List.length_map] at inside
    rw [noFrames, RingQueue.capacity_pop, RingQueue.capacity_pop]
    exact inside
  have distinct : [4096, 8192].Pairwise NoOverlap := by
    simp [NoOverlap]
  obtain ⟨order, -, -, buffers, -⟩ := frames_pass_in_order [4096, 8192] distinct twoBuffers noFrames
    (fun _ => 0) filled empty fits twoReceptions s log ran
  exact ⟨s, log, ran, order, buffers, taken⟩

end Kpnet.Sctp
