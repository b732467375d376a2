import Kpnet.Xdp.Transmit

/-!
# The two ways to transmit

`xdp_tx_sg.c` puts requests on the transmit ring that carry their flags with them. On a ring that is
short of slots `xdp_tx` takes nothing of a packet, and `xdp_tx_sg` as much of it as fits: the last
descriptor it publishes announces one that does not come.
-/
namespace Kpnet.Xdp

open SlotRing

/-- `xdp_sg_req_t`. -/
structure XdpSgReq where
  addr : UInt64
  len : UInt32
  flags : UInt32
  deriving DecidableEq, Repr

/-- A request as it stands on the ring. -/
def XdpSgReq.desc (req : XdpSgReq) : XdpDesc :=
  { addr := req.addr
    len := req.len
    options := req.flags }

/-- `xdp_tx_sg`. What `sendto` answers changes nothing. -/
def xdpTxSg (ring : SlotRing XdpDesc) (reqs : Nat → XdpSgReq) (n : UInt32) :
    UInt32 × SlotRing XdpDesc :=
  let freeSpace := umemChunkCount - (ring.producer - ring.consumer)
  -- more than there are slots is cut, wherever a packet ends
  let n := if freeSpace < n then freeSpace else n
  if n = 0 then (0, ring)
  else (n, (ring.writeAll ringBits (fun i => (reqs i).desc) n.toNat).publish n)

/-- The requests are those of one packet with these segments: all but the last announce another. -/
def OnePacket (reqs : Nat → XdpSgReq) (xdpSegs : Nat → UInt64) (xdpSegLens : Nat → UInt32)
    (n : UInt32) : Prop :=
  ∀ i < n.toNat, reqs i = ⟨xdpSegs i, xdpSegLens i, if i + 1 < n.toNat then xdpPktContd else 0⟩

/-- The packet was published as a whole, or nothing was. -/
def AllOrNothing (ring ring' : SlotRing XdpDesc) (reqs : Nat → XdpSgReq) (n : UInt32) : Prop :=
  ring'.window ringBits =
      ring.window ringBits ++ (List.range n.toNat).map (fun i => (reqs i).desc) ∨
    ring'.window ringBits = ring.window ringBits

section Ring

variable {ring : SlotRing XdpDesc} {reqs : Nat → XdpSgReq} {xdpSegs : Nat → UInt64}
  {xdpSegLens : Nat → UInt32} {n : UInt32}

/-- What fits is published. -/
theorem window_published (fits : ring.used + n.toNat ≤ 4096) :
    ((ring.writeAll ringBits (fun i => (reqs i).desc) n.toNat).publish n).window ringBits =
      ring.window ringBits ++ (List.range n.toNat).map fun i => (reqs i).desc := by
  rw [window_publish _ _ _ (by rw [used_writeAll]; omega), upTo_writeAll _ (by decide) _ _ _ fits]

/-- What one call of `xdp_tx_sg` does: it publishes as many requests as there are slots. -/
theorem xdpTxSg_cases (reqs : Nat → XdpSgReq) (bounded : ring.used ≤ 4096) (positive : n ≠ 0) :
    (ring.used = 4096 ∧ xdpTxSg ring reqs n = (0, ring)) ∨
    (ring.used + n.toNat ≤ 4096 ∧ xdpTxSg ring reqs n =
      (n, (ring.writeAll ringBits (fun i => (reqs i).desc) n.toNat).publish n)) ∨
    (∃ m : UInt32, ring.used + m.toNat = 4096 ∧ m ≠ 0 ∧ m.toNat < n.toNat ∧
      xdpTxSg ring reqs n =
        (m, (ring.writeAll ringBits (fun i => (reqs i).desc) m.toNat).publish m)) := by
  have free := toNat_free ring bounded
  simp only [xdpTxSg]
  generalize umemChunkCount - (ring.producer - ring.consumer) = m at free ⊢
  by_cases short : m < n
  · have less := UInt32.lt_iff_toNat_lt.mp short
    rw [if_pos short]
    by_cases full : m = 0
    · left
      rw [if_pos full]
      rw [full, UInt32.toNat_zero] at free
      exact ⟨by omega, rfl⟩
    · right
      right
      rw [if_neg full]
      exact ⟨m, by omega, full, less, rfl⟩
  · have room := UInt32.le_iff_toNat_le.mp (UInt32.not_lt.mp short)
    right
    left
    rw [if_neg short, if_neg positive]
    exact ⟨by omega, rfl⟩

/-- The descriptors of the packet are the same on both ways. -/
theorem OnePacket.txDesc_eq (packet : OnePacket reqs xdpSegs xdpSegLens n) (positive : n ≠ 0) (i : Nat)
    (inside : i < n.toNat) : txDesc xdpSegs xdpSegLens n i = (reqs i).desc := by
  have bound := n.toNat_lt
  have last : (n - 1).toNat = n.toNat - 1 := top_pred positive
  have index : (UInt32.ofNat i).toNat = i :=
    UInt32.toNat_ofNat_of_lt' (show _ < 2 ^ 32 by omega)
  have marked : UInt32.ofNat i < n - 1 ↔ i + 1 < n.toNat := by
    rw [UInt32.lt_iff_toNat_lt, index, last]
    omega
  rw [packet i inside, txDesc, XdpSgReq.desc]
  simp only [marked]

/-- A packet that fits is taken by `xdp_tx`. -/
theorem OnePacket.xdpTx_fits (packet : OnePacket reqs xdpSegs xdpSegLens n) (positive : n ≠ 0)
    (few : n ≤ xdpMaxSegs) (fits : ring.used + n.toNat ≤ 4096) :
    xdpTx ring xdpSegs xdpSegLens n =
      (n, (ring.writeAll ringBits (fun i => (reqs i).desc) n.toNat).publish n) := by
  have free := toNat_free ring (by omega)
  have bad : ¬(n = 0 ∨ xdpMaxSegs < n) := not_or.mpr ⟨positive, UInt32.not_lt.mpr few⟩
  have room : ¬umemChunkCount - (ring.producer - ring.consumer) < n := by
    rw [UInt32.lt_iff_toNat_lt, free]
    omega
  rw [xdpTx, if_neg bad]
  dsimp only
  rw [if_neg room, writeAll_congr ringBits ring n.toNat (packet.txDesc_eq positive)]

/-- Of one that does not fit, it takes nothing. -/
theorem xdpTx_short (positive : n ≠ 0) (few : n ≤ xdpMaxSegs) (bounded : ring.used ≤ 4096)
    (short : 4096 < ring.used + n.toNat) : xdpTx ring xdpSegs xdpSegLens n = (0, ring) := by
  have free := toNat_free ring bounded
  have bad : ¬(n = 0 ∨ xdpMaxSegs < n) := not_or.mpr ⟨positive, UInt32.not_lt.mpr few⟩
  rw [xdpTx, if_neg bad]
  apply if_pos
  rw [UInt32.lt_iff_toNat_lt, free]
  omega

end Ring

/-- For one packet the two ways do the same, and the packet is published as a whole or not at all,
exactly if there is a slot for each of its segments, or none. -/
theorem xdpTxSg_agrees_iff (ring : SlotRing XdpDesc) (reqs : Nat → XdpSgReq)
    (xdpSegs : Nat → UInt64) (xdpSegLens : Nat → UInt32) (n : UInt32) (bounded : ring.used ≤ 4096)
    (positive : n ≠ 0) (few : n ≤ xdpMaxSegs) (packet : OnePacket reqs xdpSegs xdpSegLens n) :
    (xdpTxSg ring reqs n = xdpTx ring xdpSegs xdpSegLens n ↔
      ring.used = 4096 ∨ ring.used + n.toNat ≤ 4096) ∧
    (AllOrNothing ring (xdpTxSg ring reqs n).2 reqs n ↔
      ring.used = 4096 ∨ ring.used + n.toNat ≤ 4096) := by
  have some : 0 < n.toNat := toNat_pos positive
  rcases xdpTxSg_cases reqs bounded positive with ⟨full, sg⟩ | ⟨fits, sg⟩ | ⟨m, cut, nonzero, less, sg⟩
  · have tx : xdpTx ring xdpSegs xdpSegLens n = (0, ring) :=
      xdpTx_short positive few bounded (by omega)
    rw [sg, tx]
    exact ⟨iff_of_true rfl (.inl full), iff_of_true (.inr rfl) (.inl full)⟩
  · have tx := packet.xdpTx_fits positive few fits
    rw [sg, tx]
    exact ⟨iff_of_true rfl (.inr fits), iff_of_true (.inl (window_published fits)) (.inr fits)⟩
  · -- as many segments as there are slots left: fewer than the packet has, and more than none
    have tx : xdpTx ring xdpSegs xdpSegLens n = (0, ring) :=
      xdpTx_short positive few bounded (by omega)
    have published : 0 < m.toNat := toNat_pos nonzero
    have short : ¬(ring.used = 4096 ∨ ring.used + n.toNat ≤ 4096) := by omega
    rw [sg, tx]
    constructor
    · refine iff_of_false ?_ short
      intro same
      exact nonzero (congrArg Prod.fst same)
    · refine iff_of_false ?_ short
      -- both would need another number of new entries on the ring
      rintro (whole | nothing)
      · rw [window_published (by omega)] at whole
        have length := congrArg List.length (List.append_cancel_left whole)
        rw [List.length_map, List.length_map, List.length_range, List.length_range] at length
        omega
      · rw [window_published (by omega)] at nothing
        have length := congrArg List.length nothing
        rw [List.length_append, List.length_map, List.length_range] at length
        omega

/-- A ring without descriptors of note, with so many in use. -/
def ringWith (used : UInt32) : SlotRing XdpDesc := ⟨used, 0, fun _ => ⟨0, 0, 0⟩⟩

/-- A header of 46 bytes and a chunk of 20. -/
def twoSegments : Nat → XdpSgReq
  | 0 => ⟨0, 46, xdpPktContd⟩
  | _ => ⟨4096, 20, 0⟩

theorem onePacket_twoSegments : OnePacket twoSegments (fun i => (twoSegments i).addr)
    (fun i => (twoSegments i).len) 2 := by
  intro i inside
  have small : i < 2 := inside
  interval_cases i
  · rfl
  · rfl

theorem xdpTxSg_agrees_iff_room :
    xdpTxSg (ringWith 4094) twoSegments 2 =
      xdpTx (ringWith 4094) (fun i => (twoSegments i).addr) (fun i => (twoSegments i).len) 2 := by
  have agrees := xdpTxSg_agrees_iff (ringWith 4094) twoSegments (fun i => (twoSegments i).addr)
    (fun i => (twoSegments i).len) 2 (by decide) (by decide) (by decide) onePacket_twoSegments
  exact agrees.1.mpr (.inr (by decide))

/-- With one slot left, the header goes out alone and announces a chunk, where `xdp_tx` takes
nothing. -/
theorem xdpTxSg_cuts_packet :
    OnePacket twoSegments (fun i => (twoSegments i).addr) (fun i => (twoSegments i).len) 2 ∧
    (ringWith 4095).used ≤ 4096 ∧
    (xdpTxSg (ringWith 4095) twoSegments 2).1 = 1 ∧
    ((xdpTxSg (ringWith 4095) twoSegments 2).2.slots 4095).options = xdpPktContd ∧
    (xdpTx (ringWith 4095) (fun i => (twoSegments i).addr) (fun i => (twoSegments i).len) 2).1 = 0 :=
  ⟨onePacket_twoSegments, by decide, by decide, by decide, by decide⟩

end Kpnet.Xdp
