import Kpnet.Sctp.RawHandshake

/-!
# Waiting for a header

`recv_filtered.c` with the filters of `if_ipv4.c` and `if_ipv4_sctp.c`. Every frame is received into
the same buffer, and `if_sctp` reads as many bytes of it as the chunk claims to have. Behind a frame
that is shorter it finds what an earlier one has left.
-/
namespace Kpnet.Sctp

open Bytes

/-- `if_ipv4`, which looks neither at the version nor at the protocol. -/
def IfIpv4 (packet : Bytes) (size : UInt64) (c : Connection) : Prop :=
  14 + 20 ≤ size ∧ u32 packet (14 + 12) = u32 c.args.ipv4 16

instance (packet : Bytes) (size : UInt64) (c : Connection) : Decidable (IfIpv4 packet size c) :=
  inferInstanceAs (Decidable (_ ∧ _))

/-- `if_ipv4_sctp`. -/
def ifIpv4Sctp (fuel : Nat) (malloc : UInt64) (packet : Bytes) (size : UInt64) (c : Connection) :
    Except Stuck (Bool × Bytes × Connection) :=
  if IfIpv4 packet size c then
    match ifSctp fuel malloc (shift packet (14 + 20)) (size - 14 - 20) c with
    | .error stuck => .error stuck
    | .ok (taken, sctp, c) => .ok (taken, modify packet (14 + 20) fun _ => sctp, c)
  else .ok (false, packet, c)

/-- `recv_filtered`, with what one `recv` after the other stores; one that fails stores nothing. It
waits as long as nothing is taken, and does not look at the frames behind the one that is. -/
def recvFiltered {κ : Type} (filter : Bytes → UInt64 → κ → Except Stuck (Bool × Bytes × κ)) :
    Bytes → κ → List (List UInt8) → Except Stuck (Option (κ × List (List UInt8)))
  | _, _, [] => .ok none
  | buffer, args, data :: frames =>
    let buffer := put buffer 0 data
    if 46 < data.length then
      match filter buffer (UInt64.ofNat data.length) args with
      | .error stuck => .error stuck
      | .ok (true, _, args) => .ok (some (args, frames))
      | .ok (false, buffer, args) => recvFiltered filter buffer args frames
    else recvFiltered filter buffer args frames

/-- What a filter says, without the packet. -/
def verdict {κ : Type} (result : Except Stuck (Bool × Bytes × κ)) : Except Stuck (Bool × κ) :=
  result.map fun (taken, _, c) => (taken, c)

/-- A frame in a buffer of its own. -/
def alone (fuel : Nat) (malloc : UInt64) (c : Connection) (data : List UInt8) :
    Except Stuck (Bool × Connection) :=
  if 46 < data.length then
    verdict (ifIpv4Sctp fuel malloc (put (fun _ => 0) 0 data) (UInt64.ofNat data.length) c)
  else .ok (false, c)

/-- The first frame that is taken on its own, by the connection as it is at the start. -/
def firstTaken (fuel : Nat) (malloc : UInt64) (c : Connection) :
    List (List UInt8) → Except Stuck (Option (Connection × List (List UInt8)))
  | [] => .ok none
  | data :: frames =>
    match alone fuel malloc c data with
    | .error stuck => .error stuck
    | .ok (true, after) => .ok (some (after, frames))
    | .ok (false, _) => firstTaken fuel malloc c frames

/-- What `if_sctp` reads of a packet lies within its first `n` bytes. -/
structure Covered (packet : Bytes) (n : Nat) : Prop where
  chunk : 12 + (htons (u16 packet 14)).toNat ≤ n
  init : packet 12 = sctpInit ∨ packet 12 = sctpInitAck → 28 ≤ n
  cookie : packet 12 = sctpCookieEcho → 20 ≤ n

/-- A frame that fits the buffer and is as long as its header says. -/
def Whole (data : List UInt8) : Prop :=
  data.length ≤ 65536 ∧
    (50 ≤ data.length → Covered (shift (put (fun _ => 0) 0 data) 34) (data.length - 34))

section Congruence

variable {p p' : Bytes} {n : Nat}

/-- With equal bytes in front, and the checksum cleared in both. -/
theorem cleared_congr (same : ∀ i < n, p i = p' i) :
    ∀ i < n, put p 8 (le32 0) i = put p' 8 (le32 0) i := by
  intro i inside
  simp only [put, same i inside]

theorem u16_front (same : ∀ i < n, p i = p' i) {o : Nat} (inside : o + 2 ≤ n) :
    u16 p o = u16 p' o :=
  u16_congr fun i bound => same (o + i) (by omega)

theorem u32_front (same : ∀ i < n, p i = p' i) {o : Nat} (inside : o + 4 ≤ n) :
    u32 p o = u32 p' o :=
  u32_congr fun i bound => same (o + i) (by omega)

theorem takeInit_congr (same : ∀ i < n, p i = p' i) (long : 28 ≤ n) (args : ConnectionArgs) :
    takeInit p args = takeInit p' args := by
  unfold takeInit
  rw [u16_front same (o := 0) (by omega), u32_front same (o := 16) (by omega),
    u32_front same (o := 20) (by omega), u16_front same (o := 24) (by omega),
    u16_front same (o := 26) (by omega)]

theorem takeInitAck_congr (same : ∀ i < n, p i = p' i) (long : 28 ≤ n) (args : ConnectionArgs) :
    takeInitAck p args = takeInitAck p' args := by
  unfold takeInitAck
  rw [u32_front same (o := 16) (by omega), u32_front same (o := 20) (by omega),
    u16_front same (o := 24) (by omega), u16_front same (o := 26) (by omega)]

/-- `if_sctp` does not tell apart two packets with the same bytes in front, if these cover what it
reads. -/
theorem ifSctp_congr (same : ∀ i < n, p i = p' i) {size : UInt64} (count : size.toNat = n)
    (covered : 16 ≤ n → Covered p n) (fuel : Nat) (malloc : UInt64) (c : Connection) :
    verdict (ifSctp fuel malloc p size c) = verdict (ifSctp fuel malloc p' size c) := by
  unfold ifSctp
  by_cases short : size < 16
  case pos =>
    rw [if_pos short, if_pos short]
    rfl
  have long : 16 ≤ n := by
    have bound := UInt64.le_iff_toNat_le.mp (UInt64.not_lt.mp short)
    rwa [count] at bound
  obtain ⟨chunk, init, cookie⟩ := covered long
  have clear := cleared_congr same
  have len : u16 p 14 = u16 p' 14 := u16_front same (by omega)
  have crc : generateCrc32c (put p 8 (le32 0)) (12 + (htons (u16 p' 14)).toUInt32) =
      generateCrc32c (put p' 8 (le32 0)) (12 + (htons (u16 p' 14)).toUInt32) := by
    have count : (12 + (htons (u16 p' 14)).toUInt32).toNat = 12 + (htons (u16 p' 14)).toNat := by
      have bound := (htons (u16 p' 14)).toNat_lt
      rw [UInt32.toNat_add, UInt16.toNat_toUInt32, show (12 : UInt32).toNat = 12 from rfl]
      omega
    rw [len] at chunk
    rw [generateCrc32c_eq, generateCrc32c_eq, count]
    congr 1
    exact slice_congr fun i inside => clear (0 + i) (by omega)
  have type : put p 8 (le32 0) 12 = p 12 := put_after p 8 12 _ (by simp)
  have type' : put p' 8 (le32 0) 12 = p 12 := by
    rw [put_after p' 8 12 _ (by simp), same 12 (by omega)]
  have tag : u32 (put p 8 (le32 0)) 4 = u32 (put p' 8 (le32 0)) 4 := u32_front clear (by omega)
  simp only [if_neg short, len, u16_front same (show 0 + 2 ≤ n by omega),
    u16_front same (show 2 + 2 ≤ n by omega), u32_front same (show 8 + 4 ≤ n by omega), crc, type,
    type', tag]
  split
  · rfl
  · split
    · rfl
    · split
      next code =>
        rw [takeInit_congr clear (init (.inl code))]
        split
        · rfl
        · rfl
      · split
        next code =>
          rw [takeInitAck_congr clear (init (.inr code))]
          split
          · rfl
          · rfl
        · split
          next code =>
            have word : u32 (put p 8 (le32 0)) 16 = u32 (put p' 8 (le32 0)) 16 :=
              u32_front clear (cookie code)
            rw [word]
            split
            · split
              · rfl
              · split
                · cases addError fuel malloc c with
                  | error stuck => rfl
                  | ok after => rfl
                · rfl
            · rfl
          · rfl

theorem verdict_ifIpv4Sctp {size : UInt64} {c : Connection} (taken : IfIpv4 p size c) (fuel : Nat)
    (malloc : UInt64) :
    verdict (ifIpv4Sctp fuel malloc p size c) =
      verdict (ifSctp fuel malloc (shift p 34) (size - 14 - 20) c) := by
  rw [ifIpv4Sctp, if_pos taken]
  cases ifSctp fuel malloc (shift p (14 + 20)) (size - 14 - 20) c with
  | error stuck => rfl
  | ok result => rfl

theorem verdict_of_not_ifIpv4 {size : UInt64} {c : Connection} (foreign : ¬IfIpv4 p size c)
    (fuel : Nat) (malloc : UInt64) :
    verdict (ifIpv4Sctp fuel malloc p size c) = .ok (false, c) := by
  rw [ifIpv4Sctp, if_neg foreign]
  rfl

/-- Nor does `if_ipv4_sctp`. -/
theorem ifIpv4Sctp_congr (same : ∀ i < n, p i = p' i) {size : UInt64} (count : size.toNat = n)
    (covered : 50 ≤ n → Covered (shift p 34) (n - 34)) (fuel : Nat) (malloc : UInt64)
    (c : Connection) :
    verdict (ifIpv4Sctp fuel malloc p size c) = verdict (ifIpv4Sctp fuel malloc p' size c) := by
  have filters : IfIpv4 p size c ↔ IfIpv4 p' size c := by
    apply and_congr_right
    intro long
    have bound : 34 ≤ n := by
      rw [← count]
      exact UInt64.le_iff_toNat_le.mp long
    rw [u32_front same (show 14 + 12 + 4 ≤ n by omega)]
  by_cases taken : IfIpv4 p size c
  · have bound : 34 ≤ size.toNat := UInt64.le_iff_toNat_le.mp taken.1
    have rest : (size - 14 - 20).toNat = n - 34 := by
      have first : (14 : UInt64) ≤ size := UInt64.le_iff_toNat_le.mpr (by simp; omega)
      have second : (20 : UInt64) ≤ size - 14 := by
        rw [UInt64.le_iff_toNat_le, UInt64.toNat_sub_of_le _ _ first]
        simp
        omega
      rw [UInt64.toNat_sub_of_le _ _ second, UInt64.toNat_sub_of_le _ _ first, count]
      simp
      omega
    have same' : ∀ i < n - 34, shift p 34 i = shift p' 34 i :=
      fun i inside => same (34 + i) (by omega)
    have behind := ifSctp_congr same' rest (fun long => covered (by omega)) fuel malloc c
    rw [verdict_ifIpv4Sctp taken, verdict_ifIpv4Sctp (filters.mp taken), behind]
  · rw [verdict_of_not_ifIpv4 taken, verdict_of_not_ifIpv4 (mt filters.mpr taken)]

/-- What is not taken leaves the connection as it is. -/
theorem ifSctp_refuses {fuel : Nat} {malloc : UInt64} {size : UInt64} {c after : Connection}
    (refused : verdict (ifSctp fuel malloc p size c) = .ok (false, after)) : after = c := by
  unfold ifSctp at refused
  dsimp only at refused
  simp only [apply_ite verdict] at refused
  split at refused
  · cases refused
    rfl
  · split at refused
    · cases refused
      rfl
    · split at refused
      · cases refused
        rfl
      · split at refused
        · split at refused
          · cases refused
          · cases refused
            rfl
        · split at refused
          · split at refused
            · cases refused
              rfl
            · cases refused
          · split at refused
            · split at refused
              · split at refused
                · cases refused
                  rfl
                · split at refused
                  · -- a packet that adds an error is taken
                    cases added : addError fuel malloc c with
                    | error stuck =>
                      rw [added] at refused
                      cases refused
                    | ok last =>
                      rw [added] at refused
                      cases refused
                  · cases refused
              · cases refused
                rfl
            · exact (Prod.mk.inj (Except.ok.inj refused)).2.symm

theorem ifIpv4Sctp_refuses {fuel : Nat} {malloc : UInt64} {size : UInt64} {c after : Connection}
    (refused : verdict (ifIpv4Sctp fuel malloc p size c) = .ok (false, after)) : after = c := by
  by_cases taken : IfIpv4 p size c
  · rw [verdict_ifIpv4Sctp taken] at refused
    exact ifSctp_refuses refused
  · rw [verdict_of_not_ifIpv4 taken] at refused
    exact (Prod.mk.inj (Except.ok.inj refused)).2.symm

end Congruence

section Buffer

variable {fuel : Nat} {malloc : UInt64} {c : Connection} {data : List UInt8}

/-- A frame that is whole is judged in any buffer as on its own. -/
theorem Whole.verdict_eq (whole : Whole data) (long : 46 < data.length) (fuel : Nat)
    (malloc : UInt64) (c : Connection) (buffer : Bytes) :
    verdict (ifIpv4Sctp fuel malloc (put buffer 0 data) (UInt64.ofNat data.length) c) =
      alone fuel malloc c data := by
  obtain ⟨bound, covered⟩ := whole
  rw [alone, if_pos long]
  have same : ∀ i < data.length, put (fun _ => 0) 0 data i = put buffer 0 data i := by
    intro i inside
    have first := put_inside (fun _ => 0) 0 i data inside
    have second := put_inside buffer 0 i data inside
    rw [Nat.zero_add] at first second
    rw [first, second]
  have count : (UInt64.ofNat data.length).toNat = data.length :=
    UInt64.toNat_ofNat_of_lt' (lt_of_le_of_lt bound (by decide))
  exact (ifIpv4Sctp_congr same count covered fuel malloc c).symm

/-- A frame of 50 bytes passes the bounds on its size. -/
theorem room_of_long {size : UInt64} (long : 50 ≤ size.toNat) :
    14 + 20 ≤ size ∧ 16 ≤ size - 14 - 20 := by
  have first : (14 : UInt64) ≤ size := UInt64.le_iff_toNat_le.mpr (by simp; omega)
  have less : (size - 14).toNat = size.toNat - 14 := UInt64.toNat_sub_of_le _ _ first
  have second : (20 : UInt64) ≤ size - 14 := UInt64.le_iff_toNat_le.mpr (by simp; omega)
  constructor
  · exact UInt64.le_iff_toNat_le.mpr (by simp; omega)
  · rw [UInt64.le_iff_toNat_le, UInt64.toNat_sub_of_le _ _ second, less]
    simp
    omega

/-- Of the size only these bounds count. -/
theorem ifIpv4Sctp_size {packet : Bytes} {size size' : UInt64} (long : 50 ≤ size.toNat)
    (long' : 50 ≤ size'.toNat) :
    ifIpv4Sctp fuel malloc packet size c = ifIpv4Sctp fuel malloc packet size' c := by
  obtain ⟨fits, room⟩ := room_of_long long
  obtain ⟨fits', room'⟩ := room_of_long long'
  have reads : ifSctp fuel malloc (shift packet (14 + 20)) (size - 14 - 20) c =
      ifSctp fuel malloc (shift packet (14 + 20)) (size' - 14 - 20) c := by
    rw [ifSctp, ifSctp, if_neg (UInt64.not_lt.mpr room), if_neg (UInt64.not_lt.mpr room')]
  simp only [ifIpv4Sctp, IfIpv4, fits, fits', true_and, reads]

/-- Where every frame is whole, `recv_filtered` returns with the first that is taken on its own,
whatever was in the buffer, and whatever has come before it. -/
theorem recvFiltered_eq_firstTaken (fuel : Nat) (malloc : UInt64) (c : Connection)
    (frames : List (List UInt8)) (whole : ∀ data ∈ frames, Whole data) (buffer : Bytes) :
    recvFiltered (ifIpv4Sctp fuel malloc) buffer c frames = firstTaken fuel malloc c frames := by
  induction frames generalizing buffer with
  | nil => rfl
  | cons data frames ih =>
    have rest (buffer : Bytes) := ih (fun data member => whole data (List.mem_cons_of_mem _ member))
      buffer
    rw [recvFiltered, firstTaken]
    by_cases long : 46 < data.length
    · have judged := (whole data List.mem_cons_self).verdict_eq long fuel malloc c buffer
      rw [← judged]
      simp only [if_pos long]
      cases result : ifIpv4Sctp fuel malloc (put buffer 0 data) (UInt64.ofNat data.length) c with
      | error stuck => rfl
      | ok found =>
        obtain ⟨taken, packet, after⟩ := found
        cases taken with
        | true => rfl
        | false =>
          -- what is not taken has changed the buffer, but not the connection
          have kept : after = c := ifIpv4Sctp_refuses (by rw [result]; rfl)
          rw [kept]
          exact rest packet
    · rw [alone, if_neg long]
      simp only [if_neg long]
      exact rest _

/-- A frame that is cut behind its first 50 bytes is judged as a whole, where the buffer has the
rest. -/
theorem recvFiltered_cut (whole : Whole data) {k : Nat} (front : 50 ≤ k) (inside : k ≤ data.length)
    {buffer : Bytes} (rest : slice buffer k (data.length - k) = data.drop k) :
    recvFiltered (ifIpv4Sctp fuel malloc) buffer c [data.take k] =
      firstTaken fuel malloc c [data] := by
  have length : (data.take k).length = k := List.length_take_of_le inside
  have memory : put buffer 0 (data.take k) = put buffer 0 data := by
    have behind : slice (put buffer 0 (data.take k)) k (data.drop k).length = data.drop k := by
      rw [slice_put_of_disjoint _ _ _ _ _ (by omega), List.length_drop, rest]
    have back := put_put_slice (put buffer 0 (data.take k)) k (data.drop k)
    rw [behind, put_put _ _ rfl] at back
    have parts := put_append buffer 0 (data.take k) (data.drop k)
    rw [List.take_append_drop, Nat.zero_add, length, back] at parts
    exact parts.symm
  have bound := whole.1
  have sizes : ifIpv4Sctp fuel malloc (put buffer 0 data) (UInt64.ofNat k) c =
      ifIpv4Sctp fuel malloc (put buffer 0 data) (UInt64.ofNat data.length) c := by
    apply ifIpv4Sctp_size
    · rw [UInt64.toNat_ofNat_of_lt' (lt_of_le_of_lt (inside.trans bound) (by decide))]
      exact front
    · rw [UInt64.toNat_ofNat_of_lt' (lt_of_le_of_lt bound (by decide))]
      exact front.trans inside
  have same : recvFiltered (ifIpv4Sctp fuel malloc) buffer c [data.take k] =
      recvFiltered (ifIpv4Sctp fuel malloc) buffer c [data] := by
    have long : 46 < data.length := by omega
    have long' : 46 < k := by omega
    simp only [recvFiltered, length, memory, sizes, if_pos long, if_pos long']
  rw [same]
  exact recvFiltered_eq_firstTaken fuel malloc c [data] (by simpa using whole) buffer

end Buffer

/-- What `recv_filtered` hands back does not depend on what else was received into the buffer, as
long as every frame is whole. But a frame that is cut is taken as the whole one where an earlier one
has left the rest of it behind: what was received is not compared with what the chunk claims. -/
theorem recvFiltered_isolates (fuel : Nat) (malloc : UInt64) (c : Connection)
    (frames : List (List UInt8)) (whole : ∀ data ∈ frames, Whole data) :
    (∀ buffer, recvFiltered (ifIpv4Sctp fuel malloc) buffer c frames =
      firstTaken fuel malloc c frames) ∧
    (∀ data ∈ frames, ∀ k, 50 ≤ k → k ≤ data.length → ∀ buffer,
      slice buffer k (data.length - k) = data.drop k →
      recvFiltered (ifIpv4Sctp fuel malloc) buffer c [data.take k] =
        firstTaken fuel malloc c [data]) := by
  constructor
  · exact recvFiltered_eq_firstTaken fuel malloc c frames whole
  · intro data member k front inside buffer rest
    exact recvFiltered_cut (whole data member) front inside rest

/-- The stale COOKIE ECHO in a frame. -/
def echoFrame : List UInt8 := List.replicate 34 0 ++ slice wrongEcho 0 20

theorem echoFrame_whole : Whole echoFrame := by
  refine ⟨by decide, fun _ => ⟨?_, ?_, ?_⟩⟩
  · decide +kernel
  · intro other
    exact absurd other (by decide)
  · intro echo
    decide

/-- It is taken without its last bytes, where the buffer still has them. -/
theorem recvFiltered_isolates_cut :
    (firstTaken 0 4096 awaiting [echoFrame]).toOption.join.isSome ∧
    recvFiltered (ifIpv4Sctp 0 4096) (put (fun _ => 1) 0 echoFrame) awaiting
      [echoFrame.take 50] = firstTaken 0 4096 awaiting [echoFrame] := by
  have whole : ∀ data ∈ [echoFrame], Whole data := by simpa using echoFrame_whole
  have sure := recvFiltered_isolates 0 4096 awaiting [echoFrame] whole
  have rest : slice (put (fun _ => 1) 0 echoFrame) 50 (echoFrame.length - 50) =
      echoFrame.drop 50 := by
    decide +kernel
  constructor
  · decide +kernel
  · exact sure.2 echoFrame List.mem_cons_self 50 le_rfl (by decide) _ rest

end Kpnet.Sctp
