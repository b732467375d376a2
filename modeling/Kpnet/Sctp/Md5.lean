import Kpnet.Lib.BlockHash
import Kpnet.Sctp.Digests

/-!
# MD5 in pieces

`MD5Update` fills a buffer of one block and takes whole blocks from the input itself. The
digest is that of the padded message, block by block, in whatever pieces the message came,
and `hmac_md5` is the keyed hash made of it.
-/
namespace Kpnet.Sctp

open Bytes BlockHash

/-- The compression function on the bytes of one block. -/
def md5Compress (state : Md5State) (block : List UInt8) : Md5State :=
  md5Transform state (put (fun _ => 0) 0 block)

/-- What makes a message of this length one of whole blocks. -/
def md5Padding (length : Nat) : List UInt8 :=
  0x80 :: List.replicate ((119 - length % 64) % 64) 0 ++ bytesOf 8 (8 * length)

/-- The digest of a message, by its blocks. -/
def md5 (message : List UInt8) : List UInt8 :=
  let state := (blocks 64 (message ++ md5Padding message.length)).foldl md5Compress md5Init.state
  le32 state.a ++ le32 state.b ++ le32 state.c ++ le32 state.d

/-- The hash keyed with two pads of its block width. -/
def hmac (hash : List UInt8 → List UInt8) (width : Nat) (text key : List UInt8) : List UInt8 :=
  let key := if width < key.length then hash key else key
  let padded := key ++ List.replicate (width - key.length) 0
  hash (padded.map (· ^^^ 0x5c) ++ hash (padded.map (· ^^^ 0x36) ++ text))

/-- No round reads behind the sixteen words of the block. -/
theorem word_lt_of_mem_round :
    ∀ round ∈ [round1, round2, round3, round4], ∀ entry ∈ round, entry.1 < 16 := by
  simp only [round1, round2, round3, round4, List.forall_mem_cons, List.not_mem_nil,
    IsEmpty.forall_iff, implies_true, and_true]
  omega

theorem foldl_md5Mix_congr (mix : UInt32 → UInt32 → UInt32 → UInt32) {x y : Nat → UInt32}
    (same : ∀ k < 16, x k = y k) {round : List (Nat × UInt32 × UInt32)}
    (words : ∀ entry ∈ round, entry.1 < 16) (s : Md5State) :
    round.foldl (md5Mix mix x) s = round.foldl (md5Mix mix y) s := by
  apply List.foldl_ext
  intro s entry member
  rw [md5Mix, md5Mix, same entry.1 (words entry member)]

/-- The transformation sees the 64 bytes of its block and nothing behind them. -/
theorem md5Transform_of_slice (state : Md5State) {b : Bytes} {block : List UInt8}
    (found : slice b 0 64 = block) : md5Transform state b = md5Compress state block := by
  have length : block.length = 64 := by rw [← found, length_slice]
  have placed : slice (put (fun _ => 0) 0 block) 0 64 = slice b 0 64 := by
    rw [found, ← length, slice_put_self]
  have same : ∀ k < 16, u32 b (4 * k) = u32 (put (fun _ => 0) 0 block) (4 * k) := by
    intro k low
    apply u32_congr
    intro i inside
    have equal := eq_of_slice_eq placed (4 * k + i) (by omega)
    rw [Nat.zero_add] at equal
    exact equal.symm
  have words := word_lt_of_mem_round
  simp only [List.forall_mem_cons] at words
  rw [md5Compress, md5Transform, md5Transform]
  simp only [foldl_md5Mix_congr _ same words.1, foldl_md5Mix_congr _ same words.2.1,
    foldl_md5Mix_congr _ same words.2.2.1, foldl_md5Mix_congr _ same words.2.2.2.1]

/-- What the blocks of a message leave. -/
def after (message : List UInt8) : Running Md5State UInt8 64 :=
  (Running.start md5Init.state (by decide)).absorb md5Compress message

theorem after_append (message input : List UInt8) :
    after (message ++ input) = (after message).absorb md5Compress input :=
  Running.absorb_append md5Compress _ message input

theorem length_pending_after (message : List UInt8) :
    (after message).pending.length = message.length % 64 := by
  rw [after, Running.length_pending, Running.start, List.length_nil, Nat.zero_add]

theorem pending_after (message : List UInt8) :
    (after message).pending = message.drop (64 * (message.length / 64)) :=
  Running.pending_absorb_start md5Compress _ (by decide) message

/-- A context in which the message has been hashed so far. -/
structure Hashed (context : Md5Ctx) (message : List UInt8) : Prop where
  state : context.state = (after message).state
  buffer : slice context.buffer 0 (message.length % 64) = (after message).pending
  count : context.count0.toNat + 2 ^ 32 * context.count1.toNat = 8 * message.length % 2 ^ 64

theorem hashed_md5Init : Hashed md5Init [] where
  state := rfl
  buffer := rfl
  count := rfl

namespace Hashed

variable {context : Md5Ctx} {message : List UInt8}

/-- The bit count tells how much waits in the buffer. -/
theorem index (hashed : Hashed context message) :
    ((context.count0 >>> 3) &&& 0x3F).toNat = message.length % 64 := by
  have count := hashed.count
  have low := context.count0.toNat_lt
  have masked : context.count0.toNat / 8 % 64 = message.length % 64 := by omega
  have cut := Nat.and_two_pow_sub_one_eq_mod (context.count0.toNat / 8) 6
  rw [← masked, UInt32.toNat_and, UInt32.toNat_shiftRight, ← cut, Nat.shiftRight_eq_div_pow]
  rfl

/-- The bit count goes on modulo 2^64, with the carry of its low word. -/
theorem count_md5Update (hashed : Hashed context message) (input : List UInt8)
    (fits : input.length < 2 ^ 32) :
    (md5Update context input).count0.toNat + 2 ^ 32 * (md5Update context input).count1.toNat =
      8 * (message ++ input).length % 2 ^ 64 := by
  have count := hashed.count
  have low := context.count0.toNat_lt
  have high := context.count1.toNat_lt
  have words : (md5Update context input).count0 = context.count0 + UInt32.ofNat input.length <<< 3 ∧
      (md5Update context input).count1 =
        (if context.count0 + UInt32.ofNat input.length <<< 3 < UInt32.ofNat input.length <<< 3 then
          context.count1 + 1 else context.count1) + (UInt32.ofNat input.length >>> 29) := by
    rw [md5Update]
    split <;> exact ⟨rfl, rfl⟩
  have bits : (UInt32.ofNat input.length <<< 3).toNat = input.length * 8 % 2 ^ 32 := by
    rw [UInt32.toNat_shiftLeft, UInt32.toNat_ofNat_of_lt' fits, Nat.shiftLeft_eq]
    rfl
  have top : (UInt32.ofNat input.length >>> 29).toNat = input.length / 2 ^ 29 := by
    rw [UInt32.toNat_shiftRight, UInt32.toNat_ofNat_of_lt' fits, Nat.shiftRight_eq_div_pow]
    rfl
  rw [words.1, words.2, List.length_append]
  split
  next carry =>
    rw [UInt32.lt_iff_toNat_lt, UInt32.toNat_add, bits] at carry
    simp only [UInt32.toNat_add, bits, top, UInt32.toNat_one]
    omega
  next none =>
    rw [UInt32.lt_iff_toNat_lt, UInt32.toNat_add, bits] at none
    simp only [UInt32.toNat_add, bits, top]
    omega

end Hashed

/-- The blocks taken from the input itself are those of what completing the buffer left. -/
theorem foldl_md5Transform_shift (front rest : List UInt8) (state : Md5State) :
    (List.range (rest.length / 64)).foldl
        (fun state i =>
          md5Transform state (shift (put (fun _ => 0) 0 (front ++ rest)) (front.length + 64 * i)))
        state =
      (List.range (rest.length / 64)).foldl
        (fun state i => md5Compress state ((rest.drop (64 * i)).take 64)) state := by
  apply List.foldl_ext
  intro state i member
  have low : i < rest.length / 64 := List.mem_range.mp member
  have inside : 64 * i + 64 ≤ rest.length := by omega
  have found := slice_put (fun _ => 0) 0 (front.length + 64 * i) 64 (front ++ rest)
    (by rw [List.length_append]; omega)
  apply md5Transform_of_slice
  rw [slice_shift, Nat.add_zero, ← Nat.zero_add (front.length + 64 * i), found,
    ← List.drop_drop, List.drop_left]

/-- An input that completes the buffer. -/
theorem md5Update_append (context : Md5Ctx) (front rest : List UInt8) {index : Nat}
    (known : ((context.count0 >>> 3) &&& 0x3F).toNat = index) (full : index + front.length = 64) :
    (md5Update context (front ++ rest)).state =
        (List.range (rest.length / 64)).foldl
          (fun state i => md5Compress state ((rest.drop (64 * i)).take 64))
          (md5Compress context.state (slice context.buffer 0 index ++ front)) ∧
      (md5Update context (front ++ rest)).buffer =
        put (put context.buffer index front) 0 (rest.drop (64 * (rest.length / 64))) := by
  have part : 64 - index = front.length := by omega
  have enough : front.length ≤ (front ++ rest).length := by rw [List.length_append]; omega
  have left : (front ++ rest).length - front.length = rest.length := by
    rw [List.length_append, Nat.add_sub_cancel_left]
  have block : slice (put context.buffer index front) 0 64 =
      slice context.buffer 0 index ++ front := by
    have cut := slice_add (put context.buffer index front) 0 index front.length
    rw [full] at cut
    rw [cut, Nat.zero_add, slice_put_self, slice_put_of_disjoint _ _ _ _ _ (by omega)]
  have behind (k : Nat) : (front ++ rest).drop (front.length + k) = rest.drop k := by
    rw [← List.drop_drop, List.drop_left]
  rw [md5Update, known, part, if_pos enough, left, List.take_left]
  constructor
  · rw [← md5Transform_of_slice context.state block]
    exact foldl_md5Transform_shift front rest _
  · exact congrArg (put _ 0) (behind _)

/-- An input that leaves the buffer incomplete. -/
theorem md5Update_of_short (context : Md5Ctx) (input : List UInt8) {index : Nat}
    (known : ((context.count0 >>> 3) &&& 0x3F).toNat = index) (short : index + input.length < 64) :
    (md5Update context input).state = context.state ∧
      (md5Update context input).buffer = put context.buffer index input := by
  rw [md5Update, known, if_neg (by omega)]
  exact ⟨rfl, rfl⟩

/-- Every update keeps the context in step with the message. -/
theorem Hashed.step {context : Md5Ctx} {message : List UInt8} (hashed : Hashed context message)
    (input : List UInt8) (fits : input.length < 2 ^ 32) :
    Hashed (md5Update context input) (message ++ input) := by
  have low : message.length % 64 < 64 := Nat.mod_lt _ (by omega)
  have waits := length_pending_after message
  have count := hashed.count_md5Update input fits
  have length := length_pending_after (message ++ input)
  by_cases short : message.length % 64 + input.length < 64
  · obtain ⟨state, pending⟩ := Running.absorb_of_short md5Compress (after message) input (by omega)
    obtain ⟨stored, buffered⟩ := md5Update_of_short context input hashed.index short
    rw [← after_append] at state pending
    refine ⟨by rw [stored, state, hashed.state], ?_, count⟩
    rw [← length, pending, buffered, List.length_append, waits, slice_add, Nat.zero_add,
      slice_put_self, slice_put_of_disjoint _ _ _ _ _ (by omega), hashed.buffer]
  · -- the input is what completes the buffer and what comes behind it
    obtain ⟨front, rest, rfl, full⟩ : ∃ front rest, input = front ++ rest ∧
        message.length % 64 + front.length = 64 := by
      refine ⟨input.take (64 - message.length % 64), input.drop (64 - message.length % 64),
        (List.take_append_drop _ _).symm, ?_⟩
      rw [List.length_take]
      omega
    obtain ⟨state, pending⟩ :=
      Running.absorb_full_append md5Compress (after message) front rest (by rw [waits, full])
    obtain ⟨stored, buffered⟩ := md5Update_append context front rest hashed.index full
    rw [← after_append] at state pending
    refine ⟨by rw [stored, state, hashed.buffer, hashed.state], ?_, count⟩
    rw [← length, pending, buffered, slice_put_self]

theorem hashed_foldl_md5Update {context : Md5Ctx} {message : List UInt8}
    (hashed : Hashed context message) (pieces : List (List UInt8))
    (fits : ∀ piece ∈ pieces, piece.length < 2 ^ 32) :
    Hashed (pieces.foldl md5Update context) (message ++ pieces.flatten) := by
  induction pieces generalizing context message with
  | nil => rwa [List.flatten_nil, List.append_nil]
  | cons piece pieces ih =>
    rw [List.forall_mem_cons] at fits
    have rest := ih (hashed.step piece fits.1) fits.2
    rwa [List.append_assoc] at rest

theorem bytesOf_mod (n v : Nat) : bytesOf n (v % 256 ^ n) = bytesOf n v := by
  have decoded := bytesOf_word (bytesOf n v)
  rwa [length_bytesOf, word_bytesOf] at decoded

/-- The count is appended as the eight bytes of the length in bits. -/
theorem Hashed.bits {context : Md5Ctx} {message : List UInt8} (hashed : Hashed context message) :
    le32 context.count0 ++ le32 context.count1 = bytesOf 8 (8 * message.length) := by
  have count := hashed.count
  have low := context.count0.toNat_lt
  have high := context.count1.toNat_lt
  have first : context.count0.toNat = 8 * message.length % 256 ^ 4 := by omega
  have second : context.count1.toNat = 8 * message.length / 256 ^ 4 % 256 ^ 4 := by omega
  rw [le32, le32, first, second, bytesOf_mod, bytesOf_mod]
  exact (bytesOf_add 4 4 _).symm

/-- The padding makes the message one of whole blocks. -/
theorem dvd_length_md5Padding (message : List UInt8) :
    64 ∣ (message ++ md5Padding message.length).length := by
  rw [md5Padding, List.length_append, List.cons_append, List.length_cons, List.length_append,
    List.length_replicate, length_bytesOf]
  omega

/-- The last two updates append the padding. -/
theorem Hashed.md5Final {context : Md5Ctx} {message : List UInt8} (hashed : Hashed context message) :
    md5Final context = md5 message := by
  have index := hashed.index
  have low : message.length % 64 < 64 := Nat.mod_lt _ (by omega)
  have zeros : (if message.length % 64 < 56 then 56 - message.length % 64
      else 120 - message.length % 64) - 1 = (119 - message.length % 64) % 64 := by
    split <;> omega
  have padded := hashed_foldl_md5Update hashed
    [0x80 :: List.replicate ((119 - message.length % 64) % 64) 0,
      bytesOf 8 (8 * message.length)] (by
        simp only [List.forall_mem_cons, List.length_cons, List.length_replicate, length_bytesOf,
          List.not_mem_nil, IsEmpty.forall_iff, implies_true, and_true]
        omega)
  have state := padded.state
  rw [List.flatten_cons, List.flatten_cons, List.flatten_nil, List.append_nil] at state
  have whole := Running.state_absorb_start md5Compress md5Init.state (by decide : 0 < 64)
    (message ++ md5Padding message.length) (dvd_length_md5Padding message)
  rw [Sctp.md5Final, index, zeros, hashed.bits, md5, ← whole]
  exact congrArg (fun s : Md5State => le32 s.a ++ le32 s.b ++ le32 s.c ++ le32 s.d) state

/-- In whatever pieces a message comes, its digest is that of the padded blocks; the two words of the
count are its length in bits, and the buffer has what its whole blocks leave. No piece is so long that
the block loop of the update would count past 32 bits. -/
theorem md5Final_foldl_md5Update (pieces : List (List UInt8))
    (fits : ∀ piece ∈ pieces, piece.length + 63 < 2 ^ 32) :
    let context := pieces.foldl md5Update md5Init
    let message := pieces.flatten
    md5Final context = md5 message ∧
      context.count0.toNat + 2 ^ 32 * context.count1.toNat = 8 * message.length % 2 ^ 64 ∧
      slice context.buffer 0 (message.length % 64) =
        message.drop (64 * (message.length / 64)) := by
  have short : ∀ piece ∈ pieces, piece.length < 2 ^ 32 := fun piece member =>
    Nat.lt_of_le_of_lt (Nat.le_add_right _ _) (fits piece member)
  have hashed := hashed_foldl_md5Update hashed_md5Init pieces short
  rw [List.nil_append] at hashed
  exact ⟨hashed.md5Final, hashed.count, hashed.buffer.trans (pending_after _)⟩

theorem md5Final_foldl_md5Update_two :
    let context := [List.replicate 70 0x61, [0x62, 0x63]].foldl md5Update md5Init
    md5Final context = md5 (List.replicate 70 0x61 ++ [0x62, 0x63]) ∧
      context.count0.toNat + 2 ^ 32 * context.count1.toNat = 576 ∧
      slice context.buffer 0 8 = List.replicate 6 0x61 ++ [0x62, 0x63] := by
  have fits : ∀ piece ∈ [List.replicate 70 0x61, [0x62, 0x63]],
      (piece : List UInt8).length + 63 < 2 ^ 32 := by
    simp only [List.forall_mem_cons, List.length_replicate, List.length_cons, List.length_nil,
      List.not_mem_nil, IsEmpty.forall_iff, implies_true, and_true]
    omega
  exact md5Final_foldl_md5Update _ fits

example : md5 [0x61, 0x62, 0x63] =
    [0x90, 0x01, 0x50, 0x98, 0x3c, 0xd2, 0x4f, 0xb0,
     0xd6, 0x96, 0x3f, 0x7d, 0x28, 0xe1, 0x7f, 0x72] := by decide +kernel

theorem md5Final_md5Update (message : List UInt8) (fits : message.length < 2 ^ 32) :
    md5Final (md5Update md5Init message) = md5 message :=
  (hashed_md5Init.step message fits).md5Final

theorem length_md5 (message : List UInt8) : (md5 message).length = 16 := by
  simp [md5]

/-- The keyed hash of a message and a key whose lengths are `int`. -/
theorem hmacMd5_eq_hmac (text key : List UInt8) (textLen : text.length < 2 ^ 31)
    (keyLen : key.length < 2 ^ 31) : hmacMd5 text key = hmac md5 64 text key := by
  have reduced : (if 64 < key.length then md5Final (md5Update md5Init key) else key) =
      if 64 < key.length then md5 key else key := by
    rw [md5Final_md5Update key (by omega)]
  have keyed (padded message : List UInt8) (width : padded.length = 64)
      (fits : message.length < 2 ^ 31) :
      md5Final (md5Update (md5Update md5Init padded) message) = md5 (padded ++ message) :=
    ((hashed_md5Init.step padded (by omega)).step message (by omega)).md5Final
  have short : (if 64 < key.length then md5 key else key).length ≤ 64 := by
    split
    · rw [length_md5]
      omega
    · omega
  rw [hmacMd5, hmac, reduced]
  -- the key is at most one block, and each pad of it exactly one
  generalize (if 64 < key.length then md5 key else key) = block at short
  have width (pad : UInt8 → UInt8) :
      ((block ++ List.replicate (64 - block.length) 0).map pad).length = 64 := by
    rw [List.length_map, List.length_append, List.length_replicate]
    omega
  rw [keyed _ _ (width _) textLen, keyed _ _ (width _) (by rw [length_md5]; omega)]

theorem hmacMd5_eq_hmac_long_key :
    hmacMd5 [0x61] (List.replicate 65 0xAA) = hmac md5 64 [0x61] (List.replicate 65 0xAA) :=
  hmacMd5_eq_hmac _ _ (by rw [List.length_singleton]; omega) (by rw [List.length_replicate]; omega)

end Kpnet.Sctp
