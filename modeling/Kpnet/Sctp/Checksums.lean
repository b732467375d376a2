import Kpnet.Lib.InternetChecksum
import Kpnet.Sctp.Checks
import Kpnet.Sctp.Data

/-!
# The two IP checksums

`ip_checksum.c` brings its carries back after every word, `tcp_checksum.c` at the end. Both are
the sum of the words in ones' complement, so what the one stores the other accepts.
-/
namespace Kpnet.Sctp

open Bytes OnesComplement
open InternetChecksum (hostWords)

/-- The sum of the first words behind a pointer. -/
def wordSum (data : Bytes) (n : Nat) : Nat :=
  ((List.range n).map fun i => (u16 data (2 * i)).toNat).sum

theorem wordSum_succ (data : Bytes) (n : Nat) :
    wordSum data (n + 1) = wordSum data n + (u16 data (2 * n)).toNat := by
  rw [wordSum, List.range_succ, List.map_append, List.sum_append, List.map_singleton,
    List.sum_singleton, ← wordSum]

/-- A word that is stored takes the place of the one that was there. -/
theorem wordSum_put (data : Bytes) (i n : Nat) (v : UInt16) (inside : i < n) :
    wordSum (put data (2 * i) (le16 v)) n + (u16 data (2 * i)).toNat = wordSum data n + v.toNat := by
  have others (m : Nat) (before : m ≤ i) :
      wordSum (put data (2 * i) (le16 v)) m = wordSum data m := by
    refine congrArg List.sum (List.map_congr_left fun j member => ?_)
    have low := List.mem_range.mp member
    rw [u16_put_of_disjoint _ _ _ _ (by omega)]
  induction n with
  | zero => omega
  | succ n ih =>
    rw [wordSum_succ, wordSum_succ]
    by_cases last : i = n
    · rw [← last, others i (Nat.le_refl i), u16_put_self]
      omega
    · have rest := ih (by omega)
      rw [u16_put_of_disjoint _ _ _ _ (by rw [length_le16]; omega)]
      omega

/-- The words of the IP header, summed up but for the checksum. -/
def ipSum (packet : Bytes) : Nat := wordSum (shift (put packet 24 (le16 0)) 14) 10

theorem wordSum_eq_ipSum (packet : Bytes) :
    wordSum (shift packet 14) 10 = (u16 packet 24).toNat + ipSum packet := by
  have cleared := wordSum_put (shift packet 14) 5 10 0 (by omega)
  rw [← shift_put, u16_shift, UInt16.toNat_zero, Nat.add_zero (wordSum _ _)] at cleared
  rw [ipSum, Nat.add_comm]
  exact cleared.symm

/-- A word of the header that is stored takes the place of the one that was there. -/
theorem ipSum_put_word (packet : Bytes) {k : Nat} (v : UInt16) (inside : k < 10) (other : k ≠ 5) :
    ipSum (put packet (14 + 2 * k) (le16 v)) + (u16 packet (14 + 2 * k)).toNat =
      ipSum packet + v.toNat := by
  have sum := wordSum_put (shift packet 14) k 10 v inside
  rw [← shift_put, u16_shift, wordSum_eq_ipSum, wordSum_eq_ipSum,
    u16_put_of_disjoint _ _ _ _ (by rw [length_le16]; omega)] at sum
  omega

theorem ipSum_put_check (packet : Bytes) (v : UInt16) :
    ipSum (put packet 24 (le16 v)) = ipSum packet := by
  rw [ipSum, put_put _ _ (by simp), ← ipSum]

/-- The sum is not 0 if the header does not start with 0. -/
theorem ipSum_pos {packet : Bytes} (start : packet 14 ≠ 0) : 0 < ipSum packet := by
  have first : 0 < (u16 packet 14).toNat := by
    rw [toNat_u16]
    apply Nat.lt_of_lt_of_le _ (Nat.le_add_right _ _)
    exact Nat.pos_of_ne_zero fun zero => start (UInt8.toNat_inj.mp zero)
  have cleared := ipSum_put_word packet (k := 0) 0 (by omega) (by omega)
  simp only [Nat.mul_zero, Nat.add_zero, UInt16.toNat_zero] at cleared
  omega

/-- The carry of a sum of two words is brought back at once. -/
theorem toNat_foldCheck {chk : UInt32} (small : chk.toNat < 2 * 65536 - 1) :
    (foldCheck chk).toNat = fold 65536 chk.toNat := by
  unfold foldCheck
  split
  next carries =>
    have high := UInt32.lt_iff_toNat_lt.mp carries
    rw [show (0xFFFF : UInt32).toNat = 65535 from rfl] at high
    rw [toNat_carry, ← fold_carry (by omega), fold_of_lt (by omega)]
  next fits =>
    have low := Nat.le_of_not_lt fun high => fits (UInt32.lt_iff_toNat_lt.mpr high)
    rw [show (0xFFFF : UInt32).toNat = 65535 from rfl] at low
    rw [fold_of_lt (by omega)]

/-- Any carries are brought back at the end. -/
theorem toNat_foldCarries (sum : UInt32) : (foldCarries sum).toNat = fold 65536 sum.toNat := by
  induction sum using foldCarries.induct with
  | case1 sum none =>
    have small : sum.toNat / 65536 = 0 := by
      rw [← toNat_shiftRight_sixteen, none]
      rfl
    rw [foldCarries, if_pos none, fold_of_lt (by omega)]
  | case2 sum carries ih =>
    rw [foldCarries, if_neg carries, ih, toNat_carry, fold_carry (by omega)]

/-- Folded word by word, a sum stays below the carry. -/
theorem toNat_foldl_foldCheck (word : Nat → UInt16) (indices : List Nat) (sum : UInt32)
    (small : sum.toNat < 65536) :
    (indices.foldl (fun sum i => foldCheck (sum + (word i).toUInt32)) sum).toNat =
      fold 65536 (sum.toNat + (indices.map fun i => (word i).toNat).sum) := by
  -- on the words, with the sum so far folded and therefore small
  induction indices generalizing sum with
  | nil => rw [List.foldl_nil, List.map_nil, List.sum_nil, Nat.add_zero, fold_of_lt small]
  | cons i indices ih =>
    have bound := (word i).toNat_lt
    have next : (sum + (word i).toUInt32).toNat = sum.toNat + (word i).toNat := by
      rw [UInt32.toNat_add, UInt16.toNat_toUInt32, Nat.mod_eq_of_lt (by omega)]
    have folded : (foldCheck (sum + (word i).toUInt32)).toNat =
        fold 65536 (sum.toNat + (word i).toNat) := by
      rw [toNat_foldCheck (by omega), next]
    rw [List.foldl_cons, ih _ (by rw [folded]; exact fold_lt (by omega) _), folded,
      fold_add (by omega), List.map_cons, List.sum_cons, Nat.add_assoc]

/-- Not folded, it has room for many words. -/
theorem toNat_foldl_add (word : Nat → UInt16) (indices : List Nat) (sum : UInt32)
    (small : sum.toNat + 65536 * indices.length < 2 ^ 32) :
    (indices.foldl (fun sum i => sum + (word i).toUInt32) sum).toNat =
      sum.toNat + (indices.map fun i => (word i).toNat).sum := by
  induction indices generalizing sum with
  | nil => rfl
  | cons i indices ih =>
    have bound := (word i).toNat_lt
    rw [List.length_cons] at small
    have next : (sum + (word i).toUInt32).toNat = sum.toNat + (word i).toNat := by
      rw [UInt32.toNat_add, UInt16.toNat_toUInt32, Nat.mod_eq_of_lt (by omega)]
    rw [List.foldl_cons, ih _ (by omega), next, List.map_cons, List.sum_cons, Nat.add_assoc]

/-- The accumulator of `ip_checksum` after so many rounds. -/
def ipPartial (data : Bytes) (rounds : Nat) : UInt32 :=
  (List.range rounds).foldl (fun sum i => foldCheck (sum + (u16 data (2 * i)).toUInt32)) 0

/-- That of the first loop of `tcp_checksum`. -/
def tcpPartial (data : Bytes) (rounds : Nat) : UInt32 :=
  (List.range rounds).foldl (fun sum i => sum + (u16 data (2 * i)).toUInt32) 0

theorem toNat_ipPartial (data : Bytes) (rounds : Nat) :
    (ipPartial data rounds).toNat = fold 65536 (wordSum data rounds) := by
  have sum := toNat_foldl_foldCheck (fun i => u16 data (2 * i)) (List.range rounds) 0 (by decide)
  rw [UInt32.toNat_zero, Nat.zero_add] at sum
  exact sum

theorem toNat_tcpPartial (data : Bytes) {rounds : Nat} (few : rounds < 65536) :
    (tcpPartial data rounds).toNat = wordSum data rounds := by
  have sum := toNat_foldl_add (fun i => u16 data (2 * i)) (List.range rounds) 0 (by
    rw [List.length_range, UInt32.toNat_zero]
    omega)
  rw [UInt32.toNat_zero, Nat.zero_add] at sum
  exact sum

theorem wordSum_le (data : Bytes) (n : Nat) : wordSum data n ≤ 65535 * n := by
  induction n with
  | zero => exact Nat.le_refl 0
  | succ n ih =>
    have bound := (u16 data (2 * n)).toNat_lt
    rw [wordSum_succ]
    omega

/-- The words of memory are those of a string of bytes, low byte first. -/
theorem sum_hostWords_slice (data : Bytes) (n : Nat) :
    (hostWords (slice data 0 (2 * n))).sum = wordSum data n := by
  induction n with
  | zero => rfl
  | succ n ih =>
    have last : (hostWords (slice data (2 * n) 2)).sum = (u16 data (2 * n)).toNat := by
      rw [toNat_u16]
      simp [slice, List.range_succ, hostWords, word]
    rw [Nat.mul_succ, slice_add, InternetChecksum.hostWords_append (by simp), List.sum_append, ih,
      Nat.zero_add, last, wordSum_succ]

theorem toNat_ipChecksum (data : Bytes) :
    (ipChecksum data 20).toNat = fold 65536 (wordSum data 10) := toNat_ipPartial data 10

theorem toNat_complement (sum : UInt32) (word : sum.toNat < 65536) :
    (~~~sum.toUInt16).toNat = 65535 - sum.toNat := by
  rw [UInt16.toNat_not, UInt16.size, UInt32.toNat_toUInt16, Nat.mod_eq_of_lt word]

/-- `tcp_checksum` is what the sum of the words lacks of the highest one, for any length. -/
theorem toNat_tcpChecksum (data : Bytes) {nbytes : Nat} (short : nbytes < 65536) :
    (tcpChecksum data nbytes).toNat =
      65535 - fold 65536 (hostWords (slice data 0 nbytes)).sum := by
  have few : nbytes / 2 < 65536 := by omega
  have words := toNat_tcpPartial data few
  have le := wordSum_le data (nbytes / 2)
  have last := (data (nbytes - 1)).toNat_lt
  have total : (if nbytes % 2 = 1 then tcpPartial data (nbytes / 2) + (data (nbytes - 1)).toUInt32
      else tcpPartial data (nbytes / 2)).toNat = (hostWords (slice data 0 nbytes)).sum := by
    split
    next odd =>
      have length : nbytes = 2 * (nbytes / 2) + 1 := by omega
      have single : slice data (2 * (nbytes / 2)) 1 = [data (nbytes - 1)] := by
        rw [show nbytes - 1 = 2 * (nbytes / 2) by omega]
        simp [slice]
      rw [UInt32.toNat_add, UInt8.toNat_toUInt32, words, Nat.mod_eq_of_lt (by omega)]
      conv => rhs; rw [length]
      rw [slice_add, InternetChecksum.hostWords_append (by simp), List.sum_append,
        sum_hostWords_slice, Nat.zero_add, single]
      rfl
    next even =>
      have length : nbytes = 2 * (nbytes / 2) := by omega
      rw [words, ← sum_hostWords_slice, ← length]
  have word := fold_lt (show 2 ≤ 65536 by omega) (hostWords (slice data 0 nbytes)).sum
  rw [← total, ← toNat_foldCarries] at word ⊢
  exact toNat_complement _ word

/-- The two routines agree. -/
theorem complement_ipPartial (data : Bytes) {rounds : Nat} (short : 2 * rounds < 65536) :
    ~~~(ipPartial data rounds).toUInt16 = tcpChecksum data (2 * rounds) := by
  have word := fold_lt (show 2 ≤ 65536 by omega) (wordSum data rounds)
  rw [← toNat_ipPartial] at word
  apply UInt16.toNat_inj.mp
  rw [toNat_complement _ word, toNat_ipPartial, toNat_tcpChecksum data short, sum_hostWords_slice]

/-- The checksum that `tcp_checksum` makes of an IP header is that of `ip_checksum`. -/
theorem tcpChecksum_eq (data : Bytes) :
    tcpChecksum data 20 = ~~~(ipChecksum data 20).toUInt16 := by
  have agree := complement_ipPartial data (show 2 * 10 < 65536 by omega)
  exact agree.symm

/-- The additions of both routines, on so many words: none leaves its 32 bits. -/
structure NoOverflow (data : Bytes) (rounds : Nat) : Prop where
  early : ∀ k < rounds, (ipPartial data k).toNat + (u16 data (2 * k)).toNat < 2 ^ 32
  late : ∀ k < rounds, (tcpPartial data k).toNat + (u16 data (2 * k)).toNat < 2 ^ 32
  carry : ∀ sum : UInt32, (sum &&& (0xFFFF : UInt32)).toNat + (sum >>> 16).toNat < 2 ^ 32

theorem noOverflow (data : Bytes) {rounds : Nat} (few : rounds < 65536) :
    NoOverflow data rounds := by
  constructor
  case early =>
    intro k inside
    have sum := fold_lt (show 2 ≤ 65536 by omega) (wordSum data k)
    have next := (u16 data (2 * k)).toNat_lt
    rw [toNat_ipPartial]
    omega
  case late =>
    intro k inside
    have sum := wordSum_le data k
    have next := (u16 data (2 * k)).toNat_lt
    rw [toNat_tcpPartial data (by omega)]
    omega
  case carry =>
    intro sum
    have high := toNat_shiftRight_sixteen sum
    have bound := sum.toNat_lt
    have low : (sum &&& (0xFFFF : UInt32)).toNat ≤ 65535 := by
      rw [UInt32.toNat_and]
      exact Nat.and_le_right
    omega

/-- What `tcp_checksum` returns lies in memory as the Internet checksum is sent. -/
theorem ntohs_tcpChecksum (data : Bytes) {nbytes : Nat} (short : nbytes < 65536) :
    (ntohs (tcpChecksum data nbytes)).toNat =
      InternetChecksum.checksum (slice data 0 nbytes) := by
  have value := toNat_tcpChecksum data short
  have word := fold_lt (show 2 ≤ 65536 by omega) (hostWords (slice data 0 nbytes)).sum
  -- the complement and the exchange of the bytes do not disturb each other
  rw [ntohs, toNat_htons, value, InternetChecksum.checksum, InternetChecksum.onesSum_eq_swap,
    InternetChecksum.swap]
  omega

/-- Early and late folding make the same checksum of any even number of bytes, the Internet
checksum, and no addition on the way overflows. -/
theorem checksums_agree (data : Bytes) (len : UInt16) (even : len.toNat % 2 = 0) :
    ~~~(ipChecksum data len).toUInt16 = tcpChecksum data len.toNat ∧
    (ntohs (~~~(ipChecksum data len).toUInt16)).toNat =
      InternetChecksum.checksum (slice data 0 len.toNat) ∧
    (ntohs (tcpChecksum data len.toNat)).toNat =
      InternetChecksum.checksum (slice data 0 len.toNat) ∧
    NoOverflow data (len.toNat / 2) := by
  have bound := len.toNat_lt
  have rounds : 2 * (len >>> 1).toNat = len.toNat := by
    rw [UInt16.toNat_shiftRight, Nat.shiftRight_eq_div_pow, show (1 : UInt16).toNat % 16 = 1 from rfl]
    omega
  have agree : ~~~(ipChecksum data len).toUInt16 = tcpChecksum data len.toNat := by
    have partials := complement_ipPartial data (show 2 * (len >>> 1).toNat < 65536 by omega)
    rwa [rounds] at partials
  have sent := ntohs_tcpChecksum data bound
  refine ⟨agree, ?_, sent, noOverflow data (by omega)⟩
  rw [agree, sent]

/-- Four words of which the second makes a carry. -/
theorem checksums_agree_eight :
    ~~~(ipChecksum (put (fun _ => 0) 0 [69, 0, 255, 255, 192, 168, 1, 2]) 8).toUInt16 =
      tcpChecksum (put (fun _ => 0) 0 [69, 0, 255, 255, 192, 168, 1, 2]) 8 :=
  (checksums_agree (put (fun _ => 0) 0 [69, 0, 255, 255, 192, 168, 1, 2]) 8 (by decide)).1

/-- The checksum of an IP header depends on its 20 bytes only. -/
theorem ipChecksum_congr {data data' : Bytes} (same : ∀ i < 20, data i = data' i) :
    ipChecksum data 20 = ipChecksum data' 20 := by
  have words : wordSum data 10 = wordSum data' 10 := by
    refine congrArg List.sum (List.map_congr_left fun i member => ?_)
    have low := List.mem_range.mp member
    rw [u16_congr fun k small => same (2 * i + k) (by omega)]
  apply UInt32.toNat_inj.mp
  rw [toNat_ipChecksum, toNat_ipChecksum, words]

theorem ipIntact_congr {frame frame' : Bytes}
    (same : ∀ i, 14 ≤ i → i < 34 → frame i = frame' i) : IpIntact frame ↔ IpIntact frame' := by
  have check : u16 frame 24 = u16 frame' 24 :=
    u16_congr fun i low => same (24 + i) (by omega) (by omega)
  have cleared : ∀ i < 20, shift (put frame 24 (le16 0)) 14 i = shift (put frame' 24 (le16 0)) 14 i := by
    intro i low
    simp only [shift, put]
    rw [same (14 + i) (by omega) (by omega)]
  rw [IpIntact, IpIntact, check, ipChecksum_congr cleared]

/-- A header is intact if its checksum fills the folded sum of the other words up to the highest
word. -/
theorem ipIntact_iff_fold (packet : Bytes) :
    IpIntact packet ↔ (u16 packet 24).toNat + fold 65536 (ipSum packet) = 65535 := by
  have below := fold_lt (show 2 ≤ 65536 by omega) (ipSum packet)
  have complement (check sum : UInt16) : check = ~~~sum ↔ check.toNat + sum.toNat = 65535 := by
    have small := sum.toNat_lt
    rw [← UInt16.toNat_inj, UInt16.toNat_not, UInt16.size]
    omega
  rw [IpIntact, complement, UInt32.toNat_toUInt16, toNat_ipChecksum, ← ipSum, Nat.mod_eq_of_lt below]

/-- So its words sum up to 0, but for the sign, and the checksum is not the highest word, which makes
the same sum as 0. -/
theorem ipIntact_iff {packet : Bytes} (positive : 0 < ipSum packet) :
    IpIntact packet ↔
      wordSum (shift packet 14) 10 % 65535 = 0 ∧ (u16 packet 24).toNat < 65535 := by
  rw [ipIntact_iff_fold, wordSum_eq_ipSum]
  exact add_fold_eq_top_iff (by omega) _ positive

/-- A header without checksum passes if its words happen to sum up to 0, but for the sign. -/
theorem ipIntact_blank_iff {frame : Bytes} (blank : u16 frame 24 = 0) :
    IpIntact frame ↔
      0 < wordSum (shift frame 14) 10 ∧ wordSum (shift frame 14) 10 % 65535 = 0 := by
  have sum : wordSum (shift frame 14) 10 = ipSum frame := by
    rw [wordSum_eq_ipSum, blank, UInt16.toNat_zero, Nat.zero_add]
  rw [ipIntact_iff_fold, blank, UInt16.toNat_zero, Nat.zero_add, sum]
  exact fold_eq_top (by omega) _

/-- A header that is given its checksum is intact. -/
theorem ipIntact_stamped (frame : Bytes) :
    IpIntact (put (put frame 24 (le16 0)) 24
      (le16 (~~~(ipChecksum (shift (put frame 24 (le16 0)) 14) 20).toUInt16))) := by
  -- clearing the field again leads back to the header that was summed up
  rw [IpIntact, u16_put_self, put_put _ _ (by simp), put_put _ _ (by simp)]

/-- A header is intact if its checksum is that of the same header without it. -/
theorem ipIntact_of_slice {frame : Bytes} {before after : List UInt8} {check : UInt16}
    (length : before.length = 10) (length' : after.length = 8)
    (found : slice frame 14 20 = before ++ (le16 check ++ after))
    (sum : check = ~~~(ipChecksum (put (fun _ => 0) 0 (before ++ (le16 0 ++ after))) 20).toUInt16) :
    IpIntact frame := by
  have total (v : UInt16) : (before ++ (le16 v ++ after)).length = 20 := by simp [length, length']
  have stored : u16 frame 24 = check :=
    u16_of_slice found 10 check (by omega) (by rw [List.drop_left' length, List.take_left' (by simp)])
  -- the receiver clears the checksum and finds the header that it was taken of
  have known : slice frame 14 (before ++ (le16 check ++ after)).length =
      before ++ (le16 check ++ after) := by rw [total, found]
  have cleared : slice (put frame (14 + before.length) (le16 0)) 14
      (before ++ (le16 0 ++ after)).length = before ++ (le16 0 ++ after) := slice_put_middle known rfl
  have whole := slice_put_self (fun _ => 0) 0 (before ++ (le16 0 ++ after))
  rw [total] at cleared whole
  rw [length] at cleared
  have same : ipChecksum (shift (put frame 24 (le16 0)) 14) 20 =
      ipChecksum (put (fun _ => 0) 0 (before ++ (le16 0 ++ after))) 20 := by
    refine ipChecksum_congr fun i low => ?_
    have byte := eq_of_slice_eq (cleared.trans whole.symm) i low
    rwa [Nat.zero_add] at byte
  rw [IpIntact, stored, sum, same]

end Kpnet.Sctp
