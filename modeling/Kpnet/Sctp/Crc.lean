import Kpnet.Lib.ReflectedCrc
import Kpnet.Sctp.Association
import Kpnet.Sctp.Digests

/-!
# The two builds of the CRC

`generate_crc32c.c` holds two versions of `generate_crc32c`, of which a build gets one: with the
CRC instructions of SSE4.2, 8 bytes at a time, or portable, with a table. Both are the CRC-32C
of the bytes, and the first may be taken in pieces.
-/
namespace Kpnet.Sctp

open Bytes ReflectedCrc

/-- One bit of CRC-32C. -/
def crcBit (crc : UInt32) : UInt32 :=
  if crc &&& 1 = 1 then (crc >>> 1) ^^^ 0x82F63B78 else crc >>> 1

def crcByte (crc : UInt32) (byte : UInt8) : UInt32 := crcBit^[8] (crc ^^^ byte.toUInt32)

/-- CRC-32C as it is defined, bit by bit: what both versions are for. -/
def crc32c (message : List UInt8) : UInt32 := ~~~message.foldl crcByte 0xFFFFFFFF

/-- `crc_c`. -/
def crcC : List UInt32 :=
  [0x00000000, 0xF26B8303, 0xE13B70F7, 0x1350F3F4, 0xC79A971F, 0x35F1141C, 0x26A1E7E8,
   0xD4CA64EB, 0x8AD958CF, 0x78B2DBCC, 0x6BE22838, 0x9989AB3B, 0x4D43CFD0, 0xBF284CD3,
   0xAC78BF27, 0x5E133C24, 0x105EC76F, 0xE235446C, 0xF165B798, 0x030E349B, 0xD7C45070,
   0x25AFD373, 0x36FF2087, 0xC494A384, 0x9A879FA0, 0x68EC1CA3, 0x7BBCEF57, 0x89D76C54,
   0x5D1D08BF, 0xAF768BBC, 0xBC267848, 0x4E4DFB4B, 0x20BD8EDE, 0xD2D60DDD, 0xC186FE29,
   0x33ED7D2A, 0xE72719C1, 0x154C9AC2, 0x061C6936, 0xF477EA35, 0xAA64D611, 0x580F5512,
   0x4B5FA6E6, 0xB93425E5, 0x6DFE410E, 0x9F95C20D, 0x8CC531F9, 0x7EAEB2FA, 0x30E349B1,
   0xC288CAB2, 0xD1D83946, 0x23B3BA45, 0xF779DEAE, 0x05125DAD, 0x1642AE59, 0xE4292D5A,
   0xBA3A117E, 0x4851927D, 0x5B016189, 0xA96AE28A, 0x7DA08661, 0x8FCB0562, 0x9C9BF696,
   0x6EF07595, 0x417B1DBC, 0xB3109EBF, 0xA0406D4B, 0x522BEE48, 0x86E18AA3, 0x748A09A0,
   0x67DAFA54, 0x95B17957, 0xCBA24573, 0x39C9C670, 0x2A993584, 0xD8F2B687, 0x0C38D26C,
   0xFE53516F, 0xED03A29B, 0x1F682198, 0x5125DAD3, 0xA34E59D0, 0xB01EAA24, 0x42752927,
   0x96BF4DCC, 0x64D4CECF, 0x77843D3B, 0x85EFBE38, 0xDBFC821C, 0x2997011F, 0x3AC7F2EB,
   0xC8AC71E8, 0x1C661503, 0xEE0D9600, 0xFD5D65F4, 0x0F36E6F7, 0x61C69362, 0x93AD1061,
   0x80FDE395, 0x72966096, 0xA65C047D, 0x5437877E, 0x4767748A, 0xB50CF789, 0xEB1FCBAD,
   0x197448AE, 0x0A24BB5A, 0xF84F3859, 0x2C855CB2, 0xDEEEDFB1, 0xCDBE2C45, 0x3FD5AF46,
   0x7198540D, 0x83F3D70E, 0x90A324FA, 0x62C8A7F9, 0xB602C312, 0x44694011, 0x5739B3E5,
   0xA55230E6, 0xFB410CC2, 0x092A8FC1, 0x1A7A7C35, 0xE811FF36, 0x3CDB9BDD, 0xCEB018DE,
   0xDDE0EB2A, 0x2F8B6829, 0x82F63B78, 0x709DB87B, 0x63CD4B8F, 0x91A6C88C, 0x456CAC67,
   0xB7072F64, 0xA457DC90, 0x563C5F93, 0x082F63B7, 0xFA44E0B4, 0xE9141340, 0x1B7F9043,
   0xCFB5F4A8, 0x3DDE77AB, 0x2E8E845F, 0xDCE5075C, 0x92A8FC17, 0x60C37F14, 0x73938CE0,
   0x81F80FE3, 0x55326B08, 0xA759E80B, 0xB4091BFF, 0x466298FC, 0x1871A4D8, 0xEA1A27DB,
   0xF94AD42F, 0x0B21572C, 0xDFEB33C7, 0x2D80B0C4, 0x3ED04330, 0xCCBBC033, 0xA24BB5A6,
   0x502036A5, 0x4370C551, 0xB11B4652, 0x65D122B9, 0x97BAA1BA, 0x84EA524E, 0x7681D14D,
   0x2892ED69, 0xDAF96E6A, 0xC9A99D9E, 0x3BC21E9D, 0xEF087A76, 0x1D63F975, 0x0E330A81,
   0xFC588982, 0xB21572C9, 0x407EF1CA, 0x532E023E, 0xA145813D, 0x758FE5D6, 0x87E466D5,
   0x94B49521, 0x66DF1622, 0x38CC2A06, 0xCAA7A905, 0xD9F75AF1, 0x2B9CD9F2, 0xFF56BD19,
   0x0D3D3E1A, 0x1E6DCDEE, 0xEC064EED, 0xC38D26C4, 0x31E6A5C7, 0x22B65633, 0xD0DDD530,
   0x0417B1DB, 0xF67C32D8, 0xE52CC12C, 0x1747422F, 0x49547E0B, 0xBB3FFD08, 0xA86F0EFC,
   0x5A048DFF, 0x8ECEE914, 0x7CA56A17, 0x6FF599E3, 0x9D9E1AE0, 0xD3D3E1AB, 0x21B862A8,
   0x32E8915C, 0xC083125F, 0x144976B4, 0xE622F5B7, 0xF5720643, 0x07198540, 0x590AB964,
   0xAB613A67, 0xB831C993, 0x4A5A4A90, 0x9E902E7B, 0x6CFBAD78, 0x7FAB5E8C, 0x8DC0DD8F,
   0xE330A81A, 0x115B2B19, 0x020BD8ED, 0xF0605BEE, 0x24AA3F05, 0xD6C1BC06, 0xC5914FF2,
   0x37FACCF1, 0x69E9F0D5, 0x9B8273D6, 0x88D28022, 0x7AB90321, 0xAE7367CA, 0x5C18E4C9,
   0x4F48173D, 0xBD23943E, 0xF36E6F75, 0x0105EC76, 0x12551F82, 0xE03E9C81, 0x34F4F86A,
   0xC69F7B69, 0xD5CF889D, 0x27A40B9E, 0x79B737BA, 0x8BDCB4B9, 0x988C474D, 0x6AE7C44E,
   0xBE2DA0A5, 0x4C4623A6, 0x5F16D052, 0xAD7D5351]

/-- The macro `CRC32C`. -/
def crcLookup (c : UInt32) (d : UInt8) : UInt32 :=
  (c >>> 8) ^^^ crcC.getD ((c ^^^ d.toUInt32) &&& 0xFF).toNat 0

/-- `generate_crc32c` where there is no SSE4.2. The bytes of the result are swapped once by hand and
once by `htonl`. -/
def generateCrc32cPortable (buffer : Bytes) (length : UInt32) : UInt32 :=
  let crc32 := (List.range length.toNat).foldl (fun crc32 i => crcLookup crc32 (buffer i)) 0xFFFFFFFF
  let result := ~~~crc32
  -- the swap by hand, for a host of either byte order
  let byte0 := result &&& 0xFF
  let byte1 := (result >>> 8) &&& 0xFF
  let byte2 := (result >>> 16) &&& 0xFF
  let byte3 := (result >>> 24) &&& 0xFF
  htonl ((byte0 <<< 24) ||| (byte1 <<< 16) ||| (byte2 <<< 8) ||| byte3)

/-- The CRC of consecutive pieces, each taken from where the one before has ended. -/
def chainCrc32c : Bytes → List UInt32 → UInt64 → UInt64
  | _, [], crc => crc
  | data, length :: rest, crc =>
    chainCrc32c (shift data length.toNat) rest (generateCrc32cOnCrc32c data length crc)

/-- The reflected Castagnoli polynomial. -/
def castagnoli : Nat := 0x82F63B78

theorem castagnoli_lt : castagnoli < 2 ^ 32 := by decide

theorem toNat_crcShift (t : UInt64) : (crcShift t).toNat = step castagnoli t.toNat := by
  have low : t &&& 1 = 1 ↔ t.toNat % 2 = 1 := by
    rw [← UInt64.toNat_inj, UInt64.toNat_and]
    exact iff_of_eq (congrArg (· = 1) (Nat.and_one_is_mod t.toNat))
  have half : (t >>> 1).toNat = t.toNat / 2 := by
    rw [UInt64.toNat_shiftRight, Nat.shiftRight_eq_div_pow]
    rfl
  simp only [crcShift, step, low]
  split
  · rw [UInt64.toNat_xor, half]
    rfl
  · exact half

theorem toNat_crcBit (crc : UInt32) : (crcBit crc).toNat = step castagnoli crc.toNat := by
  have low : crc &&& 1 = 1 ↔ crc.toNat % 2 = 1 := by
    rw [← UInt32.toNat_inj, UInt32.toNat_and]
    exact iff_of_eq (congrArg (· = 1) (Nat.and_one_is_mod crc.toNat))
  have half : (crc >>> 1).toNat = crc.toNat / 2 := by
    rw [UInt32.toNat_shiftRight, Nat.shiftRight_eq_div_pow]
    rfl
  simp only [crcBit, step, low]
  split
  · rw [UInt32.toNat_xor, half]
    rfl
  · exact half

theorem toNat_crcShift_iterate (n : Nat) (t : UInt64) :
    (crcShift^[n] t).toNat = (step castagnoli)^[n] t.toNat := by
  induction n generalizing t with
  | zero => rfl
  | succ n ih => rw [Function.iterate_succ_apply, ih, toNat_crcShift, Function.iterate_succ_apply]

theorem toNat_crcByte (crc : UInt32) (byte : UInt8) :
    (crcByte crc byte).toNat = byteStep castagnoli crc.toNat byte := by
  have iterated (n : Nat) (crc : UInt32) :
      (crcBit^[n] crc).toNat = (step castagnoli)^[n] crc.toNat := by
    induction n generalizing crc with
    | zero => rfl
    | succ n ih => rw [Function.iterate_succ_apply, ih, toNat_crcBit, Function.iterate_succ_apply]
  rw [crcByte, iterated, UInt32.toNat_xor, UInt8.toNat_toUInt32, byteStep]

/-- The definition of CRC-32C in terms of remainders. -/
theorem toNat_foldl_crcByte (message : List UInt8) (crc : UInt32) :
    (message.foldl crcByte crc).toNat = update castagnoli crc.toNat message := by
  induction message generalizing crc with
  | nil => rfl
  | cons byte message ih =>
    rw [List.foldl_cons, ih, toNat_crcByte]
    rfl

/-- The instructions read the low half of the accumulator, which is all of it between calls. -/
theorem toNat_low_half {crc : UInt64} (low : crc.toNat < 2 ^ 32) :
    (crc &&& 0xFFFFFFFF).toNat = crc.toNat := by
  rw [UInt64.toNat_and]
  exact (Nat.and_two_pow_sub_one_eq_mod crc.toNat 32).trans (Nat.mod_eq_of_lt low)

theorem toNat_crc32qi {crc : UInt64} (low : crc.toNat < 2 ^ 32) (byte : UInt8) :
    (crc32qi crc byte).toNat = byteStep castagnoli crc.toNat byte := by
  rw [crc32qi, toNat_crcShift_iterate, UInt64.toNat_xor, toNat_low_half low, UInt8.toNat_toUInt64,
    byteStep]

theorem toNat_crc32di {crc : UInt64} (low : crc.toNat < 2 ^ 32) (data : Bytes) (o : Nat) :
    (crc32di crc (u64 data o)).toNat = update castagnoli crc.toNat (slice data o 8) := by
  have bound := word_lt (slice data o 8)
  rw [length_slice] at bound
  -- the chunk as it lies in memory is the word of its bytes, low byte first
  have chunk : (u64 data o).toNat = word (slice data o 8) := UInt64.toNat_ofNat_of_lt' bound
  have block := update_block castagnoli crc.toNat (slice data o 8)
  rw [length_slice] at block
  rw [crc32di, toNat_crcShift_iterate, UInt64.toNat_xor, toNat_low_half low, chunk, block]

/-- The first loop takes the remainder of whole chunks. -/
theorem toNat_foldl_crc32di {crc : UInt64} (low : crc.toNat < 2 ^ 32) (data : Bytes) (chunks : Nat) :
    ((List.range chunks).foldl (fun crc i => crc32di crc (u64 data (8 * i))) crc).toNat =
      update castagnoli crc.toNat (slice data 0 (8 * chunks)) := by
  induction chunks with
  | zero => rfl
  | succ chunks ih =>
    -- what has been taken so far is in the low half, as the next instruction needs it
    have before := update_lt castagnoli castagnoli_lt (by decide) low (slice data 0 (8 * chunks))
    rw [← ih] at before
    rw [List.range_succ, List.foldl_append, List.foldl_cons, List.foldl_nil, toNat_crc32di before,
      ih, Nat.mul_succ, slice_add, update_append, Nat.zero_add]

/-- The second loop takes that of what is left. -/
theorem toNat_foldl_crc32qi {crc : UInt64} (low : crc.toNat < 2 ^ 32) (data : Bytes) (o n : Nat) :
    ((List.range n).foldl (fun crc i => crc32qi crc (data (o + i))) crc).toNat =
      update castagnoli crc.toNat (slice data o n) := by
  induction n with
  | zero => rfl
  | succ n ih =>
    have before := update_lt castagnoli castagnoli_lt (by decide) low (slice data o n)
    have last : slice data (o + n) 1 = [data (o + n)] := by simp [slice]
    rw [← ih] at before
    rw [List.range_succ, List.foldl_append, List.foldl_cons, List.foldl_nil, toNat_crc32qi before,
      ih, slice_add, update_append, last]
    rfl

/-- With the instructions: the remainder goes on over the bytes, however they are grouped, and
stays in the low half. -/
theorem toNat_generateCrc32cOnCrc32c {crc : UInt64} (low : crc.toNat < 2 ^ 32) (data : Bytes)
    (length : UInt32) :
    (generateCrc32cOnCrc32c data length crc).toNat =
      update castagnoli crc.toNat (slice data 0 length.toNat) := by
  have whole := toNat_foldl_crc32di low data (length.toNat / 8)
  have between := update_lt castagnoli castagnoli_lt (by decide) low
    (slice data 0 (8 * (length.toNat / 8)))
  rw [← whole] at between
  -- the bytes are cut where the second loop takes over
  have cut := slice_add data 0 (8 * (length.toNat / 8)) (length.toNat % 8)
  rw [Nat.div_add_mod, Nat.zero_add] at cut
  rw [generateCrc32cOnCrc32c, toNat_foldl_crc32qi between, whole, ← update_append, ← cut]

theorem generateCrc32c_eq (data : Bytes) (length : UInt32) :
    generateCrc32c data length = crc32c (slice data 0 length.toNat) := by
  rw [generateCrc32c, crc32c]
  congr 1
  apply UInt32.toNat_inj.mp
  rw [UInt64.toNat_toUInt32, toNat_generateCrc32cOnCrc32c (by decide), toNat_foldl_crcByte]
  exact Nat.mod_eq_of_lt (update_lt castagnoli castagnoli_lt (by decide) (by decide) _)

/-- A double word shows in the CRC of the string around it. -/
theorem crc32c_field_inj {before rest : List UInt8} {v v' : UInt32}
    (same : crc32c (before ++ (le32 v ++ rest)) = crc32c (before ++ (le32 v' ++ rest))) : v = v' := by
  have registers := congrArg UInt32.toNat (UInt32.not_inj.mp same)
  rw [toNat_foldl_crcByte, toNat_foldl_crcByte] at registers
  have fields := update_field_inj (w := 31) castagnoli_lt (by decide) (by decide) (by decide) before
    rest (by simp) (by simp) registers
  rw [← ofNat_word_le32 v, fields, ofNat_word_le32]

/-- Every constant of the table is the remainder of its index. -/
theorem toNat_crcC : ∀ i < 256, (crcC.getD i 0).toNat = (step castagnoli)^[8] i := by
  decide +kernel

theorem crcLookup_eq (c : UInt32) (d : UInt8) : crcLookup c d = crcByte c d := by
  have index : ((c ^^^ d.toUInt32) &&& 0xFF).toNat = (c.toNat ^^^ d.toNat) % 2 ^ 8 := by
    rw [UInt32.toNat_and, UInt32.toNat_xor, UInt8.toNat_toUInt32]
    exact Nat.and_two_pow_sub_one_eq_mod _ 8
  -- three bytes of the register are only moved down, the fourth goes through the table
  have above : (c >>> 8).toNat = c.toNat / 2 ^ 8 := by
    rw [UInt32.toNat_shiftRight, Nat.shiftRight_eq_div_pow]
    rfl
  have entry := toNat_crcC ((c.toNat ^^^ d.toNat) % 2 ^ 8) (Nat.mod_lt _ (by decide))
  apply UInt32.toNat_inj.mp
  rw [toNat_crcByte, byteStep_eq_lookup, crcLookup, UInt32.toNat_xor, above, index, entry]

/-- A byte of a word, and that byte moved up. -/
theorem toNat_byte (v n : UInt32) :
    ((v >>> n) &&& 0xFF).toNat = v.toNat / 2 ^ (n.toNat % 32) % 2 ^ 8 := by
  rw [UInt32.toNat_and, UInt32.toNat_shiftRight, Nat.shiftRight_eq_div_pow]
  exact Nat.and_two_pow_sub_one_eq_mod _ 8

theorem toNat_byte_shiftLeft {b n : UInt32} (byte : b.toNat < 256) (fits : n.toNat ≤ 24) :
    (b <<< n).toNat = 2 ^ n.toNat * b.toNat := by
  have within : 2 ^ n.toNat * b.toNat < 2 ^ 32 :=
    calc 2 ^ n.toNat * b.toNat < 2 ^ n.toNat * 256 := Nat.mul_lt_mul_of_pos_left byte (by simp)
      _ ≤ 2 ^ 24 * 256 := Nat.mul_le_mul_right _ (Nat.pow_le_pow_right (by decide) fits)
  rw [UInt32.toNat_shiftLeft, Nat.mod_eq_of_lt (show n.toNat < 32 by omega), Nat.shiftLeft_eq,
    Nat.mul_comm, Nat.mod_eq_of_lt within]

/-- The swap by hand is that of `htonl`. -/
theorem swapped_eq_htonl (v : UInt32) :
    ((v &&& 0xFF) <<< 24) ||| (((v >>> 8) &&& 0xFF) <<< 16) ||| (((v >>> 16) &&& 0xFF) <<< 8) |||
      ((v >>> 24) &&& 0xFF) = htonl v := by
  have byte0 : (v &&& 0xFF).toNat = v.toNat % 2 ^ 8 := by
    rw [UInt32.toNat_and]
    exact Nat.and_two_pow_sub_one_eq_mod _ 8
  have byte1 : ((v >>> 8) &&& 0xFF).toNat = v.toNat / 2 ^ 8 % 2 ^ 8 := toNat_byte v 8
  have byte2 : ((v >>> 16) &&& 0xFF).toNat = v.toNat / 2 ^ 16 % 2 ^ 8 := toNat_byte v 16
  have byte3 : ((v >>> 24) &&& 0xFF).toNat = v.toNat / 2 ^ 24 % 2 ^ 8 := toNat_byte v 24
  have bound := v.toNat_lt
  apply UInt32.toNat_inj.mp
  rw [toNat_htonl, UInt32.toNat_or, UInt32.toNat_or, UInt32.toNat_or,
    toNat_byte_shiftLeft (by omega) (by decide), toNat_byte_shiftLeft (by omega) (by decide),
    toNat_byte_shiftLeft (by omega) (by decide), byte0, byte1, byte2, byte3]
  rw [show (24 : UInt32).toNat = 24 from rfl, show (16 : UInt32).toNat = 16 from rfl,
    show (8 : UInt32).toNat = 8 from rfl, or_bytes _ (by omega) (by omega) (by omega)]
  omega

/-- Any four bytes come out in the other order. -/
theorem toNat_htonl_bytes {v : UInt32} {a b c d : Nat} (first : a < 256) (second : b < 256)
    (third : c < 256)
    (is : v.toNat = d * 2 ^ 24 + c * 2 ^ 16 + b * 2 ^ 8 + a) :
    (htonl v).toNat = a * 2 ^ 24 + b * 2 ^ 16 + c * 2 ^ 8 + d := by
  have byte0 : v.toNat % 256 = a := by omega
  have byte1 : v.toNat / 2 ^ 8 % 256 = b := by omega
  have byte2 : v.toNat / 2 ^ 16 % 256 = c := by omega
  have byte3 : v.toNat / 2 ^ 24 = d := by omega
  rw [toNat_htonl, byte0, byte1, byte2, byte3]

theorem htonl_htonl (v : UInt32) : htonl (htonl v) = v := by
  have bound := v.toNat_lt
  have parts : v.toNat / 2 ^ 24 * 2 ^ 24 + v.toNat / 2 ^ 16 % 256 * 2 ^ 16 +
      v.toNat / 2 ^ 8 % 256 * 2 ^ 8 + v.toNat % 256 = v.toNat := by omega
  apply UInt32.toNat_inj.mp
  rw [toNat_htonl_bytes (by omega) (by omega) (by omega) (toNat_htonl v), parts]

theorem generateCrc32cPortable_eq (buffer : Bytes) (length : UInt32) :
    generateCrc32cPortable buffer length = crc32c (slice buffer 0 length.toNat) := by
  have looked : (fun crc32 i => crcLookup crc32 (buffer i)) = fun crc32 i => crcByte crc32 (buffer i) := by
    funext crc32 i
    rw [crcLookup_eq]
  simp only [generateCrc32cPortable]
  -- `htonl` undoes the swap by hand
  rw [swapped_eq_htonl, htonl_htonl, looked, crc32c, slice, List.foldl_map]
  simp only [Nat.zero_add]

/-- Both versions return the CRC-32C of the bytes. -/
theorem crc32c_versions_agree (data : Bytes) (length : UInt32) :
    generateCrc32c data length = generateCrc32cPortable data length ∧
    generateCrc32c data length = crc32c (slice data 0 length.toNat) ∧
    generateCrc32cPortable data length = crc32c (slice data 0 length.toNat) := by
  refine ⟨?_, generateCrc32c_eq data length, generateCrc32cPortable_eq data length⟩
  rw [generateCrc32c_eq, generateCrc32cPortable_eq]

/-- From piece to piece the remainder goes on, and stays in the low half. -/
theorem toNat_chainCrc32c (lengths : List UInt32) (data : Bytes) {crc : UInt64}
    (low : crc.toNat < 2 ^ 32) :
    (chainCrc32c data lengths crc).toNat =
      update castagnoli crc.toNat (slice data 0 (lengths.map UInt32.toNat).sum) := by
  -- on the pieces, with the accumulator that the one before has left
  induction lengths generalizing data crc with
  | nil => rfl
  | cons length rest ih =>
    have first := toNat_generateCrc32cOnCrc32c low data length
    have between := update_lt castagnoli castagnoli_lt (by decide) low (slice data 0 length.toNat)
    rw [← first] at between
    rw [chainCrc32c, ih _ between, first, slice_shift, List.map_cons, List.sum_cons, slice_add,
      update_append, Nat.add_zero, Nat.zero_add]

/-- However a string is cut, the CRC taken piece by piece is that of the whole. -/
theorem crc32c_cut_anywhere (data : Bytes) (lengths : List UInt32)
    (fits : (lengths.map UInt32.toNat).sum < 2 ^ 32) :
    ~~~(chainCrc32c data lengths 0xFFFFFFFF).toUInt32 =
      generateCrc32c data (UInt32.ofNat (lengths.map UInt32.toNat).sum) := by
  have whole : (UInt32.ofNat (lengths.map UInt32.toNat).sum).toNat = (lengths.map UInt32.toNat).sum :=
    UInt32.toNat_ofNat_of_lt' fits
  rw [generateCrc32c]
  congr 2
  apply UInt64.toNat_inj.mp
  rw [toNat_chainCrc32c lengths data (by decide), toNat_generateCrc32cOnCrc32c (by decide), whole]

/-- Nine bytes in one piece are a chunk and a byte; cut after the third, there is no chunk. -/
theorem crc32c_cut_anywhere_nine :
    ~~~(chainCrc32c (fun i => UInt8.ofNat i) [3, 6] 0xFFFFFFFF).toUInt32 =
      generateCrc32c (fun i => UInt8.ofNat i) 9 :=
  crc32c_cut_anywhere (fun i => UInt8.ofNat i) [3, 6] (by decide)

end Kpnet.Sctp
