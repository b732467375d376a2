import Kpnet.Lib.Bytes

/-!
# Checksums and digests

`generate_crc32c.c` as built for processors with SSE4.2, `md5.c` and `hmac_md5.c`. The
handshake stamps every SCTP packet with the CRC32C of its bytes and seals its state cookie
with the HMAC.
-/
namespace Kpnet.Sctp

open Bytes

/-- One bit of the reflected division by the Castagnoli polynomial. -/
def crcShift (t : UInt64) : UInt64 :=
  if t &&& 1 = 1 then (t >>> 1) ^^^ 0x82F63B78 else t >>> 1

/-- `__builtin_ia32_crc32qi`; both instructions read the low half of the accumulator. -/
def crc32qi (crc : UInt64) (byte : UInt8) : UInt64 :=
  crcShift^[8] ((crc &&& 0xFFFFFFFF) ^^^ byte.toUInt64)

/-- `__builtin_ia32_crc32di`. -/
def crc32di (crc chunk : UInt64) : UInt64 :=
  crcShift^[64] ((crc &&& 0xFFFFFFFF) ^^^ chunk)

/-- `generate_crc32c_on_crc32c`: whole 8-byte chunks first, then what is left byte by
byte. -/
def generateCrc32cOnCrc32c (data : Bytes) (length : UInt32) (crc : UInt64) : UInt64 :=
  let chunks := length.toNat / 8
  let crc := (List.range chunks).foldl (fun crc i => crc32di crc (u64 data (8 * i))) crc
  (List.range (length.toNat % 8)).foldl (fun crc i => crc32qi crc (data (8 * chunks + i))) crc

def generateCrc32c (data : Bytes) (length : UInt32) : UInt32 :=
  ~~~(generateCrc32cOnCrc32c data length 0xFFFFFFFF).toUInt32

/-- The four registers of MD5. -/
structure Md5State where
  a : UInt32
  b : UInt32
  c : UInt32
  d : UInt32
  deriving DecidableEq, Repr

/-- `MD5_CTX`. -/
structure Md5Ctx where
  state : Md5State
  count0 : UInt32
  count1 : UInt32
  buffer : Bytes

def rotateLeft (x n : UInt32) : UInt32 := (x <<< n) ||| (x >>> (32 - n))

/-- `FF`, `GG`, `HH` and `II` differ in the mixing function only. The registers are
renamed after every application, so that the next one again changes the first. -/
def md5Mix (mix : UInt32 → UInt32 → UInt32 → UInt32) (x : Nat → UInt32) (s : Md5State)
    (entry : Nat × UInt32 × UInt32) : Md5State :=
  let (k, shift, ac) := entry
  { a := s.d
    b := rotateLeft (s.a + (mix s.b s.c s.d + x k + ac)) shift + s.b
    c := s.b
    d := s.c }

def md5F (x y z : UInt32) : UInt32 := (x &&& y) ||| (~~~x &&& z)

def md5G (x y z : UInt32) : UInt32 := (x &&& z) ||| (y &&& ~~~z)

def md5H (x y z : UInt32) : UInt32 := x ^^^ y ^^^ z

def md5I (x y z : UInt32) : UInt32 := y ^^^ (x ||| ~~~z)

/-- Word, rotation and constant of every application of `FF`. -/
def round1 : List (Nat × UInt32 × UInt32) :=
  [(0, 7, 0xd76aa478), (1, 12, 0xe8c7b756), (2, 17, 0x242070db), (3, 22, 0xc1bdceee),
   (4, 7, 0xf57c0faf), (5, 12, 0x4787c62a), (6, 17, 0xa8304613), (7, 22, 0xfd469501),
   (8, 7, 0x698098d8), (9, 12, 0x8b44f7af), (10, 17, 0xffff5bb1), (11, 22, 0x895cd7be),
   (12, 7, 0x6b901122), (13, 12, 0xfd987193), (14, 17, 0xa679438e), (15, 22, 0x49b40821)]

def round2 : List (Nat × UInt32 × UInt32) :=
  [(1, 5, 0xf61e2562), (6, 9, 0xc040b340), (11, 14, 0x265e5a51), (0, 20, 0xe9b6c7aa),
   (5, 5, 0xd62f105d), (10, 9, 0x2441453), (15, 14, 0xd8a1e681), (4, 20, 0xe7d3fbc8),
   (9, 5, 0x21e1cde6), (14, 9, 0xc33707d6), (3, 14, 0xf4d50d87), (8, 20, 0x455a14ed),
   (13, 5, 0xa9e3e905), (2, 9, 0xfcefa3f8), (7, 14, 0x676f02d9), (12, 20, 0x8d2a4c8a)]

def round3 : List (Nat × UInt32 × UInt32) :=
  [(5, 4, 0xfffa3942), (8, 11, 0x8771f681), (11, 16, 0x6d9d6122), (14, 23, 0xfde5380c),
   (1, 4, 0xa4beea44), (4, 11, 0x4bdecfa9), (7, 16, 0xf6bb4b60), (10, 23, 0xbebfbc70),
   (13, 4, 0x289b7ec6), (0, 11, 0xeaa127fa), (3, 16, 0xd4ef3085), (6, 23, 0x4881d05),
   (9, 4, 0xd9d4d039), (12, 11, 0xe6db99e5), (15, 16, 0x1fa27cf8), (2, 23, 0xc4ac5665)]

def round4 : List (Nat × UInt32 × UInt32) :=
  [(0, 6, 0xf4292244), (7, 10, 0x432aff97), (14, 15, 0xab9423a7), (5, 21, 0xfc93a039),
   (12, 6, 0x655b59c3), (3, 10, 0x8f0ccc92), (10, 15, 0xffeff47d), (1, 21, 0x85845dd1),
   (8, 6, 0x6fa87e4f), (15, 10, 0xfe2ce6e0), (6, 15, 0xa3014314), (13, 21, 0x4e0811a1),
   (4, 6, 0xf7537e82), (11, 10, 0xbd3af235), (2, 15, 0x2ad7d2bb), (9, 21, 0xeb86d391)]

/-- `MD5Transform`; the block is decoded word by word as it is read. -/
def md5Transform (state : Md5State) (block : Bytes) : Md5State :=
  let x := fun k => u32 block (4 * k)
  let s := round1.foldl (md5Mix md5F x) state
  let s := round2.foldl (md5Mix md5G x) s
  let s := round3.foldl (md5Mix md5H x) s
  let s := round4.foldl (md5Mix md5I x) s
  { a := state.a + s.a, b := state.b + s.b, c := state.c + s.c, d := state.d + s.d }

/-- `MD5Init`. The source leaves the buffer as it is; no byte of it is transformed before
it is written. -/
def md5Init : Md5Ctx :=
  { state := { a := 0x67452301, b := 0xefcdab89, c := 0x98badcfe, d := 0x10325476 }
    count0 := 0
    count1 := 0
    buffer := fun _ => 0 }

/-- `MD5Update`. -/
def md5Update (context : Md5Ctx) (input : List UInt8) : Md5Ctx :=
  let bits := UInt32.ofNat input.length <<< 3
  let index := ((context.count0 >>> 3) &&& 0x3F).toNat
  let count0 := context.count0 + bits
  let carried := if count0 < bits then context.count1 + 1 else context.count1
  let count1 := carried + (UInt32.ofNat input.length >>> 29)
  let partLen := 64 - index
  if partLen ≤ input.length then
    -- the buffer is completed, then whole blocks are taken from the input itself
    let buffer := put context.buffer index (input.take partLen)
    let text : Bytes := put (fun _ => 0) 0 input
    let blocks := (input.length - partLen) / 64
    let state := (List.range blocks).foldl
      (fun state i => md5Transform state (shift text (partLen + 64 * i)))
      (md5Transform context.state buffer)
    { state := state
      count0 := count0
      count1 := count1
      buffer := put buffer 0 (input.drop (partLen + 64 * blocks)) }
  else
    { state := context.state
      count0 := count0
      count1 := count1
      buffer := put context.buffer index input }

/-- `MD5Final`. -/
def md5Final (context : Md5Ctx) : List UInt8 :=
  let bits := le32 context.count0 ++ le32 context.count1
  let index := ((context.count0 >>> 3) &&& 0x3F).toNat
  let padLen := if index < 56 then 56 - index else 120 - index
  let context := md5Update context (0x80 :: List.replicate (padLen - 1) 0)
  let state := (md5Update context bits).state
  le32 state.a ++ le32 state.b ++ le32 state.c ++ le32 state.d

/-- `hmac_md5`. -/
def hmacMd5 (text key : List UInt8) : List UInt8 :=
  let key := if 64 < key.length then md5Final (md5Update md5Init key) else key
  let padded := key ++ List.replicate (64 - key.length) 0
  let digest := md5Final (md5Update (md5Update md5Init (padded.map (· ^^^ 0x36))) text)
  md5Final (md5Update (md5Update md5Init (padded.map (· ^^^ 0x5c))) digest)

@[simp] theorem length_hmacMd5 (text key : List UInt8) : (hmacMd5 text key).length = 16 := rfl

end Kpnet.Sctp
