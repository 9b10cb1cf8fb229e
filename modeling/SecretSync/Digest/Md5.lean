import SecretSync.Text.Utf8

namespace SecretSync.Digest

open Text (Bytes)

namespace Md5

structure State where
  a : UInt32
  b : UInt32
  c : UInt32
  d : UInt32
  deriving DecidableEq, Repr

def start : State := ⟨0x67452301, 0xefcdab89, 0x98badcfe, 0x10325476⟩

def shifts : Array UInt32 :=
  #[7, 12, 17, 22, 5, 9, 14, 20, 4, 11, 16, 23, 6, 10, 15, 21]

/-- The whole parts of 2^32 · |sin i| for i from 1 to 64. -/
def sines : Array UInt32 :=
  #[0xd76aa478, 0xe8c7b756, 0x242070db, 0xc1bdceee, 0xf57c0faf, 0x4787c62a, 0xa8304613, 0xfd469501,
    0x698098d8, 0x8b44f7af, 0xffff5bb1, 0x895cd7be, 0x6b901122, 0xfd987193, 0xa679438e, 0x49b40821,
    0xf61e2562, 0xc040b340, 0x265e5a51, 0xe9b6c7aa, 0xd62f105d, 0x02441453, 0xd8a1e681, 0xe7d3fbc8,
    0x21e1cde6, 0xc33707d6, 0xf4d50d87, 0x455a14ed, 0xa9e3e905, 0xfcefa3f8, 0x676f02d9, 0x8d2a4c8a,
    0xfffa3942, 0x8771f681, 0x6d9d6122, 0xfde5380c, 0xa4beea44, 0x4bdecfa9, 0xf6bb4b60, 0xbebfbc70,
    0x289b7ec6, 0xeaa127fa, 0xd4ef3085, 0x04881d05, 0xd9d4d039, 0xe6db99e5, 0x1fa27cf8, 0xc4ac5665,
    0xf4292244, 0x432aff97, 0xab9423a7, 0xfc93a039, 0x655b59c3, 0x8f0ccc92, 0xffeff47d, 0x85845dd1,
    0x6fa87e4f, 0xfe2ce6e0, 0xa3014314, 0x4e0811a1, 0xf7537e82, 0xbd3af235, 0x2ad7d2bb, 0xeb86d391]

def littleEndian (bytes : Bytes) : UInt32 :=
  bytes.foldr (fun b w => w <<< 8 ||| b.toUInt32) 0

def toBytes (count : Nat) (n : Nat) : Bytes :=
  (List.range count).map fun i => UInt8.ofNat (n / Nat.pow 256 i)

/-- The message with a bit, zeros up to eight bytes before a block's end, and its length in bits. -/
def padded (message : Bytes) : Bytes :=
  message ++ 0x80 :: List.replicate ((119 - message.length % 64) % 64) 0 ++
    toBytes 8 (message.length * 8)

/-- The mixing function and the word of one of the 64 steps. -/
def mix (i : Nat) (b c d : UInt32) : UInt32 × Nat :=
  if i < 16 then ((b &&& c) ||| (~~~b &&& d), i)
  else if i < 32 then ((d &&& b) ||| (~~~d &&& c), (5 * i + 1) % 16)
  else if i < 48 then (b ^^^ c ^^^ d, (3 * i + 5) % 16)
  else (c ^^^ (b ||| ~~~d), 7 * i % 16)

def rotate (x n : UInt32) : UInt32 := x <<< n ||| x >>> (32 - n)

def step (words : Array UInt32) (s : State) (i : Nat) : State :=
  let (f, g) := mix i s.b s.c s.d
  let sum := s.a + f + sines.getD i 0 + words.getD g 0
  ⟨s.d, s.b + rotate sum (shifts.getD (i / 16 * 4 + i % 4) 0), s.b, s.c⟩

def words (block : Bytes) : Array UInt32 :=
  ((List.range 16).map fun i => littleEndian ((block.drop (4 * i)).take 4)).toArray

def absorb (s : State) (block : Bytes) : State :=
  let t := (List.range 64).foldl (step (words block)) s
  ⟨s.a + t.a, s.b + t.b, s.c + t.c, s.d + t.d⟩

def blocks (count : Nat) (bytes : Bytes) : List Bytes :=
  match count with
  | 0 => []
  | n + 1 => bytes.take 64 :: blocks n (bytes.drop 64)

def digest (message : Bytes) : Bytes :=
  let bytes := padded message
  let s := (blocks (bytes.length / 64) bytes).foldl absorb start
  [s.a, s.b, s.c, s.d].flatMap fun w => toBytes 4 w.toNat

end Md5

def hexByte (b : UInt8) : List Char :=
  let digit (n : Nat) : Char := Char.ofNat (if n < 10 then 48 + n else 87 + n)
  [digit (b.toNat / 16), digit (b.toNat % 16)]

/-- The digest of a value in 32 lower case hexadecimal digits. -/
def contentHash (value : String) : String :=
  String.ofList ((Md5.digest (Text.Utf8.encode value)).flatMap hexByte)

end SecretSync.Digest
