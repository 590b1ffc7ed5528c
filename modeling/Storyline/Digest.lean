/-!
The MD5 digest of a text, by which builds of content are told apart.
-/

namespace Storyline.Digest

def constants : Array UInt32 := #[
  0xd76aa478, 0xe8c7b756, 0x242070db, 0xc1bdceee, 0xf57c0faf, 0x4787c62a, 0xa8304613, 0xfd469501,
  0x698098d8, 0x8b44f7af, 0xffff5bb1, 0x895cd7be, 0x6b901122, 0xfd987193, 0xa679438e, 0x49b40821,
  0xf61e2562, 0xc040b340, 0x265e5a51, 0xe9b6c7aa, 0xd62f105d, 0x02441453, 0xd8a1e681, 0xe7d3fbc8,
  0x21e1cde6, 0xc33707d6, 0xf4d50d87, 0x455a14ed, 0xa9e3e905, 0xfcefa3f8, 0x676f02d9, 0x8d2a4c8a,
  0xfffa3942, 0x8771f681, 0x6d9d6122, 0xfde5380c, 0xa4beea44, 0x4bdecfa9, 0xf6bb4b60, 0xbebfbc70,
  0x289b7ec6, 0xeaa127fa, 0xd4ef3085, 0x04881d05, 0xd9d4d039, 0xe6db99e5, 0x1fa27cf8, 0xc4ac5665,
  0xf4292244, 0x432aff97, 0xab9423a7, 0xfc93a039, 0x655b59c3, 0x8f0ccc92, 0xffeff47d, 0x85845dd1,
  0x6fa87e4f, 0xfe2ce6e0, 0xa3014314, 0x4e0811a1, 0xf7537e82, 0xbd3af235, 0x2ad7d2bb, 0xeb86d391]

/-- How far each step rotates, for four steps of each of the four rounds. -/
def rotations : Array UInt32 := #[7, 12, 17, 22, 5, 9, 14, 20, 4, 11, 16, 23, 6, 10, 15, 21]

structure Words where
  a : UInt32
  b : UInt32
  c : UInt32
  d : UInt32

def Words.start : Words := ⟨0x67452301, 0xefcdab89, 0x98badcfe, 0x10325476⟩

def rotate (w places : UInt32) : UInt32 := (w <<< places) ||| (w >>> (32 - places))

/-- A byte of a padded text, zero beyond its end. -/
def byteAt (bytes : Array UInt8) (i : Nat) : UInt32 := (bytes[i]?.getD 0).toUInt32

/-- The word of four bytes, the lowest first. -/
def wordAt (bytes : Array UInt8) (i : Nat) : UInt32 :=
  byteAt bytes i ||| byteAt bytes (i + 1) <<< 8 ||| byteAt bytes (i + 2) <<< 16
    ||| byteAt bytes (i + 3) <<< 24

def step (bytes : Array UInt8) (block : Nat) (w : Words) (i : Nat) : Words :=
  let round := i / 16
  let (mixed, index) :=
    if round = 0 then ((w.b &&& w.c) ||| (~~~w.b &&& w.d), i)
    else if round = 1 then ((w.d &&& w.b) ||| (~~~w.d &&& w.c), (5 * i + 1) % 16)
    else if round = 2 then (w.b ^^^ w.c ^^^ w.d, (3 * i + 5) % 16)
    else (w.c ^^^ (w.b ||| ~~~w.d), (7 * i) % 16)
  let sum := mixed + w.a + constants[i]?.getD 0 + wordAt bytes (64 * block + 4 * index)
  ⟨w.d, w.b + rotate sum (rotations[4 * round + i % 4]?.getD 0), w.b, w.c⟩

def afterBlock (bytes : Array UInt8) (w : Words) (block : Nat) : Words :=
  let v := (List.range 64).foldl (step bytes block) w
  ⟨w.a + v.a, w.b + v.b, w.c + v.c, w.d + v.d⟩

/-- The bytes of a text with a one bit after them, zeros, and the length in bits at the end of the
last block. -/
def padded (bytes : Array UInt8) : Array UInt8 :=
  let zeros := (119 - bytes.size % 64) % 64
  let bits := bytes.size * 8
  let tail : List UInt8 := (List.range 8).map fun i => UInt8.ofNat (bits >>> (8 * i))
  bytes ++ #[0x80] ++ Array.replicate zeros 0 ++ tail.toArray

def hexByte (b : UInt8) : List Char :=
  [Nat.digitChar (b.toNat / 16), Nat.digitChar (b.toNat % 16)]

def hexWord (w : UInt32) : List Char :=
  [w.toUInt8, (w >>> 8).toUInt8, (w >>> 16).toUInt8, (w >>> 24).toUInt8].flatMap hexByte

def ofBytes (bytes : Array UInt8) : String :=
  let all := padded bytes
  let w := (List.range (all.size / 64)).foldl (afterBlock all) .start
  String.ofList ([w.a, w.b, w.c, w.d].flatMap hexWord)

def ofText (s : String) : String := ofBytes s.toUTF8.data

end Storyline.Digest
