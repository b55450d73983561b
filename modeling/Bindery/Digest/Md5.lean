/-!
# Message digests

The MD5 digest of bytes. The message is padded to whole blocks of sixteen words, its length in bits
at the end; each block is mixed into four words in sixty-four steps. Words are written with their
lowest byte first.
-/

namespace Bindery.Digest

/-- The four words of a digest. -/
structure Md5Words where
  /-- The first word. -/
  a : UInt32
  /-- The second word. -/
  b : UInt32
  /-- The third word. -/
  c : UInt32
  /-- The fourth word. -/
  d : UInt32
deriving DecidableEq, Repr, Inhabited

namespace Md5Words

/-- The words before the first block. -/
def start : Md5Words := ⟨0x67452301, 0xefcdab89, 0x98badcfe, 0x10325476⟩

/-- Two digests added word by word. -/
def add (x y : Md5Words) : Md5Words :=
  ⟨x.a + y.a, x.b + y.b, x.c + y.c, x.d + y.d⟩

end Md5Words

/-- The constants of the steps: the sines of one to sixty-four, scaled to words. -/
def sineWords : List UInt32 :=
  [
    0xd76aa478, 0xe8c7b756, 0x242070db, 0xc1bdceee, 0xf57c0faf, 0x4787c62a, 0xa8304613, 0xfd469501,
    0x698098d8, 0x8b44f7af, 0xffff5bb1, 0x895cd7be, 0x6b901122, 0xfd987193, 0xa679438e, 0x49b40821,
    0xf61e2562, 0xc040b340, 0x265e5a51, 0xe9b6c7aa, 0xd62f105d, 0x02441453, 0xd8a1e681, 0xe7d3fbc8,
    0x21e1cde6, 0xc33707d6, 0xf4d50d87, 0x455a14ed, 0xa9e3e905, 0xfcefa3f8, 0x676f02d9, 0x8d2a4c8a,
    0xfffa3942, 0x8771f681, 0x6d9d6122, 0xfde5380c, 0xa4beea44, 0x4bdecfa9, 0xf6bb4b60, 0xbebfbc70,
    0x289b7ec6, 0xeaa127fa, 0xd4ef3085, 0x04881d05, 0xd9d4d039, 0xe6db99e5, 0x1fa27cf8, 0xc4ac5665,
    0xf4292244, 0x432aff97, 0xab9423a7, 0xfc93a039, 0x655b59c3, 0x8f0ccc92, 0xffeff47d, 0x85845dd1,
    0x6fa87e4f, 0xfe2ce6e0, 0xa3014314, 0x4e0811a1, 0xf7537e82, 0xbd3af235, 0x2ad7d2bb, 0xeb86d391
  ]

/-- How far each step rotates. -/
def rotations : List UInt32 :=
  [[7, 12, 17, 22], [5, 9, 14, 20], [4, 11, 16, 23], [6, 10, 15, 21]].flatMap fun four =>
    four ++ four ++ four ++ four

/-- A word rotated to the left. -/
def rotateLeft (w n : UInt32) : UInt32 :=
  (w <<< n) ||| (w >>> (32 - n))

/-- The bits that a step mixes in, and the place of the word of the block that it uses. -/
def mix (step : Nat) (s : Md5Words) : UInt32 × Nat :=
  if step < 16 then ((s.b &&& s.c) ||| (~~~s.b &&& s.d), step)
  else if step < 32 then ((s.d &&& s.b) ||| (~~~s.d &&& s.c), (5 * step + 1) % 16)
  else if step < 48 then (s.b ^^^ s.c ^^^ s.d, (3 * step + 5) % 16)
  else (s.c ^^^ (s.b ||| ~~~s.d), (7 * step) % 16)

/-- One step. -/
def applyStep (block : List UInt32) (s : Md5Words) (step : Nat × UInt32 × UInt32) : Md5Words :=
  let (bits, place) := mix step.1 s
  let sum := s.a + bits + step.2.1 + (block[place]?.getD 0)
  ⟨s.d, s.b + rotateLeft sum step.2.2, s.b, s.c⟩

/-- The steps: their numbers, constants and rotations. -/
def steps : List (Nat × UInt32 × UInt32) :=
  (List.range 64).zip (sineWords.zip rotations)

/-- Mixes one block into a digest. -/
def absorb (s : Md5Words) (block : List UInt32) : Md5Words :=
  (steps.foldl (applyStep block) s).add s

/-- A number as bytes, the lowest first. -/
def lowBytes : Nat → Nat → List UInt8
  | 0, _ => []
  | count + 1, n => UInt8.ofNat (n % 256) :: lowBytes count (n / 256)

/-- A message padded to whole blocks. -/
def padded (message : List UInt8) : List UInt8 :=
  let zeros := (119 - message.length % 64) % 64
  message ++ 0x80 :: List.replicate zeros 0 ++ lowBytes 8 (8 * message.length)

/-- The words of bytes. -/
def wordsOf : List UInt8 → List UInt32
  | a :: b :: c :: d :: rest =>
    (a.toUInt32 ||| (b.toUInt32 <<< 8) ||| (c.toUInt32 <<< 16) ||| (d.toUInt32 <<< 24)) ::
      wordsOf rest
  | _ => []

/-- The blocks of words; `count` bounds their number. -/
def blocksOf : Nat → List UInt32 → List (List UInt32)
  | 0, _ => []
  | count + 1, ws => if ws.isEmpty then [] else ws.take 16 :: blocksOf count (ws.drop 16)

/-- The digest of a message. -/
def md5 (message : List UInt8) : List UInt8 :=
  let ws := wordsOf (padded message)
  let s := (blocksOf ws.length ws).foldl absorb .start
  [s.a, s.b, s.c, s.d].flatMap fun w => lowBytes 4 w.toNat

end Bindery.Digest
