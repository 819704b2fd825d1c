import Latchkey.Digest.Block

namespace Latchkey.Digest.Md5

/-- The constants of the 64 steps: the sines of 1, 2, ... as 32-bit fractions. -/
def constants : List UInt32 := [
  0xd76aa478, 0xe8c7b756, 0x242070db, 0xc1bdceee, 0xf57c0faf, 0x4787c62a,
  0xa8304613, 0xfd469501, 0x698098d8, 0x8b44f7af, 0xffff5bb1, 0x895cd7be,
  0x6b901122, 0xfd987193, 0xa679438e, 0x49b40821, 0xf61e2562, 0xc040b340,
  0x265e5a51, 0xe9b6c7aa, 0xd62f105d, 0x02441453, 0xd8a1e681, 0xe7d3fbc8,
  0x21e1cde6, 0xc33707d6, 0xf4d50d87, 0x455a14ed, 0xa9e3e905, 0xfcefa3f8,
  0x676f02d9, 0x8d2a4c8a, 0xfffa3942, 0x8771f681, 0x6d9d6122, 0xfde5380c,
  0xa4beea44, 0x4bdecfa9, 0xf6bb4b60, 0xbebfbc70, 0x289b7ec6, 0xeaa127fa,
  0xd4ef3085, 0x04881d05, 0xd9d4d039, 0xe6db99e5, 0x1fa27cf8, 0xc4ac5665,
  0xf4292244, 0x432aff97, 0xab9423a7, 0xfc93a039, 0x655b59c3, 0x8f0ccc92,
  0xffeff47d, 0x85845dd1, 0x6fa87e4f, 0xfe2ce6e0, 0xa3014314, 0x4e0811a1,
  0xf7537e82, 0xbd3af235, 0x2ad7d2bb, 0xeb86d391]

/-- The rotations of the 64 steps. -/
def rotations : List UInt32 :=
  let round (r : List UInt32) := (List.replicate 4 r).flatten
  round [7, 12, 17, 22] ++ round [5, 9, 14, 20] ++ round [4, 11, 16, 23] ++ round [6, 10, 15, 21]

structure State where
  a : UInt32
  b : UInt32
  c : UInt32
  d : UInt32

def initial : State := ⟨0x67452301, 0xefcdab89, 0x98badcfe, 0x10325476⟩

/-- Step `i` with its constant and rotation, on the words of one block. -/
def step (words : Array UInt32) (s : State) (i : Nat) (constant rotation : UInt32) : State :=
  let (f, g) :=
    if i < 16 then ((s.b &&& s.c) ||| (~~~s.b &&& s.d), i)
    else if i < 32 then ((s.d &&& s.b) ||| (~~~s.d &&& s.c), (5 * i + 1) % 16)
    else if i < 48 then (s.b ^^^ s.c ^^^ s.d, (3 * i + 5) % 16)
    else (s.c ^^^ (s.b ||| ~~~s.d), (7 * i) % 16)
  let sum := f + s.a + constant + words.getD g 0
  ⟨s.d, s.b + rotateLeft sum rotation, s.b, s.c⟩

/-- One block taken in. -/
def absorb (s : State) (block : List UInt8) : State :=
  let words := ((chunks 4 block).map fun w => UInt32.ofNat (littleEndian w)).toArray
  let last := ((constants.zip rotations).foldl
    (fun (acc : Nat × State) k => (acc.1 + 1, step words acc.2 acc.1 k.1 k.2)) (0, s)).2
  ⟨s.a + last.a, s.b + last.b, s.c + last.c, s.d + last.d⟩

/-- The sixteen bytes of the digest. -/
def digest (message : List UInt8) : List UInt8 :=
  let s := (chunks 64 (padded 64 8 toLittleEndian message)).foldl absorb initial
  [s.a, s.b, s.c, s.d].flatMap fun w => toLittleEndian 4 w.toNat

end Latchkey.Digest.Md5
