import Latchkey.Digest.Block

namespace Latchkey.Digest.Sha1

structure State where
  a : UInt32
  b : UInt32
  c : UInt32
  d : UInt32
  e : UInt32

def initial : State := ⟨0x67452301, 0xefcdab89, 0x98badcfe, 0x10325476, 0xc3d2e1f0⟩

/-- The 80 words of the schedule; each after the sixteenth comes from four earlier ones. -/
def schedule (block : List UInt8) : Array UInt32 :=
  let words := ((chunks 4 block).map fun w => UInt32.ofNat (bigEndian w)).toArray
  (List.range 64).foldl (fun w i =>
    w.push (rotateLeft
      (w.getD (i + 13) 0 ^^^ w.getD (i + 8) 0 ^^^ w.getD (i + 2) 0 ^^^ w.getD i 0) 1)) words

def step (words : Array UInt32) (s : State) (i : Nat) : State :=
  let (f, k) :=
    if i < 20 then ((s.b &&& s.c) ||| (~~~s.b &&& s.d), (0x5a827999 : UInt32))
    else if i < 40 then (s.b ^^^ s.c ^^^ s.d, 0x6ed9eba1)
    else if i < 60 then ((s.b &&& s.c) ||| (s.b &&& s.d) ||| (s.c &&& s.d), 0x8f1bbcdc)
    else (s.b ^^^ s.c ^^^ s.d, 0xca62c1d6)
  ⟨rotateLeft s.a 5 + f + s.e + k + words.getD i 0, s.a, rotateLeft s.b 30, s.c, s.d⟩

/-- One block taken in. -/
def absorb (s : State) (block : List UInt8) : State :=
  let words := schedule block
  let last := (List.range 80).foldl (step words) s
  ⟨s.a + last.a, s.b + last.b, s.c + last.c, s.d + last.d, s.e + last.e⟩

/-- The twenty bytes of the digest. -/
def digest (message : List UInt8) : List UInt8 :=
  let s := (chunks 64 (padded 64 8 toBigEndian message)).foldl absorb initial
  [s.a, s.b, s.c, s.d, s.e].flatMap fun w => toBigEndian 4 w.toNat

end Latchkey.Digest.Sha1
