import Latchkey.Digest.Block

/-!
The BLAKE3 digest of a message without key: chunks of 1024 bytes are the leaves of a binary tree,
and the root gives the 32 bytes of the digest.
-/

namespace Latchkey.Digest.Blake3

def initial : List UInt32 :=
  [0x6a09e667, 0xbb67ae85, 0x3c6ef372, 0xa54ff53a, 0x510e527f, 0x9b05688c, 0x1f83d9ab, 0x5be0cd19]

/-! The places a block can have in the tree. -/

def chunkStart : UInt32 := 1
def chunkEnd : UInt32 := 2
def parent : UInt32 := 4
def root : UInt32 := 8

/-- Two words of the message mixed into four words of the state. -/
def mix (s : Array UInt32) (a b c d : Nat) (x y : UInt32) : Array UInt32 :=
  let va := s.getD a 0 + s.getD b 0 + x
  let vd := rotateRight (s.getD d 0 ^^^ va) 16
  let vc := s.getD c 0 + vd
  let vb := rotateRight (s.getD b 0 ^^^ vc) 12
  let va := va + vb + y
  let vd := rotateRight (vd ^^^ va) 8
  let vc := vc + vd
  let vb := rotateRight (vb ^^^ vc) 7
  (((s.setIfInBounds a va).setIfInBounds b vb).setIfInBounds c vc).setIfInBounds d vd

/-- One round: the four columns, then the four diagonals. -/
def round (s m : Array UInt32) : Array UInt32 :=
  let w := fun i => m.getD i 0
  let s := mix s 0 4 8 12 (w 0) (w 1)
  let s := mix s 1 5 9 13 (w 2) (w 3)
  let s := mix s 2 6 10 14 (w 4) (w 5)
  let s := mix s 3 7 11 15 (w 6) (w 7)
  let s := mix s 0 5 10 15 (w 8) (w 9)
  let s := mix s 1 6 11 12 (w 10) (w 11)
  let s := mix s 2 7 8 13 (w 12) (w 13)
  mix s 3 4 9 14 (w 14) (w 15)

/-- The order in which the next round takes the words of the message. -/
def permutation : List Nat := [2, 6, 3, 10, 7, 0, 4, 13, 1, 11, 12, 5, 9, 14, 15, 8]

def permute (m : Array UInt32) : Array UInt32 := (permutation.map fun i => m.getD i 0).toArray

/-- The seven rounds on the state `s` with the message words `m`. -/
def rounds : Nat → Array UInt32 → Array UInt32 → Array UInt32
  | 0, s, _ => s
  | n + 1, s, m => rounds n (round s m) (permute m)

/-- One block: the chaining value it starts from, its words, its number, its length, its place. The
first eight words of the result are the next chaining value. -/
def compress (chaining words : List UInt32) (counter : Nat) (length place : UInt32) : List UInt32 :=
  let start := chaining ++ initial.take 4 ++
    [UInt32.ofNat counter, UInt32.ofNat (counter / 0x100000000), length, place]
  let s := rounds 7 start.toArray words.toArray
  (List.range 8).map fun i => s.getD i 0 ^^^ s.getD (i + 8) 0

/-- The sixteen words of a block, filled up with zeros. -/
def blockWords (block : List UInt8) : List UInt32 :=
  (chunks 4 (block ++ List.replicate (64 - block.length) 0)).map fun w =>
    UInt32.ofNat (littleEndian w)

/-- The blocks of one chunk, one after the other. The last one is marked as the end, and as the
root when the chunk is the whole message. -/
def chunkFrom (counter : Nat) (final : UInt32) (first : UInt32) (chaining : List UInt32) :
    List (List UInt8) → List UInt32
  | [] => chaining
  | [block] =>
    compress chaining (blockWords block) counter (UInt32.ofNat block.length)
      (first ||| chunkEnd ||| final)
  | block :: next :: blocks =>
    chunkFrom counter final 0
      (compress chaining (blockWords block) counter (UInt32.ofNat block.length) first)
      (next :: blocks)

/-- The chaining value of one chunk; the empty message is one empty block. -/
def chunk (counter : Nat) (final : UInt32) (bytes : List UInt8) : List UInt32 :=
  let blocks := if bytes = [] then [[]] else chunks 64 bytes
  chunkFrom counter final chunkStart initial blocks

/-- The largest power of two below `n`. -/
def leftSize (n : Nat) : Nat := Nat.pow 2 (Nat.log2 (n - 1))

/-- The chaining value of a tree over consecutive chunks; the left part is the largest full tree
that leaves something to the right. -/
def tree (counter : Nat) (final : UInt32) : List (List UInt8) → List UInt32
  | [] => chunk counter final []
  | [bytes] => chunk counter final bytes
  | x :: y :: rest =>
    let leaves := x :: y :: rest
    let left := leftSize leaves.length
    compress initial
      (tree counter 0 (leaves.take left) ++ tree (counter + left) 0 (leaves.drop left))
      0 64 (parent ||| final)
termination_by leaves => leaves.length
decreasing_by
  all_goals
    have small : Nat.pow 2 (Nat.log2 (rest.length + 1)) ≤ rest.length + 1 :=
      Nat.log2_self_le (by omega)
    have positive : 0 < Nat.pow 2 (Nat.log2 (rest.length + 1)) := Nat.two_pow_pos _
    simp only [leftSize, List.length_cons, List.length_take, List.length_drop, Nat.add_sub_cancel]
    omega

/-- The 32 bytes of the digest. -/
def digest (message : List UInt8) : List UInt8 :=
  (tree 0 root (chunks 1024 message)).flatMap fun w => toLittleEndian 4 w.toNat

end Latchkey.Digest.Blake3
