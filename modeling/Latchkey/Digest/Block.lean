namespace Latchkey.Digest

/-- The list cut into pieces of `n`, the last one perhaps shorter. -/
def chunks {α : Type} (n : Nat) (xs : List α) : List (List α) :=
  if n = 0 ∨ xs = [] then [] else xs.take n :: chunks n (xs.drop n)
termination_by xs.length
decreasing_by
  rename_i cut
  have some_left : 0 < xs.length := List.length_pos_iff.mpr fun empty => cut (.inr empty)
  have some_taken : n ≠ 0 := fun none => cut (.inl none)
  rw [List.length_drop]
  omega

/-- The number that bytes make, the first one the least significant. -/
def littleEndian : List UInt8 → Nat
  | [] => 0
  | b :: bytes => b.toNat + 256 * littleEndian bytes

/-- The number that bytes make, the first one the most significant. -/
def bigEndian (bytes : List UInt8) : Nat := littleEndian bytes.reverse

/-- The lowest `count` bytes of a number, the least significant first. -/
def toLittleEndian : (count n : Nat) → List UInt8
  | 0, _ => []
  | count + 1, n => UInt8.ofNat n :: toLittleEndian count (n / 256)

/-- The lowest `count` bytes of a number, the most significant first. -/
def toBigEndian (count n : Nat) : List UInt8 := (toLittleEndian count n).reverse

/-- A message filled up to whole blocks: the byte 0x80, zeros, and the number of bits of the message
in the last `lengthSize` bytes. -/
def padded (blockSize lengthSize : Nat) (encode : Nat → Nat → List UInt8) (message : List UInt8) :
    List UInt8 :=
  let surplus := (message.length + 1 + lengthSize) % blockSize
  let fill := if surplus = 0 then 0 else blockSize - surplus
  message ++ 0x80 :: (List.replicate fill 0 ++ encode lengthSize (8 * message.length))

/-- The two lowercase hexadecimal digits of each byte. -/
def hex (bytes : List UInt8) : String :=
  let digit (n : Nat) : Char := "0123456789abcdef".toList.getD n '0'
  String.ofList (bytes.flatMap fun b => [digit (b.toNat / 16), digit (b.toNat % 16)])

def rotateLeft (x n : UInt32) : UInt32 := (x <<< n) ||| (x >>> (32 - n))

def rotateRight (x n : UInt32) : UInt32 := (x >>> n) ||| (x <<< (32 - n))

def rotateRight64 (x n : UInt64) : UInt64 := (x >>> n) ||| (x <<< (64 - n))

end Latchkey.Digest
