/-!
Base64 without padding, in its two alphabets. Reading is strict: only symbols of the alphabet, no
symbol left over, and unused bits zero, so each text is the written form of at most one byte string.
-/

namespace Latchkey.Base64

/-- The two alphabets differ in their last two symbols. -/
inductive Alphabet where
  | standard
  | urlSafe
deriving Repr, DecidableEq

/-- The symbols in the order of their values. -/
def Alphabet.symbols (a : Alphabet) : List Char :=
  "ABCDEFGHIJKLMNOPQRSTUVWXYZabcdefghijklmnopqrstuvwxyz0123456789".toList ++
    match a with
    | .standard => ['+', '/']
    | .urlSafe => ['-', '_']

/-- The symbol of a value below 64. -/
def Alphabet.symbol (a : Alphabet) (n : Nat) : Char := a.symbols.getD n 'A'

/-- The value of a symbol. -/
def Alphabet.value? (a : Alphabet) (c : Char) : Option Nat :=
  if 'A' ≤ c ∧ c ≤ 'Z' then some (c.toNat - 'A'.toNat)
  else if 'a' ≤ c ∧ c ≤ 'z' then some (c.toNat - 'a'.toNat + 26)
  else if c.isDigit then some (c.toNat - '0'.toNat + 52)
  else match a, c with
    | .standard, '+' | .urlSafe, '-' => some 62
    | .standard, '/' | .urlSafe, '_' => some 63
    | _, _ => none

/-- The six-bit values of a byte string; the last one is filled up with zero bits. -/
def split : List UInt8 → List Nat
  | a :: b :: c :: rest =>
    a.toNat / 4 :: (a.toNat % 4 * 16 + b.toNat / 16) :: (b.toNat % 16 * 4 + c.toNat / 64) ::
      c.toNat % 64 :: split rest
  | [a, b] => [a.toNat / 4, a.toNat % 4 * 16 + b.toNat / 16, b.toNat % 16 * 4]
  | [a] => [a.toNat / 4, a.toNat % 4 * 16]
  | [] => []

/-- The bytes of six-bit values. A single value left over holds no byte, and the bits of the last
value that belong to no byte have to be zero. -/
def join? : List Nat → Option (List UInt8)
  | a :: b :: c :: d :: rest =>
    (join? rest).map fun bytes =>
      UInt8.ofNat (a * 4 + b / 16) :: UInt8.ofNat (b % 16 * 16 + c / 4) ::
        UInt8.ofNat (c % 4 * 64 + d) :: bytes
  | [a, b, c] =>
    if c % 4 = 0 then some [UInt8.ofNat (a * 4 + b / 16), UInt8.ofNat (b % 16 * 16 + c / 4)]
    else none
  | [a, b] => if b % 16 = 0 then some [UInt8.ofNat (a * 4 + b / 16)] else none
  | [_] => none
  | [] => some []

/-- The written form of a byte string. -/
def encode (a : Alphabet) (bytes : List UInt8) : List Char := (split bytes).map a.symbol

/-- The byte string that a text is the written form of. -/
def decode? (a : Alphabet) (text : List Char) : Option (List UInt8) :=
  (text.mapM a.value?).bind join?

end Latchkey.Base64
