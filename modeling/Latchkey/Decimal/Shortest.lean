/-!
The shortest decimal that reads back as a given double.

A double stands for an interval of real numbers, those that round to it. Among the decimals in
that interval the fewest digits win, and of two with equally many digits the nearer one; of two that
are equally near, the one that the tie rule names. The search tests, for one digit, two digits and
so on, the two neighbours of the value on that decimal grid: if any point of a grid lies in the
interval, one of the two neighbours does.
-/

namespace Latchkey.Decimal

/-- The size of a double: `mantissa * 2 ^ exponent`. When `lowerHalf` holds, the next smaller
double is half as far away as the next larger one. -/
structure Binary where
  mantissa : Nat
  exponent : Int
  lowerHalf : Bool
deriving Repr, DecidableEq

/-- A decimal: `digits * 10 ^ exponent`. -/
structure Digits where
  digits : Nat
  exponent : Int
deriving Repr, DecidableEq

/-- Which of two neighbours on a grid a value in the middle goes to. -/
inductive Tie where
  | toEven
  | up
deriving Repr, DecidableEq

/-- Whether a value in the middle between `d` and `d + 1` goes to `d`. -/
def Tie.keeps (tie : Tie) (d : Nat) : Bool :=
  match tie with
  | .toEven => d % 2 == 0
  | .up => false

/-- The size of the finite double with these bits. -/
def Binary.ofBits (bits : UInt64) : Binary :=
  let fraction := (bits &&& 0xFFFFFFFFFFFFF).toNat
  let scale := ((bits >>> 52) &&& 0x7FF).toNat
  if scale = 0 then ⟨fraction, -1074, false⟩
  else ⟨fraction + 0x10000000000000, (scale : Int) - 1075, fraction == 0 && decide (1 < scale)⟩

namespace Binary

/-- Four times the mantissa, times this, over `denominator k`, is the value in units of `10 ^ k`. -/
def numerator (b : Binary) (k : Int) : Nat :=
  Nat.pow 2 (b.exponent - 2).toNat * Nat.pow 10 (-k).toNat

def denominator (b : Binary) (k : Int) : Nat :=
  Nat.pow 2 (2 - b.exponent).toNat * Nat.pow 10 k.toNat

/-- Whether `d * 10 ^ k` rounds to this double; the ends of the interval do when the mantissa is
even. -/
def covers (b : Binary) (k : Int) (d : Nat) : Bool :=
  let low := (4 * b.mantissa - if b.lowerHalf then 1 else 2) * b.numerator k
  let high := (4 * b.mantissa + 2) * b.numerator k
  let point := d * b.denominator k
  if b.mantissa % 2 = 0 then decide (low ≤ point) && decide (point ≤ high)
  else decide (low < point) && decide (point < high)

/-- The point of the grid `10 ^ k` that reads back as this double and lies nearest to it, if the
grid has one. Of two that are equally near, the tie rule picks one. -/
def onGrid (b : Binary) (tie : Tie) (k : Int) : Option Nat :=
  let value := 4 * b.mantissa * b.numerator k
  let d := value / b.denominator k
  let below := value - d * b.denominator k
  let above := (d + 1) * b.denominator k - value
  match b.covers k d, b.covers k (d + 1) with
  | true, true =>
    if below < above then some d
    else if above < below then some (d + 1)
    else if tie.keeps d then some d else some (d + 1)
  | true, false => some d
  | false, true => some (d + 1)
  | false, false => none

/-- The `e` for which the value of a nonzero double is at least `10 ^ e` and below
`10 ^ (e + 1)`. -/
def magnitude (b : Binary) : Int :=
  let num := 4 * b.mantissa * b.numerator 0
  let den := b.denominator 0
  let e : Int := (Nat.toDigits 10 num).length - (Nat.toDigits 10 den).length
  if den * Nat.pow 10 e.toNat ≤ num * Nat.pow 10 (-e).toNat then e else e - 1

/-- The shortest decimal that reads back as this nonzero double; seventeen digits always do. -/
def shortest (b : Binary) (tie : Tie) : Digits :=
  let e := b.magnitude
  let found := (List.range 17).findSome? fun (n : Nat) =>
    (b.onGrid tie (e - n)).map fun d => Digits.mk d (e - n)
  found.getD ⟨4 * b.mantissa * b.numerator (e - 16) / b.denominator (e - 16), e - 16⟩

end Binary
end Latchkey.Decimal
