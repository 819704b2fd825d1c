import Latchkey.Word

/-!
A written number read as a double: the digits that fit 64 bits as a whole number, scaled by a
power of ten in double arithmetic.
-/

namespace Latchkey.Decimal

/-- The largest power of ten below the largest double. -/
def topPower : Nat := 308

/-- A power of ten as the nearest double, for exponents up to `topPower`. -/
def powerOfTen (n : Nat) : Float := Float.ofScientific 1 false n

/-- `x / 10 ^ n`, dividing by `10 ^ topPower` as long as `n` is larger than that; a zero stays. -/
def scaleDown (x : Float) (n : Nat) : Float :=
  if n ≤ topPower then x / powerOfTen n
  else if x == 0.0 then x
  else scaleDown (x / powerOfTen topPower) (n - topPower)
termination_by n
decreasing_by
  simp only [topPower] at *
  omega

/-- `significand * 10 ^ exponent`, or nothing if that is too large for a double. -/
def scaled? (significand : Nat) (exponent : Int) : Option Float :=
  let x := significand.toUInt64.toFloat
  if exponent < 0 then some (scaleDown x exponent.natAbs)
  else if exponent.natAbs ≤ topPower then
    let y := x * powerOfTen exponent.natAbs
    if y.isInf then none else some y
  else if x == 0.0 then some x else none

/-- A run of digits: the number they make, as far as it fits 64 bits. -/
structure Significand where
  value : Nat
  /-- Digits that are left out. -/
  dropped : Nat
  /-- Digits that are taken in. -/
  taken : Nat

/-- One more digit; from the first digit that does not fit on, all are left out. -/
def Significand.push (s : Significand) (digit : Nat) : Significand :=
  if s.dropped = 0 ∧ s.value * 10 + digit < Word.unsignedEnd then
    { s with value := s.value * 10 + digit, taken := s.taken + 1 }
  else { s with dropped := s.dropped + 1 }

def digitValue (c : Char) : Nat := c.toNat - '0'.toNat

/-- The significand with these digits taken in as far as they fit. -/
def Significand.pushAll (s : Significand) (digits : List Char) : Significand :=
  digits.foldl (fun s c => s.push (digitValue c)) s

/-- The double written as whole digits, digits after the point and an exponent. After a whole part
that is already too long, digits after the point are still taken as far as they fit. -/
def double? (whole fraction : List Char) (exponent : Int) : Option Float :=
  let w := Significand.pushAll ⟨0, 0, 0⟩ whole
  let f := Significand.pushAll ⟨w.value, 0, 0⟩ fraction
  scaled? f.value ((w.dropped : Int) - f.taken + exponent)

end Latchkey.Decimal
