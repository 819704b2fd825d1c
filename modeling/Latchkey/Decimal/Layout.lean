import Latchkey.Decimal.Shortest

namespace Latchkey.Decimal

/-- How the digits of a double are laid out: positional when the exponent of the first digit lies
in `smallest .. largest`, and otherwise with an exponent. -/
structure Layout where
  smallest : Int
  largest : Int
  /-- A whole number ends in `.0`. -/
  wholePoint : Bool
  /-- A positive exponent carries a plus sign. -/
  plusSign : Bool
  /-- Which of two shortest decimals is taken that are equally near. -/
  tie : Tie

/-- Numbers in structured text. -/
def Layout.document : Layout := ⟨-5, 15, true, true, .toEven⟩

/-- Numbers in a line of the log. -/
def Layout.logLine : Layout := ⟨-4, 15, true, false, .up⟩

/-- Seconds in a key: never with an exponent, and no point in a whole number. -/
def Layout.seconds : Layout := ⟨-400, 400, false, false, .up⟩

def zeros (n : Nat) : List Char := List.replicate n '0'

/-- The digits without the zeros they end in, and the exponent that makes up for them. -/
def Digits.normalised (d : Digits) : List Char × Int :=
  let written := Nat.toDigits 10 d.digits
  let kept := (written.reverse.dropWhile (· == '0')).reverse
  (kept, d.exponent + (written.length - kept.length : Nat))

/-- Digits with a point in their place. -/
def Layout.positional (l : Layout) (digits : List Char) (exponent : Int) : List Char :=
  let first := exponent + digits.length - 1
  if 0 ≤ exponent then
    digits ++ zeros exponent.toNat ++ (if l.wholePoint then ['.', '0'] else [])
  else if 0 ≤ first then
    digits.take (first.toNat + 1) ++ '.' :: digits.drop (first.toNat + 1)
  else '0' :: '.' :: (zeros (-first - 1).toNat ++ digits)

/-- One digit, the other digits after a point, and the exponent of the first digit. -/
def Layout.scientific (l : Layout) (digits : List Char) (exponent : Int) : List Char :=
  let first := exponent + digits.length - 1
  let mantissa := match digits with
    | d :: e :: rest => d :: '.' :: e :: rest
    | short => short
  let sign := if first < 0 then ['-'] else if l.plusSign then ['+'] else []
  mantissa ++ 'e' :: (sign ++ Nat.toDigits 10 first.natAbs)

/-- A finite double in its shortest digits. -/
def Layout.render (l : Layout) (x : Float) : String :=
  let bits := x.toBits
  let sign := if bits >>> 63 = 0 then [] else ['-']
  let size := Binary.ofBits bits
  if size.mantissa = 0 then
    String.ofList (sign ++ '0' :: (if l.wholePoint then ['.', '0'] else []))
  else
    let (digits, exponent) := (size.shortest l.tie).normalised
    let first := exponent + digits.length - 1
    if l.smallest ≤ first ∧ first ≤ l.largest then
      String.ofList (sign ++ l.positional digits exponent)
    else String.ofList (sign ++ l.scientific digits exponent)

end Latchkey.Decimal
