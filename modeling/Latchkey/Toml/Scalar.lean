import Latchkey.Toml.Value

namespace Latchkey.Toml

def isHexDigit (c : Char) : Bool :=
  c.isDigit || (decide ('a' ≤ c) && decide (c ≤ 'f')) || (decide ('A' ≤ c) && decide (c ≤ 'F'))

def hexDigitValue (c : Char) : Nat :=
  if c.isDigit then c.toNat - '0'.toNat
  else if 'a' ≤ c then c.toNat - 'a'.toNat + 10
  else c.toNat - 'A'.toNat + 10

/-- The number that digits of a base make. -/
def numberOf (base : Nat) (digits : List Char) : Nat :=
  digits.foldl (fun n c => n * base + hexDigitValue c) 0

def isDigitOf (base : Nat) (c : Char) : Bool := isHexDigit c && decide (hexDigitValue c < base)

/-- A sign, if there is one: whether it is a minus, and the rest. -/
def splitSign : List Char → Bool × List Char
  | '+' :: cs => (false, cs)
  | '-' :: cs => (true, cs)
  | cs => (false, cs)

/-! ## Underscores

A number may have single underscores between its digits. Where they stand is looked at alone, apart
from what else the number holds: the characters before an underscore and behind it must be digits.
-/

/-- Whether all underscores of a number stand between digits. -/
def underscoresFit (isDigit : Char → Bool) (cs : List Char) : Bool :=
  let groups := cs.splitOn '_'
  !cs.contains '_' ||
    (groups.all (fun g => !g.isEmpty) && groups.tail.all (fun g => g.head?.all isDigit) &&
      groups.dropLast.all fun g => g.getLast?.all isDigit)

def dropUnderscores (cs : List Char) : List Char := cs.filter (· != '_')

/-- Whether 128 bits hold an integer, with a sign or without. -/
def fitsInteger (n : Int) : Bool :=
  decide (-((Nat.pow 2 127 : Nat) : Int) ≤ n) && decide (n < (Nat.pow 2 128 : Nat))

/-- The integer with these digits and underscores, if they are digits of the base and 128 bits
hold it. -/
def integer? (base : Nat) (negative : Bool) (cs : List Char) : Option Int :=
  let digits := dropUnderscores cs
  let n : Int := if negative then -(numberOf base digits : Int) else numberOf base digits
  if !digits.isEmpty && digits.all (isDigitOf base) && fitsInteger n then some n else none

/-- The integer that a text stands for. -/
def integerValue (text : List Char) (n : Option Int) : Value :=
  match n with
  | some n => .int n
  | none => .unusable (String.ofList text)

/-- An integer in another base than ten, with these digits and underscores, or none of them, behind
the mark of the base. -/
def based? (text : List Char) (base : Nat) (cs : List Char) : Option Value :=
  if (dropUnderscores cs).all (isDigitOf base) && underscoresFit isHexDigit cs then
    some (integerValue text (integer? base false cs))
  else none

/-- Whether a decimal number begins with a zero that is not the whole number. -/
def hasLeadingZero (cs : List Char) : Bool := cs.head? == some '0' && decide (1 < cs.length)

/-- A decimal integer with this sign and with these characters behind it. Whether all of them are
decimal digits does not matter here: if they are not, nobody can read the number. -/
def decimalInteger? (text : List Char) (negative : Bool) (cs : List Char) : Option Value :=
  if !cs.isEmpty && !hasLeadingZero cs && underscoresFit isHexDigit text then
    some (integerValue text (integer? 10 negative cs))
  else none

/-- Whether `digits * 10 ^ exponent` is so large that no double is near it: `2 ^ 1024` is as near as
the largest double, or nearer. -/
def overflows (digits : Nat) (exponent : Int) : Bool :=
  let beforePoint := (Nat.toDigits 10 digits).length + exponent
  if digits = 0 ∨ beforePoint < 309 then false
  else if 309 < beforePoint then true
  else decide ((Nat.pow 2 1024 - Nat.pow 2 970) * Nat.pow 10 (-exponent).toNat ≤
    digits * Nat.pow 10 exponent.toNat)

/-- The digits in a run of digits and underscores at the start of a text, and the rest, if there is
a digit. -/
def takeDigits (cs : List Char) : Option (List Char × List Char) :=
  let inRun (c : Char) : Bool := c.isDigit || c == '_'
  let digits := dropUnderscores (cs.takeWhile inRun)
  if digits.isEmpty then none else some (digits, cs.dropWhile inRun)

/-- The digits behind a point at the start of a text, and the rest; no digits without a point. -/
def takeFraction : List Char → Option (List Char × List Char)
  | '.' :: cs => takeDigits cs
  | cs => some ([], cs)

/-- The exponent behind its mark at the start of a text, and the rest; zero without a mark. -/
def takeExponent (cs : List Char) : Option (Int × List Char) :=
  match cs with
  | [] => some (0, [])
  | c :: rest =>
    if c == 'e' || c == 'E' then
      let (negative, rest) := splitSign rest
      (takeDigits rest).map fun (ds, rest) =>
        (if negative then -(numberOf 10 ds : Int) else numberOf 10 ds, rest)
    else some (0, c :: rest)

/-- The digits and the exponent of a decimal number without its sign. -/
def decimal? (cs : List Char) : Option (Nat × Int) := do
  let (whole, rest) ← takeDigits cs
  let (fraction, rest) ← takeFraction rest
  let (exponent, rest) ← takeExponent rest
  if (cs.head? == some '0' && decide (1 < whole.length)) || !rest.isEmpty then none
  else some (numberOf 10 (whole ++ fraction), exponent - fraction.length)

/-- A float with these characters behind its sign. -/
def float? (text : List Char) (cs : List Char) : Option Value :=
  match decimal? cs with
  | none => none
  | some (digits, exponent) =>
    if !underscoresFit Char.isDigit text then none
    else if overflows digits exponent then some (.unusable (String.ofList text))
    else some (.float (String.ofList text))

/-- The number of exactly these digits. -/
def fixed? (count : Nat) (cs : List Char) : Option Nat :=
  if cs.length = count ∧ cs.all Char.isDigit then some (numberOf 10 cs) else none

def daysIn (year month : Nat) : Nat :=
  if month = 2 then if (year % 4 = 0 ∧ year % 100 ≠ 0) ∨ year % 400 = 0 then 29 else 28
  else if month = 4 ∨ month = 6 ∨ month = 9 ∨ month = 11 then 30
  else 31

/-- A date of the calendar: `1979-05-27`. -/
def isDate (cs : List Char) : Bool :=
  match cs.splitOn '-' with
  | [y, m, d] =>
    match fixed? 4 y, fixed? 2 m, fixed? 2 d with
    | some y, some m, some d =>
      decide (1 ≤ m) && decide (m ≤ 12) && decide (1 ≤ d) && decide (d ≤ daysIn y m)
    | _, _, _ => false
  | _ => false

/-- A number of exactly two digits, at most `most`. -/
def isPart (most : Nat) (cs : List Char) : Bool :=
  match fixed? 2 cs with
  | some n => decide (n ≤ most)
  | none => false

/-- A time of the day: `07:32`, `07:32:00`, `07:32:00.999`. -/
def isTime (cs : List Char) : Bool :=
  match cs.splitOn ':' with
  | [h, m] => isPart 23 h && isPart 59 m
  | [h, m, s] =>
    isPart 23 h && isPart 59 m && isPart 60 (s.take 2) &&
      match s.drop 2 with
      | [] => true
      | '.' :: ds => !ds.isEmpty && ds.all Char.isDigit
      | _ => false
  | _ => false

/-- A time with or without its distance from universal time. -/
def isTimeWithOffset (cs : List Char) : Bool :=
  let time := cs.takeWhile fun c => c.isDigit || c == ':' || c == '.'
  let offset := cs.drop time.length
  isTime time &&
    match offset with
    | [] => true
    | ['Z'] => true
    | ['z'] => true
    | sign :: rest =>
      (sign == '+' || sign == '-') &&
        match rest.splitOn ':' with
        | [h, m] => isPart 23 h && isPart 59 m
        | _ => false

/-- Whether the text is a time, a date, or a date and a time. -/
def isMoment (cs : List Char) : Bool :=
  isTime cs || isDate cs ||
    (isDate (cs.take 10) &&
      match cs.drop 10 with
      | 'T' :: time => isTimeWithOffset time
      | 't' :: time => isTimeWithOffset time
      | ' ' :: time => isTimeWithOffset time
      | _ => false)

/-- What tells a float from an integer. -/
def isFloatMark (c : Char) : Bool := c == '.' || c == 'e' || c == 'E'

/-- A number or a moment that begins with decimal digits. Behind them a line or a colon belongs to
a moment, and elsewhere a point or the mark of an exponent makes a float. -/
def decimalOrMoment? (text : List Char) : Option Value :=
  let (negative, body) := splitSign text
  match body.dropWhile Char.isDigit with
  | [] => decimalInteger? text negative body
  | c :: rest =>
    if c == '-' || c == ':' then
      if isMoment text then some (.date (String.ofList text)) else none
    else if (c :: rest).any isFloatMark then float? text body
    else if c == '_' then decimalInteger? text negative body
    else none

/-- The value of a run of characters. -/
def scalar? (cs : List Char) : Option Value :=
  let (_, body) := splitSign cs
  if cs = "true".toList then some (.bool true)
  else if cs = "false".toList then some (.bool false)
  else if body = "inf".toList ∨ body = "nan".toList then some (.float (String.ofList cs))
  else match cs with
    | '0' :: 'x' :: ds => based? cs 16 ds
    | '0' :: 'o' :: ds => based? cs 8 ds
    | '0' :: 'b' :: ds => based? cs 2 ds
    | _ => decimalOrMoment? cs

/-- The characters that do not end a scalar. -/
def inScalar (c : Char) : Bool := !(" \t\r\n#=,[]\x7b\x7d".toList.contains c)

/-- A run of characters at the start of a text, and the rest. A date may have a time after a
single blank. -/
def takeScalar (cs : List Char) : List Char × List Char :=
  let run := cs.takeWhile inScalar
  let rest := cs.dropWhile inScalar
  match rest with
  | ' ' :: c :: more =>
    if isDate run && c.isDigit then
      (run ++ ' ' :: (c :: more).takeWhile inScalar, (c :: more).dropWhile inScalar)
    else (run, rest)
  | _ => (run, rest)

end Latchkey.Toml
