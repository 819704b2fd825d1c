import Latchkey.Json.Value
import Latchkey.Decimal.Scaled

/-!
The tokens of a JSON text. Numbers and strings are read here; a text with a malformed one has no
tokens.
-/

namespace Latchkey.Json

/-- A token of a JSON text. -/
inductive Token where
  | openArray
  | closeArray
  | openObject
  | closeObject
  | comma
  | colon
  | text (s : String)
  /-- A number or one of the three words. -/
  | scalar (v : Json)

/-- A piece of a string: a character, or the number behind an escape with four digits. -/
inductive Piece where
  | char (c : Char)
  | code (n : Nat)
deriving Repr, DecidableEq

def hexValue? (c : Char) : Option Nat :=
  if c.isDigit then some (c.toNat - '0'.toNat)
  else if 'a' ≤ c ∧ c ≤ 'f' then some (c.toNat - 'a'.toNat + 10)
  else if 'A' ≤ c ∧ c ≤ 'F' then some (c.toNat - 'A'.toNat + 10)
  else none

/-- The number of four hexadecimal digits. -/
def code? (a b c d : Char) : Option Nat := do
  return ((← hexValue? a) * 16 + (← hexValue? b)) * 256 + ((← hexValue? c) * 16 + (← hexValue? d))

/-- The character that a backslash and this letter stand for. -/
def escaped? : Char → Option Char
  | '"' => some '"'
  | '\\' => some '\\'
  | '/' => some '/'
  | 'b' => some '\x08'
  | 'f' => some '\x0c'
  | 'n' => some '\n'
  | 'r' => some '\r'
  | 't' => some '\t'
  | _ => none

/-- The pieces of a string after its opening quote, and what follows the closing one. -/
def scanPieces : List Char → Option (List Piece × List Char)
  | [] => none
  | '"' :: rest => some ([], rest)
  | '\\' :: 'u' :: a :: b :: c :: d :: rest =>
    match code? a b c d, scanPieces rest with
    | some n, some (pieces, after) => some (.code n :: pieces, after)
    | _, _ => none
  | '\\' :: e :: rest =>
    match escaped? e, scanPieces rest with
    | some c, some (pieces, after) => some (.char c :: pieces, after)
    | _, _ => none
  | c :: rest =>
    if c.toNat < 0x20 ∨ c = '\\' then none
    else match scanPieces rest with
      | some (pieces, after) => some (.char c :: pieces, after)
      | none => none

def isHighSurrogate (n : Nat) : Bool := decide (0xD800 ≤ n) && decide (n < 0xDC00)

def isLowSurrogate (n : Nat) : Bool := decide (0xDC00 ≤ n) && decide (n < 0xE000)

/-- The characters of the pieces; a high surrogate and the low one after it make one character, and
neither may stand alone. -/
def joinPieces : List Piece → Option (List Char)
  | [] => some []
  | .char c :: rest => (joinPieces rest).map (c :: ·)
  | .code high :: .code low :: rest =>
    if isHighSurrogate high then
      if isLowSurrogate low then
        (joinPieces rest).map (Char.ofNat (0x10000 + (high - 0xD800) * 0x400 + (low - 0xDC00)) :: ·)
      else none
    else if isLowSurrogate high then none
    else (joinPieces (.code low :: rest)).map (Char.ofNat high :: ·)
  | .code n :: rest =>
    if isHighSurrogate n ∨ isLowSurrogate n then none
    else (joinPieces rest).map (Char.ofNat n :: ·)

theorem length_scanPieces {cs after : List Char} {pieces : List Piece}
    (h : scanPieces cs = some (pieces, after)) : after.length < cs.length := by
  fun_induction scanPieces cs generalizing pieces after with
  | case1 => cases h
  | case2 rest =>
    cases h
    exact Nat.lt_succ_self _
  | case3 a b c d rest n more left found _ ih =>
    cases h
    have shorter := ih found
    simp only [List.length_cons]
    omega
  | case4 => cases h
  | case5 e rest _ c more left found _ ih =>
    cases h
    have shorter := ih found
    simp only [List.length_cons]
    omega
  | case6 => cases h
  | case7 => cases h
  | case8 c rest _ _ _ _ more left found ih =>
    cases h
    have shorter := ih found
    simp only [List.length_cons]
    omega
  | case9 => cases h

/-- The value of a number in its parts. An integer that does not fit 64 bits is read as a double,
and so is a negative zero. -/
def number? (negative : Bool) (whole : List Char) (fraction : Option (List Char))
    (exponent : Option Int) : Option Json :=
  let double := (Decimal.double? whole (fraction.getD []) (exponent.getD 0)).map fun x =>
    Json.float (if negative then -x else x)
  if fraction.isSome || exponent.isSome then double
  else
    let n := whole.foldl (fun n c => n * 10 + Decimal.digitValue c) 0
    if negative then
      if 0 < n ∧ n ≤ Word.signedEnd then some (.int (-n)) else double
    else if n < Word.unsignedEnd then some (.int n) else double

/-- Digits after a point, at least one, and the rest of the text. -/
def scanFraction : List Char → Option (Option (List Char) × List Char)
  | '.' :: rest =>
    let digits := rest.takeWhile Char.isDigit
    if digits.isEmpty then none else some (some digits, rest.dropWhile Char.isDigit)
  | cs => some (none, cs)

/-- Digits of an exponent after its sign, at least one, and the rest of the text. -/
def scanExponentDigits (negative : Bool) (cs : List Char) : Option (Option Int × List Char) :=
  let digits := cs.takeWhile Char.isDigit
  let n : Nat := digits.foldl (fun n c => n * 10 + Decimal.digitValue c) 0
  if digits.isEmpty then none
  else some (some (if negative then -(n : Int) else n), cs.dropWhile Char.isDigit)

/-- An exponent, if there is one, and the rest of the text. -/
def scanExponent : List Char → Option (Option Int × List Char)
  | c :: rest =>
    if c = 'e' ∨ c = 'E' then
      match rest with
      | '+' :: digits => scanExponentDigits false digits
      | '-' :: digits => scanExponentDigits true digits
      | digits => scanExponentDigits false digits
    else some (none, c :: rest)
  | [] => some (none, [])

/-- A number after its sign, and the rest of the text. -/
def scanNumber (negative : Bool) (cs : List Char) : Option (Json × List Char) :=
  let whole := cs.takeWhile Char.isDigit
  if whole.isEmpty || (whole.head? == some '0' && decide (1 < whole.length)) then none
  else do
    let (fraction, afterFraction) ← scanFraction (cs.dropWhile Char.isDigit)
    let (exponent, rest) ← scanExponent afterFraction
    let value ← number? negative whole fraction exponent
    return (value, rest)

theorem length_scanFraction {cs rest : List Char} {f : Option (List Char)}
    (h : scanFraction cs = some (f, rest)) : rest.length ≤ cs.length := by
  unfold scanFraction at h
  dsimp only at h
  split at h
  · next digits =>
    split at h
    · cases h
    · cases h
      have left := (List.dropWhile_suffix (l := digits) Char.isDigit).length_le
      exact Nat.le_succ_of_le left
  · cases h
    exact Nat.le_refl _

theorem length_scanExponentDigits {negative : Bool} {cs rest : List Char} {e : Option Int}
    (h : scanExponentDigits negative cs = some (e, rest)) : rest.length ≤ cs.length := by
  unfold scanExponentDigits at h
  dsimp only at h
  split at h
  · cases h
  · cases h
    exact (List.dropWhile_suffix Char.isDigit).length_le

theorem length_scanExponent {cs rest : List Char} {e : Option Int}
    (h : scanExponent cs = some (e, rest)) : rest.length ≤ cs.length := by
  unfold scanExponent at h
  split at h
  · split at h
    · split at h
      · have left := length_scanExponentDigits h
        simp only [List.length_cons]
        omega
      · have left := length_scanExponentDigits h
        simp only [List.length_cons]
        omega
      · exact Nat.le_succ_of_le (length_scanExponentDigits h)
    · cases h
      exact Nat.le_refl _
  · cases h
    exact Nat.le_refl _

theorem length_scanNumber {negative : Bool} {cs rest : List Char} {v : Json}
    (h : scanNumber negative cs = some (v, rest)) : rest.length < cs.length := by
  unfold scanNumber at h
  dsimp only at h
  split at h
  · cases h
  · next whole =>
    simp only [Option.bind_eq_bind, Option.bind_eq_some_iff] at h
    obtain ⟨⟨fraction, after⟩, scanned, ⟨exponent, left⟩, scanned', value, -, same⟩ := h
    cases same
    have taken : 0 < (cs.takeWhile Char.isDigit).length := by
      rw [List.length_pos_iff]
      intro empty
      simp [empty] at whole
    have parts : (cs.takeWhile Char.isDigit).length + (cs.dropWhile Char.isDigit).length =
        cs.length := by
      rw [← List.length_append, List.takeWhile_append_dropWhile]
    have behind_whole : after.length ≤ (cs.dropWhile Char.isDigit).length :=
      length_scanFraction scanned
    have behind_fraction : left.length ≤ after.length := length_scanExponent scanned'
    dsimp only
    omega

/-- The blanks between tokens. -/
def isSpace (c : Char) : Bool := c == ' ' || c == '\t' || c == '\n' || c == '\r'

/-- The tokens of a text. -/
def tokens : List Char → Option (List Token)
  | [] => some []
  | 't' :: 'r' :: 'u' :: 'e' :: rest => (tokens rest).map (.scalar (.bool true) :: ·)
  | 'f' :: 'a' :: 'l' :: 's' :: 'e' :: rest => (tokens rest).map (.scalar (.bool false) :: ·)
  | 'n' :: 'u' :: 'l' :: 'l' :: rest => (tokens rest).map (.scalar .null :: ·)
  | c :: rest =>
    if isSpace c then tokens rest
    else if c = '[' then (tokens rest).map (.openArray :: ·)
    else if c = ']' then (tokens rest).map (.closeArray :: ·)
    else if c = '\x7b' then (tokens rest).map (.openObject :: ·)
    else if c = '\x7d' then (tokens rest).map (.closeObject :: ·)
    else if c = ',' then (tokens rest).map (.comma :: ·)
    else if c = ':' then (tokens rest).map (.colon :: ·)
    else if c = '"' then
      match h : scanPieces rest with
      | none => none
      | some (pieces, after) =>
        have := length_scanPieces h
        match joinPieces pieces with
        | none => none
        | some text => (tokens after).map (.text (String.ofList text) :: ·)
    else if c = '-' then
      match h : scanNumber true rest with
      | none => none
      | some (value, after) =>
        have := length_scanNumber h
        (tokens after).map (.scalar value :: ·)
    else if c.isDigit then
      match h : scanNumber false (c :: rest) with
      | none => none
      | some (value, after) =>
        have := length_scanNumber h
        (tokens after).map (.scalar value :: ·)
    else none
termination_by cs => cs.length
decreasing_by
  all_goals
    simp only [List.length_cons] at *
    omega

end Latchkey.Json
