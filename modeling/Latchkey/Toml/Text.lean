import Latchkey.Toml.Scalar

namespace Latchkey.Toml

/-- Whether a character may stand in a document as it is, outside a line break. -/
def isPlain (c : Char) : Bool := c == '\t' || (decide (0x20 ≤ c.toNat) && c != '\x7f')

def isBlank (c : Char) : Bool := c == ' ' || c == '\t'

/-- The number of the next `count` hexadecimal digits, and the rest. -/
def takeHex : (count : Nat) → (n : Nat) → List Char → Option (Nat × List Char)
  | 0, n, cs => some (n, cs)
  | count + 1, n, c :: cs =>
    if isHexDigit c then takeHex count (n * 16 + hexDigitValue c) cs else none
  | _ + 1, _, [] => none

/-- The character with this number, if there is one. -/
def charOf? (n : Nat) : Option Char := if n.isValidChar then some (Char.ofNat n) else none

/-- The character with a number in `count` hexadecimal digits, and the rest. -/
def takeCode (count : Nat) (cs : List Char) : Option (Char × List Char) :=
  (takeHex count 0 cs).bind fun (n, rest) => (charOf? n).map fun c => (c, rest)

/-- The character behind a backslash, and the rest. -/
def takeEscape : List Char → Option (Char × List Char)
  | 'b' :: cs => some ('\x08', cs)
  | 't' :: cs => some ('\t', cs)
  | 'n' :: cs => some ('\n', cs)
  | 'f' :: cs => some ('\x0c', cs)
  | 'r' :: cs => some ('\r', cs)
  | 'e' :: cs => some ('\x1b', cs)
  | '"' :: cs => some ('"', cs)
  | '\\' :: cs => some ('\\', cs)
  | 'x' :: cs => takeCode 2 cs
  | 'u' :: cs => takeCode 4 cs
  | 'U' :: cs => takeCode 8 cs
  | _ => none

theorem length_takeHex {count n m : Nat} {cs rest : List Char}
    (h : takeHex count n cs = some (m, rest)) : rest.length ≤ cs.length := by
  fun_induction takeHex count n cs with
  | case1 =>
    cases h
    exact Nat.le_refl _
  | case2 _ _ _ _ _ ih => exact Nat.le_succ_of_le (ih h)
  | case3 => cases h
  | case4 => cases h

theorem length_takeCode {count : Nat} {cs rest : List Char} {c : Char}
    (h : takeCode count cs = some (c, rest)) : rest.length ≤ cs.length := by
  unfold takeCode at h
  simp only [Option.bind_eq_some_iff, Option.map_eq_some_iff] at h
  obtain ⟨⟨n, left⟩, taken, c, -, same⟩ := h
  cases same
  exact length_takeHex taken

theorem length_takeEscape {cs rest : List Char} {c : Char}
    (h : takeEscape cs = some (c, rest)) : rest.length < cs.length := by
  unfold takeEscape at h
  split at h
  -- a letter stands for one character, three of them open a number, and no other one is allowed
  iterate 8
    · cases h
      exact Nat.lt_succ_self _
  iterate 3
    · exact Nat.lt_succ_of_le (length_takeCode h)
  · cases h

/-- A string on one line with escapes, after its opening quote, and what follows it. -/
def basicText : List Char → Option (List Char × List Char)
  | [] => none
  | '"' :: rest => some ([], rest)
  | '\\' :: rest =>
    match h : takeEscape rest with
    | none => none
    | some (c, after) =>
      have := length_takeEscape h
      (basicText after).map fun (text, tail) => (c :: text, tail)
  | c :: rest =>
    if isPlain c then (basicText rest).map fun (text, tail) => (c :: text, tail) else none
termination_by cs => cs.length
decreasing_by
  · exact Nat.lt_succ_of_lt this
  · exact Nat.lt_succ_self _

/-- A string on one line as it stands, after its opening quote, and what follows it. -/
def literalText : List Char → Option (List Char × List Char)
  | [] => none
  | '\'' :: rest => some ([], rest)
  | c :: rest =>
    if isPlain c then (literalText rest).map fun (text, tail) => (c :: text, tail) else none

/-- What follows a line break, if the text begins with one. -/
def afterBreak? : List Char → Option (List Char)
  | '\n' :: rest => some rest
  | '\r' :: '\n' :: rest => some rest
  | _ => none

/-- A text without one line break at its start. -/
def dropBreak (cs : List Char) : List Char := (afterBreak? cs).getD cs

/-- A text without the blanks and line breaks at its start. -/
def dropSpace : List Char → List Char
  | '\r' :: '\n' :: rest => dropSpace rest
  | c :: rest => if isBlank c || c == '\n' then dropSpace rest else c :: rest
  | [] => []

/-- A backslash at the end of a line takes away the line break and all blanks and line breaks after
it: the rest behind them, if the text after the backslash begins so. -/
def afterLineEnd? (cs : List Char) : Option (List Char) :=
  (afterBreak? (cs.dropWhile isBlank)).map dropSpace

theorem length_dropSpace (cs : List Char) : (dropSpace cs).length ≤ cs.length := by
  fun_induction dropSpace cs with
  | case1 _ ih =>
    simp only [List.length_cons]
    omega
  | case2 _ _ _ _ ih => exact Nat.le_succ_of_le ih
  | case3 => exact Nat.le_refl _
  | case4 => exact Nat.le_refl _

theorem length_afterBreak? {cs rest : List Char} (h : afterBreak? cs = some rest) :
    rest.length < cs.length := by
  unfold afterBreak? at h
  split at h
  · cases h
    exact Nat.lt_succ_self _
  · cases h
    simp only [List.length_cons]
    omega
  · cases h

theorem length_afterLineEnd? {cs rest : List Char} (h : afterLineEnd? cs = some rest) :
    rest.length < cs.length := by
  unfold afterLineEnd? at h
  rw [Option.map_eq_some_iff] at h
  obtain ⟨after, broken, rfl⟩ := h
  have blanks := (List.dropWhile_suffix (l := cs) isBlank).length_le
  have line := length_afterBreak? broken
  have space := length_dropSpace after
  omega

/-- How a run of quotes in a string with three quotes goes on. -/
inductive QuoteRun where
  /-- Fewer than three quotes: they belong to the text. -/
  | inText (count : Nat)
  /-- The string ends; up to two quotes before the last three belong to the text. -/
  | closing (count : Nat)
  /-- Too many quotes. -/
  | tooMany

def quoteRun (count : Nat) : QuoteRun :=
  if count < 3 then .inText count else if count ≤ 5 then .closing (count - 3) else .tooMany

/-- The line break or the character at the start of a string over several lines. -/
def takeLineChar : List Char → Option (List Char × List Char)
  | '\n' :: rest => some (['\n'], rest)
  | '\r' :: '\n' :: rest => some (['\r', '\n'], rest)
  | c :: rest => if isPlain c then some ([c], rest) else none
  | [] => none

theorem length_takeLineChar {cs text rest : List Char} (h : takeLineChar cs = some (text, rest)) :
    rest.length < cs.length := by
  unfold takeLineChar at h
  split at h
  · cases h
    exact Nat.lt_succ_self _
  · cases h
    simp only [List.length_cons]
    omega
  · split at h
    · cases h
      exact Nat.lt_succ_self _
    · cases h
  · cases h

/-- A string over several lines after its opening quotes, and what follows it. With `escapes` a
backslash begins an escape. -/
def longText (quote : Char) (escapes : Bool) (cs : List Char) : Option (List Char × List Char) :=
  match cs with
  | [] => none
  | c :: rest =>
    if c = quote then
      let more := rest.takeWhile (· == quote)
      let after := rest.dropWhile (· == quote)
      match quoteRun (more.length + 1) with
      | .inText n =>
        (longText quote escapes after).map fun (text, tail) =>
          (List.replicate n quote ++ text, tail)
      | .closing n => some (List.replicate n quote, after)
      | .tooMany => none
    else if escapes && c == '\\' then
      match h : afterLineEnd? rest with
      | some after =>
        have := length_afterLineEnd? h
        longText quote escapes after
      | none =>
        match h' : takeEscape rest with
        | none => none
        | some (e, after) =>
          have := length_takeEscape h'
          (longText quote escapes after).map fun (text, tail) => (e :: text, tail)
    else match h : takeLineChar (c :: rest) with
      | none => none
      | some (taken, after) =>
        have := length_takeLineChar h
        (longText quote escapes after).map fun (text, tail) => (taken ++ text, tail)
termination_by cs.length
decreasing_by
  · exact Nat.lt_succ_of_le (List.dropWhile_suffix _).length_le
  · exact Nat.lt_succ_of_lt this
  · exact Nat.lt_succ_of_lt this
  · exact this

/-- A string at the start of a text, and what follows it; nothing if no string stands there. -/
def takeText : List Char → Option (List Char × List Char)
  | '"' :: '"' :: '"' :: rest => longText '"' true (dropBreak rest)
  | '\'' :: '\'' :: '\'' :: rest => longText '\'' false (dropBreak rest)
  | '"' :: rest => basicText rest
  | '\'' :: rest => literalText rest
  | _ => none

end Latchkey.Toml
