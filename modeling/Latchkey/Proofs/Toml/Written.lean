import Latchkey.Proofs.Text
import Latchkey.Toml.Printer
import Latchkey.Toml.Parser
import Latchkey.Word

/-!
The texts that strings, numbers and truth values are written as, read at the end of a line. A string
without control characters and single quotes is written as it stands, between the one kind of quotes
or the other.
-/

namespace Latchkey.Toml

/-- The text stands for the value wherever the line ends behind it. -/
structure Written (text : List Char) (v : Value) : Prop where
  begins : ∃ c more, text = c :: more ∧ isBlank c = false
  value : ∀ fuel depth rest, takeValue (fuel + 1) depth (text ++ '\n' :: rest) =
    some (v, '\n' :: rest)

/-- The control characters of ASCII. -/
def isControl (c : Char) : Bool := decide (c.toNat < 0x20) || c == '\x7f'

/-- A text without control characters and single quotes. -/
def Simple (s : String) : Prop := ∀ c ∈ s.toList, isControl c = false ∧ c ≠ '\''

instance (s : String) : Decidable (Simple s) := List.decidableBAll _ s.toList

theorem ne_of_isControl {c d : Char} (plain : isControl c = false) (control : isControl d = true) :
    c ≠ d := by
  rintro rfl
  cases plain.symm.trans control

theorem isRefused_eq_false {c : Char} (plain : isControl c = false) : isRefused c = false := by
  simp only [isControl, Bool.or_eq_false_iff, decide_eq_false_iff_not, beq_eq_false_iff_ne] at plain
  simp [isRefused, plain.1, plain.2]

theorem isPlain_of_isControl {c : Char} (plain : isControl c = false) : isPlain c = true := by
  simp_all [isControl, isPlain]

theorem le_longestRun (c : Char) (run : Nat) (cs : List Char) : run ≤ longestRun c run cs := by
  induction cs generalizing run with
  | nil => exact Nat.le_refl run
  | cons d cs ih =>
    rw [longestRun]
    split
    · exact Nat.le_of_succ_le (ih (run + 1))
    · exact Nat.le_max_left _ _

theorem longestRun_eq_zero_iff {c : Char} {cs : List Char} : longestRun c 0 cs = 0 ↔ c ∉ cs := by
  induction cs with
  | nil => simp [longestRun]
  | cons d cs ih =>
    rw [longestRun, List.mem_cons]
    by_cases same : d = c
    · have counted := le_longestRun c (0 + 1) cs
      rw [if_pos same]
      simp only [same, true_or, not_true, iff_false]
      omega
    · rw [if_neg same, Nat.zero_max, ih]
      simp [Ne.symm same]

theorem escapeText_eq_self {cs : List Char}
    (clean : ∀ c ∈ cs, isControl c = false ∧ c ≠ '"' ∧ c ≠ '\\') :
    escapeText 0 false 0 cs = cs := by
  induction cs with
  | nil => rfl
  | cons c cs ih =>
    obtain ⟨plain, quote, backslash⟩ := clean c List.mem_cons_self
    have differs := fun d => ne_of_isControl (d := d) plain
    rw [escapeText, if_neg quote, if_neg (differs _ rfl), if_neg (differs _ rfl),
      if_neg (differs _ rfl), if_neg (differs _ rfl), if_neg (differs _ rfl), if_neg backslash,
      isRefused_eq_false plain, ih fun d among => clean d (List.mem_cons_of_mem c among)]
    rfl

/-- A string without double quotes and backslashes is written between double quotes, and any other
one between single quotes. -/
theorem printText_cases {s : String} (simple : Simple s) :
    (('"' ∉ s.toList ∧ '\\' ∉ s.toList) ∧ printText s = '"' :: (s.toList ++ ['"'])) ∨
      (s.toList ≠ [] ∧ printText s = '\'' :: (s.toList ++ ['\''])) := by
  have refused : s.toList.any isRefused = false := by
    rw [List.any_eq_false]
    intro c among
    rw [isRefused_eq_false (simple c among).1]
    exact Bool.false_ne_true
  have newline : '\n' ∉ s.toList := fun among => absurd (simple _ among).1 (by decide)
  have singles : longestRun '\'' 0 s.toList = 0 :=
    longestRun_eq_zero_iff.mpr fun among => (simple _ among).2 rfl
  by_cases clean : '"' ∉ s.toList ∧ '\\' ∉ s.toList
  · have doubles := longestRun_eq_zero_iff.mpr clean.1
    have style : styleOf s.toList = .basic := by
      simp [styleOf, refused, newline, doubles, clean.2]
    have unescaped : escapeText 0 false 0 s.toList = s.toList := by
      apply escapeText_eq_self
      intro c among
      exact ⟨(simple c among).1, ne_of_mem_of_not_mem among clean.1,
        ne_of_mem_of_not_mem among clean.2⟩
    refine .inl ⟨clean, ?_⟩
    simp only [printText, style, unescaped]
  · have style : styleOf s.toList = .literal := by
      have needed : ¬ ('\\' ∉ s.toList ∧ longestRun '"' 0 s.toList = 0) := by
        rw [longestRun_eq_zero_iff, and_comm]
        exact clean
      simp_all [styleOf]
    refine .inr ⟨?_, by simp only [printText, style]⟩
    intro empty
    simp [empty] at clean

theorem basicText_append {cs : List Char}
    (clean : ∀ c ∈ cs, isPlain c = true ∧ c ≠ '"' ∧ c ≠ '\\') (rest : List Char) :
    basicText (cs ++ '"' :: rest) = some (cs, rest) := by
  induction cs with
  | nil => rw [List.nil_append, basicText]
  | cons c cs ih =>
    obtain ⟨plain, quote, backslash⟩ := clean c List.mem_cons_self
    rw [List.cons_append, basicText, if_pos plain,
      ih fun d among => clean d (List.mem_cons_of_mem c among)]
    · rfl
    · exact quote
    · exact backslash

theorem literalText_append {cs : List Char} (clean : ∀ c ∈ cs, isPlain c = true ∧ c ≠ '\'')
    (rest : List Char) : literalText (cs ++ '\'' :: rest) = some (cs, rest) := by
  induction cs with
  | nil => rfl
  | cons c cs ih =>
    obtain ⟨plain, quote⟩ := clean c List.mem_cons_self
    rw [List.cons_append, literalText, if_pos plain,
      ih fun d among => clean d (List.mem_cons_of_mem c among)]
    · rfl
    · exact quote

/-- A string on one line is not taken for one with three quotes. -/
theorem ne_three {quote d : Char} {cs : List Char} (clean : quote ∉ cs) (differ : d ≠ quote)
    (rest more : List Char) : cs ++ quote :: d :: rest ≠ quote :: quote :: more := by
  intro same
  cases cs with
  | nil =>
    simp only [List.nil_append, List.cons.injEq, true_and] at same
    exact differ same.1
  | cons c cs =>
    simp only [List.cons_append, List.cons.injEq] at same
    exact clean (same.1 ▸ List.mem_cons_self)

theorem takeText_printText {s : String} (simple : Simple s) (rest : List Char) :
    takeText (printText s ++ '\n' :: rest) = some (s.toList, '\n' :: rest) := by
  have plain : ∀ c ∈ s.toList, isPlain c = true :=
    fun c among => isPlain_of_isControl (simple c among).1
  have single : '\'' ∉ s.toList := fun among => (simple _ among).2 rfl
  rcases printText_cases simple with ⟨⟨double, backslash⟩, written⟩ | ⟨-, written⟩
  · rw [written, List.cons_append, List.append_assoc, List.singleton_append, takeText,
      basicText_append]
    · intro c among
      exact ⟨plain c among, ne_of_mem_of_not_mem among double,
        ne_of_mem_of_not_mem among backslash⟩
    · exact ne_three double (by decide) _
  · rw [written, List.cons_append, List.append_assoc, List.singleton_append, takeText,
      literalText_append]
    · exact fun c among => ⟨plain c among, (simple c among).2⟩
    · exact ne_three single (by decide) _

theorem written_text {s : String} (simple : Simple s) : Written (printText s) (.text s) := by
  have opens : ∃ quote more, printText s = quote :: more ∧ (quote = '"' ∨ quote = '\'') := by
    rcases printText_cases simple with ⟨-, written⟩ | ⟨-, written⟩
    · exact ⟨_, _, written, .inl rfl⟩
    · exact ⟨_, _, written, .inr rfl⟩
  obtain ⟨quote, more, written, kind⟩ := opens
  constructor
  · refine ⟨quote, more, written, ?_⟩
    rcases kind with rfl | rfl <;> rfl
  · intro fuel depth rest
    have text := takeText_printText simple rest
    rw [written, List.cons_append] at text ⊢
    rcases kind with rfl | rfl <;> rw [takeValue, text, Option.map_some] <;>
      simp only [String.ofList_toList]

theorem inScalar_of_isAlphanum {c : Char} (alphanumeric : c.isAlphanum = true) :
    inScalar c = true := by
  have others : (" \t\r\n#=,[]\x7b\x7d".toList.all fun d => d.isAlphanum == false) = true := by
    decide
  rw [inScalar, Bool.not_eq_true', List.contains_eq_mem, decide_eq_false_iff_not]
  intro among
  have other := beq_iff_eq.mp (List.all_eq_true.mp others c among)
  cases other.symm.trans alphanumeric

theorem takeScalar_line {run : List Char} (within : ∀ c ∈ run, inScalar c = true)
    (rest : List Char) : takeScalar (run ++ '\n' :: rest) = (run, '\n' :: rest) := by
  obtain ⟨taken, left⟩ := Text.takeWhile_of_stop within ('\n' :: rest) (by rintro c ⟨⟩; rfl)
  unfold takeScalar
  dsimp only
  rw [taken, left]
  rfl

/-- Letters and digits are read as a scalar. -/
theorem written_scalar {run : List Char} {v : Value} (some_run : run ≠ [])
    (alphanumeric : run.all Char.isAlphanum = true) (read : scalar? run = some v) :
    Written run v := by
  rw [List.all_eq_true] at alphanumeric
  obtain ⟨c, more, rfl⟩ := List.exists_cons_of_ne_nil some_run
  have first : c.isAlphanum = true := alphanumeric c List.mem_cons_self
  have differs : ∀ d : Char, d.isAlphanum = false → c ≠ d := by
    rintro d other rfl
    cases other.symm.trans first
  constructor
  · refine ⟨c, more, rfl, ?_⟩
    simp [isBlank, differs ' ' rfl, differs '\t' rfl]
  · intro fuel depth rest
    have taken := takeScalar_line
      (fun d among => inScalar_of_isAlphanum (alphanumeric d among)) rest
    rw [List.cons_append] at taken ⊢
    rw [takeValue]
    · simp only [taken, read, Option.map_some]
    · rintro _ ⟨⟩; cases first
    · rintro _ ⟨⟩; cases first
    · rintro _ ⟨⟩; cases first
    · rintro _ ⟨⟩; cases first

theorem written_flag (flag : Bool) :
    Written (if flag then "true" else "false").toList (.bool flag) := by
  cases flag with
  | true => exact written_scalar (by decide) (by decide) rfl
  | false => exact written_scalar (by decide) (by decide) rfl

theorem hexDigitValue_of_isDigit {c : Char} (digit : c.isDigit = true) :
    hexDigitValue c = c.toNat - '0'.toNat := by
  rw [hexDigitValue, if_pos digit]

theorem numberOf_digits {cs : List Char} (digits : ∀ c ∈ cs, c.isDigit = true) :
    numberOf 10 cs = Nat.ofDigitChars 10 cs 0 := by
  rw [numberOf, Nat.ofDigitChars_eq_foldl]
  generalize 0 = n
  induction cs generalizing n with
  | nil => rfl
  | cons c cs ih =>
    rw [List.foldl_cons, List.foldl_cons, hexDigitValue_of_isDigit (digits c List.mem_cons_self),
      Nat.mul_comm]
    exact ih (fun d among => digits d (List.mem_cons_of_mem c among)) _

theorem isDigitOf_ten {c : Char} (digit : c.isDigit = true) : isDigitOf 10 c = true := by
  have upper : c.toNat ≤ '9'.toNat := by
    simp only [Char.isDigit, Bool.and_eq_true, decide_eq_true_eq] at digit
    exact UInt32.le_iff_toNat_le.mp digit.2
  have small : c.toNat - '0'.toNat < 10 := by
    have nine : '9'.toNat = 57 := rfl
    have zero : '0'.toNat = 48 := rfl
    omega
  rw [isDigitOf, isHexDigit, digit, hexDigitValue_of_isDigit digit, decide_eq_true small]
  rfl

/-- A number begins with another digit than zero, unless it is zero. -/
theorem head?_toDigits {n : Nat} (pos : 0 < n) : (Nat.toDigits 10 n).head? ≠ some '0' := by
  induction n using Nat.strong_induction_on with
  | _ n ih =>
    by_cases small : n < 10
    · have apart : ∀ m < 10, 0 < m → m.digitChar ≠ '0' := by decide
      rw [Nat.toDigits_of_lt_base small, List.head?_cons, ne_eq, Option.some.injEq]
      exact apart n small pos
    · have first := ih (n / 10) (by omega) (by omega)
      rw [Nat.toDigits_of_base_le (by decide) (Nat.not_lt.mp small),
        List.head?_append, List.head?_eq_some_head Nat.toDigits_ne_nil, Option.some_or]
      rwa [List.head?_eq_some_head Nat.toDigits_ne_nil] at first

theorem hasLeadingZero_toDigits (n : Nat) : hasLeadingZero (Nat.toDigits 10 n) = false := by
  rcases Nat.eq_zero_or_pos n with rfl | pos
  · rfl
  · rw [hasLeadingZero, beq_eq_false_iff_ne.mpr (head?_toDigits pos), Bool.false_and]

/-- What tells digits from all else that a scalar may be. -/
theorem scalar?_digits {cs : List Char} (some_digits : cs ≠ [])
    (digits : ∀ c ∈ cs, c.isDigit = true) :
    scalar? cs = decimalInteger? cs false cs := by
  obtain ⟨c, more, rfl⟩ := List.exists_cons_of_ne_nil some_digits
  have first : c.isDigit = true := digits c List.mem_cons_self
  have later : ∀ d ∈ more, d.isDigit = true :=
    fun d among => digits d (List.mem_cons_of_mem c among)
  have unsigned : splitSign (c :: more) = (false, c :: more) := by
    rw [splitSign]
    · rintro _ ⟨⟩; cases first
    · rintro _ ⟨⟩; cases first
  have left : (c :: more).dropWhile Char.isDigit = [] := List.dropWhile_eq_nil_iff.mpr digits
  -- every other form begins with a sign or a letter, or has a letter behind a zero
  have differs : ∀ d text, d.isDigit = false → c :: more ≠ d :: text := by
    rintro d text other ⟨⟩
    cases other.symm.trans first
  have number : decimalOrMoment? (c :: more) = decimalInteger? (c :: more) false (c :: more) := by
    simp only [decimalOrMoment?, unsigned, left]
  have word : c :: more ≠ "true".toList ∧ c :: more ≠ "false".toList :=
    ⟨differs 't' _ rfl, differs 'f' _ rfl⟩
  have name : ¬ (c :: more = "inf".toList ∨ c :: more = "nan".toList) :=
    not_or.mpr ⟨differs 'i' _ rfl, differs 'n' _ rfl⟩
  unfold scalar?
  rw [unsigned]
  dsimp only
  rw [if_neg word.1, if_neg word.2, if_neg name]
  split
  · next hexadecimal =>
    cases hexadecimal
    cases later 'x' List.mem_cons_self
  · next octal =>
    cases octal
    cases later 'o' List.mem_cons_self
  · next binary =>
    cases binary
    cases later 'b' List.mem_cons_self
  · exact number

theorem integer?_toDigits {n : Nat} (fits : n < Word.unsignedEnd) :
    integer? 10 false (Nat.toDigits 10 n) = some (n : Int) := by
  have digits : ∀ c ∈ Nat.toDigits 10 n, c.isDigit = true :=
    fun c => Nat.isDigit_of_mem_toDigits (by decide) (by decide)
  have kept : dropUnderscores (Nat.toDigits 10 n) = Nat.toDigits 10 n := by
    rw [dropUnderscores, List.filter_eq_self]
    intro c among
    exact bne_iff_ne.mpr (ne_of_mem_of_not_mem among Nat.underscore_not_in_toDigits)
  have number : numberOf 10 (Nat.toDigits 10 n) = n := by
    rw [numberOf_digits digits, Nat.ofDigitChars_ten_toDigits]
  have held : fitsInteger n = true := by
    have least : -((Nat.pow 2 127 : Nat) : Int) ≤ n := by omega
    have most : (n : Int) < (Nat.pow 2 128 : Nat) := by
      have larger : Word.unsignedEnd ≤ Nat.pow 2 128 := by decide
      omega
    rw [fitsInteger, decide_eq_true least, decide_eq_true most]
    rfl
  have each : (Nat.toDigits 10 n).all (isDigitOf 10) = true :=
    List.all_eq_true.mpr fun c among => isDigitOf_ten (digits c among)
  simp [integer?, kept, number, held, each, Nat.toDigits_ne_nil]

theorem written_number {n : Nat} (fits : n < Word.unsignedEnd) :
    Written (Nat.toDigits 10 n) (.int n) := by
  have digits : ∀ c ∈ Nat.toDigits 10 n, c.isDigit = true :=
    fun c => Nat.isDigit_of_mem_toDigits (by decide) (by decide)
  refine written_scalar Nat.toDigits_ne_nil ?_ ?_
  · rw [List.all_eq_true]
    intro c among
    rw [Char.isAlphanum, digits c among, Bool.or_true]
  · have spaced : underscoresFit isHexDigit (Nat.toDigits 10 n) = true := by
      simp [underscoresFit, Nat.underscore_not_in_toDigits]
    rw [scalar?_digits Nat.toDigits_ne_nil digits]
    simp [decimalInteger?, integerValue, hasLeadingZero_toDigits, spaced, integer?_toDigits fits,
      Nat.toDigits_ne_nil]

end Latchkey.Toml
