import Latchkey.Base64
import Mathlib.Data.List.Basic
import Mathlib.Data.Option.Basic

/-!
Reading base64 undoes writing it and takes nothing else (`decode?_eq_some_iff`). What is written in
one alphabet may not be readable in the other, but if it is, it is the same byte string
(`encode_injective`).
-/

namespace Latchkey.Base64

namespace Alphabet

variable {a b : Alphabet} {c : Char} {n m : Nat}

theorem value?_symbol (small : n < 64) : a.value? (a.symbol n) = some n := by
  have each : ∀ n < 64, a.value? (a.symbol n) = some n := by
    cases a <;> decide +kernel
  exact each n small

theorem toNat_lt_of_value? (read : a.value? c = some n) : c.toNat < 128 := by
  have below : ∀ last : Char, last.toNat < 128 → c ≤ last → c.toNat < 128 := by
    intro last ascii before
    exact Nat.lt_of_le_of_lt (UInt32.le_iff_toNat_le.mp (Char.le_def.mp before)) ascii
  unfold value? at read
  split at read
  · next upper => exact below 'Z' (by decide) upper.2
  · split at read
    · next lower => exact below 'z' (by decide) lower.2
    · split at read
      · next digit =>
        rw [Char.isDigit, Bool.and_eq_true, decide_eq_true_eq, decide_eq_true_eq] at digit
        exact below '9' (by decide) (Char.le_def.mpr digit.2)
      · split at read
        all_goals first | decide | cases read

theorem value?_eq_some_iff : a.value? c = some n ↔ n < 64 ∧ c = a.symbol n := by
  constructor
  · intro read
    have each : ∀ code < 128, ∀ n ∈ a.value? (Char.ofNat code),
        n < 64 ∧ Char.ofNat code = a.symbol n := by
      cases a <;> decide +kernel
    have known := each c.toNat (toNat_lt_of_value? read) n
    rw [Char.ofNat_toNat] at known
    exact known read
  · rintro ⟨small, rfl⟩
    exact value?_symbol small

/-- A symbol of both alphabets has one value. -/
theorem symbol_inj (small : n < 64) (small' : m < 64) (same : a.symbol n = b.symbol m) :
    n = m := by
  have each : ∀ n < 64, b.value? (a.symbol n) = some n ∨ b.value? (a.symbol n) = none := by
    cases a <;> cases b <;> decide +kernel
  have read : b.value? (a.symbol n) = some m := by
    rw [same]
    exact value?_symbol small'
  rcases each n small with here | absent
  · exact Option.some.inj (here.symm.trans read)
  · cases absent.symm.trans read

end Alphabet

theorem lt_of_mem_split {bytes : List UInt8} : ∀ n ∈ split bytes, n < 64 := by
  fun_induction split bytes with
  | case1 a b c rest ih =>
    have := a.toNat_lt
    have := b.toNat_lt
    have := c.toNat_lt
    simp only [List.forall_mem_cons]
    exact ⟨by omega, by omega, by omega, by omega, ih⟩
  | case2 a b =>
    have := a.toNat_lt
    have := b.toNat_lt
    simp only [List.forall_mem_cons]
    exact ⟨by omega, by omega, by omega, by simp⟩
  | case3 a =>
    have := a.toNat_lt
    simp only [List.forall_mem_cons]
    exact ⟨by omega, by omega, by simp⟩
  | case4 => simp

theorem ofNat_eq {n : Nat} (byte : UInt8) (value : n = byte.toNat) : UInt8.ofNat n = byte := by
  rw [value, UInt8.ofNat_toNat]

theorem join?_split (bytes : List UInt8) : join? (split bytes) = some bytes := by
  fun_induction split bytes with
  | case1 a b c rest ih =>
    have := b.toNat_lt
    have := c.toNat_lt
    rw [join?, ih, Option.map_some, ofNat_eq a (by omega), ofNat_eq b (by omega),
      ofNat_eq c (by omega)]
  | case2 a b =>
    have := b.toNat_lt
    rw [join?, if_pos (by omega), ofNat_eq a (by omega), ofNat_eq b (by omega)]
  | case3 a => rw [join?, if_pos (by omega), ofNat_eq a (by omega)]
  | case4 => rfl

theorem split_of_join? {values : List Nat} {bytes : List UInt8} (small : ∀ n ∈ values, n < 64)
    (joined : join? values = some bytes) : split bytes = values := by
  fun_induction join? values generalizing bytes with
  | case1 a b c d rest ih =>
    obtain ⟨behind, later, rfl⟩ := Option.map_eq_some_iff.mp joined
    simp only [List.forall_mem_cons] at small
    obtain ⟨_, _, _, _, small⟩ := small
    rw [split, ih small later]
    simp only [UInt8.toNat_ofNat', List.cons.injEq, and_true]
    exact ⟨by omega, by omega, by omega, by omega⟩
  | case2 a b c unused =>
    cases joined
    simp only [List.forall_mem_cons] at small
    simp only [split, UInt8.toNat_ofNat', List.cons.injEq, and_true]
    exact ⟨by omega, by omega, by omega⟩
  | case3 => cases joined
  | case4 a b unused =>
    cases joined
    simp only [List.forall_mem_cons] at small
    simp only [split, UInt8.toNat_ofNat', List.cons.injEq, and_true]
    exact ⟨by omega, by omega⟩
  | case5 => cases joined
  | case6 => cases joined
  | case7 =>
    cases joined
    rfl

variable {a b : Alphabet} {text : List Char} {bytes bytes' : List UInt8}

theorem mapM_value?_eq_some_iff {values : List Nat} :
    text.mapM a.value? = some values ↔ (∀ n ∈ values, n < 64) ∧ text = values.map a.symbol := by
  induction text generalizing values with
  | nil =>
    cases values <;> simp
  | cons c text ih =>
    rw [List.mapM_cons]
    constructor
    · intro read
      obtain ⟨n, first, behind⟩ := Option.bind_eq_some_iff.mp read
      obtain ⟨rest, later, made⟩ := Option.bind_eq_some_iff.mp behind
      cases made
      obtain ⟨here, rfl⟩ := Alphabet.value?_eq_some_iff.mp first
      obtain ⟨small, rfl⟩ := ih.mp later
      exact ⟨List.forall_mem_cons.mpr ⟨here, small⟩, rfl⟩
    · rintro ⟨small, symbols⟩
      cases values with
      | nil => cases symbols
      | cons n values =>
        obtain ⟨symbol, symbols⟩ := List.cons.inj symbols
        rw [List.forall_mem_cons] at small
        rw [Alphabet.value?_eq_some_iff.mpr ⟨small.1, symbol⟩, ih.mpr ⟨small.2, symbols⟩]
        rfl

/-- A text is read as some bytes exactly if it is what they are written as. -/
theorem decode?_eq_some_iff : decode? a text = some bytes ↔ text = encode a bytes := by
  unfold decode?
  rw [Option.bind_eq_some_iff]
  constructor
  · rintro ⟨values, read, joined⟩
    obtain ⟨small, rfl⟩ := mapM_value?_eq_some_iff.mp read
    rw [encode, split_of_join? small joined]
  · rintro rfl
    exact ⟨split bytes, mapM_value?_eq_some_iff.mpr ⟨lt_of_mem_split, rfl⟩, join?_split bytes⟩

theorem map_symbol_inj {values values' : List Nat} (small : ∀ n ∈ values, n < 64)
    (small' : ∀ n ∈ values', n < 64) (same : values.map a.symbol = values'.map b.symbol) :
    values = values' := by
  induction values generalizing values' with
  | nil => exact (List.map_eq_nil_iff.mp same.symm).symm
  | cons n values ih =>
    cases values' with
    | nil => cases same
    | cons m values' =>
      obtain ⟨here, later⟩ := List.cons.inj same
      rw [List.forall_mem_cons] at small small'
      rw [Alphabet.symbol_inj small.1 small'.1 here, ih small.2 small'.2 later]

/-- A text is the written form of one byte string, whichever alphabets it belongs to. -/
theorem encode_injective (same : encode a bytes = encode b bytes') : bytes = bytes' := by
  have values := map_symbol_inj lt_of_mem_split lt_of_mem_split same
  have read := join?_split bytes
  rw [values, join?_split] at read
  exact (Option.some.inj read).symm

/-- No other character gets into a written text. -/
theorem not_mem_encode {c : Char} (foreign : a.value? c = none) : c ∉ encode a bytes := by
  intro among
  obtain ⟨n, of, rfl⟩ := List.mem_map.mp among
  cases foreign.symm.trans (Alphabet.value?_symbol (lt_of_mem_split n of))

end Latchkey.Base64
