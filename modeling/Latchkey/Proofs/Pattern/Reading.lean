import Mathlib.Data.List.Infix
import Latchkey.Pattern
import Latchkey.Proofs.Pattern.Spelling

/-!
The readings of a pattern are the spellings of its template: a table of readings has one entry for
every end part of a text, and the entry is a spelling of this end part, if there is one.
-/

namespace Latchkey.Pattern

/-- Takes a literal, and reads the rest. -/
def takeLiteral (text : List Char) (next : List Char → Reading) (cs : List Char) : Reading :=
  if text.isPrefixOf cs then next (cs.drop text.length) else none

/-- Takes a field, as long as the rest can still be read, and reads the rest. -/
def takeField (next : List Char → Reading) : List Char → Reading
  | [] => (next []).map ([] :: ·)
  | c :: cs =>
    match takeField next cs with
    | some (text :: texts) =>
      if c = separator then (next (c :: cs)).map ([] :: ·) else some ((c :: text) :: texts)
    | _ => (next (c :: cs)).map ([] :: ·)

/-- The reading of a text as segments. -/
def best : List Segment → List Char → Reading
  | [], cs => if cs = [] then some [] else none
  | .literal text :: rest, cs => takeLiteral text.toList (best rest) cs
  | .field _ :: rest, cs => takeField (best rest) cs

theorem whole_tails (next : List Char → Reading) (cs : List Char) :
    Readings.whole (cs.tails.map next) = next cs := by
  cases cs <;> rfl

theorem whole_drop_tails (next : List Char → Reading) {n : Nat} {cs : List Char}
    (within : n ≤ cs.length) :
    Readings.whole ((cs.tails.map next).drop n) = next (cs.drop n) := by
  induction n generalizing cs with
  | zero => exact whole_tails next cs
  | succ n ih =>
    cases cs with
    | nil => cases within
    | cons c cs => exact ih (Nat.le_of_succ_le_succ within)

theorem readEnd_eq (cs : List Char) : readEnd cs = cs.tails.map (best []) := by
  induction cs with
  | nil => rfl
  | cons c cs ih => rw [readEnd, ih]; rfl

theorem readLiteral_eq (text : List Char) (next : List Char → Reading) (cs : List Char) :
    readLiteral text cs (cs.tails.map next) = cs.tails.map (takeLiteral text next) := by
  have here : ∀ cs : List Char,
      (if text.isPrefixOf cs then Readings.whole ((cs.tails.map next).drop text.length) else none) =
        takeLiteral text next cs := by
    intro cs
    rw [takeLiteral]
    split
    · next front => rw [whole_drop_tails next (List.isPrefixOf_iff_prefix.mp front).length_le]
    · rfl
  induction cs with
  | nil => rw [readLiteral, here]; rfl
  | cons c cs ih =>
    rw [readLiteral, here]
    exact congrArg _ ih

theorem readField_eq (next : List Char → Reading) (cs : List Char) :
    readField cs (cs.tails.map next) = cs.tails.map (takeField next) := by
  induction cs with
  | nil => rfl
  | cons c cs ih =>
    have rest : ((c :: cs).tails.map next).tail = cs.tails.map next := rfl
    rw [readField, rest, ih, whole_tails, whole_tails]
    rfl

theorem readings_eq (seen : List String) (segments : List Segment) (cs : List Char) :
    readings (Piece.ofSegments seen segments) cs = cs.tails.map (best segments) := by
  induction segments generalizing seen with
  | nil => exact readEnd_eq cs
  | cons s rest ih =>
    cases s with
    | literal text =>
      rw [Piece.ofSegments, readings, ih, readLiteral_eq]
      rfl
    | field f =>
      rw [Piece.ofSegments]
      split
      all_goals
        rw [readings, ih, readField_eq]
        rfl

/-- A field takes the start of a text, without a separator, and leaves a rest that can be read. -/
def Takes (next : List Char → Reading) (cs : List Char) (texts : List (List Char)) : Prop :=
  ∃ text rest more, cs = text ++ rest ∧ separator ∉ text ∧ next rest = some more ∧
    texts = text :: more

theorem takes_of_empty {next : List Char → Reading} {cs : List Char} {texts : List (List Char)}
    (empty : (next cs).map ([] :: ·) = some texts) : Takes next cs texts := by
  obtain ⟨more, read, rfl⟩ := Option.map_eq_some_iff.mp empty
  exact ⟨[], cs, more, rfl, List.not_mem_nil, read, rfl⟩

theorem takes_of_takeField {next : List Char → Reading} {cs : List Char}
    {texts : List (List Char)} (taken : takeField next cs = some texts) : Takes next cs texts := by
  induction cs generalizing texts with
  | nil => exact takes_of_empty taken
  | cons c cs ih =>
    rw [takeField] at taken
    cases later : takeField next cs with
    | none =>
      rw [later] at taken
      exact takes_of_empty taken
    | some found =>
      -- what is taken of the rest is taken together with this character, unless it is a separator
      obtain ⟨text, rest, more, rfl, clean, read, rfl⟩ := ih later
      simp only [later] at taken
      by_cases here : c = separator
      · rw [if_pos here] at taken
        exact takes_of_empty taken
      · rw [if_neg here] at taken
        cases taken
        have longer : separator ∉ c :: text :=
          fun among => (List.mem_cons.mp among).elim (Ne.symm here) clean
        exact ⟨c :: text, rest, more, rfl, longer, read, rfl⟩

theorem takeField_of_split {next : List Char → Reading} {text rest : List Char}
    (clean : separator ∉ text) (readable : (next rest).isSome) :
    (takeField next (text ++ rest)).isSome := by
  induction text with
  | nil =>
    cases rest with
    | nil => simpa [takeField] using readable
    | cons c rest =>
      rw [List.nil_append, takeField]
      split
      · split
        · simpa using readable
        · rfl
      · simpa using readable
  | cons c text ih =>
    obtain ⟨other, clean⟩ : separator ≠ c ∧ separator ∉ text := by simpa using clean
    obtain ⟨texts, later⟩ := Option.isSome_iff_exists.mp (ih clean)
    obtain ⟨_, _, _, -, -, -, rfl⟩ := takes_of_takeField later
    simp [takeField, later, Ne.symm other]

theorem spells_of_best {segments : List Segment} {cs : List Char} {texts : List (List Char)}
    (reading : best segments cs = some texts) : Spells segments texts cs := by
  induction segments generalizing cs texts with
  | nil =>
    rw [best] at reading
    split at reading
    · next ended =>
      cases reading
      exact ended ▸ Spells.nil
    · cases reading
  | cons s rest ih =>
    cases s with
    | literal text =>
      rw [best, takeLiteral] at reading
      split at reading
      · next front =>
        obtain ⟨behind, rfl⟩ := List.isPrefixOf_iff_prefix.mp front
        rw [List.drop_left] at reading
        exact Spells.literal text (ih reading)
      · cases reading
    | field f =>
      obtain ⟨text, behind, more, rfl, clean, read, rfl⟩ := takes_of_takeField reading
      exact Spells.field f text clean (ih read)

theorem best_of_spells {segments : List Segment} {cs : List Char} {texts : List (List Char)}
    (spelled : Spells segments texts cs) : (best segments cs).isSome := by
  induction spelled with
  | nil => rfl
  | @literal text rest texts cs _ ih =>
    have front : text.toList.isPrefixOf (text.toList ++ cs) = true :=
      List.isPrefixOf_iff_prefix.mpr (List.prefix_append _ _)
    rw [best, takeLiteral, if_pos front, List.drop_left]
    exact ih
  | field f text clean _ ih => exact takeField_of_split clean ih

theorem readBehind_none {next : List Char → Reading} {cs : List Char}
    (unread : readBehind cs (cs.tails.map next) = none) {space rest : List Char}
    (split : cs = space ++ separator :: rest) : next rest = none := by
  induction cs generalizing space with
  | nil => simp at split
  | cons c cs ih =>
    have tail : ((c :: cs).tails.map next).tail = cs.tails.map next := rfl
    rw [readBehind, tail, whole_tails] at unread
    cases later : readBehind cs (cs.tails.map next) with
    | some texts =>
      rw [later] at unread
      cases unread
    | none =>
      rw [later] at unread
      cases space with
      | nil =>
        obtain ⟨rfl, rfl⟩ : c = separator ∧ cs = rest := by simpa using split
        simpa using unread
      | cons _ space => exact ih later (List.cons.inj split).2

theorem readBehind_some {next : List Char → Reading} {cs : List Char} {texts : List (List Char)}
    (found : readBehind cs (cs.tails.map next) = some texts) :
    ∃ space rest, cs = space ++ separator :: rest ∧ next rest = some texts := by
  induction cs with
  | nil => cases found
  | cons c cs ih =>
    have rest : ((c :: cs).tails.map next).tail = cs.tails.map next := rfl
    rw [readBehind, rest, whole_tails] at found
    cases later : readBehind cs (cs.tails.map next) with
    | some texts' =>
      rw [later] at found
      cases found
      obtain ⟨space, behind, rfl, read⟩ := ih later
      exact ⟨c :: space, behind, rfl, read⟩
    | none =>
      rw [later] at found
      by_cases here : c = separator
      · rw [here] at found ⊢
        exact ⟨[], cs, rfl, by simpa using found⟩
      · simp [here] at found

theorem read_eq (t : Template) (key : String) :
    (ofTemplate t).read key =
      (readBehind key.toList (key.toList.tails.map (best t.segments))).or
        (best t.segments key.toList) := by
  rw [read, ofTemplate, readings_eq, whole_tails]

end Latchkey.Pattern
