import Latchkey.Proofs.Text
import Latchkey.Toml.Parser

namespace Latchkey.Toml

/-- A name that needs no quotes in a key. -/
def Bare (name : String) : Prop := name.toList ≠ [] ∧ ∀ c ∈ name.toList, inBareName c = true

instance (name : String) : Decidable (Bare name) :=
  @instDecidableAnd _ _ _ (List.decidableBAll _ name.toList)

theorem Bare.exists_cons {name : String} (bare : Bare name) :
    ∃ c more, name.toList = c :: more ∧ ∀ d, inBareName d = false → c ≠ d := by
  obtain ⟨some_name, within⟩ := bare
  obtain ⟨c, more, same⟩ := List.exists_cons_of_ne_nil some_name
  refine ⟨c, more, same, ?_⟩
  rintro d other rfl
  cases other.symm.trans (within c (same ▸ List.mem_cons_self))

/-- The text is these statements, whatever stands behind it. -/
structure Makes (text : List Char) (ss : List Statement) : Prop where
  enough : ss.length ≤ text.length
  -- two steps are left over: for an empty line in front of a header, and for the header
  read : ∀ fuel rest, takeStatements (fuel + 2 + ss.length) (text ++ rest) =
    (takeStatements (fuel + 2) rest).map (ss ++ ·)

theorem Makes.nil : Makes [] [] where
  enough := Nat.le_refl 0
  read fuel rest := by
    cases taken : takeStatements (fuel + 2) rest <;> simp [taken]

theorem Makes.append {front behind : List Char} {ss ts : List Statement} (first : Makes front ss)
    (second : Makes behind ts) : Makes (front ++ behind) (ss ++ ts) where
  enough := by
    have := first.enough
    have := second.enough
    simp only [List.length_append]
    omega
  read fuel rest := by
    have steps : fuel + 2 + (ss ++ ts).length = fuel + ts.length + 2 + ss.length := by
      rw [List.length_append]
      omega
    have later : fuel + ts.length + 2 = fuel + 2 + ts.length := by omega
    rw [steps, List.append_assoc, first.read, later, second.read, Option.map_map]
    simp only [Function.comp_def, List.append_assoc]

theorem Makes.flatMap {α : Type} {text : α → List Char} {ss : α → List Statement} {xs : List α}
    (each : ∀ x ∈ xs, Makes (text x) (ss x)) : Makes (xs.flatMap text) (xs.flatMap ss) := by
  induction xs with
  | nil => exact .nil
  | cons x xs ih =>
    rw [List.flatMap_cons, List.flatMap_cons]
    exact (each x List.mem_cons_self).append
      (ih fun y among => each y (List.mem_cons_of_mem x among))

/-- A text of statements is a document of them. -/
theorem Makes.statements {text : List Char} {ss : List Statement} (made : Makes text ss)
    (unmarked : text.head? ≠ some '\ufeff') : statements? text = some ss := by
  have fuel : text.length + 2 = text.length - ss.length + 2 + ss.length := by
    have := made.enough
    omega
  have read := made.read (text.length - ss.length) []
  rw [List.append_nil, ← fuel] at read
  have whole : statements? text = takeStatements (text.length + 2) text := by
    unfold statements?
    split
    · exact absurd rfl unmarked
    · rfl
  rw [whole, read]
  simp [takeStatements, dropLines, dropComment?, dropBlanks, afterBreak?]

/-- One statement at the start of a line. -/
theorem takeStatements_step {fuel : Nat} {cs rest : List Char} {c : Char} {more : List Char}
    {s : Statement} (begins : dropLines fuel cs = some (c :: more))
    (taken : takeStatement fuel (c :: more) = some (s, rest)) :
    takeStatements (fuel + 1) cs = (takeStatements fuel rest).map ([s] ++ ·) := by
  rw [takeStatements, begins]
  simp only [Option.bind_eq_bind, Option.bind_some, taken]
  cases takeStatements fuel rest <;> rfl

theorem dropBlanks_cons {c : Char} (visible : isBlank c = false) (cs : List Char) :
    dropBlanks (c :: cs) = c :: cs := by
  rw [dropBlanks, List.dropWhile_cons, visible]
  rfl

theorem dropComment?_cons {c : Char} (other : c ≠ '#') (cs : List Char) :
    dropComment? (c :: cs) = some (c :: cs) := by
  rw [dropComment?]
  rintro rest ⟨⟩
  exact other rfl

/-- A line that begins with a bare name or a bracket is not skipped. -/
theorem dropLines_cons {c : Char} (visible : isBlank c = false)
    (begins : c ≠ '#' ∧ c ≠ '\n' ∧ c ≠ '\r') (fuel : Nat) (cs : List Char) :
    dropLines (fuel + 1) (c :: cs) = some (c :: cs) := by
  obtain ⟨comment, feed, carriage⟩ := begins
  have same_line : afterBreak? (c :: cs) = none := by
    rw [afterBreak?]
    · rintro rest ⟨⟩
      exact feed rfl
    · rintro rest ⟨⟩
      exact carriage rfl
  rw [dropLines, dropBlanks_cons visible, dropComment?_cons comment]
  simp only [Option.bind_eq_bind, Option.bind_some, same_line]

theorem dropLineEnd?_break (rest : List Char) : dropLineEnd? ('\n' :: rest) = some rest := rfl

/-- A bare name up to blanks that no point follows. -/
theorem takeKey_bare {name : String} (bare : Bare name) (rest : List Char)
    (stops : ∀ c ∈ rest.head?, inBareName c = false)
    (alone : (dropBlanks rest).head? ≠ some '.') :
    takeKey (name.toList ++ rest) = some ([name], dropBlanks rest) := by
  obtain ⟨taken, left⟩ := Text.takeWhile_of_stop bare.2 rest stops
  obtain ⟨c, more, same, differs⟩ := bare.exists_cons
  have first : takeName (name.toList ++ rest) = some (name, rest) := by
    unfold takeName
    split
    · next quoted =>
      rw [same] at quoted
      cases quoted
      exact absurd rfl (differs '"' rfl)
    · next quoted =>
      rw [same] at quoted
      cases quoted
      exact absurd rfl (differs '\'' rfl)
    · rw [taken, left]
      dsimp only
      rw [String.ofList_toList, same]
      rfl
  change takeNames (79 + 1) (name.toList ++ rest) = _
  rw [takeNames, first]
  simp only [Option.bind_eq_bind, Option.bind_some]
  split
  · next dotted =>
    rw [dotted] at alone
    exact absurd rfl alone
  · rfl

theorem takeStatement_assign {fuel : Nat} {cs : List Char} (plain : cs.head? ≠ some '[')
    {key : Key} {v : Value} {behind after rest : List Char}
    (named : takeKey cs = some (key, '=' :: behind))
    (value : takeValue fuel deepest (dropBlanks behind) = some (v, after))
    (ends : dropLineEnd? after = some rest) :
    takeStatement fuel cs = some (.assign key v, rest) := by
  unfold takeStatement
  split
  · exact absurd rfl plain
  · simp only [named, value, ends, Option.bind_eq_bind, Option.bind_some, Option.map_some]

end Latchkey.Toml
