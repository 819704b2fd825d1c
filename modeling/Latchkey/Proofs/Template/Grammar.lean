import Latchkey.Proofs.Text
import Latchkey.Template

/-!
What a template text is, said without reading it: a row of items, each a doubled brace, a single
other character, or a field between braces; and what is wrong with a text that no item starts.
`reads_or_starts`: every text is a row of items, or a row of items and a faulty rest.
-/

namespace Latchkey

namespace Path

/-- The name of a member: some text without dots and brackets. -/
def Member (cs : List Char) : Prop := cs ≠ [] ∧ '.' ∉ cs ∧ '[' ∉ cs ∧ ']' ∉ cs

/-- What stands between brackets: some text without brackets. -/
def Index (cs : List Char) : Prop := cs ≠ [] ∧ '[' ∉ cs ∧ ']' ∉ cs

/-- Steps into a value: `.member` or `[index]`, any number of them. -/
inductive Steps : List Char → Prop
  | nil : Steps []
  | member {name rest : List Char} : Member name → Steps rest → Steps ('.' :: (name ++ rest))
  | index {inner rest : List Char} : Index inner → Steps rest →
      Steps ('[' :: (inner ++ ']' :: rest))

/-- A path: the name of a member, and steps from there. -/
inductive WellFormed : List Char → Prop
  | intro {root steps : List Char} : Member root → Steps steps → WellFormed (root ++ steps)

theorem Steps.stops {rest : List Char} (steps : Steps rest) :
    ∀ c ∈ rest.head?, inMember c = false := by
  rintro c found
  cases steps with
  | nil => cases found
  | member => cases found; rfl
  | index => cases found; rfl

theorem inMember_of_member {cs : List Char} (member : Member cs) : ∀ c ∈ cs, inMember c = true := by
  obtain ⟨-, dot, opening, -⟩ := member
  intro c among
  simp only [inMember, Bool.and_eq_true, bne_iff_ne]
  exact ⟨ne_of_mem_of_not_mem among dot, ne_of_mem_of_not_mem among opening⟩

theorem isMember_iff {cs : List Char} (within : ∀ c ∈ cs, inMember c = true) :
    isMember cs = true ↔ Member cs := by
  have dot : '.' ∉ cs := fun among => absurd (within _ among) (by decide)
  have opening : '[' ∉ cs := fun among => absurd (within _ among) (by decide)
  simp [isMember, Member, dot, opening]

theorem isIndex_iff {cs : List Char} (within : ∀ c ∈ cs, inIndex c = true) :
    isIndex cs = true ↔ Index cs := by
  have closing : ']' ∉ cs := fun among => absurd (within _ among) (by decide)
  simp [isIndex, Index, closing]

theorem areSteps_of_steps {cs : List Char} (steps : Steps cs) : areSteps cs = true := by
  induction steps with
  | nil => rw [areSteps]
  | @member name rest member steps ih =>
    have within := inMember_of_member member
    obtain ⟨taken, left⟩ := Text.takeWhile_of_stop within rest steps.stops
    rw [areSteps, taken, left, ih, (isMember_iff within).mpr member]
    rfl
  | @index inner rest index steps ih =>
    have within : ∀ c ∈ inner, inIndex c = true := by
      intro c among
      simpa [inIndex] using ne_of_mem_of_not_mem among index.2.2
    obtain ⟨taken, left⟩ := Text.takeWhile_of_stop within (']' :: rest) (by simp [inIndex])
    rw [areSteps]
    split
    · next nothing => simp [left] at nothing
    · next closing after found =>
      rw [left] at found
      cases found
      rw [taken, ih, (isIndex_iff within).mpr index]
      rfl

theorem steps_of_areSteps {cs : List Char} (steps : areSteps cs = true) : Steps cs := by
  fun_induction areSteps cs with
  | case1 => exact .nil
  | case2 rest ih =>
    obtain ⟨member, later⟩ := Bool.and_eq_true_iff.mp steps
    have named := (isMember_iff fun c among => List.mem_takeWhile_imp among).mp member
    have split : rest = rest.takeWhile inMember ++ rest.dropWhile inMember :=
      List.takeWhile_append_dropWhile.symm
    rw [split]
    exact .member named (ih later)
  | case3 => cases steps
  | case4 rest closing after left _ ih =>
    obtain ⟨index, later⟩ := Bool.and_eq_true_iff.mp steps
    have indexed := (isIndex_iff fun c among => List.mem_takeWhile_imp among).mp index
    have ends : closing = ']' := by
      have stop := List.head?_dropWhile_not inIndex rest
      simpa [left, inIndex] using stop
    have split : rest = rest.takeWhile inIndex ++ ']' :: after := by
      rw [← ends, ← left, List.takeWhile_append_dropWhile]
    rw [split]
    exact .index indexed (ih later)
  | case5 => cases steps

/-- A name is taken for a path exactly if it is one. -/
theorem isPath_iff {cs : List Char} : isPath cs = true ↔ WellFormed cs := by
  constructor
  · intro path
    obtain ⟨member, steps⟩ := Bool.and_eq_true_iff.mp path
    have named := (isMember_iff fun c among => List.mem_takeWhile_imp among).mp member
    rw [← List.takeWhile_append_dropWhile (p := inMember) (l := cs)]
    exact .intro named (steps_of_areSteps steps)
  · rintro ⟨member, steps⟩
    have within := inMember_of_member member
    obtain ⟨taken, left⟩ := Text.takeWhile_of_stop within _ steps.stops
    rw [isPath, taken, left, areSteps_of_steps steps, (isMember_iff within).mpr member]
    rfl

end Path

/-- The text between the braces of a field holds a name, up to the first colon or the first `!` in
front of it, and perhaps a call behind the first colon. -/
inductive Field.Body : List Char → List Char → Option Call → Prop
  | intro {body head name : List Char} {spec ignored : Option (List Char)} :
      Text.Cut ':' body head spec → Text.Cut '!' head name ignored →
      Body body name (spec.bind Call.ofChars?)

theorem Field.exists_body (body : List Char) : ∃ name call, Field.Body body name call := by
  obtain ⟨head, spec, colon⟩ := Text.exists_cut ':' body
  obtain ⟨name, ignored, mark⟩ := Text.exists_cut '!' head
  exact ⟨name, _, .intro colon mark⟩

theorem Field.nameOf_of_cut {head name : List Char} {ignored : Option (List Char)}
    (mark : Text.Cut '!' head name ignored) : Field.nameOf head = name := by
  have within : '!' ∉ name → ∀ c ∈ name, (c != '!') = true :=
    fun clean c among => bne_iff_ne.mpr (ne_of_mem_of_not_mem among clean)
  cases mark with
  | whole clean =>
    have all := (Text.takeWhile_of_stop (within clean) [] (by simp)).1
    rwa [List.append_nil] at all
  | first clean => exact (Text.takeWhile_of_stop (within clean) _ (by simp)).1

/-- What the text between braces comes to is decided by its name. -/
theorem Field.ofBody_of_body {body name : List Char} {call : Option Call}
    (written : Field.Body body name call) :
    Field.ofBody body =
      if name = [] then .error .emptyName
      else if Path.isPath name then .ok ⟨String.ofList name, call⟩
      else .error (.malformedName (String.ofList name)) := by
  obtain ⟨colon, mark⟩ := written
  unfold Field.ofBody
  cases colon with
  | whole clean =>
    rw [Text.splitFirst_of_not_mem clean]
    dsimp only
    rw [Field.nameOf_of_cut mark]
    rfl
  | first clean =>
    rw [Text.splitFirst_append clean]
    dsimp only
    rw [Field.nameOf_of_cut mark]
    rfl

/-- A text without braces. -/
def Braceless (cs : List Char) : Prop := '{' ∉ cs ∧ '}' ∉ cs

instance (cs : List Char) : Decidable (Braceless cs) := inferInstanceAs (Decidable (_ ∧ _))

/-- A text is these items one after another. -/
inductive Item.Reads : List Char → List Item → Prop
  | nil : Reads [] []
  | opening {cs : List Char} {xs : List Item} : Reads cs xs →
      Reads ('{' :: '{' :: cs) (.char '{' :: xs)
  | closing {cs : List Char} {xs : List Item} : Reads cs xs →
      Reads ('}' :: '}' :: cs) (.char '}' :: xs)
  | char {c : Char} {cs : List Char} {xs : List Item} : Braceless [c] → Reads cs xs →
      Reads (c :: cs) (.char c :: xs)
  | field {body name : List Char} {call : Option Call} {cs : List Char} {xs : List Item} :
      Braceless body → Field.Body body name call → Path.WellFormed name → Reads cs xs →
      Reads ('{' :: (body ++ '}' :: cs)) (.field ⟨String.ofList name, call⟩ :: xs)

/-- A text starts with a brace that begins no item, for this reason. A field that is not closed, or
that holds a brace, has this fault whatever its name is. -/
inductive Fault.Starts : Fault → List Char → Prop
  | single {cs : List Char} : cs.head? ≠ some '}' → Starts .single ('}' :: cs)
  | unclosed {body : List Char} : Braceless body → Starts .unclosed ('{' :: body)
  | nested {body cs : List Char} : body ≠ [] → Braceless body →
      Starts .nested ('{' :: (body ++ '{' :: cs))
  | emptyName {body : List Char} {call : Option Call} {cs : List Char} : Braceless body →
      Field.Body body [] call → Starts .emptyName ('{' :: (body ++ '}' :: cs))
  | malformedName {body name : List Char} {call : Option Call} {cs : List Char} : Braceless body →
      Field.Body body name call → name ≠ [] → ¬ Path.WellFormed name →
      Starts (.malformedName (String.ofList name)) ('{' :: (body ++ '}' :: cs))

theorem Item.Reads.append {front behind : List Char} {xs ys : List Item}
    (first : Item.Reads front xs) (second : Item.Reads behind ys) :
    Item.Reads (front ++ behind) (xs ++ ys) := by
  induction first with
  | nil => exact second
  | opening _ ih => exact .opening ih
  | closing _ ih => exact .closing ih
  | char plain _ ih => exact .char plain ih
  | field plain written path _ ih =>
    rw [List.cons_append, List.append_assoc]
    exact .field plain written path ih

/-- The first brace of a text, if it has one. -/
theorem first_brace (cs : List Char) :
    Braceless cs ∨ ∃ body brace after, cs = body ++ brace :: after ∧ Braceless body ∧
      (brace = '{' ∨ brace = '}') := by
  induction cs with
  | nil => exact .inl ⟨List.not_mem_nil, List.not_mem_nil⟩
  | cons c cs ih =>
    by_cases brace : c = '{' ∨ c = '}'
    · exact .inr ⟨[], c, cs, rfl, ⟨List.not_mem_nil, List.not_mem_nil⟩, brace⟩
    · obtain ⟨opens, closes⟩ := not_or.mp brace
      have joins : ∀ {body}, Braceless body → Braceless (c :: body) := by
        rintro body ⟨opening, closing⟩
        exact ⟨List.not_mem_cons_of_ne_of_not_mem (Ne.symm opens) opening,
          List.not_mem_cons_of_ne_of_not_mem (Ne.symm closes) closing⟩
      rcases ih with plain | ⟨body, brace, after, rfl, plain, kind⟩
      · exact .inl (joins plain)
      · exact .inr ⟨c :: body, brace, after, rfl, joins plain, kind⟩

/-- What a text comes to up to its first fault. -/
def Readable (cs : List Char) : Prop :=
  (∃ xs, Item.Reads cs xs) ∨
    ∃ before after xs fault, cs = before ++ after ∧ Item.Reads before xs ∧ Fault.Starts fault after

theorem Readable.behind {front cs : List Char} {x : Item} (item : Item.Reads front [x])
    (rest : Readable cs) : Readable (front ++ cs) := by
  rcases rest with ⟨xs, reads⟩ | ⟨before, after, xs, fault, rfl, reads, starts⟩
  · exact .inl ⟨_, item.append reads⟩
  · exact .inr ⟨front ++ before, after, _, fault, (List.append_assoc ..).symm,
      item.append reads, starts⟩

theorem Readable.faulty {cs : List Char} {fault : Fault} (starts : fault.Starts cs) :
    Readable cs := .inr ⟨[], cs, [], fault, rfl, .nil, starts⟩

/-- A brace that is not doubled starts a field, or nothing. -/
theorem readable_opening {cs : List Char} (alone : cs.head? ≠ some '{')
    (shorter : ∀ rest : List Char, rest.length < cs.length → Readable rest) :
    Readable ('{' :: cs) := by
  rcases first_brace cs with plain | ⟨body, brace, after, rfl, plain, rfl | rfl⟩
  · exact .faulty (.unclosed plain)
  · have some_body : body ≠ [] := by
      rintro rfl
      exact alone rfl
    exact .faulty (.nested some_body plain)
  · obtain ⟨name, call, written⟩ := Field.exists_body body
    by_cases empty : name = []
    · subst empty
      exact .faulty (.emptyName plain written)
    by_cases path : Path.WellFormed name
    · have item : Item.Reads ('{' :: (body ++ '}' :: [])) [.field ⟨String.ofList name, call⟩] :=
        .field plain written path .nil
      have later := shorter after (by simp only [List.length_append, List.length_cons]; omega)
      simpa using later.behind item
    · exact .faulty (.malformedName plain written empty path)

/-- **Every text is a row of items, or a row of items and a faulty rest.** -/
theorem reads_or_starts (cs : List Char) : Readable cs := by
  induction n : cs.length using Nat.strong_induction_on generalizing cs with
  | _ n ih =>
    subst n
    cases cs with
    | nil => exact .inl ⟨[], .nil⟩
    | cons c cs =>
      have shorter : ∀ rest : List Char, rest.length ≤ cs.length → Readable rest :=
        fun rest short => ih rest.length (Nat.lt_succ_of_le short) rest rfl
      by_cases opens : c = '{'
      · subst opens
        by_cases doubled : cs.head? = some '{'
        · obtain ⟨rest, rfl⟩ := List.head?_eq_some_iff.mp doubled
          exact (shorter rest (Nat.le_succ _)).behind (.opening .nil)
        · exact readable_opening doubled fun rest short => shorter rest (Nat.le_of_lt short)
      by_cases closes : c = '}'
      · subst closes
        by_cases doubled : cs.head? = some '}'
        · obtain ⟨rest, rfl⟩ := List.head?_eq_some_iff.mp doubled
          exact (shorter rest (Nat.le_succ _)).behind (.closing .nil)
        · exact .faulty (.single doubled)
      · have plain : Braceless [c] := by simp [Braceless, Ne.symm opens, Ne.symm closes]
        exact (shorter cs (Nat.le_refl _)).behind (.char plain .nil)

end Latchkey
