import Mathlib.Data.List.Basic
import Latchkey.Proofs.Text
import Latchkey.Template

namespace Latchkey

/-- A text is these segments one after another, with these texts for the fields. -/
inductive Spells : List Segment → List (List Char) → List Char → Prop
  | nil : Spells [] [] []
  | literal (text : String) {rest : List Segment} {texts : List (List Char)} {cs : List Char} :
      Spells rest texts cs → Spells (.literal text :: rest) texts (text.toList ++ cs)
  | field (f : Field) (text : List Char) {rest : List Segment} {texts : List (List Char)}
      {cs : List Char} : separator ∉ text → Spells rest texts cs →
      Spells (.field f :: rest) (text :: texts) (text ++ cs)

/-- The first field, if there is one, stands behind a literal with a separator in it. -/
def Guarded (segments : List Segment) : Prop :=
  ∀ between g after, segments = between ++ .field g :: after → (∀ s ∈ between, s.field? = none) →
    ∃ text, .literal text ∈ between ∧ separator ∈ text.toList

/-- Between any two consecutive fields stands a literal with a separator in it. -/
def Separated (segments : List Segment) : Prop :=
  ∀ before f between g after,
    segments = before ++ .field f :: (between ++ .field g :: after) →
    (∀ s ∈ between, s.field? = none) →
    ∃ text, .literal text ∈ between ∧ separator ∈ text.toList

@[simp] theorem guarded_nil : Guarded [] := by
  rintro ⟨⟩ g after ⟨⟩

@[simp] theorem not_guarded_field {f : Field} {rest : List Segment} :
    ¬ Guarded (.field f :: rest) := by
  intro guarded
  obtain ⟨text, among, -⟩ := guarded [] f rest rfl fun s hs => absurd hs List.not_mem_nil
  cases among

@[simp] theorem guarded_literal {text : String} {rest : List Segment} :
    Guarded (.literal text :: rest) ↔ separator ∈ text.toList ∨ Guarded rest := by
  constructor
  · intro guarded
    by_cases here : separator ∈ text.toList
    · exact .inl here
    · refine .inr ?_
      rintro between g after rfl plain
      obtain ⟨text', among, held⟩ := guarded (.literal text :: between) g after rfl
        (List.forall_mem_cons.mpr ⟨rfl, plain⟩)
      rcases List.mem_cons.mp among with same | among
      · cases same
        exact absurd held here
      · exact ⟨text', among, held⟩
  · rintro (here | guarded) (_ | ⟨s, between⟩) g after ⟨⟩ plain
    · exact ⟨text, List.mem_cons_self, here⟩
    · obtain ⟨text', among, held⟩ :=
        guarded between g after rfl fun s hs => plain s (List.mem_cons_of_mem _ hs)
      exact ⟨text', List.mem_cons_of_mem _ among, held⟩

@[simp] theorem separated_nil : Separated [] := by
  rintro ⟨⟩ f between g after ⟨⟩

@[simp] theorem separated_literal {text : String} {rest : List Segment} :
    Separated (.literal text :: rest) ↔ Separated rest := by
  constructor
  · rintro separated before f between g after rfl plain
    exact separated (.literal text :: before) f between g after rfl plain
  · rintro separated (_ | ⟨s, before⟩) f between g after ⟨⟩ plain
    exact separated before f between g after rfl plain

@[simp] theorem separated_field {f : Field} {rest : List Segment} :
    Separated (.field f :: rest) ↔ Guarded rest ∧ Separated rest := by
  constructor
  · intro separated
    refine ⟨fun between g after split plain => ?_, ?_⟩
    · exact separated [] f between g after (congrArg _ split) plain
    · rintro before f' between g after rfl plain
      exact separated (.field f :: before) f' between g after rfl plain
  · rintro ⟨guarded, separated⟩ (_ | ⟨s, before⟩) f between g after ⟨⟩ plain
    · exact guarded between g after rfl plain
    · exact separated before f between g after rfl plain

theorem Spells.length_eq {segments : List Segment} {texts : List (List Char)} {cs : List Char}
    (spelled : Spells segments texts cs) :
    texts.length = (segments.filterMap Segment.field?).length := by
  induction spelled with
  | nil => rfl
  | literal text _ ih => exact ih
  | field f text _ _ ih => exact congrArg (· + 1) ih

/-- How many separators the literals have. -/
def separators : List Segment → Nat
  | [] => 0
  | .literal text :: rest => text.toList.count separator + separators rest
  | .field _ :: rest => separators rest

theorem Spells.count_eq {segments : List Segment} {texts : List (List Char)} {cs : List Char}
    (spelled : Spells segments texts cs) : cs.count separator = separators segments := by
  induction spelled with
  | nil => rfl
  | literal text _ ih => rw [List.count_append, ih, separators]
  | field f text clean _ ih =>
    rw [List.count_append, List.count_eq_zero.mpr clean, ih, separators, Nat.zero_add]

/-- What stands behind a separator of a spelled text is not spelled by the same segments. -/
theorem Spells.not_behind {segments : List Segment} {texts more : List (List Char)}
    {space cs : List Char} (whole : Spells segments texts (space ++ separator :: cs)) :
    ¬ Spells segments more cs := by
  intro behind
  have longer := whole.count_eq
  rw [← behind.count_eq, List.count_append, List.count_cons_self] at longer
  omega

/-- The text of segments that are all literals. -/
def literalText (segments : List Segment) : List Char :=
  segments.flatMap fun s => s.glob.toList

theorem Spells.of_literals {plain rest : List Segment} {texts : List (List Char)} {cs : List Char}
    (spelled : Spells (plain ++ rest) texts cs) (literals : ∀ s ∈ plain, s.field? = none) :
    ∃ more, cs = literalText plain ++ more ∧ Spells rest texts more := by
  induction plain generalizing cs with
  | nil => exact ⟨cs, rfl, spelled⟩
  | cons s plain ih =>
    cases spelled with
    | literal text spelled =>
      obtain ⟨more, rfl, behind⟩ := ih spelled fun s hs => literals s (List.mem_cons_of_mem _ hs)
      exact ⟨more, by simp [literalText, Segment.glob], behind⟩
    | field f text _ _ => exact absurd (literals _ List.mem_cons_self) (by simp [Segment.field?])

theorem literals_or_field (segments : List Segment) :
    (∀ s ∈ segments, s.field? = none) ∨
    ∃ plain f rest, segments = plain ++ .field f :: rest ∧ ∀ s ∈ plain, s.field? = none := by
  induction segments with
  | nil => exact .inl fun s hs => absurd hs List.not_mem_nil
  | cons s segments ih =>
    cases s with
    | field f => exact .inr ⟨[], f, segments, rfl, fun s hs => absurd hs List.not_mem_nil⟩
    | literal text =>
      rcases ih with literals | ⟨plain, f, rest, rfl, literals⟩
      · exact .inl (List.forall_mem_cons.mpr ⟨rfl, literals⟩)
      · exact .inr ⟨.literal text :: plain, f, rest, rfl, List.forall_mem_cons.mpr ⟨rfl, literals⟩⟩

theorem mem_literalText {text : String} {plain : List Segment} (among : .literal text ∈ plain)
    (held : separator ∈ text.toList) : separator ∈ literalText plain :=
  List.mem_flatMap.mpr ⟨_, among, held⟩

theorem takeWhile_separator {text behind : List Char} (clean : separator ∉ text) :
    (text ++ separator :: behind).takeWhile (· ≠ separator) = text := by
  have before : ∀ c ∈ text, decide (c ≠ separator) = true :=
    fun c hc => decide_eq_true (ne_of_mem_of_not_mem hc clean)
  exact (Text.takeWhile_of_stop before (separator :: behind) (by simp)).1

/-- Two texts without a separator are the same if the same text with a separator follows both. -/
theorem eq_of_same_front {text text' front behind behind' : List Char} (clean : separator ∉ text)
    (clean' : separator ∉ text') (held : separator ∈ front)
    (same : text ++ (front ++ behind) = text' ++ (front ++ behind')) : text = text' := by
  obtain ⟨before, after, rfl, first⟩ := List.eq_append_cons_of_mem held
  have regroup : ∀ a b : List Char, a ++ ((before ++ separator :: after) ++ b) =
      (a ++ before) ++ separator :: (after ++ b) := by simp
  have joint : ∀ {a}, separator ∉ a → separator ∉ a ++ before := by simp_all
  have starts := congrArg (List.takeWhile (· ≠ separator)) same
  rw [regroup, regroup, takeWhile_separator (joint clean),
    takeWhile_separator (joint clean')] at starts
  exact List.append_cancel_right starts

/-- The text of a field is known by what follows: literals to the end, or to the next field. -/
theorem eq_of_guarded {rest : List Segment} (guarded : Guarded rest) {text text' : List Char}
    (clean : separator ∉ text) (clean' : separator ∉ text') {texts texts' : List (List Char)}
    {cs cs' : List Char} (behind : Spells rest texts cs) (behind' : Spells rest texts' cs')
    (whole : text ++ cs = text' ++ cs') : text = text' := by
  rcases literals_or_field rest with literals | ⟨plain, g, after, rfl, literals⟩
  · rw [← List.append_nil rest] at behind behind'
    obtain ⟨_, rfl, ⟨⟩⟩ := behind.of_literals literals
    obtain ⟨_, rfl, ⟨⟩⟩ := behind'.of_literals literals
    exact List.append_cancel_right whole
  · obtain ⟨held, among, has⟩ := guarded plain g after rfl literals
    obtain ⟨_, rfl, -⟩ := behind.of_literals literals
    obtain ⟨_, rfl, -⟩ := behind'.of_literals literals
    exact eq_of_same_front clean clean' (mem_literalText among has) whole

/-- Separated segments spell a text with one choice of texts for the fields. -/
theorem Spells.unique {segments : List Segment} (separated : Separated segments)
    {texts texts' : List (List Char)} {cs : List Char} (spelled : Spells segments texts cs)
    (spelled' : Spells segments texts' cs) : texts = texts' := by
  induction segments generalizing texts texts' cs with
  | nil =>
    cases spelled
    cases spelled'
    rfl
  | cons s rest ih =>
    cases s with
    | literal text =>
      generalize whole : cs = cs' at spelled'
      cases spelled with
      | literal _ spelled =>
        cases spelled' with
        | literal _ spelled' =>
          rw [List.append_cancel_left whole] at spelled
          exact ih (separated_literal.mp separated) spelled spelled'
    | field f =>
      obtain ⟨guarded, separated⟩ := separated_field.mp separated
      generalize whole : cs = cs' at spelled'
      cases spelled with
      | field _ text clean behind =>
        cases spelled' with
        | field _ text' clean' behind' =>
          obtain rfl := eq_of_guarded guarded clean clean' behind behind' whole
          rw [List.append_cancel_left whole] at behind
          rw [ih separated behind behind']

end Latchkey
