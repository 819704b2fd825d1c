import Mathlib.Data.Finset.Card
import Mathlib.Data.List.Forall2
import Latchkey.Proofs.Pattern.Captures

/-!
A pattern captures a field under a group that is made from the name of the field, and a name loses
something on the way: most characters become an underscore. `Field.Collide` says which names become
one group. `group_for_each_name_iff`: a template has a group for each of its names exactly if no two
of them collide; of names that collide only the first one is captured.
-/

namespace Latchkey

/-! ## What a group keeps of a name -/

/-- The character that a group has for a character of the name. -/
def blur (c : Char) : Char := if c.isAlphanum then c else '_'

/-- Two characters that look the same in a group: neither is a letter or a digit of ASCII, or they
are the same. -/
def Blurred (c d : Char) : Prop := c = d ∨ (c.isAlphanum = false ∧ d.isAlphanum = false)

instance (c d : Char) : Decidable (Blurred c d) := inferInstanceAs (Decidable (_ ∨ _))

theorem isAlphanum_blur (c : Char) : (blur c).isAlphanum = c.isAlphanum := by
  unfold blur
  split
  · rfl
  · rename_i other
    rw [eq_false_of_ne_true other]
    decide

theorem isDigit_blur (c : Char) : (blur c).isDigit = c.isDigit := by
  unfold blur
  split
  · rfl
  · rename_i other
    rw [Char.isAlphanum, Bool.or_eq_true, not_or] at other
    rw [eq_false_of_ne_true other.2]
    decide

theorem blur_eq_iff {c d : Char} : blur c = blur d ↔ Blurred c d := by
  constructor
  · intro same
    have both : c.isAlphanum = d.isAlphanum := by
      rw [← isAlphanum_blur c, same, isAlphanum_blur]
    cases kept : d.isAlphanum with
    | false => exact .inr ⟨both.trans kept, kept⟩
    | true => exact .inl (by simpa [blur, both, kept] using same)
  · rintro (rfl | ⟨other, other'⟩)
    · rfl
    · simp [blur, other, other']

/-- The characters of a name, behind an underscore if the first one is a digit. -/
def fronted : List Char → List Char
  | c :: cs => if c.isDigit then '_' :: c :: cs else c :: cs
  | [] => []

theorem map_blur_fronted (cs : List Char) : (fronted cs).map blur = fronted (cs.map blur) := by
  cases cs with
  | nil => rfl
  | cons c cs =>
    have line : blur '_' = '_' := by decide
    simp only [fronted, List.map_cons, isDigit_blur]
    split
    · rw [List.map_cons, List.map_cons, line]
    · rfl

namespace Field

theorem group_eq (f : Field) : f.group = String.ofList ((fronted f.name.toList).map blur) := by
  have kept (c : Char) : (if isGroupChar c then c else '_') = blur c := by
    unfold isGroupChar blur
    grind
  rw [map_blur_fronted]
  simp only [group, kept]
  cases f.name.toList with
  | nil => rfl
  | cons c cs => rfl

/-- The group of the fields with this name. -/
def groupOf (name : String) : String := (Field.mk name none).group

@[simp] theorem groupOf_name (f : Field) : groupOf f.name = f.group := rfl

/-- Names that become one group: equally long behind the underscore that stands before a leading
digit, and with characters that look the same there. -/
def Collide (n n' : String) : Prop := List.Forall₂ Blurred (fronted n.toList) (fronted n'.toList)

instance (n n' : String) : Decidable (Collide n n') :=
  inferInstanceAs (Decidable (List.Forall₂ _ _ _))

theorem groupOf_eq_iff {n n' : String} : groupOf n = groupOf n' ↔ Collide n n' := by
  rw [groupOf, groupOf, group_eq, group_eq, String.ofList_inj, ← List.forall₂_eq_eq_eq,
    List.forall₂_map_left_iff, List.forall₂_map_right_iff]
  simp only [blur_eq_iff]
  rfl

/-- A member, an item and a plain name, and a name with a leading digit. -/
example : Collide "user.id" "user_id" ∧ Collide "items[0]" "items_0_" ∧ Collide "1st" "_1st" ∧
    ¬ Collide "user.id" "userid" := by
  decide +kernel

end Field

/-- No two names among the fields of a template collide. -/
def Template.NamesApart (t : Template) : Prop :=
  ∀ n ∈ t.fieldNames, ∀ n' ∈ t.fieldNames, Field.Collide n n' → n = n'

namespace Pattern

variable {t : Template} {key : String}

theorem groups_nodup (t : Template) : (ofTemplate t).groups.Nodup :=
  (groupsOf_once [] t.segments).1

theorem mem_groups_iff (t : Template) (g : String) :
    g ∈ (ofTemplate t).groups ↔ ∃ n ∈ t.fieldNames, Field.groupOf n = g := by
  simp [mem_groups, Template.fieldNames]

theorem toFinset_groups (t : Template) :
    (ofTemplate t).groups.toFinset = t.fieldNames.toFinset.image Field.groupOf := by
  ext g
  simp [mem_groups_iff]

/-- A pattern has as many groups as names exactly if none is lost. -/
theorem length_groups_iff (t : Template) :
    (ofTemplate t).groups.length = t.fieldNames.toFinset.card ↔ t.NamesApart := by
  rw [← List.toFinset_card_of_nodup (groups_nodup t), toFinset_groups, Finset.card_image_iff]
  simp only [Set.InjOn, Finset.mem_coe, List.mem_toFinset, Field.groupOf_eq_iff]
  constructor
  · intro apart n hn n' hn' collide
    exact apart hn hn' collide
  · intro apart n hn n' hn' collide
    exact apart n hn n' hn' collide

/-- The first field of a group takes part, and the text in its place is the text of the group. -/
theorem exists_first {fields : List Field} {texts : List (List Char)} {g : String}
    (fits : texts.length = fields.length) (held : ∃ f ∈ fields, f.group = g) :
    ∃ (i : Nat) (f : Field) (text : List Char),
      fields[i]? = some f ∧ texts[i]? = some text ∧ f.group = g ∧
      (∀ j < i, ∀ f' : Field, fields[j]? = some f' → f'.group ≠ g) ∧
      firstOf fields texts g = some (String.ofList text) := by
  induction fields generalizing texts with
  | nil => simp at held
  | cons f fields ih =>
    cases texts with
    | nil => cases fits
    | cons text texts =>
      by_cases here : f.group = g
      · refine ⟨0, f, text, rfl, rfl, here, ?_, ?_⟩
        · intro j before
          omega
        · rw [firstOf_cons, if_pos here]
      · have later : ∃ f ∈ fields, f.group = g := by simpa [here] using held
        obtain ⟨i, f', text', at_i, said, same, first, found⟩ := ih (Nat.succ.inj fits) later
        refine ⟨i + 1, f', text', at_i, said, same, ?_, ?_⟩
        · intro j before f'' at_j
          cases j with
          | zero =>
            cases at_j
            exact here
          | succ j => exact first j (by omega) f'' at_j
        · rw [firstOf_cons, if_neg here, found]

/-- **A pattern has a group for each name exactly if no two names collide.** The groups of a pattern
are the groups of the names in its template, each once, and two names have one group exactly if they
collide. So there are as many groups as names, and as many entries in what is captured of any key,
exactly if the names are apart. The entry of a name is the text of the first field whose name
collides with it: of its own first field if no other name does, and else the later names have no
entry of their own. -/
theorem group_for_each_name_iff (t : Template) :
    (ofTemplate t).groups.Nodup ∧
    (∀ g, g ∈ (ofTemplate t).groups ↔ ∃ n ∈ t.fieldNames, Field.groupOf n = g) ∧
    (∀ n n', Field.groupOf n = Field.groupOf n' ↔ Field.Collide n n') ∧
    ((ofTemplate t).groups.length = t.fieldNames.toFinset.card ↔ t.NamesApart) ∧
    ∀ key m, (ofTemplate t).captures key = some m →
      (m.length = t.fieldNames.toFinset.card ↔ t.NamesApart) ∧
      ∃ space texts, Longest t.segments key.toList space texts ∧
        ∀ n ∈ t.fieldNames, ∃ (i : Nat) (f : Field) (text : List Char),
          t.fields[i]? = some f ∧ texts[i]? = some text ∧ Field.Collide f.name n ∧
          (∀ j < i, ∀ f' : Field, t.fields[j]? = some f' → ¬ Field.Collide f'.name n) ∧
          Named.find? (Field.groupOf n) m = some (String.ofList text) := by
  refine ⟨groups_nodup t, mem_groups_iff t, fun n n' => Field.groupOf_eq_iff,
    length_groups_iff t, ?_⟩
  intro key m captured
  have entries : m.length = (ofTemplate t).groups.length := by
    simpa [Named.names] using (perm_groups_of_captures captured).length_eq
  refine ⟨by rw [entries, length_groups_iff], ?_⟩
  obtain ⟨texts, read, -⟩ := Option.map_eq_some_iff.mp captured
  obtain ⟨_, captured', -, -, found⟩ := captures_of_read read
  cases captured.symm.trans captured'
  obtain ⟨space, longest⟩ := read_longest read
  obtain ⟨⟨_, -, -, spelled⟩, -⟩ := id longest
  refine ⟨space, texts, longest, ?_⟩
  intro n among
  have held : ∃ f ∈ t.fields, f.group = Field.groupOf n := by
    obtain ⟨f, listed, rfl⟩ := List.mem_map.mp among
    exact ⟨f, listed, rfl⟩
  have fits : texts.length = t.fields.length := spelled.length_eq
  obtain ⟨i, f, text, here, said, same, first, text_of⟩ := exists_first fits held
  refine ⟨i, f, text, here, said, Field.groupOf_eq_iff.mp same, ?_, ?_⟩
  · intro j before f' at_j collide
    exact first j before f' at_j (Field.groupOf_eq_iff.mpr collide)
  · rw [found, text_of]

/-- Three names, one of them written twice: three groups and three entries. -/
theorem names_apart_captured :
    let t : Template := ⟨"\x7buser.id\x7d:\x7buserid\x7d:\x7buser.id\x7d:\x7b0\x7d",
      [.field ⟨"user.id", none⟩, .literal ":", .field ⟨"userid", none⟩, .literal ":",
        .field ⟨"user.id", none⟩, .literal ":", .field ⟨"0", none⟩], by decide +kernel⟩
    t.NamesApart ∧ (ofTemplate t).groups.length = 3 ∧
      ∃ m, (ofTemplate t).captures "1:2:3:4" = some m ∧ m.length = 3 := by
  intro t
  have apart : t.NamesApart := by
    unfold Template.NamesApart
    decide +kernel
  have names : t.fieldNames.toFinset.card = 3 := by decide +kernel
  obtain ⟨-, -, -, groups, entries⟩ := group_for_each_name_iff t
  have captured : ∃ m, (ofTemplate t).captures "1:2:3:4" = some m :=
    ⟨[("_0", "4"), ("user_id", "1"), ("userid", "2")], by decide +kernel⟩
  obtain ⟨m, captured⟩ := captured
  rw [names] at groups
  have entries := (entries _ m captured).1
  rw [names] at entries
  exact ⟨apart, groups.mpr apart, m, captured, entries.mpr apart⟩

/-- A member and a plain name: one group for two names, and the second value is lost. -/
theorem second_name_lost :
    let t : Template := ⟨"\x7ba.b\x7d:\x7ba_b\x7d",
      [.field ⟨"a.b", none⟩, .literal ":", .field ⟨"a_b", none⟩], by decide +kernel⟩
    t.fieldNames = ["a.b", "a_b"] ∧ t.fieldNames.toFinset.card = 2 ∧
      (ofTemplate t).groups = ["a_b"] ∧
      (ofTemplate t).captures "1:2" = some [("a_b", "1")] := by
  decide +kernel

end Pattern
end Latchkey
