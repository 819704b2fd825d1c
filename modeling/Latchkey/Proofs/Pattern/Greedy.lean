import Latchkey.Proofs.Pattern.Reading

/-!
Which of all readings of a key a pattern takes: the one with the longest namespace, among those the
one with the longest text for the first field, and so on. The namespace leaves no choice: a body has
exactly the separators of the literals, so a key is cut in one way only.
-/

namespace Latchkey

/-- A text in front of a key that can be a namespace: it is empty or ends with a separator. -/
def IsSpace (cs : List Char) : Prop := cs = [] ∨ ∃ front, cs = front ++ [separator]

/-- A text is a namespace and then a spelling of the segments with these texts. -/
def Decomposes (segments : List Segment) (cs space : List Char) (texts : List (List Char)) : Prop :=
  ∃ body, cs = space ++ body ∧ IsSpace space ∧ Spells segments texts body

/-- The lengths in a decomposition, in the order in which they are made as long as possible. -/
def extents (space : List Char) (texts : List (List Char)) : List Nat :=
  (space :: texts).map List.length

/-- Every other decomposition is shorter at the first place where its lengths differ. -/
def Longest (segments : List Segment) (cs space : List Char) (texts : List (List Char)) : Prop :=
  Decomposes segments cs space texts ∧
    ∀ space' texts', Decomposes segments cs space' texts' →
      (space' = space ∧ texts' = texts) ∨
        List.Lex (· < ·) (extents space' texts') (extents space texts)

theorem IsSpace.append {space : List Char} (front : List Char) (ended : IsSpace space) :
    IsSpace (front ++ separator :: space) := by
  rcases ended with rfl | ⟨before, rfl⟩
  · exact .inr ⟨front, rfl⟩
  · exact .inr ⟨front ++ separator :: before, by simp⟩

/-- What makes a namespace longer ends with a separator. -/
theorem IsSpace.of_append {space more : List Char} (longer : more ≠ [])
    (ended : IsSpace (space ++ more)) : ∃ front, more = front ++ [separator] := by
  rcases ended with empty | ⟨before, whole⟩
  · exact absurd (List.append_eq_nil_iff.mp empty).2 longer
  · rw [← List.dropLast_append_getLast longer, ← List.append_assoc] at whole
    have last := (List.append_inj' whole rfl).2
    exact ⟨more.dropLast, by rw [← last, List.dropLast_append_getLast longer]⟩

section

variable {segments : List Segment} {texts texts' : List (List Char)}
  {space space' body body' : List Char}

/-- A body does not go on to the left: it would have a separator more than the literals have. -/
theorem eq_nil_of_longer_space {more : List Char} (ended : IsSpace (space ++ more))
    (spelled : Spells segments texts (more ++ body)) (spelled' : Spells segments texts' body) :
    more = [] := by
  by_contra longer
  obtain ⟨front, rfl⟩ := ended.of_append longer
  rw [← List.append_cons] at spelled
  exact spelled.not_behind spelled'

theorem split_unique (ended : IsSpace space) (ended' : IsSpace space')
    (spelled : Spells segments texts body) (spelled' : Spells segments texts' body')
    (same : space ++ body = space' ++ body') : space = space' ∧ body = body' := by
  rcases List.append_eq_append_iff.mp same with ⟨more, rfl, rfl⟩ | ⟨more, rfl, rfl⟩
  · obtain rfl := eq_nil_of_longer_space ended' spelled spelled'
    simp
  · obtain rfl := eq_nil_of_longer_space ended spelled' spelled
    simp

end

namespace Pattern

variable {t : Template} {key : String} {segments : List Segment} {cs : List Char}
  {texts : List (List Char)}

/-- A field takes no less than any start of the text that leaves a readable rest. -/
theorem takeField_longest {next : List Char → Reading} {text : List Char}
    (taken : takeField next cs = some (text :: texts)) {text' rest' : List Char}
    (split : cs = text' ++ rest') (clean : separator ∉ text') (readable : (next rest').isSome) :
    text'.length ≤ text.length := by
  induction cs generalizing text texts text' with
  | nil =>
    obtain ⟨rfl, rfl⟩ : text' = [] ∧ rest' = [] := by simpa using split
    exact Nat.zero_le _
  | cons c cs ih =>
    cases text' with
    | nil => exact Nat.zero_le _
    | cons c' text' =>
      obtain ⟨rfl, behind⟩ : c = c' ∧ cs = text' ++ rest' := by simpa using split
      obtain ⟨other, clean⟩ : separator ≠ c ∧ separator ∉ text' := by simpa using clean
      -- what follows this character can be read, so the field goes on
      have goes_on := takeField_of_split clean readable
      rw [← behind] at goes_on
      obtain ⟨later, found⟩ := Option.isSome_iff_exists.mp goes_on
      obtain ⟨text'', _, more, -, -, -, rfl⟩ := takes_of_takeField found
      rw [takeField, found] at taken
      simp only [if_neg (Ne.symm other), Option.some.injEq, List.cons.injEq] at taken
      obtain ⟨rfl, rfl⟩ := taken
      exact Nat.succ_le_succ (ih found behind clean)

/-- The reading of a text is the longest of its spellings. -/
theorem best_longest (read : best segments cs = some texts) {texts' : List (List Char)}
    (spelled : Spells segments texts' cs) :
    texts' = texts ∨ List.Lex (· < ·) (texts'.map List.length) (texts.map List.length) := by
  induction segments generalizing cs texts texts' with
  | nil =>
    cases spelled
    exact .inl (Option.some.inj read)
  | cons s rest ih =>
    cases s with
    | literal text =>
      cases spelled with
      | literal _ spelled =>
        rename_i behind
        have front : text.toList.isPrefixOf (text.toList ++ behind) = true :=
          List.isPrefixOf_iff_prefix.mpr (List.prefix_append _ _)
        rw [best, takeLiteral, if_pos front, List.drop_left] at read
        exact ih read spelled
    | field f =>
      obtain ⟨text, behind, more, split, clean, read', rfl⟩ := takes_of_takeField read
      generalize whole : cs = cs' at spelled
      cases spelled with
      | field _ text' clean' spelled' =>
        have within := takeField_longest read whole clean' (best_of_spells spelled')
        rcases Nat.lt_or_eq_of_le within with shorter | same
        · exact .inr (.rel shorter)
        · -- equally long texts are the same, and so is what follows them
          obtain ⟨rfl, rfl⟩ := List.append_inj (whole.symm.trans split) same
          rcases ih read' spelled' with rfl | less
          · exact .inl rfl
          · exact .inr (.cons less)

theorem decomposes_alone (spelled : Spells segments texts cs) : Decomposes segments cs [] texts :=
  ⟨cs, rfl, .inl rfl, spelled⟩

/-- What is read is a body that stands behind a namespace. -/
theorem split_of_read (read : (ofTemplate t).read key = some texts) :
    ∃ space body, key.toList = space ++ body ∧ IsSpace space ∧
      best t.segments body = some texts := by
  rw [read_eq] at read
  rcases Option.or_eq_some_iff.mp read with behind | ⟨-, whole⟩
  · obtain ⟨front, body, split, reading⟩ := readBehind_some behind
    exact ⟨front ++ [separator], body, by simp [split], .inr ⟨front, rfl⟩, reading⟩
  · exact ⟨[], key.toList, rfl, .inl rfl, whole⟩

/-- A key is accepted exactly if it has a decomposition. -/
theorem accepts_iff (t : Template) (key : String) :
    (ofTemplate t).accepts key = true ↔
      ∃ space texts, Decomposes t.segments key.toList space texts := by
  rw [accepts, Option.isSome_iff_exists]
  constructor
  · rintro ⟨texts, read⟩
    obtain ⟨space, body, split, ended, reading⟩ := split_of_read read
    exact ⟨space, texts, body, split, ended, spells_of_best reading⟩
  · rintro ⟨space, texts, body, split, ended, spelled⟩
    rw [read_eq, ← Option.isSome_iff_exists, Option.isSome_or, Bool.or_eq_true]
    rcases ended with rfl | ⟨front, rfl⟩
    · obtain rfl : key.toList = body := split
      exact .inr (best_of_spells spelled)
    · left
      rw [← Option.ne_none_iff_isSome]
      intro unread
      rw [← List.append_cons] at split
      have readable := best_of_spells spelled
      rw [readBehind_none unread split] at readable
      cases readable

/-- The body behind a namespace is read, since no other one can be. -/
theorem read_of_split {space body : List Char} (split : key.toList = space ++ body)
    (ended : IsSpace space) (reading : best t.segments body = some texts) :
    (ofTemplate t).read key = some texts := by
  have spelled := spells_of_best reading
  have accepted := (accepts_iff t key).mpr ⟨space, texts, body, split, ended, spelled⟩
  obtain ⟨found, read⟩ := Option.isSome_iff_exists.mp accepted
  obtain ⟨space', body', split', ended', reading'⟩ := split_of_read read
  obtain ⟨rfl, rfl⟩ := split_unique ended ended' spelled (spells_of_best reading')
    (split.symm.trans split')
  rw [read, ← reading', reading]

/-- A reading is the longest of all decompositions. -/
theorem read_longest (read : (ofTemplate t).read key = some texts) :
    ∃ space, Longest t.segments key.toList space texts := by
  obtain ⟨space, body, split, ended, reading⟩ := split_of_read read
  have spelled := spells_of_best reading
  refine ⟨space, ⟨body, split, ended, spelled⟩, ?_⟩
  rintro _ texts' ⟨body', split', ended', spelled'⟩
  obtain ⟨rfl, rfl⟩ := split_unique ended' ended spelled' spelled (split'.symm.trans split)
  rcases best_longest reading spelled' with rfl | less
  · exact .inl ⟨rfl, rfl⟩
  · exact .inr (.cons less)

/-- A key that separated segments spell is read as it was spelled, with no namespace in front. -/
theorem read_of_spells (separated : Separated t.segments)
    (spelled : Spells t.segments texts key.toList) : (ofTemplate t).read key = some texts := by
  obtain ⟨texts', reading⟩ := Option.isSome_iff_exists.mp (best_of_spells spelled)
  obtain rfl := Spells.unique separated spelled (spells_of_best reading)
  exact read_of_split (List.nil_append _).symm (.inl rfl) reading

end Pattern
end Latchkey
