import Mathlib.Data.List.TakeWhile
import Latchkey.Text.Blank

namespace Latchkey.Text

/-- A text read on up to a character that does not belong to it. -/
theorem takeWhile_of_stop {p : Char → Bool} {front : List Char}
    (within : ∀ c ∈ front, p c = true) (rest : List Char) (stops : ∀ c ∈ rest.head?, p c = false) :
    (front ++ rest).takeWhile p = front ∧ (front ++ rest).dropWhile p = rest := by
  rw [List.takeWhile_append_of_pos within, List.dropWhile_append_of_pos within]
  cases rest with
  | nil => simp
  | cons c rest =>
    have stop : p c = false := stops c rfl
    simp [stop]

theorem dropWhile_of_head {p : Char → Bool} {cs : List Char} (stops : ∀ c ∈ cs.head?, p c = false) :
    cs.dropWhile p = cs := by
  have nothing : ∀ c ∈ ([] : List Char), p c = true := by rintro c ⟨⟩
  exact (takeWhile_of_stop nothing cs stops).2

theorem head?_dropWhile {p : Char → Bool} (cs : List Char) :
    ∀ c ∈ (cs.dropWhile p).head?, p c = false := by
  intro c first
  have stop := List.head?_dropWhile_not p cs
  rwa [Option.mem_def.mp first] at stop

/-- A text cut at the first `sep`: what stands before it, the whole text if there is none, and what
stands behind it. -/
inductive Cut (sep : Char) : List Char → List Char → Option (List Char) → Prop
  | whole {cs : List Char} : sep ∉ cs → Cut sep cs cs none
  | first {front behind : List Char} : sep ∉ front →
      Cut sep (front ++ sep :: behind) front (some behind)

theorem exists_cut (sep : Char) (cs : List Char) :
    ∃ front behind, Cut sep cs front behind := by
  by_cases among : sep ∈ cs
  · obtain ⟨front, behind, rfl, clean⟩ := List.eq_append_cons_of_mem among
    exact ⟨front, some behind, .first clean⟩
  · exact ⟨cs, none, .whole among⟩

theorem splitFirst_of_not_mem {sep : Char} {cs : List Char} (clean : sep ∉ cs) :
    splitFirst sep cs = none := by
  induction cs with
  | nil => rfl
  | cons c cs ih =>
    obtain ⟨differ, later⟩ := not_or.mp (List.mem_cons.not.mp clean)
    rw [splitFirst, if_neg (Ne.symm differ), ih later]
    rfl

theorem splitFirst_append {sep : Char} {front : List Char} (clean : sep ∉ front)
    (behind : List Char) : splitFirst sep (front ++ sep :: behind) = some (front, behind) := by
  induction front with
  | nil => rw [List.nil_append, splitFirst, if_pos rfl]
  | cons c front ih =>
    obtain ⟨differ, later⟩ := not_or.mp (List.mem_cons.not.mp clean)
    rw [List.cons_append, splitFirst, if_neg (Ne.symm differ), ih later]
    rfl

theorem Cut.not_mem {sep : Char} {cs front : List Char} {behind : Option (List Char)}
    (cut : Cut sep cs front behind) : sep ∉ front := by
  cases cut <;> assumption

theorem Cut.front_subset {sep : Char} {cs front : List Char} {behind : Option (List Char)}
    (cut : Cut sep cs front behind) : front ⊆ cs := by
  cases cut with
  | whole => exact List.Subset.refl cs
  | first => exact List.subset_append_left _ _

theorem Cut.behind_subset {sep : Char} {cs front behind : List Char}
    (cut : Cut sep cs front (some behind)) : behind ⊆ cs := by
  cases cut
  exact List.subset_append_of_subset_right _ (List.subset_cons_self _ _)

/-- The pieces of a text that is split hold its characters, all but those it is split at. -/
theorem of_mem_splitOnP {p : Char → Bool} {c : Char} {cs piece : List Char}
    (piece_of : piece ∈ cs.splitOnP p) (among : c ∈ piece) : c ∈ cs ∧ p c = false := by
  induction cs generalizing piece with
  | nil =>
    rw [List.splitOnP_nil, List.mem_singleton] at piece_of
    subst piece_of
    cases among
  | cons d cs ih =>
    have later : ∀ {piece : List Char}, piece ∈ cs.splitOnP p → c ∈ piece →
        c ∈ d :: cs ∧ p c = false := by
      intro piece piece_of among
      obtain ⟨inside, other⟩ := ih piece_of among
      exact ⟨List.mem_cons_of_mem d inside, other⟩
    rw [List.splitOnP_cons_eq_if_modifyHead] at piece_of
    split at piece_of
    · rcases List.mem_cons.mp piece_of with rfl | piece_of
      · cases among
      · exact later piece_of among
    · next differ =>
      obtain ⟨first, rest, split⟩ := List.exists_cons_of_ne_nil (List.splitOnP_ne_nil p cs)
      rw [split, List.modifyHead_cons] at piece_of
      rw [split] at later
      rcases List.mem_cons.mp piece_of with rfl | piece_of
      · rcases List.mem_cons.mp among with rfl | among
        · exact ⟨List.mem_cons_self, Bool.eq_false_iff.mpr differ⟩
        · exact later List.mem_cons_self among
      · exact later (List.mem_cons_of_mem _ piece_of) among

theorem of_mem_splitOn {sep c : Char} {cs piece : List Char} (piece_of : piece ∈ cs.splitOn sep)
    (among : c ∈ piece) : c ∈ cs ∧ c ≠ sep := by
  rw [List.splitOn_eq_splitOnP] at piece_of
  obtain ⟨inside, other⟩ := of_mem_splitOnP piece_of among
  exact ⟨inside, by simpa using other⟩

theorem length_splitOn (sep : Char) (cs : List Char) :
    (cs.splitOn sep).length = cs.count sep + 1 := by
  induction cs with
  | nil => rfl
  | cons c cs ih =>
    rw [List.splitOn_cons_eq_if_modifyHead, List.count_cons]
    split
    · rw [List.length_cons, ih]
    · rw [List.length_modifyHead, ih, Nat.add_zero]

/-- No blank stands at either end. -/
def Trimmed (cs : List Char) : Prop :=
  (∀ c ∈ cs.head?, isBlank c = false) ∧ ∀ c ∈ cs.getLast?, isBlank c = false

theorem trim_of_trimmed {cs : List Char} (trimmed : Trimmed cs) : trim cs = cs := by
  obtain ⟨first, last⟩ := trimmed
  rw [trim, dropWhile_of_head first, dropWhile_of_head (by rwa [List.head?_reverse]),
    List.reverse_reverse]

theorem trimmed_trim (cs : List Char) : Trimmed (trim cs) := by
  constructor
  · -- what is dropped at the end leaves the first character where it is
    have front : trim cs <+: cs.dropWhile isBlank :=
      List.reverse_suffix.mp (by simpa [trim] using List.dropWhile_suffix isBlank)
    obtain ⟨behind, split⟩ := front
    intro c first
    refine head?_dropWhile cs c ?_
    rw [← split, List.head?_append, Option.mem_def.mp first]
    rfl
  · rw [trim, List.getLast?_reverse]
    exact head?_dropWhile _

theorem mem_of_mem_trim {cs : List Char} {c : Char} (among : c ∈ trim cs) : c ∈ cs := by
  have inner := List.dropWhile_subset _ (List.mem_reverse.mp among)
  exact List.dropWhile_subset _ (List.mem_reverse.mp inner)

theorem trim_eq_nil_iff {cs : List Char} : trim cs = [] ↔ ∀ c ∈ cs, isBlank c = true := by
  rw [trim, List.reverse_eq_nil_iff, List.dropWhile_eq_nil_iff]
  constructor
  · intro blank c among
    by_contra visible
    have left : c ∈ cs.dropWhile isBlank := by
      rw [← List.takeWhile_append_dropWhile (p := isBlank) (l := cs)] at among
      rcases List.mem_append.mp among with taken | left
      · exact absurd (List.mem_takeWhile_imp taken) visible
      · exact left
    exact visible (blank c (List.mem_reverse.mpr left))
  · intro blank c among
    exact blank c (List.dropWhile_subset _ (List.mem_reverse.mp among))

theorem withoutLast_concat (cs : List Char) (c : Char) : withoutLast c (cs ++ [c]) = cs := by
  rw [withoutLast, List.getLast?_concat, if_pos rfl, List.dropLast_concat]

theorem mem_of_mem_withoutLast {cs : List Char} {c d : Char} (among : d ∈ withoutLast c cs) :
    d ∈ cs := by
  unfold withoutLast at among
  split at among
  · exact List.dropLast_subset _ among
  · exact among

end Latchkey.Text
