import Latchkey.Proofs.Registry.Journal
import Mathlib.Data.List.Basic

namespace Latchkey.Registry

/-- When a function came first in a journal. -/
def arrival (journal : List Origin) (f : FuncId) : Nat := (journal.map (·.function)).idxOf f

/-- The first pair of a journal, among all its functions, whose template can have made a key. -/
def earliest? (journal : List Origin) (key : String) : Option Origin :=
  journal.find? (·.makes key)

/-- The first pair of one function in a journal whose template can have made a key. -/
def earliestOf? (journal : List Origin) (key : String) (f : FuncId) : Option Origin :=
  journal.find? fun o => o.function = f ∧ o.makes key

theorem origins_of_group (journal : List Origin) (f : FuncId) :
    (group journal f).templates.map (Origin.mk f) = journal.filter (·.function = f) := by
  rw [group, List.map_map]
  refine (List.map_congr_left fun o ho => ?_).trans (List.map_id _)
  have owner : o.function = f := of_decide_eq_true (List.mem_filter.mp ho).2
  rw [← owner]
  rfl

theorem pairs_ofJournal (journal : List Origin) :
    (ofJournal journal).pairs =
      (journal.map (·.function)).eraseDups.flatMap fun f => journal.filter (·.function = f) := by
  rw [pairs, ofJournal, List.flatMap_map]
  exact congrArg (List.flatMap · _) (funext (origins_of_group journal))

/-- A look-up takes the function that came first among those with a matching template, and the first
such template of that function. -/
theorem originOf?_ofJournal (journal : List Origin) (key : String) :
    (ofJournal journal).originOf? key =
      (journal.map (·.function)).findSome? (earliestOf? journal key) := by
  change (ofJournal journal).pairs.find? (·.makes key) = _
  rw [pairs_ofJournal, List.find?_flatMap, findSome?_eraseDups]
  unfold earliestOf?
  simp [List.find?_filter]

theorem earliestOf?_of_earliest? {journal : List Origin} {key : String} {o : Origin}
    (first : earliest? journal key = some o) : earliestOf? journal key o.function = some o := by
  obtain ⟨made, before, after, rfl, early⟩ := List.find?_eq_some_iff_append.mp first
  refine List.find?_eq_some_iff_append.mpr ⟨by simpa using made, before, after, rfl, ?_⟩
  intro p hp
  have unmade := early p hp
  simp_all

theorem mem_of_earliestOf? {journal : List Origin} {key : String} {f : FuncId} {o : Origin}
    (found : earliestOf? journal key f = some o) :
    o ∈ journal ∧ o.function = f ∧ o.makes key = true := by
  have made := List.find?_some found
  exact ⟨List.mem_of_find?_eq_some found, by simpa using made⟩

theorem originOf?_eq_none_iff (journal : List Origin) (key : String) :
    (ofJournal journal).originOf? key = none ↔ ∀ o ∈ journal, o.makes key = false := by
  rw [originOf?_ofJournal, List.findSome?_eq_none_iff]
  constructor
  · intro unmade o ho
    have none_of := List.find?_eq_none.mp (unmade _ (List.mem_map_of_mem ho)) o ho
    simpa using none_of
  · intro unmade f _
    exact List.find?_eq_none.mpr fun o ho => by simp [unmade o ho]

theorem none_of_findSome? {α β : Type} {g : α → Option β} {before rest : List α} {b : β}
    (given : (before ++ rest).findSome? g = some b) (elsewhere : ∀ a ∈ before, g a ≠ some b) :
    ∀ a ∈ before, g a = none := by
  cases found : before.findSome? g with
  | none => exact List.findSome?_eq_none_iff.mp found
  | some b' =>
    rw [List.findSome?_append, found, Option.some_or] at given
    obtain ⟨a, among, taken⟩ := List.exists_of_findSome?_eq_some found
    exact absurd (taken.trans given) (elsewhere a among)

theorem arrival_le_iff {journal : List Origin} {f : FuncId} {before after : List FuncId}
    (split : journal.map (·.function) = before ++ f :: after) (late : f ∉ before) (g : FuncId) :
    arrival journal f ≤ arrival journal g ↔ g ∉ before := by
  have ours : arrival journal f = before.length := by
    simp [arrival, split, List.idxOf_append_of_notMem late]
  rw [ours, arrival, split]
  constructor
  · intro ahead early
    rw [List.idxOf_append_of_mem early] at ahead
    have sooner := List.idxOf_lt_length_of_mem early
    omega
  · intro behind
    rw [List.idxOf_append_of_notMem behind]
    omega

/-- A look-up gives the earliest pair exactly if no function that came before the function of this
pair has a matching template. -/
theorem originOf?_eq_earliest?_iff (journal : List Origin) (key : String) :
    (ofJournal journal).originOf? key = earliest? journal key ↔
      ∀ o, earliest? journal key = some o → ∀ p ∈ journal, p.makes key = true →
        arrival journal o.function ≤ arrival journal p.function := by
  cases first : earliest? journal key with
  | none =>
    have unmade := (originOf?_eq_none_iff journal key).mpr fun o ho => by
      simpa using List.find?_eq_none.mp first o ho
    simp [unmade]
  | some o =>
    have ours := earliestOf?_of_earliest? first
    have came : o.function ∈ journal.map (·.function) :=
      List.mem_map_of_mem (mem_of_earliestOf? ours).1
    obtain ⟨before, after, split, late⟩ := List.eq_append_cons_of_mem came
    rw [originOf?_ofJournal]
    constructor
    · rintro given _ ⟨⟩ p hp made
      rw [arrival_le_iff split late]
      intro early
      -- a match of an earlier function would be found instead
      have elsewhere : ∀ f ∈ before, earliestOf? journal key f ≠ some o :=
        fun f hf taken => late ((mem_of_earliestOf? taken).2.1 ▸ hf)
      have unmade := none_of_findSome? (split ▸ given) elsewhere _ early
      exact List.find?_eq_none.mp unmade p hp (by simpa using made)
    · intro ahead
      refine List.findSome?_eq_some_iff.mpr ⟨before, o.function, after, split, ours, ?_⟩
      intro f early
      refine List.find?_eq_none.mpr fun p hp made => ?_
      obtain ⟨owner, makes⟩ : p.function = f ∧ p.makes key = true := by simpa using made
      exact (arrival_le_iff split late f).mp (owner ▸ ahead o rfl p hp makes) early

/-- After any calls of `register`, a look-up finds nothing exactly if no registered template
matches. Else it goes through the functions in the order in which they came first, and takes the
earliest matching pair of the first function that has one. It gives the earliest matching pair of
all exactly if no function that came before the function of that pair has a matching template. -/
theorem lookup_by_arrival (calls : List Origin) (key : String) :
    let journal := empty.fresh calls
    let found := (empty.registerAll calls).originOf? key
    (found = none ↔ ∀ o ∈ journal, o.makes key = false) ∧
    found = (journal.map (·.function)).findSome? (earliestOf? journal key) ∧
    (found = earliest? journal key ↔
      ∀ o, earliest? journal key = some o → ∀ p ∈ journal, p.makes key = true →
        arrival journal o.function ≤ arrival journal p.function) := by
  intro journal found
  have reached : found = (ofJournal journal).originOf? key := by
    rw [← registerAll_empty calls]
  rw [reached]
  exact ⟨originOf?_eq_none_iff journal key, originOf?_ofJournal journal key,
    originOf?_eq_earliest?_iff journal key⟩

/-- The earliest pair does not always win: a later template of a function that came first is ahead
of it. -/
theorem later_pair_ahead :
    let x : Template := ⟨"x", [.literal "x"], by decide +kernel⟩
    let k : Template := ⟨"k", [.literal "k"], by decide +kernel⟩
    let calls : List Origin := [⟨⟨"m", "one"⟩, x⟩, ⟨⟨"m", "two"⟩, k⟩, ⟨⟨"m", "one"⟩, k⟩]
    earliest? (empty.fresh calls) "k" = some ⟨⟨"m", "two"⟩, k⟩ ∧
      (empty.registerAll calls).originOf? "k" = some ⟨⟨"m", "one"⟩, k⟩ :=
  ⟨rfl, rfl⟩

end Latchkey.Registry
