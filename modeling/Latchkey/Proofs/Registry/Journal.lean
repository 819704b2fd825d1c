import Latchkey.Registry
import Mathlib.Data.List.Induction

/-!
A registry as a journal: the pairs that were new, in the order in which they came. The journal
decides the groups, and so everything that the registry answers.
-/

namespace Latchkey

/-- Whether the template of the pair can have made a key. -/
def Origin.makes (o : Origin) (key : String) : Bool := (Pattern.ofTemplate o.template).accepts key

namespace Registry

/-- The registry after some calls of `register`, one after another. -/
def registerAll (r : Registry) (calls : List Origin) : Registry :=
  calls.foldl (fun r o => (r.register o.function o.template).2) r

/-- The pairs that the calls register as new, in the order of the calls. -/
def fresh : Registry → List Origin → List Origin
  | _, [] => []
  | r, o :: calls =>
    let (new, after) := r.register o.function o.template
    if new then o :: after.fresh calls else after.fresh calls

/-- The templates that a journal has for a function. -/
def group (journal : List Origin) (f : FuncId) : Group :=
  ⟨f, (journal.filter (·.function = f)).map (·.template)⟩

/-- The registry with a journal: a group for each function, in the order in which the functions came
first. -/
def ofJournal (journal : List Origin) : Registry :=
  ⟨(journal.map (·.function)).eraseDups.map (group journal)⟩

theorem eraseDups_concat {α : Type} [DecidableEq α] (l : List α) (a : α) :
    (l ++ [a]).eraseDups = if a ∈ l then l.eraseDups else l.eraseDups ++ [a] := by
  rw [List.eraseDups_append]
  by_cases ha : a ∈ l <;> simp [List.removeAll, ha, List.eraseDups_cons]

theorem nodup_eraseDups {α : Type} [DecidableEq α] (l : List α) : l.eraseDups.Nodup := by
  induction l using List.reverseRecOn with
  | nil => simp
  | append_singleton l a ih =>
    rw [eraseDups_concat]
    split
    · exact ih
    · next ha => simpa [List.nodup_append, ih] using fun b hb => ne_of_mem_of_not_mem hb ha

theorem findSome?_eraseDups {α β : Type} [DecidableEq α] (g : α → Option β) (l : List α) :
    l.eraseDups.findSome? g = l.findSome? g := by
  induction l using List.reverseRecOn with
  | nil => simp
  | append_singleton l a ih =>
    rw [eraseDups_concat]
    split
    · next ha =>
      rw [List.findSome?_append, ih]
      cases h : l.findSome? g with
      | some b => rfl
      | none => simp [List.findSome?_eq_none_iff.mp h a ha]
    · rw [List.findSome?_append, List.findSome?_append, ih]

theorem addTo_map {groups : FuncId → Group} (named : ∀ f, (groups f).function = f) (f : FuncId)
    (t : Template) (fs : List FuncId) (once : fs.Nodup) :
    addTo f t (fs.map groups) =
      if f ∈ fs then
        fs.map fun a => if a = f then ⟨f, (groups f).templates ++ [t]⟩ else groups a
      else fs.map groups ++ [⟨f, [t]⟩] := by
  induction fs with
  | nil => simp [addTo]
  | cons a fs ih =>
    obtain ⟨absent, once⟩ := List.nodup_cons.mp once
    rw [List.map_cons, addTo, named]
    by_cases same : a = f
    · subst same
      have others : ∀ b ∈ fs, b ≠ a := fun b hb => ne_of_mem_of_not_mem hb absent
      have kept : fs.map groups =
          fs.map fun b => if b = a then ⟨a, (groups a).templates ++ [t]⟩ else groups b :=
        List.map_congr_left fun b hb => (if_neg (others b hb)).symm
      simp [kept]
    · rw [if_neg same, ih once]
      by_cases known : f ∈ fs
      · simp [known, same]
      · simp [known, Ne.symm same]

theorem find?_function (fs : List FuncId) (f : FuncId) :
    fs.find? (fun g => decide (g = f)) = if f ∈ fs then some f else none := by
  induction fs with
  | nil => simp
  | cons a fs ih =>
    by_cases same : a = f
    · simp [same]
    · simp [ih, same, Ne.symm same]

theorem group_of_absent {journal : List Origin} {f : FuncId}
    (absent : f ∉ journal.map (·.function)) : group journal f = ⟨f, []⟩ := by
  have none_of : journal.filter (·.function = f) = [] :=
    List.filter_eq_nil_iff.mpr fun o ho same =>
      absent (List.mem_map.mpr ⟨o, ho, of_decide_eq_true same⟩)
  rw [group, none_of, List.map_nil]

theorem group_concat (journal : List Origin) (o : Origin) (f : FuncId) :
    group (journal ++ [o]) f =
      if f = o.function then ⟨f, (group journal f).templates ++ [o.template]⟩
      else group journal f := by
  by_cases same : f = o.function
  · simp [group, same]
  · simp [group, same, Ne.symm same]

theorem templatesFor_ofJournal (journal : List Origin) (f : FuncId) :
    (ofJournal journal).templatesFor f = (group journal f).templates := by
  have found : (ofJournal journal).groups.find? (·.function = f) =
      if f ∈ journal.map (·.function) then some (group journal f) else none := by
    rw [ofJournal, List.find?_map]
    change ((journal.map _).eraseDups.find? fun g => decide (g = f)).map (group journal) = _
    rw [find?_function]
    simp only [List.mem_eraseDups]
    split <;> rfl
  rw [templatesFor, found]
  by_cases known : f ∈ journal.map (·.function)
  · rw [if_pos known]
  · rw [if_neg known, group_of_absent known]

theorem mem_templatesFor {journal : List Origin} {o : Origin} :
    o.template ∈ (ofJournal journal).templatesFor o.function ↔ o ∈ journal := by
  rw [templatesFor_ofJournal]
  constructor
  · intro kept
    obtain ⟨p, hp, same⟩ := List.mem_map.mp kept
    obtain ⟨hp, owner⟩ := List.mem_filter.mp hp
    obtain ⟨f, t⟩ := o
    obtain ⟨g, u⟩ := p
    simp_all
  · intro known
    exact List.mem_map.mpr ⟨o, by simpa using known, rfl⟩

/-- A call of `register` adds its pair to the journal, unless the pair is there already. -/
theorem register_ofJournal (journal : List Origin) (o : Origin) :
    (ofJournal journal).register o.function o.template =
      if o ∈ journal then (false, ofJournal journal)
      else (true, ofJournal (journal ++ [o])) := by
  simp only [register, mem_templatesFor]
  by_cases known : o ∈ journal
  · rw [if_pos known, if_pos known]
  · rw [if_neg known, if_neg known]
    congr 2
    rw [ofJournal, addTo_map (fun _ => rfl) _ _ _ (nodup_eraseDups _), List.map_append,
      List.map_singleton, eraseDups_concat]
    simp only [List.mem_eraseDups]
    -- the group of a known function grows; a new function has its group behind all others
    by_cases owner : o.function ∈ journal.map (·.function)
    · rw [if_pos owner, if_pos owner]
      refine List.map_congr_left fun f _ => ?_
      rw [group_concat]
      by_cases same : f = o.function
      · simp [same]
      · simp [same]
    · rw [if_neg owner, if_neg owner, List.map_append, List.map_singleton, group_concat,
        if_pos rfl, group_of_absent owner, List.nil_append]
      have others : ∀ f ∈ (journal.map (·.function)).eraseDups,
          group journal f = group (journal ++ [o]) f := by
        intro f hf
        have other : f ≠ o.function := ne_of_mem_of_not_mem (List.mem_eraseDups.mp hf) owner
        rw [group_concat, if_neg other]
      rw [List.map_congr_left others]

/-- The calls extend the journal by the pairs that they register as new. -/
theorem registerAll_ofJournal (journal calls : List Origin) :
    (ofJournal journal).registerAll calls =
      ofJournal (journal ++ (ofJournal journal).fresh calls) := by
  induction calls generalizing journal with
  | nil => simp [registerAll, fresh]
  | cons o calls ih =>
    rw [registerAll, List.foldl_cons, ← registerAll, fresh, register_ofJournal]
    by_cases known : o ∈ journal
    · simpa [known] using ih journal
    · simpa [known] using ih (journal ++ [o])

theorem registerAll_empty (calls : List Origin) :
    empty.registerAll calls = ofJournal (empty.fresh calls) :=
  registerAll_ofJournal [] calls

end Registry
end Latchkey
