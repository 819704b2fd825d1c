import Latchkey.Proofs.Template.Printing

/-!
The grammar takes a name apart into a root and steps, each step between its delimiters. The
components of a field come from cutting its name at every dot and bracket instead, which also cuts
an index that holds a dot. `path_as_written_iff`: the two come to the same exactly where no index
does, and only there does every look-up take the steps that are written.
-/

namespace Latchkey

namespace Path

instance (cs : List Char) : Decidable (Member cs) := inferInstanceAs (Decidable (_ ∧ _))

instance (cs : List Char) : Decidable (Index cs) := inferInstanceAs (Decidable (_ ∧ _))

/-- A step into a value, with the text between its delimiters. -/
inductive Step where
  | member (name : List Char)
  | index (inner : List Char)
deriving Repr, DecidableEq

namespace Step

/-- What stands between the delimiters. -/
def text : Step → List Char
  | member name => name
  | index inner => inner

/-- What the step is looked up by: the name of a member, or what an index falls into at its dots. -/
def pieces : Step → List (List Char)
  | member name => [name]
  | index inner => (inner.splitOn '.').filter fun piece => piece ≠ []

/-- The step as it is written. -/
def source : Step → List Char
  | member name => '.' :: name
  | index inner => '[' :: (inner ++ [']'])

/-- The text is one that may stand between these delimiters. -/
def Proper : Step → Prop
  | member name => Member name
  | index inner => Index inner

instance : (s : Step) → Decidable s.Proper
  | member name => inferInstanceAs (Decidable (Member name))
  | index inner => inferInstanceAs (Decidable (Index inner))

end Step

/-- A path as the grammar takes it apart: a root, and steps from there. -/
@[ext] structure Route where
  root : List Char
  steps : List Step
  named : Member root
  proper : ∀ s ∈ steps, s.Proper

namespace Route

/-- The path as it is written. -/
def source (r : Route) : List Char := r.root ++ r.steps.flatMap Step.source

/-- One text for the root and one for each step, in order. -/
def texts (r : Route) : List (List Char) := r.root :: r.steps.map Step.text

/-- The texts as the names that a look-up goes by. -/
def names (r : Route) : List String := r.texts.map String.ofList

end Route

theorem steps_sources {steps : List Step} (proper : ∀ s ∈ steps, s.Proper) :
    Steps (steps.flatMap Step.source) := by
  induction steps with
  | nil => exact .nil
  | cons s steps ih =>
    obtain ⟨here, later⟩ := List.forall_mem_cons.mp proper
    rw [List.flatMap_cons]
    cases s with
    | member name => exact .member here (ih later)
    | index inner =>
      simp only [Step.source, List.cons_append, List.append_assoc, List.nil_append]
      exact .index here (ih later)

theorem exists_steps {cs : List Char} (steps : Steps cs) :
    ∃ xs : List Step, (∀ s ∈ xs, s.Proper) ∧ xs.flatMap Step.source = cs := by
  induction steps with
  | nil => exact ⟨[], by simp, rfl⟩
  | @member name rest member _ ih =>
    obtain ⟨xs, proper, rfl⟩ := ih
    exact ⟨.member name :: xs, List.forall_mem_cons.mpr ⟨member, proper⟩, rfl⟩
  | @index inner rest index _ ih =>
    obtain ⟨xs, proper, rfl⟩ := ih
    refine ⟨.index inner :: xs, List.forall_mem_cons.mpr ⟨index, proper⟩, ?_⟩
    simp [Step.source]

/-- Every path has a route. -/
theorem WellFormed.exists_route {cs : List Char} (path : WellFormed cs) :
    ∃ r : Route, r.source = cs := by
  obtain ⟨member, steps⟩ := path
  obtain ⟨xs, proper, rfl⟩ := exists_steps steps
  exact ⟨⟨_, xs, member, proper⟩, rfl⟩

/-- A member name ends where the next step begins. -/
theorem member_inj {name other : List Char} {xs ys : List Step} (first : Member name)
    (second : Member other) (properx : ∀ s ∈ xs, s.Proper) (propery : ∀ s ∈ ys, s.Proper)
    (same : name ++ xs.flatMap Step.source = other ++ ys.flatMap Step.source) :
    name = other ∧ xs.flatMap Step.source = ys.flatMap Step.source := by
  have taken := Text.takeWhile_of_stop (inMember_of_member first) _ (steps_sources properx).stops
  have taken' := Text.takeWhile_of_stop (inMember_of_member second) _ (steps_sources propery).stops
  rw [same] at taken
  exact ⟨taken.1.symm.trans taken'.1, taken.2.symm.trans taken'.2⟩

/-- An index ends at the first closing bracket. -/
theorem index_inj {inner other front behind : List Char} (first : Index inner)
    (second : Index other) (same : inner ++ ']' :: front = other ++ ']' :: behind) :
    inner = other ∧ front = behind := by
  have within : ∀ {cs : List Char}, Index cs → ∀ c ∈ cs, inIndex c = true := by
    intro cs index c among
    simpa [inIndex] using ne_of_mem_of_not_mem among index.2.2
  have taken := Text.takeWhile_of_stop (within first) (']' :: front) (by simp [inIndex])
  have taken' := Text.takeWhile_of_stop (within second) (']' :: behind) (by simp [inIndex])
  rw [same] at taken
  exact ⟨taken.1.symm.trans taken'.1, (List.cons.inj (taken.2.symm.trans taken'.2)).2⟩

theorem steps_inj {xs ys : List Step} (properx : ∀ s ∈ xs, s.Proper)
    (propery : ∀ s ∈ ys, s.Proper)
    (same : xs.flatMap Step.source = ys.flatMap Step.source) : xs = ys := by
  induction xs generalizing ys with
  | nil =>
    cases ys with
    | nil => rfl
    | cons y ys => cases y <;> simp [Step.source] at same
  | cons x xs ih =>
    obtain ⟨herex, laterx⟩ := List.forall_mem_cons.mp properx
    cases ys with
    | nil => cases x <;> simp [Step.source] at same
    | cons y ys =>
      obtain ⟨herey, latery⟩ := List.forall_mem_cons.mp propery
      cases x with
      | member name =>
        cases y with
        | member other =>
          obtain ⟨rfl, rest⟩ :=
            member_inj herex herey laterx latery (List.cons.inj same).2
          rw [ih laterx latery rest]
        | index other => simp [Step.source] at same
      | index inner =>
        cases y with
        | member other => simp [Step.source] at same
        | index other =>
          simp only [List.flatMap_cons, Step.source, List.cons_append, List.append_assoc,
            List.nil_append, List.cons.injEq, true_and] at same
          obtain ⟨rfl, rest⟩ := index_inj herex herey same
          rw [ih laterx latery rest]

/-- A path has one route only. -/
theorem Route.source_inj {r q : Route} (same : r.source = q.source) : r = q := by
  obtain ⟨root, steps⟩ := member_inj r.named q.named r.proper q.proper same
  exact Route.ext root (steps_inj r.proper q.proper steps)

/-- The pieces between dots and brackets, empty ones left out. -/
def cut (cs : List Char) : List (List Char) := (cs.splitOnP isStep).filter fun piece => piece ≠ []

theorem isStep_eq_false_iff {c : Char} : isStep c = false ↔ c ≠ '.' ∧ c ≠ '[' ∧ c ≠ ']' := by
  simp [isStep, and_assoc]

theorem isStep_of_mem_cut {cs piece : List Char} {c : Char} (piece_of : piece ∈ cut cs)
    (among : c ∈ piece) : isStep c = false :=
  (Text.of_mem_splitOnP (List.mem_of_mem_filter piece_of) among).2

theorem cut_append_cons {c : Char} (delimits : isStep c = true) (front rest : List Char) :
    cut (front ++ c :: rest) = cut front ++ cut rest := by
  unfold cut
  rw [List.splitOnP_append_cons _ _ delimits, List.filter_append]

theorem cut_of_member {cs : List Char} (member : Member cs) : cut cs = [cs] := by
  obtain ⟨visible, dot, opening, closing⟩ := member
  have plain : ∀ c ∈ cs, isStep c = false := by
    intro c among
    apply isStep_eq_false_iff.mpr
    refine ⟨?_, ?_, ?_⟩ <;> rintro rfl <;> contradiction
  unfold cut
  rw [List.splitOnP_eq_singleton plain]
  simp [visible]

theorem splitOnP_congr {p q : Char → Bool} {cs : List Char} (same : ∀ c ∈ cs, p c = q c) :
    cs.splitOnP p = cs.splitOnP q := by
  induction cs with
  | nil => rfl
  | cons c cs ih =>
    obtain ⟨here, later⟩ := List.forall_mem_cons.mp same
    simp only [List.splitOnP_cons_eq_if_modifyHead, here, ih later]

/-- An index has no brackets, so it is cut at its dots. -/
theorem cut_of_index {inner : List Char} (index : Index inner) :
    cut inner = (Step.index inner).pieces := by
  have dots : ∀ c ∈ inner, isStep c = (c == '.') := by
    intro c among
    have opening : (c == '[') = false := beq_false_of_ne (ne_of_mem_of_not_mem among index.2.1)
    have closing : (c == ']') = false := beq_false_of_ne (ne_of_mem_of_not_mem among index.2.2)
    simp [isStep, opening, closing]
  rw [cut, Step.pieces, List.splitOn_eq_splitOnP, splitOnP_congr dots]

theorem cut_text {s : Step} (proper : s.Proper) : cut s.text = s.pieces := by
  cases s with
  | member name => exact cut_of_member proper
  | index inner => exact cut_of_index proper

theorem cut_append_steps (front : List Char) {steps : List Step} (proper : ∀ s ∈ steps, s.Proper) :
    cut (front ++ steps.flatMap Step.source) = cut front ++ steps.flatMap Step.pieces := by
  induction steps generalizing front with
  | nil => simp
  | cons s steps ih =>
    obtain ⟨here, later⟩ := List.forall_mem_cons.mp proper
    cases s with
    | member name =>
      calc cut (front ++ '.' :: (name ++ steps.flatMap Step.source))
          = cut front ++ cut (name ++ steps.flatMap Step.source) := cut_append_cons rfl _ _
        _ = cut front ++ (cut name ++ steps.flatMap Step.pieces) := by rw [ih name later]
        _ = cut front ++ ([name] ++ steps.flatMap Step.pieces) := by rw [cut_of_member here]
    | index inner =>
      have rest : cut (steps.flatMap Step.source) = steps.flatMap Step.pieces := ih [] later
      calc cut (front ++ (('[' :: (inner ++ [']'])) ++ steps.flatMap Step.source))
          = cut (front ++ '[' :: (inner ++ ']' :: steps.flatMap Step.source)) := by simp
        _ = cut front ++ (cut inner ++ cut (steps.flatMap Step.source)) := by
          rw [cut_append_cons rfl, cut_append_cons rfl]
        _ = cut front ++ ((Step.index inner).pieces ++ steps.flatMap Step.pieces) := by
          rw [cut_of_index here, rest]

/-- The step is looked up by its text. -/
theorem pieces_of_undotted {s : Step} (proper : s.Proper) (undotted : '.' ∉ s.text) :
    s.pieces = [s.text] := by
  cases s with
  | member name => rfl
  | index inner =>
    have plain : Member inner := ⟨proper.1, undotted, proper.2⟩
    exact (cut_of_index proper).symm.trans (cut_of_member plain)

/-- No piece of a step is a text with a dot. -/
theorem undotted_of_mem_pieces {s : Step} (proper : s.Proper) {piece : List Char}
    (piece_of : piece ∈ s.pieces) : '.' ∉ piece := by
  intro dotted
  rw [← cut_text proper] at piece_of
  exact absurd (isStep_of_mem_cut piece_of dotted) (by decide)

namespace Route

/-- No index holds a dot. -/
def Undotted (r : Route) : Prop := ∀ s ∈ r.steps, '.' ∉ s.text

instance (r : Route) : Decidable r.Undotted := inferInstanceAs (Decidable (∀ s ∈ r.steps, _))

variable {r : Route}

theorem cut_source (r : Route) : cut r.source = r.root :: r.steps.flatMap Step.pieces := by
  rw [source, cut_append_steps r.root r.proper, cut_of_member r.named]
  rfl

theorem pieces_of_undotted (undotted : r.Undotted) :
    r.steps.flatMap Step.pieces = r.steps.map Step.text := by
  have each : ∀ s ∈ r.steps, s.pieces = [s.text] := fun s among =>
    Path.pieces_of_undotted (r.proper s among) (undotted s among)
  rw [List.flatMap_congr each, List.map_eq_flatMap]

theorem cut_source_eq_texts_iff : cut r.source = r.texts ↔ r.Undotted := by
  constructor
  · intro same s among dotted
    have piece_of : s.text ∈ cut r.source := by
      rw [same, texts]
      exact List.mem_cons_of_mem _ (List.mem_map_of_mem among)
    exact absurd (isStep_of_mem_cut piece_of dotted) (by decide)
  · intro undotted
    rw [cut_source, pieces_of_undotted undotted, texts]

end Route

/-- A value in which these names, one after the other, lead to a leaf. -/
def nest : List String → Json
  | [] => .null
  | name :: names => .obj [(name, nest names)]

theorem walk_nest (names : List String) : names.foldlM Json.step? (nest names) = some .null := by
  induction names with
  | nil => rfl
  | cons name names ih =>
    have first : (nest (name :: names)).step? name = some (nest names) := by
      simp [nest, Json.step?, Named.find?]
    rw [List.foldlM_cons, first]
    exact ih

/-- Names that are not the one member of an object lead nowhere. -/
theorem walk_of_not_mem {name : String} {v : Json} {names : List String} (absent : name ∉ names) :
    names.foldlM Json.step? (.obj [(name, v)]) ≠ some .null := by
  cases names with
  | nil => simp
  | cons other names =>
    have differ : other ≠ name := fun same => absent (same ▸ List.mem_cons_self)
    have nowhere : (Json.obj [(name, v)]).step? other = none := by
      simp [Json.step?, Named.find?, differ]
    rw [List.foldlM_cons, nowhere]
    simp

/-- Where an index holds a dot, what it falls into does not lead to the leaf. -/
theorem walk_of_dotted {steps : List Step} (proper : ∀ s ∈ steps, s.Proper)
    (dotted : ∃ s ∈ steps, '.' ∈ s.text) :
    ((steps.flatMap Step.pieces).map String.ofList).foldlM Json.step?
      (nest (steps.map fun s => String.ofList s.text)) ≠ some .null := by
  induction steps with
  | nil => simp at dotted
  | cons s steps ih =>
    obtain ⟨here, later⟩ := List.forall_mem_cons.mp proper
    by_cases held : '.' ∈ s.text
    · -- neither the pieces of this step nor any later one have a dot, so none of them is its text
      apply walk_of_not_mem
      intro among
      obtain ⟨piece, piece_of, same⟩ := List.mem_map.mp among
      obtain ⟨s', among', piece_of⟩ := List.mem_flatMap.mp piece_of
      rw [String.ofList_injective same] at piece_of
      exact undotted_of_mem_pieces (proper s' among') piece_of held
    · have rest : ∃ s ∈ steps, '.' ∈ s.text := by
        simpa [held] using dotted
      have first : (nest ((s :: steps).map fun s => String.ofList s.text)).step?
          (String.ofList s.text) = some (nest (steps.map fun s => String.ofList s.text)) := by
        simp [nest, Json.step?, Named.find?]
      have pieces : ((s :: steps).flatMap Step.pieces).map String.ofList =
          String.ofList s.text :: (steps.flatMap Step.pieces).map String.ofList := by
        simp [Path.pieces_of_undotted here held]
      rw [pieces, List.foldlM_cons, first]
      exact ih later rest

/-- A route with a dot in an index is not looked up as it is written: the leaf at the end of its
texts is missed. -/
theorem Route.undotted_of_lookups {r : Route}
    (agree : ∀ values, lookup? values ((cut r.source).map String.ofList) =
      lookup? values r.names) : r.Undotted := by
  by_contra dotted
  have held : ∃ s ∈ r.steps, '.' ∈ s.text := by
    simpa [Route.Undotted] using dotted
  let leaf := nest (r.steps.map fun s => String.ofList s.text)
  have written : lookup? [(String.ofList r.root, leaf)] r.names = some .null := by
    simp [lookup?, Route.names, Route.texts, Named.find?, leaf, Function.comp_def, walk_nest]
  have taken := (agree _).trans written
  rw [r.cut_source] at taken
  simp only [List.map_cons, lookup?, Named.find?, if_pos, Option.bind_some] at taken
  exact walk_of_dotted r.proper held taken

end Path

/-- **A field steps through a value as it is written, unless an index holds a dot.** The name of
every field of a template has one route: a root and steps, each with the text between its
delimiters. The path of the field is the root and then the pieces of the steps, one for a member and
for an index what it falls into at its dots. So root and steps each give one component, equal to its
text, exactly if no index holds a dot; and exactly then every look-up takes the steps that are
written. -/
theorem path_as_written_iff {t : Template} {f : Field} (among : f ∈ t.fields) :
    ∃ r : Path.Route, r.source = f.name.toList ∧
      (∀ q : Path.Route, q.source = f.name.toList → q = r) ∧
      f.path = (r.root :: r.steps.flatMap Path.Step.pieces).map String.ofList ∧
      (f.path = r.names ↔ r.Undotted) ∧
      ((∀ values, f.value? values = lookup? values r.names) ↔ r.Undotted) := by
  obtain ⟨-, -, -, wellFormed⟩ :=
    t.reads_items.written_of_mem (Template.mem_fields_iff.mp among)
  obtain ⟨r, source⟩ := wellFormed.exists_route
  have path : f.path = (Path.cut r.source).map String.ofList := by
    rw [source]
    rfl
  have texts_of_names : Function.Injective (List.map String.ofList) :=
    List.map_injective_iff.mpr fun _ _ => String.ofList_injective
  have names : f.path = r.names ↔ r.Undotted := by
    rw [path, Path.Route.names, texts_of_names.eq_iff, Path.Route.cut_source_eq_texts_iff]
  refine ⟨r, source, fun q same => Path.Route.source_inj (same.trans source.symm), ?_, names, ?_⟩
  · rw [path, r.cut_source]
  · constructor
    · intro agree
      apply Path.Route.undotted_of_lookups
      intro values
      rw [← path]
      exact agree values
    · intro undotted values
      rw [Field.value?, names.mpr undotted]

/-- A member of an item of a member: three components. -/
theorem item_member_path :
    let t : Template := ⟨"\x7border.lines[0].sku\x7d", [.field ⟨"order.lines[0].sku", none⟩],
      by decide +kernel⟩
    let f : Field := ⟨"order.lines[0].sku", none⟩
    f ∈ t.fields ∧ f.path = ["order", "lines", "0", "sku"] ∧
      ∀ values, f.value? values = lookup? values ["order", "lines", "0", "sku"] := by
  intro t f
  let r : Path.Route := ⟨"order".toList,
    [.member "lines".toList, .index "0".toList, .member "sku".toList], by decide, by decide⟩
  have among : f ∈ t.fields := List.mem_singleton.mpr rfl
  obtain ⟨q, -, only, -, path, value⟩ := path_as_written_iff among
  obtain rfl : r = q := only r (by decide +kernel)
  have undotted : r.Undotted := by decide
  have names : r.names = ["order", "lines", "0", "sku"] := by decide +kernel
  rw [names] at path value
  exact ⟨among, path.mpr undotted, value.mpr undotted⟩

/-- An index with a dot is written as one step, and is looked up as two; one that is a dot only is
not looked up at all. -/
theorem dotted_index_cut :
    let t : Template := ⟨"\x7ba[b.c]\x7d\x7ba[.]\x7d",
      [.field ⟨"a[b.c]", none⟩, .field ⟨"a[.]", none⟩], by decide +kernel⟩
    let r : Path.Route := ⟨"a".toList, [.index "b.c".toList], by decide, by decide⟩
    let values : Values := [("a", .obj [("b", .obj [("c", .int 2)]), ("b.c", .int 1)])]
    t.fields = [⟨"a[b.c]", none⟩, ⟨"a[.]", none⟩] ∧
      t.fields.map Field.path = [["a", "b", "c"], ["a"]] ∧
      r.source = "a[b.c]".toList ∧ r.names = ["a", "b.c"] ∧
      lookup? values r.names = some (.int 1) ∧
      Field.value? ⟨"a[b.c]", none⟩ values = some (.int 2) := by
  intro t r values
  have paths : t.fields.map Field.path = [["a", "b", "c"], ["a"]] := by decide +kernel
  have names : r.names = ["a", "b.c"] := by decide +kernel
  have path : (Field.mk "a[b.c]" none).path = ["a", "b", "c"] := by decide +kernel
  refine ⟨rfl, paths, by decide +kernel, names, ?_, ?_⟩
  · rw [names]
    simp [values, lookup?, Named.find?, Json.step?]
  · rw [Field.value?, path]
    simp [values, lookup?, Named.find?, Json.step?]

end Latchkey
