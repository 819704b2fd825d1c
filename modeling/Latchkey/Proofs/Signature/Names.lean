import Latchkey.Proofs.Signature.Key
import Latchkey.Proofs.Template.Printing

/-!
Module and name of a function are taken literally in its template, but the names of the parameters
stand there as they are, and a name may hold marks of the grammar. `parameters_read_apart`: each
parameter is then read by itself, whatever the others are called, and the fields are the listed
parameters exactly if none of their names has a mark.
-/

namespace Latchkey

/-- The name of a field never has a mark. -/
theorem Field.Written.unmarked {f : Field} (written : f.Written) : Unmarked f.name := by
  obtain ⟨body, plain, parts, -⟩ := written
  obtain ⟨head, spec, ignored, colon, mark, -⟩ := parts.parts
  have named : Braceless f.name.toList :=
    plain.of_subset (List.Subset.trans mark.front_subset colon.front_subset)
  have colons : ':' ∉ f.name.toList := fun among => colon.not_mem (mark.front_subset among)
  unfold Unmarked marks
  simp only [List.forall_mem_cons]
  exact ⟨named.1, named.2, colons, mark.not_mem, fun c among => absurd among List.not_mem_nil⟩

namespace Signature

theorem toList_parameterSource (p : String) :
    (parameterSource p).toList =
      separator :: (p.toList ++ [separator]) ++ '{' :: (p.toList ++ ['}']) := by
  simp [parameterSource, String.toList_append, separator]

/-- An unmarked name is a parameter if it is a path, and otherwise it is refused. -/
theorem reads_parameter_iff {p : String} (unmarked : Unmarked p) {xs : List Item} :
    Item.Reads (parameterSource p).toList xs ↔
      Path.WellFormed p.toList ∧ xs = parameterItems p := by
  constructor
  · intro whole
    have label := Item.Reads.separator.append
      ((Item.Reads.plain unmarked.braceless).append Item.Reads.separator)
    rw [toList_parameterSource] at whole
    obtain ⟨zs, field, -⟩ := label.of_append whole
    have taken := (items_eq_ok_iff 0).mpr field
    rw [items_field 0 unmarked.braceless unmarked.body] at taken
    have path : Path.WellFormed p.toList := by
      by_contra malformed
      rw [if_neg (mt Path.isPath_iff.mp malformed)] at taken
      split at taken <;> cases taken
    rw [← toList_parameterSource] at whole
    exact ⟨path, whole.unique (reads_parameter unmarked path)⟩
  · rintro ⟨path, rfl⟩
    exact reads_parameter unmarked path

/-- Every part ends with a closing brace, and a separator stands in front of the next one. -/
theorem reads_each {params : List String} {xs : List Item}
    (reads : Item.Reads (String.join (params.map parameterSource)).toList xs) :
    ∀ p ∈ params, ∃ row, Item.Reads (parameterSource p).toList row := by
  induction params generalizing xs with
  | nil => exact fun p among => absurd among List.not_mem_nil
  | cons p params ih =>
    rw [List.map_cons, String.join_cons, String.toList_append] at reads
    have closed : (parameterSource p).toList.getLast? = some '}' := by
      rw [parameterSource, String.toList_append]
      exact List.getLast?_concat ..
    have apart : (String.join (params.map parameterSource)).toList.head? ≠ some '}' := by
      cases params with
      | nil => decide
      | cons q params =>
        simp [String.join_cons, String.toList_append, toList_parameterSource, separator]
    obtain ⟨row, rest, first, later, -⟩ := reads.split closed apart
    exact List.forall_mem_cons.mpr ⟨⟨row, first⟩, ih later⟩

theorem reads_templateText_iff {id : FuncId} {params : List String} :
    (∃ xs, Item.Reads (templateText id params).toList xs) ↔
      ∀ p ∈ params, ∃ row, Item.Reads (parameterSource p).toList row := by
  constructor
  · rintro ⟨xs, reads⟩
    have front : Item.Reads (escape id.home ++ ":" ++ escape id.name).toList
        (id.home.toList.map .char ++ [.char separator] ++ id.name.toList.map .char) := by
      rw [String.toList_append, String.toList_append]
      exact ((Item.Reads.escape _).append Item.Reads.separator).append (Item.Reads.escape _)
    unfold templateText at reads
    rw [String.toList_append] at reads
    obtain ⟨rest, later, -⟩ := front.of_append reads
    exact reads_each later
  · intro each
    choose! row reads using each
    exact ⟨_, reads_templateText reads⟩

variable {sig : Signature} {listed : Option (List String)}

/-- There is a template exactly if every listed parameter has one by itself. -/
theorem template_iff :
    (∃ t, sig.template listed = .ok t) ↔
      ∀ p ∈ listed.getD sig.params, ∃ part, Template.parse (parameterSource p) = .ok part := by
  unfold template
  simp only [Template.accepted_iff]
  exact reads_templateText_iff

/-- The items of a template are those of its parts. -/
theorem items_of_parts {t : Template} (taken : sig.template listed = .ok t)
    {row : String → List Item}
    (each : ∀ p ∈ listed.getD sig.params, Item.Reads (parameterSource p).toList (row p)) :
    t.items = sig.id.home.toList.map .char ++ .char separator ::
      (sig.id.name.toList.map .char ++ (listed.getD sig.params).flatMap row) :=
  (Template.reads_of_parse taken).unique (reads_templateText each)

theorem fields_of_parts {t : Template} (taken : sig.template listed = .ok t)
    {row : String → List Item}
    (each : ∀ p ∈ listed.getD sig.params, Item.Reads (parameterSource p).toList (row p)) :
    t.fields = (listed.getD sig.params).flatMap fun p => (row p).filterMap Item.field? := by
  rw [Template.fields_eq, items_of_parts taken each, List.filterMap_append, fields_literal,
    List.filterMap_cons_none rfl, List.filterMap_append, fields_literal, List.filterMap_flatMap]
  rfl

theorem glob_of_parts {t : Template} (taken : sig.template listed = .ok t)
    {row : String → List Item}
    (each : ∀ p ∈ listed.getD sig.params, Item.Reads (parameterSource p).toList (row p)) :
    t.glob = sig.id.text ++ String.join ((listed.getD sig.params).map fun p =>
      String.ofList ((row p).flatMap (Item.spell fun _ => "*"))) := by
  rw [Template.glob_eq, items_of_parts taken each, FuncId.text, ← String.toList_inj,
    String.toList_ofList, List.flatMap_append, spell_literal, List.flatMap_cons,
    List.flatMap_append, spell_literal, List.flatMap_assoc]
  simp [String.toList_append, String.toList_join, List.flatMap_map, Item.spell, separator]

theorem unmarked_of_fields {t : Template}
    (named : t.fields = (listed.getD sig.params).map (⟨·, none⟩)) :
    ∀ p ∈ listed.getD sig.params, Unmarked p := by
  intro p among
  have field : (⟨p, none⟩ : Field) ∈ t.fields := by
    rw [named]
    exact List.mem_map_of_mem among
  exact (t.reads_items.written_of_mem (Template.mem_fields_iff.mp field)).unmarked

/-- A template has a part for each listed parameter. -/
theorem exists_parts {t : Template} (taken : sig.template listed = .ok t) :
    ∃ part : String → Template,
      (∀ p ∈ listed.getD sig.params, Template.parse (parameterSource p) = .ok (part p)) ∧
      ∀ p ∈ listed.getD sig.params, Item.Reads (parameterSource p).toList (part p).items := by
  have parts := template_iff.mp ⟨t, taken⟩
  have : Nonempty Template := ⟨t⟩
  choose! part made using parts
  exact ⟨part, made, fun p among => Template.reads_of_parse (made p among)⟩

/-- Where no name has a mark, the parts are the listed parameters as they stand. -/
theorem reads_each_of_unmarked {t : Template} (taken : sig.template listed = .ok t)
    (unmarked : ∀ p ∈ listed.getD sig.params, Unmarked p) :
    ∀ p ∈ listed.getD sig.params,
      Item.Reads (parameterSource p).toList (parameterItems p) := by
  obtain ⟨part, -, each⟩ := exists_parts taken
  intro p among
  obtain ⟨path, -⟩ := (reads_parameter_iff (unmarked p among)).mp (each p among)
  exact reads_parameter (unmarked p among) path

theorem fields_parameterItems (p : String) :
    (parameterItems p).filterMap Item.field? = [⟨p, none⟩] := by
  rw [parameterItems, List.filterMap_cons_none rfl, List.filterMap_append, fields_literal]
  rfl

/-- **Every parameter is read by itself.** There is a template exactly if the part of every listed
parameter is one; its fields and its glob are those of the parts in a row. The fields are the listed
parameters, without calls, exactly if no name has a mark, and the glob is then the key in which
every parameter is a star. -/
theorem parameters_read_apart (sig : Signature) (listed : Option (List String)) :
    ((∃ t, sig.template listed = .ok t) ↔
      ∀ p ∈ listed.getD sig.params, ∃ part, Template.parse (parameterSource p) = .ok part) ∧
    ∀ t, sig.template listed = .ok t →
      (∃ part : String → Template,
        (∀ p ∈ listed.getD sig.params, Template.parse (parameterSource p) = .ok (part p)) ∧
        t.fields = (listed.getD sig.params).flatMap (fun p => (part p).fields) ∧
        t.glob = sig.id.text ++ String.join ((listed.getD sig.params).map fun p => (part p).glob)) ∧
      (t.fields = (listed.getD sig.params).map (⟨·, none⟩) ↔
        ∀ p ∈ listed.getD sig.params, Unmarked p) ∧
      ((∀ p ∈ listed.getD sig.params, Unmarked p) →
        t.glob = String.ofList (keyText sig.id (listed.getD sig.params) fun _ => "*")) := by
  refine ⟨template_iff, fun t taken => ?_⟩
  refine ⟨?_, ⟨unmarked_of_fields, fun unmarked => ?_⟩, fun unmarked => ?_⟩
  · obtain ⟨part, made, each⟩ := exists_parts taken
    refine ⟨part, made, ?_, ?_⟩
    · rw [fields_of_parts taken each]
      simp only [Template.fields_eq]
    · rw [glob_of_parts taken each]
      simp only [Template.glob_eq]
  · rw [fields_of_parts taken (reads_each_of_unmarked taken unmarked)]
    simp only [fields_parameterItems]
    exact List.map_eq_flatMap.symm
  · rw [Template.glob_eq, items_of_parts taken (reads_each_of_unmarked taken unmarked)]
    exact congrArg String.ofList (spell_derivedItems ..)

/-- Names that are paths have no mark, and stand in the fields as they are. -/
theorem paths_stand_in_fields :
    let sig : Signature := ⟨⟨"m", "f"⟩, ["user.id", "items[0]"]⟩
    ∃ t, sig.template none = .ok t ∧ t.fields = [⟨"user.id", none⟩, ⟨"items[0]", none⟩] ∧
      t.glob = "m:f:user.id:*:items[0]:*" := by
  intro sig
  have unmarked : ∀ p ∈ sig.params, Unmarked p := by decide +kernel
  have paths : ∀ p ∈ sig.params, Path.isPath p.toList = true := by decide +kernel
  obtain ⟨accepted, kept⟩ := parameters_read_apart sig none
  obtain ⟨t, taken⟩ := accepted.mpr fun p among => Template.accepted_iff.mpr
    ⟨_, reads_parameter (unmarked p among) (Path.isPath_iff.mp (paths p among))⟩
  obtain ⟨-, named, starred⟩ := kept t taken
  exact ⟨t, taken, named.mpr unmarked, (starred unmarked).trans (by decide +kernel)⟩

/-- The value of a parameter that is not listed: the name of the listed one is read up to the mark
in it. -/
theorem marked_name_takes_other_value :
    let sig : Signature := ⟨⟨"m", "f"⟩, ["x", "x!r"]⟩
    let f : Formatter := .ofFunctions []
    ∃ t, sig.template (some ["x!r"]) = .ok t ∧
      t.fields ≠ ["x!r"].map (⟨·, none⟩) ∧
      sig.key f t ⟨[.int 1, .int 2], []⟩ = .ok "m:f:x!r:1" := by
  intro sig f
  let t : Template := ⟨"m:f:x!r:\x7bx!r\x7d", [.literal "m:f:x!r:", .field ⟨"x", none⟩],
    by decide +kernel⟩
  exact ⟨t, by decide +kernel, by decide +kernel, by decide +kernel⟩

end Signature
end Latchkey
