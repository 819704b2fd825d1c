import Latchkey.Formatter
import Latchkey.Proofs.Template.Parsing

/-!
A template text made of escaped texts and of other templates is a template, made of their
characters and items. `format_eq`: a key is written item by item, whatever segments the items were
gathered into.
-/

namespace Latchkey

theorem Item.Reads.escape (text : String) :
    Item.Reads (escape text).toList (text.toList.map .char) := by
  unfold Latchkey.escape
  rw [String.toList_ofList]
  induction text.toList with
  | nil => exact .nil
  | cons c cs ih =>
    rw [List.flatMap_cons, List.map_cons]
    by_cases brace : c = '{' ∨ c = '}'
    · rw [if_pos brace]
      rcases brace with rfl | rfl
      · exact .opening ih
      · exact .closing ih
    · rw [if_neg brace]
      obtain ⟨opens, closes⟩ := not_or.mp brace
      exact .char (by simp [Braceless, Ne.symm opens, Ne.symm closes]) ih

theorem Item.Reads.plain {cs : List Char} (plain : Braceless cs) :
    Item.Reads cs (cs.map .char) := by
  induction cs with
  | nil => exact .nil
  | cons c cs ih =>
    obtain ⟨opening, closing⟩ := plain
    have first : Braceless [c] := by simp_all [Braceless]
    exact .char first (ih ⟨fun h => opening (by simp [h]), fun h => closing (by simp [h])⟩)

theorem Item.Reads.separator : Item.Reads [separator] [.char Latchkey.separator] :=
  .char (by decide) .nil

namespace Template

/-- The items of a template. -/
def items (t : Template) : List Item := t.segments.flatMap Segment.items

theorem reads_items (t : Template) : Item.Reads t.source.toList t.items :=
  (read_eq_ok_iff.mp t.reads).1

theorem reads_of_parse {source : String} {t : Template} (taken : parse source = .ok t) :
    Item.Reads source.toList t.items := by
  have reads := t.reads_items
  rwa [source_of_parse taken] at reads

/-- A text that is a row of items is a template with these items. -/
theorem exists_of_reads {source : String} {xs : List Item} (reads : Item.Reads source.toList xs) :
    ∃ t, parse source = .ok t ∧ t.source = source ∧ t.items = xs := by
  obtain ⟨kept, merged⟩ := ofItems_spec xs
  obtain ⟨t, taken, same, segments⟩ :=
    parse_eq_ok_iff.mpr ⟨kept.symm ▸ reads, merged⟩
  exact ⟨t, taken, same, by rw [items, segments, kept]⟩

/-- Below a namespace: the characters of the namespace, a separator, and the items of the
template. -/
theorem withPrefix_items (t : Template) (space : String) :
    ∃ t', t.withPrefix space = .ok t' ∧
      t'.items = space.toList.map .char ++ .char separator :: t.items := by
  have reads : Item.Reads (escape space ++ ":" ++ t.source).toList
      (space.toList.map .char ++ .char separator :: t.items) := by
    rw [String.toList_append, String.toList_append, List.append_assoc]
    exact (Item.Reads.escape space).append (Item.Reads.separator.append t.reads_items)
  obtain ⟨t', taken, -, made⟩ := exists_of_reads reads
  exact ⟨t', taken, made⟩

theorem withSuffix_items (t : Template) (text : String) :
    ∃ t', t.withSuffix text = .ok t' ∧
      t'.items = t.items ++ .char separator :: text.toList.map .char := by
  have reads : Item.Reads (t.source ++ ":" ++ escape text).toList
      (t.items ++ .char separator :: text.toList.map .char) := by
    rw [String.toList_append, String.toList_append, List.append_assoc]
    exact t.reads_items.append (Item.Reads.separator.append (Item.Reads.escape text))
  obtain ⟨t', taken, -, made⟩ := exists_of_reads reads
  exact ⟨t', taken, made⟩

end Template

/-- What an item puts into a key: its character, or the text of its field. -/
def Item.spell (say : Field → String) : Item → List Char
  | .char c => [c]
  | .field f => (say f).toList

/-- The field of an item. -/
def Item.field? : Item → Option Field
  | .char _ => none
  | .field f => some f

theorem spell_literal (say : Field → String) (text : List Char) :
    (text.map Item.char).flatMap (Item.spell say) = text := by
  induction text with
  | nil => rfl
  | cons c text ih => exact congrArg (c :: ·) ih

theorem spell_field (say : Field → String) (f : Field) :
    [Item.field f].flatMap (Item.spell say) = (say f).toList := by
  simp [Item.spell]

theorem fields_literal (text : List Char) : (text.map Item.char).filterMap Item.field? = [] := by
  simp [List.filterMap_eq_nil_iff, Item.field?]

namespace Template

/-- The fields of a template are those among its items. -/
theorem fields_eq (t : Template) : t.fields = t.items.filterMap Item.field? := by
  unfold fields items
  induction t.segments with
  | nil => rfl
  | cons s segments ih =>
    rw [List.flatMap_cons, List.filterMap_append, ← ih]
    cases s with
    | literal text => rw [Segment.items, fields_literal]; rfl
    | field f => rfl

theorem mem_fields_iff {t : Template} {field : Field} :
    field ∈ t.fields ↔ .field field ∈ t.items := by
  have carries : ∀ x : Item, x.field? = some field ↔ x = .field field := by
    intro x
    cases x <;> simp [Item.field?]
  simp [fields_eq, List.mem_filterMap, carries]

/-- The glob is the key in which every field has a star for its text. -/
theorem glob_eq (t : Template) :
    t.glob = String.ofList (t.items.flatMap (Item.spell fun _ => "*")) := by
  unfold glob items
  induction t.segments with
  | nil => rfl
  | cons s segments ih =>
    rw [List.map_cons, String.join_cons, ih, List.flatMap_cons, List.flatMap_append,
      String.ofList_append]
    cases s with
    | literal text => rw [Segment.items, spell_literal, String.ofList_toList, Segment.glob]
    | field f => rw [Segment.items, spell_field, String.ofList_toList, Segment.glob]

end Template

namespace Formatter

variable {f : Formatter} {values : Values} {say : Field → String}

/-- The text of an item: its character, or the text of its field. -/
def itemText (f : Formatter) (values : Values) : Item → Except KeyError String
  | .char c => .ok (String.singleton c)
  | .field field => f.fieldText values field

/-- The text of items, up to the first failure. -/
def itemsText (f : Formatter) (values : Values) : List Item → Except KeyError String
  | [] => .ok ""
  | x :: rest => do
    let text ← f.itemText values x
    let more ← f.itemsText values rest
    return text ++ more

theorem itemsText_append (xs ys : List Item) :
    f.itemsText values (xs ++ ys) =
      (f.itemsText values xs).bind fun front => (f.itemsText values ys).map (front ++ ·) := by
  induction xs with
  | nil =>
    rw [List.nil_append, itemsText]
    cases f.itemsText values ys <;> simp [Except.bind, Except.map]
  | cons x xs ih =>
    rw [List.cons_append, itemsText, itemsText, ih]
    cases f.itemText values x with
    | error e => rfl
    | ok text =>
      cases f.itemsText values xs with
      | error e => rfl
      | ok front =>
        cases f.itemsText values ys with
        | error e => rfl
        | ok behind => exact congrArg Except.ok (String.append_assoc ..).symm

theorem itemsText_literal (text : List Char) :
    f.itemsText values (text.map .char) = .ok (String.ofList text) := by
  induction text with
  | nil => rfl
  | cons c text ih =>
    rw [List.map_cons, itemsText, ih, String.ofList_cons]
    rfl

theorem segmentsText_eq (segments : List Segment) :
    f.segmentsText values segments = f.itemsText values (segments.flatMap Segment.items) := by
  induction segments with
  | nil => rfl
  | cons s segments ih =>
    have here : f.itemsText values s.items = f.segmentText values s := by
      cases s with
      | literal text => rw [Segment.items, itemsText_literal, String.ofList_toList, segmentText]
      | field g =>
        rw [Segment.items, itemsText, itemText, itemsText, segmentText]
        cases f.fieldText values g with
        | error e => rfl
        | ok text => exact congrArg Except.ok String.append_empty
    rw [segmentsText, ih, List.flatMap_cons, itemsText_append, here]
    cases f.segmentText values s with
    | error e => rfl
    | ok text => cases f.itemsText values (segments.flatMap Segment.items) <;> rfl

/-- A key is written item by item, or it fails at the first item that does. -/
theorem format_eq (t : Template) : f.format t values = f.itemsText values t.items :=
  segmentsText_eq _

theorem itemsText_of_written {xs : List Item}
    (written : ∀ field, .field field ∈ xs → f.fieldText values field = .ok (say field)) :
    f.itemsText values xs = .ok (String.ofList (xs.flatMap (Item.spell say))) := by
  induction xs with
  | nil => rfl
  | cons x xs ih =>
    have first : f.itemText values x = .ok (String.ofList (x.spell say)) := by
      cases x with
      | char c => rfl
      | field g => rw [itemText, written g List.mem_cons_self, Item.spell, String.ofList_toList]
    rw [itemsText, first, ih fun field among => written field (List.mem_cons_of_mem _ among),
      List.flatMap_cons, String.ofList_append]
    rfl

/-- The key of a template all of whose fields have a text. -/
theorem format_of_items {t : Template}
    (written : ∀ field, .field field ∈ t.items → f.fieldText values field = .ok (say field)) :
    f.format t values = .ok (String.ofList (t.items.flatMap (Item.spell say))) :=
  (format_eq t).trans (itemsText_of_written written)

end Formatter
end Latchkey
