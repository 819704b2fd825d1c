import Latchkey.Formatter
import Latchkey.Proofs.Pattern.Captures

namespace Latchkey

theorem bind_eq_ok_iff {ε α β : Type} {x : Except ε α} {f : α → Except ε β} {b : β} :
    x >>= f = .ok b ↔ ∃ a, x = .ok a ∧ f a = .ok b := by
  cases x with
  | error cause =>
    constructor
    · rintro ⟨⟩
    · rintro ⟨a, made, -⟩
      cases made
  | ok a =>
    constructor
    · intro made
      exact ⟨a, rfl, made⟩
    · rintro ⟨_, ⟨⟩, made⟩
      exact made

/-- The text that a formatter writes for a field; the empty text if it fails. -/
def Formatter.textOf (f : Formatter) (values : Values) (field : Field) : String :=
  (f.fieldText values field).toOption.getD ""

namespace Pattern

variable {f : Formatter} {values : Values} {key : String}

theorem parts_of_made {s : Segment} {rest : List Segment}
    (made : f.segmentsText values (s :: rest) = .ok key) :
    ∃ text more, f.segmentText values s = .ok text ∧ f.segmentsText values rest = .ok more ∧
      key = text ++ more := by
  obtain ⟨text, front, later⟩ := bind_eq_ok_iff.mp made
  obtain ⟨more, behind, written⟩ := bind_eq_ok_iff.mp later
  cases written
  exact ⟨text, more, front, behind, rfl⟩

theorem fieldText_of_made {segments : List Segment}
    (made : f.segmentsText values segments = .ok key) :
    ∀ field ∈ fieldsOf segments, f.fieldText values field = .ok (f.textOf values field) := by
  induction segments generalizing key with
  | nil => exact fun field among => absurd among List.not_mem_nil
  | cons s rest ih =>
    obtain ⟨text, more, front, behind, -⟩ := parts_of_made made
    cases s with
    | literal _ => exact ih behind
    | field g =>
      have written : f.fieldText values g = .ok text := front
      refine List.forall_mem_cons.mpr ⟨?_, ih behind⟩
      rw [Formatter.textOf, written]
      rfl

/-- What a formatter writes is a spelling of the template, as long as no field has a separator. -/
theorem spells_of_made {segments : List Segment}
    (made : f.segmentsText values segments = .ok key)
    (clean : ∀ field ∈ fieldsOf segments, separator ∉ (f.textOf values field).toList) :
    Spells segments ((fieldsOf segments).map fun field => (f.textOf values field).toList)
      key.toList := by
  induction segments generalizing key with
  | nil =>
    cases made
    exact Spells.nil
  | cons s rest ih =>
    have written := fieldText_of_made made
    obtain ⟨text, more, front, behind, rfl⟩ := parts_of_made made
    rw [String.toList_append]
    cases s with
    | literal l =>
      cases front
      exact Spells.literal _ (ih behind clean)
    | field g =>
      obtain ⟨here, later⟩ := List.forall_mem_cons.mp clean
      obtain ⟨said, -⟩ := List.forall_mem_cons.mp written
      have same : text = f.textOf values g := Except.ok.inj (front.symm.trans said)
      rw [same]
      exact Spells.field g _ here (ih behind later)

theorem firstOf_map (say : Field → String) (fields : List Field) (g : String) :
    firstOf fields (fields.map fun field => (say field).toList) g =
      (fields.find? (·.group = g)).map say := by
  induction fields with
  | nil => rfl
  | cons field fields ih =>
    rw [List.map_cons, firstOf_cons, ih]
    by_cases same : field.group = g <;> simp [same]

/-- A key that a formatter writes for a template, with a separator between any two fields and none
in the text of a field, is accepted by the pattern of the template, which captures for each group
the text of its first field, and nothing else. -/
theorem captures_format {t : Template} (separated : Separated t.segments)
    (made : f.format t values = .ok key)
    (clean : ∀ field ∈ t.fields, ∀ text, f.fieldText values field = .ok text →
      separator ∉ text.toList) :
    (ofTemplate t).accepts key = true ∧
    ∃ m, (ofTemplate t).captures key = some m ∧ Named.Sorted m ∧
      (∀ g, g ∈ Named.names m ↔ g ∈ (ofTemplate t).groups) ∧
      ∀ g field, t.fields.find? (·.group = g) = some field →
        ∃ text, f.fieldText values field = .ok text ∧ Named.find? g m = some text := by
  have written := fieldText_of_made made
  have spelled := spells_of_made made fun field among => clean field among _ (written field among)
  have read := read_of_spells separated spelled
  obtain ⟨m, captured, sorted, names, found⟩ := captures_of_read read
  refine ⟨by rw [accepts, read]; rfl, m, captured, sorted, names, fun g field first => ?_⟩
  have among : field ∈ t.fields := List.mem_of_find?_eq_some first
  refine ⟨_, written field among, ?_⟩
  have texts := firstOf_map (f.textOf values) t.fields g
  rw [first] at texts
  exact (found g).trans texts

/-- Two fields of one group, one of them inside a value and one through a function, and a field
without a value. -/
theorem shared_group_read_back :
    let t : Template := ⟨"(.*\x7ba.b\x7d:+\x7ba_b:len\x7d::\x7bc\x7d$",
      [.literal "(.*", .field ⟨"a.b", none⟩, .literal ":+", .field ⟨"a_b", some ⟨"len", []⟩⟩,
        .literal "::", .field ⟨"c", none⟩, .literal "$"], by decide +kernel⟩
    ∃ m, (ofTemplate t).captures "(.*7:+1::*$" = some m ∧ Named.find? "a_b" m = some "7" ∧
      Named.find? "c" m = some "*" := by
  intro t
  let f := Formatter.ofFunctions FunctionTable.builtins
  let values : Values := [("a", .obj [("b", .str "7")]), ("a_b", .arr [.null])]
  have inner : f.fieldText values ⟨"a.b", none⟩ = .ok "7" := by decide +kernel
  have counted : f.fieldText values ⟨"a_b", some ⟨"len", []⟩⟩ = .ok "1" := by decide +kernel
  have unbound : f.fieldText values ⟨"c", none⟩ = .ok "*" := by decide +kernel
  have separated : Separated t.segments := by simp [t, separator]
  have made : f.format t values = .ok "(.*7:+1::*$" := by decide +kernel
  have clean : ∀ field ∈ t.fields, ∀ text, f.fieldText values field = .ok text →
      separator ∉ text.toList := by
    intro field among text written
    have listed : ⟨"a.b", none⟩ = field ∨ ⟨"a_b", some ⟨"len", []⟩⟩ = field ∨
        ⟨"c", none⟩ = field := by simpa [t, Template.fields, Segment.field?] using among
    rcases listed with rfl | rfl | rfl
    · cases inner.symm.trans written
      decide
    · cases counted.symm.trans written
      decide
    · cases unbound.symm.trans written
      decide
  obtain ⟨-, m, captured, -, -, found⟩ := captures_format separated made clean
  obtain ⟨_, said, held⟩ := found "a_b" ⟨"a.b", none⟩ (by rfl)
  obtain ⟨_, said', held'⟩ := found "c" ⟨"c", none⟩ (by rfl)
  cases inner.symm.trans said
  cases unbound.symm.trans said'
  exact ⟨m, captured, held, held'⟩

end Pattern
end Latchkey
