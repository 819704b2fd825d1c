import Latchkey.Proofs.Pattern.RoundTrip
import Latchkey.Proofs.Signature.Collision
import Latchkey.Proofs.Template.Assembly

/-!
A key is read back only if no field has a separator in its text. A digest is written in hexadecimal
digits and a length in decimal digits, so for fields with the functions `hash` and `len` the values
do not matter: such a key gives back what was written for the first field of each group
(`condensed_read_back`).
-/

namespace Latchkey

theorem Digest.hexDigit_mem (n : Nat) :
    "0123456789abcdef".toList.getD n '0' ∈ "0123456789abcdef".toList := by
  rw [List.getD_eq_getElem?_getD]
  cases found : "0123456789abcdef".toList[n]? with
  | none => decide
  | some c => exact List.mem_of_getElem? found

theorem Digest.separator_not_mem_hex (bytes : List UInt8) : separator ∉ (hex bytes).toList := by
  have plain : separator ∉ "0123456789abcdef".toList := by decide
  rw [hex, String.toList_ofList]
  intro among
  obtain ⟨b, -, digit⟩ := List.mem_flatMap.mp among
  -- the two digits of the byte
  rcases List.mem_cons.mp digit with high | low
  · exact plain (high ▸ hexDigit_mem _)
  · exact plain (List.mem_singleton.mp low ▸ hexDigit_mem _)

theorem Json.keyText_count (n : Nat) : (int n).keyText = String.ofList (Nat.toDigits 10 n) := by
  have unsigned : ¬ (n : Int) < 0 := by omega
  have written : (int n).keyText = renderInt n := rfl
  rw [written, renderInt, if_neg unsigned, Int.natAbs_natCast]

/-- The number of items, members or characters of a value that has a length. -/
def Json.size? : Json → Option Nat
  | .arr items => some items.length
  | .obj members => some members.length
  | .str text => some text.length
  | _ => none

theorem FieldFunction.len_eq_ok_iff {v made : Json} {args : List String} :
    len v args = .ok made ↔ ∃ n, v.size? = some n ∧ made = .int n := by
  cases v <;> simp [len, Json.size?, eq_comm]

theorem FieldFunction.hash_eq_ok_iff {v made : Json} {args : List String} :
    hash v args = .ok made ↔
      ∃ a, algorithm args = .ok a ∧ made = .str (a.hexDigest v.keyText.toUTF8.toList) := by
  have stages : hash v args = .ok made ↔
      ∃ a, algorithm args = .ok a ∧
        Except.ok (.str (a.hexDigest v.keyText.toUTF8.toList)) = Except.ok made := bind_eq_ok_iff
  simp [stages, eq_comm]

/-- The field has the function `hash` or the function `len`. -/
def Field.Condenses (field : Field) : Prop :=
  ∃ call ∈ field.call, call.function = "hash" ∨ call.function = "len"

/-- The functions `hash` and `len` are the built-in ones, and nothing with a separator is written
for a field without a value. -/
structure Formatter.Condenses (f : Formatter) : Prop where
  hash : Named.find? "hash" f.functions = some FieldFunction.hash
  len : Named.find? "len" f.functions = some FieldFunction.len
  unbound : ∀ name, separator ∉ (f.unbound name).toList

/-- What is written for a field with one of these functions: the digest of its value, the length of
its value, or what stands for no value. -/
inductive Condensed (f : Formatter) (values : Values) (field : Field) : String → Prop
  | unbound : field.value? values = none → Condensed f values field (f.unbound field.name)
  | digest {v : Json} {args : List String} {a : Digest.Algorithm} :
      field.call = some ⟨"hash", args⟩ → field.value? values = some v →
      FieldFunction.algorithm args = .ok a →
      Condensed f values field (a.hexDigest v.keyText.toUTF8.toList)
  | length {v : Json} {args : List String} {n : Nat} :
      field.call = some ⟨"len", args⟩ → field.value? values = some v → v.size? = some n →
      Condensed f values field (String.ofList (Nat.toDigits 10 n))

namespace Formatter

variable {f : Formatter} {values : Values} {field : Field} {text : String}

theorem function?_of_call {name : String} {args : List String} {g : FieldFunction}
    (call : field.call = some ⟨name, args⟩) (found : Named.find? name f.functions = some g) :
    f.function? field = some (g, args) := by
  rw [function?, call, Option.bind_some, found, Option.map_some]

theorem fieldText_of_function {v : Json} {g : FieldFunction} {args : List String}
    (bound : field.value? values = some v) (resolved : f.function? field = some (g, args)) :
    f.fieldText values field = .ok text ↔ ∃ made, g v args = .ok made ∧ made.keyText = text := by
  rw [fieldText, bound]
  simp only [resolved]
  cases g v args <;> simp [Except.map]

namespace Condenses

/-- The built-in functions with a marker that holds no separator. -/
theorem ofMarker {marker : String} (plain : separator ∉ marker.toList) :
    ((ofFunctions FunctionTable.builtins).withMarker marker).Condenses :=
  ⟨rfl, rfl, fun _ => plain⟩

theorem fieldText_eq_ok_iff (condenses : f.Condenses) (called : field.Condenses) :
    f.fieldText values field = .ok text ↔ Condensed f values field text := by
  constructor
  · intro written
    cases bound : field.value? values with
    | none =>
      rw [fieldText, bound] at written
      cases written
      exact .unbound bound
    | some v =>
      obtain ⟨⟨function, args⟩, call, rfl | rfl⟩ := called
      · obtain ⟨made, ran, rfl⟩ :=
          (fieldText_of_function bound (function?_of_call call condenses.hash)).mp written
        obtain ⟨a, chosen, rfl⟩ := FieldFunction.hash_eq_ok_iff.mp ran
        exact .digest call bound chosen
      · obtain ⟨made, ran, rfl⟩ :=
          (fieldText_of_function bound (function?_of_call call condenses.len)).mp written
        obtain ⟨n, size, rfl⟩ := FieldFunction.len_eq_ok_iff.mp ran
        rw [Json.keyText_count]
        exact .length call bound size
  · intro condensed
    cases condensed with
    | unbound bound => rw [fieldText, bound]
    | digest call bound chosen =>
      exact (fieldText_of_function bound (function?_of_call call condenses.hash)).mpr
        ⟨_, FieldFunction.hash_eq_ok_iff.mpr ⟨_, chosen, rfl⟩, rfl⟩
    | length call bound size =>
      exact (fieldText_of_function bound (function?_of_call call condenses.len)).mpr
        ⟨_, FieldFunction.len_eq_ok_iff.mpr ⟨_, size, rfl⟩, Json.keyText_count _⟩

theorem clean (condenses : f.Condenses) (condensed : Condensed f values field text) :
    separator ∉ text.toList := by
  cases condensed with
  | unbound _ => exact condenses.unbound _
  | digest _ _ _ => exact Digest.separator_not_mem_hex _
  | length _ _ _ =>
    rw [String.toList_ofList]
    exact Decimal.separator_not_mem_toDigits _

end Condenses
end Formatter

namespace Pattern

/-- **Digests and lengths are safe in a key.** Take a template with a separator between any two
fields, whose fields all have the function `hash` or `len`. A key is written exactly if every field
has a digest, a length or a default text. Whatever the values are, the pattern of the template
accepts the key and captures for each group this text of its first field, and nothing else. -/
theorem condensed_read_back {f : Formatter} {t : Template} {values : Values}
    (condenses : f.Condenses) (separated : Separated t.segments)
    (called : ∀ field ∈ t.fields, field.Condenses) :
    ((∃ key, f.format t values = .ok key) ↔
      ∀ field ∈ t.fields, ∃ text, Condensed f values field text) ∧
    ∀ key, f.format t values = .ok key → (ofTemplate t).accepts key = true ∧
      ∃ m, (ofTemplate t).captures key = some m ∧ Named.Sorted m ∧
        (∀ g, g ∈ Named.names m ↔ g ∈ (ofTemplate t).groups) ∧
        ∀ g field, t.fields.find? (·.group = g) = some field →
          ∃ text, Condensed f values field text ∧ Named.find? g m = some text := by
  have said : ∀ key, f.format t values = .ok key → ∀ field ∈ t.fields,
      Condensed f values field (f.textOf values field) := by
    intro key made field among
    exact (condenses.fieldText_eq_ok_iff (called field among)).mp
      (fieldText_of_made made field among)
  constructor
  · constructor
    · rintro ⟨key, made⟩ field among
      exact ⟨_, said key made field among⟩
    · intro condensed
      have written : ∀ field, .field field ∈ t.items →
          f.fieldText values field = .ok (f.textOf values field) := by
        intro field item
        have among := Template.mem_fields_iff.mpr item
        obtain ⟨text, condensed⟩ := condensed field among
        have here := (condenses.fieldText_eq_ok_iff (called field among)).mpr condensed
        rw [Formatter.textOf, here]
        rfl
      exact ⟨_, Formatter.format_of_items written⟩
  · intro key made
    have condensed := said key made
    have spelled := spells_of_made made fun field among => condenses.clean (condensed field among)
    have read := read_of_spells separated spelled
    obtain ⟨m, captured, sorted, names, found⟩ := captures_of_read read
    refine ⟨by rw [accepts, read]; rfl, m, captured, sorted, names, ?_⟩
    intro g field first
    have texts := firstOf_map (f.textOf values) t.fields g
    rw [first] at texts
    exact ⟨_, condensed field (List.mem_of_find?_eq_some first), (found g).trans texts⟩

/-- A value with separators and braces goes into a key as its digest and as its length; the digest
is read back. -/
theorem digest_read_back :
    let t : Template := ⟨"t:\x7btoken:hash\x7d:\x7bgone:len\x7d:\x7btoken:len\x7d",
      [.literal "t:", .field ⟨"token", some ⟨"hash", []⟩⟩, .literal ":",
        .field ⟨"gone", some ⟨"len", []⟩⟩, .literal ":", .field ⟨"token", some ⟨"len", []⟩⟩],
      by decide +kernel⟩
    let f := (Formatter.ofFunctions FunctionTable.builtins).withMarker "-"
    let values : Values := [("token", .str "a:b\x7bc\x7d")]
    f.format t values = .ok "t:622067633e8ab95bf97928624575754c:-:6" ∧
    ∃ m, (ofTemplate t).captures "t:622067633e8ab95bf97928624575754c:-:6" = some m ∧
      Named.find? "token" m = some "622067633e8ab95bf97928624575754c" ∧
      Named.find? "gone" m = some "-" := by
  intro t f values
  have condenses : f.Condenses := .ofMarker (by decide)
  have separated : Separated t.segments := by simp [t, separator]
  have called : ∀ field ∈ t.fields, field.Condenses := by
    intro field among
    have listed : ⟨"token", some ⟨"hash", []⟩⟩ = field ∨ ⟨"gone", some ⟨"len", []⟩⟩ = field ∨
        ⟨"token", some ⟨"len", []⟩⟩ = field := by
      simpa [t, Template.fields, Segment.field?] using among
    rcases listed with rfl | rfl | rfl
    · exact ⟨_, rfl, .inl rfl⟩
    · exact ⟨_, rfl, .inr rfl⟩
    · exact ⟨_, rfl, .inr rfl⟩
  have made : f.format t values = .ok "t:622067633e8ab95bf97928624575754c:-:6" := by
    decide +kernel
  have digest : f.fieldText values ⟨"token", some ⟨"hash", []⟩⟩ =
      .ok "622067633e8ab95bf97928624575754c" := by decide +kernel
  have marker : f.fieldText values ⟨"gone", some ⟨"len", []⟩⟩ = .ok "-" := by decide +kernel
  obtain ⟨-, m, captured, -, -, found⟩ :=
    (condensed_read_back condenses separated called).2 _ made
  obtain ⟨token, said, held⟩ := found "token" ⟨"token", some ⟨"hash", []⟩⟩ (by rfl)
  obtain ⟨gone, said', held'⟩ := found "gone" ⟨"gone", some ⟨"len", []⟩⟩ (by rfl)
  have token_text := (condenses.fieldText_eq_ok_iff ⟨_, rfl, .inl rfl⟩).mpr said
  have gone_text := (condenses.fieldText_eq_ok_iff ⟨_, rfl, .inr rfl⟩).mpr said'
  cases digest.symm.trans token_text
  cases marker.symm.trans gone_text
  exact ⟨made, m, captured, held, held'⟩

end Pattern
end Latchkey
