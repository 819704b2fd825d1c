import Latchkey.Proofs.Template.Assembly

namespace Latchkey

namespace Segment

/-- Segments behind others: a literal that ends the first ones and a literal that begins the second
ones are one literal. -/
def joined : List Segment → List Segment → List Segment
  | [.literal front], .literal behind :: rest => .literal (front ++ behind) :: rest
  | [], rest => rest
  | s :: segments, rest => s :: joined segments rest

theorem items_joined (first second : List Segment) :
    (joined first second).flatMap items = first.flatMap items ++ second.flatMap items := by
  fun_induction joined first second with
  | case1 front behind rest =>
    simp only [List.flatMap_cons, List.flatMap_nil, items, String.toList_append, List.map_append,
      List.append_nil, List.append_assoc]
  | case2 => rfl
  | case3 s segments rest _ ih => rw [List.flatMap_cons, List.flatMap_cons, ih, List.append_assoc]

/-- No literal is left beside another one. -/
theorem merged_joined {first second : List Segment} (front : Merged first)
    (behind : Merged second) : Merged (joined first second) := by
  fun_induction joined first second with
  | case1 text more rest =>
    obtain ⟨some_text, -, -⟩ := merged_literal.mp front
    obtain ⟨-, begins, tail⟩ := merged_literal.mp behind
    refine merged_literal.mpr ⟨?_, begins, tail⟩
    intro empty
    exact some_text (String.append_eq_empty_iff.mp empty).1
  | case2 => exact behind
  | case3 s segments rest apart ih =>
    cases s with
    | field f => exact merged_field.mpr (ih (merged_field.mp front) behind)
    | literal text =>
      obtain ⟨some_text, begins, tail⟩ := merged_literal.mp front
      refine merged_literal.mpr ⟨some_text, ?_, ih tail behind⟩
      cases segments with
      | nil =>
        -- the literal ends the first segments, so no literal begins the second ones
        intro s first
        cases s with
        | field f => exact ⟨f, rfl⟩
        | literal more =>
          obtain ⟨tail, same⟩ : ∃ tail, rest = .literal more :: tail :=
            List.head?_eq_some_iff.mp first
          exact (apart text more tail same rfl rfl).elim
      | cons s segments =>
        obtain ⟨f, rfl⟩ := begins s rfl
        rintro _ ⟨⟩
        exact ⟨f, rfl⟩

end Segment

namespace Template

theorem exists_append (t : Template) {more : String} {u : Template} (taken : parse more = .ok u) :
    ∃ w, parse (t.source ++ more) = .ok w ∧
      w.segments = Segment.joined t.segments u.segments := by
  have reads : Item.Reads (t.source ++ more).toList
      ((Segment.joined t.segments u.segments).flatMap Segment.items) := by
    rw [String.toList_append, Segment.items_joined]
    exact t.reads_items.append (reads_of_parse taken)
  have merged : Segment.Merged (Segment.joined t.segments u.segments) :=
    Segment.merged_joined (read_eq_ok_iff.mp t.reads).2 (read_eq_ok_iff.mp u.reads).2
  obtain ⟨w, whole, -, segments⟩ := parse_eq_ok_iff.mpr ⟨reads, merged⟩
  exact ⟨w, whole, segments⟩

/-- A fault is refused where it lies, behind the template in front. -/
theorem refused_append (t : Template) {more : String} {e : KeyError}
    (refused : parse more = .error e) :
    ∃ n fault, e = .invalidTemplate more ⟨n, fault⟩ ∧
      parse (t.source ++ more) =
        .error (.invalidTemplate (t.source ++ more) ⟨t.source.utf8ByteSize + n, fault⟩) := by
  obtain ⟨before, after, fault, rfl, ⟨u, taken⟩, starts, rfl⟩ := parse_eq_error_iff.mp refused
  obtain ⟨w, whole, -⟩ := t.exists_append taken
  refine ⟨_, fault, rfl, parse_eq_error_iff.mpr ?_⟩
  exact ⟨t.source ++ before, after, fault, (String.append_assoc ..).symm, ⟨w, whole⟩, starts,
    by rw [String.utf8ByteSize_append]⟩

theorem exists_escape (text : String) :
    ∃ w, parse (escape text) = .ok w ∧
      w.segments = if text = "" then [] else [.literal text] := by
  have merged : Segment.Merged (if text = "" then [] else [.literal text]) := by
    split
    · simp [Segment.Merged]
    · next some_text => exact merged_literal.mpr ⟨some_text, by simp, by simp [Segment.Merged]⟩
  have items : (if text = "" then [] else [.literal text]).flatMap Segment.items =
      text.toList.map .char := by
    split
    · next empty => rw [empty]; rfl
    · simp [Segment.items]
  obtain ⟨w, taken, -, segments⟩ :=
    parse_eq_ok_iff.mpr ⟨items ▸ Item.Reads.escape text, merged⟩
  exact ⟨w, taken, segments⟩

/-- **A text behind a template is read by itself.** The whole is a template exactly if the rest is
one, and then its segments are those of the two, with no two literals side by side; a fault of the
rest is the fault of the whole, at an offset larger by the length of the template in bytes. An
escaped text is a template with that text alone. -/
theorem parse_append {source : String} {t : Template} (taken : parse source = .ok t)
    (more : String) :
    ((∃ w, parse (source ++ more) = .ok w) ↔ ∃ u, parse more = .ok u) ∧
    (∀ u, parse more = .ok u →
      ∃ w, parse (source ++ more) = .ok w ∧ w.segments = Segment.joined t.segments u.segments) ∧
    (∀ e, parse more = .error e → ∃ n fault, e = .invalidTemplate more ⟨n, fault⟩ ∧
      parse (source ++ more) =
        .error (.invalidTemplate (source ++ more) ⟨source.utf8ByteSize + n, fault⟩)) ∧
    ∀ text, ∃ w, parse (escape text) = .ok w ∧
      w.segments = if text = "" then [] else [.literal text] := by
  obtain rfl := source_of_parse taken
  refine ⟨?_, fun u => t.exists_append, fun e => t.refused_append, exists_escape⟩
  constructor
  · rintro ⟨w, whole⟩
    cases rest : parse more with
    | ok u => exact ⟨u, rfl⟩
    | error e =>
      obtain ⟨n, fault, -, refused⟩ := t.refused_append rest
      cases whole.symm.trans refused
  · rintro ⟨u, rest⟩
    obtain ⟨w, whole, -⟩ := t.exists_append rest
    exact ⟨w, whole⟩

/-- A doubled brace, and a brace behind it that is not doubled by the one before it. -/
theorem brace_behind_doubled_brace :
    ∃ t, parse "é\x7d\x7d" = .ok t ∧
      parse "\x7d{n}" = .error (.invalidTemplate "\x7d{n}" ⟨0, .single⟩) ∧
      parse "é\x7d\x7d\x7d{n}" = .error (.invalidTemplate "é\x7d\x7d\x7d{n}" ⟨4, .single⟩) := by
  have read : Segment.read "é\x7d\x7d" = .ok [.literal "é\x7d"] := by decide +kernel
  have unread : Segment.read "\x7d{n}" = .error ⟨0, .single⟩ := by decide +kernel
  obtain ⟨-, -, behind, -⟩ := parse_append (parse_of_read read) "\x7d{n}"
  obtain ⟨n, fault, same, refused⟩ := behind _ (parse_of_fault unread)
  cases same
  exact ⟨_, parse_of_read read, parse_of_fault unread, refused⟩

end Template
end Latchkey
