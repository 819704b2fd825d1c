import Latchkey.Pattern.Expression
import Latchkey.Proofs.Pattern.Groups
import Latchkey.Proofs.Template.Parsing

/-!
Two patterns are taken as equal when their expressions are the same text. No literal can imitate a
field in that text: what opens a field there has a backslash in front of it wherever a literal holds
it. `equal_read_alike`: the text gives back the pieces, so equal patterns have the same groups and
read every key alike.
-/

namespace Latchkey.Pattern

/-- A character of a literal in an expression. -/
def quoteChar (c : Char) : List Char := if c ∈ specials then ['\\', c] else [c]

theorem toList_quoteLiteral (text : String) :
    (quoteLiteral text).toList = text.toList.flatMap quoteChar := String.toList_ofList

/-- The rest of an expression goes on with a field, if it goes on at all. -/
def OpensField (rest : List Char) : Prop := ∀ c ∈ rest.head?, c = '(' ∨ c = '['

theorem not_opensField_quoteChar (c : Char) (rest : List Char) :
    ¬ OpensField (quoteChar c ++ rest) := by
  intro opens
  unfold quoteChar at opens
  split at opens
  · have backslash := opens '\\' rfl
    revert backslash
    decide
  · next plain =>
    -- both characters that open a field are special
    rcases opens c rfl with rfl | rfl <;> exact plain (by decide)

theorem quoteChar_append_inj {c d : Char} {rest rest' : List Char}
    (same : quoteChar c ++ rest = quoteChar d ++ rest') : c = d ∧ rest = rest' := by
  have backslash : '\\' ∈ specials := by decide
  unfold quoteChar at same
  split at same <;> split at same
  · simpa using same
  · next plain =>
    obtain ⟨rfl, -⟩ : '\\' = d ∧ _ := by simpa using same
    exact absurd backslash plain
  · next plain _ =>
    obtain ⟨rfl, -⟩ : c = '\\' ∧ _ := by simpa using same
    exact absurd backslash plain
  · simpa using same

/-- A literal ends where a field opens or the expression ends. -/
theorem quoted_append_inj {text text' rest rest' : List Char} (opens : OpensField rest)
    (opens' : OpensField rest')
    (same : text.flatMap quoteChar ++ rest = text'.flatMap quoteChar ++ rest') :
    text = text' ∧ rest = rest' := by
  induction text generalizing text' with
  | nil =>
    cases text' with
    | nil => exact ⟨rfl, same⟩
    | cons d text' =>
      rw [List.flatMap_nil, List.nil_append] at same
      rw [same, List.flatMap_cons, List.append_assoc] at opens
      exact absurd opens (not_opensField_quoteChar d _)
  | cons c text ih =>
    cases text' with
    | nil =>
      rw [List.flatMap_nil, List.nil_append] at same
      rw [← same, List.flatMap_cons, List.append_assoc] at opens'
      exact absurd opens' (not_opensField_quoteChar c _)
    | cons d text' =>
      simp only [List.flatMap_cons, List.append_assoc] at same
      obtain ⟨rfl, behind⟩ := quoteChar_append_inj same
      obtain ⟨rfl, rest_eq⟩ := ih behind
      exact ⟨rfl, rest_eq⟩

/-- A piece for a field. The name of a captured group does not hold the character that ends it in an
expression. -/
inductive ForField : Piece → Prop
  | capture (group : String) : '>' ∉ group.toList → ForField (.capture group)
  | again : ForField .again

theorem bracket_not_mem_group (f : Field) : '>' ∉ f.group.toList := by
  rw [Field.group_eq, String.toList_ofList]
  intro among
  obtain ⟨c, -, blurred⟩ := List.mem_map.mp among
  have kept := isAlphanum_blur c
  unfold blur at blurred kept
  split at blurred
  · next letter =>
    rw [blurred] at letter
    exact absurd letter (by decide)
  · exact absurd blurred (by decide)

namespace ForField

variable {p q : Piece}

theorem opensField (field : ForField p) (rest : List Char) :
    OpensField ((pieceExpression p).toList ++ rest) := by
  intro c first
  cases field with
  | capture group _ =>
    left
    simpa [pieceExpression, eq_comm] using first
  | again =>
    right
    simpa [pieceExpression, eq_comm] using first

/-- A field is known by where it opens and, if it is captured, by where its name ends. -/
theorem append_inj (field : ForField p) (field' : ForField q) {rest rest' : List Char}
    (same : (pieceExpression p).toList ++ rest = (pieceExpression q).toList ++ rest') :
    p = q ∧ rest = rest' := by
  cases field with
  | capture group clean =>
    cases field' with
    | capture group' clean' =>
      have names : group.toList ++ '>' :: ("[^:]*)".toList ++ rest) =
          group'.toList ++ '>' :: ("[^:]*)".toList ++ rest') := by
        simpa [pieceExpression] using same
      have cut := congrArg (Text.splitFirst '>') names
      rw [Text.splitFirst_append clean, Text.splitFirst_append clean'] at cut
      obtain ⟨name, behind⟩ := Prod.mk.inj (Option.some.inj cut)
      exact ⟨congrArg Piece.capture (String.toList_inj.mp name), List.append_cancel_left behind⟩
    | again => simp [pieceExpression] at same
  | again =>
    cases field' with
    | capture group' _ => simp [pieceExpression] at same
    | again => exact ⟨rfl, List.append_cancel_left same⟩

end ForField

/-- The expression of pieces, in characters. -/
def written (pieces : List Piece) : List Char :=
  pieces.flatMap fun p => (pieceExpression p).toList

theorem toList_expression (p : Pattern) :
    p.expression.toList = "(?s)^(?:.*:)?".toList ++ written p.pieces ++ ['$'] := by
  simp [expression, written, String.toList_join, List.flatMap_map]

theorem written_cons (p : Piece) (rest : List Piece) :
    written (p :: rest) = (pieceExpression p).toList ++ written rest := List.flatMap_cons

theorem written_literal (text : String) (rest : List Piece) :
    written (.literal text :: rest) = text.toList.flatMap quoteChar ++ written rest := by
  rw [written_cons, pieceExpression, toList_quoteLiteral]

theorem ForField.opensField_written {p : Piece} (field : ForField p) (rest : List Piece) :
    OpensField (written (p :: rest)) := by
  rw [written_cons]
  exact field.opensField _

theorem ForField.written_ne_nil {p : Piece} (field : ForField p) (rest : List Piece) :
    written (p :: rest) ≠ [] := by
  rw [written_cons]
  cases field <;> simp [pieceExpression]

/-- Pieces in normal form: every literal has some text and stands in front of a field or at the
end. -/
inductive Row : List Piece → Prop
  | nil : Row []
  | field {p : Piece} {rest : List Piece} : ForField p → Row rest → Row (p :: rest)
  | literal {text : String} {rest : List Piece} : text ≠ "" → OpensField (written rest) →
      Row rest → Row (.literal text :: rest)

theorem ofSegments_field (seen : List String) (f : Field) (rest : List Segment) :
    ∃ p seen', ForField p ∧
      Piece.ofSegments seen (.field f :: rest) = p :: Piece.ofSegments seen' rest := by
  rw [Piece.ofSegments]
  split
  · exact ⟨_, seen, .again, rfl⟩
  · exact ⟨_, _, .capture _ (bracket_not_mem_group f), rfl⟩

theorem row_ofSegments {segments : List Segment} (merged : Segment.Merged segments)
    (seen : List String) : Row (Piece.ofSegments seen segments) := by
  induction segments generalizing seen with
  | nil => exact .nil
  | cons s rest ih =>
    cases s with
    | field f =>
      obtain ⟨p, seen', field, split⟩ := ofSegments_field seen f rest
      rw [split]
      exact .field field (ih (merged_field.mp merged) seen')
    | literal text =>
      obtain ⟨some_text, begins, merged⟩ := merged_literal.mp merged
      refine .literal some_text ?_ (ih merged seen)
      cases rest with
      | nil =>
        intro c first
        cases first
      | cons s rest =>
        obtain ⟨f, rfl⟩ := begins s rfl
        obtain ⟨p, seen', field, split⟩ := ofSegments_field seen f rest
        rw [split]
        exact field.opensField_written _

theorem opensField_written_nil : OpensField (written []) := by
  intro c first
  cases first

theorem not_opensField_written {text : String} (some_text : text ≠ "") (rest : List Piece) :
    ¬ OpensField (written (.literal text :: rest)) := by
  rw [written_literal]
  cases chars : text.toList with
  | nil => exact absurd (String.toList_eq_nil_iff.mp chars) some_text
  | cons c cs =>
    rw [List.flatMap_cons, List.append_assoc]
    exact not_opensField_quoteChar c _

/-- Pieces in normal form are known by their expression. -/
theorem Row.eq_of_written {pieces pieces' : List Piece} (row : Row pieces) (row' : Row pieces')
    (same : written pieces = written pieces') : pieces = pieces' := by
  induction row generalizing pieces' with
  | nil =>
    cases row' with
    | nil => rfl
    | field field' _ => exact absurd same.symm (field'.written_ne_nil _)
    | literal some_text' _ _ =>
      have opens := opensField_written_nil
      rw [same] at opens
      exact absurd opens (not_opensField_written some_text' _)
  | @field p rest field _ ih =>
    cases row' with
    | nil => exact absurd same (field.written_ne_nil _)
    | field field' row' =>
      rw [written_cons, written_cons] at same
      obtain ⟨rfl, behind⟩ := field.append_inj field' same
      rw [ih row' behind]
    | literal some_text' _ _ =>
      have opens := field.opensField_written rest
      rw [same] at opens
      exact absurd opens (not_opensField_written some_text' _)
  | literal some_text opens _ ih =>
    cases row' with
    | nil =>
      have opens' := opensField_written_nil
      rw [← same] at opens'
      exact absurd opens' (not_opensField_written some_text _)
    | @field p' rest' field' _ =>
      have opens' := field'.opensField_written rest'
      rw [← same] at opens'
      exact absurd opens' (not_opensField_written some_text _)
    | literal _ opens' row' =>
      rw [written_literal, written_literal] at same
      obtain ⟨text_eq, behind⟩ := quoted_append_inj opens opens' same
      rw [String.toList_inj.mp text_eq, ih row' behind]

theorem row_ofTemplate (t : Template) : Row (ofTemplate t).pieces :=
  row_ofSegments (read_eq_ok_iff.mp t.reads).2 []

theorem beq_eq_true_iff_written (p q : Pattern) :
    (p == q) = true ↔ written p.pieces = written q.pieces := by
  have texts : (p == q) = (p.expression == q.expression) := rfl
  rw [texts, beq_iff_eq, ← String.toList_inj, toList_expression, toList_expression,
    List.append_assoc, List.append_assoc]
  constructor
  · intro same
    exact List.append_cancel_right (List.append_cancel_left same)
  · intro same
    rw [same]

/-- Patterns of templates are equal exactly if they have the same pieces. Equal patterns then have
the same groups in the same order, accept the same keys and capture the same texts. -/
theorem equal_read_alike (t u : Template) :
    ((ofTemplate t == ofTemplate u) = true ↔ (ofTemplate t).pieces = (ofTemplate u).pieces) ∧
    ((ofTemplate t == ofTemplate u) = true →
      (ofTemplate t).groups = (ofTemplate u).groups ∧
      ∀ key, (ofTemplate t).accepts key = (ofTemplate u).accepts key ∧
        (ofTemplate t).captures key = (ofTemplate u).captures key) := by
  have known : (ofTemplate t == ofTemplate u) = true ↔
      (ofTemplate t).pieces = (ofTemplate u).pieces := by
    rw [beq_eq_true_iff_written]
    constructor
    · exact (row_ofTemplate t).eq_of_written (row_ofTemplate u)
    · intro same
      rw [same]
  refine ⟨known, ?_⟩
  intro equal
  have patterns : ofTemplate t = ofTemplate u := congrArg Pattern.mk (known.mp equal)
  rw [patterns]
  exact ⟨rfl, fun key => ⟨rfl, rfl⟩⟩

/-- Two fields whose names become one group: the patterns are equal, whatever the fields call. -/
theorem alike_of_blurred_names :
    let t : Template :=
      ⟨"u:\x7buser.id\x7d", [.literal "u:", .field ⟨"user.id", none⟩], by decide +kernel⟩
    let u : Template :=
      ⟨"u:\x7buser_id:hash\x7d", [.literal "u:", .field ⟨"user_id", some ⟨"hash", []⟩⟩],
        by decide +kernel⟩
    (ofTemplate t == ofTemplate u) = true ∧
      (ofTemplate t).captures "app:u:7" = some [("user_id", "7")] ∧
      (ofTemplate u).captures "app:u:7" = some [("user_id", "7")] := by
  intro t u
  have equal : (ofTemplate t == ofTemplate u) = true := by decide +kernel
  have captured : (ofTemplate t).captures "app:u:7" = some [("user_id", "7")] := by
    decide +kernel
  obtain ⟨-, alike⟩ := (equal_read_alike t u).2 equal
  exact ⟨equal, captured, (alike "app:u:7").2.symm.trans captured⟩

/-- A literal with the text of a field is not that field. -/
example : (Pattern.mk [.literal "(?P<a>[^:]*)"] == Pattern.mk [.capture "a"]) = false := by
  decide +kernel

end Latchkey.Pattern
