import Latchkey.Proofs.Named
import Latchkey.Proofs.Pattern.Greedy

namespace Latchkey.Pattern

variable {seen : List String} {segments : List Segment} {texts : List (List Char)}

/-- The fields among segments, in order. -/
def fieldsOf (segments : List Segment) : List Field := segments.filterMap Segment.field?

/-- The groups that segments capture after fields with these groups. -/
def groupsOf (seen : List String) (segments : List Segment) : List String :=
  (Piece.ofSegments seen segments).filterMap Piece.group?

/-- The text of the first field of a group. -/
def firstOf (fields : List Field) (texts : List (List Char)) (g : String) : Option String :=
  ((fields.zip texts).find? (·.1.group = g)).map fun p => String.ofList p.2

theorem groupsOf_field (seen : List String) (f : Field) (rest : List Segment) :
    groupsOf seen (.field f :: rest) =
      if f.group ∈ seen then groupsOf seen rest
      else f.group :: groupsOf (f.group :: seen) rest := by
  rw [groupsOf, Piece.ofSegments]
  split <;> rfl

theorem captured_field (seen : List String) (f : Field) (rest : List Segment) (text : List Char)
    (texts : List (List Char)) :
    captured (Piece.ofSegments seen (.field f :: rest)) (text :: texts) =
      if f.group ∈ seen then captured (Piece.ofSegments seen rest) texts
      else (f.group, String.ofList text) ::
        captured (Piece.ofSegments (f.group :: seen) rest) texts := by
  rw [Piece.ofSegments]
  split <;> rfl

theorem firstOf_cons (f : Field) (fields : List Field) (text : List Char)
    (texts : List (List Char)) (g : String) :
    firstOf (f :: fields) (text :: texts) g =
      if f.group = g then some (String.ofList text) else firstOf fields texts g := by
  by_cases same : f.group = g <;> simp [firstOf, same]

theorem groupsOf_once (seen : List String) (segments : List Segment) :
    (groupsOf seen segments).Nodup ∧ ∀ g ∈ groupsOf seen segments, g ∉ seen := by
  induction segments generalizing seen with
  | nil => simp [groupsOf, Piece.ofSegments]
  | cons s rest ih =>
    cases s with
    | literal text => exact ih seen
    | field f =>
      rw [groupsOf_field]
      by_cases known : f.group ∈ seen
      · rw [if_pos known]
        exact ih seen
      · rw [if_neg known]
        obtain ⟨once, new⟩ := ih (f.group :: seen)
        have absent : f.group ∉ groupsOf (f.group :: seen) rest :=
          fun among => new _ among List.mem_cons_self
        refine ⟨List.nodup_cons.mpr ⟨absent, once⟩, List.forall_mem_cons.mpr ⟨known, ?_⟩⟩
        exact fun g hg before => new g hg (List.mem_cons_of_mem _ before)

theorem mem_groupsOf (seen : List String) (segments : List Segment) (g : String) :
    g ∈ groupsOf seen segments ↔ g ∉ seen ∧ ∃ f ∈ fieldsOf segments, f.group = g := by
  induction segments generalizing seen with
  | nil => simp [groupsOf, Piece.ofSegments, fieldsOf]
  | cons s rest ih =>
    cases s with
    | literal text => exact ih seen
    | field f =>
      have front : fieldsOf (.field f :: rest) = f :: fieldsOf rest := rfl
      rw [groupsOf_field, front]
      by_cases known : f.group ∈ seen
      · grind
      · rw [if_neg known, List.mem_cons, ih]
        grind

theorem mem_groups (t : Template) (g : String) :
    g ∈ (ofTemplate t).groups ↔ ∃ f ∈ t.fields, f.group = g := by
  have among := mem_groupsOf [] t.segments g
  simp only [List.not_mem_nil, not_false_eq_true, true_and] at among
  exact among

theorem names_captured (fits : texts.length = (fieldsOf segments).length) :
    Named.names (captured (Piece.ofSegments seen segments) texts) = groupsOf seen segments := by
  induction segments generalizing seen texts with
  | nil => rfl
  | cons s rest ih =>
    cases s with
    | literal text => exact ih fits
    | field f =>
      cases texts with
      | nil => cases fits
      | cons text texts =>
        have fits' : texts.length = (fieldsOf rest).length := Nat.succ.inj fits
        rw [captured_field, groupsOf_field]
        split
        · exact ih fits'
        · exact congrArg (f.group :: ·) (ih fits')

theorem find?_captured (fits : texts.length = (fieldsOf segments).length) (g : String) :
    Named.find? g (captured (Piece.ofSegments seen segments) texts) =
      if g ∈ seen then none else firstOf (fieldsOf segments) texts g := by
  induction segments generalizing seen texts with
  | nil => simp [Piece.ofSegments, captured, Named.find?, firstOf, fieldsOf]
  | cons s rest ih =>
    cases s with
    | literal text => exact ih fits
    | field f =>
      cases texts with
      | nil => cases fits
      | cons text texts =>
        have fits' : texts.length = (fieldsOf rest).length := Nat.succ.inj fits
        have front : fieldsOf (.field f :: rest) = f :: fieldsOf rest := rfl
        rw [captured_field, front, firstOf_cons]
        by_cases known : f.group ∈ seen
        · rw [if_pos known, ih fits']
          by_cases before : g ∈ seen
          · rw [if_pos before, if_pos before]
          · rw [if_neg before, if_neg before, if_neg (ne_of_mem_of_not_mem known before)]
        · rw [if_neg known, Named.find?, ih fits']
          by_cases same : g = f.group
          · simp [same, known]
          · simp [same, Ne.symm same]

/-- What a pattern captures of a key that it reads: a map with an entry for each group. -/
theorem captures_of_read {t : Template} {key : String}
    (read : (ofTemplate t).read key = some texts) :
    ∃ m, (ofTemplate t).captures key = some m ∧ Named.Sorted m ∧
      (∀ g, g ∈ Named.names m ↔ g ∈ (ofTemplate t).groups) ∧
      ∀ g, Named.find? g m = firstOf t.fields texts g := by
  obtain ⟨_, ⟨_, -, -, spelled⟩, -⟩ := read_longest read
  have fits := spelled.length_eq
  have once : (Named.names (captured (ofTemplate t).pieces texts)).Nodup :=
    names_captured fits ▸ (groupsOf_once [] t.segments).1
  refine ⟨_, by rw [captures, read, Option.map_some], Named.sorted_ofList _, fun g => ?_,
    fun g => ?_⟩
  · rw [Named.mem_names, Named.find?_ofList g once, ← Named.mem_names]
    exact iff_of_eq (congrArg (g ∈ ·) (names_captured fits))
  · rw [Named.find?_ofList g once]
    exact (find?_captured fits g).trans (if_neg List.not_mem_nil)

/-- What is captured of a key has one entry for each group. -/
theorem perm_groups_of_captures {t : Template} {key : String} {m : Named String}
    (captured : (ofTemplate t).captures key = some m) :
    (Named.names m).Perm (ofTemplate t).groups := by
  obtain ⟨texts, read, -⟩ := Option.map_eq_some_iff.mp captured
  obtain ⟨_, captured', sorted, names, -⟩ := captures_of_read read
  cases captured.symm.trans captured'
  have once : (ofTemplate t).groups.Nodup := (groupsOf_once [] t.segments).1
  exact (List.perm_ext_iff_of_nodup (Named.nodup_names sorted) once).mpr names

/-- **A pattern accepts the keys of its template and captures greedily.** It accepts a key exactly
if the key is a namespace, which may be empty, and then the segments, each field with some text free
of separators. It captures something of exactly these keys: for each group of the template, and for
nothing else, the text of the first field of the group, in the decomposition with the longest
namespace, then the longest first field, then the longest second field, and so on. -/
theorem captures_longest (t : Template) (key : String) :
    ((ofTemplate t).accepts key = true ↔
      ∃ space texts, Decomposes t.segments key.toList space texts) ∧
    match (ofTemplate t).captures key with
    | none => (ofTemplate t).accepts key = false
    | some m => (ofTemplate t).accepts key = true ∧ Named.Sorted m ∧
        (∀ g, g ∈ Named.names m ↔ g ∈ (ofTemplate t).groups) ∧
        (∀ g, g ∈ (ofTemplate t).groups ↔ ∃ f ∈ t.fields, f.group = g) ∧
        ∃ space texts, Longest t.segments key.toList space texts ∧
          ∀ g, Named.find? g m = firstOf t.fields texts g := by
  refine ⟨accepts_iff t key, ?_⟩
  cases read : (ofTemplate t).read key with
  | none => simp [captures, accepts, read]
  | some texts =>
    obtain ⟨m, captured, sorted, names, found⟩ := captures_of_read read
    obtain ⟨space, longest⟩ := read_longest read
    rw [captured]
    exact ⟨by rw [accepts, read]; rfl, sorted, names, mem_groups t, space, texts, longest, found⟩

/-- Of two fields side by side the first one takes all, behind the longest namespace. -/
example :
    let t : Template :=
      ⟨"\x7ba\x7d\x7bb\x7d", [.field ⟨"a", none⟩, .field ⟨"b", none⟩], by decide +kernel⟩
    (ofTemplate t).captures "n:k:xy" = some [("a", "xy"), ("b", "")] := by
  decide +kernel

end Latchkey.Pattern
