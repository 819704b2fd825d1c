import Latchkey.Proofs.Pattern.Equality

/-!
What the expression of a pattern means to a matcher that backtracks: it comes to one match after
another, and at every choice it first takes as much as it can. `captures_eq_match`: such a matcher
accepts the keys that the pattern accepts, and the groups of its first match are what the pattern
captures.
-/

namespace Latchkey

/-- The characters that one place of an expression stands for. -/
inductive Symbols where
  /-- Every character. The flag in front of an expression makes it so for line breaks too. -/
  | any
  | only (c : Char)
  /-- Every character but this one. -/
  | other (c : Char)

/-- The expressions that patterns are written as. -/
inductive Regex where
  | empty
  | one (symbols : Symbols)
  /-- Any number of characters. -/
  | run (symbols : Symbols)
  | optional (e : Regex)
  | group (name : String) (e : Regex)
  | seq (e f : Regex)

namespace Symbols

def holds : Symbols → Char → Bool
  | any, _ => true
  | only c, d => d == c
  | other c, d => d != c

def written : Symbols → List Char
  | any => ['.']
  | only c => Pattern.quoteChar c
  | other c => ['[', '^', c, ']']

/-- The starts of a text that are made of these characters, and what is left: the longest first. -/
def splits (s : Symbols) : List Char → List (List Char × List Char)
  | [] => [([], [])]
  | c :: cs =>
    if s.holds c then (s.splits cs).map (fun split => (c :: split.1, split.2)) ++ [([], c :: cs)]
    else [([], c :: cs)]

end Symbols

/-- A match at the start of a text: the part that is matched, the texts of the groups, and what is
left. -/
structure Match where
  text : List Char
  groups : List (String × String)
  rest : List Char

namespace Regex

/-- The matches at the start of a text, in the order in which a matcher comes to them. A run is as
long as possible first, and what is optional is there first. -/
def matchesAt : Regex → List Char → List Match
  | empty, cs => [⟨[], [], cs⟩]
  | one _, [] => []
  | one s, c :: cs => if s.holds c then [⟨[c], [], cs⟩] else []
  | run s, cs => (s.splits cs).map fun split => ⟨split.1, [], split.2⟩
  | optional e, cs => e.matchesAt cs ++ [⟨[], [], cs⟩]
  | group name e, cs =>
    (e.matchesAt cs).map fun m => ⟨m.text, (name, String.ofList m.text) :: m.groups, m.rest⟩
  | seq e f, cs =>
    (e.matchesAt cs).flatMap fun m => (f.matchesAt m.rest).map fun n =>
      ⟨m.text ++ n.text, m.groups ++ n.groups, n.rest⟩

/-- The groups of the first match that takes the whole text. -/
def match? (e : Regex) (cs : List Char) : Option (List (String × String)) :=
  (e.matchesAt cs).findSome? fun m => if m.rest = [] then some m.groups else none

def written : Regex → List Char
  | empty => []
  | one s => s.written
  | run s => s.written ++ ['*']
  | optional e => '(' :: '?' :: ':' :: (e.written ++ [')', '?'])
  | group name e => '(' :: '?' :: 'P' :: '<' :: (name.toList ++ '>' :: (e.written ++ [')']))
  | seq e f => e.written ++ f.written

/-- A text, one character after the other. -/
def ofText : List Char → Regex
  | [] => empty
  | c :: cs => seq (one (.only c)) (ofText cs)

def ofPiece : Piece → Regex
  | .literal text => ofText text.toList
  | .capture name => group name (run (.other separator))
  | .again => run (.other separator)

def ofPieces : List Piece → Regex
  | [] => empty
  | p :: rest => seq (ofPiece p) (ofPieces rest)

/-- A text that ends in a separator. -/
def ended : Regex := seq (run .any) (one (.only separator))

/-- The namespace of a key, if it has one. -/
def space : Regex := optional ended

/-- The expression of a pattern, without the marks for the two ends of the text. -/
def ofPattern (p : Pattern) : Regex := seq space (ofPieces p.pieces)

theorem written_ofText (cs : List Char) : (ofText cs).written = cs.flatMap Pattern.quoteChar := by
  induction cs with
  | nil => rfl
  | cons c cs ih =>
    rw [ofText, written, ih, List.flatMap_cons]
    rfl

theorem written_ofPiece (p : Piece) :
    (ofPiece p).written = (Pattern.pieceExpression p).toList := by
  cases p with
  | literal text =>
    rw [ofPiece, written_ofText, Pattern.pieceExpression, Pattern.toList_quoteLiteral]
  | capture name => simp [ofPiece, written, Symbols.written, Pattern.pieceExpression, separator]
  | again => rfl

theorem written_ofPieces (pieces : List Piece) :
    (ofPieces pieces).written = Pattern.written pieces := by
  induction pieces with
  | nil => rfl
  | cons p rest ih => rw [ofPieces, written, written_ofPiece, ih, Pattern.written_cons]

/-- The expression of a pattern is written between a flag with the mark of the start and the mark of
the end. -/
theorem expression_eq_written (p : Pattern) :
    p.expression = String.ofList ("(?s)^".toList ++ (ofPattern p).written ++ ['$']) := by
  have space : space.written = "(?:.*:)?".toList := by decide
  rw [← String.toList_inj, Pattern.toList_expression, String.toList_ofList, ofPattern, written,
    space, written_ofPieces]
  simp

/-- The second of two expressions is tried behind every match of the first. -/
theorem findSome?_seq {α : Type} (e f : Regex) (cs : List Char) (k : Match → Option α) :
    ((seq e f).matchesAt cs).findSome? k =
      (e.matchesAt cs).findSome? fun m =>
        (f.matchesAt m.rest).findSome? fun n =>
          k ⟨m.text ++ n.text, m.groups ++ n.groups, n.rest⟩ := by
  rw [matchesAt, ← List.head?_filterMap, List.filterMap_flatMap, List.head?_flatMap]
  simp only [List.head?_filterMap, List.findSome?_map, Function.comp_def]

theorem matchesAt_ofText (text cs : List Char) :
    (ofText text).matchesAt cs =
      if text.isPrefixOf cs then [⟨text, [], cs.drop text.length⟩] else [] := by
  induction text generalizing cs with
  | nil => simp [ofText, matchesAt]
  | cons c text ih =>
    cases cs with
    | nil => simp [ofText, matchesAt]
    | cons d cs =>
      by_cases same : d = c
      · have first : (one (.only c)).matchesAt (d :: cs) = [⟨[c], [], cs⟩] := by
          simp [matchesAt, Symbols.holds, same]
        rw [ofText, matchesAt, first, List.flatMap_singleton, ih, same]
        by_cases front : text.isPrefixOf cs = true
        · simp [front, List.isPrefixOf]
        · simp [front, List.isPrefixOf]
      · simp [ofText, matchesAt, Symbols.holds, List.isPrefixOf, same, Ne.symm same]

end Regex

namespace Pattern

variable {α : Type}

/-- A field takes the first of its starts behind which the rest can be read. -/
theorem findSome?_splits (next : List Char → Reading) (cs : List Char)
    (found : List Char → List (List Char) → α) :
    ((Symbols.other separator).splits cs).findSome?
        (fun split => (next split.2).map (found split.1)) =
      (takeField next cs).map fun texts => found (texts.headD []) texts.tail := by
  have shortest : ∀ (found : List Char → List (List Char) → α) cs, (next cs).map (found []) =
      ((next cs).map ([] :: ·)).map fun texts => found (texts.headD []) texts.tail := by
    intro found cs
    rw [Option.map_map]
    rfl
  induction cs generalizing found with
  | nil => rw [takeField, Symbols.splits, List.findSome?_singleton, shortest]
  | cons c cs ih =>
    rw [takeField, Symbols.splits]
    by_cases here : c = separator
    · have ends : (Symbols.other separator).holds c = false := by simp [Symbols.holds, here]
      rw [if_neg (by simp [ends]), List.findSome?_singleton, shortest]
      cases takeField next cs with
      | none => rfl
      | some later => cases later <;> simp [here]
    · have goes_on : (Symbols.other separator).holds c = true := by simp [Symbols.holds, here]
      have longer := ih fun text => found (c :: text)
      rw [if_pos goes_on, List.findSome?_append, List.findSome?_map, List.findSome?_singleton]
      simp only [Function.comp_def, longer]
      cases later : takeField next cs with
      | none => exact shortest found (c :: cs)
      | some texts =>
        obtain ⟨_, _, _, -, -, -, rfl⟩ := takes_of_takeField later
        simp [here]

/-- What a piece captures of its text. -/
def caught : Piece → List Char → List (String × String)
  | .capture name, text => [(name, String.ofList text)]
  | _, _ => []

theorem ForField.matchesAt {p : Piece} (field : ForField p) (cs : List Char) :
    (Regex.ofPiece p).matchesAt cs =
      ((Symbols.other separator).splits cs).map fun split =>
        ⟨split.1, caught p split.1, split.2⟩ := by
  cases field with
  | capture name _ => simp [Regex.ofPiece, Regex.matchesAt, caught]
  | again => rfl

theorem ForField.captured_cons {p : Piece} (field : ForField p) (rest : List Piece)
    (text : List Char) (texts : List (List Char)) :
    captured (p :: rest) (text :: texts) = caught p text ++ captured rest texts := by
  cases field <;> rfl

/-- Of the matches of pieces that take the whole text, the first one is the reading. -/
theorem findSome?_ofPieces (seen : List String) (segments : List Segment) (cs : List Char)
    (k : List (String × String) → α) :
    ((Regex.ofPieces (Piece.ofSegments seen segments)).matchesAt cs).findSome?
        (fun m => if m.rest = [] then some (k m.groups) else none) =
      (best segments cs).map fun texts => k (captured (Piece.ofSegments seen segments) texts) := by
  induction segments generalizing seen cs k with
  | nil =>
    simp only [Piece.ofSegments, Regex.ofPieces, Regex.matchesAt, List.findSome?_singleton, best]
    split <;> rfl
  | cons s rest ih =>
    cases s with
    | literal text =>
      rw [Piece.ofSegments, Regex.ofPieces, Regex.ofPiece, Regex.findSome?_seq,
        Regex.matchesAt_ofText, best, takeLiteral]
      split
      · rw [List.findSome?_singleton]
        exact ih seen _ k
      · rfl
    | field f =>
      obtain ⟨p, seen', field, split⟩ := ofSegments_field seen f rest
      have read := findSome?_splits (best rest) cs fun text texts =>
        k (caught p text ++ captured (Piece.ofSegments seen' rest) texts)
      have behind := fun (text rest : List Char) =>
        ih seen' rest fun groups => k (caught p text ++ groups)
      rw [split, best, Regex.ofPieces, Regex.findSome?_seq, field.matchesAt, List.findSome?_map]
      simp only [Function.comp_def, behind, read]
      cases taken : takeField (best rest) cs with
      | none => rfl
      | some texts =>
        obtain ⟨_, _, _, -, -, -, rfl⟩ := takes_of_takeField taken
        simp [field.captured_cons]

/-- What ends in a separator is tried at the last separator first. -/
theorem findSome?_ended (next : List Char → Reading) (cs : List Char)
    (k : List (String × String) → List (List Char) → α) :
    (Regex.ended.matchesAt cs).findSome? (fun m => (next m.rest).map (k m.groups)) =
      (readBehind cs (cs.tails.map next)).map (k []) := by
  rw [Regex.ended, Regex.findSome?_seq, Regex.matchesAt, List.findSome?_map]
  simp only [Function.comp_def]
  induction cs with
  | nil => rfl
  | cons c cs ih =>
    have tail : ((c :: cs).tails.map next).tail = cs.tails.map next := rfl
    have every : Symbols.any.holds c = true := rfl
    rw [Symbols.splits, if_pos every, List.findSome?_append, List.findSome?_map,
      List.findSome?_singleton, readBehind, tail, whole_tails]
    simp only [Function.comp_def, ih]
    cases readBehind cs (cs.tails.map next) with
    | some texts => rfl
    | none => by_cases here : c = separator <;> simp [Regex.matchesAt, Symbols.holds, here]

/-- The longest namespace is tried first, and no namespace last. -/
theorem findSome?_space (next : List Char → Reading) (cs : List Char)
    (k : List (String × String) → List (List Char) → α) :
    (Regex.space.matchesAt cs).findSome? (fun m => (next m.rest).map (k m.groups)) =
      ((readBehind cs (cs.tails.map next)).or (next cs)).map (k []) := by
  rw [Regex.space, Regex.matchesAt, List.findSome?_append, List.findSome?_singleton,
    findSome?_ended]
  cases readBehind cs (cs.tails.map next) <;> rfl

theorem match?_ofTemplate (t : Template) (key : String) :
    (Regex.ofPattern (ofTemplate t)).match? key.toList =
      ((ofTemplate t).read key).map (captured (ofTemplate t).pieces) := by
  have behind := fun (groups : List (String × String)) cs =>
    findSome?_ofPieces [] t.segments cs (groups ++ ·)
  have whole := findSome?_space (best t.segments) key.toList fun groups texts =>
    groups ++ captured (ofTemplate t).pieces texts
  simp only [ofTemplate] at whole
  rw [read_eq, Regex.ofPattern, Regex.match?, Regex.findSome?_seq]
  simp only [ofTemplate, behind, whole, List.nil_append]

/-- **A pattern reads a key as its expression is matched.** The pattern is written as an expression
between the marks for the start and the end of the key. A key is accepted exactly if the expression
has a match that takes all of it, and what is captured are the groups of the first such match that a
matcher comes to which backtracks. -/
theorem captures_eq_match (t : Template) (key : String) :
    (ofTemplate t).expression =
        String.ofList ("(?s)^".toList ++ (Regex.ofPattern (ofTemplate t)).written ++ ['$']) ∧
      (ofTemplate t).accepts key = ((Regex.ofPattern (ofTemplate t)).match? key.toList).isSome ∧
      (ofTemplate t).captures key =
        ((Regex.ofPattern (ofTemplate t)).match? key.toList).map Named.ofList := by
  refine ⟨Regex.expression_eq_written _, ?_, ?_⟩
  · rw [match?_ofTemplate, accepts, Option.isSome_map]
  · rw [match?_ofTemplate, captures, Option.map_map]
    rfl

/-- The second field may take all that the first one leaves, but the first one leaves nothing. -/
example : (Regex.ofPattern ⟨[.capture "a", .capture "b"]⟩).match? "n:xy".toList =
    some [("a", "xy"), ("b", "")] := by
  decide

end Pattern
end Latchkey
