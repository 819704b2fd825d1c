import Mathlib.Data.List.Chain
import Latchkey.Proofs.Template.Grammar

namespace Latchkey

theorem byteLength_eq (cs : List Char) : byteLength cs = (String.ofList cs).utf8ByteSize := by
  induction cs with
  | nil => rfl
  | cons c cs ih =>
    rw [byteLength, ih, String.ofList_cons, String.utf8ByteSize_append,
      String.utf8ByteSize_singleton]

theorem byteLength_append (front behind : List Char) :
    byteLength (front ++ behind) = byteLength front + byteLength behind := by
  simp only [byteLength_eq, String.ofList_append, String.utf8ByteSize_append]

theorem byteLength_doubled {brace : Char} (small : brace.utf8Size = 1) (cs : List Char) :
    byteLength (brace :: brace :: cs) = 2 + byteLength cs := by
  rw [byteLength, byteLength, small]
  omega

theorem notBrace_iff {c : Char} : notBrace c = true ↔ c ≠ '{' ∧ c ≠ '}' := by
  simp [notBrace]

theorem Braceless.notBrace {cs : List Char} (plain : Braceless cs) :
    ∀ c ∈ cs, notBrace c = true := by
  obtain ⟨opening, closing⟩ := plain
  intro c among
  exact notBrace_iff.mpr ⟨ne_of_mem_of_not_mem among opening, ne_of_mem_of_not_mem among closing⟩

theorem Braceless.head_ne {body rest : List Char} {c : Char} (plain : Braceless body)
    (differ : c ≠ '{') : (body ++ c :: rest).head? ≠ some '{' := by
  cases body with
  | nil => simpa using differ
  | cons d body =>
    have other : '{' ≠ d := fun same => plain.1 (same ▸ List.mem_cons_self)
    simpa using other.symm

theorem items_unclosed (offset : Nat) {body : List Char} (plain : Braceless body) :
    items offset ('{' :: body) = .error ⟨offset, .unclosed⟩ := by
  have none_left : body.dropWhile notBrace = [] := List.dropWhile_eq_nil_iff.mpr plain.notBrace
  rw [items]
  · split
    · rfl
    · next left => simp [none_left] at left
  · rintro rest rfl
    exact plain.1 List.mem_cons_self

/-- What an opening brace that is not doubled comes to is decided by the first brace behind it. -/
theorem items_opening (offset : Nat) {body after : List Char} {brace : Char}
    (plain : Braceless body) (stops : notBrace brace = false)
    (alone : (body ++ brace :: after).head? ≠ some '{') :
    items offset ('{' :: (body ++ brace :: after)) =
      if brace = '{' then .error ⟨offset, .nested⟩
      else ((Field.ofBody body).mapError (⟨offset, ·⟩)).bind fun f =>
        (items (offset + 1 + byteLength body + 1) after).map (.field f :: ·) := by
  obtain ⟨taken, left⟩ :=
    Text.takeWhile_of_stop plain.notBrace (brace :: after) (by simpa using stops)
  rw [items]
  · split
    · next nothing => simp [left] at nothing
    · next first rest found =>
      rw [left] at found
      cases found
      rw [taken]
      cases Field.ofBody body <;> rfl
  · intro rest doubled
    exact alone (congrArg List.head? doubled)

theorem items_field (offset : Nat) {body name : List Char} {call : Option Call}
    (plain : Braceless body) (written : Field.Body body name call) (after : List Char) :
    items offset ('{' :: (body ++ '}' :: after)) =
      if name = [] then .error ⟨offset, .emptyName⟩
      else if Path.isPath name then
        (items (offset + 1 + byteLength body + 1) after).map
          (.field ⟨String.ofList name, call⟩ :: ·)
      else .error ⟨offset, .malformedName (String.ofList name)⟩ := by
  rw [items_opening offset plain (by decide) (plain.head_ne (by decide)), if_neg (by decide),
    Field.ofBody_of_body written]
  by_cases empty : name = []
  · rw [if_pos empty, if_pos empty]
    rfl
  · by_cases path : Path.isPath name = true
    · rw [if_neg empty, if_neg empty, if_pos path, if_pos path]
      rfl
    · rw [if_neg empty, if_neg empty, if_neg path, if_neg path]
      rfl

/-- Items are read one after another, whatever follows them. -/
theorem Item.Reads.items {front : List Char} {xs : List Item} (reads : Item.Reads front xs)
    (offset : Nat) (behind : List Char) :
    items offset (front ++ behind) = (items (offset + byteLength front) behind).map (xs ++ ·) := by
  have chain : ∀ (r : Except FaultAt (List Item)) (ys : List Item) (x : Item),
      (r.map (ys ++ ·)).map (x :: ·) = r.map (x :: ys ++ ·) := by
    intro r ys x
    cases r <;> rfl
  induction reads generalizing offset with
  | nil =>
    simp only [List.nil_append, byteLength, Nat.add_zero]
    cases Latchkey.items offset behind <;> rfl
  | @opening cs xs _ ih =>
    rw [List.cons_append, List.cons_append, Latchkey.items, ih, chain, byteLength_doubled rfl,
      Nat.add_assoc]
  | @closing cs xs _ ih =>
    rw [List.cons_append, List.cons_append, Latchkey.items, ih, chain, byteLength_doubled rfl,
      Nat.add_assoc]
  | @char c cs xs plain _ ih =>
    have opens : c ≠ '{' := fun same => plain.1 (same ▸ List.mem_cons_self)
    have closes : c ≠ '}' := fun same => plain.2 (same ▸ List.mem_cons_self)
    rw [List.cons_append, Latchkey.items, ih, chain, byteLength, Nat.add_assoc]
    all_goals simp_all
  | @field body name call cs xs plain written path _ ih =>
    have some_name : name ≠ [] := by
      obtain ⟨member, -⟩ := path
      exact List.append_ne_nil_of_left_ne_nil member.1 _
    rw [List.cons_append, List.append_assoc, List.cons_append, items_field _ plain written,
      if_neg some_name, if_pos (Path.isPath_iff.mpr path), ih, chain]
    simp only [byteLength, byteLength_append, Nat.add_assoc]
    rfl

theorem Fault.Starts.items {fault : Fault} {cs : List Char} (starts : fault.Starts cs)
    (offset : Nat) : items offset cs = .error ⟨offset, fault⟩ := by
  cases starts with
  | @single cs alone =>
    rw [Latchkey.items]
    rintro rest rfl
    exact alone rfl
  | unclosed plain => exact items_unclosed offset plain
  | @nested body cs some_body plain =>
    have alone : (body ++ '{' :: cs).head? ≠ some '{' := by
      cases body with
      | nil => exact absurd rfl some_body
      | cons c body => exact fun opens => plain.1 (by simp_all)
    rw [items_opening offset plain (by decide) alone, if_pos rfl]
  | emptyName plain written => rw [items_field offset plain written, if_pos rfl]
  | malformedName plain written some_name path =>
    rw [items_field offset plain written, if_neg some_name,
      if_neg fun taken => path (Path.isPath_iff.mp taken)]

theorem items_eq_ok_iff {cs : List Char} {xs : List Item} (offset : Nat) :
    items offset cs = .ok xs ↔ Item.Reads cs xs := by
  have complete : ∀ ys, Item.Reads cs ys → items offset cs = .ok ys := by
    intro ys reads
    have read := reads.items offset []
    rw [List.append_nil, items] at read
    simpa [Except.map] using read
  constructor
  · intro taken
    rcases reads_or_starts cs with ⟨ys, reads⟩ | ⟨before, after, ys, fault, rfl, reads, starts⟩
    · cases taken.symm.trans (complete ys reads)
      exact reads
    · have stopped := reads.items offset after
      rw [taken, starts.items] at stopped
      cases stopped
  · exact complete xs

theorem Item.Reads.unique {cs : List Char} {xs ys : List Item} (first : Item.Reads cs xs)
    (second : Item.Reads cs ys) : xs = ys := by
  have same := ((items_eq_ok_iff 0).mpr first).symm.trans ((items_eq_ok_iff 0).mpr second)
  exact Except.ok.inj same

/-- What stands behind a row of items is read by itself. -/
theorem Item.Reads.of_append {front behind : List Char} {xs ys : List Item}
    (first : Item.Reads front xs) (whole : Item.Reads (front ++ behind) ys) :
    ∃ zs, Item.Reads behind zs ∧ ys = xs ++ zs := by
  have read := (items_eq_ok_iff 0).mpr whole
  rw [first.items] at read
  cases taken : Latchkey.items (0 + byteLength front) behind with
  | error e => rw [taken] at read; cases read
  | ok zs =>
    rw [taken] at read
    cases read
    exact ⟨zs, (items_eq_ok_iff _).mp taken, rfl⟩

theorem Fault.Starts.unread {fault : Fault} {cs : List Char} (starts : fault.Starts cs)
    (xs : List Item) : ¬ Item.Reads cs xs := by
  intro reads
  cases ((items_eq_ok_iff 0).mpr reads).symm.trans (starts.items 0)

/-- Behind a closing brace that is not doubled by what follows, nothing mends a fault. -/
theorem Fault.Starts.append {fault : Fault} {cs behind : List Char} (starts : fault.Starts cs)
    (closed : cs.getLast? = some '}') (apart : behind.head? ≠ some '}') :
    fault.Starts (cs ++ behind) := by
  cases starts with
  | @single cs alone =>
    refine .single ?_
    cases cs with
    | nil => exact apart
    | cons c cs => exact alone
  | @unclosed body plain =>
    rcases List.mem_cons.mp (List.mem_of_getLast? closed) with opens | within
    · cases opens
    · exact absurd within plain.2
  | nested some_body plain =>
    rw [List.cons_append, List.append_assoc]
    exact .nested some_body plain
  | emptyName plain written =>
    rw [List.cons_append, List.append_assoc]
    exact .emptyName plain written
  | malformedName plain written some_name path =>
    rw [List.cons_append, List.append_assoc]
    exact .malformedName plain written some_name path

/-- A row of items falls apart behind every closing brace that the next character does not
double. -/
theorem Item.Reads.split {front behind : List Char} {ys : List Item}
    (whole : Item.Reads (front ++ behind) ys) (closed : front.getLast? = some '}')
    (apart : behind.head? ≠ some '}') :
    ∃ xs zs, Item.Reads front xs ∧ Item.Reads behind zs ∧ ys = xs ++ zs := by
  rcases reads_or_starts front with ⟨xs, reads⟩ | ⟨before, after, xs, fault, rfl, reads, starts⟩
  · obtain ⟨zs, later, split⟩ := reads.of_append whole
    exact ⟨xs, zs, reads, later, split⟩
  · rw [List.append_assoc] at whole
    obtain ⟨zs, later, -⟩ := reads.of_append whole
    have last : after.getLast? = some '}' := by
      cases starts <;> simpa [List.getLast?_append] using closed
    exact absurd later ((starts.append last apart).unread zs)

theorem items_eq_error_iff {cs : List Char} {offset position : Nat} {fault : Fault} :
    items offset cs = .error ⟨position, fault⟩ ↔
      ∃ before after xs, cs = before ++ after ∧ Item.Reads before xs ∧ fault.Starts after ∧
        position = offset + byteLength before := by
  constructor
  · intro refused
    rcases reads_or_starts cs with ⟨xs, reads⟩ | ⟨before, after, xs, found, rfl, reads, starts⟩
    · cases ((items_eq_ok_iff offset).mpr reads).symm.trans refused
    · have stopped := reads.items offset after
      rw [refused, starts.items] at stopped
      cases stopped
      exact ⟨before, after, xs, rfl, reads, starts, rfl⟩
  · rintro ⟨before, after, xs, rfl, reads, starts, rfl⟩
    rw [reads.items, starts.items]
    rfl

/-- The items that a segment is made of. -/
def Segment.items : Segment → List Item
  | .literal text => text.toList.map .char
  | .field f => [.field f]

/-- A literal may not stand before another one. -/
def Segment.Joins : Segment → Segment → Prop
  | .literal _, .literal _ => False
  | _, _ => True

/-- Segments in normal form: no literal is empty, and no two literals are neighbours. -/
def Segment.Merged (segments : List Segment) : Prop :=
  .literal "" ∉ segments ∧ segments.IsChain Segment.Joins

theorem ofList_eq_empty {text : List Char} : String.ofList text = "" ↔ text = [] := by
  rw [← String.ofList_nil, String.ofList_inj]

theorem merged_field {f : Field} {segments : List Segment} :
    Segment.Merged (.field f :: segments) ↔ Segment.Merged segments := by
  have joins : ∀ s, Segment.Joins (.field f) s := fun s => by cases s <;> trivial
  simp [Segment.Merged, List.isChain_cons, joins]

theorem merged_literal {text : String} {segments : List Segment} :
    Segment.Merged (.literal text :: segments) ↔
      text ≠ "" ∧ (∀ s ∈ segments.head?, ∃ f, s = .field f) ∧ Segment.Merged segments := by
  have joins : ∀ s, Segment.Joins (.literal text) s ↔ ∃ f, s = .field f := by
    intro s
    cases s <;> simp [Segment.Joins]
  simp only [Segment.Merged, List.mem_cons, List.isChain_cons, joins, Segment.literal.injEq]
  tauto

theorem merged_afterText (text : List Char) {segments : List Segment}
    (merged : Segment.Merged segments) (begins : ∀ s ∈ segments.head?, ∃ f, s = .field f) :
    Segment.Merged (Segment.afterText text segments) := by
  unfold Segment.afterText
  by_cases empty : text = []
  · rwa [if_pos empty]
  · rw [if_neg empty]
    exact merged_literal.mpr ⟨fun none_left => empty (ofList_eq_empty.mp none_left), begins, merged⟩

theorem items_afterText (text : List Char) (segments : List Segment) :
    (Segment.afterText text segments).flatMap Segment.items =
      text.map .char ++ segments.flatMap Segment.items := by
  unfold Segment.afterText
  by_cases empty : text = []
  · rw [if_pos empty, empty, List.map_nil, List.nil_append]
  · rw [if_neg empty, List.flatMap_cons, Segment.items, String.toList_ofList]

/-- What stands behind the characters at the start begins with a field, if with anything. -/
theorem merged_gather (xs : List Item) :
    Segment.Merged (Segment.gather xs).2 ∧
      ∀ s ∈ (Segment.gather xs).2.head?, ∃ f, s = .field f := by
  induction xs with
  | nil => simp [Segment.gather, Segment.Merged]
  | cons x xs ih =>
    obtain ⟨merged, begins⟩ := ih
    cases x with
    | char c => exact ⟨merged, begins⟩
    | field f =>
      refine ⟨merged_field.mpr (merged_afterText _ merged begins), ?_⟩
      intro s first
      exact ⟨f, (Option.mem_some_iff.mp first).symm⟩

theorem items_gather (xs : List Item) :
    (Segment.gather xs).1.map .char ++ (Segment.gather xs).2.flatMap Segment.items = xs := by
  induction xs with
  | nil => rfl
  | cons x xs ih =>
    cases x with
    | char c => exact congrArg (Item.char c :: ·) ih
    | field f =>
      have kept := (items_afterText (Segment.gather xs).1 (Segment.gather xs).2).trans ih
      exact congrArg (Item.field f :: ·) kept

/-- Gathering keeps all items, in segments that are in normal form. -/
theorem ofItems_spec (xs : List Item) :
    (Segment.ofItems xs).flatMap Segment.items = xs ∧ Segment.Merged (Segment.ofItems xs) := by
  obtain ⟨merged, begins⟩ := merged_gather xs
  exact ⟨(items_afterText _ _).trans (items_gather xs), merged_afterText _ merged begins⟩

theorem gather_chars (text : List Char) (xs : List Item) :
    Segment.gather (text.map .char ++ xs) =
      (text ++ (Segment.gather xs).1, (Segment.gather xs).2) := by
  induction text with
  | nil => rfl
  | cons c text ih =>
    rw [List.map_cons, List.cons_append, Segment.gather, ih]
    rfl

/-- Segments in normal form are the only ones of their items. -/
theorem ofItems_of_merged {segments : List Segment} (merged : Segment.Merged segments) :
    Segment.ofItems (segments.flatMap Segment.items) = segments := by
  induction segments with
  | nil => rfl
  | cons s segments ih =>
    rw [List.flatMap_cons]
    cases s with
    | field f => exact congrArg (Segment.field f :: ·) (ih (merged_field.mp merged))
    | literal text =>
      obtain ⟨some_text, begins, rest⟩ := merged_literal.mp merged
      have gathered := ih rest
      -- no character stands before the first field of what follows
      have front : (Segment.gather (segments.flatMap Segment.items)).1 = [] := by
        cases segments with
        | nil => rfl
        | cons s segments =>
          obtain ⟨f, rfl⟩ := begins s rfl
          rfl
      unfold Segment.ofItems Segment.afterText at gathered ⊢
      rw [Segment.items, gather_chars]
      simp_all

theorem read_eq_ok_iff {source : String} {segments : List Segment} :
    Segment.read source = .ok segments ↔
      Item.Reads source.toList (segments.flatMap Segment.items) ∧ Segment.Merged segments := by
  unfold Segment.read
  constructor
  · intro read
    cases taken : items 0 source.toList with
    | error e => rw [taken] at read; cases read
    | ok xs =>
      rw [taken] at read
      cases read
      obtain ⟨kept, merged⟩ := ofItems_spec xs
      rw [kept]
      exact ⟨(items_eq_ok_iff 0).mp taken, merged⟩
  · rintro ⟨reads, merged⟩
    rw [(items_eq_ok_iff 0).mpr reads]
    exact congrArg Except.ok (ofItems_of_merged merged)

theorem read_eq_error_iff {source : String} {position : Nat} {fault : Fault} :
    Segment.read source = .error ⟨position, fault⟩ ↔
      ∃ before after : String, source = before ++ after ∧
        (∃ xs, Item.Reads before.toList xs) ∧ fault.Starts after.toList ∧
        position = before.utf8ByteSize := by
  have refused : Segment.read source = .error ⟨position, fault⟩ ↔
      items 0 source.toList = .error ⟨position, fault⟩ := by
    unfold Segment.read
    cases items 0 source.toList <;> simp [Except.map]
  rw [refused, items_eq_error_iff]
  constructor
  · rintro ⟨before, after, xs, split, reads, starts, rfl⟩
    refine ⟨String.ofList before, String.ofList after, ?_, ⟨xs, ?_⟩, ?_, ?_⟩
    · rw [← String.ofList_append, ← split, String.ofList_toList]
    · rwa [String.toList_ofList]
    · rwa [String.toList_ofList]
    · rw [Nat.zero_add, byteLength_eq]
  · rintro ⟨before, after, rfl, ⟨xs, reads⟩, starts, rfl⟩
    refine ⟨before.toList, after.toList, xs, String.toList_append, reads, starts, ?_⟩
    rw [Nat.zero_add, byteLength_eq, String.ofList_toList]

namespace Template

theorem parse_of_read {source : String} {segments : List Segment}
    (read : Segment.read source = .ok segments) :
    parse source = .ok ⟨source, segments, read⟩ := by
  unfold parse
  split
  · exact congrArg Except.ok (ext_source rfl)
  · next unread => cases read.symm.trans unread

/-- The text of a template reads as that template. -/
theorem parse_source (t : Template) : parse t.source = .ok t := parse_of_read t.reads

theorem source_of_parse {source : String} {t : Template} (taken : parse source = .ok t) :
    t.source = source := by
  unfold parse at taken
  split at taken
  · cases taken
    rfl
  · cases taken

theorem parse_of_fault {source : String} {lies : FaultAt}
    (unread : Segment.read source = .error lies) :
    parse source = .error (.invalidTemplate source lies) := by
  unfold parse
  split
  · next read => cases read.symm.trans unread
  · next found =>
    cases unread.symm.trans found
    rfl

/-- A text is a template with these segments exactly if it is the row of their items and they are
in normal form. -/
theorem parse_eq_ok_iff {source : String} {segments : List Segment} :
    (∃ t, parse source = .ok t ∧ t.source = source ∧ t.segments = segments) ↔
      Item.Reads source.toList (segments.flatMap Segment.items) ∧ Segment.Merged segments := by
  rw [← read_eq_ok_iff]
  constructor
  · rintro ⟨t, -, rfl, rfl⟩
    exact t.reads
  · intro read
    exact ⟨_, parse_of_read read, rfl, rfl⟩

theorem accepted_iff {source : String} :
    (∃ t, parse source = .ok t) ↔ ∃ xs, Item.Reads source.toList xs := by
  constructor
  · rintro ⟨t, taken⟩
    obtain rfl := source_of_parse taken
    exact ⟨_, (read_eq_ok_iff.mp t.reads).1⟩
  · rintro ⟨xs, reads⟩
    obtain ⟨kept, merged⟩ := ofItems_spec xs
    have read := read_eq_ok_iff.mpr ⟨kept.symm ▸ reads, merged⟩
    exact ⟨_, parse_of_read read⟩

theorem parse_eq_error_iff {source : String} {e : KeyError} :
    parse source = .error e ↔
      ∃ before after fault, source = before ++ after ∧ (∃ t, parse before = .ok t) ∧
        fault.Starts after.toList ∧
        e = .invalidTemplate source ⟨before.utf8ByteSize, fault⟩ := by
  simp only [accepted_iff]
  constructor
  · intro refused
    cases read : Segment.read source with
    | ok segments => cases (parse_of_read read).symm.trans refused
    | error lies =>
      obtain ⟨before, after, split, reads, starts, position⟩ := read_eq_error_iff.mp read
      cases (parse_of_fault read).symm.trans refused
      exact ⟨before, after, lies.fault, split, reads, starts, by rw [← position]⟩
  · rintro ⟨before, after, fault, split, reads, starts, rfl⟩
    exact parse_of_fault (read_eq_error_iff.mpr ⟨before, after, split, reads, starts, rfl⟩)

end Template

theorem Fault.Starts.brace {fault : Fault} {cs : List Char} (starts : fault.Starts cs) :
    cs.head? = some '{' ∨ cs.head? = some '}' := by
  cases starts with
  | single => exact .inr rfl
  | _ => exact .inl rfl

/-- **A text is a template exactly if it is a row of items**: doubled braces, other characters, and
fields that have a path for a name. Its segments are then the one normal form of these items. A text
that is not a template is one up to some brace, at whose offset it is refused; the reason is what is
wrong with what starts there. -/
theorem parse_grammar (source : String) :
    ((∃ t, Template.parse source = .ok t) ↔ ∃ xs, Item.Reads source.toList xs) ∧
    (∀ segments, (∃ t, Template.parse source = .ok t ∧ t.source = source ∧ t.segments = segments) ↔
      Item.Reads source.toList (segments.flatMap Segment.items) ∧ Segment.Merged segments) ∧
    ∀ e, Template.parse source = .error e ↔
      ∃ before after fault, source = before ++ after ∧ (∃ t, Template.parse before = .ok t) ∧
        (after.toList.head? = some '{' ∨ after.toList.head? = some '}') ∧
        fault.Starts after.toList ∧
        e = .invalidTemplate source ⟨before.utf8ByteSize, fault⟩ := by
  refine ⟨Template.accepted_iff, fun segments => Template.parse_eq_ok_iff, fun e => ?_⟩
  rw [Template.parse_eq_error_iff]
  constructor
  · rintro ⟨before, after, fault, split, accepted, starts, told⟩
    exact ⟨before, after, fault, split, accepted, starts.brace, starts, told⟩
  · rintro ⟨before, after, fault, split, accepted, -, starts, told⟩
    exact ⟨before, after, fault, split, accepted, starts, told⟩

end Latchkey
