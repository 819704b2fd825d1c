import Latchkey.Proofs.Template.Assembly
import Latchkey.Template.Printer

/-!
The canonical text of segments has all that reading keeps of a template and nothing else: braces of
literals are doubled, a call always has its parentheses, and blanks, a missing parenthesis and what
follows a `!` are gone. `parse_printAll`: the canonical text of a template is again a template, with
the same segments.
-/

namespace Latchkey

namespace Call

/-- A call that can be written down: its parts are trimmed, the name ends at the first parenthesis
and an argument at the next comma, and one empty argument would be taken for none. -/
structure Clean (c : Call) : Prop where
  name : Text.Trimmed c.function.toList
  opens : '(' ∉ c.function.toList
  args : ∀ arg ∈ c.args, Text.Trimmed arg.toList
  commas : ∀ arg ∈ c.args, ',' ∉ arg.toList
  some_arg : c.args ≠ [""]

/-- The text between the parentheses of a call. -/
def inner (c : Call) : List Char := [','].intercalate (c.args.map String.toList)

theorem toList_print (c : Call) :
    c.print.toList = c.function.toList ++ '(' :: (c.inner ++ [')']) := by
  simp [print, inner]

/-- What a call is made of when its text is not blank. -/
theorem ofChars?_eq_some {spec : List Char} {c : Call} (read : ofChars? spec = some c) :
    c = ⟨String.ofList (Text.trim spec), []⟩ ∧ '(' ∉ Text.trim spec ∨
      ∃ name rest, Text.trim spec = name ++ '(' :: rest ∧ '(' ∉ name ∧
        c.function = String.ofList (Text.trim name) ∧
        c.args =
          if Text.trim (Text.withoutLast ')' rest) = [] then []
          else ((Text.withoutLast ')' rest).splitOn ',').map fun arg =>
            String.ofList (Text.trim arg) := by
  unfold ofChars? at read
  dsimp only at read
  split at read
  · cases read
  · obtain ⟨front, behind, cut⟩ := Text.exists_cut '(' (Text.trim spec)
    generalize Text.trim spec = text at read cut ⊢
    cases cut with
    | whole clean =>
      rw [Text.splitFirst_of_not_mem clean] at read
      cases read
      exact .inl ⟨rfl, clean⟩
    | first clean =>
      rw [Text.splitFirst_append clean] at read
      cases read
      exact .inr ⟨_, _, rfl, clean, rfl, rfl⟩

/-- Reading gives calls that can be written down. -/
theorem clean_of_ofChars? {spec : List Char} {c : Call} (read : ofChars? spec = some c) :
    c.Clean := by
  rcases ofChars?_eq_some read with ⟨rfl, clean⟩ | ⟨name, rest, -, clean, function, args⟩
  · constructor
    · simpa using Text.trimmed_trim spec
    · simpa using clean
    · simp
    · simp
    · simp
  · have piece_of : ∀ arg ∈ c.args, ∃ piece ∈ (Text.withoutLast ')' rest).splitOn ',',
        arg = String.ofList (Text.trim piece) := by
      intro arg among
      rw [args] at among
      split at among
      · cases among
      · obtain ⟨piece, piece_of, rfl⟩ := List.mem_map.mp among
        exact ⟨piece, piece_of, rfl⟩
    constructor
    · rw [function, String.toList_ofList]
      exact Text.trimmed_trim name
    · rw [function, String.toList_ofList]
      exact fun among => clean (Text.mem_of_mem_trim among)
    · intro arg among
      obtain ⟨piece, -, rfl⟩ := piece_of arg among
      rw [String.toList_ofList]
      exact Text.trimmed_trim piece
    · intro arg among comma
      obtain ⟨piece, piece_of, rfl⟩ := piece_of arg among
      rw [String.toList_ofList] at comma
      exact (Text.of_mem_splitOn piece_of (Text.mem_of_mem_trim comma)).2 rfl
    · -- one piece is the whole text between the parentheses, which is not blank
      intro alone
      rw [args] at alone
      split at alone
      · cases alone
      · next visible =>
        obtain ⟨piece, split, blank⟩ := List.map_eq_singleton_iff.mp alone
        have whole : List.intercalate [','] (List.splitOn ',' (Text.withoutLast ')' rest)) =
            Text.withoutLast ')' rest := List.intercalate_splitOn ','
        rw [split, List.intercalate_singleton] at whole
        rw [whole] at blank
        exact visible (ofList_eq_empty.mp blank)

theorem mem_inner {c : Call} {d : Char} (among : d ∈ c.inner) :
    d = ',' ∨ ∃ arg ∈ c.args, d ∈ arg.toList := by
  unfold inner at among
  generalize c.args = args at among ⊢
  induction args with
  | nil => cases among
  | cons arg rest ih =>
    cases rest with
    | nil =>
      rw [List.map_singleton, List.intercalate_singleton] at among
      exact .inr ⟨arg, List.mem_singleton.mpr rfl, among⟩
    | cons next rest =>
      rw [List.map_cons, List.map_cons, List.intercalate_cons_cons, List.append_assoc,
        List.mem_append, List.mem_append, List.mem_singleton] at among
      rcases among with here | comma | later
      · exact .inr ⟨arg, List.mem_cons_self, here⟩
      · exact .inl comma
      · refine (ih later).imp_right ?_
        rintro ⟨other, there, among⟩
        exact ⟨other, List.mem_cons_of_mem arg there, among⟩

/-- The characters of a printed call are those it was read from, and the marks around them. -/
theorem mem_print_of_ofChars? {spec : List Char} {c : Call} (read : ofChars? spec = some c)
    {d : Char} (among : d ∈ c.print.toList) : d ∈ spec ∨ d = '(' ∨ d = ',' ∨ d = ')' := by
  have parts : (∀ d ∈ c.function.toList, d ∈ spec) ∧
      ∀ arg ∈ c.args, ∀ d ∈ arg.toList, d ∈ spec := by
    rcases ofChars?_eq_some read with ⟨rfl, -⟩ | ⟨name, rest, cut, -, function, args⟩
    · exact ⟨fun d inside => Text.mem_of_mem_trim (by simpa using inside), by simp⟩
    · have whole : ∀ d ∈ name ++ '(' :: rest, d ∈ spec :=
        fun d inside => Text.mem_of_mem_trim (cut ▸ inside)
      rw [function, args]
      constructor
      · intro d inside
        rw [String.toList_ofList] at inside
        exact whole d (List.mem_append_left _ (Text.mem_of_mem_trim inside))
      · intro arg arg_of d inside
        split at arg_of
        · cases arg_of
        · obtain ⟨piece, piece_of, rfl⟩ := List.mem_map.mp arg_of
          rw [String.toList_ofList] at inside
          have within := (Text.of_mem_splitOn piece_of (Text.mem_of_mem_trim inside)).1
          exact whole d (List.mem_append_right _
            (List.mem_cons_of_mem _ (Text.mem_of_mem_withoutLast within)))
  rw [toList_print, List.mem_append, List.mem_cons, List.mem_append, List.mem_singleton] at among
  rcases among with named | opens | inside | closes
  · exact .inl (parts.1 d named)
  · exact .inr (.inl opens)
  · rcases mem_inner inside with comma | ⟨arg, arg_of, within⟩
    · exact .inr (.inr (.inl comma))
    · exact .inl (parts.2 arg arg_of d within)
  · exact .inr (.inr (.inr closes))

theorem Clean.trimmed_print {c : Call} (clean : c.Clean) : Text.Trimmed c.print.toList := by
  rw [toList_print]
  constructor
  · intro d first
    rw [List.head?_append] at first
    cases name : c.function.toList.head? with
    | none =>
      rw [name] at first
      cases first
      decide
    | some e =>
      rw [name] at first
      cases first
      exact clean.name.1 _ name
  · intro d last
    rw [← List.cons_append, ← List.append_assoc, List.getLast?_concat] at last
    cases last
    decide

/-- The text between the parentheses is blank only where there are no arguments. -/
theorem Clean.inner_blank_iff {c : Call} (clean : c.Clean) :
    Text.trim c.inner = [] ↔ c.args = [] := by
  constructor
  · intro blank
    have all := Text.trim_eq_nil_iff.mp blank
    obtain ⟨function, args⟩ := c
    cases args with
    | nil => rfl
    | cons arg rest =>
      cases rest with
      | nil =>
        -- a single argument that is blank and trimmed is empty
        have only : inner ⟨function, [arg]⟩ = arg.toList := by simp [inner]
        rw [only, Text.trim_of_trimmed (clean.args arg (List.mem_singleton.mpr rfl))] at blank
        have empty : arg = "" := String.toList_eq_nil_iff.mp blank
        exact absurd (by rw [empty]) clean.some_arg
      | cons next rest =>
        have comma : ',' ∈ inner ⟨function, arg :: next :: rest⟩ := by
          simp [inner, List.intercalate_cons_cons]
        exact absurd (all ',' comma) (by decide)
  · intro none_given
    rw [inner, none_given]
    rfl

theorem Clean.splitOn_inner {c : Call} (clean : c.Clean) (some_args : c.args ≠ []) :
    c.inner.splitOn ',' = c.args.map String.toList := by
  refine List.splitOn_intercalate ',' ?_ (by simpa using some_args)
  intro text text_of
  obtain ⟨arg, arg_of, rfl⟩ := List.mem_map.mp text_of
  exact clean.commas arg arg_of

/-- A call that can be written down is read from its text. -/
theorem ofChars?_print {c : Call} (clean : c.Clean) : ofChars? c.print.toList = some c := by
  have visible : c.print.toList ≠ [] := by simp [toList_print]
  have args : (if Text.trim c.inner = [] then []
      else (c.inner.splitOn ',').map fun arg => String.ofList (Text.trim arg)) = c.args := by
    by_cases none_given : c.args = []
    · rw [if_pos (clean.inner_blank_iff.mpr none_given), none_given]
    · rw [if_neg (mt clean.inner_blank_iff.mp none_given), clean.splitOn_inner none_given,
        List.map_map]
      have kept : ∀ arg ∈ c.args, String.ofList (Text.trim arg.toList) = arg := by
        intro arg arg_of
        rw [Text.trim_of_trimmed (clean.args arg arg_of), String.ofList_toList]
      exact (List.map_congr_left kept).trans (List.map_id' c.args)
  unfold ofChars?
  dsimp only
  rw [Text.trim_of_trimmed clean.trimmed_print, if_neg visible, toList_print,
    Text.splitFirst_append clean.opens]
  dsimp only
  rw [Text.withoutLast_concat, args, Text.trim_of_trimmed clean.name, String.ofList_toList]

example : (Call.parse? " f ( p ,, q").map Call.print = some "f(p,,q)" := by decide +kernel

end Call

theorem Braceless.of_subset {cs ds : List Char} (plain : Braceless cs) (within : ds ⊆ cs) :
    Braceless ds := ⟨fun among => plain.1 (within among), fun among => plain.2 (within among)⟩

theorem Braceless.append {cs ds : List Char} (front : Braceless cs) (behind : Braceless ds) :
    Braceless (cs ++ ds) := by
  constructor <;> intro among <;> rcases List.mem_append.mp among with inside | inside
  · exact front.1 inside
  · exact behind.1 inside
  · exact front.2 inside
  · exact behind.2 inside

/-- Printing a call puts no brace into it. -/
theorem Call.braceless_print {spec : List Char} {c : Call} (plain : Braceless spec)
    (read : ofChars? spec = some c) : Braceless c.print.toList := by
  have outside : ∀ brace, brace ∉ spec → brace ≠ '(' → brace ≠ ',' → brace ≠ ')' →
      brace ∉ c.print.toList := by
    intro brace absent opens comma closes among
    rcases mem_print_of_ofChars? read among with inside | same | same | same
    · exact absent inside
    · exact opens same
    · exact comma same
    · exact closes same
  exact ⟨outside _ plain.1 (by decide) (by decide) (by decide),
    outside _ plain.2 (by decide) (by decide) (by decide)⟩

/-- The field is what some text comes to that stands between braces. -/
def Field.Written (f : Field) : Prop :=
  ∃ body, Braceless body ∧ Field.Body body f.name.toList f.call ∧ Path.WellFormed f.name.toList

theorem Item.Reads.written_of_mem {cs : List Char} {xs : List Item} {f : Field}
    (reads : Item.Reads cs xs) (among : .field f ∈ xs) : f.Written := by
  induction reads with
  | nil => cases among
  | opening _ ih | closing _ ih | char _ _ ih =>
    exact ih ((List.mem_cons.mp among).resolve_left (by rintro ⟨⟩))
  | @field body name call _ _ plain written path _ ih =>
    rcases List.mem_cons.mp among with this | later
    · cases this
      exact ⟨body, plain, by rwa [String.toList_ofList], by rwa [String.toList_ofList]⟩
    · exact ih later

theorem Field.Body.parts {body name : List Char} {call : Option Call}
    (written : Field.Body body name call) :
    ∃ head spec ignored, Text.Cut ':' body head spec ∧ Text.Cut '!' head name ignored ∧
      spec.bind Call.ofChars? = call := by
  obtain ⟨colon, mark⟩ := written
  exact ⟨_, _, _, colon, mark, rfl⟩

/-- The canonical text of a field is one of the texts that come to it. -/
theorem Field.Written.body {f : Field} (written : f.Written) :
    Braceless f.body.toList ∧ Field.Body f.body.toList f.name.toList f.call := by
  obtain ⟨name, call⟩ := f
  obtain ⟨body, plain, written, -⟩ := written
  obtain ⟨head, spec, ignored, colon, mark, read⟩ := written.parts
  have marks : '!' ∉ name.toList := mark.not_mem
  have colons : ':' ∉ name.toList := fun among => colon.not_mem (mark.front_subset among)
  have named : Braceless name.toList :=
    plain.of_subset (List.Subset.trans mark.front_subset colon.front_subset)
  cases call with
  | none =>
    have bare : Field.Body name.toList name.toList (none.bind Call.ofChars?) :=
      .intro (.whole colons) (.whole marks)
    exact ⟨named, bare⟩
  | some call =>
    obtain ⟨spec, rfl, read⟩ := Option.bind_eq_some_iff.mp read
    have printed : Call.ofChars? call.print.toList = some call :=
      Call.ofChars?_print (Call.clean_of_ofChars? read)
    have text : (Field.body ⟨name, some call⟩).toList =
        name.toList ++ ':' :: call.print.toList := by
      simp [Field.body]
    have again : Field.Body (name.toList ++ ':' :: call.print.toList) name.toList
        ((some call.print.toList).bind Call.ofChars?) := .intro (.first colons) (.whole marks)
    rw [text]
    constructor
    · have colon_plain : Braceless [':'] := by decide
      have behind := Call.braceless_print (plain.of_subset colon.behind_subset) read
      exact named.append (colon_plain.append behind)
    · rwa [Option.bind_some, printed] at again

theorem Segment.reads_print {s : Segment} (written : ∀ f, s = .field f → f.Written) :
    Item.Reads s.print.toList s.items := by
  cases s with
  | literal text => exact Item.Reads.escape text
  | field f =>
    obtain ⟨plain, body⟩ := (written f rfl).body
    obtain ⟨-, -, -, path⟩ := written f rfl
    simpa [Segment.print, Segment.items] using Item.Reads.field plain body path .nil

theorem Segment.reads_printAll {segments : List Segment}
    (each : ∀ s ∈ segments, Item.Reads s.print.toList s.items) :
    Item.Reads (Segment.printAll segments).toList (segments.flatMap Segment.items) := by
  unfold Segment.printAll
  induction segments with
  | nil => exact .nil
  | cons s segments ih =>
    have rest := ih fun s among => each s (List.mem_cons_of_mem _ among)
    rw [List.map_cons, String.join_cons, String.toList_append, List.flatMap_cons]
    exact (each s List.mem_cons_self).append rest

/-- **Printing undoes reading.** The canonical text of a template is a template with the same
segments. -/
theorem parse_printAll (t : Template) :
    Template.parse t.source = .ok t ∧
      ∃ t', Template.parse (Segment.printAll t.segments) = .ok t' ∧ t'.segments = t.segments := by
  refine ⟨Template.parse_of_read t.reads, ?_⟩
  obtain ⟨reads, merged⟩ := read_eq_ok_iff.mp t.reads
  have each : ∀ s ∈ t.segments, Item.Reads s.print.toList s.items := by
    intro s among
    refine Segment.reads_print fun f same => reads.written_of_mem ?_
    subst same
    exact List.mem_flatMap.mpr ⟨.field f, among, List.mem_singleton.mpr rfl⟩
  obtain ⟨t', again, -, same⟩ :=
    Template.parse_eq_ok_iff.mpr ⟨Segment.reads_printAll each, merged⟩
  exact ⟨t', again, same⟩

end Latchkey
