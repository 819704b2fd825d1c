import Latchkey.Proofs.Toml.Lines
import Latchkey.Proofs.Toml.Written
import Latchkey.Toml.Document

/-!
A document that is written line by line: settings, and behind them groups of settings, each under
its header. `parse?_text`: read again, it is the table of these settings and groups.
-/

namespace Latchkey.Toml

/-- A setting as it is written: its name, the text behind the equals sign, and the value that this
text stands for. -/
structure Setting where
  name : String
  text : List Char
  value : Value

namespace Setting

/-- The setting on a line of its own. -/
def line (s : Setting) : List Char := s.name.toList ++ " = ".toList ++ s.text ++ ['\n']

def statement (s : Setting) : Statement := .assign [s.name] s.value

def entry (s : Setting) : String × Value := (s.name, s.value)

/-- The name needs no quotes, and the text stands for the value. -/
structure Proper (s : Setting) : Prop where
  bare : Bare s.name
  written : Written s.text s.value

variable {s : Setting}

theorem Proper.takeStatement (proper : s.Proper) (fuel : Nat) (rest : List Char) :
    takeStatement (fuel + 1) (s.line ++ rest) = some (s.statement, rest) := by
  have parts : s.line ++ rest =
      s.name.toList ++ ' ' :: '=' :: ' ' :: (s.text ++ '\n' :: rest) := by
    simp [line]
  have named := takeKey_bare proper.bare (' ' :: '=' :: ' ' :: (s.text ++ '\n' :: rest))
    (by rintro _ ⟨⟩; rfl) (by rintro ⟨⟩)
  have behind : dropBlanks (' ' :: (s.text ++ '\n' :: rest)) = s.text ++ '\n' :: rest := by
    obtain ⟨c, more, same, visible⟩ := proper.written.begins
    rw [same]
    exact dropBlanks_cons visible _
  have plain : (s.line ++ rest).head? ≠ some '[' := by
    obtain ⟨c, more, same, differs⟩ := proper.bare.exists_cons
    rw [parts, same]
    exact fun opens => differs '[' rfl (Option.some.inj opens)
  have value := proper.written.value fuel deepest rest
  rw [← behind] at value
  exact takeStatement_assign plain (parts ▸ named) value (dropLineEnd?_break rest)

theorem Proper.makes (proper : s.Proper) : Makes s.line [s.statement] where
  enough := by
    simp only [line, List.length_append, List.length_singleton]
    omega
  read fuel rest := by
    obtain ⟨c, more, same, differs⟩ := proper.bare.exists_cons
    have taken := proper.takeStatement (fuel + 1) rest
    have begins : dropLines (fuel + 2) (s.line ++ rest) = some (s.line ++ rest) := by
      simp only [line, same, List.cons_append]
      apply dropLines_cons
      · simp [isBlank, differs ' ' rfl, differs '\t' rfl]
      · exact ⟨differs '#' rfl, differs '\n' rfl, differs '\r' rfl⟩
    simp only [line, same, List.cons_append] at taken begins ⊢
    exact takeStatements_step begins taken

/-- A setting with a string. -/
def ofText (name text : String) : Setting := ⟨name, printText text, .text text⟩

/-- A setting with a number. -/
def ofNumber (name : String) (n : Nat) : Setting := ⟨name, Nat.toDigits 10 n, .int n⟩

/-- A setting with a truth value. -/
def ofFlag (name : String) (flag : Bool) : Setting :=
  ⟨name, (if flag then "true" else "false").toList, .bool flag⟩

theorem Proper.ofText {name text : String} (bare : Bare name) (simple : Simple text) :
    (Setting.ofText name text).Proper := ⟨bare, written_text simple⟩

theorem Proper.ofNumber {name : String} {n : Nat} (bare : Bare name)
    (fits : n < Word.unsignedEnd) : (Setting.ofNumber name n).Proper := ⟨bare, written_number fits⟩

theorem Proper.ofFlag {name : String} (bare : Bare name) (flag : Bool) :
    (Setting.ofFlag name flag).Proper := ⟨bare, written_flag flag⟩

end Setting

/-- Settings under a header. -/
structure Group where
  name : String
  settings : List Setting

namespace Group

/-- The header, after an empty line. -/
def header (g : Group) : List Char := '\n' :: '[' :: (g.name.toList ++ [']', '\n'])

def text (g : Group) : List Char := g.header ++ g.settings.flatMap Setting.line

def statements (g : Group) : List Statement :=
  .header [g.name] :: g.settings.map Setting.statement

def entry (g : Group) : String × Value :=
  (g.name, .table .stated (g.settings.map Setting.entry))

/-- The name needs no quotes, and each name is in the group once. -/
structure Proper (g : Group) : Prop where
  bare : Bare g.name
  settings : ∀ s ∈ g.settings, s.Proper
  names : (g.settings.map Setting.name).Nodup

variable {g : Group}

theorem Proper.takeStatement (proper : g.Proper) (fuel : Nat) (rest : List Char) :
    takeStatement fuel ('[' :: (g.name.toList ++ ']' :: '\n' :: rest)) =
      some (.header [g.name], rest) := by
  obtain ⟨c, more, same, differs⟩ := proper.bare.exists_cons
  have visible : isBlank c = false := by
    simp [isBlank, differs ' ' rfl, differs '\t' rfl]
  have named := takeKey_bare proper.bare (']' :: '\n' :: rest)
    (by rintro _ ⟨⟩; rfl) (by rintro ⟨⟩)
  change takeHeader _ = _
  simp only [same, List.cons_append] at named ⊢
  rw [takeHeader]
  · rw [dropBlanks_cons visible, named]
    rfl
  · rintro _ ⟨⟩
    exact differs '[' rfl rfl

theorem Proper.makes_header (proper : g.Proper) : Makes g.header [.header [g.name]] where
  enough := by
    simp only [header, List.length_cons, List.length_nil]
    omega
  read fuel rest := by
    have begins : dropLines (fuel + 2) (g.header ++ rest) =
        some ('[' :: (g.name.toList ++ ']' :: '\n' :: rest)) := by
      have later := dropLines_cons (c := '[') rfl (by decide) fuel
        (g.name.toList ++ ']' :: '\n' :: rest)
      rw [← later]
      simp only [header, List.cons_append, List.append_assoc, List.nil_append]
      rfl
    exact takeStatements_step begins (proper.takeStatement (fuel + 2) rest)

theorem Proper.makes (proper : g.Proper) : Makes g.text g.statements := by
  have settings : Makes (g.settings.flatMap Setting.line)
      (g.settings.flatMap fun s => [s.statement]) :=
    .flatMap fun s among => (proper.settings s among).makes
  rw [← List.map_eq_flatMap] at settings
  exact proper.makes_header.append settings

end Group

namespace Entries

variable {name : String} {es : Entries}

theorem find?_eq_none_iff : es.find? name = none ↔ name ∉ es.map Prod.fst := by
  rw [find?, List.lookup_eq_none_iff]
  constructor
  · intro apart among
    obtain ⟨e, held, rfl⟩ := List.mem_map.mp among
    simpa using apart e held
  · intro absent e held
    have differ : name ≠ e.1 := fun same => absent (same ▸ List.mem_map_of_mem held)
    simpa using differ

theorem find?_last (absent : name ∉ es.map Prod.fst) (v : Value) :
    find? name (es ++ [(name, v)]) = some v := by
  have before : es.lookup name = none := find?_eq_none_iff.mpr absent
  simp [find?, List.lookup_append, before]

theorem replace_last (absent : name ∉ es.map Prod.fst) (old new : Value) :
    replace name new (es ++ [(name, old)]) = es ++ [(name, new)] := by
  induction es with
  | nil => exact if_pos rfl
  | cons e es ih =>
    obtain ⟨differ, later⟩ := not_or.mp (List.mem_cons.not.mp absent)
    rw [List.cons_append, replace, if_neg (Ne.symm differ), ih later]
    rfl

end Entries

theorem assignDotted_fresh {name : String} {es : Entries} (absent : name ∉ es.map Prod.fst)
    (v : Value) : assignDotted es [name] v = some (es ++ [(name, v)]) := by
  rw [assignDotted, Entries.find?_eq_none_iff.mpr absent]

/-- A change in the table that was begun last. -/
theorem changeAt_last {name : String} {es : Entries} (absent : name ∉ es.map Prod.fst)
    (change : Entries → Option Entries) (held : Entries) :
    changeAt change [name] (es ++ [(name, .table .stated held)]) =
      (change held).map fun made => es ++ [(name, .table .stated made)] := by
  rw [changeAt, Entries.find?_last absent]
  simp only [Entries.replace_last absent, changeAt]
  rfl

namespace Document

/-- Settings go into the table at `here` one after the other, whatever is around it. -/
theorem add_settings {here : Key} {around : Entries → Entries}
    (inside : ∀ change held, changeAt change here (around held) = (change held).map around)
    {settings : List Setting} {held : Entries}
    (names : (held.map Prod.fst ++ settings.map Setting.name).Nodup) :
    (settings.map Setting.statement).foldlM add ⟨around held, here⟩ =
      some ⟨around (held ++ settings.map Setting.entry), here⟩ := by
  -- what is held grows by one entry for each setting, so its names stay apart from those to come
  induction settings generalizing held with
  | nil => simp
  | cons s settings ih =>
    have absent : s.name ∉ held.map Prod.fst := by
      intro among
      exact (List.nodup_append.mp names).2.2 _ among _ List.mem_cons_self rfl
    have added : add ⟨around held, here⟩ s.statement = some ⟨around (held ++ [s.entry]), here⟩ := by
      rw [Setting.statement, add, inside, assignDotted_fresh absent]
      rfl
    have left : ((held ++ [s.entry]).map Prod.fst ++ settings.map Setting.name).Nodup := by
      simpa [Setting.entry] using names
    have later := ih left
    rw [List.map_cons, List.foldlM_cons, added]
    simpa using later

theorem add_group {g : Group} (proper : g.Proper) {es : Entries}
    (absent : g.name ∉ es.map Prod.fst) (here : Key) :
    g.statements.foldlM add ⟨es, here⟩ = some ⟨es ++ [g.entry], [g.name]⟩ := by
  have begun : add ⟨es, here⟩ (.header [g.name]) =
      some ⟨es ++ [(g.name, .table .stated [])], [g.name]⟩ := by
    simp [add, changeAt, beginTable, Entries.find?_eq_none_iff.mpr absent]
  have names : (([] : Entries).map Prod.fst ++ g.settings.map Setting.name).Nodup := proper.names
  have filled := add_settings (changeAt_last absent) names
  rw [Group.statements, List.foldlM_cons, begun]
  exact filled

theorem add_groups {groups : List Group} (proper : ∀ g ∈ groups, g.Proper) {es : Entries}
    (names : (es.map Prod.fst ++ groups.map Group.name).Nodup) (here : Key) :
    ((groups.flatMap Group.statements).foldlM add ⟨es, here⟩).map entries =
      some (es ++ groups.map Group.entry) := by
  induction groups generalizing es here with
  | nil => simp
  | cons g groups ih =>
    have absent : g.name ∉ es.map Prod.fst := by
      intro among
      exact (List.nodup_append.mp names).2.2 _ among _ List.mem_cons_self rfl
    have left : ((es ++ [g.entry]).map Prod.fst ++ groups.map Group.name).Nodup := by
      simpa [Group.entry] using names
    have later := ih (fun g among => proper g (List.mem_cons_of_mem _ among)) left [g.name]
    rw [List.flatMap_cons, List.foldlM_append, add_group (proper g List.mem_cons_self) absent]
    simpa using later

end Document

/-- Settings, and groups of settings behind them. -/
structure Sheet where
  settings : List Setting
  groups : List Group

namespace Sheet

/-- The document as it is written. -/
def text (s : Sheet) : List Char :=
  s.settings.flatMap Setting.line ++ s.groups.flatMap Group.text

/-- The table that the document is. -/
def entries (s : Sheet) : Entries := s.settings.map Setting.entry ++ s.groups.map Group.entry

/-- No setting and no group has the name of another one. -/
structure Proper (s : Sheet) : Prop where
  settings : ∀ setting ∈ s.settings, setting.Proper
  groups : ∀ g ∈ s.groups, g.Proper
  names : (s.settings.map Setting.name ++ s.groups.map Group.name).Nodup

variable {s : Sheet}

theorem Proper.makes (proper : s.Proper) :
    Makes s.text (s.settings.map Setting.statement ++ s.groups.flatMap Group.statements) := by
  have settings : Makes (s.settings.flatMap Setting.line)
      (s.settings.flatMap fun s => [s.statement]) :=
    .flatMap fun setting among => (proper.settings setting among).makes
  have groups : Makes (s.groups.flatMap Group.text) (s.groups.flatMap Group.statements) :=
    .flatMap fun g among => (proper.groups g among).makes
  rw [← List.map_eq_flatMap] at settings
  exact settings.append groups

theorem Proper.unmarked (proper : s.Proper) : s.text.head? ≠ some '\ufeff' := by
  obtain ⟨settings, groups⟩ := s
  cases settings with
  | cons setting settings =>
    obtain ⟨c, more, same, differs⟩ := (proper.settings _ List.mem_cons_self).bare.exists_cons
    simp only [text, List.flatMap_cons, Setting.line, same, List.cons_append, List.head?_cons]
    exact fun marked => differs '\ufeff' rfl (Option.some.inj marked)
  | nil =>
    cases groups with
    | nil => exact fun marked => by cases marked
    | cons g groups => exact fun marked => by cases marked

/-- **A document of settings is read as it was written.** Settings under bare names and groups of
them, each name once, make the table of these settings and groups, in their order. -/
theorem parse?_text (proper : s.Proper) : parse? s.text = some s.entries := by
  have inside : ∀ change held, changeAt change [] (id held) = (change held).map id := by
    intro change held
    rw [Option.map_id, changeAt]
    rfl
  have names : (([] : Entries).map Prod.fst ++ s.settings.map Setting.name).Nodup :=
    (List.nodup_append.mp proper.names).1
  have top := Document.add_settings inside names
  have apart : ((s.settings.map Setting.entry).map Prod.fst ++ s.groups.map Group.name).Nodup := by
    simpa [Setting.entry, Function.comp_def] using proper.names
  have all := Document.add_groups proper.groups apart []
  rw [parse?, proper.makes.statements proper.unmarked, Option.bind_some, List.foldlM_append]
  simp only [id_eq, List.nil_append] at top
  simpa [Document.empty, top, entries] using all

end Sheet

end Latchkey.Toml
