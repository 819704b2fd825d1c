import Latchkey.Toml.Value

/-!
Putting values into tables by keys, and tables under headers. A table is defined only once: by one
header, by dotted keys next to each other, or between braces.
-/

namespace Latchkey.Toml

/-- A key: its names from the outermost table inwards. -/
abbrev Key := List String

/-- Where a dotted key puts a value: the tables on the way are made, or are there already as tables
that dotted keys or inner headers made. The last table has to be one of dotted keys. -/
def assignDotted (entries : Entries) : Key → Value → Option Entries
  | [], _ => none
  | [name], v =>
    match entries.find? name with
    | none => some (entries ++ [(name, v)])
    | some _ => none
  | name :: inner :: names, v =>
    let isLast := names.isEmpty
    match entries.find? name with
    | none => (assignDotted [] (inner :: names) v).map fun made =>
        entries ++ [(name, .table .dotted made)]
    | some (.table held old) =>
      if held = .dotted ∨ (held = .implied ∧ !isLast) then
        (assignDotted old (inner :: names) v).map fun made =>
          entries.replace name (.table held made)
      else none
    | some (.tables items) =>
      if isLast then none
      else match items.getLast? with
        | none => none
        | some old => (assignDotted old (inner :: names) v).map fun made =>
            entries.replace name (.tables (items.dropLast ++ [made]))
    | some _ => none

/-- A change made to the table at a key, seen from outside. The tables on the way that are not there
are made; of tables under one header the last is meant; a table between braces cannot be entered. -/
def changeAt (change : Entries → Option Entries) : Key → Entries → Option Entries
  | [], entries => change entries
  | name :: names, entries =>
    match entries.find? name with
    | none => (changeAt change names []).map fun made => entries ++ [(name, .table .implied made)]
    | some (.table kind old) =>
      if kind = .inlined then none
      else (changeAt change names old).map fun made => entries.replace name (.table kind made)
    | some (.tables items) =>
      match items.getLast? with
      | none => none
      | some old => (changeAt change names old).map fun made =>
          entries.replace name (.tables (items.dropLast ++ [made]))
    | some _ => none

/-- A table with a header of its own begun: a new one, or one that was only implied. -/
def beginTable (name : String) (entries : Entries) : Option Entries :=
  match entries.find? name with
  | none => some (entries ++ [(name, .table .stated [])])
  | some (.table .implied old) => some (entries.replace name (.table .stated old))
  | some _ => none

/-- One more of the tables under a header in double brackets begun. -/
def beginItem (name : String) (entries : Entries) : Option Entries :=
  match entries.find? name with
  | none => some (entries ++ [(name, .tables [[]])])
  | some (.tables items) => some (entries.replace name (.tables (items ++ [[]])))
  | some _ => none

end Latchkey.Toml
