namespace Latchkey.Toml

/-- How a table came to be. -/
inductive TableKind where
  /-- It has a header of its own, or it is the document itself. -/
  | stated
  /-- The header of a table inside it names it. -/
  | implied
  /-- A dotted key names it. -/
  | dotted
  /-- It stands between braces. -/
  | inlined
deriving Repr, DecidableEq

/-- A value. Of a float and of a date only the text is kept: no setting has one. -/
inductive Value where
  | text (s : String)
  | int (n : Int)
  | float (s : String)
  /-- A number that a document may hold and nobody can read: it is out of range, it has no digits
  behind the mark of its base, or some that are none. -/
  | unusable (s : String)
  | bool (flag : Bool)
  | date (s : String)
  | array (items : List Value)
  | table (kind : TableKind) (entries : List (String × Value))
  /-- Tables under one header in double brackets. -/
  | tables (items : List (List (String × Value)))

/-- Names and values. -/
abbrev Entries := List (String × Value)

mutual

/-- Whether every number in a value can be read. -/
def Value.isUsable : Value → Bool
  | .unusable _ => false
  | .array items => itemsUsable items
  | .table _ entries => entriesUsable entries
  | .tables items => tablesUsable items
  | .text _ | .int _ | .float _ | .bool _ | .date _ => true

def itemsUsable : List Value → Bool
  | [] => true
  | v :: rest => v.isUsable && itemsUsable rest

def entriesUsable : List (String × Value) → Bool
  | [] => true
  | (_, v) :: rest => v.isUsable && entriesUsable rest

def tablesUsable : List (List (String × Value)) → Bool
  | [] => true
  | entries :: rest => entriesUsable entries && tablesUsable rest

end

/-- The value with this name. -/
def Entries.find? (name : String) (entries : Entries) : Option Value := entries.lookup name

/-- The entries with this value under a name that they hold already. -/
def Entries.replace (name : String) (v : Value) : Entries → Entries
  | [] => []
  | (other, held) :: rest =>
    if other = name then (other, v) :: rest else (other, held) :: replace name v rest

end Latchkey.Toml
