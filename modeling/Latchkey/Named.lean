namespace Latchkey

/-- A finite map from names, kept in increasing order of the names, each name once. The order is
that of the code points, which is also that of the UTF-8 bytes. -/
abbrev Named (α : Type) := List (String × α)

namespace Named

variable {α β : Type}

/-- The map with `value` at `name`, replacing what was there. -/
def insert (name : String) (value : α) : Named α → Named α
  | [] => [(name, value)]
  | (other, held) :: rest =>
    if name < other then (name, value) :: (other, held) :: rest
    else if name = other then (name, value) :: rest
    else (other, held) :: insert name value rest

/-- What the map holds at `name`. -/
def find? (name : String) : Named α → Option α
  | [] => none
  | (other, held) :: rest => if name = other then some held else find? name rest

/-- The map without `name`. -/
def erase (name : String) : Named α → Named α
  | [] => []
  | (other, held) :: rest => if name = other then rest else (other, held) :: erase name rest

/-- Whether the map holds something at `name`. -/
def contains (name : String) (m : Named α) : Bool := (find? name m).isSome

/-- The names in increasing order. -/
def names (m : Named α) : List String := m.map Prod.fst

/-- The map of a list of pairs; of two pairs with one name the later wins. -/
def ofList (pairs : List (String × α)) : Named α :=
  pairs.foldl (fun m p => insert p.1 p.2 m) []

/-- The first map with the pairs of the second put in. -/
def override (m more : Named α) : Named α :=
  more.foldl (fun m p => insert p.1 p.2 m) m

theorem find?_insert (n name : String) (value : α) (m : Named α) :
    find? n (insert name value m) = if n = name then some value else find? n m := by
  induction m with
  | nil => simp [insert, find?]
  | cons p rest ih =>
    obtain ⟨other, held⟩ := p
    unfold insert
    split
    · simp [find?]
    · split
      · rename_i same
        subst same
        by_cases h : n = name <;> simp [find?, h]
      · rename_i differ
        simp only [find?, ih]
        by_cases h : n = other
        · have : n ≠ name := fun e => differ (e ▸ h)
          simp [h]
          intro e
          exact absurd e.symm differ
        · simp [h]

end Named
end Latchkey
