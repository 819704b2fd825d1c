import Latchkey.Text.Blank

/-!
The parts of a key template: literal text and fields.

A field names a value, possibly inside another one (`user.id`, `items[0]`), and may name a function
that the value goes through.
-/

namespace Latchkey

/-- The character between the components of a key. -/
def separator : Char := ':'

/-- The function of a field, with the arguments written after it. -/
structure Call where
  function : String
  args : List String
deriving Repr, DecidableEq

/-- The call written in a field, if it is not blank: a name, and arguments in parentheses with
commas between them. The closing parenthesis may be missing. -/
def Call.ofChars? (spec : List Char) : Option Call :=
  let spec := Text.trim spec
  if spec = [] then none
  else match Text.splitFirst '(' spec with
    | none => some ⟨String.ofList spec, []⟩
    | some (name, rest) =>
      let inner := Text.withoutLast ')' rest
      let args :=
        if Text.trim inner = [] then []
        else (inner.splitOn ',').map fun arg => String.ofList (Text.trim arg)
      some ⟨String.ofList (Text.trim name), args⟩

/-- The call written in a field. -/
def Call.parse? (spec : String) : Option Call := Call.ofChars? spec.toList

/-- A place in a template that a value goes into. -/
structure Field where
  name : String
  call : Option Call
deriving Repr, DecidableEq

/-- The characters that end a component of a field name. -/
def isStep (c : Char) : Bool := c == '.' || c == '[' || c == ']'

/-- The components of a field name: dots and brackets both step into the value. -/
def Field.path (f : Field) : List String :=
  ((f.name.toList.splitOnP isStep).filter (fun part => part ≠ [])).map String.ofList

def isGroupChar (c : Char) : Bool := c.isAlphanum || c == '_'

/-- The name under which a pattern captures the field: an underscore for every character that is
not a letter, digit or underscore of ASCII, and one before a leading digit. -/
def Field.group (f : Field) : String :=
  let cs := f.name.toList.map fun c => if isGroupChar c then c else '_'
  match cs with
  | c :: _ => String.ofList (if c.isDigit then '_' :: cs else cs)
  | [] => ""

/-- A piece of a template. -/
inductive Segment where
  /-- Text copied as it is. -/
  | literal (text : String)
  /-- A place for a value. -/
  | field (f : Field)
deriving Repr, DecidableEq

/-- The field of a segment. -/
def Segment.field? : Segment → Option Field
  | .literal _ => none
  | .field f => some f

/-- The segment as a part of a description of all keys: a star for a field. -/
def Segment.glob : Segment → String
  | .literal text => text
  | .field _ => "*"

end Latchkey
