import Latchkey.Text.Quoted

namespace Latchkey

/-- What is wrong with a template. -/
inductive Fault where
  /-- A field holds an opening brace. -/
  | nested
  /-- A field is not closed. -/
  | unclosed
  /-- A closing brace closes nothing. -/
  | single
  /-- A field has no name. -/
  | emptyName
  /-- The name of a field is not a path. -/
  | malformedName (name : String)
deriving Repr, DecidableEq

/-- The fault in words; the offset of the brace follows. -/
def Fault.message : Fault → String
  | .nested => "nested '\x7b' inside field starting"
  | .unclosed => "unclosed field starting"
  | .single => "single '\x7d'"
  | .emptyName => "empty field name"
  | .malformedName name => "malformed field name " ++ Text.quote name

/-- A fault and the byte offset of the brace where it lies. -/
structure FaultAt where
  offset : Nat
  fault : Fault
deriving Repr, DecidableEq

def FaultAt.message (f : FaultAt) : String :=
  f.fault.message ++ " at byte " ++ String.ofList (Nat.toDigits 10 f.offset)

end Latchkey
