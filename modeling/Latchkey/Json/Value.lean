import Latchkey.Named
import Latchkey.Word

namespace Latchkey

/-- A structured value. A number written without point or exponent and within 64 bits is an
integer, every other number a double; the members of an object are in increasing order of their
names. -/
inductive Json where
  | null
  | bool (flag : Bool)
  | int (n : Int)
  | float (x : Float)
  | str (text : String)
  | arr (items : List Json)
  | obj (members : List (String × Json))

namespace Json

instance : Inhabited Json := ⟨.null⟩

/-- The kind of a value, in words. -/
def kind : Json → String
  | .null => "null"
  | .bool _ => "boolean"
  | .int _ | .float _ => "number"
  | .str _ => "string"
  | .arr _ => "array"
  | .obj _ => "object"

/-- The integers that a counter can hold. -/
def isCount (n : Int) : Bool := decide (-(Word.signedEnd : Int) ≤ n) && decide (n < Word.signedEnd)

/-- The value as a counter. -/
def count? : Json → Option Int
  | .int n => if isCount n then some n else none
  | _ => none

/-- The member of an object with this name. -/
def member? (name : String) : Json → Option Json
  | .obj members => Named.find? name members
  | _ => none

end Json
end Latchkey
