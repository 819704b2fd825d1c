import Latchkey.Template

namespace Latchkey

/-- A call with its arguments between parentheses, commas between them. -/
def Call.print (c : Call) : String := c.function ++ "(" ++ String.intercalate "," c.args ++ ")"

/-- The text between the braces of a field. -/
def Field.body (f : Field) : String :=
  match f.call with
  | none => f.name
  | some call => f.name ++ ":" ++ call.print

/-- A segment as the text of a template. -/
def Segment.print : Segment → String
  | .literal text => escape text
  | .field f => "\x7b" ++ f.body ++ "\x7d"

/-- The canonical text of segments. -/
def Segment.printAll (segments : List Segment) : String := String.join (segments.map Segment.print)

end Latchkey
