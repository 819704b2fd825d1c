import Latchkey.Json.Value
import Latchkey.Text.Quoted
import Latchkey.Decimal.Layout

namespace Latchkey.Json

/-- How one character of a string is written: a backslash before the quote and the backslash, a
letter for the commonest controls, four hexadecimal digits for the others. -/
def escapeChar (c : Char) : List Char :=
  if c = '"' ∨ c = '\\' then ['\\', c]
  else if c = '\x08' then ['\\', 'b']
  else if c = '\x0c' then ['\\', 'f']
  else if c = '\n' then ['\\', 'n']
  else if c = '\r' then ['\\', 'r']
  else if c = '\t' then ['\\', 't']
  else if c.toNat < 0x20 then
    let digits := Text.hexDigits c.toNat
    '\\' :: 'u' :: (List.replicate (4 - digits.length) '0' ++ digits)
  else [c]

/-- A string as it is written, between double quotes. -/
def renderText (text : String) : String :=
  String.ofList ('"' :: (text.toList.flatMap escapeChar ++ ['"']))

/-- An integer in decimal digits. -/
def renderInt (n : Int) : String :=
  let digits := Nat.toDigits 10 n.natAbs
  String.ofList (if n < 0 then '-' :: digits else digits)

/-- A double as it is written; what is not finite has no number to write. -/
def renderFloat (x : Float) : String :=
  if x.isFinite then Decimal.Layout.document.render x else "null"

mutual

/-- The compact text of a value: no blanks, members in their order. -/
def render : Json → String
  | .null => "null"
  | .bool flag => if flag then "true" else "false"
  | .int n => renderInt n
  | .float x => renderFloat x
  | .str text => renderText text
  | .arr items => "[" ++ renderItems items ++ "]"
  | .obj members => "\x7b" ++ renderMembers members ++ "\x7d"

def renderItems : List Json → String
  | [] => ""
  | [item] => render item
  | item :: next :: items => render item ++ "," ++ renderItems (next :: items)

def renderMembers : List (String × Json) → String
  | [] => ""
  | [(name, value)] => renderText name ++ ":" ++ render value
  | (name, value) :: next :: members =>
    renderText name ++ ":" ++ render value ++ "," ++ renderMembers (next :: members)

end

end Latchkey.Json
