import Latchkey.Digest.Algorithm
import Latchkey.Json.Printer
import Latchkey.Token

namespace Latchkey

/-- The text of a value in a key: nothing for null, a text as it is, and compact JSON otherwise. -/
def Json.keyText : Json → String
  | .null => ""
  | .bool flag => if flag then "true" else "false"
  | .str text => text
  | other => other.render

/-- A function that a field can name. -/
abbrev FieldFunction := Json → List String → Except KeyError Json

namespace FieldFunction

/-- The number of items, members or characters. -/
def len : FieldFunction := fun value _ =>
  match value with
  | .arr items => .ok (.int items.length)
  | .obj members => .ok (.int members.length)
  | .str text => .ok (.int text.length)
  | other => .error (.functionFailed "len" (other.kind ++ " has no length"))

/-- The digest with this name. -/
def algorithmNamed (name : String) : Except KeyError Digest.Algorithm :=
  match Digest.Algorithm.ofName? name with
  | some a => .ok a
  | none => .error (.unsupportedAlgorithm name)

/-- The digest that the first argument names; the default one if there is none or an empty one. -/
def algorithm : List String → Except KeyError Digest.Algorithm
  | [] => .ok default
  | name :: _ => if name = "" then .ok default else algorithmNamed name

/-- The digest of the value's text in a key, in hexadecimal digits. -/
def hash : FieldFunction := fun value args => do
  let a ← algorithm args
  return .str (a.hexDigest value.keyText.toUTF8.toList)

/-- A member of the document that a token carries, named by the first argument. -/
def jwt : FieldFunction := fun value args =>
  match args with
  | [] => .error (.functionFailed "jwt" "missing claim name argument")
  | name :: _ =>
    if name = "" then .error (.functionFailed "jwt" "missing claim name argument")
    else match value with
      | .str token => (Token.claim name token).mapError .malformedToken
      | other => .error (.malformedToken (.notText other.kind))

end FieldFunction

/-- Field functions by name. -/
abbrev FunctionTable := Named FieldFunction

/-- The functions that are always there. -/
def FunctionTable.builtins : FunctionTable :=
  Named.ofList [("len", .len), ("hash", .hash), ("jwt", .jwt)]

end Latchkey
