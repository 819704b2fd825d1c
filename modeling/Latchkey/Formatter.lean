import Latchkey.Template
import Latchkey.FieldFunction

namespace Latchkey

/-- Values by name. -/
abbrev Values := Named Json

/-- The number that a step into an array names: decimal digits, perhaps after a plus sign, below
2^64. -/
def index? (step : String) : Option Nat :=
  let digits := match step.toList with
    | '+' :: rest => rest
    | cs => cs
  if digits = [] ∨ !digits.all Char.isDigit then none
  else
    let n := digits.foldl (fun n c => n * 10 + (c.toNat - '0'.toNat)) 0
    if n < Word.unsignedEnd then some n else none

/-- One step into a value: a member of an object, an item of an array. -/
def Json.step? (v : Json) (step : String) : Option Json :=
  match v with
  | .obj members => Named.find? step members
  | .arr items => (index? step).bind fun i => items[i]?
  | _ => none

/-- The value that a path leads to. -/
def lookup? (values : Values) : List String → Option Json
  | [] => none
  | name :: steps => (Named.find? name values).bind fun v => steps.foldlM Json.step? v

/-- The value that a field names. -/
def Field.value? (f : Field) (values : Values) : Option Json := lookup? values f.path

/-- How keys are written: the functions that fields may name, and the text for a field that names
no value. -/
structure Formatter where
  functions : FunctionTable
  unbound : String → String

/-- The text for a field that names no value, unless chosen otherwise. -/
def defaultMarker : String := "*"

namespace Formatter

/-- A formatter with these functions that writes the default marker for unbound fields. -/
def ofFunctions (functions : FunctionTable) : Formatter := ⟨functions, fun _ => defaultMarker⟩

/-- The formatter that writes this marker for unbound fields. -/
def withMarker (f : Formatter) (marker : String) : Formatter :=
  { f with unbound := fun _ => marker }

/-- The function of a field, if the field names one that there is. -/
def function? (f : Formatter) (field : Field) : Option (FieldFunction × List String) :=
  field.call.bind fun call => (Named.find? call.function f.functions).map fun g => (g, call.args)

/-- The text of a field. An unbound field is not passed to its function, and a name that is no
function leaves the value as it is. -/
def fieldText (f : Formatter) (values : Values) (field : Field) : Except KeyError String :=
  match field.value? values with
  | none => .ok (f.unbound field.name)
  | some v =>
    match f.function? field with
    | none => .ok v.keyText
    | some (g, args) => (g v args).map Json.keyText

/-- The text of a segment. -/
def segmentText (f : Formatter) (values : Values) : Segment → Except KeyError String
  | .literal text => .ok text
  | .field field => f.fieldText values field

/-- The text of segments, up to the first failure. -/
def segmentsText (f : Formatter) (values : Values) : List Segment → Except KeyError String
  | [] => .ok ""
  | s :: rest => do
    let text ← f.segmentText values s
    let more ← f.segmentsText values rest
    return text ++ more

/-- The key that a template makes of values. -/
def format (f : Formatter) (t : Template) (values : Values) : Except KeyError String :=
  f.segmentsText values t.segments

/-- The key that the template with this text makes of values. -/
def formatText (f : Formatter) (source : String) (values : Values) : Except KeyError String := do
  let t ← Template.parse source
  f.format t values

end Formatter
end Latchkey
