import Latchkey.Json.Lexer

namespace Latchkey.Json

/-- A container that is still open, with what it holds so far. -/
inductive Container where
  /-- An array, its last item first. -/
  | items (held : List Json)
  /-- An object and the name whose value comes next. -/
  | members (held : Named Json) (name : String)

/-- What may come next. -/
inductive Expected where
  /-- A value. -/
  | value
  /-- A value, or the end of the array just opened. -/
  | firstItem
  /-- A name in an object that holds these members. -/
  | name (held : Named Json)
  /-- A name, or the end of the object just opened. -/
  | firstName
  /-- The colon after this name. -/
  | colon (held : Named Json) (name : String)
  /-- A comma or the end of the array. -/
  | nextItem (held : List Json)
  /-- A comma or the end of the object. -/
  | nextMember (held : Named Json)
  /-- Nothing more: the text was this value. -/
  | finish (v : Json)

/-- Where the reader stands. -/
structure Reader where
  opened : List Container
  expected : Expected

namespace Reader

/-- A value is complete: it goes into the innermost open container. -/
def complete (opened : List Container) (v : Json) : Reader :=
  match opened with
  | [] => ⟨[], .finish v⟩
  | .items held :: outer => ⟨outer, .nextItem (v :: held)⟩
  | .members held name :: outer => ⟨outer, .nextMember (Named.insert name v held)⟩

/-- The start of a value. At most `depth` containers may be open at once. -/
def begin (depth : Nat) (opened : List Container) : Token → Option Reader
  | .scalar v => some (complete opened v)
  | .text s => some (complete opened (.str s))
  | .openArray => if opened.length < depth then some ⟨opened, .firstItem⟩ else none
  | .openObject => if opened.length < depth then some ⟨opened, .firstName⟩ else none
  | _ => none

/-- One token further, if it may come here. -/
def step (depth : Nat) (r : Reader) (t : Token) : Option Reader :=
  match r.expected, t with
  | .value, t => begin depth r.opened t
  | .firstItem, .closeArray => some (complete r.opened (.arr []))
  | .firstItem, t => begin depth (.items [] :: r.opened) t
  | .nextItem held, .comma => some ⟨.items held :: r.opened, .value⟩
  | .nextItem held, .closeArray => some (complete r.opened (.arr held.reverse))
  | .firstName, .closeObject => some (complete r.opened (.obj []))
  | .firstName, .text s => some ⟨r.opened, .colon [] s⟩
  | .name held, .text s => some ⟨r.opened, .colon held s⟩
  | .colon held s, .colon => some ⟨.members held s :: r.opened, .value⟩
  | .nextMember held, .comma => some ⟨r.opened, .name held⟩
  | .nextMember held, .closeObject => some (complete r.opened (.obj held))
  | _, _ => none

/-- The value that all tokens make. -/
def run (depth : Nat) (r : Reader) : List Token → Option Json
  | [] => match r.expected with
    | .finish v => some v
    | _ => none
  | t :: ts => match r.step depth t with
    | some next => run depth next ts
    | none => none

end Reader

/-- How many arrays and objects may lie inside each other. -/
def deepest : Nat := 127

/-- The value of a JSON text. -/
def parse? (cs : List Char) : Option Json :=
  match tokens cs with
  | some ts => Reader.run deepest ⟨[], .value⟩ ts
  | none => none

/-- The value of a JSON text in UTF-8. -/
def ofBytes? (bytes : List UInt8) : Option Json :=
  match String.fromUTF8? (ByteArray.mk bytes.toArray) with
  | some text => parse? text.toList
  | none => none

end Latchkey.Json
