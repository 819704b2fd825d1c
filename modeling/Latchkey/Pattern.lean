import Latchkey.Template
import Latchkey.Named

/-!
Recognising a key: the pattern of a template accepts the keys that the template can make, with any
namespace in front, and gives back the texts of the fields.

A field takes any text without a separator. Of the ways to read a key, the pattern takes the one
with the longest namespace, then with the longest first field, then with the longest second field,
and so on.
-/

namespace Latchkey

/-- A piece of a pattern. -/
inductive Piece where
  /-- This text. -/
  | literal (text : String)
  /-- The text of a field, captured under the name of its group. -/
  | capture (group : String)
  /-- The text of a field whose group is captured before. -/
  | again
deriving Repr, DecidableEq

/-- The pieces of segments after fields with these groups. -/
def Piece.ofSegments (seen : List String) : List Segment → List Piece
  | [] => []
  | .literal text :: rest => .literal text :: ofSegments seen rest
  | .field f :: rest =>
    if f.group ∈ seen then .again :: ofSegments seen rest
    else .capture f.group :: ofSegments (f.group :: seen) rest

/-- The group that a piece captures. -/
def Piece.group? : Piece → Option String
  | .capture group => some group
  | _ => none

/-- A pattern: its pieces in order. -/
structure Pattern where
  pieces : List Piece

namespace Pattern

/-- The pattern of a template. -/
def ofTemplate (t : Template) : Pattern := ⟨Piece.ofSegments [] t.segments⟩

/-- The groups in order, each once. -/
def groups (p : Pattern) : List String := p.pieces.filterMap Piece.group?

/-- The texts of the fields of some pieces, in order, if a text can be read as the pieces. -/
abbrev Reading := Option (List (List Char))

/-- One reading for every end part of a text, the whole text first and the empty text last. -/
abbrev Readings := List Reading

/-- The reading of the whole text. -/
def Readings.whole (r : Readings) : Reading := r.headD none

/-- No pieces read the empty text only. -/
def readEnd : List Char → Readings
  | [] => [some []]
  | _ :: cs => none :: readEnd cs

/-- A literal in front of pieces with these readings. -/
def readLiteral (text : List Char) : List Char → Readings → Readings
  | cs, rest =>
    let here := if text.isPrefixOf cs then Readings.whole (rest.drop text.length) else none
    match cs with
    | [] => [here]
    | _ :: cs => here :: readLiteral text cs rest.tail

/-- A field in front of pieces with these readings: it takes one character more whenever the end
part behind that character can still be read. -/
def readField : List Char → Readings → Readings
  | [], rest => [(Readings.whole rest).map ([] :: ·)]
  | c :: cs, rest =>
    let later := readField cs rest.tail
    let empty := (Readings.whole rest).map ([] :: ·)
    let here := match Readings.whole later with
      | some (text :: texts) => if c = separator then empty else some ((c :: text) :: texts)
      | _ => empty
    here :: later

/-- The readings of every end part of a text. -/
def readings : List Piece → List Char → Readings
  | [], cs => readEnd cs
  | .literal text :: rest, cs => readLiteral text.toList cs (readings rest cs)
  | .capture _ :: rest, cs => readField cs (readings rest cs)
  | .again :: rest, cs => readField cs (readings rest cs)

/-- The reading of the shortest end part that stands behind a separator and can be read. -/
def readBehind : List Char → Readings → Reading
  | [], _ => none
  | c :: cs, all =>
    match readBehind cs all.tail with
    | some texts => some texts
    | none => if c = separator then Readings.whole all.tail else none

/-- The texts of all fields of a key, behind the longest namespace that leaves a key. Of all matches
of the pattern's expression this is the one that a matcher comes to first which takes as much as it
can at every place. -/
def read (p : Pattern) (key : String) : Reading :=
  let all := readings p.pieces key.toList
  (readBehind key.toList all).or (Readings.whole all)

/-- Whether the pattern accepts a key. -/
def accepts (p : Pattern) (key : String) : Bool := (p.read key).isSome

/-- The texts that are captured, each under its group. -/
def captured : List Piece → List (List Char) → List (String × String)
  | .literal _ :: rest, texts => captured rest texts
  | .capture group :: rest, text :: texts => (group, String.ofList text) :: captured rest texts
  | .again :: rest, _ :: texts => captured rest texts
  | _, _ => []

/-- The captured texts of a key that the pattern accepts. -/
def captures (p : Pattern) (key : String) : Option (Named String) :=
  (p.read key).map fun texts => Named.ofList (captured p.pieces texts)

end Pattern
end Latchkey
