import Latchkey.Template.Path
import Latchkey.Template.Fault

namespace Latchkey

/-- The name in a field: what comes before the first `!`. -/
def Field.nameOf (head : List Char) : List Char := head.takeWhile (· != '!')

/-- The field with this text between its braces. What follows the first colon is a call; what
follows a `!` in front of it is ignored. -/
def Field.ofBody (body : List Char) : Except Fault Field :=
  let (head, call) := match Text.splitFirst ':' body with
    | some (head, spec) => (head, Call.ofChars? spec)
    | none => (body, none)
  let name := Field.nameOf head
  if name = [] then .error .emptyName
  else if Path.isPath name then .ok ⟨String.ofList name, call⟩
  else .error (.malformedName (String.ofList name))

/-- A character of a literal, or a field. -/
inductive Item where
  | char (c : Char)
  | field (f : Field)
deriving Repr, DecidableEq

/-- Whether a character is neither of the braces. -/
def notBrace (c : Char) : Bool := c != '{' && c != '}'

/-- The number of bytes of a text in UTF-8. -/
def byteLength : List Char → Nat
  | [] => 0
  | c :: cs => c.utf8Size + byteLength cs

/-- The items of a text that starts at this byte offset. A doubled brace is a brace; a field ends at
the first brace after its start. -/
def items (offset : Nat) : List Char → Except FaultAt (List Item)
  | [] => .ok []
  | '{' :: '{' :: rest => (items (offset + 2) rest).map (.char '{' :: ·)
  | '}' :: '}' :: rest => (items (offset + 2) rest).map (.char '}' :: ·)
  | '{' :: rest =>
    let body := rest.takeWhile notBrace
    match h : rest.dropWhile notBrace with
    | [] => .error ⟨offset, .unclosed⟩
    | brace :: after =>
      have := Text.length_lt_of_dropWhile h
      if brace = '{' then .error ⟨offset, .nested⟩
      else match Field.ofBody body with
        | .error fault => .error ⟨offset, fault⟩
        | .ok f => (items (offset + 1 + byteLength body + 1) after).map (.field f :: ·)
  | '}' :: _ => .error ⟨offset, .single⟩
  | c :: rest => (items (offset + c.utf8Size) rest).map (.char c :: ·)
termination_by cs => cs.length
decreasing_by
  all_goals
    simp only [List.length_cons]
    omega

/-- A literal in front of segments, unless it is empty. -/
def Segment.afterText (text : List Char) (segments : List Segment) : List Segment :=
  if text = [] then segments else .literal (String.ofList text) :: segments

/-- The characters in front of the first field, and the segments from there on. -/
def Segment.gather : List Item → List Char × List Segment
  | [] => ([], [])
  | .char c :: rest =>
    let (text, segments) := gather rest
    (c :: text, segments)
  | .field f :: rest =>
    let (text, segments) := gather rest
    ([], .field f :: afterText text segments)

/-- The segments of a list of items: neighbouring characters become one literal. -/
def Segment.ofItems (xs : List Item) : List Segment :=
  let (text, segments) := gather xs
  afterText text segments

/-- The segments of a template text. -/
def Segment.read (source : String) : Except FaultAt (List Segment) :=
  (items 0 source.toList).map Segment.ofItems

end Latchkey
