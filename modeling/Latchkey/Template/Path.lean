import Latchkey.Template.Basic

/-!
Which field names are paths: a member name, then any number of `.member` and `[index]` steps, none
of them empty.
-/

namespace Latchkey.Path

/-- Whether a member name goes on with this character. -/
def inMember (c : Char) : Bool := c != '.' && c != '['

/-- Whether an index goes on with this character. -/
def inIndex (c : Char) : Bool := c != ']'

/-- Whether the text is the name of a member: not empty, and without a closing bracket. -/
def isMember (cs : List Char) : Bool := !cs.isEmpty && !cs.contains ']'

/-- Whether the text is an index: not empty, and without an opening bracket. -/
def isIndex (cs : List Char) : Bool := !cs.isEmpty && !cs.contains '['

/-- Whether the text is a series of steps. -/
def areSteps : List Char → Bool
  | [] => true
  | '.' :: rest => isMember (rest.takeWhile inMember) && areSteps (rest.dropWhile inMember)
  | '[' :: rest =>
    match h : rest.dropWhile inIndex with
    | [] => false
    | _ :: after =>
      have := Text.length_lt_of_dropWhile h
      isIndex (rest.takeWhile inIndex) && areSteps after
  | _ :: _ => false
termination_by cs => cs.length
decreasing_by
  · have shorter := (List.dropWhile_suffix (l := rest) inMember).length_le
    simp only [List.length_cons]
    omega
  · simp only [List.length_cons]
    omega

/-- Whether the text is a path. -/
def isPath (cs : List Char) : Bool :=
  isMember (cs.takeWhile inMember) && areSteps (cs.dropWhile inMember)

end Latchkey.Path
