import Latchkey.Toml.Text
import Latchkey.Toml.Table

/-!
The statements of a TOML document: headers of tables, and values assigned to keys. What they make
together is for `Toml.Document` to say.
-/

namespace Latchkey.Toml

/-- A line of a document, or several lines that belong together. -/
inductive Statement where
  /-- `[key]` -/
  | header (key : Key)
  /-- `[[key]]` -/
  | item (key : Key)
  /-- `key = value` -/
  | assign (key : Key) (value : Value)

/-- A text without a comment at its start, up to the end of the line; a comment holds no control
characters. -/
def dropComment? (cs : List Char) : Option (List Char) :=
  match cs with
  | '#' :: rest =>
    match rest.dropWhile isPlain with
    | [] => some []
    | c :: after => if (afterBreak? (c :: after)).isSome then some (c :: after) else none
  | cs => some cs

/-- A text without the blanks at its start. -/
def dropBlanks (cs : List Char) : List Char := cs.dropWhile isBlank

/-- A text without the blanks, comments and empty lines at its start. -/
def dropLines : (fuel : Nat) → List Char → Option (List Char)
  | 0, _ => none
  | fuel + 1, cs => do
    let cs ← dropComment? (dropBlanks cs)
    match afterBreak? cs with
    | some rest => dropLines fuel rest
    | none => some cs

/-- What follows the end of a line: blanks, perhaps a comment, a line break or the end. -/
def dropLineEnd? (cs : List Char) : Option (List Char) := do
  let cs ← dropComment? (dropBlanks cs)
  match cs with
  | [] => some []
  | cs => afterBreak? cs

def inBareName (c : Char) : Bool := c.isAlphanum || c == '_' || c == '-'

/-- One name of a key, and what follows it. -/
def takeName (cs : List Char) : Option (String × List Char) :=
  match cs with
  | '"' :: rest => (basicText rest).map fun (s, after) => (String.ofList s, after)
  | '\'' :: rest => (literalText rest).map fun (s, after) => (String.ofList s, after)
  | cs =>
    let name := cs.takeWhile inBareName
    if name.isEmpty then none else some (String.ofList name, cs.dropWhile inBareName)

/-- A key of at most this many names, and what follows it and the blanks behind it. -/
def takeNames : (most : Nat) → List Char → Option (Key × List Char)
  | 0, _ => none
  | most + 1, cs => do
    let (name, rest) ← takeName cs
    match dropBlanks rest with
    | '.' :: more =>
      let (names, after) ← takeNames most (dropBlanks more)
      some (name :: names, after)
    | after => some ([name], after)

/-- The number of names that a key may have. -/
def longestKey : Nat := 80

/-- A key, and what follows it and the blanks behind it. -/
def takeKey (cs : List Char) : Option (Key × List Char) := takeNames longestKey cs

mutual

/-- A value at the start of a text, and what follows it. Arrays and tables between braces may lie
inside each other `depth` times. -/
def takeValue : (fuel depth : Nat) → List Char → Option (Value × List Char)
  | 0, _, _ => none
  | fuel + 1, depth, cs =>
    match cs with
    | '[' :: rest =>
      match depth with
      | 0 => none
      | depth + 1 => (takeItems fuel depth rest).map fun (items, after) => (.array items, after)
    | '{' :: rest =>
      match depth with
      | 0 => none
      | depth + 1 =>
        (takeEntries fuel depth [] rest).map fun (entries, after) =>
          (.table .inlined entries, after)
    | '"' :: _ => (takeText cs).map fun (s, after) => (.text (String.ofList s), after)
    | '\'' :: _ => (takeText cs).map fun (s, after) => (.text (String.ofList s), after)
    | cs =>
      let (run, after) := takeScalar cs
      (scalar? run).map fun v => (v, after)

/-- The items of an array up to its closing bracket, with a comma between two of them and perhaps
one behind the last. -/
def takeItems : (fuel depth : Nat) → List Char → Option (List Value × List Char)
  | 0, _, _ => none
  | fuel + 1, depth, cs => do
    match ← dropLines fuel cs with
    | ']' :: after => some ([], after)
    | cs =>
      let (v, rest) ← takeValue fuel depth cs
      match ← dropLines fuel rest with
      | ']' :: after => some ([v], after)
      | ',' :: rest =>
        let (vs, after) ← takeItems fuel depth rest
        some (v :: vs, after)
      | _ => none

/-- The entries of a table up to its closing brace, after the ones it holds already. Lines may end
anywhere but inside a key. -/
def takeEntries : (fuel depth : Nat) → Entries → List Char → Option (Entries × List Char)
  | 0, _, _, _ => none
  | fuel + 1, depth, held, cs => do
    match ← dropLines fuel cs with
    | '}' :: after => some (held, after)
    | cs =>
      let (key, rest) ← takeKey cs
      match ← dropLines fuel rest with
      | '=' :: rest =>
        let (v, rest) ← takeValue fuel depth (← dropLines fuel rest)
        let held ← assignDotted held key v
        match ← dropLines fuel rest with
        | '}' :: after => some (held, after)
        | ',' :: rest => takeEntries fuel depth held rest
        | _ => none
      | _ => none

end

/-- How deep values may lie inside each other. -/
def deepest : Nat := 80

/-- The key between the brackets of a header, and what follows its line. -/
def takeHeader (cs : List Char) : Option (Statement × List Char) :=
  match cs with
  | '[' :: rest => do
    let (key, rest) ← takeKey (dropBlanks rest)
    match rest with
    | ']' :: ']' :: rest => (dropLineEnd? rest).map fun after => (.item key, after)
    | _ => none
  | rest => do
    let (key, rest) ← takeKey (dropBlanks rest)
    match rest with
    | ']' :: rest => (dropLineEnd? rest).map fun after => (.header key, after)
    | _ => none

/-- One statement at the start of a text, and what follows its line. -/
def takeStatement (fuel : Nat) (cs : List Char) : Option (Statement × List Char) :=
  match cs with
  | '[' :: rest => takeHeader rest
  | cs => do
    let (key, rest) ← takeKey cs
    match rest with
    | '=' :: rest =>
      let (v, rest) ← takeValue fuel deepest (dropBlanks rest)
      (dropLineEnd? rest).map fun after => (.assign key v, after)
    | _ => none

/-- The statements of a text. -/
def takeStatements : (fuel : Nat) → List Char → Option (List Statement)
  | 0, _ => none
  | fuel + 1, cs => do
    match ← dropLines fuel cs with
    | [] => some []
    | cs =>
      let (s, rest) ← takeStatement fuel cs
      let ss ← takeStatements fuel rest
      some (s :: ss)

/-- The statements of a document. Every step takes at least one character or is the last of its
kind, so a little more steps than characters are enough. -/
def statements? (document : List Char) : Option (List Statement) :=
  let text := match document with
    | '\ufeff' :: text => text
    | text => text
  takeStatements (text.length + 2) text

end Latchkey.Toml
