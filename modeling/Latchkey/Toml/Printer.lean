import Latchkey.Toml.Text

/-!
Writing strings and numbers of a TOML document.

A string is written between double quotes if it needs no escape there, and otherwise in the first
of the other forms in which it needs none. If it needs escapes everywhere, it has them.
-/

namespace Latchkey.Toml

/-- The four ways to write a string. -/
inductive Style where
  /-- Between double quotes. -/
  | basic
  /-- Between single quotes. -/
  | literal
  /-- Between three double quotes. -/
  | longBasic
  /-- Between three single quotes. -/
  | longLiteral
deriving Repr, DecidableEq

/-- The length of the longest run of one character, after a run of `run` at the front. -/
def longestRun (c : Char) (run : Nat) : List Char → Nat
  | [] => run
  | d :: cs => if d = c then longestRun c (run + 1) cs else max run (longestRun c 0 cs)

/-- Whether a character is a control that every form but an escape refuses. -/
def isRefused (c : Char) : Bool :=
  (decide (c.toNat < 0x20) && c != '\t' && c != '\n') || c == '\x7f'

/-- The form in which a string is written. -/
def styleOf (cs : List Char) : Style :=
  let refused := cs.any isRefused
  let backslash := cs.contains '\\'
  let newline := cs.contains '\n'
  let doubles := longestRun '"' 0 cs
  let singles := longestRun '\'' 0 cs
  if !refused && !backslash && doubles == 0 && !newline then .basic
  else if !refused && singles == 0 && !newline then .literal
  else if !refused && !backslash && decide (doubles ≤ 2) then .longBasic
  else if !refused && decide (singles ≤ 2) then .longLiteral
  else if newline then .longBasic
  else .basic

/-- Four hexadecimal digits in capital letters. -/
def fourDigits (n : Nat) : List Char :=
  let digits := (Nat.toDigits 16 n).map Char.toUpper
  List.replicate (4 - digits.length) '0' ++ digits

/-- A string with escapes, after `run` quotes. Up to `quotes` quotes next to each other and, with
`breaks`, line breaks stand as they are. -/
def escapeText (quotes : Nat) (breaks : Bool) (run : Nat) : List Char → List Char
  | [] => []
  | c :: cs =>
    if c = '"' then
      if run < quotes then c :: escapeText quotes breaks (run + 1) cs
      else '\\' :: '"' :: escapeText quotes breaks 0 cs
    else
      let written :=
        if c = '\x08' then ['\\', 'b']
        else if c = '\t' then ['\\', 't']
        else if c = '\n' then if breaks then [c] else ['\\', 'n']
        else if c = '\x0c' then ['\\', 'f']
        else if c = '\r' then ['\\', 'r']
        else if c = '\\' then ['\\', '\\']
        else if isRefused c then '\\' :: 'u' :: fourDigits c.toNat
        else [c]
      written ++ escapeText quotes breaks 0 cs

/-- A string as it is written. Three quotes are followed by a line break that does not count, but
only if the string has line breaks of its own. -/
def printText (s : String) : List Char :=
  let cs := s.toList
  let opening := if cs.contains '\n' then ['\n'] else []
  match styleOf cs with
  | .basic => '"' :: (escapeText 0 false 0 cs ++ ['"'])
  | .literal => '\'' :: (cs ++ ['\''])
  | .longBasic => "\"\"\"".toList ++ opening ++ escapeText 2 true 0 cs ++ "\"\"\"".toList
  | .longLiteral => "'''".toList ++ opening ++ cs ++ "'''".toList

end Latchkey.Toml
