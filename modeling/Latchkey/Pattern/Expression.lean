import Latchkey.Pattern

/-!
A pattern written as a regular expression. Two patterns are taken as equal when their expressions
are the same text. Nothing is read by way of this text: that `read` is the first match of the
expression for a matcher that backtracks is `Pattern.captures_eq_match`.
-/

namespace Latchkey.Pattern

/-- The characters that stand for themselves only behind a backslash. -/
def specials : List Char := "\\.+*?()|[]\x7b\x7d^$#&-~".toList

/-- A text as an expression that accepts this text only. -/
def quoteLiteral (text : String) : String :=
  String.ofList (text.toList.flatMap fun c => if c ∈ specials then ['\\', c] else [c])

/-- A piece as an expression. -/
def pieceExpression : Piece → String
  | .literal text => quoteLiteral text
  | .capture group => "(?P<" ++ group ++ ">[^:]*)"
  | .again => "[^:]*"

/-- The expression of a pattern: perhaps a namespace, then the pieces, up to the end of the key. -/
def expression (p : Pattern) : String :=
  "(?s)^(?:.*:)?" ++ String.join (p.pieces.map pieceExpression) ++ "$"

instance : BEq Pattern := ⟨fun p q => p.expression == q.expression⟩

end Latchkey.Pattern
