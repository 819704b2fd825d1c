import Latchkey.Base64
import Latchkey.Json.Parser
import Latchkey.KeyError

/-!
Tokens of three parts with dots between them, the middle one a JSON document in base64. The
signature is not looked at: this reads a token and trusts nothing.
-/

namespace Latchkey.Token

/-- The bytes of a payload: padding at its end is dropped, and either alphabet will do. -/
def payloadBytes? (payload : List Char) : Option (List UInt8) :=
  let symbols := (payload.reverse.dropWhile (· == '=')).reverse
  (Base64.decode? .urlSafe symbols).or (Base64.decode? .standard symbols)

/-- The document that a token carries. -/
def document (token : String) : Except TokenFault Json :=
  match token.toList.splitOn '.' with
  | [_, payload, _] =>
    match payloadBytes? payload with
    | none => .error .notBase64
    | some bytes =>
      match Json.ofBytes? bytes with
      | none => .error .notJson
      | some v => .ok v
  | _ => .error .notThreeParts

/-- A member of the document that a token carries; null if it has no such member. -/
def claim (name token : String) : Except TokenFault Json :=
  (document token).map fun v => (v.member? name).getD .null

end Latchkey.Token
