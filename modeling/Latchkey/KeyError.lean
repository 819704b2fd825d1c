import Latchkey.Template.Fault

namespace Latchkey

/-- Why a text is not a token whose payload can be read. -/
inductive TokenFault where
  /-- The value is not a text; its kind in words. -/
  | notText (kind : String)
  /-- The text has not three parts. -/
  | notThreeParts
  /-- The payload is not in base64. -/
  | notBase64
  /-- The payload is not a JSON document. -/
  | notJson
deriving Repr, DecidableEq

def TokenFault.message : TokenFault → String
  | .notText kind => "expected a string, got " ++ kind
  | .notThreeParts => "expected three dot-separated segments"
  | .notBase64 => "payload is not base64"
  | .notJson => "payload is not JSON"

/-- What can go wrong when a template is read or a key is written. -/
inductive KeyError where
  /-- The text is not a template. -/
  | invalidTemplate (template : String) (fault : FaultAt)
  /-- There is no digest of this name. -/
  | unsupportedAlgorithm (name : String)
  /-- A value is not a token. -/
  | malformedToken (fault : TokenFault)
  /-- A function refused its value or its arguments. -/
  | functionFailed (function : String) (reason : String)
deriving Repr, DecidableEq

def KeyError.message : KeyError → String
  | .invalidTemplate template fault =>
    "Invalid key template " ++ Text.quote template ++ ": " ++ fault.message
  | .unsupportedAlgorithm name => "Unsupported hash algorithm: " ++ name
  | .malformedToken fault => "Malformed token: " ++ fault.message
  | .functionFailed function reason => "Field function '" ++ function ++ "' failed: " ++ reason

end Latchkey
