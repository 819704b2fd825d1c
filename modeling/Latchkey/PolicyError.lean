import Latchkey.Backend
import Latchkey.KeyError

namespace Latchkey

/-- Settings that a policy cannot work with. -/
inductive PolicyFlaw where
  /-- A limiter's window has no length. -/
  | emptyPeriod
  /-- A limiter's ban is set and has no length. -/
  | emptyBan
  /-- A breaker keeps no durations. -/
  | emptyTrace
  /-- A breaker's circuit opens for no time. -/
  | emptyOpening
deriving Repr, DecidableEq

def PolicyFlaw.message : PolicyFlaw → String
  | .emptyPeriod => "rate limit period must be > 0"
  | .emptyBan => "rate limit ttl must be > 0 when set"
  | .emptyTrace => "trace_size must be >= 1"
  | .emptyOpening => "degradation ttl must be > 0"

/-- Why a guarded call did not come to its operation, or could not be recorded. -/
inductive PolicyError where
  /-- The limiter refused the call with this key. -/
  | rateLimitExceeded (key : String)
  /-- The circuit of this key is open. -/
  | performanceDegraded (key : String)
  | backend (cause : BackendError)
  | invalidConfig (flaw : PolicyFlaw)
  | key (cause : KeyError)
deriving Repr, DecidableEq

namespace PolicyError

def message : PolicyError → String
  | .rateLimitExceeded k => "Rate limit exceeded for key " ++ k
  | .performanceDegraded k => "Performance degraded for key " ++ k
  | .backend cause => "Backend error: " ++ cause.message
  | .invalidConfig flaw => "Invalid configuration: " ++ flaw.message
  | .key cause => cause.message

/-- The key of a call that a policy refused. -/
def rejectedKey? : PolicyError → Option String
  | .rateLimitExceeded k => some k
  | .performanceDegraded k => some k
  | _ => none

/-- Whether a policy refused the call, rather than something failing. -/
def isRejection (e : PolicyError) : Bool := e.rejectedKey?.isSome

end PolicyError
end Latchkey
