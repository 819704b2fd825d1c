import Latchkey.Breaker
import Latchkey.Limiter

namespace Latchkey

/-- The settings of an engine. -/
structure Config where
  logLevel : Level
  /-- Where the log goes; to standard output if it is not set. -/
  logFile : Option String
  /-- Log as much as at level `debug`, whatever the level is. -/
  verbose : Bool
  /-- The text for a field that names no value. -/
  marker : String
  /-- The namespace of limiters. -/
  limiterSpace : String
  /-- The namespace of breakers. -/
  breakerSpace : String
  /-- How many durations the trace of a breaker holds. -/
  traceSize : Nat
  /-- For how many seconds a circuit opens. -/
  ttlSeconds : Nat
deriving Repr, DecidableEq

/-- Settings of an engine that it cannot work with, and a log that cannot be set up. -/
inductive ConfigError where
  /-- A breaker would keep no durations. -/
  | emptyTrace
  /-- A circuit would open for no time. -/
  | emptyOpening
  /-- The log file cannot be made. -/
  | logFile (reason : String)
  /-- The log is set up already. -/
  | logTaken
deriving Repr, DecidableEq

def ConfigError.message : ConfigError → String
  | .emptyTrace => "perf.trace_size must be >= 1"
  | .emptyOpening => "perf.ttl_secs must be > 0"
  | .logFile reason => "Failed to create log file: " ++ reason
  | .logTaken =>
    "Failed to install subscriber: a global default trace dispatcher has already been set"

/-- What can go wrong in an engine. -/
inductive EngineError where
  | config (cause : ConfigError)
  /-- A file cannot be read. -/
  | file
  /-- A file is not a configuration. -/
  | syntaxError
  | key (cause : KeyError)
  | policy (cause : PolicyError)
deriving Repr, DecidableEq

namespace EngineError

def message : EngineError → String
  | .config cause => "Configuration error: " ++ cause.message
  | .file => "I/O error"
  | .syntaxError => "TOML error"
  | .key cause => cause.message
  | .policy cause => cause.message

/-- Whether a policy refused a call, rather than something failing. -/
def isRejection : EngineError → Bool
  | .policy cause => cause.isRejection
  | _ => false

/-- Whether the settings are at fault. -/
def isConfigError : EngineError → Bool
  | .config _ => true
  | .syntaxError => true
  | _ => false

end EngineError

namespace Config

instance : Inhabited Config :=
  ⟨⟨.info, none, false, defaultMarker, "rate_limit", "perf", 10, 60⟩⟩

/-- What is wrong with the settings. -/
def flaw? (c : Config) : Option ConfigError :=
  if c.traceSize = 0 then some .emptyTrace
  else if c.ttlSeconds = 0 then some .emptyOpening
  else none

/-- The settings of a limiter with so many calls in this window. -/
def limiter (c : Config) (limit : Nat) (period : Duration) : LimitConfig :=
  { LimitConfig.per limit period with space := c.limiterSpace }

/-- The settings of a breaker. -/
def breaker (c : Config) : BreakerConfig :=
  { (default : BreakerConfig) with
    ttl := Duration.seconds c.ttlSeconds, traceSize := c.traceSize, space := c.breakerSpace }

/-- The level down to which events are logged. -/
def effectiveLevel (c : Config) : Level := if c.verbose then .debug else c.logLevel

end Config
end Latchkey
