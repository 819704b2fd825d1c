import Latchkey.Config

namespace Latchkey

namespace FunctionTable

/-- A table with more functions, each in its turn; a function takes the place of one with its name,
and that is noted. -/
def extend (table : FunctionTable) : List (String × FieldFunction) → FunctionTable × List Event
  | [] => (table, [])
  | (name, f) :: rest =>
    let (extended, notes) := extend (Named.insert name f table) rest
    (extended, if Named.contains name table then .functionReplaced name :: notes else notes)

end FunctionTable

/-- An engine. -/
structure Engine where
  config : Config
  /-- How keys are written from values. -/
  formatter : Formatter
  /-- How keys are written from the arguments of calls. -/
  binder : Formatter

namespace Engine

variable {σ : Type}

/-- The engine of a configuration with more functions, perhaps with a binder of its own, and what
building it notes. -/
def build (c : Config) (functions : List (String × FieldFunction)) (binder : Option Formatter) :
    Engine × List Event :=
  let (table, notes) := FunctionTable.builtins.extend functions
  let formatter := (Formatter.ofFunctions table).withMarker c.marker
  (⟨c, formatter, binder.getD formatter⟩, notes ++ [.ready (Named.names table)])

/-- The key that the template with this text makes of values. -/
def format (e : Engine) (template : String) (values : Values) : Except EngineError String :=
  (e.formatter.formatText template values).mapError .key

/-- The key of one call. -/
def bindKey (e : Engine) (sig : Signature) (t : Template) (args : CallArgs) (s : Site σ) :
    Except EngineError String × Site σ :=
  let (answer, s) := s.bindKey e.binder sig t args
  (answer.mapError .key, s)

/-- The plain template of a function, derived and registered. -/
def register (sig : Signature) (listed : Option (List String)) (s : Site σ) :
    Except EngineError Template × Site σ :=
  match sig.template listed with
  | .error cause => (.error (.key cause), s)
  | .ok t => (.ok t, (s.register sig.id t).2)

/-- The template with this text, registered for a function. -/
def registerTemplate (f : FuncId) (source : String) (s : Site σ) :
    Except EngineError Template × Site σ :=
  match Template.parse source with
  | .error cause => (.error (.key cause), s)
  | .ok t => (.ok t, (s.register f t).2)

/-- A limiter for a function, its template registered. -/
def limiter (e : Engine) (sig : Signature) (c : LimitConfig) (s : Site σ) :
    Except EngineError Limiter × Site σ :=
  match c.flaw? with
  | some flaw => (.error (.policy (.invalidConfig flaw)), s)
  | none =>
    match c.template sig with
    | .error cause => (.error (.policy (.key cause)), s)
    | .ok t => (.ok ⟨sig, e.binder, t, c⟩, (s.register sig.id t).2)

/-- A breaker for a function, its template registered and its trace empty. -/
def breaker (e : Engine) (sig : Signature) (c : BreakerConfig) (condition : Condition)
    (s : Site σ) : Except EngineError Breaker × Site σ :=
  match c.flaw? with
  | some flaw => (.error (.policy (.invalidConfig flaw)), s)
  | none =>
    match c.template sig with
    | .error cause => (.error (.policy (.key cause)), s)
    | .ok t =>
      let registered := (s.register sig.id t).2
      (.ok ⟨sig, e.binder, t, c, condition, s.traces.length⟩,
        { registered with traces := s.traces ++ [[]] })

/-- A limiter under the namespace of the configuration. -/
def limiterWith (e : Engine) (sig : Signature) (limit : Nat) (period : Duration) (s : Site σ) :
    Except EngineError Limiter × Site σ :=
  e.limiter sig (e.config.limiter limit period) s

/-- A breaker with the settings of the configuration. -/
def breakerWithDefaults (e : Engine) (sig : Signature) (s : Site σ) :
    Except EngineError Breaker × Site σ :=
  e.breaker sig e.config.breaker .twiceTheMean s

end Engine
end Latchkey
