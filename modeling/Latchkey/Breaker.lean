import Latchkey.Site

/-!
Circuits that open when calls become slow.

The durations of the latest calls of a function are kept in a trace. Once the trace is full, a call
whose duration meets the condition opens the circuit of its key for a time and empties the trace.
While the circuit of a key is open its calls are refused. The trace is shared by all keys of the
function; a circuit belongs to one key.
-/

namespace Latchkey

/-- The settings of a breaker. -/
structure BreakerConfig where
  /-- For how long a circuit opens. -/
  ttl : Duration
  /-- How many durations the trace holds. -/
  traceSize : Nat
  /-- The namespace of derived keys. -/
  space : String
  /-- A template to use in place of the derived one. -/
  key : Option String
  /-- The parameters that take part in derived keys; all if there is no list. -/
  listed : Option (List String)
deriving Repr, DecidableEq

namespace BreakerConfig

instance : Inhabited BreakerConfig := ⟨⟨Duration.seconds 60, 10, "perf", none, none⟩⟩

/-- What is wrong with the settings. -/
def flaw? (c : BreakerConfig) : Option PolicyFlaw :=
  if c.traceSize = 0 then some .emptyTrace
  else if c.ttl = 0 then some .emptyOpening
  else none

/-- The template of the keys: the one set, or the derived one between the namespace and the seconds
for which a circuit opens. -/
def template (c : BreakerConfig) (sig : Signature) : Except KeyError Template :=
  match c.key with
  | some source => Template.parse source
  | none => do
    let t ← sig.template c.listed
    let t ← t.withPrefix c.space
    t.withSuffix (Duration.secondsText c.ttl)

end BreakerConfig

/-- Whether a duration, after the ones in the trace, opens the circuit. -/
abbrev Condition := Float → Trace → Bool

/-- The sum of the durations of a trace. -/
def Trace.sum (t : Trace) : Float := t.foldl (· + ·) 0.0

/-- A call took more than twice as long as the calls of the trace on average. -/
def Condition.twiceTheMean : Condition := fun current trace =>
  !trace.isEmpty && decide (trace.sum / trace.length.toUInt64.toFloat * 2.0 < current)

/-- A breaker of the calls of one function. -/
structure Breaker where
  signature : Signature
  formatter : Formatter
  template : Template
  config : BreakerConfig
  condition : Condition
  /-- Where its trace is kept. -/
  slot : Nat

/-- Where the lock of a key is kept: as long as it is held, the circuit is open. -/
def lockKey (key : String) : String := key ++ ":lock"

namespace Breaker

variable {σ ε α : Type}

/-- Whether a duration opens the circuit. -/
def trips (b : Breaker) (takes : Float) (trace : Trace) : Bool :=
  trace.length == b.config.traceSize && b.condition takes trace

/-- A trace with one more duration; a full one gives up its oldest. -/
def push (b : Breaker) (takes : Float) (trace : Trace) : Trace :=
  (if trace.length = b.config.traceSize then trace.drop 1 else trace) ++ [takes]

/-- The duration of a call is recorded: it opens the circuit and empties the trace, or joins the
trace. Where the lock cannot be written the trace stays as it is. -/
def record (b : Breaker) (key : String) (takes : Float) (now : Time) (trace : Trace)
    (backend : Backend) : Except BackendError Unit × Trace × Backend :=
  if b.trips takes trace then
    match backend.setLock now (lockKey key) (.float takes) b.config.ttl with
    | (.ok _, backend) => (.ok (), [], backend)
    | (.error e, backend) => (.error e, trace, backend)
  else (.ok (), b.push takes trace, backend)

/-- What recording a duration writes to the log. -/
def notes (b : Breaker) (key : String) (takes : Float) (trace : Trace) : List Event :=
  if b.trips takes trace then [.circuitOpened key takes (Duration.parts b.config.ttl).1] else []

/-- The key of a call. -/
def keyFor (b : Breaker) (args : CallArgs) (s : Site σ) : Except KeyError String × Site σ :=
  s.bindKey b.formatter b.signature b.template args

/-- Whether the circuit of a key is open. -/
def isLocked (key : String) (s : Site σ) : Except BackendError Bool × Site σ :=
  s.access fun backend now => backend.isLocked now (lockKey key)

/-- Whether the circuit is open for a call. -/
def isOpen (b : Breaker) (args : CallArgs) (s : Site σ) : Except PolicyError Bool × Site σ :=
  match b.keyFor args s with
  | (.error e, s) => (.error (.key e), s)
  | (.ok key, s) =>
    let (answer, s) := isLocked key s
    (answer.mapError .backend, s)

/-- The trace of a breaker. -/
def trace (b : Breaker) (s : Site σ) : Trace := s.trace b.slot

/-- The duration of a call recorded in what calls share. -/
def recordAt (b : Breaker) (key : String) (takes : Float) (s : Site σ) :
    Except BackendError Unit × Site σ :=
  let noted := s.noteAll (b.notes key takes (b.trace s))
  let (answer, trace, backend) := b.record key takes s.now (b.trace s) s.backend
  (answer, { noted with backend }.setTrace b.slot trace)

/-- A call: its operation is run and timed unless the circuit of its key is open. The duration is
recorded whether the operation fails or not; if it cannot be recorded, that is the result. -/
def call (b : Breaker) (args : CallArgs) (op : Site σ → Except ε α × Site σ) (s : Site σ) :
    Outcome ε α × Site σ :=
  match b.keyFor args s with
  | (.error e, s) => (⟨false, .error (.policy (.key e))⟩, s)
  | (.ok key, s) =>
    match isLocked key s with
    | (.error e, s) => (⟨false, .error (.policy (.backend e))⟩, s)
    | (.ok true, s) =>
      (⟨false, .error (.policy (.performanceDegraded key))⟩, s.note (.circuitOpen key))
    | (.ok false, s) =>
      let (result, after) := op s
      let takes := Duration.toSeconds (after.now - s.now)
      match b.recordAt key takes after with
      | (.ok (), after) => (⟨true, result.mapError .operation⟩, after)
      | (.error e, after) => (⟨true, .error (.policy (.backend e))⟩, after)

end Breaker
end Latchkey
