import Latchkey.Event
import Latchkey.PolicyError
import Latchkey.Registry

/-!
What the calls of one engine share: the clock, the backend, the registered templates, the traces of
the breakers and the log.

The operation of a guarded call may do anything with it, make other calls too. `own` is whatever
the program around the engine keeps beside.
-/

namespace Latchkey

/-- The durations of recent calls in seconds, the oldest first. -/
abbrev Trace := List Float

/-- What calls share. -/
structure Site (σ : Type) where
  now : Time
  backend : Backend
  registry : Registry
  /-- A trace for every breaker, in the order in which the breakers were made. -/
  traces : List Trace
  /-- What happened, the latest first. -/
  events : List Event
  own : σ

namespace Site

variable {σ α : Type}

/-- The start: the clock at zero and nothing kept. -/
def start (own : σ) : Site σ := ⟨0, .empty, .empty, [], [], own⟩

/-- Something more has happened. -/
def note (s : Site σ) (e : Event) : Site σ := { s with events := e :: s.events }

/-- Several things have happened, the first of the list first. -/
def noteAll (s : Site σ) (es : List Event) : Site σ := { s with events := es.reverse ++ s.events }

/-- Time passes. -/
def pass (s : Site σ) (d : Duration) : Site σ := { s with now := s.now + d }

/-- The trace in a slot. -/
def trace (s : Site σ) (slot : Nat) : Trace := s.traces.getD slot []

/-- A trace put into a slot. -/
def setTrace (s : Site σ) (slot : Nat) (t : Trace) : Site σ :=
  { s with traces := s.traces.set slot t }

/-- A template registered for a function; whether it is new there. -/
def register (s : Site σ) (f : FuncId) (t : Template) : Bool × Site σ :=
  let (new, registry) := s.registry.register f t
  let s := { s with registry }
  (new, if new then s.note (.templateRegistered f t.source) else s)

/-- Where a key comes from. -/
def originOf? (s : Site σ) (key : String) : Option Origin × Site σ :=
  match s.registry.originOf? key with
  | some o => (some o, s)
  | none => (none, s.note (.noTemplate key))

/-- Where a key comes from, with the texts of its fields. -/
def fieldsOf? (s : Site σ) (key : String) : Option KeyFields × Site σ :=
  match s.registry.fieldsOf? key with
  | some o => (some o, s)
  | none => (none, s.note (.noTemplate key))

/-- The key of one call. -/
def bindKey (s : Site σ) (f : Formatter) (sig : Signature) (t : Template) (args : CallArgs) :
    Except KeyError String × Site σ :=
  match sig.key f t args with
  | .ok key => (.ok key, s.note (.keyBound sig.id key))
  | .error e => (.error e, s)

/-- An access to the backend at this instant. -/
def access (s : Site σ) (f : Backend → Time → Access α) : Except BackendError α × Site σ :=
  let (answer, backend) := f s.backend s.now
  (answer, { s with backend })

end Site

/-- How a guarded call failed: by its policy, or by its operation. -/
inductive CallError (ε : Type) where
  | policy (cause : PolicyError)
  | operation (cause : ε)

/-- What became of a guarded call. -/
structure Outcome (ε α : Type) where
  /-- The operation was run. -/
  ran : Bool
  result : Except (CallError ε) α

end Latchkey
