import Latchkey.Signature
import Latchkey.Time
import Latchkey.Json.Printer

namespace Latchkey

/-- How much an event matters, the most severe first. -/
inductive Level where
  | error
  | warn
  | info
  | debug
  | trace
deriving Repr, DecidableEq

namespace Level

def all : List Level := [error, warn, info, debug, trace]

/-- The place of a level, counted from the most severe. -/
def rank : Level → Nat
  | error => 1
  | warn => 2
  | info => 3
  | debug => 4
  | trace => 5

/-- The name of a level in a configuration. -/
def name : Level → String
  | error => "error"
  | warn => "warn"
  | info => "info"
  | debug => "debug"
  | trace => "trace"

/-- The name of a level in the log. -/
def label : Level → String
  | error => "ERROR"
  | warn => "WARN"
  | info => "INFO"
  | debug => "DEBUG"
  | trace => "TRACE"

/-- The level with this name. -/
def ofName? (name : String) : Option Level := all.find? (·.name == name)

end Level

/-- Something that happened and may be written to the log. -/
inductive Event where
  /-- A function took the place of another one with its name. -/
  | functionReplaced (name : String)
  /-- An engine with these functions was built. -/
  | ready (functions : List String)
  /-- A template was registered for a function. -/
  | templateRegistered (function : FuncId) (template : String)
  /-- No registered template can have made this key. -/
  | noTemplate (key : String)
  /-- The arguments of a call were bound to a key. -/
  | keyBound (function : FuncId) (key : String)
  /-- A call was counted that is over its limit. -/
  | limitReached (key : String) (count limit : Int)
  /-- A call over its limit was let through. -/
  | limitWaived (key : String)
  /-- A slow call opened the circuit of its key. -/
  | circuitOpened (key : String) (takes : Float) (seconds : Nat)
  /-- A call was refused because the circuit of its key is open. -/
  | circuitOpen (key : String)

/-- A value in an event. -/
inductive EventValue where
  | text (s : String)
  /-- Texts in a list, each in quotes. -/
  | list (items : List String)
  | int (n : Int)
  | float (x : Float)

namespace EventValue

/-- A value at the end of a log line. -/
def line : EventValue → String
  | text s => s
  | list items => "[" ++ String.intercalate ", " (items.map Text.quote) ++ "]"
  | int n => Json.renderInt n
  | float x => Decimal.Layout.logLine.render x

/-- A value in a log record. -/
def record : EventValue → Json
  | text s => .str s
  | list items => .str (line (list items))
  | int n => .int n
  | float x => .float x

end EventValue

namespace Event

def level : Event → Level
  | functionReplaced _ => .debug
  | ready _ => .debug
  | templateRegistered _ _ => .debug
  | noTemplate _ => .debug
  | keyBound _ _ => .trace
  | limitReached _ _ _ => .info
  | limitWaived _ => .warn
  | circuitOpened _ _ _ => .warn
  | circuitOpen _ => .debug

/-- The part of the program that an event comes from. -/
def target : Event → String
  | functionReplaced _ => "keysmith_core_keys::functions"
  | ready _ => "keysmith::engine"
  | templateRegistered _ _ => "keysmith_core_keys::registry"
  | noTemplate _ => "keysmith_core_keys::registry"
  | keyBound _ _ => "keysmith_core_keys::binding"
  | limitReached _ _ _ => "keysmith_core_resilience::rate_limiter"
  | limitWaived _ => "keysmith_core_resilience::rate_limiter"
  | circuitOpened _ _ _ => "keysmith_core_resilience::circuit_breaker"
  | circuitOpen _ => "keysmith_core_resilience::circuit_breaker"

def message : Event → String
  | functionReplaced _ => "Replaced field function"
  | ready _ => "KeySmith ready"
  | templateRegistered _ _ => "Registered key template"
  | noTemplate _ => "No registered template matches key"
  | keyBound _ _ => "Bound call key"
  | limitReached _ _ _ => "Rate limit reached"
  | limitWaived _ => "Rate limit exceeded, allowing call"
  | circuitOpened _ _ _ => "Performance degraded, opening circuit"
  | circuitOpen _ => "Degradation circuit open, rejecting call"

/-- The values of an event, in the order in which a log line shows them. -/
def fields : Event → List (String × EventValue)
  | functionReplaced name => [("alias", .text name)]
  | ready functions => [("functions", .list functions)]
  | templateRegistered function template =>
    [("function", .text function.text), ("template", .text template)]
  | noTemplate key => [("key", .text key)]
  | keyBound function key => [("function", .text function.text), ("key", .text key)]
  | limitReached key count limit =>
    [("key", .text key), ("count", .int count), ("limit", .int limit)]
  | limitWaived key => [("key", .text key)]
  | circuitOpened key takes seconds =>
    [("key", .text key), ("takes", .float takes), ("ttl_secs", .int seconds)]
  | circuitOpen key => [("key", .text key)]

/-- An event as a line, with or without the part of the program that it comes from. -/
def line (withTarget : Bool) (e : Event) : String :=
  e.level.label ++ " " ++ (if withTarget then e.target ++ ": " else "") ++ e.message ++
    String.join (e.fields.map fun (name, value) => " " ++ name ++ "=" ++ value.line)

/-- The values of an event as members of an object, the message among them. -/
def members (e : Event) : Named Json :=
  Named.ofList
    (("message", .str e.message) :: e.fields.map fun (name, value) => (name, value.record))

end Event
end Latchkey
