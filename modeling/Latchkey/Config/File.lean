import Latchkey.Config
import Latchkey.Toml.Document
import Latchkey.Toml.Printer

/-!
Settings read from a TOML document and written to one.

A setting that is not there has its default, an unknown one is ignored if it can be read at all, and
one of the wrong type is an error. In place of a table its settings may stand in an array, in their
order.
-/

namespace Latchkey.Config

/-- What stands for the setting with this name and place in a value that stands for a group of
settings. A date stands for a group without known settings. -/
def setting? (v : Toml.Value) (place : Nat) (name : String) : Option (Option Toml.Value) :=
  match v with
  | .table _ entries => some (Toml.Entries.find? name entries)
  | .array items => some items[place]?
  | .tables items => some (items[place]?.map (Toml.Value.table .stated))
  | .date _ => some none
  | _ => none

/-- A setting read, or its default. -/
def read? {α : Type} (group : Toml.Value) (place : Nat) (name : String) (initial : α)
    (ofValue : Toml.Value → Option α) : Option α :=
  match setting? group place name with
  | none => none
  | some none => some initial
  | some (some v) => ofValue v

def textOf? : Toml.Value → Option String
  | .text s => some s
  | _ => none

def flagOf? : Toml.Value → Option Bool
  | .bool flag => some flag
  | _ => none

/-- A number of 64 bits without a sign. -/
def numberOf? : Toml.Value → Option Nat
  | .int n => if 0 ≤ n ∧ n < Word.unsignedEnd then some n.toNat else none
  | _ => none

/-- Whether a value holds nothing. -/
def isEmpty : Toml.Value → Bool
  | .array items => items.isEmpty
  | .table _ entries => entries.isEmpty
  | .tables items => items.isEmpty
  | _ => false

/-- The name of a level, as a text or as the only name in a table with nothing under it. -/
def levelOf? : Toml.Value → Option Level
  | .text s => Level.ofName? s
  | .table _ [(name, v)] => if isEmpty v then Level.ofName? name else none
  | _ => none

/-- Whether everything that a table holds under other names than these can be read. What an array
holds behind its known places is not looked at. -/
def othersUsable (names : List String) : Toml.Value → Bool
  | .table _ entries => entries.all fun (name, v) => names.contains name || v.isUsable
  | _ => true

/-- The namespace of limiters, from their group of settings. -/
def limiterSpaceOf? (v : Toml.Value) : Option String := do
  guard (othersUsable ["prefix"] v)
  read? v 0 "prefix" (default : Config).limiterSpace textOf?

/-- The namespace, trace size and seconds of breakers, from their group of settings. -/
def breakerOf? (v : Toml.Value) : Option (String × Nat × Nat) := do
  guard (othersUsable ["prefix", "trace_size", "ttl_secs"] v)
  let space ← read? v 0 "prefix" (default : Config).breakerSpace textOf?
  let size ← read? v 1 "trace_size" (default : Config).traceSize numberOf?
  let seconds ← read? v 2 "ttl_secs" (default : Config).ttlSeconds numberOf?
  return (space, size, seconds)

/-- The settings in a document. -/
def ofEntries? (entries : Toml.Entries) : Option Config := do
  let all := Toml.Value.table .stated entries
  let c : Config := default
  guard (othersUsable
    ["log_level", "log_file", "verbose", "default_marker", "rate_limit", "perf"] all)
  let logLevel ← read? all 0 "log_level" c.logLevel levelOf?
  let logFile ← read? all 1 "log_file" c.logFile fun v => (textOf? v).map some
  let verbose ← read? all 2 "verbose" c.verbose flagOf?
  let marker ← read? all 3 "default_marker" c.marker textOf?
  let limiterSpace ← read? all 4 "rate_limit" c.limiterSpace limiterSpaceOf?
  let (breakerSpace, traceSize, ttlSeconds) ←
    read? all 5 "perf" (c.breakerSpace, c.traceSize, c.ttlSeconds) breakerOf?
  return ⟨logLevel, logFile, verbose, marker, limiterSpace, breakerSpace, traceSize, ttlSeconds⟩

/-- The settings in the text of a document. -/
def ofText (document : String) : Except EngineError Config :=
  match (Toml.parse? document.toList).bind ofEntries? with
  | none => .error .syntaxError
  | some c =>
    match c.flaw? with
    | some flaw => .error (.config flaw)
    | none => .ok c

/-- The settings in the bytes of a file. -/
def ofBytes (bytes : List UInt8) : Except EngineError Config :=
  match String.fromUTF8? (ByteArray.mk bytes.toArray) with
  | some document => ofText document
  | none => .error .file

/-- A setting with a text on a line of its own. -/
def textLine (name : String) (text : String) : List Char :=
  name.toList ++ " = ".toList ++ Toml.printText text ++ ['\n']

/-- A setting with a number on a line of its own. -/
def numberLine (name : String) (n : Nat) : List Char :=
  name.toList ++ " = ".toList ++ Nat.toDigits 10 n ++ ['\n']

/-- A setting with a truth value on a line of its own. -/
def flagLine (name : String) (flag : Bool) : List Char :=
  name.toList ++ " = ".toList ++ (if flag then "true" else "false").toList ++ ['\n']

/-- The header of a group of settings, after an empty line. -/
def headerLine (name : String) : List Char := '\n' :: '[' :: (name.toList ++ [']', '\n'])

/-- The settings as a document. -/
def toText (c : Config) : String :=
  String.ofList (
    textLine "log_level" c.logLevel.name ++
    (match c.logFile with
      | some path => textLine "log_file" path
      | none => []) ++
    flagLine "verbose" c.verbose ++
    textLine "default_marker" c.marker ++
    headerLine "rate_limit" ++
    textLine "prefix" c.limiterSpace ++
    headerLine "perf" ++
    textLine "prefix" c.breakerSpace ++
    numberLine "trace_size" c.traceSize ++
    numberLine "ttl_secs" c.ttlSeconds)

/-- The lines of a text. -/
def lines (text : String) : List String :=
  let all := text.toList.splitOn '\n'
  ((if all.getLast? = some [] then all.dropLast else all)).map String.ofList

end Latchkey.Config
