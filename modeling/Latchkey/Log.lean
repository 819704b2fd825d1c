import Latchkey.Config

namespace Latchkey

/-- The least severe level that is logged, if any is. -/
abbrev LogFilter := Option Level

namespace LogFilter

/-- Whether an event is logged. -/
def passes (f : LogFilter) (e : Event) : Bool :=
  match f with
  | none => false
  | some most => decide (e.level.rank ≤ most.rank)

/-- The filter with this name: a level by its name, in capitals or not, or by its number; `off` or
zero for none. -/
def ofName? (name : String) : Option LogFilter :=
  let low := name.map Char.toLower
  if low = "off" ∨ low = "0" then some none
  else
    let level := match Level.ofName? low with
      | some level => some level
      | none => Level.all.find? fun level => String.ofList (Nat.toDigits 10 level.rank) == low
    level.map some

/-- The filter of a configuration, unless another one is asked for. -/
def ofConfig (c : Config) (asked : Option LogFilter) : LogFilter :=
  asked.getD (some c.effectiveLevel)

end LogFilter

/-- Where a log goes. -/
inductive Sink where
  | file
  | output
deriving Repr, DecidableEq

/-- A log: what passes, where it goes, and whether its lines name the part of the program that an
event comes from. -/
structure Log where
  filter : LogFilter
  sink : Sink
  withTarget : Bool
deriving Repr, DecidableEq

namespace Log

/-- The log of a configuration: in its file if it names one, and otherwise on the output. -/
def ofConfig (c : Config) (asked : Option LogFilter) : Log :=
  ⟨LogFilter.ofConfig c asked, if c.logFile.isSome then .file else .output, true⟩

/-- The log of a test: everything but traces, in short lines on the output. -/
def ofTest (asked : Option LogFilter) : Log := ⟨asked.getD (some .debug), .output, false⟩

/-- The log of a configuration set up, and the log in force after that. `problem` says why the log
file cannot be made, if it cannot. A log is set up once: where there is one already, that one
stays. -/
def setUp (c : Config) (asked : Option LogFilter) (problem : Option String)
    (inForce : Option Log) : Except EngineError Unit × Option Log :=
  match c.logFile.bind fun _ => problem, inForce with
  | some reason, _ => (.error (.config (.logFile reason)), inForce)
  | none, some l => (.error (.config .logTaken), some l)
  | none, none => (.ok (), some (ofConfig c asked))

/-- The log of a test set up, unless there is one already. -/
def setUpTest (asked : Option LogFilter) (inForce : Option Log) : Option Log :=
  inForce.or (some (ofTest asked))

/-- The events that reach a place under the log in force. -/
def reaching (inForce : Option Log) (sink : Sink) (events : List Event) : List Event :=
  match inForce with
  | none => []
  | some l => if l.sink = sink then events.filter l.filter.passes else []

/-- Events as the lines of a log on the output. -/
def lines (inForce : Option Log) (events : List Event) : List String :=
  (reaching inForce .output events).map (Event.line (inForce.any Log.withTarget))

end Log
end Latchkey
