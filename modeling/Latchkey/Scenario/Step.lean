import Latchkey.Engine

namespace Latchkey.Scenario

/-- What a scenario does for calls over a limit. -/
inductive Excess where
  /-- Refuse the call. -/
  | reject
  /-- Let it through with a warning in the log. -/
  | waive
  /-- Let it through and remember it. -/
  | remember
  /-- Fail calls that have an argument named `strict`, let others through. -/
  | strict
deriving Repr, DecidableEq

/-- Where the settings of a limiter come from. -/
inductive LimitChoice where
  /-- The configuration of the engine, with so many calls in this window. -/
  | ofEngine (limit : Nat) (period : Duration)
  | own (config : LimitConfig)

/-- Where the settings of a breaker come from. -/
inductive BreakerChoice where
  /-- The configuration of the engine. -/
  | ofEngine
  | own (config : BreakerConfig)

/-- When a breaker of a scenario opens a circuit. -/
inductive Trip where
  /-- As breakers usually do. -/
  | usual
  /-- For a call that takes at least so many seconds. -/
  | atLeast (seconds : Float)
  /-- For a call that takes longer than the oldest of the trace by more than so many seconds. -/
  | overOldest (seconds : Float)

def Trip.condition : Trip → Condition
  | .usual => .twiceTheMean
  | .atLeast seconds => fun current _ => decide (seconds ≤ current)
  | .overOldest seconds => fun current trace => decide (seconds < current - trace.headD 0.0)

/-- A step of a scenario. -/
inductive Step where
  | register (sig : Signature) (listed : Option (List String))
  | registerTemplate (function : FuncId) (source : String)
  /-- As `registerTemplate`, but tells whether the template is new for the function. -/
  | addTemplate (function : FuncId) (source : String)
  /-- How many templates are registered. -/
  | registered
  | templatesFor (function : FuncId)
  | lookup (key : String)
  | lookupFields (key : String)
  | format (source : String) (values : Values)
  | bindKey (sig : Signature) (source : String) (args : CallArgs)
  | config
  /-- Time passes. -/
  | advance (d : Duration)
  /-- From now on exactly these accesses fail. -/
  | fault (ops : List Op)
  | get (key : String)
  | set (key : String) (value : Json) (expire : Option Duration)
  | delete (key : String)
  | unlock (key : String)
  | isLocked (key : String)
  | incr (key : String)
  | expire (key : String) (timeout : Duration)
  | getExpire (key : String)
  | setLock (key : String) (value : Json) (expire : Duration)
  /-- How many entries there are. -/
  | size
  | clear
  | limiter (id : String) (sig : Signature) (choice : LimitChoice) (excess : Excess)
  | breaker (id : String) (sig : Signature) (choice : BreakerChoice) (trip : Trip)
  | keyFor (id : String) (args : CallArgs)
  /-- A call through a limiter. Its operation makes the steps in `inner`, takes a time, and gives a
  result. -/
  | limitCall (id : String) (args : CallArgs) (result : Except String Json) (takes : Duration)
      (inner : List Step)
  /-- A call through a breaker. -/
  | breakerCall (id : String) (args : CallArgs) (result : Except String Json) (takes : Duration)
      (inner : List Step)
  | isOpen (id : String) (args : CallArgs)
  | trace (id : String)

/-- Why a step failed. -/
inductive Failure where
  | key (cause : KeyError)
  | policy (cause : PolicyError)
  | engine (cause : EngineError)
  /-- There is no limiter or breaker of this name. -/
  | noPolicy

/-- The answer to a step. -/
inductive Answer where
  | done
  | failed (cause : Failure)
  | template (t : Template) (registered : Nat)
  | added (new : Bool) (registered : Nat)
  | size (count : Nat)
  | templates (ts : List Template)
  | origin (o : Option Origin)
  | fields (o : Option KeyFields)
  | key (key : String)
  | config (c : Config)
  | value (v : Option Json)
  | flag (b : Bool)
  | count (n : Int)
  | remaining (d : Option Duration)
  | limiter (t : Template) (c : LimitConfig) (registered : Nat)
  | breaker (t : Template) (c : BreakerConfig) (registered : Nat)
  /-- After a call through a limiter: whether the operation ran, the result, the calls over a limit
  remembered since the last such answer, and the key with its counter and the time it has left. -/
  | limitCall (ran : Bool) (result : Except (CallError String) Json)
      (remembered : List (String × CallArgs))
      (reading : Option (String × Option Json × Option Duration)) (inner : List Answer)
  /-- After a call through a breaker: whether the operation ran, the result, the trace, and the key
  with its lock and the time that has left. -/
  | breakerCall (ran : Bool) (result : Except (CallError String) Json) (trace : Trace)
      (reading : Option (String × Option Json × Option Duration)) (inner : List Answer)
  | trace (t : Trace)

/-- What a scenario keeps beside what calls share. -/
structure Notebook where
  limiters : Named (Limiter × Excess)
  breakers : Named Breaker
  /-- Calls over a limit that are to be told, the latest first. -/
  remembered : List (String × CallArgs)
  /-- The answers to the steps of the operation that ran last. -/
  inner : List Answer

/-- Nothing kept. -/
def Notebook.empty : Notebook := ⟨[], [], [], []⟩

/-- What calls share in a scenario. -/
abbrev Desk := Site Notebook

/-- What is done for calls over a limit. -/
def Excess.action : Excess → LimitAction Notebook
  | .reject => .reject
  | .waive => .waive
  | .remember =>
    { decide := fun key args own =>
        (.ok (), { own with remembered := (key, args) :: own.remembered }) }
  | .strict =>
    { decide := fun key args own =>
        (if Named.contains "strict" args.named then
          .error (.backend (.other ("blocked " ++ key)))
        else .ok (), own) }

end Latchkey.Scenario
