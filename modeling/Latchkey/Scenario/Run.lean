import Latchkey.Scenario.Step

namespace Latchkey.Scenario

/-- The answer to a step that can fail in the engine. -/
def Answer.ofEngine {α : Type} (f : α → Answer) : Except EngineError α → Answer
  | .ok a => f a
  | .error e => .failed (.engine e)

/-- The answer to an access to the backend. -/
def Answer.ofAccess {α : Type} (f : α → Answer) : Except BackendError α → Answer
  | .ok a => f a
  | .error e => .failed (.policy (.backend e))

/-- An access to the backend and its answer. -/
def access {α : Type} (f : α → Answer) (run : Backend → Time → Access α) (s : Desk) :
    Answer × Desk :=
  let (answer, s) := s.access run
  (.ofAccess f answer, s)

/-- A value in the store and the time that it has left, read past accesses that fail. -/
def readEntry (key : String) (s : Desk) : Option Json × Option Duration × Desk :=
  let (value, store) := s.backend.store.get s.now key
  let (left, store) := store.remaining s.now key
  (value, left, { s with backend := { s.backend with store } })

/-- What is told about the key of a call: its value at another key derived from it. -/
def reading (key : Except KeyError String) (place : String → String) (s : Desk) :
    Option (String × Option Json × Option Duration) × Desk :=
  match key with
  | .error _ => (none, s)
  | .ok key =>
    let (value, left, s) := readEntry (place key) s
    (some (key, value, left), s)

/-- The calls remembered so far, the first one first, and none remembered any more. -/
def takeRemembered (s : Desk) : List (String × CallArgs) × Desk :=
  (s.own.remembered.reverse, { s with own := { s.own with remembered := [] } })

/-- The answers to the steps of the operation that ran last, and none kept any more. -/
def takeInner (ran : Bool) (s : Desk) : List Answer × Desk :=
  if ran then (s.own.inner, { s with own := { s.own with inner := [] } }) else ([], s)

/-- What an operation does after its steps: it keeps their answers, lets time pass and has its
result. -/
def finish (answers : List Answer) (takes : Duration) (result : Except String Json) (s : Desk) :
    Except String Json × Desk :=
  (result, { s with own := { s.own with inner := answers } }.pass takes)

/-- A limiter made under a name. -/
def makeLimiter (e : Engine) (id : String) (sig : Signature) (choice : LimitChoice)
    (excess : Excess) (s : Desk) : Answer × Desk :=
  let (made, s) := match choice with
    | .ofEngine limit period => e.limiterWith sig limit period s
    | .own c => e.limiter sig c s
  match made with
  | .error cause => (.failed (.engine cause), s)
  | .ok l =>
    (.limiter l.template l.config s.registry.size,
      { s with own := { s.own with limiters := Named.insert id (l, excess) s.own.limiters } })

/-- A breaker made under a name. -/
def makeBreaker (e : Engine) (id : String) (sig : Signature) (choice : BreakerChoice)
    (trip : Trip) (s : Desk) : Answer × Desk :=
  let c := match choice with
    | .ofEngine => e.config.breaker
    | .own c => c
  match e.breaker sig c trip.condition s with
  | (.error cause, s) => (.failed (.engine cause), s)
  | (.ok b, s) =>
    (.breaker b.template b.config s.registry.size,
      { s with own := { s.own with breakers := Named.insert id b s.own.breakers } })

/-- The answer about a key that is bound. -/
def keyAnswer : Except KeyError String × Desk → Answer × Desk
  | (.ok key, s) => (.key key, s)
  | (.error cause, s) => (.failed (.policy (.key cause)), s)

/-- The key of a call through the limiter or, if there is none, the breaker of this name. -/
def keyFor (id : String) (args : CallArgs) (s : Desk) : Answer × Desk :=
  match Named.find? id s.own.limiters, Named.find? id s.own.breakers with
  | some (l, _), _ => keyAnswer (l.keyFor args s)
  | none, some b => keyAnswer (b.keyFor args s)
  | none, none => (.failed .noPolicy, s)

/-- A call through a limiter with this operation. -/
def limitCall (l : Limiter) (excess : Excess) (args : CallArgs)
    (op : Desk → Except String Json × Desk) (s : Desk) : Answer × Desk :=
  let (outcome, s) := l.call excess.action args op s
  let (inner, s) := takeInner outcome.ran s
  let (remembered, s) := takeRemembered s
  let (key, s) := l.keyFor args s
  let (read, s) := reading key id s
  (.limitCall outcome.ran outcome.result remembered read inner, s)

/-- A call through a breaker with this operation. -/
def breakerCall (b : Breaker) (args : CallArgs) (op : Desk → Except String Json × Desk) (s : Desk) :
    Answer × Desk :=
  let (outcome, s) := b.call args op s
  let (inner, s) := takeInner outcome.ran s
  let trace := b.trace s
  let (key, s) := b.keyFor args s
  let (read, s) := reading key lockKey s
  (.breakerCall outcome.ran outcome.result trace read inner, s)

mutual

/-- One step: its answer, and what is shared after it. -/
def run (e : Engine) (step : Step) (s : Desk) : Answer × Desk :=
  match step with
  | .register sig listed =>
    let (made, s) := Engine.register sig listed s
    (.ofEngine (fun t => .template t s.registry.size) made, s)
  | .registerTemplate f source =>
    let (made, s) := Engine.registerTemplate f source s
    (.ofEngine (fun t => .template t s.registry.size) made, s)
  | .addTemplate f source =>
    match Template.parse source with
    | .error cause => (.failed (.key cause), s)
    | .ok t =>
      let (new, s) := s.register f t
      (.added new s.registry.size, s)
  | .registered => (.size s.registry.size, s)
  | .templatesFor f => (.templates (s.registry.templatesFor f), s)
  | .lookup key =>
    let (o, s) := s.originOf? key
    (.origin o, s)
  | .lookupFields key =>
    let (o, s) := s.fieldsOf? key
    (.fields o, s)
  | .format source values => (.ofEngine .key (e.format source values), s)
  | .bindKey sig source args =>
    match Template.parse source with
    | .error cause => (.failed (.key cause), s)
    | .ok t =>
      let (made, s) := e.bindKey sig t args s
      (.ofEngine .key made, s)
  | .config => (.config e.config, s)
  | .advance d => (.done, s.pass d)
  | .fault ops => (.done, { s with backend := { s.backend with down := ops } })
  | .get key => access .value (fun b now => b.get now key) s
  | .set key value expire => access (fun _ => .done) (fun b now => b.set now key value expire) s
  | .delete key => access .flag (fun b now => b.delete now key) s
  | .unlock key => access .flag (fun b now => b.unlock now key) s
  | .isLocked key => access .flag (fun b now => b.isLocked now key) s
  | .incr key => access .count (fun b now => b.incr now key) s
  | .expire key timeout => access (fun _ => .done) (fun b now => b.expire now key timeout) s
  | .getExpire key => access .remaining (fun b now => b.getExpire now key) s
  | .setLock key value expire =>
    access .flag (fun b now => b.setLock now key value expire) s
  | .size =>
    let (count, store) := s.backend.store.size s.now
    (.size count, { s with backend := { s.backend with store } })
  | .clear => (.done, { s with backend := { s.backend with store := .empty } })
  | .limiter id sig choice excess => makeLimiter e id sig choice excess s
  | .breaker id sig choice trip => makeBreaker e id sig choice trip s
  | .keyFor id args => keyFor id args s
  | .limitCall id args result takes inner =>
    match Named.find? id s.own.limiters with
    | none => (.failed .noPolicy, s)
    | some (l, excess) =>
      limitCall l excess args (fun s =>
        let (answers, s) := runAll e inner s
        finish answers takes result s) s
  | .breakerCall id args result takes inner =>
    match Named.find? id s.own.breakers with
    | none => (.failed .noPolicy, s)
    | some b =>
      breakerCall b args (fun s =>
        let (answers, s) := runAll e inner s
        finish answers takes result s) s
  | .isOpen id args =>
    match Named.find? id s.own.breakers with
    | none => (.failed .noPolicy, s)
    | some b =>
      match b.isOpen args s with
      | (.ok flag, s) => (.flag flag, s)
      | (.error cause, s) => (.failed (.policy cause), s)
  | .trace id =>
    match Named.find? id s.own.breakers with
    | none => (.failed .noPolicy, s)
    | some b => (.trace (b.trace s), s)

/-- Steps in their order. -/
def runAll (e : Engine) (steps : List Step) (s : Desk) : List Answer × Desk :=
  match steps with
  | [] => ([], s)
  | step :: rest =>
    let (answer, s) := run e step s
    let (answers, s) := runAll e rest s
    (answer :: answers, s)

end

/-- How the engine of a scenario is built. -/
structure Setup where
  config : Config
  functions : List (String × FieldFunction)
  /-- The marker of a binder of its own, one that knows no functions. -/
  binderMarker : Option String

/-- A whole scenario: the answers to its steps, and what was noted from the building of the engine
on, the first first. -/
def play (setup : Setup) (steps : List Step) : List Answer × List Event :=
  let binder := setup.binderMarker.map fun m => (Formatter.ofFunctions []).withMarker m
  let (e, notes) := Engine.build setup.config setup.functions binder
  let (answers, s) := runAll e steps ((Site.start .empty).noteAll notes)
  (answers, s.events.reverse)

end Latchkey.Scenario
