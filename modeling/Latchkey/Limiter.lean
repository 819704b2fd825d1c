import Latchkey.Site

/-!
Limits on calls: at most so many calls with one key in a window of time.

Every call raises a counter under its key. The first one starts the window. The first call over the
limit may stretch the window into a ban. Over the limit an action decides: it refuses the call or
lets it through.

A call is counted in stages, each of them one access to the backend, so that calls made at the same
time can be thought of as any interleaving of their stages.
-/

namespace Latchkey

/-- The settings of a limiter. -/
structure LimitConfig where
  /-- Calls allowed in one window. -/
  limit : Nat
  /-- The length of a window, which the first call starts. -/
  period : Duration
  /-- The length of the ban that the first call over the limit starts. -/
  ban : Option Duration
  /-- The namespace of the keys. -/
  space : String
  /-- The parameters that take part in the keys; all if there is no list. -/
  listed : Option (List String)
deriving Repr, DecidableEq

namespace LimitConfig

/-- So many calls in this window, under the usual namespace. -/
def per (limit : Nat) (period : Duration) : LimitConfig := ⟨limit, period, none, "rate_limit", none⟩

instance : Inhabited LimitConfig := ⟨per 100 (Duration.seconds 60)⟩

def perSecond (limit : Nat) : LimitConfig := per limit (Duration.seconds 1)

def perMinute (limit : Nat) : LimitConfig := per limit (Duration.seconds 60)

def perHour (limit : Nat) : LimitConfig := per limit (Duration.seconds 3600)

/-- What is wrong with the settings. -/
def flaw? (c : LimitConfig) : Option PolicyFlaw :=
  if c.period = 0 then some .emptyPeriod
  else if c.ban = some 0 then some .emptyBan
  else none

/-- The template of a function under this namespace, from the listed parameters. -/
def template (c : LimitConfig) (sig : Signature) : Except KeyError Template := do
  let t ← sig.template c.listed
  t.withPrefix c.space

end LimitConfig

/-- What is done for a call over the limit: the call fails, or its operation runs after all. An
action may keep something in what the program around keeps. -/
structure LimitAction (σ : Type) where
  decide : String → CallArgs → σ → Except PolicyError Unit × σ
  /-- What it writes to the log. -/
  notes : String → List Event := fun _ => []

namespace LimitAction

variable {σ : Type}

/-- Refuses the call. -/
def reject : LimitAction σ := { decide := fun key _ own => (.error (.rateLimitExceeded key), own) }

/-- Lets the call through with a warning in the log. -/
def waive : LimitAction σ :=
  { decide := fun _ _ own => (.ok (), own), notes := fun key => [.limitWaived key] }

end LimitAction

/-- A limiter of the calls of one function. -/
structure Limiter where
  signature : Signature
  formatter : Formatter
  template : Template
  config : LimitConfig

/-- Where a call stands that is being counted. -/
inductive Counting where
  /-- It is to be counted. -/
  | arrived
  /-- It was counted as the first one and is to start the window. -/
  | opening (count : Int)
  /-- It was counted as the first one over the limit and is to start the ban. -/
  | banning (count : Int)
  /-- It was counted, and the window is as it should be. -/
  | counted (count : Int)
  /-- An access to the backend failed. -/
  | failed (cause : BackendError)
deriving DecidableEq

namespace Limiter

variable {σ ε α : Type}

/-- The stage after the window: the ban, for the first call over the limit. -/
def afterOpening (l : Limiter) (count : Int) : Counting :=
  if l.config.ban.isSome ∧ count = (l.config.limit : Int) + 1 then .banning count
  else .counted count

/-- The stage after the counter was raised: the window, for the first call. -/
def afterRaise (l : Limiter) (count : Int) : Counting :=
  if count = 1 then .opening count else l.afterOpening count

/-- One stage of a call with this key: where it stands then, and the backend. -/
def advance (l : Limiter) (key : String) (now : Time) (stage : Counting) (b : Backend) :
    Counting × Backend :=
  match stage with
  | .arrived =>
    match b.incr now key with
    | (.ok count, b) => (l.afterRaise count, b)
    | (.error e, b) => (.failed e, b)
  | .opening count =>
    match b.expire now key l.config.period with
    | (.ok _, b) => (l.afterOpening count, b)
    | (.error e, b) => (.failed e, b)
  | .banning count =>
    match b.expire now key (l.config.ban.getD 0) with
    | (.ok _, b) => (.counted count, b)
    | (.error e, b) => (.failed e, b)
  | .counted count => (.counted count, b)
  | .failed e => (.failed e, b)

/-- Some stages of a call at one instant. -/
def advanceBy (l : Limiter) (key : String) (now : Time) : Nat → Counting → Backend →
    Counting × Backend
  | 0, stage, b => (stage, b)
  | n + 1, stage, b =>
    let (stage, b) := l.advance key now stage b
    l.advanceBy key now n stage b

/-- A call with this key counted: raise the counter, start the window, start the ban. -/
def count (l : Limiter) (key : String) (now : Time) (b : Backend) :
    Except BackendError Int × Backend :=
  match l.advanceBy key now 3 .arrived b with
  | (.counted n, b) => (.ok n, b)
  | (.failed e, b) => (.error e, b)
  | (.arrived, b) => (.ok 0, b)
  | (.opening n, b) => (.ok n, b)
  | (.banning n, b) => (.ok n, b)

/-- Whether a call with this number is over the limit. -/
def isOver (l : Limiter) (count : Int) : Bool := decide ((l.config.limit : Int) < count)

/-- A counted call decided on: the action is asked if the call is over the limit. -/
def verdict (l : Limiter) (action : LimitAction σ) (key : String) (args : CallArgs) (count : Int)
    (s : Site σ) : Except PolicyError Unit × Site σ :=
  if l.isOver count then
    let s := s.noteAll (.limitReached key count l.config.limit :: action.notes key)
    let (answer, own) := action.decide key args s.own
    (answer, { s with own })
  else (.ok (), s)

/-- A call with this key counted and decided on. -/
def judge (l : Limiter) (action : LimitAction σ) (key : String) (args : CallArgs) (s : Site σ) :
    Except PolicyError Unit × Site σ :=
  match s.access fun backend now => l.count key now backend with
  | (.error e, s) => (.error (.backend e), s)
  | (.ok count, s) => l.verdict action key args count s

/-- The key of a call. -/
def keyFor (l : Limiter) (args : CallArgs) (s : Site σ) : Except KeyError String × Site σ :=
  s.bindKey l.formatter l.signature l.template args

/-- A call: its operation is run unless the limiter refuses it. An operation that fails has been
counted all the same. -/
def call (l : Limiter) (action : LimitAction σ) (args : CallArgs)
    (op : Site σ → Except ε α × Site σ) (s : Site σ) : Outcome ε α × Site σ :=
  match l.keyFor args s with
  | (.error e, s) => (⟨false, .error (.policy (.key e))⟩, s)
  | (.ok key, s) =>
    match l.judge action key args s with
    | (.error e, s) => (⟨false, .error (.policy e)⟩, s)
    | (.ok (), s) =>
      let (result, s) := op s
      (⟨true, result.mapError .operation⟩, s)

end Limiter
end Latchkey
