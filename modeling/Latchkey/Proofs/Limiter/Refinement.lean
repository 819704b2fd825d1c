import Latchkey.Proofs.Limiter.Window

/-!
Calls of one limiter on a backend that nobody else writes to, one after the other, with anything
going on between and within them. `call_refines_window`: in every run, every call is answered as the
window machine says, and what is read of the counters afterwards are the windows of the machine.
-/

namespace Latchkey

/-- Requests that write nothing. -/
def Request.reads : Request → Bool
  | .get _ | .getExpire _ | .isLocked _ | .size => true
  | _ => false

variable {σ ε α : Type}

/-- What may go on around the calls: time passes, anything beside the backend changes, entries are
read. -/
inductive Site.Quiet : Site σ → Site σ → Prop
  | beside {s s' : Site σ} : s'.backend = s.backend → s.now ≤ s'.now → Quiet s s'
  | read (s : Site σ) (r : Request) : r.reads →
      Quiet s { s with backend := (s.backend.serve s.now r).2 }
  | trans {s s' s'' : Site σ} : Quiet s s' → Quiet s' s'' → Quiet s s''

theorem Plain.serve_reads {r : Request} (reads : r.reads) (now : Time) (m : Plain) :
    (m.serve now r).2 = m := by
  cases r with
  | get | getExpire | isLocked | size => rfl
  | _ => cases reads

theorem Site.Quiet.mirrors {s s' : Site σ} {m : Plain} (quiet : s.Quiet s')
    (h : s.backend.Mirrors s.now m) : s'.backend.Mirrors s'.now m := by
  induction quiet with
  | beside same clock => exact same ▸ h.later clock
  | read s r reads => exact Plain.serve_reads reads s.now m ▸ (h.serve r).2
  | trans _ _ ih ih' => exact ih' (ih h)

theorem Site.Quiet.now_le {s s' : Site σ} (quiet : s.Quiet s') : s.now ≤ s'.now := by
  induction quiet with
  | beside _ clock => exact clock
  | read s _ _ => exact Nat.le_refl _
  | trans _ _ ih ih' => exact Nat.le_trans ih ih'

/-- A call within the limit goes on; about one over the limit the action is asked. -/
def LimitConfig.ruling (c : LimitConfig) (action : LimitAction σ) (key : String) (args : CallArgs)
    (count : Nat) (own : σ) : Except PolicyError Unit × σ :=
  if count ≤ c.limit then (.ok (), own) else action.decide key args own

/-- A call that goes on runs its operation once and has its result; one that is refused has the
error that it is refused with, and nothing is run. -/
def Outcome.ofRuling (ruling : Except PolicyError Unit) (op : Site σ → Except ε α × Site σ)
    (before : Site σ) : Outcome ε α × Site σ :=
  match ruling with
  | .error e => (⟨false, .error (.policy e)⟩, before)
  | .ok () => (⟨true, (op before).1.mapError .operation⟩, (op before).2)

theorem Outcome.quiet_ofRuling {op : Site σ → Except ε α × Site σ}
    (quiet : ∀ before : Site σ, before.Quiet (op before).2) (ruling : Except PolicyError Unit)
    (before : Site σ) : before.Quiet (Outcome.ofRuling ruling op before).2 := by
  cases ruling with
  | error e => exact .beside rfl (Nat.le_refl _)
  | ok => exact quiet before

namespace Limiter

/-- The key under which a call is counted. -/
def key (l : Limiter) (args : CallArgs) : Except KeyError String :=
  l.signature.key l.formatter l.template args

/-- The windows after a call; a call that has no key is not counted. -/
def counted (l : Limiter) (args : CallArgs) (now : Time) (ws : Windows) : Windows :=
  match l.key args with
  | .error _ => ws
  | .ok key => ws.set key (l.config.next now (ws key))

/-- A counter is a word of 64 bits: the number of a call in its window must be one. -/
def Countable (l : Limiter) (args : CallArgs) (now : Time) (ws : Windows) : Prop :=
  ∀ key, l.key args = .ok key → (l.config.next now (ws key)).count < Word.signedEnd

/-- A run up to some instant, beside the run of the window machine. -/
inductive Run (l : Limiter) (action : LimitAction σ) : Site σ → Windows → Prop
  | fresh {s : Site σ} : s.backend = .empty → Run l action s .none
  | quiet {s s' : Site σ} {ws : Windows} : Run l action s ws → s.Quiet s' → Run l action s' ws
  | call {s : Site σ} {ws : Windows} {ε α : Type} (args : CallArgs)
      (op : Site σ → Except ε α × Site σ) : Run l action s ws → l.Countable args s.now ws →
      (∀ before : Site σ, before.Quiet (op before).2) →
      Run l action (l.call action args op s).2 (l.counted args s.now ws)

variable {l : Limiter} {action : LimitAction σ} {args : CallArgs} {s : Site σ} {ws : Windows}

theorem counted_of_key_error {e : KeyError} (no_key : l.key args = .error e) (now : Time) :
    l.counted args now ws = ws := by
  rw [counted, no_key]

theorem counted_of_key {key : String} (has_key : l.key args = .ok key) (now : Time) :
    l.counted args now ws = ws.set key (l.config.next now (ws key)) := by
  rw [counted, has_key]

theorem call_of_key_error {e : KeyError} (no_key : l.key args = .error e)
    (op : Site σ → Except ε α × Site σ) :
    l.call action args op s = (⟨false, .error (.policy (.key e))⟩, s) := by
  unfold call keyFor Site.bindKey
  unfold Limiter.key at no_key
  rw [no_key]

theorem verdict_eq_ruling (l : Limiter) (action : LimitAction σ) (key : String) (args : CallArgs)
    (count : Nat) (s : Site σ) :
    ∃ events, l.verdict action key args count s =
      ((l.config.ruling action key args count s.own).1,
        { s with events, own := (l.config.ruling action key args count s.own).2 }) := by
  unfold verdict isOver LimitConfig.ruling
  by_cases within : count ≤ l.config.limit
  · have notOver : ¬ (l.config.limit : Int) < (count : Int) := by omega
    exact ⟨s.events, by simp [within, notOver]⟩
  · have exceeded : (l.config.limit : Int) < (count : Int) := by omega
    refine ⟨(s.noteAll (.limitReached key count l.config.limit :: action.notes key)).events, ?_⟩
    rw [if_pos (decide_eq_true exceeded), if_neg within]
    rfl

theorem judge_of_count (action : LimitAction σ) (args : CallArgs) {key : String} {count : Int}
    {backend : Backend} (counted : l.count key s.now s.backend = (.ok count, backend)) :
    l.judge action key args s = l.verdict action key args count { s with backend } := by
  unfold judge Site.access
  simp only [counted]

theorem judge_of_count_error (action : LimitAction σ) (args : CallArgs) {key : String}
    {cause : BackendError} {backend : Backend}
    (failed : l.count key s.now s.backend = (.error cause, backend)) :
    l.judge action key args s = (.error (.backend cause), { s with backend }) := by
  unfold judge Site.access
  simp only [failed]

/-- The key of a call is noted, then the call is judged, and then it is concluded. -/
theorem call_of_judge {key : String} {answer : Except PolicyError Unit} {s' : Site σ}
    (has_key : l.key args = .ok key)
    (judged : l.judge action key args (s.note (.keyBound l.signature.id key)) = (answer, s'))
    (op : Site σ → Except ε α × Site σ) :
    l.call action args op s = Outcome.ofRuling answer op s' := by
  have keyed : l.keyFor args s = (.ok key, s.note (.keyBound l.signature.id key)) := by
    unfold Limiter.key at has_key
    rw [keyFor, Site.bindKey, has_key]
  unfold call Outcome.ofRuling
  rw [keyed]
  simp only [judged]
  cases answer <;> rfl

/-- A call that was counted is decided on, and then concluded. -/
theorem call_of_count (action : LimitAction σ) {key : String} {count : Nat} {backend : Backend}
    (counted : l.count key s.now s.backend = (.ok (count : Int), backend))
    (has_key : l.key args = .ok key) (op : Site σ → Except ε α × Site σ) :
    let ruling := l.config.ruling action key args count s.own
    ∃ events, l.call action args op s =
      Outcome.ofRuling ruling.1 op { s with backend, events, own := ruling.2 } := by
  let bound := s.note (.keyBound l.signature.id key)
  obtain ⟨events, verdict⟩ := verdict_eq_ruling l action key args count { bound with backend }
  have judged := (judge_of_count (s := bound) action args counted).trans verdict
  exact ⟨events, call_of_judge has_key judged op⟩

/-- A call that could not be counted fails with the reason. -/
theorem call_of_count_error (action : LimitAction σ) {key : String} {cause : BackendError}
    {backend : Backend} (failed : l.count key s.now s.backend = (.error cause, backend))
    (has_key : l.key args = .ok key) (op : Site σ → Except ε α × Site σ) :
    ∃ events, l.call action args op s =
      (⟨false, .error (.policy (.backend cause))⟩, { s with backend, events }) := by
  let bound := s.note (.keyBound l.signature.id key)
  have judged := judge_of_count_error (s := bound) action args failed
  exact ⟨bound.events, call_of_judge has_key judged op⟩

/-- A call with a key is counted as the machine says, then decided on, and then concluded. -/
theorem call_of_key (action : LimitAction σ) {key : String} (accepted : l.config.flaw? = none)
    (h : s.backend.Mirrors s.now ws.plain) (fits : ∀ w, ws key = some w → w.count < Word.signedEnd)
    (has_key : l.key args = .ok key) (op : Site σ → Except ε α × Site σ) :
    let w := l.config.next s.now (ws key)
    let ruling := l.config.ruling action key args w.count s.own
    ∃ backend events, backend.Mirrors s.now (ws.set key w).plain ∧
      l.call action args op s =
        Outcome.ofRuling ruling.1 op { s with backend, events, own := ruling.2 } := by
  intro w ruling
  obtain ⟨backend, counted, mirrors⟩ := count_eq_next accepted h fits
  obtain ⟨events, concluded⟩ := call_of_count action counted has_key op
  exact ⟨backend, events, mirrors, concluded⟩

/-- What holds throughout a run: the backend mirrors the windows, and their counts are words. -/
theorem Run.invariant (accepted : l.config.flaw? = none) (run : l.Run action s ws) :
    s.backend.Mirrors s.now ws.plain ∧ ∀ key w, ws key = some w → w.count < Word.signedEnd := by
  induction run with
  | fresh empty => exact ⟨empty ▸ .empty _, fun _ _ found => by cases found⟩
  | quiet _ quiet ih =>
    obtain ⟨mirrors, words⟩ := ih
    exact ⟨quiet.mirrors mirrors, words⟩
  | @call s ws _ _ args op _ countable quiet ih =>
    obtain ⟨mirrors, words⟩ := ih
    cases has_key : l.key args with
    | error e =>
      rw [call_of_key_error has_key, counted_of_key_error has_key]
      exact ⟨mirrors, words⟩
    | ok key =>
      obtain ⟨backend, events, after, concluded⟩ :=
        call_of_key action accepted mirrors (words key) has_key op
      rw [counted_of_key has_key]
      constructor
      · -- whether the operation runs or not, the backend is as the counting left it
        rw [concluded]
        exact (Outcome.quiet_ofRuling quiet _ _).mirrors after
      · intro other w found
        rw [Windows.set_apply] at found
        by_cases same : other = key
        · rw [if_pos same] at found
          cases found
          exact countable key has_key
        · rw [if_neg same] at found
          exact words other w found

/-- What is read of a key in a run is its window, now and at any later instant. -/
theorem Run.reads (accepted : l.config.flaw? = none) (run : l.Run action s ws) (key : String)
    {t : Time} (later : s.now ≤ t) :
    (s.backend.get t key).1 = .ok ((ws.live t key).map fun w => .int w.count) ∧
      (s.backend.getExpire t key).1 = .ok ((ws.live t key).map fun w => w.deadline - t) := by
  have mirrors := (run.invariant accepted).1.later later
  rw [← ws.get_plain, ← ws.remaining_plain]
  exact ⟨(mirrors.get key).1, (mirrors.getExpire key).1⟩

/-- **A limiter is a fixed-window machine.** Take any call of any run. If it has no key, it fails
with the reason and nothing at all has changed. Otherwise it is counted in the window that the
machine says, whatever its operation does; within the limit it goes on, over the limit the action
decides, and its operation is run exactly if it goes on, with nothing but the backend, the log and
what the action keeps changed before. Counter and time left of every key are then those of the
machine's windows. -/
theorem call_refines_window (accepted : l.config.flaw? = none) (run : l.Run action s ws)
    (args : CallArgs) (countable : l.Countable args s.now ws) (op : Site σ → Except ε α × Site σ)
    (quiet : ∀ before : Site σ, before.Quiet (op before).2) :
    (match l.key args with
      | .error e => l.call action args op s = (⟨false, .error (.policy (.key e))⟩, s)
      | .ok key =>
        let w := l.config.next s.now (ws key)
        let ruling := l.config.ruling action key args w.count s.own
        ∃ backend events, l.call action args op s =
          Outcome.ofRuling ruling.1 op { s with backend, events, own := ruling.2 }) ∧
      ∀ (key : String) (t : Time), (l.call action args op s).2.now ≤ t →
        ((l.call action args op s).2.backend.get t key).1 =
            .ok (((l.counted args s.now ws).live t key).map fun w => .int w.count) ∧
          ((l.call action args op s).2.backend.getExpire t key).1 =
            .ok (((l.counted args s.now ws).live t key).map fun w => w.deadline - t) := by
  constructor
  · cases has_key : l.key args with
    | error e => exact call_of_key_error has_key op
    | ok key =>
      obtain ⟨mirrors, words⟩ := run.invariant accepted
      obtain ⟨backend, events, _, concluded⟩ :=
        call_of_key action accepted mirrors (words key) has_key op
      exact ⟨backend, events, concluded⟩
  · intro key t later
    exact (run.call args op countable quiet).reads accepted key later

/-- With one call a minute allowed, the second one is refused, and is counted all the same. -/
theorem second_call_refused :
    let template : Template := ⟨"m:f", [.literal "m:f"], by decide +kernel⟩
    let l : Limiter := ⟨⟨⟨"m", "f"⟩, []⟩, .ofFunctions [], template, .per 1 (Duration.seconds 60)⟩
    let op : Site Unit → Except Unit Unit × Site Unit := fun s => (.ok (), s)
    let once := (l.call .reject ⟨[], []⟩ op (.start ())).2
    let twice := l.call .reject ⟨[], []⟩ op once
    twice.1 = ⟨false, .error (.policy (.rateLimitExceeded "m:f"))⟩ ∧
      (twice.2.backend.get 0 "m:f").1 = .ok (some (.int 2)) := by
  intro template l op once twice
  have quiet : ∀ s : Site Unit, s.Quiet (op s).2 := fun s => .beside rfl (Nat.le_refl _)
  have has_key : l.key ⟨[], []⟩ = .ok "m:f" := by decide +kernel
  have first : l.Countable ⟨[], []⟩ 0 .none := by
    intro key found
    cases has_key.symm.trans found
    decide
  have run : l.Run .reject once (l.counted ⟨[], []⟩ 0 .none) :=
    .call ⟨[], []⟩ op (.fresh rfl) first quiet
  rw [counted_of_key has_key] at run
  have second : l.Countable ⟨[], []⟩ once.now (Windows.none.set "m:f" (l.config.next 0 .none)) := by
    intro key found
    cases has_key.symm.trans found
    decide
  obtain ⟨answer, reads⟩ := call_refines_window (by decide) run ⟨[], []⟩ second op quiet
  rw [has_key] at answer
  obtain ⟨backend, events, concluded⟩ := answer
  change twice = _ at concluded
  have counter := (reads "m:f" 0 (by change twice.2.now ≤ 0; rw [concluded]; rfl)).1
  rw [counted_of_key has_key] at counter
  exact ⟨by rw [concluded]; rfl, counter⟩

end Limiter
end Latchkey
