import Latchkey.Proofs.Breaker.Refinement
import Latchkey.Proofs.Limiter.Lifetimes

/-!
Calls of any limiters and breakers on one site: one after the other, at the same time, or one within
the operation of another. A call goes on in steps, each of which is one access to the backend or one
decision, and everything else goes on between the steps. `limited_call_eq_play` and
`timed_call_eq_play`: a call that is made all at once is the row of its steps.

What happens is a list, and the clock moves only where the list says so. So a call can be taken out
of a run with all others at the same times as before.
-/

namespace Latchkey

variable {σ ε α : Type}

/-- A call of a limiter. -/
structure LimitedCall (σ : Type) where
  limiter : Limiter
  action : LimitAction σ
  args : CallArgs

/-- A call of a breaker. -/
structure TimedCall where
  breaker : Breaker
  args : CallArgs

/-- A call that shares a site with others. -/
inductive SharedCall (σ : Type) where
  | limited (c : LimitedCall σ)
  | timed (c : TimedCall)

/-- Where a call stands. -/
inductive Standing where
  /-- It has not been let through yet. A limiter counts it in stages. -/
  | entering (stage : Counting)
  /-- It was let through at this instant. -/
  | running (since : Time)
  /-- It was not let through, or its duration was recorded, with this answer of the policy. -/
  | ended (answer : Except PolicyError Unit)
deriving DecidableEq

/-- An answer at an instant: the call is let through, or it has ended. -/
def Standing.ofAnswer (now : Time) : Except PolicyError Unit → Standing
  | .ok () => .running now
  | .error e => .ended (.error e)

namespace LimitedCall

/-- The key under which the call is counted. -/
def key (c : LimitedCall σ) : Except KeyError String := c.limiter.key c.args

/-- The call is counted under this key. -/
def hasKey (key : String) (c : LimitedCall σ) : Bool := c.key.toOption == some key

/-- A step of the call before it is let through: its key is noted when it arrives, it is counted
stage by stage, and then it is decided on. -/
def enter (c : LimitedCall σ) (key : String) (stage : Counting) (s : Site σ) :
    Standing × Site σ :=
  match stage with
  | .counted count =>
    let (answer, after) := c.limiter.verdict c.action key c.args count s
    (.ofAnswer s.now answer, after)
  | .failed e => (.ended (.error (.backend e)), s)
  | stage =>
    let s := if stage = .arrived then s.note (.keyBound c.limiter.signature.id key) else s
    let (stage, backend) := c.limiter.advance key s.now stage s.backend
    (.entering stage, { s with backend })

/-- A step of the call. After it was let through nothing is left to do. -/
def step (c : LimitedCall σ) (standing : Standing) (s : Site σ) : Standing × Site σ :=
  match c.key with
  | .error e => (.ended (.error (.key e)), s)
  | .ok key =>
    match standing with
    | .entering stage => c.enter key stage s
    | standing => (standing, s)

end LimitedCall

namespace TimedCall

/-- The key of the call. -/
def key (c : TimedCall) : Except KeyError String := c.breaker.key c.args

/-- The call looks at its circuit. -/
def look (c : TimedCall) (key : String) (s : Site σ) : Standing × Site σ :=
  match Breaker.isLocked key (s.note (.keyBound c.breaker.signature.id key)) with
  | (.error e, s) => (.ended (.error (.backend e)), s)
  | (.ok true, s) => (.ended (.error (.performanceDegraded key)), s.note (.circuitOpen key))
  | (.ok false, s) => (.running s.now, s)

/-- The duration of the call is recorded. -/
def finish (c : TimedCall) (key : String) (since : Time) (s : Site σ) : Standing × Site σ :=
  let (answer, s) := c.breaker.recordAt key (Duration.toSeconds (s.now - since)) s
  (.ended (answer.mapError .backend), s)

/-- A step of the call. -/
def step (c : TimedCall) (standing : Standing) (s : Site σ) : Standing × Site σ :=
  match c.key with
  | .error e => (.ended (.error (.key e)), s)
  | .ok key =>
    match standing with
    | .entering _ => c.look key s
    | .running since => c.finish key since s
    | .ended answer => (.ended answer, s)

end TimedCall

namespace SharedCall

/-- The key in the store that a call works with: its counter, or the lock of its circuit. -/
def place : SharedCall σ → Except KeyError String
  | .limited c => c.key
  | .timed c => c.key.map lockKey

/-- The slot of the trace that a call works with. -/
def slot? : SharedCall σ → Option Nat
  | .limited _ => none
  | .timed c => some c.breaker.slot

def isTimed : SharedCall σ → Bool
  | .limited _ => false
  | .timed _ => true

def isLimited (c : SharedCall σ) : Bool := !c.isTimed

def step (c : SharedCall σ) (standing : Standing) (s : Site σ) : Standing × Site σ :=
  match c with
  | .limited c => c.step standing s
  | .timed c => c.step standing s

end SharedCall

/-- What calls share, and where each call stands. Those that have not come yet are among them. -/
structure Scene (σ : Type) where
  site : Site σ
  standings : Nat → Standing

/-- What may happen next. -/
inductive Happening (σ : Type) where
  | pass (d : Duration)
  /-- Others use the backend. -/
  | serve (r : Request)
  /-- A call does its next step. -/
  | step (i : Nat)
  /-- The operation of a call does something beside clock, backend and traces. -/
  | operate (i : Nat) (f : Site σ → Site σ)

/-- The call whose step this is. -/
def Happening.stepped? : Happening σ → Option Nat
  | .step i => some i
  | _ => none

/-- Whether it happens if only some of the calls are made. -/
def Happening.remains (made : Nat → Bool) : Happening σ → Bool
  | .pass _ | .serve _ => true
  | .step i | .operate i _ => made i

/-- Anything changed beside clock, backend and traces. -/
def Site.beside (s : Site σ) (f : Site σ → Site σ) : Site σ :=
  { f s with now := s.now, backend := s.backend, traces := s.traces }

/-- What can be told of a call after one of its steps. -/
@[ext]
structure Sight where
  call : Nat
  standing : Standing
  /-- The value and the time left that are reported for the key that the call works with. -/
  record : Option (Except BackendError (Option Json) × Except BackendError (Option Duration))
  /-- The trace of its breaker. -/
  trace : Option Trace

namespace Scene

/-- Nothing is kept, and no call has come yet. -/
def start (s : Site σ) : Scene σ := ⟨{ s with backend := .empty }, fun _ => .entering .arrived⟩

variable (calls : Nat → SharedCall σ)

/-- One thing happens. -/
def happen (w : Scene σ) : Happening σ → Scene σ
  | .pass d => { w with site := w.site.pass d }
  | .serve r =>
    { w with site := { w.site with backend := (w.site.backend.serve w.site.now r).2 } }
  | .step i =>
    let (standing, site) := (calls i).step (w.standings i) w.site
    ⟨site, Function.update w.standings i standing⟩
  | .operate _ f => { w with site := w.site.beside f }

/-- One thing happens after the other. -/
def play (hs : List (Happening σ)) (w : Scene σ) : Scene σ := hs.foldl (happen calls) w

/-- What can be told of a call now. -/
def sight (w : Scene σ) (i : Nat) : Sight where
  call := i
  standing := w.standings i
  record := (calls i).place.toOption.map fun place =>
    ((w.site.backend.get w.site.now place).1, (w.site.backend.getExpire w.site.now place).1)
  trace := (calls i).slot?.map w.site.trace

/-- What can be told of the calls, after every step of one. -/
def sights : List (Happening σ) → Scene σ → List Sight
  | [], _ => []
  | h :: hs, w =>
    let w := w.happen calls h
    (h.stepped?.map (w.sight calls)).toList ++ sights hs w

end Scene

/-! ## Whole calls -/

theorem Limiter.advance_ne_arrived (l : Limiter) (key : String) (now : Time) (stage : Counting)
    (b : Backend) : (l.advance key now stage b).1 ≠ .arrived := by
  intro arrived
  have nearer := l.ahead_advance key now stage b
  rw [arrived] at nearer
  cases stage <;> simp [Counting.ahead] at nearer

namespace LimitedCall

variable {c : LimitedCall σ} {key : String}

/-- A call that is still being counted comes to its next stage. -/
theorem enter_of_unsettled (c : LimitedCall σ) (key : String) {stage : Counting}
    (unsettled : ¬ stage.settled) (s : Site σ) :
    c.enter key stage s =
      (.entering (c.limiter.advance key s.now stage s.backend).1,
        { (if stage = .arrived then s.note (.keyBound c.limiter.signature.id key) else s) with
          backend := (c.limiter.advance key s.now stage s.backend).2 }) := by
  cases stage with
  | arrived | opening | banning => rfl
  | counted | failed => exact absurd rfl unsettled

/-- A call that is judged all at once has its stages one right after the other and is then decided
on. -/
theorem judge_eq_enter (c : LimitedCall σ) (key : String) (s : Site σ) :
    let counted := c.limiter.advanceBy key s.now 3 .arrived s.backend
    let told := c.enter key counted.1 { s with backend := counted.2 }
    ∃ answer, told.1 = .ofAnswer s.now answer ∧
      c.limiter.judge c.action key c.args s = (answer, told.2) := by
  have settled := (Counting.settled_iff _).mpr
    (Nat.le_zero.mp (c.limiter.ahead_advanceBy key 3 s.now .arrived s.backend))
  cases counted : c.limiter.advanceBy key s.now 3 .arrived s.backend with
  | mk stage backend =>
    rw [counted] at settled
    cases stage with
    | counted count =>
      exact ⟨(c.limiter.verdict c.action key c.args count { s with backend }).1, rfl,
        Limiter.judge_of_count c.action c.args (Limiter.count_of_advanceBy counted)⟩
    | failed e =>
      have failed : c.limiter.count key s.now s.backend = (.error e, backend) := by
        rw [Limiter.count, counted]
      exact ⟨.error (.backend e), rfl, Limiter.judge_of_count_error c.action c.args failed⟩
    | arrived | opening | banning => cases settled

/-- A call that was decided on has no more steps. -/
theorem step_of_decided (has_key : c.key = .ok key) {stage : Counting} (settled : stage.settled)
    (s s' : Site σ) : c.step (c.enter key stage s).1 s' = ((c.enter key stage s).1, s') := by
  unfold step
  rw [has_key]
  cases stage with
  | arrived | opening | banning => cases settled
  | failed e => rfl
  | counted count =>
    unfold enter
    dsimp only
    cases (c.limiter.verdict c.action key c.args count s).1 <;> rfl

end LimitedCall

namespace Scene

variable {calls : Nat → SharedCall σ} {w : Scene σ} {i : Nat}

theorem play_cons (h : Happening σ) (hs : List (Happening σ)) (w : Scene σ) :
    play calls (h :: hs) w = play calls hs (w.happen calls h) := rfl

theorem happen_step (w : Scene σ) (i : Nat) :
    w.happen calls (.step i) =
      ⟨((calls i).step (w.standings i) w.site).2,
        Function.update w.standings i ((calls i).step (w.standings i) w.site).1⟩ := rfl

/-- Steps of a call that has no more of them change nothing. -/
theorem play_of_rest (n : Nat)
    (rests : (calls i).step (w.standings i) w.site = (w.standings i, w.site)) :
    w.play calls (List.replicate n (.step i)) = w := by
  induction n with
  | zero => rfl
  | succ n ih =>
    have same : w.happen calls (.step i) = w := by
      rw [happen_step, rests]
      exact congrArg (Scene.mk w.site) (Function.update_eq_self i w.standings)
    rw [List.replicate_succ, play_cons, same, ih]

section Limited

variable {c : LimitedCall σ} {key : String}

theorem step_of_entering (is : calls i = .limited c) (has_key : c.key = .ok key) {stage : Counting}
    (stands : w.standings i = .entering stage) :
    (calls i).step (w.standings i) w.site = c.enter key stage w.site := by
  rw [is, stands, SharedCall.step, LimitedCall.step, has_key]

/-- After some stages, one right after the other, a call does its next step. -/
theorem play_of_advanceBy (is : calls i = .limited c) (has_key : c.key = .ok key) (n : Nat)
    {stage : Counting} (begun : stage ≠ .arrived) (stands : w.standings i = .entering stage) :
    let counted := c.limiter.advanceBy key w.site.now n stage w.site.backend
    let told := c.enter key counted.1 { w.site with backend := counted.2 }
    let w' := w.play calls (List.replicate (n + 1) (.step i))
    w'.standings i = told.1 ∧ w'.site = told.2 := by
  induction n generalizing w stage with
  | zero =>
    rw [List.replicate_one, play_cons, happen_step, step_of_entering is has_key stands]
    exact ⟨Function.update_self _ _ _, rfl⟩
  | succ n ih =>
    rw [List.replicate_succ, play_cons, happen_step, step_of_entering is has_key stands]
    by_cases done : stage.settled
    · rw [Limiter.advanceBy_settled done _, play_of_rest]
      · exact ⟨Function.update_self _ _ _, rfl⟩
      · dsimp only
        rw [Function.update_self, is]
        exact LimitedCall.step_of_decided has_key done w.site _
    · rw [c.enter_of_unsettled key done, if_neg begun]
      apply ih
      · exact c.limiter.advance_ne_arrived key w.site.now stage w.site.backend
      · exact Function.update_self _ _ _

/-- The steps of a call from its arrival until it is decided on. -/
theorem play_of_arrived (is : calls i = .limited c) (has_key : c.key = .ok key)
    (arrived : w.standings i = .entering .arrived) :
    let s := w.site.note (.keyBound c.limiter.signature.id key)
    let counted := c.limiter.advanceBy key s.now 3 .arrived s.backend
    let told := c.enter key counted.1 { s with backend := counted.2 }
    let w' := w.play calls (List.replicate 4 (.step i))
    w'.standings i = told.1 ∧ w'.site = told.2 := by
  have unsettled : ¬ Counting.settled .arrived := Bool.false_ne_true
  rw [List.replicate_succ, play_cons, happen_step, step_of_entering is has_key arrived,
    c.enter_of_unsettled key unsettled, if_pos rfl]
  apply play_of_advanceBy is has_key 2
  · exact c.limiter.advance_ne_arrived key w.site.now .arrived w.site.backend
  · exact Function.update_self _ _ _

/-- **A call of a limiter that is made all at once is the row of its steps.** Its key is noted, its
stages follow one right after the other, and it is decided on. Then it is let through or not, and is
concluded with its operation. -/
theorem limited_call_eq_play (is : calls i = .limited c)
    (arrived : w.standings i = .entering .arrived) :
    let w' := w.play calls (List.replicate 4 (.step i))
    ∃ answer, w'.standings i = .ofAnswer w.site.now answer ∧
      ∀ op : Site σ → Except ε α × Site σ,
        c.limiter.call c.action c.args op w.site = Outcome.ofRuling answer op w'.site := by
  intro w'
  cases has_key : c.key with
  | error e =>
    have stepped (standing : Standing) (s : Site σ) :
        (calls i).step standing s = (.ended (.error (.key e)), s) := by
      rw [is, SharedCall.step, LimitedCall.step, has_key]
    have played : w' = ⟨w.site, Function.update w.standings i (.ended (.error (.key e)))⟩ := by
      change w.play calls (List.replicate (3 + 1) (.step i)) = _
      rw [List.replicate_succ, play_cons, happen_step, stepped, play_of_rest]
      dsimp only
      rw [stepped, Function.update_self]
    refine ⟨.error (.key e), ?_, fun op => ?_⟩
    · rw [played]
      exact Function.update_self _ _ _
    · rw [played]
      exact Limiter.call_of_key_error has_key op
  | ok key =>
    obtain ⟨stands, site⟩ := play_of_arrived is has_key arrived
    obtain ⟨answer, decided, judged⟩ :=
      c.judge_eq_enter key (w.site.note (.keyBound c.limiter.signature.id key))
    refine ⟨answer, stands.trans decided, fun op => ?_⟩
    have concluded := Limiter.call_of_judge has_key judged op
    rwa [← site] at concluded

end Limited

theorem step_of_running {c : TimedCall} {key : String} (is : calls i = .timed c)
    (has_key : c.key = .ok key) {since : Time} (stands : w.standings i = .running since) :
    (calls i).step (w.standings i) w.site = c.finish key since w.site := by
  rw [is, stands, SharedCall.step, TimedCall.step, has_key]

/-- A call whose circuit the backend says is closed: its operation is run, and then it does its last
step. -/
theorem final_of_unlocked {c : TimedCall} {key : String} {s after : Site σ}
    (is : calls i = .timed c) (has_key : c.key = .ok key)
    (told : Breaker.isLocked key (s.note (.keyBound c.breaker.signature.id key)) =
      (.ok false, after)) (op : Site σ → Except ε α × Site σ) (standings : Nat → Standing) :
    let run := op after
    let final := happen calls ⟨run.2, Function.update standings i (.running after.now)⟩ (.step i)
    ∃ answer, final.standings i = .ended answer ∧
      c.breaker.call c.args op s =
        (⟨true, (answer.mapError .policy).bind fun _ => run.1.mapError .operation⟩,
          final.site) := by
  have entered : c.breaker.entered key s = after := congrArg Prod.snd told
  have clock : after.now = s.now := by
    rw [← entered]
    rfl
  have whole := Breaker.call_of_unlocked has_key (congrArg Prod.fst told) op
  rw [entered] at whole
  intro run final
  let recorded := c.breaker.recordAt key (Duration.toSeconds (run.2.now - s.now)) run.2
  have wrapped : (recorded.1.mapError fun e => (.policy (.backend e) : CallError ε)) =
      (recorded.1.mapError .backend).mapError .policy := by
    cases recorded.1 <;> rfl
  have last : final = ⟨recorded.2, Function.update (Function.update standings i
      (.running after.now)) i (.ended (recorded.1.mapError .backend))⟩ := by
    change happen calls _ (.step i) = _
    rw [happen_step, step_of_running is has_key (Function.update_self _ _ _), TimedCall.finish,
      clock]
  refine ⟨recorded.1.mapError .backend, ?_, ?_⟩
  · rw [last]
    exact Function.update_self _ _ _
  · rw [whole, last, ← wrapped]

/-- **A call of a breaker that is made all at once is the row of its steps.** It looks at its
circuit. If it is let through its operation is run, and its duration is recorded at the end. -/
theorem timed_call_eq_play {c : TimedCall} (is : calls i = .timed c)
    (arrived : w.standings i = .entering .arrived) :
    let looked := w.happen calls (.step i)
    (∃ e, looked.standings i = .ended (.error e) ∧ ∀ op : Site σ → Except ε α × Site σ,
        c.breaker.call c.args op w.site = (⟨false, .error (.policy e)⟩, looked.site)) ∨
      looked.standings i = .running w.site.now ∧ ∀ op : Site σ → Except ε α × Site σ,
        let run := op looked.site
        let final := { looked with site := run.2 }.happen calls (.step i)
        ∃ answer, final.standings i = .ended answer ∧
          c.breaker.call c.args op w.site =
            (⟨true, (answer.mapError .policy).bind fun _ => run.1.mapError .operation⟩,
              final.site) := by
  intro looked
  cases has_key : c.key with
  | error e =>
    have stepped : (calls i).step (w.standings i) w.site = (.ended (.error (.key e)), w.site) := by
      rw [is, SharedCall.step, TimedCall.step, has_key]
    have refused : looked = ⟨w.site, Function.update w.standings i (.ended (.error (.key e)))⟩ := by
      change w.happen calls (.step i) = _
      rw [happen_step, stepped]
    left
    refine ⟨.key e, ?_, fun op => ?_⟩
    · rw [refused]
      exact Function.update_self _ _ _
    · rw [refused]
      exact Breaker.call_of_key_error has_key op
  | ok key =>
    have stepped : (calls i).step (w.standings i) w.site = c.look key w.site := by
      rw [is, arrived, SharedCall.step, TimedCall.step, has_key]
    have come : looked = ⟨(c.look key w.site).2,
        Function.update w.standings i (c.look key w.site).1⟩ := by
      change w.happen calls (.step i) = _
      rw [happen_step, stepped]
    have keyed := Breaker.keyFor_of_key has_key w.site
    rw [come, TimedCall.look]
    dsimp only
    rw [Function.update_self]
    cases told : Breaker.isLocked key (w.site.note (.keyBound c.breaker.signature.id key)) with
    | mk answer after =>
      match answer with
      | .error e =>
        left
        refine ⟨.backend e, rfl, fun op => ?_⟩
        rw [Breaker.call, keyed]
        dsimp only
        rw [told]
      | .ok true =>
        left
        refine ⟨.performanceDegraded key, rfl, fun op => ?_⟩
        rw [Breaker.call, keyed]
        dsimp only
        rw [told]
      | .ok false =>
        right
        have clock : after.now = w.site.now := by
          rw [← show _ = after from congrArg Prod.snd told]
          rfl
        refine ⟨by rw [← clock], fun op => ?_⟩
        exact final_of_unlocked is has_key told op w.standings

end Scene
end Latchkey
