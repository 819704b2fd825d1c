import Latchkey.Proofs.Sharing.Steps

/-!
An access to a plain map is confined to a key if what it answers and what it leaves under that key
depend on what is there, and it leaves all other keys alone. `SharedCall.step_confined`: a step of a
call on a backend whose accesses all work is confined to one key, and beside it to one trace.
-/

namespace Latchkey

variable {σ α β : Type}

namespace Plain

variable {now : Time} {key other : String} {m m' : Plain}

/-- An access that reads and writes under one key only. -/
structure Confined (key : String) (access : Plain → α × Plain) : Prop where
  congr : ∀ {m m' : Plain}, m key = m' key →
    (access m).1 = (access m').1 ∧ (access m).2 key = (access m').2 key
  frame : ∀ (m : Plain) {other : String}, other ≠ key → (access m).2 other = m other

theorem live_congr (same : m key = m' key) (now : Time) : m.live now key = m'.live now key := by
  rw [live, live, same]

theorem put_congr (m m' : Plain) (key : String) (e : Entry) : m.put key e key = m'.put key e key :=
  (put_self e).trans (put_self e).symm

theorem remove_self (m : Plain) (key : String) : m.remove key key = none :=
  Function.update_self _ _ _

theorem confined_answer (key : String) (a : α) : Confined key fun m => (a, m) where
  congr same := ⟨rfl, same⟩
  frame _ _ _ := rfl

/-- What an access answers may be put in other words. -/
theorem Confined.map {access : Plain → α × Plain} (confined : Confined key access) (f : α → β) :
    Confined key fun m => (f (access m).1, (access m).2) where
  congr same := by
    obtain ⟨answer, kept⟩ := confined.congr same
    exact ⟨congrArg f answer, kept⟩
  frame m _ differ := confined.frame m differ

/-- On maps that are the same in some places, an access confined to one of them answers the same and
leaves the same there. -/
theorem Confined.agree {access : Plain → α × Plain} (confined : Confined key access)
    {places : String → Prop} (among : places key)
    (same : ∀ place, places place → m place = m' place) :
    (access m).1 = (access m').1 ∧
      ∀ place, places place → (access m).2 place = (access m').2 place := by
  obtain ⟨answer, left⟩ := confined.congr (same key among)
  refine ⟨answer, fun place there => ?_⟩
  by_cases here : place = key
  · rw [here]
    exact left
  · rw [confined.frame m here, confined.frame m' here]
    exact same place there

/-- An access confined to another key leaves the places as they are. -/
theorem Confined.agree_outside {access : Plain → α × Plain} (confined : Confined key access)
    {places : String → Prop} (outside : ¬ places key)
    (same : ∀ place, places place → m place = m' place) :
    ∀ place, places place → (access m).2 place = m' place := by
  intro place there
  have elsewhere : place ≠ key := by
    rintro rfl
    exact outside there
  rw [confined.frame m elsewhere]
  exact same place there

theorem confined_holds (now : Time) (key : String) :
    Confined key fun m => (m.holds now key, m) where
  congr same := by
    refine ⟨?_, same⟩
    rw [holds, holds, live_congr same]
  frame _ _ _ := rfl

theorem confined_incr (now : Time) (key : String) : Confined key (incr now key) where
  congr {m m'} same := by
    have alive := live_congr same now
    unfold incr
    rw [alive]
    split
    · exact ⟨rfl, put_congr m m' key _⟩
    · split
      · exact ⟨rfl, put_congr m m' key _⟩
      · exact ⟨rfl, same⟩
    · exact ⟨rfl, same⟩
  frame _ _ differ := incr_of_ne (Ne.symm differ)

theorem confined_expire (now : Time) (key : String) (timeout : Duration) (a : α) :
    Confined key fun m => (a, m.expire now key timeout) where
  congr {m m'} same := by
    refine ⟨rfl, ?_⟩
    have alive := live_congr same now
    unfold expire
    rw [alive]
    cases m'.live now key with
    | none => exact same
    | some e => exact put_congr m m' key _
  frame _ _ differ := expire_of_ne timeout (Ne.symm differ)

theorem confined_setLock (now : Time) (key : String) (value : Json) (expire : Duration) :
    Confined key (setLock now key value expire) where
  congr {m m'} same := by
    have alive := live_congr same now
    unfold setLock
    rw [alive]
    split
    · exact ⟨rfl, same⟩
    · exact ⟨rfl, put_congr m m' key _⟩
  frame _ _ differ := setLock_of_ne value expire (Ne.symm differ)

theorem get_congr (same : m key = m' key) (now : Time) : m.get now key = m'.get now key := by
  rw [get, get, live_congr same]

theorem remaining_congr (same : m key = m' key) (now : Time) :
    m.remaining now key = m'.remaining now key := by
  rw [remaining, remaining, live_congr same]

theorem serve_incr (m : Plain) (now : Time) (key : String) :
    (m.serve now (.incr key)).2 = (m.incr now key).2 := by
  unfold serve
  dsimp only
  split <;> simp_all

/-- What a request leaves under a key depends on what was there. -/
theorem serve_congr (same : m key = m' key) (now : Time) (r : Request) :
    (m.serve now r).2 key = (m'.serve now r).2 key := by
  by_cases writes : r.writes key
  · cases r with
    | get | getExpire | isLocked | size => exact same
    | clear => rfl
    | set other value expire =>
      cases writes
      exact put_congr m m' key _
    | delete other | unlock other =>
      cases writes
      exact (remove_self m key).trans (remove_self m' key).symm
    | incr other =>
      cases writes
      rw [serve_incr, serve_incr]
      exact ((confined_incr now key).congr same).2
    | expire other timeout =>
      cases writes
      exact ((confined_expire now key timeout ()).congr same).2
    | setLock other value expire =>
      cases writes
      exact ((confined_setLock now key value expire).congr same).2
  · rw [serve_of_not_writes writes, serve_of_not_writes writes, same]

end Plain

/-- The answer of the action depends on the key and the arguments only. -/
def LimitAction.Stateless (action : LimitAction σ) : Prop :=
  ∃ rule : String → CallArgs → Except PolicyError Unit,
    ∀ key args own, (action.decide key args own).1 = rule key args

theorem LimitAction.stateless_reject : (reject : LimitAction σ).Stateless :=
  ⟨fun key _ => .error (.rateLimitExceeded key), fun _ _ _ => rfl⟩

theorem Limiter.confined_advance (l : Limiter) (key : String) (now : Time) (stage : Counting) :
    Plain.Confined key (l.advancePlain key now stage) := by
  cases stage with
  | arrived =>
    have raised : l.advancePlain key now .arrived = fun m =>
        (((m.incr now key).1.elim (.failed (.notCounter key)) l.afterRaise : Counting),
          (m.incr now key).2) := by
      funext m
      unfold advancePlain
      dsimp only
      split <;> simp_all
    rw [raised]
    exact (Plain.confined_incr now key).map fun count? =>
      count?.elim (.failed (.notCounter key)) l.afterRaise
  | opening => exact Plain.confined_expire now key _ _
  | banning => exact Plain.confined_expire now key _ _
  | counted | failed => exact Plain.confined_answer key _

namespace LimitedCall

variable {c : LimitedCall σ} {key : String}

/-- A step leaves the clock and all traces alone. -/
theorem step_beside (c : LimitedCall σ) (standing : Standing) (s : Site σ) :
    (c.step standing s).2.now = s.now ∧ (c.step standing s).2.traces = s.traces := by
  unfold step
  cases c.key with
  | error e => exact ⟨rfl, rfl⟩
  | ok key =>
    cases standing with
    | running | ended => exact ⟨rfl, rfl⟩
    | entering stage =>
      cases stage with
      | arrived | opening | banning | failed => exact ⟨rfl, rfl⟩
      | counted count =>
        dsimp only [enter, Limiter.verdict]
        split <;> exact ⟨rfl, rfl⟩

/-- A step before a call is let through, on a backend whose accesses all work. -/
theorem enter_confined (c : LimitedCall σ) (stateless : c.action.Stateless) (key : String)
    (stage : Counting) (now : Time) :
    ∃ access : Plain → Standing × Plain, Plain.Confined key access ∧
      ∀ (s : Site σ) (m : Plain), s.now = now → s.backend.Mirrors now m →
        (c.enter key stage s).1 = (access m).1 ∧
          (c.enter key stage s).2.backend.Mirrors now (access m).2 := by
  by_cases settled : stage.settled
  · cases stage with
    | arrived | opening | banning => cases settled
    | failed e =>
      exact ⟨_, Plain.confined_answer key (.ended (.error (.backend e))),
        fun s m _ mirrors => ⟨rfl, mirrors⟩⟩
    | counted count =>
      obtain ⟨rule, follows⟩ := stateless
      let answer := if c.limiter.isOver count then rule key c.args else .ok ()
      refine ⟨_, Plain.confined_answer key (.ofAnswer now answer), fun s m clock mirrors => ?_⟩
      subst clock
      have told : (c.limiter.verdict c.action key c.args count s).1 = answer ∧
          (c.limiter.verdict c.action key c.args count s).2.backend = s.backend := by
        unfold Limiter.verdict
        by_cases exceeds : c.limiter.isOver count
        · simp [answer, exceeds, follows, Site.noteAll]
        · simp [answer, exceeds]
      unfold enter
      dsimp only
      rw [told.1, told.2]
      exact ⟨rfl, mirrors⟩
  · refine ⟨_, (c.limiter.confined_advance key now stage).map .entering, ?_⟩
    intro s m clock mirrors
    subst clock
    obtain ⟨answer, after⟩ := c.limiter.advance_mirrors key mirrors stage
    rw [c.enter_of_unsettled key settled, answer]
    exact ⟨rfl, after⟩

/-- A step on a backend whose accesses all work is confined to the key of the call. -/
theorem step_confined (stateless : c.action.Stateless) (has_key : c.key = .ok key)
    (standing : Standing) (now : Time) :
    ∃ access : Plain → Standing × Plain, Plain.Confined key access ∧
      ∀ (s : Site σ) (m : Plain), s.now = now → s.backend.Mirrors now m →
        (c.step standing s).1 = (access m).1 ∧
          (c.step standing s).2.backend.Mirrors now (access m).2 := by
  unfold step
  rw [has_key]
  cases standing with
  | entering stage => exact c.enter_confined stateless key stage now
  | running | ended =>
    exact ⟨_, Plain.confined_answer key _, fun s m _ mirrors => ⟨rfl, mirrors⟩⟩

end LimitedCall

namespace TimedCall

variable {c : TimedCall} {key : String}

/-- Looking at the circuit changes the backend and the log only. -/
theorem look_site (c : TimedCall) (key : String) (s : Site σ) :
    ∃ events, (c.look key s).2 =
      { s with backend := (s.backend.isLocked s.now (lockKey key)).2, events } := by
  unfold look Breaker.isLocked Site.access Site.note
  dsimp only
  generalize s.backend.isLocked s.now (lockKey key) = access
  obtain ⟨answer, backend⟩ := access
  match answer with
  | .error e => exact ⟨_, rfl⟩
  | .ok true => exact ⟨_, rfl⟩
  | .ok false => exact ⟨_, rfl⟩

/-- A step leaves the clock and all traces but that of its breaker alone. -/
theorem step_beside (c : TimedCall) (standing : Standing) (s : Site σ) :
    (c.step standing s).2.now = s.now ∧ ∀ slot, slot ≠ c.breaker.slot →
      (c.step standing s).2.traces[slot]? = s.traces[slot]? := by
  unfold step
  cases c.key with
  | error e => exact ⟨rfl, fun _ _ => rfl⟩
  | ok key =>
    cases standing with
    | ended => exact ⟨rfl, fun _ _ => rfl⟩
    | entering stage =>
      obtain ⟨events, looked⟩ := c.look_site key s
      dsimp only
      rw [looked]
      exact ⟨rfl, fun _ _ => rfl⟩
    | running since => exact ⟨rfl, fun slot differ => List.getElem?_set_ne (Ne.symm differ)⟩

/-- Looking at the circuit answers whether the lock is held. -/
theorem look_confined (c : TimedCall) (key : String) (now : Time) :
    ∃ access : Plain → Standing × Plain, Plain.Confined (lockKey key) access ∧
      ∀ (s : Site σ) (m : Plain), s.now = now → s.backend.Mirrors now m →
        (c.look key s).1 = (access m).1 ∧ (c.look key s).2.backend.Mirrors now (access m).2 := by
  let told (held : Bool) : Standing :=
    if held then .ended (.error (.performanceDegraded key)) else .running now
  refine ⟨_, (Plain.confined_holds now (lockKey key)).map told, fun s m clock mirrors => ?_⟩
  subst clock
  obtain ⟨answer, after⟩ := mirrors.attempt .isLocked (mirrors.agrees.holds (lockKey key))
  obtain ⟨events, looked⟩ := c.look_site key s
  refine ⟨?_, by rw [looked]; exact after⟩
  unfold look Breaker.isLocked Site.access Site.note Backend.isLocked
  dsimp only
  generalize s.backend.attempt .isLocked (Store.holds s.now (lockKey key)) = access at answer
  obtain ⟨got, backend⟩ := access
  dsimp only at answer
  subst answer
  cases m.holds s.now (lockKey key) <;> rfl

/-- A duration that could be recorded. -/
theorem finish_of_record {since : Time} {s : Site σ} {trace : Trace} {backend : Backend}
    (recorded : c.breaker.record key (Duration.toSeconds (s.now - since)) s.now (c.breaker.trace s)
      s.backend = (.ok (), trace, backend)) :
    (c.finish key since s).1 = .ended (.ok ()) ∧
      (c.finish key since s).2.traces[c.breaker.slot]? =
        s.traces[c.breaker.slot]?.map (fun _ => trace) ∧
      (c.finish key since s).2.backend = backend := by
  unfold finish Breaker.recordAt
  dsimp only
  rw [recorded]
  exact ⟨rfl, List.getElem?_set_self', rfl⟩

/-- Recording a duration answers and leaves what follows from the trace and the lock. -/
theorem finish_confined (c : TimedCall) (key : String) (since now : Time) (kept : Option Trace) :
    ∃ access : Plain → (Standing × Option Trace) × Plain,
      Plain.Confined (lockKey key) access ∧
      ∀ (s : Site σ) (m : Plain), s.now = now → s.traces[c.breaker.slot]? = kept →
        s.backend.Mirrors now m →
        ((c.finish key since s).1, (c.finish key since s).2.traces[c.breaker.slot]?) =
            (access m).1 ∧
          (c.finish key since s).2.backend.Mirrors now (access m).2 := by
  let takes := Duration.toSeconds (now - since)
  let trace := kept.getD []
  have traced (s : Site σ) (same : s.traces[c.breaker.slot]? = kept) :
      c.breaker.trace s = trace := by
    rw [Breaker.trace, Site.trace, List.getD_eq_getElem?_getD, same]
  by_cases opens : c.breaker.trips takes trace = true
  · refine ⟨_, (Plain.confined_setLock now (lockKey key) (.float takes) c.breaker.config.ttl).map
      fun _ => (.ended (.ok ()), kept.map fun _ => []), fun s m clock same mirrors => ?_⟩
    subst clock
    obtain ⟨answer, after⟩ := mirrors.attempt .setLock
      (mirrors.agrees.setLock (lockKey key) (.float takes) c.breaker.config.ttl)
    have recorded : c.breaker.record key takes s.now (c.breaker.trace s) s.backend =
        (.ok (), [], (s.backend.setLock s.now (lockKey key) (.float takes)
          c.breaker.config.ttl).2) := by
      rw [traced s same, Breaker.record, if_pos opens, Backend.setLock]
      generalize s.backend.attempt .setLock _ = access at answer
      obtain ⟨got, backend⟩ := access
      dsimp only at answer
      subst answer
      rfl
    obtain ⟨told, put, backend⟩ := finish_of_record recorded
    rw [told, put, backend, same]
    exact ⟨rfl, after⟩
  · refine ⟨_, Plain.confined_answer (lockKey key)
      (.ended (.ok ()), kept.map fun _ => c.breaker.push takes trace),
      fun s m clock same mirrors => ?_⟩
    subst clock
    have recorded : c.breaker.record key takes s.now (c.breaker.trace s) s.backend =
        (.ok (), c.breaker.push takes trace, s.backend) := by
      rw [traced s same, Breaker.record, if_neg opens]
    obtain ⟨told, put, backend⟩ := finish_of_record recorded
    rw [told, put, backend, same]
    exact ⟨rfl, mirrors⟩

/-- A step on a backend whose accesses all work is confined to the lock of the key, and depends
beside it on the trace of the breaker. -/
theorem step_confined (has_key : c.key = .ok key) (standing : Standing) (now : Time)
    (kept : Option Trace) :
    ∃ access : Plain → (Standing × Option Trace) × Plain,
      Plain.Confined (lockKey key) access ∧
      ∀ (s : Site σ) (m : Plain), s.now = now → s.traces[c.breaker.slot]? = kept →
        s.backend.Mirrors now m →
        ((c.step standing s).1, (c.step standing s).2.traces[c.breaker.slot]?) = (access m).1 ∧
          (c.step standing s).2.backend.Mirrors now (access m).2 := by
  unfold step
  rw [has_key]
  cases standing with
  | entering stage =>
    obtain ⟨access, confined, spec⟩ := c.look_confined key now
    refine ⟨_, confined.map fun told => (told, kept), fun s m clock same mirrors => ?_⟩
    obtain ⟨told, after⟩ := spec s m clock mirrors
    obtain ⟨events, looked⟩ := c.look_site key s
    refine ⟨?_, after⟩
    dsimp only
    rw [told, looked, ← same]
  | running since => exact c.finish_confined key since now kept
  | ended answer =>
    exact ⟨_, Plain.confined_answer (lockKey key) (.ended answer, kept),
      fun s m _ same mirrors => ⟨by rw [same], mirrors⟩⟩

end TimedCall

namespace SharedCall

/-- The action of a limiter's call depends on the key and the arguments only. -/
def Stateless : SharedCall σ → Prop
  | .limited c => c.action.Stateless
  | .timed _ => True

/-- The trace that a call works with. -/
def kept? (c : SharedCall σ) (s : Site σ) : Option Trace := c.slot?.bind fun slot => s.traces[slot]?

variable {c : SharedCall σ}

/-- What a call of a breaker works with is the lock of its key. -/
theorem key_of_place {c : TimedCall} {place : String}
    (placed : (timed c : SharedCall σ).place = .ok place) :
    ∃ key, c.key = .ok key ∧ lockKey key = place := by
  cases has_key : c.key with
  | error e =>
    rw [SharedCall.place, has_key] at placed
    cases placed
  | ok key =>
    rw [SharedCall.place, has_key] at placed
    cases placed
    exact ⟨key, rfl, rfl⟩

/-- A step leaves the clock and all traces alone but the one that the call works with. -/
theorem step_beside (c : SharedCall σ) (standing : Standing) (s : Site σ) :
    (c.step standing s).2.now = s.now ∧ ∀ slot, c.slot? ≠ some slot →
      (c.step standing s).2.traces[slot]? = s.traces[slot]? := by
  cases c with
  | limited c =>
    obtain ⟨clock, traces⟩ := c.step_beside standing s
    exact ⟨clock, fun slot _ => congrArg (·[slot]?) traces⟩
  | timed c =>
    obtain ⟨clock, traces⟩ := c.step_beside standing s
    refine ⟨clock, fun slot other => traces slot ?_⟩
    rintro rfl
    exact other rfl

/-- A call that has no key ends with its first step. -/
theorem step_of_no_place {e : KeyError} (unplaced : c.place = .error e) (standing : Standing)
    (s : Site σ) : c.step standing s = (.ended (.error (.key e)), s) := by
  cases c with
  | limited c =>
    have no_key : c.key = .error e := unplaced
    rw [step, LimitedCall.step, no_key]
  | timed c =>
    have no_key : c.key = .error e := by
      cases has_key : c.key with
      | error e' =>
        rw [place, has_key] at unplaced
        exact unplaced
      | ok key =>
        rw [place, has_key] at unplaced
        cases unplaced
    rw [step, TimedCall.step, no_key]

/-- **A step is confined.** On a backend whose accesses all work, what a step of a call comes to and
what it leaves in the place and the trace that the call works with depend on these two, on where the
call stands, and on the time. -/
theorem step_confined (stateless : c.Stateless) {place : String} (placed : c.place = .ok place)
    (standing : Standing) (now : Time) (kept : Option Trace) :
    ∃ access : Plain → (Standing × Option Trace) × Plain, Plain.Confined place access ∧
      ∀ (s : Site σ) (m : Plain), s.now = now → c.kept? s = kept → s.backend.Mirrors now m →
        ((c.step standing s).1, c.kept? (c.step standing s).2) = (access m).1 ∧
          (c.step standing s).2.backend.Mirrors now (access m).2 := by
  cases c with
  | limited c =>
    obtain ⟨access, confined, spec⟩ := LimitedCall.step_confined stateless placed standing now
    refine ⟨_, confined.map fun told => (told, none), fun s m clock _ mirrors => ?_⟩
    obtain ⟨told, after⟩ := spec s m clock mirrors
    exact ⟨Prod.ext told rfl, after⟩
  | timed c =>
    obtain ⟨key, has_key, rfl⟩ := key_of_place placed
    exact TimedCall.step_confined has_key standing now kept

end SharedCall
end Latchkey
