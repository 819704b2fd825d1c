import Mathlib.Data.List.TakeWhile
import Latchkey.Proofs.Limiter.Refinement

/-!
How many calls a limiter lets through that refuses what is over the limit. The calls of a run with
one key fall into windows, each opened by the first call that is counted in it.
`admissions_bounded`: windows are opened at least a period apart, each admits at most as many calls
as the limit says, and so no stretch of time as long as a period sees more than twice as many.
-/

namespace Latchkey

/-- A call with a key, as it was counted and judged. -/
structure Visit where
  key : String
  time : Time
  /-- It was the first one to be counted in a window. -/
  opens : Bool
  /-- Its operation was run. -/
  admitted : Bool
deriving Repr, DecidableEq

namespace Visit

/-- It was admitted at or after an instant, and before another. -/
def admittedWithin (since stop : Time) (v : Visit) : Bool :=
  v.admitted && decide (since ≤ v.time) && decide (v.time < stop)

/-- The calls of a log with this key. -/
def ofKey (key : String) (log : List Visit) : List Visit := log.filter fun v => v.key = key

theorem ofKey_cons_self {key : String} {v : Visit} {log : List Visit} (same : v.key = key) :
    ofKey key (v :: log) = v :: ofKey key log :=
  List.filter_cons_of_pos (decide_eq_true same)

theorem ofKey_cons_of_ne {key : String} {v : Visit} {log : List Visit} (other : v.key ≠ key) :
    ofKey key (v :: log) = ofKey key log :=
  List.filter_cons_of_neg fun same => other (of_decide_eq_true same)

/-- The calls of the window that was opened last, the latest first. -/
def current : List Visit → List Visit
  | [] => []
  | v :: earlier => if v.opens then [v] else v :: current earlier

/-- The calls before the window that was opened last. -/
def previous : List Visit → List Visit
  | [] => []
  | v :: earlier => if v.opens then earlier else previous earlier

theorem current_append_previous (vs : List Visit) : current vs ++ previous vs = vs := by
  induction vs with
  | nil => rfl
  | cons v earlier ih =>
    unfold current previous
    split
    · rfl
    · exact congrArg (v :: ·) ih

theorem previous_suffix (vs : List Visit) : previous vs <:+ vs :=
  ⟨current vs, current_append_previous vs⟩

/-- What comes before a window was followed by the call that opened it. -/
theorem exists_opening {vs : List Visit} (more : previous vs ≠ []) :
    ∃ v ∈ current vs, v.opens = true := by
  induction vs with
  | nil => exact absurd rfl more
  | cons v earlier ih =>
    unfold current
    split
    · next opens => exact ⟨v, List.mem_singleton.mpr rfl, opens⟩
    · next joins =>
      rw [previous, if_neg joins] at more
      obtain ⟨u, among, opens⟩ := ih more
      exact ⟨u, List.mem_cons_of_mem v among, opens⟩

/-- The calls from an opening one on, up to the next. -/
theorem current_of_opening {between earlier : List Visit} {first : Visit}
    (opens : first.opens = true) (join : ∀ v ∈ between, v.opens = false) :
    current (between ++ first :: earlier) = between ++ [first] := by
  induction between with
  | nil => simp [current, opens]
  | cons v between ih =>
    obtain ⟨joins, join⟩ := List.forall_mem_cons.mp join
    simp [current, joins, ih join]

end Visit

open Visit (current previous)

/-- Calls of one key, the latest first, that keep to a limit: none before an earlier one, openings
of windows at least a period apart, and at any time at most as many admitted in the current window
as the limit says. -/
structure Paced (c : LimitConfig) (vs : List Visit) : Prop where
  ordered : vs.Pairwise fun v u => u.time ≤ v.time
  spaced : vs.Pairwise fun v u => v.opens = true → u.opens = true → u.time + c.period ≤ v.time
  limited : ∀ earlier, earlier <:+ vs → (current earlier).countP Visit.admitted ≤ c.limit

namespace Paced

variable {c : LimitConfig} {vs : List Visit}

theorem nil (c : LimitConfig) : Paced c [] := by
  refine ⟨.nil, .nil, fun earlier suffix => ?_⟩
  rw [List.suffix_nil.mp suffix]
  exact Nat.zero_le _

theorem suffix {earlier : List Visit} (paced : Paced c vs) (before : earlier <:+ vs) :
    Paced c earlier :=
  ⟨paced.ordered.sublist before.sublist, paced.spaced.sublist before.sublist,
    fun _ further => paced.limited _ (further.trans before)⟩

/-- One more call. -/
theorem cons {v : Visit} (paced : Paced c vs) (latest : ∀ u ∈ vs, u.time ≤ v.time)
    (spaced : v.opens = true → ∀ u ∈ vs, u.opens = true → u.time + c.period ≤ v.time)
    (limited : (current (v :: vs)).countP Visit.admitted ≤ c.limit) : Paced c (v :: vs) := by
  refine ⟨.cons latest paced.ordered,
    .cons (fun u among opens => spaced opens u among) paced.spaced, fun earlier suffix => ?_⟩
  rcases List.suffix_cons_iff.mp suffix with rfl | before
  · exact limited
  · exact paced.limited _ before

/-- The calls left after the latest ones are all before the end of an interval. -/
theorem before_of_mem_dropWhile (paced : Paced c vs) (stop : Time) :
    ∀ v ∈ vs.dropWhile fun v => decide (stop ≤ v.time), v.time < stop := by
  intro v among
  have ordered := (paced.suffix (List.dropWhile_suffix fun v => decide (stop ≤ v.time))).ordered
  cases left : vs.dropWhile fun v => decide (stop ≤ v.time) with
  | nil =>
    rw [left] at among
    cases among
  | cons first earlier =>
    have stops : first.time < stop := by
      have := List.head?_dropWhile_not (fun v : Visit => decide (stop ≤ v.time)) vs
      simpa [left] using this
    rw [left] at among ordered
    rcases List.mem_cons.mp among with rfl | behind
    · exact stops
    · exact Nat.lt_of_le_of_lt (List.rel_of_pairwise_cons ordered behind) stops

/-- In the current window no more calls are admitted, at whatever times, than the limit says. -/
theorem countP_current (paced : Paced c vs) (since stop : Time) :
    (current vs).countP (Visit.admittedWithin since stop) ≤ c.limit := by
  refine Nat.le_trans (List.countP_mono_left fun v _ within => ?_)
    (paced.limited vs List.suffix_rfl)
  simp only [Visit.admittedWithin, Bool.and_eq_true] at within
  exact within.1.1

/-- Two windows cover a period: what was admitted before them was admitted earlier. -/
theorem countP_before_previous (paced : Paced c vs) {since : Time}
    (ended : ∀ v ∈ vs, v.time < since + c.period) :
    (previous (previous vs)).countP (Visit.admittedWithin since (since + c.period)) = 0 := by
  refine List.countP_eq_zero.mpr fun u among within => ?_
  have more : previous (previous vs) ≠ [] := List.ne_nil_of_mem among
  have some_before : previous vs ≠ [] := fun none => more (by rw [none]; rfl)
  obtain ⟨second, in_window, opens⟩ := Visit.exists_opening some_before
  obtain ⟨first, in_window', opens'⟩ := Visit.exists_opening more
  have spaced := paced.spaced
  rw [← Visit.current_append_previous vs] at spaced ended
  have apart : first.time + c.period ≤ second.time := by
    have first_before : first ∈ previous vs := by
      rw [← Visit.current_append_previous (previous vs)]
      exact List.mem_append_left _ in_window'
    exact (List.pairwise_append.mp spaced).2.2 second in_window first first_before opens opens'
  have ordered := (paced.suffix (Visit.previous_suffix vs)).ordered
  rw [← Visit.current_append_previous (previous vs)] at ordered
  have earlier : u.time ≤ first.time :=
    (List.pairwise_append.mp ordered).2.2 first in_window' u among
  have late := ended second (List.mem_append_left _ in_window)
  simp only [Visit.admittedWithin, Bool.and_eq_true, decide_eq_true_eq] at within
  refine Nat.lt_irrefl second.time ?_
  calc second.time < since + c.period := late
    _ ≤ u.time + c.period := Nat.add_le_add_right within.1.2 _
    _ ≤ first.time + c.period := Nat.add_le_add_right earlier _
    _ ≤ second.time := apart

/-- **No interval as long as a period sees more than twice as many calls admitted as the limit
says**: it touches at most two windows. -/
theorem countP_within (paced : Paced c vs) (since : Time) :
    vs.countP (Visit.admittedWithin since (since + c.period)) ≤ 2 * c.limit := by
  let isLate : Visit → Bool := fun v => decide (since + c.period ≤ v.time)
  let recent := vs.dropWhile isLate
  have paced' : Paced c recent := paced.suffix (List.dropWhile_suffix _)
  have late : (vs.takeWhile isLate).countP
      (Visit.admittedWithin since (since + c.period)) = 0 := by
    refine List.countP_eq_zero.mpr fun v among within => ?_
    have after : isLate v = true := List.mem_takeWhile_imp among
    simp only [Visit.admittedWithin, Bool.and_eq_true, decide_eq_true_eq] at within
    exact Nat.not_le.mpr within.2 (of_decide_eq_true after)
  have window := paced'.countP_current since (since + c.period)
  have window' := (paced'.suffix (Visit.previous_suffix _)).countP_current since (since + c.period)
  have rest := paced'.countP_before_previous (paced.before_of_mem_dropWhile _)
  calc vs.countP (Visit.admittedWithin since (since + c.period))
      = (vs.takeWhile isLate).countP (Visit.admittedWithin since (since + c.period)) +
          recent.countP (Visit.admittedWithin since (since + c.period)) := by
        rw [← List.countP_append, List.takeWhile_append_dropWhile]
    _ = (current recent).countP (Visit.admittedWithin since (since + c.period)) +
          ((current (previous recent)).countP (Visit.admittedWithin since (since + c.period)) +
            (previous (previous recent)).countP
              (Visit.admittedWithin since (since + c.period))) := by
        rw [late, Nat.zero_add, ← List.countP_append, Visit.current_append_previous,
          ← List.countP_append, Visit.current_append_previous]
    _ ≤ 2 * c.limit := by omega

end Paced

namespace LimitConfig

/-- A call at an instant, as the window machine counts and judges it. -/
def visit (c : LimitConfig) (key : String) (now : Time) (found : Option Window) : Visit :=
  ⟨key, now, (c.next now found).count = 1, (c.next now found).count ≤ c.limit⟩

/-- A ban that is no shorter than a period takes nothing away from a window. -/
theorem le_deadline_stretch {c : LimitConfig} (bans : ∀ ban, c.ban = some ban → c.period ≤ ban)
    {t now : Time} {w : Window} (before : t ≤ now) (lasts : t + c.period ≤ w.deadline) :
    t + c.period ≤ (c.stretch now w).deadline := by
  unfold stretch
  cases banned : c.ban with
  | none => exact lasts
  | some ban =>
    dsimp only
    split
    · exact Nat.add_le_add before (bans ban banned)
    · exact lasts

end LimitConfig

/-- The calls of a key up to now and its window: the calls keep to the limit, the window counts the
current ones, and it lasts for a period from its opening at least. -/
structure Kept (c : LimitConfig) (now : Time) (vs : List Visit) (found : Option Window) : Prop where
  paced : Paced c vs
  past : ∀ v ∈ vs, v.time ≤ now
  number : (current vs).length = found.elim 0 Window.count
  lasts : ∀ v ∈ vs, v.opens = true → ∃ w, found = some w ∧ v.time + c.period ≤ w.deadline

namespace Kept

variable {c : LimitConfig} {now : Time} {vs : List Visit} {found : Option Window}

theorem later {t : Time} (h : Kept c now vs found) (hle : now ≤ t) : Kept c t vs found :=
  ⟨h.paced, fun v among => Nat.le_trans (h.past v among) hle, h.number, h.lasts⟩

/-- A call that opens a window. -/
theorem opening (h : Kept c now vs found) (key : String)
    (bans : ∀ ban, c.ban = some ban → c.period ≤ ban)
    (elapsed : ∀ w, found = some w → w.deadline ≤ now) :
    Kept c now (c.visit key now found :: vs) (some (c.next now found)) := by
  have number : (c.next now found).count = 1 := by
    rw [LimitConfig.next, LimitConfig.stretch_count, LimitConfig.enter_of_elapsed elapsed]
  have opens : (c.visit key now found).opens = true := decide_eq_true number
  have alone : current (c.visit key now found :: vs) = [c.visit key now found] := if_pos opens
  have spaced : ∀ u ∈ vs, u.opens = true → u.time + c.period ≤ now := by
    intro u among opened
    obtain ⟨w, kept, lasts⟩ := h.lasts u among opened
    exact Nat.le_trans lasts (elapsed w kept)
  have lasts : now + c.period ≤ (c.next now found).deadline := by
    rw [LimitConfig.next, LimitConfig.enter_of_elapsed elapsed]
    exact LimitConfig.le_deadline_stretch bans (Nat.le_refl _) (Nat.le_refl _)
  refine ⟨h.paced.cons h.past (fun _ => spaced) ?_, ?_, ?_, ?_⟩
  · rw [alone]
    by_cases within : (c.next now found).count ≤ c.limit
    · have some_allowed : 1 ≤ c.limit := number ▸ within
      exact Nat.le_trans List.countP_le_length some_allowed
    · simp [LimitConfig.visit, within]
  · exact List.forall_mem_cons.mpr ⟨Nat.le_refl _, h.past⟩
  · rw [alone]
    exact number.symm
  · refine List.forall_mem_cons.mpr ⟨fun _ => ⟨_, rfl, lasts⟩, fun u among opened => ⟨_, rfl, ?_⟩⟩
    exact Nat.le_trans (spaced u among opened) (Nat.le_trans (Nat.le_add_right _ _) lasts)

/-- A call that joins the window there is. -/
theorem joining {w : Window} (h : Kept c now vs (some w)) (key : String)
    (bans : ∀ ban, c.ban = some ban → c.period ≤ ban) (goes_on : now < w.deadline) :
    Kept c now (c.visit key now (some w) :: vs) (some (c.next now (some w))) := by
  have entered := c.enter_of_lasting goes_on
  have number : (c.next now (some w)).count = w.count + 1 := by
    rw [LimitConfig.next, LimitConfig.stretch_count, entered]
  have joins : ¬ (c.visit key now (some w)).opens = true := by
    have := w.counted
    simp only [LimitConfig.visit, number, decide_eq_true_eq]
    omega
  have among_others : current (c.visit key now (some w) :: vs) =
      c.visit key now (some w) :: current vs := if_neg joins
  have length : (current vs).length = w.count := h.number
  refine ⟨h.paced.cons h.past (fun opens => absurd opens joins) ?_, ?_, ?_, ?_⟩
  · rw [among_others]
    -- within the limit the window holds no more calls than that, and over it none is admitted
    by_cases within : (c.next now (some w)).count ≤ c.limit
    · refine Nat.le_trans List.countP_le_length ?_
      rw [List.length_cons, length, ← number]
      exact within
    · rw [List.countP_cons_of_neg (by simp [LimitConfig.visit, within])]
      exact h.paced.limited vs List.suffix_rfl
  · exact List.forall_mem_cons.mpr ⟨Nat.le_refl _, h.past⟩
  · rw [among_others, List.length_cons, length]
    exact number.symm
  · refine List.forall_mem_cons.mpr ⟨fun opens => absurd opens joins, fun u among opened => ?_⟩
    obtain ⟨w', same, lasts⟩ := h.lasts u among opened
    obtain rfl := Option.some.inj same
    refine ⟨_, rfl, ?_⟩
    rw [LimitConfig.next, entered]
    exact LimitConfig.le_deadline_stretch bans (h.past u among) lasts

/-- Every call keeps to the limit. -/
theorem visit (h : Kept c now vs found) (key : String)
    (bans : ∀ ban, c.ban = some ban → c.period ≤ ban) :
    Kept c now (c.visit key now found :: vs) (some (c.next now found)) := by
  by_cases goes_on : ∃ w, found = some w ∧ now < w.deadline
  · obtain ⟨w, rfl, lasts⟩ := goes_on
    exact h.joining key bans lasts
  · refine h.opening key bans fun w kept => ?_
    exact Nat.not_lt.mp fun lasts => goes_on ⟨w, kept, lasts⟩

end Kept

namespace Limiter

variable {σ ε α : Type} {l : Limiter} {args : CallArgs} {s : Site σ} {ws : Windows}
  {log : List Visit}

/-- What a call adds to the log: nothing, if it has no key. -/
def visits (l : Limiter) (args : CallArgs) (op : Site σ → Except ε α × Site σ) (s : Site σ) :
    List Visit :=
  match l.key args with
  | .error _ => []
  | .ok key => [⟨key, s.now, (l.count key s.now s.backend).1 = .ok 1,
      (l.call .reject args op s).1.ran⟩]

/-- A run of a limiter that refuses what is over the limit, with the log of its calls, the latest
first. -/
inductive Logged (l : Limiter) : Site σ → Windows → List Visit → Prop
  | fresh {s : Site σ} : s.backend = .empty → Logged l s .none []
  | quiet {s s' : Site σ} {ws : Windows} {log : List Visit} : Logged l s ws log → s.Quiet s' →
      Logged l s' ws log
  | call {s : Site σ} {ws : Windows} {log : List Visit} {ε α : Type} (args : CallArgs)
      (op : Site σ → Except ε α × Site σ) : Logged l s ws log → l.Countable args s.now ws →
      (∀ before : Site σ, before.Quiet (op before).2) →
      Logged l (l.call .reject args op s).2 (l.counted args s.now ws) (l.visits args op s ++ log)

theorem Logged.run (logged : l.Logged s ws log) : l.Run .reject s ws := by
  induction logged with
  | fresh empty => exact .fresh empty
  | quiet _ quiet ih => exact ih.quiet quiet
  | call args op _ countable quiet ih => exact .call args op ih countable quiet

/-- A limiter that refuses what is over the limit runs the operation of a call exactly if the call
is within it. -/
theorem ran_ofRuling (c : LimitConfig) (key : String) (args : CallArgs) (count : Nat) (own : σ)
    (op : Site σ → Except ε α × Site σ) (s : Site σ) :
    (Outcome.ofRuling (c.ruling .reject key args count own).1 op s).1.ran =
      decide (count ≤ c.limit) := by
  unfold LimitConfig.ruling
  by_cases within : count ≤ c.limit
  · rw [if_pos within]
    exact (decide_eq_true within).symm
  · rw [if_neg within]
    exact (decide_eq_false within).symm

/-- What is logged of a call is what the window machine says. -/
theorem visits_of_key {key : String} (accepted : l.config.flaw? = none)
    (h : s.backend.Mirrors s.now ws.plain) (fits : ∀ w, ws key = some w → w.count < Word.signedEnd)
    (has_key : l.key args = .ok key) (op : Site σ → Except ε α × Site σ) :
    l.visits args op s = [l.config.visit key s.now (ws key)] := by
  obtain ⟨_, counted, -⟩ := count_eq_next accepted h fits
  obtain ⟨_, _, -, concluded⟩ := call_of_key .reject accepted h fits has_key op
  unfold visits LimitConfig.visit
  rw [has_key]
  dsimp only
  rw [counted, concluded, ran_ofRuling]
  simp only [Except.ok.injEq, Nat.cast_eq_one]

/-- In a run, the calls of every key keep to the limit. -/
theorem Logged.kept (accepted : l.config.flaw? = none)
    (bans : ∀ ban, l.config.ban = some ban → l.config.period ≤ ban)
    (logged : l.Logged s ws log) (key : String) :
    Kept l.config s.now (Visit.ofKey key log) (ws key) := by
  induction logged with
  | fresh => exact ⟨.nil _, fun _ among => (by cases among), rfl, fun _ among => (by cases among)⟩
  | quiet _ quiet ih => exact ih.later quiet.now_le
  | @call s ws log _ _ args op logged countable quiet ih =>
    obtain ⟨mirrors, words⟩ := logged.run.invariant accepted
    cases has_key : l.key args with
    | error e =>
      have unlogged : l.visits args op s = [] := by rw [visits, has_key]
      rw [unlogged, call_of_key_error has_key, counted_of_key_error has_key]
      exact ih
    | ok bound =>
      rw [visits_of_key accepted mirrors (words bound) has_key, counted_of_key has_key,
        Windows.set_apply]
      obtain ⟨_, _, -, concluded⟩ :=
        call_of_key .reject accepted mirrors (words bound) has_key op
      have clock : s.now ≤ (l.call .reject args op s).2.now := by
        rw [concluded]
        refine Nat.le_trans ?_ (Outcome.quiet_ofRuling quiet _ _).now_le
        exact Nat.le_refl s.now
      by_cases same : key = bound
      · subst same
        have own : (l.config.visit key s.now (ws key)).key = key := rfl
        rw [if_pos rfl, List.singleton_append, Visit.ofKey_cons_self own]
        exact (ih.visit key bans).later clock
      · have other : (l.config.visit bound s.now (ws bound)).key ≠ key := Ne.symm same
        rw [if_neg same, List.singleton_append, Visit.ofKey_cons_of_ne other]
        exact ih.later clock

/-- **A limiter's bound on admissions.** Take any run of a limiter that refuses what is over the
limit and whose bans are no shorter than its period, and any key. In any interval as long as the
period at most twice as many of its calls are admitted as the limit says. From a call that opens a
window of the key to the next one that does, at least the period elapses and at most as many are
admitted as the limit says. -/
theorem admissions_bounded (accepted : l.config.flaw? = none)
    (bans : ∀ ban, l.config.ban = some ban → l.config.period ≤ ban)
    (logged : l.Logged s ws log) (key : String) :
    (∀ since, (Visit.ofKey key log).countP
        (Visit.admittedWithin since (since + l.config.period)) ≤ 2 * l.config.limit) ∧
      ∀ (later between earlier : List Visit) (second first : Visit),
        Visit.ofKey key log = later ++ second :: (between ++ first :: earlier) →
        first.opens = true → (∀ v ∈ between, v.opens = false) → second.opens = true →
        (between ++ [first]).countP Visit.admitted ≤ l.config.limit ∧
          first.time + l.config.period ≤ second.time := by
  have paced := (logged.kept accepted bans key).paced
  refine ⟨paced.countP_within, ?_⟩
  intro later between earlier second first split opens join opens'
  constructor
  · have suffix : between ++ first :: earlier <:+ Visit.ofKey key log :=
      ⟨later ++ [second], by rw [split]; simp⟩
    rw [← Visit.current_of_opening opens join]
    exact paced.limited _ suffix
  · have spaced := paced.spaced
    rw [split] at spaced
    have behind := (List.pairwise_append.mp spaced).2.1
    exact List.rel_of_pairwise_cons behind (by simp) opens' opens

/-- With one call in two units of time, the second of three calls is refused, and the third one
opens the next window. -/
theorem third_call_in_next_window :
    let template : Template := ⟨"m:tick", [.literal "m:tick"], by decide +kernel⟩
    let l : Limiter := ⟨⟨⟨"m", "tick"⟩, []⟩, .ofFunctions [], template, .per 1 2⟩
    let op : Site Unit → Except Unit Unit × Site Unit := fun s => (.ok (), s.pass 1)
    let once := (l.call .reject ⟨[], []⟩ op (.start ())).2
    let twice := ((l.call .reject ⟨[], []⟩ op once).2).pass 1
    let first : Visit := ⟨"m:tick", 0, true, true⟩
    let refused : Visit := ⟨"m:tick", 1, false, false⟩
    let second : Visit := ⟨"m:tick", 2, true, true⟩
    l.visits ⟨[], []⟩ op twice ++ (l.visits ⟨[], []⟩ op once ++ l.visits ⟨[], []⟩ op (.start ())) =
        [second, refused, first] ∧
      [second, refused, first].countP (Visit.admittedWithin 0 2) ≤ 2 ∧
      [refused, first].countP Visit.admitted ≤ 1 ∧ first.time + 2 ≤ second.time := by
  intro template l op once twice first refused second
  have quiet : ∀ s : Site Unit, s.Quiet (op s).2 := fun s => .beside rfl (Nat.le_add_right _ _)
  have has_key : l.key ⟨[], []⟩ = .ok "m:tick" := by decide +kernel
  have fits : ∀ (now : Time) (ws : Windows),
      (l.config.next now (ws "m:tick")).count < Word.signedEnd → l.Countable ⟨[], []⟩ now ws := by
    intro now ws word key found
    cases has_key.symm.trans found
    exact word
  have start : l.Logged (Site.start ()) .none [] := .fresh rfl
  have logged := start.call ⟨[], []⟩ op (fits _ _ (by decide +kernel)) quiet
  have logged := logged.call ⟨[], []⟩ op (fits _ _ (by decide +kernel)) quiet
  have passed : (l.call .reject ⟨[], []⟩ op once).2.Quiet twice :=
    .beside rfl (Nat.le_add_right _ _)
  have logged := (logged.quiet passed).call ⟨[], []⟩ op (fits _ _ (by decide +kernel)) quiet
  have entries : l.visits ⟨[], []⟩ op twice ++
      (l.visits ⟨[], []⟩ op once ++ l.visits ⟨[], []⟩ op (.start ())) =
        [second, refused, first] := by decide +kernel
  have of_key : Visit.ofKey "m:tick" [second, refused, first] = [second, refused, first] := by
    decide
  rw [List.append_nil, entries] at logged
  obtain ⟨within, windows⟩ :=
    admissions_bounded (by decide) (fun _ ban => by cases ban) logged "m:tick"
  rw [of_key] at within windows
  have joins : ∀ v ∈ [refused], v.opens = false := by decide
  exact ⟨entries, within 0, windows [] [refused] [] second first rfl rfl joins rfl⟩

end Limiter
end Latchkey
