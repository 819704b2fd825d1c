import Latchkey.Proofs.Limiter.Interleaving
import Latchkey.Proofs.Limiter.Refinement

/-!
Raising a counter and starting its window are two accesses to the backend, and the second one can
fail. `admitted_unless_stranded`: when no call is being counted, a counter has no deadline exactly
if that has happened to it and no later stage has set one; otherwise the next call goes on once the
longest time has passed. `refused_for_good`: without bans, a counter that has missed its deadline
stays, and a limiter that refuses calls over the limit lets none through ever after.
-/

namespace Latchkey

/-- There is something under the key, and nothing is told to be left of it, when it is read with
every access working. -/
def Backend.Undated (b : Backend) (now : Time) (key : String) : Prop :=
  (∃ v, (b.up.get now key).1 = .ok (some v)) ∧ (b.up.getExpire now key).1 = .ok none

theorem Backend.undated_iff {b : Backend} {now : Time} {m : Plain} (h : b.store.Agrees now m)
    (key : String) : b.Undated now key ↔ ∃ e, m key = some e ∧ e.deadline = none := by
  unfold Undated
  rw [((mirrors_up h).get key).1, ((mirrors_up h).getExpire key).1]
  unfold Plain.get Plain.remaining
  constructor
  · rintro ⟨⟨v, told⟩, left⟩
    cases alive : m.live now key with
    | none =>
      rw [alive] at told
      cases told
    | some e =>
      rw [alive] at left
      refine ⟨e, Plain.of_live alive, ?_⟩
      simpa using left
  · rintro ⟨e, found, undated⟩
    rw [Plain.live_of_bare found undated now]
    exact ⟨⟨e.value, rfl⟩, by simp [undated]⟩

/-- How many stages are still ahead of a call at most. -/
def Counting.ahead : Counting → Nat
  | .arrived => 3
  | .opening _ => 2
  | .banning _ => 1
  | .counted _ | .failed _ => 0

theorem Counting.settled_iff (stage : Counting) : stage.settled ↔ stage.ahead = 0 := by
  cases stage <;> simp [settled, ahead]

namespace Limiter

variable {l : Limiter} {key : String} {w w' : Traffic} {m : Plain}

/-- Some stages of one of the calls at one instant. -/
theorem Course.advanceBy (n : Nat) {w : Traffic} {before after : List Counting} {stage : Counting}
    (course : l.Course key w) (calls : w.calls = before ++ stage :: after) :
    ∃ log, l.Course key
      { w with
        backend := (l.advanceBy key w.now n stage w.backend).2
        calls := before ++ (l.advanceBy key w.now n stage w.backend).1 :: after
        log := log } := by
  induction n generalizing w stage with
  | zero => exact ⟨w.log, calls ▸ course⟩
  | succ n ih =>
    exact ih (course.move (.advance w before after stage calls)) rfl

theorem ahead_afterOpening (l : Limiter) (count : Int) : (l.afterOpening count).ahead ≤ 1 := by
  rcases l.afterOpening_cases count with ban | done
  · rw [ban]
    exact Nat.le_refl _
  · rw [done]
    exact Nat.zero_le _

/-- Every stage brings a call nearer to its end. -/
theorem ahead_advance (l : Limiter) (key : String) (now : Time) (stage : Counting) (b : Backend) :
    (l.advance key now stage b).1.ahead ≤ stage.ahead - 1 := by
  cases stage with
  | arrived =>
    unfold advance
    obtain ⟨answer, after⟩ := b.incr now key
    cases answer with
    | error e => exact Nat.zero_le _
    | ok count =>
      dsimp only
      unfold afterRaise
      split
      · exact Nat.le_refl _
      · exact Nat.le_succ_of_le (l.ahead_afterOpening count)
  | opening count =>
    unfold advance
    obtain ⟨answer, after⟩ := b.expire now key l.config.period
    cases answer with
    | error e => exact Nat.zero_le _
    | ok => exact l.ahead_afterOpening count
  | banning count =>
    unfold advance
    obtain ⟨answer, after⟩ := b.expire now key (l.config.ban.getD 0)
    cases answer <;> exact Nat.zero_le _
  | counted | failed => exact Nat.zero_le _

theorem ahead_advanceBy (l : Limiter) (key : String) (n : Nat) (now : Time) (stage : Counting)
    (b : Backend) :
    (l.advanceBy key now n stage b).1.ahead ≤ stage.ahead - n := by
  induction n generalizing stage b with
  | zero => exact Nat.le_refl _
  | succ n ih =>
    have nearer := l.ahead_advance key now stage b
    have rest := ih (l.advance key now stage b).1 (l.advance key now stage b).2
    rw [advanceBy_succ]
    omega

theorem count_backend (l : Limiter) (key : String) (now : Time) (b : Backend) :
    (l.count key now b).2 = (l.advanceBy key now 3 .arrived b).2 := by
  unfold Limiter.count
  split <;> simp_all

/-- A call that is counted all at once continues a course. -/
theorem Course.count (course : l.Course key w) :
    ∃ log, l.Course key { w with backend := (l.count key w.now w.backend).2, log := log } := by
  have arrived : l.Course key { w with calls := [] ++ .arrived :: w.calls } :=
    course.move (.arrive w)
  obtain ⟨log, counted⟩ := arrived.advanceBy 3 rfl
  have settled := (Counting.settled_iff _).mpr
    (Nat.le_zero.mp (l.ahead_advanceBy key 3 w.now .arrived w.backend))
  rw [count_backend]
  exact ⟨log, counted.move (.leave _ [] w.calls _ rfl settled)⟩

/-! ## A counter that stays -/

theorem advance_settled {stage : Counting} (settled : stage.settled) (now : Time) (b : Backend) :
    l.advance key now stage b = (stage, b) := by
  cases stage with
  | counted | failed => rfl
  | arrived | opening | banning => cases settled

theorem advanceBy_settled {stage : Counting} (settled : stage.settled) (now : Time) (n : Nat)
    (b : Backend) : l.advanceBy key now n stage b = (stage, b) := by
  induction n with
  | zero => rfl
  | succ n ih => rw [advanceBy_succ, advance_settled settled, ih]

/-- A counter without a deadline, of so many calls at least, that no call is about to give one. -/
structure Stuck (key : String) (least : Nat) (w : Traffic) (m : Plain) : Prop where
  agrees : w.backend.store.Agrees w.now m
  held : ∃ n : Nat, least ≤ n ∧ 0 < n ∧ m key = some ⟨.int n, none⟩
  pending : ∀ stage ∈ w.calls, stage.settled ∨ stage = .arrived

/-- A counter without a deadline is raised and no more, unless the access fails. -/
theorem stage_of_held {now : Time} {n : Nat} {stage : Counting} {m' : Plain}
    (noBan : l.config.ban = none) (positive : 0 < n) (found : m key = some ⟨.int n, none⟩)
    (came : l.Stage key now m .arrived stage m') :
    (stage = .counted (n + 1) ∧ m' key = some ⟨.int (n + 1), none⟩) ∨
      (∃ e, stage = .failed e) ∧ m' = m := by
  cases came with
  | failed _ e => exact .inr ⟨⟨e, rfl⟩, rfl⟩
  | rests settled => cases settled
  | raised raised =>
    have alive := Plain.live_of_bare found rfl now
    rcases Plain.incr_some raised with ⟨free, _⟩ | ⟨k, deadline, held, rfl, rfl⟩
    · cases alive.symm.trans free
    · cases alive.symm.trans held
      have more : ¬ ((n : Int) + 1 = 1) := by omega
      refine .inl ⟨?_, Plain.put_self _⟩
      unfold afterRaise afterOpening
      rw [if_neg more, noBan]
      rfl

theorem Move.stuck {least : Nat} (noBan : l.config.ban = none) (move : l.Move key w w')
    (stuck : Stuck key least w m) : ∃ m', Stuck key least w' m' := by
  obtain ⟨agrees, ⟨n, enough, positive, found⟩, pending⟩ := stuck
  cases move with
  | around around =>
    obtain ⟨calls, _, _, m', agrees', same⟩ := around.keeps agrees
    exact ⟨m', agrees', ⟨n, enough, positive, same ▸ found⟩, calls ▸ pending⟩
  | arrive =>
    refine ⟨m, agrees, ⟨n, enough, positive, found⟩, fun stage there => ?_⟩
    rcases List.mem_cons.mp there with rfl | old
    · exact .inr rfl
    · exact pending stage old
  | leave before after stage calls settled =>
    refine ⟨m, agrees, ⟨n, enough, positive, found⟩, fun other there => pending other ?_⟩
    rw [calls]
    exact List.mem_append.mpr ((List.mem_append.mp there).imp_right (List.mem_cons_of_mem _))
  | advance before after stage calls =>
    obtain ⟨m', agrees', came⟩ := l.advance_stage key agrees stage
    have still : ∀ stage', stage'.settled → ∀ other ∈ before ++ stage' :: after,
        other.settled ∨ other = .arrived := by
      intro stage' settled other there
      rw [List.mem_append, List.mem_cons] at there
      rcases there with front | rfl | back
      · exact pending other (calls ▸ List.mem_append_left _ front)
      · exact .inl settled
      · exact pending other (calls ▸ List.mem_append_right _ (List.mem_cons_of_mem _ back))
    rcases pending stage (calls ▸ List.mem_append_right _ List.mem_cons_self) with settled | rfl
    · rw [advance_settled settled]
      exact ⟨m, agrees, ⟨n, enough, positive, found⟩, still stage settled⟩
    · rcases stage_of_held noBan positive found came with ⟨counted, raised⟩ | ⟨⟨e, failed⟩, rfl⟩
      · refine ⟨m', agrees', ⟨n + 1, by omega, by omega, raised⟩, ?_⟩
        rw [counted]
        exact still _ rfl
      · refine ⟨m', agrees', ⟨n, enough, positive, found⟩, ?_⟩
        rw [failed]
        exact still _ rfl

/-- A call of a counter without a deadline fails, or it has a greater number than those before. -/
theorem count_of_held {now : Time} {b : Backend} {n : Nat} (noBan : l.config.ban = none)
    (h : b.store.Agrees now m) (positive : 0 < n) (found : m key = some ⟨.int n, none⟩) :
    (∃ e after, l.count key now b = (.error e, after)) ∨
      ∃ after, l.count key now b = (.ok ((n + 1 : Nat) : Int), after) := by
  obtain ⟨m', _, came⟩ := l.advance_stage key h .arrived
  have stages : l.advanceBy key now 3 .arrived b = _ := advanceBy_succ 2 .arrived b
  generalize l.advance key now .arrived b = next at came stages
  obtain ⟨stage, after⟩ := next
  rcases stage_of_held noBan positive found came with ⟨rfl, _⟩ | ⟨⟨e, rfl⟩, _⟩
  · exact .inr ⟨after, count_of_advanceBy stages⟩
  · refine .inl ⟨e, after, ?_⟩
    unfold Limiter.count
    rw [stages]
    rfl

/-- **Without bans, a counter that has missed its deadline stays.** If it has reached the limit by
then, no call with its key is ever let through again by an action that refuses, whatever goes on and
whether accesses fail or not. -/
theorem refused_for_good (course : l.Course key w) (quiet : ∀ stage ∈ w.calls, stage.settled)
    (missed : w.backend.Undated w.now key) (noBan : l.config.ban = none) :
    ∃ n : Nat, (w.backend.up.get w.now key).1 = .ok (some (.int n)) ∧
      ∀ w', Relation.ReflTransGen (l.Move key) w w' →
        w'.backend.Undated w'.now key ∧
        (l.config.limit ≤ n →
          ∀ {σ ε α : Type} (action : LimitAction σ) (args : CallArgs)
            (op : Site σ → Except ε α × Site σ) (s : Site σ),
            (∀ own, ∃ e, (action.decide key args own).1 = .error e) →
            l.key args = .ok key → s.now = w'.now → s.backend = w'.backend →
            (l.call action args op s).1.ran = false) := by
  obtain ⟨m, tended⟩ := course.tended
  obtain ⟨e, found, undated⟩ := (Backend.undated_iff tended.agrees key).mp missed
  obtain ⟨n, positive, value⟩ := tended.counter e found
  obtain ⟨_, _⟩ := e
  cases value
  cases undated
  refine ⟨n, ?_, fun w' moves => ?_⟩
  · rw [((Backend.mirrors_up tended.agrees).get key).1, Plain.get, Plain.live_of_bare found rfl]
    rfl
  have stuck : ∃ m', Stuck key n w' m' := by
    induction moves with
    | refl =>
      exact ⟨m, tended.agrees, ⟨n, Nat.le_refl n, positive, found⟩,
        fun stage there => .inl (quiet stage there)⟩
    | tail _ move ih =>
      obtain ⟨m', stuck⟩ := ih
      exact move.stuck noBan stuck
  obtain ⟨m', agrees, ⟨k, enough, positive', found'⟩, _⟩ := stuck
  refine ⟨(Backend.undated_iff agrees key).mpr ⟨_, found', rfl⟩, ?_⟩
  intro reached σ ε α action args op s refuses has_key clock same
  rw [← clock, ← same] at agrees
  rcases count_of_held noBan agrees positive' found' with ⟨e, after, failed⟩ | ⟨after, counted⟩
  · obtain ⟨events, concluded⟩ := call_of_count_error action failed has_key op
    rw [concluded]
  · obtain ⟨events, concluded⟩ := call_of_count action counted has_key op
    obtain ⟨e, refused⟩ := refuses s.own
    have exceeded : ¬ k + 1 ≤ l.config.limit := by omega
    rw [concluded, LimitConfig.ruling, if_neg exceeded, refused]
    rfl

/-- Where no counter exists, a call that finds every access working is the first of a window. -/
theorem count_of_ended {now : Time} {b : Backend} (h : b.Mirrors now m)
    (ended : m.live now key = none) (allowed : 1 ≤ l.config.limit) :
    ∃ after, l.count key now b = (.ok ((1 : Nat) : Int), after) := by
  obtain ⟨raised, counted⟩ := h.incr key
  have first : m.incr now key = (some 1, m.put key ⟨.int 1, none⟩) := by
    rw [Plain.incr, ended]
  rw [first] at raised counted
  obtain ⟨opened, _⟩ := counted.expire key l.config.period
  have within : l.afterOpening 1 = .counted 1 := by
    have notBanned : ¬ ((1 : Int) = (l.config.limit : Int) + 1) := by omega
    exact if_neg fun both => notBanned both.2
  refine ⟨((b.incr now key).2.expire now key l.config.period).2, count_of_advanceBy ?_⟩
  calc l.advanceBy key now 3 .arrived b
      = l.advanceBy key now 2 (.opening 1) (b.incr now key).2 := by
        rw [advanceBy_succ, advance_arrived raised, afterRaise, if_pos rfl]
    _ = l.advanceBy key now 1 (.counted 1) _ := by
        rw [advanceBy_succ, advance_opening opened, within]
    _ = (.counted 1, _) := advanceBy_counted 1 1 _

theorem Tended.waits (tended : l.Tended key w m)
    (wait : Relation.ReflTransGen (Traffic.Around key) w w') :
    ∃ m', l.Tended key w' m' ∧ m' key = m key := by
  induction wait with
  | refl => exact ⟨m, tended, rfl⟩
  | tail _ around ih =>
    obtain ⟨m₁, tended₁, same₁⟩ := ih
    obtain ⟨m₂, tended₂, same₂⟩ := tended₁.around around
    exact ⟨m₂, tended₂, same₂.trans same₁⟩

/-- A counter with a deadline does not exist any more once the longest time has passed. -/
theorem Tended.ended (tended : l.Tended key w m) (dated : ¬ Bare w.log) {t : Time}
    (elapsed : w.now + l.config.reach ≤ t) : m.live t key = none := by
  cases alive : m.live t key with
  | none => rfl
  | some e =>
    obtain ⟨found, lives⟩ := Option.filter_eq_some_iff.mp alive
    cases due : e.deadline with
    | none => exact absurd (tended.bare.mp ⟨e, found, due⟩) dated
    | some deadline =>
      have soon : deadline ≤ w.now + l.config.reach := tended.within e deadline found due
      have later : t < deadline := Entry.lives_iff.mp lives deadline due
      exact absurd later (Nat.not_lt.mpr (Nat.le_trans soon elapsed))

theorem Tended.stranded_iff (tended : l.Tended key w m)
    (quiet : ∀ stage ∈ w.calls, stage.settled) : Bare w.log ↔ Stranded w.log := by
  refine ⟨fun bare => ?_, Stranded.bare⟩
  rcases tended.opener bare with stranded | ⟨n, there⟩
  · exact stranded
  · cases quiet _ there

/-! ## One call in every three units of time -/

namespace Once

def limiter : Limiter :=
  ⟨⟨⟨"m", "once"⟩, []⟩, .ofFunctions [], ⟨"m:once", [.literal "m:once"], by decide +kernel⟩,
    .per 1 3⟩

def op : Site Unit → Except Unit Unit × Site Unit := fun s => (.ok (), s)

def call (s : Site Unit) : Outcome Unit Unit × Site Unit := limiter.call .reject ⟨[], []⟩ op s

/-- A site at which these accesses fail. -/
def failing (down : List Op) (s : Site Unit) : Site Unit :=
  { s with backend := ⟨s.backend.store, down⟩ }

theorem has_key : limiter.key ⟨[], []⟩ = .ok "m:once" := by decide +kernel

end Once

/-- **A counter that has a deadline bans nobody for ever.** Whatever accesses fail in a course and
however its calls overlap: when no call is being counted, the counter of the key has no deadline
exactly if the window of the last one created was not started because that access failed, and no
stage has set its deadline since. If it is not so, then once accesses fail no more and the longest
time has passed, with others using the backend meanwhile, the next call goes on. -/
theorem admitted_unless_stranded (course : l.Course key w)
    (quiet : ∀ stage ∈ w.calls, stage.settled) :
    (w.backend.Undated w.now key ↔ Stranded w.log) ∧
      (¬ Stranded w.log → 1 ≤ l.config.limit →
        ∀ w', Relation.ReflTransGen (Traffic.Around key) w w' →
          w.now + l.config.reach ≤ w'.now →
          ∀ {σ ε α : Type} (action : LimitAction σ) (args : CallArgs)
            (op : Site σ → Except ε α × Site σ) (s : Site σ),
            l.key args = .ok key → s.now = w'.now → s.backend = w'.backend.up →
            ∃ backend events, l.call action args op s =
              Outcome.ofRuling (.ok ()) op { s with backend, events }) := by
  obtain ⟨m, tended⟩ := course.tended
  have missed := tended.stranded_iff quiet
  constructor
  · rw [Backend.undated_iff tended.agrees, ← missed]
    exact tended.bare
  · intro safe allowed w' wait elapsed σ ε α action args op s has_key clock same
    obtain ⟨m', tended', kept⟩ := tended.waits wait
    have ended : m'.live w'.now key = none := by
      unfold Plain.live
      rw [kept]
      exact tended.ended (fun bare => safe (missed.mp bare)) elapsed
    obtain ⟨backend, counted⟩ := count_of_ended (Backend.mirrors_up tended'.agrees) ended allowed
    rw [← clock, ← same] at counted
    obtain ⟨events, concluded⟩ := call_of_count action counted has_key op
    rw [LimitConfig.ruling, if_pos allowed] at concluded
    exact ⟨backend, events, concluded⟩

/-- The first call fails before it is counted; the second one starts the window, and once that is
over the third one goes on. -/
theorem third_call_admitted :
    let first := Once.call (Once.failing [.incr] (.start ()))
    let second := Once.call (Once.failing [] first.2)
    let third := Once.call (second.2.pass 3)
    first.1 = ⟨false, .error (.policy (.backend (.down .incr)))⟩ ∧
      second.1 = ⟨true, .ok ()⟩ ∧ ¬ second.2.backend.Undated 0 "m:once" ∧
      third.1 = ⟨true, .ok ()⟩ := by
  intro first second third
  let store : Store := ⟨[("m:once", ⟨.int 1, some 3⟩)], [(3, "m:once")]⟩
  have failed : Once.limiter.Course "m:once" ⟨0, ⟨.empty, [.incr]⟩, [.failed (.down .incr)],
      [(.arrived, .failed (.down .incr))]⟩ :=
    (Course.move ⟨0, [.incr], .refl⟩ (.arrive _)).move (.advance _ [] [] .arrived rfl)
  have again : Once.limiter.Course "m:once" ⟨0, ⟨.empty, []⟩, [.arrived, .failed (.down .incr)],
      [(.arrived, .failed (.down .incr))]⟩ :=
    (failed.move (.around (.fail _ []))).move (.arrive _)
  have counted : Once.limiter.Course "m:once" ⟨0, ⟨store, []⟩, [.counted 1, .failed (.down .incr)],
      [(.opening 1, .counted 1), (.arrived, .opening 1), (.arrived, .failed (.down .incr))]⟩ :=
    (again.move (.advance _ [] [.failed (.down .incr)] .arrived rfl)).move
      (.advance _ [] [.failed (.down .incr)] (.opening 1) rfl)
  obtain ⟨dated, goes⟩ := admitted_unless_stranded counted (by simp [Counting.settled])
  -- the calls themselves, each of them counted at once
  have uncounted : Once.limiter.count "m:once" 0 ⟨.empty, [.incr]⟩ =
      (.error (.down .incr), ⟨.empty, [.incr]⟩) := rfl
  have opening : Once.limiter.count "m:once" 0 .empty = (.ok ((1 : Nat) : Int), ⟨store, []⟩) := rfl
  obtain ⟨events, first_failed⟩ := call_of_count_error
    (s := Once.failing [.incr] (.start ())) .reject uncounted Once.has_key Once.op
  change first = _ at first_failed
  obtain ⟨events', second_counted⟩ := call_of_count
    (s := { Site.start () with events }) .reject opening Once.has_key Once.op
  have second_run : second = Once.call { Site.start () with events } := by
    change Once.call (Once.failing [] first.2) = _
    rw [first_failed]
    rfl
  rw [← Once.call, ← second_run] at second_counted
  obtain ⟨backend, events'', third_counted⟩ :=
    goes (fun stranded => bare_cons_of_dates rfl stranded.bare) (Nat.le_refl 1) _
      (.single (.pass _ 3)) (Nat.le_refl 3) .reject ⟨[], []⟩ Once.op (second.2.pass 3) Once.has_key
      (by rw [second_counted]; rfl) (by rw [second_counted]; rfl)
  refine ⟨congrArg Prod.fst first_failed, congrArg Prod.fst second_counted, ?_,
    congrArg Prod.fst third_counted⟩
  rw [second_counted]
  exact fun undated => bare_cons_of_dates rfl (dated.mp undated).bare

/-- The first call is counted, but its window cannot be started: when accesses work again, no call
is let through any more, however long one waits. -/
theorem unstarted_window_refuses :
    let first := Once.call (Once.failing [.expire] (.start ()))
    let mended := Once.failing [] first.2
    Once.limiter.config.flaw? = none ∧
      first.1 = ⟨false, .error (.policy (.backend (.down .expire)))⟩ ∧
      mended.backend.Undated mended.now "m:once" ∧
      ∀ d, (Once.call (mended.pass d)).1.ran = false := by
  intro first mended
  let store : Store := ⟨[("m:once", ⟨.int 1, none⟩)], []⟩
  have uncounted : Once.limiter.count "m:once" 0 ⟨.empty, [.expire]⟩ =
      (.error (.down .expire), ⟨store, [.expire]⟩) := rfl
  obtain ⟨events, first_failed⟩ := call_of_count_error
    (s := Once.failing [.expire] (.start ())) .reject uncounted Once.has_key Once.op
  change first = _ at first_failed
  have same : mended = { Site.start () with backend := ⟨store, []⟩, events } := by
    change Once.failing [] first.2 = _
    rw [first_failed]
    rfl
  have missed : Once.limiter.Course "m:once" ⟨0, ⟨store, []⟩, [.failed (.down .expire)],
      [(.opening 1, .failed (.down .expire)), (.arrived, .opening 1)]⟩ :=
    (((Course.move ⟨0, [.expire], .refl⟩ (.arrive _)).move (.advance _ [] [] .arrived rfl)).move
      (.advance _ [] [] (.opening 1) rfl)).move (.around (.fail _ []))
  have undated : Backend.Undated ⟨store, []⟩ 0 "m:once" := ⟨⟨.int 1, rfl⟩, rfl⟩
  obtain ⟨n, told, stays⟩ := refused_for_good missed (by simp [Counting.settled]) undated rfl
  have reached : 1 ≤ n := by
    change (.ok (some (.int 1)) : Except BackendError (Option Json)) = _ at told
    simp only [Except.ok.injEq, Option.some.injEq, Json.int.injEq] at told
    omega
  refine ⟨by decide, congrArg Prod.fst first_failed, same ▸ undated, fun d => ?_⟩
  obtain ⟨-, refuses⟩ := stays _ (.single (.around (.pass _ d)))
  exact refuses reached .reject ⟨[], []⟩ Once.op (mended.pass d) (fun _ => ⟨_, rfl⟩) Once.has_key
    (by rw [same]; rfl) (by rw [same]; rfl)

end Limiter
end Latchkey
