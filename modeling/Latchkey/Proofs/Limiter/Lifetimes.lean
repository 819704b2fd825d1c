import Mathlib.Data.List.Perm.Subperm
import Latchkey.Proofs.Limiter.Faults

/-!
Calls of a limiter with one key, as many as there may be, on a backend whose accesses all work. Each
call is counted by one access after the other and is then decided on, and between any two accesses
time may pass, other calls may have theirs, and others may use the backend under other keys. A
raise that finds no counter begins a lifetime of it, which ends when the counter expires.
`lifetime_counts`: the raises of a lifetime return 1, 2, 3 and so on, and at most as many of its
calls are let through as the limit says.
-/

namespace Latchkey

/-- The number that a call was given when it raised the counter. -/
def Counting.number? : Counting → Option Int
  | .opening n | .banning n | .counted n => some n
  | .arrived | .failed _ => none

/-- One of the calls. -/
structure Caller where
  stage : Counting
  /-- Whether it was let through, once that is decided. -/
  admitted : Option Bool

/-- A call raised the counter. -/
structure Raise where
  caller : Nat
  /-- The lifetime of the counter that it fell into. -/
  life : Nat
  number : Int
deriving Repr, DecidableEq

/-- Calls with one key and what they share. Those that have not come yet are among the calls. -/
structure Crowd (σ : Type) where
  site : Site σ
  callers : Nat → Caller
  /-- How many lifetimes the counter has had. -/
  lives : Nat
  /-- The raises so far, the earliest first. -/
  raises : List Raise

variable {σ : Type}

namespace Crowd

/-- Nothing is kept, and no call has come yet. -/
def start (s : Site σ) : Crowd σ := ⟨{ s with backend := .empty }, fun _ => ⟨.arrived, none⟩, 0, []⟩

/-- The numbers that the raises of a lifetime returned. -/
def numbers (w : Crowd σ) (life : Nat) : List Int :=
  (w.raises.filter (·.life = life)).map Raise.number

/-- The lifetime that a raise falls into: the present one if there is a counter, or a new one. -/
def life (key : String) (w : Crowd σ) : Nat :=
  if (w.site.backend.store.holds w.site.now key).1 then w.lives else w.lives + 1

/-- One of the calls has come to another stage. -/
def moved (w : Crowd σ) (i : Nat) (stage : Counting) (backend : Backend) : Crowd σ :=
  { w with
    site := { w.site with backend }
    callers := Function.update w.callers i { w.callers i with stage } }

/-- One of the calls has raised the counter. -/
def raised (w : Crowd σ) (i : Nat) (stage : Counting) (backend : Backend) (life : Nat)
    (number : Int) : Crowd σ :=
  { w.moved i stage backend with lives := life, raises := w.raises ++ [⟨i, life, number⟩] }

end Crowd

/-- What may happen next. -/
inductive Act (key : String) where
  | pass (d : Duration)
  /-- Others use the backend under other keys. -/
  | serve (r : Request) (apart : ¬ r.writes key)
  /-- A call has its next access to the backend. -/
  | access (caller : Nat)
  /-- A call that was counted is decided on. -/
  | conclude (caller : Nat) (args : CallArgs)

namespace Limiter

/-- The next access of a call to the backend. -/
def access (l : Limiter) (key : String) (i : Nat) (w : Crowd σ) : Crowd σ :=
  let stage := (w.callers i).stage
  let (stage', backend) := l.advance key w.site.now stage w.site.backend
  match stage, stage'.number? with
  | .arrived, some number => w.raised i stage' backend (w.life key) number
  | _, _ => w.moved i stage' backend

/-- A call that was counted is decided on: over the limit it is refused. -/
def conclude (l : Limiter) (key : String) (i : Nat) (args : CallArgs) (w : Crowd σ) : Crowd σ :=
  match w.callers i with
  | ⟨.counted number, none⟩ =>
    let (answer, site) := l.verdict .reject key args number w.site
    { w with site, callers := Function.update w.callers i ⟨.counted number, some answer.isOk⟩ }
  | _ => w

/-- One thing happens. -/
def act (l : Limiter) (key : String) (w : Crowd σ) : Act key → Crowd σ
  | .pass d => { w with site := w.site.pass d }
  | .serve r _ =>
    { w with site := { w.site with backend := (w.site.backend.serve w.site.now r).2 } }
  | .access i => l.access key i w
  | .conclude i args => l.conclude key i args w

/-- One thing happens after the other. -/
def play (l : Limiter) (key : String) (acts : List (Act key)) (w : Crowd σ) : Crowd σ :=
  acts.foldl (l.act key) w

end Limiter

theorem Plain.live_of_later {now t : Time} {key : String} {m : Plain} {e : Entry} (later : now ≤ t)
    (found : m.live t key = some e) : m.live now key = some e := by
  obtain ⟨held, lives⟩ := Option.filter_eq_some_iff.mp found
  exact Option.filter_eq_some_iff.mpr ⟨held, Entry.lives_of_le later lives⟩

/-- An entry that exists after its deadline was moved existed before. -/
theorem Plain.of_live_expire {now : Time} {key : String} {m : Plain} {timeout : Duration}
    {e' : Entry} (found : (m.expire now key timeout).live now key = some e') :
    ∃ e, m.live now key = some e ∧ e' = ⟨e.value, some (now + timeout)⟩ := by
  unfold expire at found
  cases alive : m.live now key with
  | none =>
    rw [alive] at found
    cases alive.symm.trans found
  | some e =>
    rw [alive] at found
    cases (put_self _).symm.trans (of_live found)
    exact ⟨e, rfl, rfl⟩

namespace Limiter

/-- A stage of a call on the plain map. -/
def advancePlain (l : Limiter) (key : String) (now : Time) (stage : Counting) (m : Plain) :
    Counting × Plain :=
  match stage with
  | .arrived =>
    match m.incr now key with
    | (some count, m) => (l.afterRaise count, m)
    | (none, m) => (.failed (.notCounter key), m)
  | .opening count => (l.afterOpening count, m.expire now key l.config.period)
  | .banning count => (.counted count, m.expire now key (l.config.ban.getD 0))
  | .counted count => (.counted count, m)
  | .failed e => (.failed e, m)

variable {l : Limiter} {key : String} {now : Time} {b : Backend} {m : Plain}

/-- A stage on a backend whose accesses work is the stage on the plain map. -/
theorem advance_mirrors (l : Limiter) (key : String) (h : b.Mirrors now m) (stage : Counting) :
    (l.advance key now stage b).1 = (l.advancePlain key now stage m).1 ∧
      (l.advance key now stage b).2.Mirrors now (l.advancePlain key now stage m).2 := by
  cases stage with
  | arrived =>
    obtain ⟨answer, after⟩ := h.incr key
    unfold advance advancePlain
    generalize b.incr now key = access at answer after
    obtain ⟨got, rest⟩ := access
    dsimp only at answer after
    subst answer
    cases raised : m.incr now key with
    | mk count m' =>
      rw [raised] at after
      cases count <;> exact ⟨rfl, after⟩
  | opening count =>
    obtain ⟨answer, after⟩ := h.expire key l.config.period
    rw [advance_opening answer]
    exact ⟨rfl, after⟩
  | banning count =>
    obtain ⟨answer, after⟩ := h.expire key (l.config.ban.getD 0)
    rw [advance_banning answer count]
    exact ⟨rfl, after⟩
  | counted | failed => exact ⟨rfl, h⟩

theorem number_afterOpening (l : Limiter) (count : Int) :
    (l.afterOpening count).number? = some count := by
  rcases l.afterOpening_cases count with ban | done
  · rw [ban]
    rfl
  · rw [done]
    rfl

/-- The number of a call that is to start the ban is the first one over the limit. -/
theorem count_of_afterOpening {count n : Int} (banning : l.afterOpening count = .banning n) :
    n = (l.config.limit : Int) + 1 := by
  unfold afterOpening at banning
  split at banning
  · next first =>
    cases banning
    exact first.2
  · cases banning

theorem count_of_afterRaise {count n : Int} (banning : l.afterRaise count = .banning n) :
    n = (l.config.limit : Int) + 1 := by
  unfold afterRaise at banning
  split at banning
  · cases banning
  · exact count_of_afterOpening banning

theorem number_afterRaise (l : Limiter) (count : Int) :
    (l.afterRaise count).number? = some count := by
  unfold afterRaise
  split
  · rfl
  · exact l.number_afterOpening count

end Limiter

/-! ## What the calls have come to -/

/-- 1, 2, 3 and so on, so many numbers. -/
def upTo (n : Nat) : List Int := (List.range n).map fun i : Nat => (i : Int) + 1

theorem upTo_succ (n : Nat) : upTo (n + 1) = upTo n ++ [(n : Int) + 1] := by
  simp [upTo, List.range_succ]

/-- Of the first numbers only as many are within a limit as it says. -/
theorem countP_upTo_le (n limit : Nat) : (upTo n).countP (fun i => i ≤ (limit : Int)) ≤ limit := by
  have small : ((List.range n).filter (· < limit)).Subperm (List.range limit) := by
    refine List.subperm_of_subset (List.nodup_range.filter _) fun i among => ?_
    exact List.mem_range.mpr (of_decide_eq_true (List.mem_filter.mp among).2)
  calc (upTo n).countP (fun i => i ≤ (limit : Int))
      = (List.range n).countP (· < limit) := by
        rw [upTo, List.countP_map]
        refine List.countP_congr fun i _ => ?_
        simp only [Function.comp_apply, decide_eq_true_eq]
        omega
    _ = ((List.range n).filter (· < limit)).length := List.countP_eq_length_filter
    _ ≤ (List.range limit).length := small.length_le
    _ = limit := List.length_range

namespace Crowd

variable {w : Crowd σ} {m : Plain}

theorem numbers_raised (w : Crowd σ) (i : Nat) (stage : Counting) (backend : Backend)
    (life : Nat) (number : Int) (other : Nat) :
    (w.raised i stage backend life number).numbers other =
      w.numbers other ++ if life = other then [number] else [] := by
  unfold numbers raised
  rw [List.filter_append, List.map_append]
  by_cases same : life = other <;> simp [same]

theorem life_of_mirrors (key : String) (mirrors : w.site.backend.Mirrors w.site.now m) :
    w.life key = if (m.live w.site.now key).isSome then w.lives else w.lives + 1 := by
  unfold life
  rw [(mirrors.agrees.holds key).1]
  rfl

/-- Another stage of one call. -/
theorem moved_stage (w : Crowd σ) (i j : Nat) (stage : Counting) (backend : Backend) :
    ((w.moved i stage backend).callers j).stage =
      if j = i then stage else (w.callers j).stage := by
  unfold moved
  by_cases same : j = i
  · subst same
    simp
  · simp [same]

theorem raised_callers (w : Crowd σ) (i : Nat) (stage : Counting) (backend : Backend)
    (life : Nat) (number : Int) :
    (w.raised i stage backend life number).callers = (w.moved i stage backend).callers := rfl

theorem moved_admitted (w : Crowd σ) (i j : Nat) (stage : Counting) (backend : Backend) :
    ((w.moved i stage backend).callers j).admitted = (w.callers j).admitted := by
  unfold moved
  by_cases same : j = i
  · subst same
    simp
  · simp [same]

end Crowd

namespace Limiter

variable {l : Limiter} {key : String} {w : Crowd σ} {m m' : Plain} {i : Nat} {backend : Backend}
  {stage : Counting}

/-- The counter and the raises so far. -/
structure Tally (key : String) (w : Crowd σ) (m : Plain) : Prop where
  mirrors : w.site.backend.Mirrors w.site.now m
  counter : ∀ e, m.live w.site.now key = some e → e.value = .int (w.numbers w.lives).length
  numbered : ∀ life, w.numbers life = upTo (w.numbers life).length
  begun : ∀ r ∈ w.raises, r.life ≤ w.lives

/-- The calls and the raises so far. -/
structure Roll (l : Limiter) (w : Crowd σ) : Prop where
  once : (w.raises.map Raise.caller).Nodup
  standing : ∀ r ∈ w.raises, (w.callers r.caller).stage.number? = some r.number
  logged : ∀ i n, (w.callers i).stage.number? = some n → ∃ life, ⟨i, life, n⟩ ∈ w.raises
  within : ∀ i, (w.callers i).admitted = some true →
    ∃ n : Int, n ≤ l.config.limit ∧ (w.callers i).stage = .counted n
  bans : ∀ i n, (w.callers i).stage = .banning n → n = (l.config.limit : Int) + 1
  failed : ∀ i e, (w.callers i).stage = .failed e →
    ∃ life, Word.signedEnd ≤ (w.numbers life).length

/-- The counter and the calls, after some raises. -/
structure Orderly (l : Limiter) (key : String) (w : Crowd σ) (m : Plain) : Prop
    extends Tally key w m, Roll l w

theorem orderly_start (l : Limiter) (key : String) (s : Site σ) :
    l.Orderly key (.start s) .empty where
  mirrors := .empty _
  counter e found := by cases found
  numbered life := rfl
  begun r among := by cases among
  once := .nil
  standing r among := by cases among
  logged i n given := by cases given
  within i admitted := by cases admitted
  bans i n banning := by cases banning
  failed i e failed := by cases failed

/-! ## Accesses that are no raises -/

theorem Tally.moved (tally : Tally key w m) (mirrors : backend.Mirrors w.site.now m')
    (values : ∀ e', m'.live w.site.now key = some e' →
      ∃ e, m.live w.site.now key = some e ∧ e'.value = e.value) :
    Tally key (w.moved i stage backend) m' where
  mirrors := mirrors
  counter e' found' := by
    obtain ⟨e, found, same⟩ := values e' found'
    exact same.trans (tally.counter e found)
  numbered := tally.numbered
  begun := tally.begun

/-- What an access that is no raise can make of a stage: the call keeps its number, and rests once
it is counted. -/
structure Follows (l : Limiter) (stage stage' : Counting) : Prop where
  number : stage'.number? = stage.number?
  rests : ∀ n, stage = .counted n → stage' = .counted n
  bans : ∀ n, stage' = .banning n → n = (l.config.limit : Int) + 1

theorem Roll.moved (roll : l.Roll w) (follows : l.Follows (w.callers i).stage stage)
    (failed : ∀ e, stage = .failed e → ∃ life, Word.signedEnd ≤ (w.numbers life).length) :
    l.Roll (w.moved i stage backend) where
  once := roll.once
  standing r among := by
    rw [Crowd.moved_stage]
    split
    · next same => exact follows.number.trans (same ▸ roll.standing r among)
    · exact roll.standing r among
  logged j n given := by
    rw [Crowd.moved_stage] at given
    split at given
    · next same => exact same ▸ roll.logged i n (follows.number.symm.trans given)
    · exact roll.logged j n given
  within j admitted := by
    rw [Crowd.moved_admitted] at admitted
    obtain ⟨n, within, counted⟩ := roll.within j admitted
    refine ⟨n, within, ?_⟩
    rw [Crowd.moved_stage]
    split
    · next same => exact follows.rests n (same ▸ counted)
    · exact counted
  bans j n told := by
    rw [Crowd.moved_stage] at told
    split at told
    · exact follows.bans n told
    · exact roll.bans j n told
  failed j e told := by
    rw [Crowd.moved_stage] at told
    split at told
    · exact failed e told
    · exact roll.failed j e told

section Raised

variable {life : Nat} {count : Int}

/-- A raise that returns the number after those of its lifetime. -/
theorem Tally.raised (tally : Tally key w m) (latest : w.lives ≤ life)
    (next : count = (w.numbers life).length + 1) {deadline : Option Time}
    (mirrors : backend.Mirrors w.site.now (m.put key ⟨.int count, deadline⟩)) :
    Tally key (w.raised i stage backend life count) (m.put key ⟨.int count, deadline⟩) := by
  have numbers := w.numbers_raised i stage backend life count
  have more : ((w.raised i stage backend life count).numbers life).length =
      (w.numbers life).length + 1 := by
    rw [numbers, if_pos rfl, List.length_append, List.length_singleton]
  refine ⟨mirrors, fun e found => ?_, fun other => ?_, fun r among => ?_⟩
  · cases (Plain.put_self _).symm.trans (Plain.of_live found)
    have present : (w.raised i stage backend life count).lives = life := rfl
    rw [present, more, next]
    rfl
  · by_cases same : life = other
    · subst same
      rw [more, upTo_succ, numbers, if_pos rfl, ← tally.numbered life, next]
    · rw [numbers, if_neg same, List.append_nil]
      exact tally.numbered other
  · rcases List.mem_append.mp among with earlier | this
    · exact Nat.le_trans (tally.begun r earlier) latest
    · cases List.mem_singleton.mp this
      exact Nat.le_refl life

/-- A call that has just arrived is in no raise so far. -/
theorem Roll.caller_ne (roll : l.Roll w) (arrived : (w.callers i).stage = .arrived) :
    ∀ r ∈ w.raises, r.caller ≠ i := by
  rintro r among rfl
  have standing := roll.standing r among
  rw [arrived] at standing
  cases standing

theorem Roll.raised (roll : l.Roll w) (arrived : (w.callers i).stage = .arrived) :
    l.Roll (w.raised i (l.afterRaise count) backend life count) where
  once := by
    have others := roll.caller_ne arrived
    unfold Crowd.raised
    rw [List.map_append]
    refine roll.once.append (List.nodup_singleton _) fun caller earlier this => ?_
    obtain ⟨r, among, rfl⟩ := List.mem_map.mp earlier
    exact others r among (List.mem_singleton.mp this)
  standing r among := by
    rw [Crowd.raised_callers, Crowd.moved_stage]
    rcases List.mem_append.mp among with earlier | this
    · rw [if_neg (roll.caller_ne arrived r earlier)]
      exact roll.standing r earlier
    · cases List.mem_singleton.mp this
      rw [if_pos rfl, number_afterRaise]
  logged j n given := by
    rw [Crowd.raised_callers, Crowd.moved_stage] at given
    split at given
    · next same =>
      cases (l.number_afterRaise count).symm.trans given
      exact ⟨life, List.mem_append_right _ (List.mem_singleton.mpr (by rw [same]))⟩
    · obtain ⟨earlier, among⟩ := roll.logged j n given
      exact ⟨earlier, List.mem_append_left _ among⟩
  within j admitted := by
    rw [Crowd.raised_callers, Crowd.moved_admitted] at admitted
    obtain ⟨n, within, counted⟩ := roll.within j admitted
    refine ⟨n, within, ?_⟩
    rw [Crowd.raised_callers, Crowd.moved_stage]
    split
    · next same =>
      rw [same, arrived] at counted
      cases counted
    · exact counted
  bans j n told := by
    rw [Crowd.raised_callers, Crowd.moved_stage] at told
    split at told
    · exact count_of_afterRaise told
    · exact roll.bans j n told
  failed j e failed := by
    rw [Crowd.raised_callers, Crowd.moved_stage] at failed
    split at failed
    · have number := l.number_afterRaise count
      rw [failed] at number
      cases number
    · obtain ⟨other, many⟩ := roll.failed j e failed
      refine ⟨other, Nat.le_trans many ?_⟩
      rw [Crowd.numbers_raised, List.length_append]
      exact Nat.le_add_right _ _

end Raised

/-- An access that returns a number to a call that has arrived is a raise. -/
theorem access_of_raise (arrived : (w.callers i).stage = .arrived) {count : Int}
    (told : (l.advance key w.site.now .arrived w.site.backend).1 = l.afterRaise count) :
    l.access key i w =
      w.raised i (l.afterRaise count) (l.advance key w.site.now .arrived w.site.backend).2
        (w.life key) count := by
  unfold access
  rw [arrived]
  dsimp only
  rw [told, number_afterRaise]

theorem access_site (l : Limiter) (key : String) (i : Nat) (w : Crowd σ) :
    (l.access key i w).site =
      { w.site with
        backend := (l.advance key w.site.now (w.callers i).stage w.site.backend).2 } := by
  unfold access
  dsimp only
  split <;> rfl

theorem access_callers (l : Limiter) (key : String) (i : Nat) (w : Crowd σ) :
    (l.access key i w).callers =
      Function.update w.callers i
        ⟨(l.advance key w.site.now (w.callers i).stage w.site.backend).1,
          (w.callers i).admitted⟩ := by
  unfold access
  dsimp only
  split <;> rfl

/-- Any other access only takes the call to its next stage. -/
theorem access_of_no_raise
    (unraised : (w.callers i).stage = .arrived →
      (l.advance key w.site.now .arrived w.site.backend).1.number? = none) :
    l.access key i w =
      w.moved i (l.advance key w.site.now (w.callers i).stage w.site.backend).1
        (l.advance key w.site.now (w.callers i).stage w.site.backend).2 := by
  unfold access
  cases stands : (w.callers i).stage with
  | arrived =>
    dsimp only
    rw [unraised stands]
  | _ => rfl

theorem Orderly.numbers_of_unbegun (orderly : l.Orderly key w m) {life : Nat}
    (unbegun : w.lives < life) : w.numbers life = [] := by
  unfold Crowd.numbers
  rw [List.map_eq_nil_iff, List.filter_eq_nil_iff]
  intro r among same
  have begun := orderly.begun r among
  rw [of_decide_eq_true same] at begun
  exact absurd begun (Nat.not_le.mpr unbegun)

theorem Orderly.access_arrived (orderly : l.Orderly key w m)
    (arrived : (w.callers i).stage = .arrived) : ∃ m', l.Orderly key (l.access key i w) m' := by
  obtain ⟨same, mirrors⟩ := l.advance_mirrors key orderly.mirrors .arrived
  have life := Crowd.life_of_mirrors key orderly.mirrors
  cases found : m.live w.site.now key with
  | none =>
    -- no counter: a new lifetime begins with the number 1
    rw [found] at life
    have first : m.incr w.site.now key = (some 1, m.put key ⟨.int 1, none⟩) := by
      rw [Plain.incr, found]
    simp only [advancePlain, first] at same mirrors
    rw [access_of_raise arrived same, life]
    have fresh := orderly.numbers_of_unbegun (Nat.lt_succ_self w.lives)
    exact ⟨_, orderly.toTally.raised (Nat.le_succ _) (by rw [fresh]; rfl) mirrors,
      orderly.toRoll.raised arrived⟩
  | some e =>
    rw [found] at life
    obtain ⟨value, deadline⟩ := e
    obtain rfl : value = _ := orderly.counter _ found
    let n : Int := (w.numbers w.lives).length
    by_cases fits : -9223372036854775808 ≤ n ∧ n < 9223372036854775808
    · have next : m.incr w.site.now key = (some (n + 1), m.put key ⟨.int (n + 1), deadline⟩) := by
        rw [Plain.incr, found]
        exact if_pos fits
      simp only [advancePlain, next] at same mirrors
      rw [access_of_raise arrived same, life]
      exact ⟨_, orderly.toTally.raised (Nat.le_refl _) rfl mirrors, orderly.toRoll.raised arrived⟩
    · have full : m.incr w.site.now key = (none, m) := by
        rw [Plain.incr, found]
        exact if_neg fits
      simp only [advancePlain, full] at same mirrors
      have unraised : (l.advance key w.site.now .arrived w.site.backend).1.number? = none := by
        rw [same]
        rfl
      rw [access_of_no_raise fun _ => unraised, arrived, same]
      refine ⟨m, orderly.toTally.moved mirrors fun e' found' => ⟨e', found', rfl⟩,
        orderly.toRoll.moved ?_ ?_⟩
      · rw [arrived]
        exact ⟨rfl, by rintro n ⟨⟩, by rintro n ⟨⟩⟩
      · intro _ _
        refine ⟨w.lives, ?_⟩
        unfold Word.signedEnd
        omega

/-- An access of a call past its raise does not fail and leaves the value of the counter alone. -/
theorem advancePlain_of_raised (l : Limiter) (key : String) {stage : Counting}
    (raised : stage ≠ .arrived) (now : Time) (m : Plain) :
    l.Follows stage (l.advancePlain key now stage m).1 ∧
      (∀ e, (l.advancePlain key now stage m).1 = .failed e → stage = .failed e) ∧
      ∀ e', (l.advancePlain key now stage m).2.live now key = some e' →
        ∃ e, m.live now key = some e ∧ e'.value = e.value := by
  have dated (timeout : Duration) : ∀ e', (m.expire now key timeout).live now key = some e' →
      ∃ e, m.live now key = some e ∧ e'.value = e.value := by
    intro e' found
    obtain ⟨e, before, rfl⟩ := Plain.of_live_expire found
    exact ⟨e, before, rfl⟩
  cases stage with
  | arrived => exact absurd rfl raised
  | opening count =>
    have number := l.number_afterOpening count
    refine ⟨⟨number, by rintro n ⟨⟩, fun _ => count_of_afterOpening⟩, fun e failed => ?_, dated _⟩
    rw [show l.afterOpening count = .failed e from failed] at number
    cases number
  | banning count =>
    exact ⟨⟨rfl, by rintro n ⟨⟩, by rintro n ⟨⟩⟩, by rintro e ⟨⟩, dated _⟩
  | counted count =>
    exact ⟨⟨rfl, fun _ same => same, by rintro n ⟨⟩⟩, by rintro e ⟨⟩,
      fun e found => ⟨e, found, rfl⟩⟩
  | failed e =>
    exact ⟨⟨rfl, by rintro n ⟨⟩, by rintro n ⟨⟩⟩, fun _ same => same,
      fun e found => ⟨e, found, rfl⟩⟩

theorem Orderly.access (orderly : l.Orderly key w m) (i : Nat) :
    ∃ m', l.Orderly key (l.access key i w) m' := by
  by_cases arrived : (w.callers i).stage = .arrived
  · exact orderly.access_arrived arrived
  · obtain ⟨same, mirrors⟩ := l.advance_mirrors key orderly.mirrors (w.callers i).stage
    obtain ⟨follows, failed, values⟩ := l.advancePlain_of_raised key arrived w.site.now m
    rw [access_of_no_raise fun there => absurd there arrived, same]
    exact ⟨_, orderly.toTally.moved mirrors values,
      orderly.toRoll.moved follows fun e told => orderly.failed i e (failed e told)⟩

/-- A call over the limit is refused and any other one is let through, without the backend. -/
theorem conclude_cases (l : Limiter) (key : String) (i : Nat) (args : CallArgs) (w : Crowd σ) :
    l.conclude key i args w = w ∨
      ∃ number events, w.callers i = ⟨.counted number, none⟩ ∧
        l.conclude key i args w =
          { w with
            site := { w.site with events }
            callers := Function.update w.callers i ⟨.counted number, some !l.isOver number⟩ } := by
  unfold conclude
  split
  · next number stands =>
    right
    unfold verdict
    cases exceeds : l.isOver number with
    | true => exact ⟨number, _, stands, by rw [exceeds]; rfl⟩
    | false => exact ⟨number, w.site.events, stands, by rw [exceeds]; rfl⟩
  · exact .inl rfl

/-- A call is let through only within the limit. -/
theorem Roll.concluded (roll : l.Roll w) {number : Int}
    (stands : w.callers i = ⟨.counted number, none⟩) (s : Site σ) :
    l.Roll { w with
      site := s
      callers := Function.update w.callers i ⟨.counted number, some !l.isOver number⟩ } := by
  have stage (j : Nat) :
      (Function.update w.callers i ⟨.counted number, some !l.isOver number⟩ j).stage =
        (w.callers j).stage := by
    by_cases same : j = i
    · subst same
      rw [Function.update_self, stands]
    · rw [Function.update_of_ne same]
  constructor
  case once => exact roll.once
  case standing =>
    intro r among
    rw [stage]
    exact roll.standing r among
  case logged =>
    intro j n given
    rw [stage] at given
    exact roll.logged j n given
  case within =>
    intro j admitted
    rw [stage]
    by_cases same : j = i
    · subst same
      have within : l.isOver number = false := by simpa using admitted
      exact ⟨number, Int.not_lt.mp (of_decide_eq_false within), by rw [stands]⟩
    · refine roll.within j ?_
      simpa [same] using admitted
  case bans =>
    intro j n banning
    rw [stage] at banning
    exact roll.bans j n banning
  case failed =>
    intro j e failed
    rw [stage] at failed
    exact roll.failed j e failed

theorem Orderly.conclude (orderly : l.Orderly key w m) (i : Nat) (args : CallArgs) :
    l.Orderly key (l.conclude key i args w) m := by
  rcases l.conclude_cases key i args w with same | ⟨number, events, stands, concluded⟩
  · rw [same]
    exact orderly
  · rw [concluded]
    exact ⟨⟨orderly.mirrors, orderly.counter, orderly.numbered, orderly.begun⟩,
      orderly.toRoll.concluded stands _⟩

/-- **What one thing that happens preserves.** -/
theorem Orderly.act (orderly : l.Orderly key w m) (a : Act key) :
    ∃ m', l.Orderly key (l.act key w a) m' := by
  cases a with
  | pass d =>
    have later : w.site.now ≤ w.site.now + d := Nat.le_add_right _ _
    refine ⟨m, { orderly with mirrors := orderly.mirrors.later later, counter := ?_ }⟩
    intro e found
    exact orderly.counter e (Plain.live_of_later later found)
  | serve r apart =>
    have kept : (m.serve w.site.now r).2 key = m key := Plain.serve_of_not_writes apart _ m
    refine ⟨_, { orderly with mirrors := (orderly.mirrors.serve r).2, counter := ?_ }⟩
    intro e found
    refine orderly.counter e ?_
    rwa [Plain.live, kept] at found
  | access i => exact orderly.access i
  | conclude i args => exact ⟨m, orderly.conclude i args⟩

/-- **What a whole course preserves.** -/
theorem Orderly.play (orderly : l.Orderly key w m) (acts : List (Act key)) :
    ∃ m', l.Orderly key (l.play key acts w) m' := by
  induction acts generalizing w m with
  | nil => exact ⟨m, orderly⟩
  | cons a acts ih =>
    obtain ⟨m', after⟩ := orderly.act a
    exact ih after

/-- The calls of a lifetime that were let through have numbers within the limit, and each has its
own. -/
theorem Orderly.admitted_le (orderly : l.Orderly key w m) (life : Nat) :
    w.raises.countP (fun r => r.life = life ∧ (w.callers r.caller).admitted = some true) ≤
      l.config.limit := by
  have within : ∀ r ∈ w.raises, (w.callers r.caller).admitted = some true →
      r.number ≤ l.config.limit := by
    intro r among admitted
    obtain ⟨n, small, counted⟩ := orderly.within _ admitted
    have standing := orderly.standing r among
    rw [counted] at standing
    cases standing
    exact small
  calc w.raises.countP (fun r => r.life = life ∧ (w.callers r.caller).admitted = some true)
      ≤ w.raises.countP (fun r => r.life = life ∧ r.number ≤ (l.config.limit : Int)) := by
        refine List.countP_mono_left fun r among counts => ?_
        obtain ⟨same, admitted⟩ := of_decide_eq_true counts
        exact decide_eq_true ⟨same, within r among admitted⟩
    _ = (w.numbers life).countP (fun n => n ≤ (l.config.limit : Int)) := by
        rw [Crowd.numbers, List.countP_map, List.countP_filter]
        refine List.countP_congr fun r _ => ?_
        simp [and_comm]
    _ ≤ l.config.limit := by
        rw [orderly.numbered life]
        exact countP_upTo_le _ _

/-- **The raises of a lifetime of the counter return 1, 2, 3 and so on, and no more of its calls are
let through than the limit says.** However the accesses of any number of calls follow each other and
the time passes between them: this holds of every lifetime, also where a late access of a call from
an earlier one moves the deadline. Every call that was given a number is counted in one lifetime.
And a call fails only where a counter has left the numbers of 64 bits behind. -/
theorem lifetime_counts (l : Limiter) (key : String) (s : Site σ) (acts : List (Act key)) :
    let w := l.play key acts (.start s)
    (∀ life, w.numbers life = upTo (w.numbers life).length ∧
      w.raises.countP (fun r => r.life = life ∧ (w.callers r.caller).admitted = some true) ≤
        l.config.limit) ∧
      (w.raises.map Raise.caller).Nodup ∧
      (∀ i n, (w.callers i).stage.number? = some n → ∃ life, ⟨i, life, n⟩ ∈ w.raises) ∧
      ∀ i e, (w.callers i).stage = .failed e →
        ∃ life, Word.signedEnd ≤ (w.numbers life).length := by
  obtain ⟨m, orderly⟩ := (l.orderly_start key s).play acts
  exact ⟨fun life => ⟨orderly.numbered life, orderly.admitted_le life⟩, orderly.once,
    orderly.logged, orderly.failed⟩

/-- Some accesses of one call, one right after the other. -/
theorem play_accesses (l : Limiter) (key : String) (i n : Nat) (w : Crowd σ) :
    let final := l.advanceBy key w.site.now n (w.callers i).stage w.site.backend
    let w' := l.play key (List.replicate n (.access i)) w
    w'.site = { w.site with backend := final.2 } ∧
      w'.callers i = ⟨final.1, (w.callers i).admitted⟩ := by
  induction n generalizing w with
  | zero => exact ⟨rfl, rfl⟩
  | succ n ih =>
    obtain ⟨site, caller⟩ := ih (l.access key i w)
    rw [access_callers, Function.update_self, access_site] at site caller
    exact ⟨site, caller⟩

/-- A call that is counted and decided on all at once has its accesses one right after the other. -/
theorem judge_eq_play (args : CallArgs) (arrived : w.callers i = ⟨.arrived, none⟩) :
    let w' := l.play key (List.replicate 3 (.access i) ++ [.conclude i args]) w
    w'.site = (l.judge .reject key args w.site).2 ∧
      ((w'.callers i).admitted = some true ↔ (l.judge .reject key args w.site).1.isOk) := by
  obtain ⟨site, caller⟩ := l.play_accesses key i 3 w
  have settled := l.ahead_advanceBy key 3 w.site.now .arrived w.site.backend
  rw [arrived] at site caller
  intro w'
  have played : w' = l.conclude key i args (l.play key (List.replicate 3 (.access i)) w) := rfl
  rw [played]
  generalize l.play key (List.replicate 3 (.access i)) w = counted at site caller
  cases final : l.advanceBy key w.site.now 3 .arrived w.site.backend with
  | mk stage after =>
    rw [final] at site caller settled
    cases stage with
    | counted n =>
      rw [judge_of_count .reject args (count_of_advanceBy final)]
      unfold conclude
      rw [caller, site]
      dsimp only
      rw [Function.update_self]
      refine ⟨rfl, ?_⟩
      simp
    | failed e =>
      have counted : l.count key w.site.now w.site.backend = (.error e, after) := by
        rw [count, final]
      rw [judge_of_count_error .reject args counted]
      unfold conclude
      rw [caller]
      dsimp only
      rw [caller]
      refine ⟨site, ?_⟩
      simp [Except.isOk, Except.toBool]
    | arrived | opening | banning => cases settled

end Limiter
end Latchkey
