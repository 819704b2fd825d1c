import Latchkey.Proofs.Limiter.Bans

/-!
The first call over the limit moves the deadline of the counter to the end of the ban, and does not
ask where the deadline was. `expires_no_sooner_iff`: a call over the limit makes the counter expire
earlier than it would have done exactly if it is that first call and the counter would have lasted
longer than the ban; so it never does where bans are no shorter than windows.
-/

namespace Latchkey

/-- There is something under the key at an instant, if nothing is written until then. -/
def Backend.HoldsAt (b : Backend) (key : String) (t : Time) : Prop :=
  ∃ value, (b.up.get t key).1 = .ok (some value)

theorem Backend.holdsAt_iff {b : Backend} {now t : Time} {m : Plain} (h : b.store.Agrees now m)
    (later : now ≤ t) (key : String) :
    b.HoldsAt key t ↔ ∃ e, m key = some e ∧ e.lives t = true := by
  unfold HoldsAt
  rw [((mirrors_up (h.later later)).get key).1, Plain.get]
  constructor
  · rintro ⟨value, told⟩
    obtain ⟨e, found, -⟩ := Option.map_eq_some_iff.mp (Except.ok.inj told)
    exact ⟨e, Option.filter_eq_some_iff.mp found⟩
  · rintro ⟨e, found⟩
    exact ⟨e.value, by rw [Plain.live, Option.filter_eq_some_iff.mpr found]; rfl⟩

/-- What does not exist does not come back. -/
theorem Backend.not_holdsAt {b : Backend} {now t : Time} {m : Plain} {key : String}
    (h : b.store.Agrees now m) (free : m.live now key = none) (later : now ≤ t) :
    ¬ b.HoldsAt key t := by
  rw [holdsAt_iff h later]
  rintro ⟨e, found, lives⟩
  have alive : m.live now key = some e :=
    Option.filter_eq_some_iff.mpr ⟨found, Entry.lives_of_le later lives⟩
  cases alive.symm.trans free

theorem Plain.remaining_of_deadline {now t : Time} {key : String} {m : Plain} {value : Json}
    (found : m key = some ⟨value, some t⟩) (ahead : now < t) :
    m.remaining now key = some (t - now) := by
  rw [remaining, live_of_deadline found ahead]
  rfl

namespace Limiter

variable {σ ε α : Type} {l : Limiter} {key : String} {now : Time} {b : Backend} {m : Plain}
  {n : Int}

/-- A call with this number starts the ban. -/
def StartsBan (l : Limiter) (n : Int) (ban : Duration) : Prop :=
  l.config.ban = some ban ∧ n = (l.config.limit : Int) + 1

/-- The call starts the ban, and the counter would have outlasted it. -/
def CutsShort (l : Limiter) (key : String) (n : Int) (s : Site σ) : Prop :=
  ∃ ban, l.StartsBan n ban ∧ s.backend.HoldsAt key (s.now + ban)

/-- The deadline that a call with this number leaves to a counter it found with another one: the end
of the ban if it starts one, and otherwise the same. -/
def Leaves (l : Limiter) (n : Int) (now : Time) (deadline deadline' : Option Time) : Prop :=
  (∃ ban, l.StartsBan n ban ∧ deadline' = some (now + ban)) ∨
    (∀ ban, ¬ l.StartsBan n ban) ∧ deadline' = deadline

/-- From the raised counter on: the deadline is moved if the call starts the ban. -/
theorem advanceBy_of_raised (h : b.Mirrors now m) {deadline : Option Time}
    (found : m.live now key = some ⟨.int n, deadline⟩) (i : Nat) :
    ∃ deadline' m' after, l.advanceBy key now (i + 1) (l.afterOpening n) b = (.counted n, after) ∧
      after.Mirrors now m' ∧ m' key = some ⟨.int n, deadline'⟩ ∧
      l.Leaves n now deadline deadline' := by
  unfold afterOpening
  by_cases bans : l.config.ban.isSome ∧ n = (l.config.limit : Int) + 1
  · obtain ⟨told, first⟩ := bans
    obtain ⟨ban, told⟩ := Option.isSome_iff_exists.mp told
    obtain ⟨answer, after⟩ := h.expire key (l.config.ban.getD 0)
    refine ⟨some (now + ban), _, _, ?_, after, ?_, .inl ⟨ban, ⟨told, first⟩, rfl⟩⟩
    · rw [if_pos ⟨told ▸ rfl, first⟩, advanceBy_succ, advance_banning answer]
      exact advanceBy_counted _ _ _
    · rw [Plain.expire, found, told]
      exact Plain.put_self _
  · refine ⟨deadline, m, b, ?_, h, Plain.of_live found, .inr ⟨?_, rfl⟩⟩
    · rw [if_neg bans]
      exact advanceBy_counted _ _ _
    · rintro ban ⟨told, first⟩
      exact bans ⟨told ▸ rfl, first⟩

/-- A call that is counted raises the counter that it finds by one. -/
theorem count_of_live (h : b.Mirrors now m) {k : Int} {deadline : Option Time} (positive : 0 < k)
    (found : m.live now key = some ⟨.int k, deadline⟩)
    (counted : (l.count key now b).1 = .ok n) :
    ∃ deadline' m', (l.count key now b).2.Mirrors now m' ∧
      m' key = some ⟨.int n, deadline'⟩ ∧ l.Leaves n now deadline deadline' := by
  obtain ⟨answer, raised⟩ := h.incr key
  cases next : m.incr now key with
  | mk count m' =>
    rw [next] at answer raised
    cases count with
    | none =>
      have failed : (l.advance key now .arrived b).1 = .failed (.notCounter key) := by
        rw [(l.advance_mirrors key h .arrived).1, advancePlain, next]
      unfold Limiter.count at counted
      rw [advanceBy_succ, failed, advanceBy_settled rfl] at counted
      cases counted
    | some count =>
      rcases Plain.incr_some next with ⟨free, -, -⟩ | ⟨k', deadline, held, rfl, rfl⟩
      · cases free.symm.trans found
      · cases held.symm.trans found
        have more : ¬ k + 1 = 1 := by omega
        have alive : (m.put key ⟨.int (k + 1), deadline⟩).live now key =
            some ⟨.int (k + 1), deadline⟩ :=
          Option.filter_eq_some_iff.mpr
            ⟨Plain.put_self _, (Option.filter_eq_some_iff.mp found).2⟩
        obtain ⟨deadline', m', after, stages, mirrors, held, leaves⟩ :=
          l.advanceBy_of_raised raised alive 1
        have whole : l.count key now b = (.ok (k + 1), after) := by
          apply count_of_advanceBy
          rw [advanceBy_succ, advance_arrived answer, afterRaise, if_neg more, stages]
        rw [whole] at counted ⊢
        cases counted
        exact ⟨deadline', m', mirrors, held, leaves⟩

/-- What a call leaves lasts as long as what it found, unless it starts a ban that is shorter. -/
theorem Leaves.lives_iff_uncut {deadline deadline' : Option Time}
    (leaves : l.Leaves n now deadline deadline') (value value' : Json) :
    (∀ t, now ≤ t → (Entry.mk value deadline).lives t = true →
        (Entry.mk value' deadline').lives t = true) ↔
      ¬ ∃ ban, l.StartsBan n ban ∧ (Entry.mk value deadline).lives (now + ban) = true := by
  simp only [Entry.lives_iff]
  rcases leaves with ⟨ban, starts, rfl⟩ | ⟨none, rfl⟩
  · constructor
    · rintro kept ⟨ban', starts', outlasts⟩
      cases starts.1.symm.trans starts'.1
      exact Nat.lt_irrefl _ (kept (now + ban) (Nat.le_add_right _ _) outlasts _ rfl)
    · rintro uncut t later lasts _ ⟨⟩
      by_contra ended
      refine uncut ⟨ban, starts, ?_⟩
      intro u due
      exact Nat.lt_of_le_of_lt (Nat.not_lt.mp ended) (lasts u due)
  · refine iff_of_true (fun t _ lasts => lasts) ?_
    rintro ⟨ban, starts, -⟩
    exact none ban starts

/-- What is left to the later one of two deadlines is not less. -/
theorem le_left_iff {now d d' : Nat} (ahead : now < d) (ahead' : now < d') :
    d - now ≤ d' - now ↔ ∀ t, now ≤ t → t < d → t < d' := by
  constructor
  · intro less t _ _
    omega
  · intro lasts
    by_contra more
    have := lasts d' (by omega) (by omega)
    omega

theorem StartsBan.pos (accepted : l.config.flaw? = none) {ban : Duration}
    (starts : l.StartsBan n ban) : 0 < ban := by
  apply Nat.pos_of_ne_zero
  rintro rfl
  have some_time := LimitConfig.period_pos accepted
  simp [LimitConfig.flaw?, starts.1, Nat.ne_of_gt some_time] at accepted

variable {w : Traffic} {s : Site σ} {args : CallArgs}

/-- Where bans are no shorter than windows, a counter with a deadline does not outlast one. -/
theorem Tended.not_cutsShort (tended : l.Tended key w m) (clock : s.now = w.now)
    (same : s.backend = w.backend)
    (longer : ∀ ban, l.config.ban = some ban → l.config.period ≤ ban)
    (dated : ¬ s.backend.Undated s.now key) : ¬ l.CutsShort key n s := by
  have agrees : s.backend.store.Agrees s.now m := by
    rw [clock, same]
    exact tended.agrees
  rintro ⟨ban, starts, outlasts⟩
  obtain ⟨e, found, lives⟩ :=
    (Backend.holdsAt_iff agrees (Nat.le_add_right _ _) key).mp outlasts
  cases due : e.deadline with
  | none => exact dated ((Backend.undated_iff agrees key).mpr ⟨e, found, due⟩)
  | some t =>
    have reach : l.config.reach = ban := by
      rw [LimitConfig.reach, starts.1, Option.getD_some, Nat.max_eq_right (longer ban starts.1)]
    have soon : t ≤ s.now + ban := by
      rw [clock, ← reach]
      exact tended.within e t found due
    exact absurd (Entry.lives_iff.mp lives t due) (Nat.not_lt.mpr soon)

/-- What the counting of a call leaves of the counter, which exists or not. -/
theorem Tended.kept_iff_uncut (tended : l.Tended key w m) (accepted : l.config.flaw? = none)
    (mirrors : s.backend.Mirrors s.now m) (counted : (l.count key s.now s.backend).1 = .ok n) :
    ((∀ t, s.now ≤ t → s.backend.HoldsAt key t →
        (l.count key s.now s.backend).2.HoldsAt key t) ↔ ¬ l.CutsShort key n s) ∧
      ∀ left, (s.backend.getExpire s.now key).1 = .ok (some left) →
        ∃ left', ((l.count key s.now s.backend).2.getExpire s.now key).1 = .ok (some left') ∧
          (left ≤ left' ↔ ¬ l.CutsShort key n s) := by
  rw [(mirrors.getExpire key).1]
  cases found : m.live s.now key with
  | none =>
    constructor
    · refine iff_of_true (fun t later holds => ?_) ?_
      · exact absurd holds (Backend.not_holdsAt mirrors.agrees found later)
      · rintro ⟨ban, -, holds⟩
        exact Backend.not_holdsAt mirrors.agrees found (Nat.le_add_right _ _) holds
    · intro left told
      rw [Plain.remaining, found] at told
      cases told
  | some e =>
    obtain ⟨value, deadline⟩ := e
    have before_held := Plain.of_live found
    obtain ⟨k, positive, rfl⟩ := tended.counter _ before_held
    obtain ⟨deadline', m', after, held, leaves⟩ :=
      count_of_live mirrors (by omega) found counted
    have before (t : Time) (later : s.now ≤ t) :
        s.backend.HoldsAt key t ↔ (Entry.mk (.int k) deadline).lives t = true := by
      simp [Backend.holdsAt_iff mirrors.agrees later, before_held]
    have behind (t : Time) (later : s.now ≤ t) :
        (l.count key s.now s.backend).2.HoldsAt key t ↔
          (Entry.mk (.int n) deadline').lives t = true := by
      simp [Backend.holdsAt_iff after.agrees later, held]
    have cut : l.CutsShort key n s ↔ ∃ ban, l.StartsBan n ban ∧
        (Entry.mk (.int k) deadline).lives (s.now + ban) = true :=
      exists_congr fun ban => and_congr_right fun _ => before _ (Nat.le_add_right _ _)
    have uncut := leaves.lives_iff_uncut (.int k) (.int n)
    rw [← cut] at uncut
    constructor
    · rw [← uncut]
      exact forall₂_congr fun t later => imp_congr (before t later) (behind t later)
    · intro left told
      rw [Plain.remaining, found] at told
      obtain ⟨t, rfl, rfl⟩ := Option.map_eq_some_iff.mp (Except.ok.inj told)
      have ahead := Plain.lt_of_live found
      obtain ⟨t', rfl, ahead'⟩ : ∃ t', deadline' = some t' ∧ s.now < t' := by
        rcases leaves with ⟨ban, starts, rfl⟩ | ⟨-, rfl⟩
        · exact ⟨_, rfl, Nat.lt_add_of_pos_right (starts.pos accepted)⟩
        · exact ⟨t, rfl, ahead⟩
      refine ⟨t' - s.now, ?_, ?_⟩
      · rw [(after.getExpire key).1, Plain.remaining_of_deadline held ahead']
      · rw [le_left_iff ahead ahead', ← uncut]
        simp [Entry.lives_iff]

/-- **A call over the limit makes the counter expire earlier exactly if it starts a ban that the
counter would have outlasted.** Take any course of calls with one key, and a call that now is
counted over the limit. The action decides on it. The counter is still there whenever it would have
been there without the call, and what is told to be left of it is no less than before, exactly if it
is not so that the call starts the ban and the counter would have outlasted the ban. If no ban is
shorter than a window, that is so of no counter with a deadline. -/
theorem expires_no_sooner_iff (accepted : l.config.flaw? = none) (course : l.Course key w)
    (working : w.backend.down = []) (clock : s.now = w.now) (same : s.backend = w.backend)
    (has_key : l.key args = .ok key) (counted : (l.count key s.now s.backend).1 = .ok n)
    (exceeds : l.isOver n = true) (action : LimitAction σ) (op : Site σ → Except ε α × Site σ) :
    let backend := (l.count key s.now s.backend).2
    (∃ events, l.call action args op s =
      Outcome.ofRuling (action.decide key args s.own).1 op
        { s with backend, events, own := (action.decide key args s.own).2 }) ∧
    ((∀ t, s.now ≤ t → s.backend.HoldsAt key t → backend.HoldsAt key t) ↔
      ¬ l.CutsShort key n s) ∧
    (∀ left, (s.backend.getExpire s.now key).1 = .ok (some left) →
      ∃ left', (backend.getExpire s.now key).1 = .ok (some left') ∧
        (left ≤ left' ↔ ¬ l.CutsShort key n s)) ∧
    ((∀ ban, l.config.ban = some ban → l.config.period ≤ ban) →
      ¬ s.backend.Undated s.now key → ¬ l.CutsShort key n s) := by
  intro backend
  obtain ⟨m, tended⟩ := course.tended
  have mirrors : s.backend.Mirrors s.now m := by
    rw [clock, same]
    exact ⟨working, tended.agrees⟩
  have beyond : (l.config.limit : Int) < n := of_decide_eq_true exceeds
  obtain ⟨count, rfl⟩ := Int.eq_ofNat_of_zero_le (show 0 ≤ n by omega)
  have notWithin : ¬ count ≤ l.config.limit := by omega
  obtain ⟨events, concluded⟩ := call_of_count action (Prod.ext counted rfl) has_key op
  rw [LimitConfig.ruling, if_neg notWithin] at concluded
  obtain ⟨holds, left⟩ := tended.kept_iff_uncut accepted mirrors counted
  exact ⟨⟨events, concluded⟩, holds, left, tended.not_cutsShort clock same⟩

/-- With a window of 60 and a ban of 300, the second call comes when 50 are left, and no less is
left after it. -/
theorem longer_ban_keeps_counter :
    let template : Template := ⟨"m:digest", [.literal "m:digest"], by decide +kernel⟩
    let l : Limiter := ⟨⟨⟨"m", "digest"⟩, []⟩, .ofFunctions [], template,
      { LimitConfig.per 1 60 with ban := some 300 }⟩
    let op : Site Unit → Except Unit Unit × Site Unit := fun s => (.ok (), s)
    let once := (l.call .reject ⟨[], []⟩ op (.start ())).2.pass 10
    let twice := l.call .reject ⟨[], []⟩ op once
    (once.backend.getExpire once.now "m:digest").1 = .ok (some 50) ∧
      twice.1 = ⟨false, .error (.policy (.rateLimitExceeded "m:digest"))⟩ ∧
      ∃ left, (twice.2.backend.getExpire twice.2.now "m:digest").1 = .ok (some left) ∧
        50 ≤ left := by
  intro template l op once twice
  let store : Store := ⟨[("m:digest", ⟨.int 1, some 60⟩)], [(60, "m:digest")]⟩
  have has_key : l.key ⟨[], []⟩ = .ok "m:digest" := by decide +kernel
  have opening : l.count "m:digest" 0 .empty = (.ok ((1 : Nat) : Int), ⟨store, []⟩) := rfl
  obtain ⟨events, first⟩ := call_of_count (s := .start ()) .reject opening has_key op
  have reached : once = { Site.start () with now := 10, backend := ⟨store, []⟩, events } := by
    change Site.pass (l.call .reject ⟨[], []⟩ op (.start ())).2 10 = _
    rw [first]
    rfl
  have course : l.Course "m:digest" ⟨10, ⟨store, []⟩, [.counted 1],
      [(.opening 1, .counted 1), (.arrived, .opening 1)]⟩ :=
    (((Course.move ⟨0, [], .refl⟩ (.arrive _)).move (.advance _ [] [] .arrived rfl)).move
      (.advance _ [] [] (.opening 1) rfl)).move (.around (.pass _ 10))
  have counted : (l.count "m:digest" once.now once.backend).1 = .ok 2 := by
    rw [reached]
    rfl
  have told : (once.backend.getExpire once.now "m:digest").1 = .ok (some 50) := by
    rw [reached]
    rfl
  obtain ⟨⟨events', concluded⟩, -, left, uncut⟩ :=
    expires_no_sooner_iff (by decide) course rfl (by rw [reached]) (by rw [reached]) has_key counted
      (by decide) .reject op
  have dated : ¬ once.backend.Undated once.now "m:digest" := by
    rintro ⟨-, untold⟩
    rw [Backend.up, reached] at untold
    cases untold
  obtain ⟨left', told', more⟩ := left 50 told
  change twice = _ at concluded
  refine ⟨told, by rw [concluded]; rfl, left', ?_, ?_⟩
  · rw [concluded]
    exact told'
  · apply more.mpr
    apply uncut _ dated
    rintro ban ⟨⟩
    decide

/-- With a window of 60 seconds and a ban of 10, the second call leaves 10 seconds of the 60. After
these a call is let through that would have been refused without the second one. -/
theorem shorter_ban_frees_caller :
    let template : Template := ⟨"m:short", [.literal "m:short"], by decide +kernel⟩
    let l : Limiter := ⟨⟨⟨"m", "short"⟩, []⟩, .ofFunctions [], template,
      { LimitConfig.per 1 (Duration.seconds 60) with ban := some (Duration.seconds 10) }⟩
    let op : Site Unit → Except Unit Unit × Site Unit := fun s => (.ok (), s)
    let call (s : Site Unit) := l.call .reject ⟨[], []⟩ op s
    let once := (call (.start ())).2
    let twice := call once
    l.config.flaw? = none ∧
      (once.backend.getExpire once.now "m:short").1 = .ok (some (Duration.seconds 60)) ∧
      twice.1.ran = false ∧
      (twice.2.backend.getExpire twice.2.now "m:short").1 = .ok (some (Duration.seconds 10)) ∧
      (call (once.pass (Duration.seconds 10))).1.ran = false ∧
      (call (twice.2.pass (Duration.seconds 10))).1.ran = true := by
  decide +kernel

end Limiter
end Latchkey
