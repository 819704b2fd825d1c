import Latchkey.Proofs.Limiter.Lifetimes

/-!
The first call over the limit makes a ban of the window by an access of its own, after the one that
gave it its number. Between the two the counter may expire, and after them a call that was to start
the window before may still do so. `ban_lasts_iff`: these are the only two ways in which the ban is
missed or lost before its time, and as long as it lasts every call is over the limit.
-/

namespace Latchkey

namespace Plain

variable {now : Time} {key : String} {m : Plain} {value : Json} {t : Time}

theorem live_of_deadline (found : m key = some ⟨value, some t⟩) (ahead : now < t) :
    m.live now key = some ⟨value, some t⟩ :=
  Option.filter_eq_some_iff.mpr ⟨found, by simpa [Entry.lives] using ahead⟩

theorem lt_of_live (found : m.live now key = some ⟨value, some t⟩) : now < t := by
  simpa [Entry.lives] using (Option.filter_eq_some_iff.mp found).2

theorem live_expire {e : Entry} (found : m.live now key = some e) {timeout : Duration}
    (some_time : 0 < timeout) :
    (m.expire now key timeout).live now key = some ⟨e.value, some (now + timeout)⟩ := by
  refine live_of_deadline ?_ (Nat.lt_add_of_pos_right some_time)
  rw [expire, found]
  exact put_self _

/-- Raised or not, a counter that exists keeps its deadline and is none the lower. -/
theorem incr_keeps {n : Int} (found : m.live now key = some ⟨.int n, some t⟩) :
    ∃ n', n ≤ n' ∧ (m.incr now key).2 key = some ⟨.int n', some t⟩ := by
  rw [incr, found]
  dsimp only
  split
  · exact ⟨n + 1, by omega, put_self _⟩
  · exact ⟨n, Int.le_refl n, of_live found⟩

end Plain

namespace Limiter

variable {σ : Type}

/-- There is a counter over the limit. -/
def Over (l : Limiter) (key : String) (w : Crowd σ) : Prop :=
  ∃ n, (w.site.backend.get w.site.now key).1 = .ok (some (.int n)) ∧ l.isOver n = true

/-- There is a counter over the limit, and it stays at least until an instant unless its deadline is
moved. -/
def Banned (l : Limiter) (key : String) (stop : Time) (w : Crowd σ) : Prop :=
  l.Over key w ∧
    ∃ d, (w.site.backend.getExpire w.site.now key).1 = .ok (some d) ∧ stop ≤ w.site.now + d

/-- A call starts the window, which ends before an instant. -/
def Cuts (l : Limiter) (key : String) (stop : Time) (w : Crowd σ) : Act key → Prop
  | .access i => (∃ n, (w.callers i).stage = .opening n) ∧ w.site.now + l.config.period < stop
  | _ => False

variable {l : Limiter} {key : String} {stop : Time} {w : Crowd σ} {m : Plain} {i : Nat}

theorem over_iff (mirrors : w.site.backend.Mirrors w.site.now m) :
    l.Over key w ↔
      ∃ n deadline, m.live w.site.now key = some ⟨.int n, deadline⟩ ∧ l.isOver n = true := by
  unfold Over
  rw [(mirrors.get key).1, Plain.get]
  constructor
  · rintro ⟨n, told, exceeds⟩
    obtain ⟨⟨value, deadline⟩, found, rfl⟩ := Option.map_eq_some_iff.mp (Except.ok.inj told)
    exact ⟨n, deadline, found, exceeds⟩
  · rintro ⟨n, deadline, found, exceeds⟩
    exact ⟨n, by rw [found]; rfl, exceeds⟩

theorem banned_iff (mirrors : w.site.backend.Mirrors w.site.now m) :
    l.Banned key stop w ↔
      ∃ n t, m.live w.site.now key = some ⟨.int n, some t⟩ ∧ l.isOver n = true ∧ stop ≤ t := by
  unfold Banned
  rw [over_iff mirrors, (mirrors.getExpire key).1, Plain.remaining]
  constructor
  · rintro ⟨⟨n, deadline, found, exceeds⟩, d, told, lasts⟩
    rw [found] at told
    obtain ⟨t, rfl, rfl⟩ := Option.map_eq_some_iff.mp (Except.ok.inj told)
    have ahead : w.site.now < t := Plain.lt_of_live found
    rw [Nat.add_sub_of_le (Nat.le_of_lt ahead)] at lasts
    exact ⟨n, t, found, exceeds, lasts⟩
  · rintro ⟨n, t, found, exceeds, lasts⟩
    exact ⟨⟨n, some t, found, exceeds⟩, t - w.site.now, by rw [found]; rfl, lasts.trans le_add_tsub⟩

theorem banned_of_entry (mirrors : w.site.backend.Mirrors w.site.now m) {n : Int} {t : Time}
    (held : m key = some ⟨.int n, some t⟩) (exceeds : l.isOver n = true) (lasts : stop ≤ t)
    (before : w.site.now < stop) : l.Banned key stop w :=
  (banned_iff mirrors).mpr
    ⟨n, t, Plain.live_of_deadline held (Nat.lt_of_lt_of_le before lasts), exceeds, lasts⟩

theorem access_mirrors (l : Limiter) (key : String) (mirrors : w.site.backend.Mirrors w.site.now m)
    (i : Nat) :
    (l.access key i w).site.backend.Mirrors (l.access key i w).site.now
      (l.advancePlain key w.site.now (w.callers i).stage m).2 := by
  rw [access_site]
  exact (l.advance_mirrors key mirrors (w.callers i).stage).2

theorem access_now (l : Limiter) (key : String) (i : Nat) (w : Crowd σ) :
    (l.access key i w).site.now = w.site.now := by
  rw [access_site]

/-- The start of a ban makes one of a counter over the limit, and of nothing else. -/
theorem banned_iff_over (mirrors : w.site.backend.Mirrors w.site.now m) {count : Int}
    (stands : (w.callers i).stage = .banning count) {ttl : Duration}
    (bans : l.config.ban = some ttl) (some_time : 0 < ttl) :
    l.Banned key (w.site.now + ttl) (l.access key i w) ↔ l.Over key w := by
  have after := l.access_mirrors key mirrors i
  rw [stands, advancePlain, bans] at after
  rw [banned_iff after, over_iff mirrors, access_now]
  constructor
  · rintro ⟨n, t, found, exceeds, -⟩
    obtain ⟨⟨value, deadline⟩, before, same⟩ := Plain.of_live_expire found
    cases same
    exact ⟨n, deadline, before, exceeds⟩
  · rintro ⟨n, deadline, found, exceeds⟩
    exact ⟨n, w.site.now + ttl, Plain.live_expire found some_time, exceeds, Nat.le_refl _⟩

theorem isOver_of_le {n n' : Int} (exceeds : l.isOver n = true) (more : n ≤ n') :
    l.isOver n' = true :=
  decide_eq_true (Int.lt_of_lt_of_le (of_decide_eq_true exceeds) more)

theorem advancePlain_arrived (l : Limiter) (key : String) (now : Time) (m : Plain) :
    (l.advancePlain key now .arrived m).2 = (m.incr now key).2 := by
  unfold advancePlain
  cases m.incr now key with
  | mk count m' => cases count <;> rfl

/-- A ban is lost to the start of a window that ends before it, and to no other access. -/
theorem banned_access_iff (mirrors : w.site.backend.Mirrors w.site.now m) {ttl : Duration}
    (bans : l.config.ban = some ttl) (reach : stop ≤ w.site.now + ttl)
    (banned : l.Banned key stop w) (i : Nat) (before : w.site.now < stop) :
    l.Banned key stop (l.access key i w) ↔ ¬ l.Cuts key stop w (.access i) := by
  obtain ⟨n, t, found, exceeds, lasts⟩ := (banned_iff mirrors).mp banned
  have after := l.access_mirrors key mirrors i
  have before' : (l.access key i w).site.now < stop := by
    rwa [access_now]
  have uncut (other : ∀ count, (w.callers i).stage ≠ .opening count) :
      ¬ l.Cuts key stop w (.access i) := by
    rintro ⟨⟨count, opening⟩, -⟩
    exact other count opening
  cases stands : (w.callers i).stage with
  | arrived =>
    rw [stands, advancePlain_arrived] at after
    obtain ⟨n', more, held⟩ := Plain.incr_keeps found
    exact iff_of_true (banned_of_entry after held (isOver_of_le exceeds more) lasts before')
      (uncut (by rw [stands]; rintro _ ⟨⟩))
  | opening count =>
    rw [stands, advancePlain] at after
    rw [banned_iff after, access_now]
    constructor
    · rintro ⟨_, t', found', -, lasts'⟩ ⟨-, sooner⟩
      obtain ⟨_, -, same⟩ := Plain.of_live_expire found'
      obtain rfl : t' = _ := Option.some.inj (Entry.mk.inj same).2
      exact absurd sooner (Nat.not_lt.mpr lasts')
    · intro kept
      have lasts' : stop ≤ w.site.now + l.config.period :=
        Nat.not_lt.mp fun sooner => kept ⟨⟨count, stands⟩, sooner⟩
      have some_time : 0 < l.config.period :=
        Nat.pos_of_lt_add_right (Nat.lt_of_lt_of_le before lasts')
      exact ⟨n, _, Plain.live_expire found some_time, exceeds, lasts'⟩
  | banning count =>
    rw [stands, advancePlain, bans] at after
    have some_time : 0 < ttl := Nat.pos_of_lt_add_right (Nat.lt_of_lt_of_le before reach)
    have held := Plain.of_live (Plain.live_expire found some_time)
    exact iff_of_true (banned_of_entry after held exceeds reach before')
      (uncut (by rw [stands]; rintro _ ⟨⟩))
  | counted | failed =>
    rw [stands] at after
    exact iff_of_true (banned_of_entry after (Plain.of_live found) exceeds lasts before')
      (uncut (by rw [stands]; rintro _ ⟨⟩))

/-- **A ban is lost in one way only.** -/
theorem banned_act_iff (mirrors : w.site.backend.Mirrors w.site.now m) {ttl : Duration}
    (bans : l.config.ban = some ttl) (reach : stop ≤ w.site.now + ttl)
    (banned : l.Banned key stop w) (a : Act key) (before : (l.act key w a).site.now < stop) :
    l.Banned key stop (l.act key w a) ↔ ¬ l.Cuts key stop w a := by
  obtain ⟨n, t, found, exceeds, lasts⟩ := (banned_iff mirrors).mp banned
  cases a with
  | pass d =>
    have later : (l.act key w (.pass d)).site.backend.Mirrors _ m :=
      mirrors.later (Nat.le_add_right w.site.now d)
    exact iff_of_true (banned_of_entry later (Plain.of_live found) exceeds lasts before) id
  | serve r apart =>
    have kept : (m.serve w.site.now r).2 key = m key := Plain.serve_of_not_writes apart _ m
    have served : (l.act key w (.serve r apart)).site.backend.Mirrors _ _ := (mirrors.serve r).2
    have held := kept.trans (Plain.of_live found)
    exact iff_of_true (banned_of_entry served held exceeds lasts before) id
  | access i =>
    have before' : (l.access key i w).site.now < stop := before
    rw [access_now] at before'
    exact banned_access_iff mirrors bans reach banned i before'
  | conclude i args =>
    have same : l.Banned key stop (l.conclude key i args w) := by
      rcases l.conclude_cases key i args w with same | ⟨_, _, _, concluded⟩
      · rwa [same]
      · rw [concluded]
        exact banned
    exact iff_of_true same id

/-- A raise that finds a counter over the limit gets a number over the limit. -/
theorem isOver_of_raise (mirrors : w.site.backend.Mirrors w.site.now m) (exceeds : l.Over key w)
    (arrived : (w.callers i).stage = .arrived) {count : Int}
    (told : ((l.access key i w).callers i).stage.number? = some count) :
    l.isOver count = true := by
  obtain ⟨n, deadline, found, exceeds⟩ := (over_iff mirrors).mp exceeds
  rw [access_callers, Function.update_self, (l.advance_mirrors key mirrors _).1, arrived,
    advancePlain] at told
  cases raised : m.incr w.site.now key with
  | mk count' m' =>
    rw [raised] at told
    cases count' with
    | none => cases told
    | some count' =>
      cases (l.number_afterRaise count').symm.trans told
      rcases Plain.incr_some raised with ⟨free, -, -⟩ | ⟨n', _, found', rfl, -⟩
      · cases free.symm.trans found
      · cases found.symm.trans found'
        exact isOver_of_le exceeds (by omega)

theorem now_le_act (l : Limiter) (key : String) (w : Crowd σ) (a : Act key) :
    w.site.now ≤ (l.act key w a).site.now := by
  cases a with
  | pass d => exact Nat.le_add_right _ _
  | serve r apart => exact Nat.le_refl _
  | access i => exact Nat.le_of_eq (l.access_now key i w).symm
  | conclude i args =>
    have same : (l.conclude key i args w).site.now = w.site.now := by
      rcases l.conclude_cases key i args w with same | ⟨_, _, _, concluded⟩
      · rw [same]
      · rw [concluded]
    exact Nat.le_of_eq same.symm

theorem now_le_play (l : Limiter) (key : String) (acts : List (Act key)) (w : Crowd σ) :
    w.site.now ≤ (l.play key acts w).site.now := by
  induction acts generalizing w with
  | nil => exact Nat.le_refl _
  | cons a acts ih => exact Nat.le_trans (l.now_le_act key w a) (ih _)

/-- As long as its time has not come, a ban is kept throughout if no start of a window cuts it. -/
theorem banned_play_iff (orderly : l.Orderly key w m) {ttl : Duration}
    (bans : l.config.ban = some ttl) (reach : stop ≤ w.site.now + ttl)
    (banned : l.Banned key stop w) (acts : List (Act key))
    (before : (l.play key acts w).site.now < stop) :
    (∀ earlier, earlier <+: acts → l.Banned key stop (l.play key earlier w)) ↔
      ∀ earlier a, earlier ++ [a] <+: acts → ¬ l.Cuts key stop (l.play key earlier w) a := by
  induction acts generalizing w m with
  | nil =>
    refine iff_of_true (fun earlier none => ?_) fun earlier a none => ?_
    · rwa [List.prefix_nil.mp none]
    · cases List.append_eq_nil_iff.mp (List.prefix_nil.mp none) with
      | intro _ absurd => cases absurd
  | cons a acts ih =>
    have now := l.now_le_act key w a
    have before' := Nat.lt_of_le_of_lt (l.now_le_play key acts (l.act key w a)) before
    have step := banned_act_iff orderly.mirrors bans reach banned a before'
    obtain ⟨m', orderly'⟩ := orderly.act a
    have rest (still : l.Banned key stop (l.act key w a)) :=
      ih orderly' (Nat.le_trans reach (Nat.add_le_add_right now ttl)) still before
    constructor
    · intro kept
      have still : l.Banned key stop (l.act key w a) := kept [a] (by simp)
      have uncut := (rest still).mp fun earlier front => kept (a :: earlier) (by simpa using front)
      rintro (_ | ⟨b, earlier⟩) c front
      · obtain ⟨rfl, -⟩ := List.cons_prefix_cons.mp front
        exact step.mp still
      · obtain ⟨rfl, behind⟩ := List.cons_prefix_cons.mp front
        exact uncut earlier c behind
    · intro uncut
      have still : l.Banned key stop (l.act key w a) := step.mpr (uncut [] a (by simp))
      have kept := (rest still).mpr fun earlier c front =>
        uncut (a :: earlier) c (by simpa using front)
      rintro (_ | ⟨b, earlier⟩) front
      · exact banned
      · obtain ⟨rfl, behind⟩ := List.cons_prefix_cons.mp front
        exact kept earlier behind

/-! ## The ban of a lifetime that lasts -/

/-- A call that starts the ban while the lifetime lasts that it was counted in finds a counter over
the limit. -/
theorem Orderly.over_of_life (orderly : l.Orderly key w m) {r : Raise} (among : r ∈ w.raises)
    (lasts : w.life key = r.life) (exceeds : l.isOver r.number = true) : l.Over key w := by
  rw [Crowd.life_of_mirrors key orderly.mirrors] at lasts
  rw [over_iff orderly.mirrors]
  cases found : m.live w.site.now key with
  | none =>
    rw [found] at lasts
    have begun := orderly.begun r among
    rw [← lasts] at begun
    exact absurd begun (Nat.not_succ_le_self _)
  | some e =>
    rw [found] at lasts
    obtain ⟨value, deadline⟩ := e
    obtain rfl : value = _ := orderly.counter _ found
    have given : r.number ∈ upTo (w.numbers w.lives).length := by
      rw [← orderly.numbered]
      exact List.mem_map_of_mem (List.mem_filter.mpr ⟨among, decide_eq_true lasts.symm⟩)
    obtain ⟨k, earlier, number⟩ := List.mem_map.mp given
    have less := List.mem_range.mp earlier
    exact ⟨_, deadline, rfl, isOver_of_le exceeds (by omega)⟩

/-- **A ban is missed where the counter has expired before it was set, and lost where a window is
started late, and in no other way.** A call was counted as the first one over the limit and now
starts the ban. Until that is to end, whatever else happens: there is a counter over the limit, with
a deadline not before the end of the ban, at every moment exactly if there is one over the limit now
and no call starts a window that ends before the ban. There is one over the limit now if the
lifetime lasts in which the call was counted. And as long as the ban is kept, every call that raises
the counter is over the limit. -/
theorem ban_lasts_iff (s : Site σ) (acts : List (Act key)) {count : Int} {ttl : Duration}
    (stands : ((l.play key acts (.start s)).callers i).stage = .banning count)
    (bans : l.config.ban = some ttl) (later : List (Act key)) :
    let before := l.play key acts (.start s)
    let stop := before.site.now + ttl
    let after := l.access key i before
    (l.play key later after).site.now < stop →
      ((∀ earlier, earlier <+: later → l.Banned key stop (l.play key earlier after)) ↔
        l.Over key before ∧
          ∀ earlier a, earlier ++ [a] <+: later → ¬ l.Cuts key stop (l.play key earlier after) a) ∧
      (∀ r ∈ before.raises, r.caller = i → before.life key = r.life → l.Over key before) ∧
      ∀ earlier j count, l.Banned key stop (l.play key earlier after) →
        ((l.play key earlier after).callers j).stage = .arrived →
        ((l.access key j (l.play key earlier after)).callers j).stage.number? = some count →
        l.isOver count = true := by
  intro before stop after ends
  obtain ⟨m, orderly⟩ := (l.orderly_start key s).play acts
  obtain ⟨m', orderly'⟩ := orderly.access i
  have clock : after.site.now = before.site.now := l.access_now key i before
  have some_time : 0 < ttl := by
    have started := Nat.lt_of_le_of_lt (l.now_le_play key later after) ends
    rw [clock] at started
    exact Nat.pos_of_lt_add_right started
  have start : l.Banned key stop after ↔ l.Over key before :=
    banned_iff_over orderly.mirrors stands bans some_time
  have reach : stop ≤ after.site.now + ttl := Nat.le_of_eq (by rw [clock])
  have along (banned : l.Banned key stop after) :=
    banned_play_iff orderly' bans reach banned later ends
  refine ⟨?_, ?_, ?_⟩
  · constructor
    · intro kept
      have banned : l.Banned key stop after := kept [] List.nil_prefix
      exact ⟨start.mp banned, (along banned).mp kept⟩
    · rintro ⟨exceeds, uncut⟩
      exact (along (start.mpr exceeds)).mpr uncut
  · rintro r among rfl lasts
    have number := orderly.standing r among
    rw [stands] at number
    cases number
    refine orderly.over_of_life among lasts ?_
    have first := orderly.bans _ _ stands
    exact decide_eq_true (by omega)
  · intro earlier j count banned arrived told
    obtain ⟨_, reached⟩ := orderly'.play earlier
    exact isOver_of_raise reached.mirrors banned.1 arrived told

/-- A window of 10 seconds is started before the ban of 20, and the ban outlasts it: 15 seconds on,
a call is counted as the third one. -/
theorem ban_outlasts_window :
    let template : Template := ⟨"m:send", [.literal "m:send"], by decide +kernel⟩
    let l : Limiter := ⟨⟨⟨"m", "send"⟩, []⟩, .ofFunctions [], template,
      { LimitConfig.per 1 (Duration.seconds 10) with ban := some (Duration.seconds 20) }⟩
    let before := l.play "m:send" [.access 0, .access 0, .access 1] (.start (.start ()))
    let stop := before.site.now + Duration.seconds 20
    let after := l.access "m:send" 1 before
    let later : List (Act "m:send") := [.pass (Duration.seconds 15)]
    (before.callers 1).stage = .banning 2 ∧ l.config.ban = some (Duration.seconds 20) ∧
      (l.play "m:send" later after).site.now < stop ∧
      (∀ earlier, earlier <+: later → l.Banned "m:send" stop (l.play "m:send" earlier after)) ∧
      ((l.access "m:send" 2 (l.play "m:send" later after)).callers 2).stage = .counted 3 := by
  intro template l before stop after later
  have stands : (before.callers 1).stage = .banning 2 := by decide +kernel
  have bans : l.config.ban = some (Duration.seconds 20) := rfl
  have ends : (l.play "m:send" later after).site.now < stop := by decide +kernel
  obtain ⟨kept, own, -⟩ :=
    ban_lasts_iff (.start ()) [.access 0, .access 0, .access 1] stands bans later ends
  have exceeds : l.Over "m:send" before :=
    own ⟨1, 1, 2⟩ (by decide +kernel) rfl (by decide +kernel)
  have uncut : ∀ earlier a, earlier ++ [a] <+: later →
      ¬ l.Cuts "m:send" stop (l.play "m:send" earlier after) a := by
    intro earlier a front
    have waits := List.mem_singleton.mp (front.subset (List.mem_append_right _ (.head _)))
    rw [waits]
    exact id
  exact ⟨stands, bans, ends, kept.mpr ⟨exceeds, uncut⟩, by decide +kernel⟩

/-- The call that was counted first starts the window only after the ban, and so cuts it short: of
20 seconds there are 10 left, and after these a call is counted as the first one. -/
theorem late_window_cuts_ban :
    let template : Template := ⟨"m:post", [.literal "m:post"], by decide +kernel⟩
    let l : Limiter := ⟨⟨⟨"m", "post"⟩, []⟩, .ofFunctions [], template,
      { LimitConfig.per 1 (Duration.seconds 10) with ban := some (Duration.seconds 20) }⟩
    let before := l.play "m:post" [.access 0, .access 1] (.start (.start ()))
    let after := l.access "m:post" 1 before
    let cut := l.access "m:post" 0 after
    let later := l.play "m:post" [.pass (Duration.seconds 10), .access 2] cut
    (before.callers 1).stage = .banning 2 ∧
      (after.site.backend.getExpire after.site.now "m:post").1 =
        .ok (some (Duration.seconds 20)) ∧
      (cut.site.backend.getExpire cut.site.now "m:post").1 = .ok (some (Duration.seconds 10)) ∧
      later.site.now < before.site.now + Duration.seconds 20 ∧
      (later.callers 2).stage = .opening 1 := by
  decide +kernel

end Limiter
end Latchkey
