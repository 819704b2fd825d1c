import Latchkey.Proofs.Store.Refinement
import Latchkey.Limiter

/-!
The machine that a limiter is meant to be: a window for each key, with the number of calls counted
in it and the instant at which it ends. `count_eq_next`: the stages of a call, each of them an
access to the backend, together move the machine by one call.
-/

namespace Latchkey

/-- A window of one key: how many calls were counted in it, and when it ends. -/
structure Window where
  count : Nat
  deadline : Time
  counted : 0 < count

/-- The windows of all keys, those included that have ended. -/
abbrev Windows := String → Option Window

namespace LimitConfig

/-- The window in which a call at an instant is counted: one more call in the window that there is,
the first one of a new window if there is none or it has ended. -/
def enter (c : LimitConfig) (now : Time) : Option Window → Window
  | none => ⟨1, now + c.period, Nat.one_pos⟩
  | some w =>
    if w.deadline ≤ now then ⟨1, now + c.period, Nat.one_pos⟩
    else ⟨w.count + 1, w.deadline, Nat.succ_pos _⟩

/-- The first call over the limit makes a ban of its window, if there are bans. -/
def stretch (c : LimitConfig) (now : Time) (w : Window) : Window :=
  match c.ban with
  | none => w
  | some ban => if w.count = c.limit + 1 then { w with deadline := now + ban } else w

/-- The window of a key after a call at an instant. -/
def next (c : LimitConfig) (now : Time) (found : Option Window) : Window :=
  c.stretch now (c.enter now found)

theorem enter_of_elapsed {c : LimitConfig} {now : Time} {found : Option Window}
    (elapsed : ∀ w, found = some w → w.deadline ≤ now) :
    c.enter now found = ⟨1, now + c.period, Nat.one_pos⟩ := by
  cases found with
  | none => rfl
  | some w => exact if_pos (elapsed w rfl)

theorem enter_of_lasting (c : LimitConfig) {now : Time} {w : Window} (lasts : now < w.deadline) :
    c.enter now (some w) = ⟨w.count + 1, w.deadline, Nat.succ_pos _⟩ :=
  if_neg (Nat.not_le.mpr lasts)

theorem period_pos {c : LimitConfig} (accepted : c.flaw? = none) : 0 < c.period := by
  unfold flaw? at accepted
  split at accepted
  · cases accepted
  · rename_i some_time
    exact Nat.pos_of_ne_zero some_time

theorem stretch_count (c : LimitConfig) (now : Time) (w : Window) :
    (c.stretch now w).count = w.count := by
  unfold stretch
  split
  · rfl
  · split <;> rfl

end LimitConfig

namespace Window

/-- A window as an entry: a counter with a deadline. -/
def entry (w : Window) : Entry := ⟨.int w.count, some w.deadline⟩

theorem lives_entry (w : Window) (now : Time) : w.entry.lives now = decide (now < w.deadline) := rfl

end Window

namespace Windows

/-- No windows. -/
def none : Windows := fun _ => .none

/-- A window in place of the one that was there. -/
def set (ws : Windows) (key : String) (w : Window) : Windows := Function.update ws key (some w)

theorem set_apply (ws : Windows) (key other : String) (w : Window) :
    ws.set key w other = if other = key then some w else ws other :=
  Function.update_apply _ _ _ _

/-- The window of a key, unless it has ended. -/
def live (ws : Windows) (now : Time) (key : String) : Option Window :=
  (ws key).filter fun w => decide (now < w.deadline)

theorem enter_of_ended {ws : Windows} {now : Time} {key : String} (c : LimitConfig)
    (ended : ws.live now key = .none) :
    c.enter now (ws key) = ⟨1, now + c.period, Nat.one_pos⟩ := by
  refine LimitConfig.enter_of_elapsed fun w found => ?_
  simpa [live, found, Option.filter_some] using ended

theorem enter_of_live {ws : Windows} {now : Time} {key : String} {w : Window} (c : LimitConfig)
    (lasts : ws.live now key = some w) :
    c.enter now (ws key) = ⟨w.count + 1, w.deadline, Nat.succ_pos _⟩ := by
  simp only [live, Option.filter_eq_some_iff, decide_eq_true_eq] at lasts
  rw [lasts.1, c.enter_of_lasting lasts.2]

/-- The entries of the windows. -/
def plain (ws : Windows) : Plain := fun key => (ws key).map Window.entry

theorem plain_set (ws : Windows) (key : String) (w : Window) :
    (ws.set key w).plain = ws.plain.put key w.entry := by
  funext other
  unfold plain set Plain.put Function.update
  split
  · rename_i same
    subst same
    rfl
  · rfl

theorem live_plain (ws : Windows) (now : Time) (key : String) :
    ws.plain.live now key = (ws.live now key).map Window.entry := by
  unfold Plain.live plain live
  rw [Option.filter_map]
  rfl

/-- What is read of a counter is the number of calls in the window and the time it still lasts. -/
theorem get_plain (ws : Windows) (now : Time) (key : String) :
    ws.plain.get now key = (ws.live now key).map fun w => .int w.count := by
  rw [Plain.get, live_plain, Option.map_map]
  rfl

theorem remaining_plain (ws : Windows) (now : Time) (key : String) :
    ws.plain.remaining now key = (ws.live now key).map fun w => w.deadline - now := by
  rw [Plain.remaining, live_plain]
  cases ws.live now key <;> rfl

/-- Moving the deadline of a window that has not ended. -/
theorem expire_plain (ws : Windows) {now : Time} (key : String) {w : Window}
    (lasts : now < w.deadline) (timeout : Duration) :
    (ws.set key w).plain.expire now key timeout =
      (ws.set key { w with deadline := now + timeout }).plain := by
  have found : (ws.plain.put key w.entry).live now key = some w.entry := by
    rw [Plain.live_put, if_pos rfl]
    exact Option.filter_some_pos (by simpa [Window.lives_entry] using lasts)
  rw [plain_set, plain_set, Plain.expire, found]
  exact Function.update_idem _ _ _

/-- The first call of a window: a counter that starts at 1 and is then given its deadline. -/
theorem open_plain (ws : Windows) {now : Time} {key : String} (ended : ws.live now key = .none)
    (period : Duration) :
    ws.plain.incr now key = (some 1, ws.plain.put key ⟨.int 1, .none⟩) ∧
      (ws.plain.put key ⟨.int 1, .none⟩).expire now key period =
        (ws.set key ⟨1, now + period, Nat.one_pos⟩).plain := by
  constructor
  · rw [Plain.incr, live_plain, ended]
    rfl
  · have found : (ws.plain.put key ⟨.int 1, .none⟩).live now key = some ⟨.int 1, .none⟩ := by
      rw [Plain.live_put, if_pos rfl]
      rfl
    rw [Plain.expire, found, plain_set]
    exact Function.update_idem _ _ _

/-- One more call in a window that has not ended. -/
theorem raise_plain (ws : Windows) {now : Time} {key : String} {w : Window}
    (lasts : ws.live now key = some w) (fits : w.count < Word.signedEnd) :
    ws.plain.incr now key =
      (some ((w.count + 1 : Nat) : Int),
        (ws.set key ⟨w.count + 1, w.deadline, Nat.succ_pos _⟩).plain) := by
  have inWord : -9223372036854775808 ≤ (w.count : Int) ∧ (w.count : Int) < 9223372036854775808 := by
    unfold Word.signedEnd at fits
    omega
  rw [Plain.incr, live_plain, lasts, plain_set]
  simp only [Option.map_some, Window.entry, if_pos inWord]
  rfl

end Windows

namespace Limiter

variable {l : Limiter} {key : String} {now : Time} {b : Backend} {ws : Windows}

theorem advanceBy_succ (n : Nat) (stage : Counting) (b : Backend) :
    l.advanceBy key now (n + 1) stage b =
      l.advanceBy key now n (l.advance key now stage b).1 (l.advance key now stage b).2 := rfl

theorem advanceBy_counted (n : Nat) (count : Int) (b : Backend) :
    l.advanceBy key now n (.counted count) b = (.counted count, b) := by
  induction n with
  | zero => rfl
  | succ n ih => exact ih

theorem advance_banning (banned : (b.expire now key (l.config.ban.getD 0)).1 = .ok ())
    (count : Int) :
    l.advance key now (.banning count) b =
      (.counted count, (b.expire now key (l.config.ban.getD 0)).2) := by
  unfold advance
  generalize b.expire now key (l.config.ban.getD 0) = access at banned
  obtain ⟨answer, after⟩ := access
  dsimp only at banned
  subst banned
  rfl

/-- From the window on: the ban is started if this is the first call over the limit. -/
theorem advanceBy_afterOpening {w : Window} (h : b.Mirrors now (ws.set key w).plain)
    (lasts : now < w.deadline) (n : Nat) :
    ∃ after, l.advanceBy key now (n + 1) (l.afterOpening w.count) b = (.counted w.count, after) ∧
      after.Mirrors now (ws.set key (l.config.stretch now w)).plain := by
  unfold afterOpening LimitConfig.stretch
  cases ban : l.config.ban with
  | none =>
    refine ⟨b, ?_, h⟩
    simp [advanceBy_counted]
  | some d =>
    by_cases first : w.count = l.config.limit + 1
    · have first' : (w.count : Int) = (l.config.limit : Int) + 1 := by omega
      obtain ⟨answer, after⟩ := h.expire key (l.config.ban.getD 0)
      have banned := advance_banning answer (w.count : Int)
      rw [ws.expire_plain key lasts] at after
      refine ⟨(b.expire now key (l.config.ban.getD 0)).2, ?_, by simpa [ban, first] using after⟩
      rw [if_pos ⟨rfl, first'⟩, advanceBy_succ, banned]
      exact advanceBy_counted n _ _
    · have differ : ¬ (w.count : Int) = (l.config.limit : Int) + 1 := by omega
      refine ⟨b, ?_, by simpa [first] using h⟩
      rw [if_neg fun both => differ both.2]
      exact advanceBy_counted _ _ _

theorem advance_arrived {count : Int} (raised : (b.incr now key).1 = .ok count) :
    l.advance key now .arrived b = (l.afterRaise count, (b.incr now key).2) := by
  unfold advance
  generalize b.incr now key = access at raised
  obtain ⟨answer, after⟩ := access
  dsimp only at raised
  subst raised
  rfl

theorem advance_opening {count : Int} (opened : (b.expire now key l.config.period).1 = .ok ()) :
    l.advance key now (.opening count) b =
      (l.afterOpening count, (b.expire now key l.config.period).2) := by
  unfold advance
  generalize b.expire now key l.config.period = access at opened
  obtain ⟨answer, after⟩ := access
  dsimp only at opened
  subst opened
  rfl

theorem count_of_advanceBy {count : Int} {after : Backend}
    (h : l.advanceBy key now 3 .arrived b = (.counted count, after)) :
    l.count key now b = (.ok count, after) := by
  unfold Limiter.count
  rw [h]

/-- **A call moves the window machine by one call.** It is counted in the window that the machine
says, and the store keeps that window in the place of the one that was there. -/
theorem count_eq_next (accepted : l.config.flaw? = none) (h : b.Mirrors now ws.plain)
    (fits : ∀ w, ws key = some w → w.count < Word.signedEnd) :
    ∃ after, l.count key now b = (.ok ((l.config.next now (ws key)).count : Int), after) ∧
      after.Mirrors now (ws.set key (l.config.next now (ws key))).plain := by
  unfold LimitConfig.next
  rw [LimitConfig.stretch_count]
  obtain ⟨raised, counted⟩ := h.incr key
  cases found : ws.live now key with
  | none =>
    -- a new window: the counter starts at 1 without a deadline, and is then given one
    obtain ⟨first, opening⟩ := ws.open_plain found l.config.period
    rw [first] at raised counted
    obtain ⟨opened, window⟩ := counted.expire key l.config.period
    rw [opening] at window
    have lasts : now < now + l.config.period :=
      Nat.lt_add_of_pos_right (LimitConfig.period_pos accepted)
    obtain ⟨after, stages, mirrors⟩ := advanceBy_afterOpening window lasts 0
    rw [Windows.enter_of_ended _ found]
    refine ⟨after, count_of_advanceBy ?_, mirrors⟩
    calc l.advanceBy key now 3 .arrived b
        = l.advanceBy key now 2 (.opening 1) (b.incr now key).2 := by
          rw [advanceBy_succ, advance_arrived raised, afterRaise, if_pos rfl]
      _ = l.advanceBy key now 1 (l.afterOpening 1) _ := by
          rw [advanceBy_succ, advance_opening opened]
      _ = (.counted 1, after) := stages
  | some w =>
    -- the window goes on: the counter is raised and keeps its deadline
    have lives := Option.filter_eq_some_iff.mp found
    rw [ws.raise_plain found (fits w lives.1)] at raised counted
    have more : ¬ ((w.count + 1 : Nat) : Int) = 1 := by
      have := w.counted
      omega
    obtain ⟨after, stages, mirrors⟩ :=
      advanceBy_afterOpening (l := l) counted (of_decide_eq_true lives.2) 1
    rw [Windows.enter_of_live _ found]
    refine ⟨after, count_of_advanceBy ?_, mirrors⟩
    rw [advanceBy_succ, advance_arrived raised, afterRaise, if_neg more]
    exact stages

end Limiter
end Latchkey
