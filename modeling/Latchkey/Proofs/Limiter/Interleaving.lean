import Mathlib.Logic.Relation
import Latchkey.Proofs.Store.Frame
import Latchkey.Limiter

/-!
Calls of a limiter with one key, any number of them at the same time and each at some stage. Between
any two stages time may pass, accesses may begin or cease to fail, and others may use the backend
under other keys. `Move.tended` is the step lemma: which counter has a deadline can be read off what
the stages so far have come to.
-/

namespace Latchkey

/-- A stage of a call: where the call stood before and after it. -/
abbrev Passage := Counting × Counting

/-- Calls with one key that are being counted, the backend, and all stages so far, the latest
first. -/
structure Traffic where
  now : Time
  backend : Backend
  calls : List Counting
  log : List Passage

/-- Whether a call has been counted or has failed. -/
def Counting.settled : Counting → Bool
  | .counted _ | .failed _ => true
  | .arrived | .opening _ | .banning _ => false

namespace Traffic

/-- What goes on around the calls: time passes, other accesses fail than before, a request is served
that does not write under the key. -/
inductive Around (key : String) : Traffic → Traffic → Prop
  | pass (w : Traffic) (d : Duration) : Around key w { w with now := w.now + d }
  | fail (w : Traffic) (down : List Op) :
      Around key w { w with backend := { w.backend with down } }
  | serve (w : Traffic) (r : Request) : ¬ r.writes key →
      Around key w { w with backend := (w.backend.serve w.now r).2 }

end Traffic

namespace Limiter

/-- A step: something around the calls, a call that comes, a stage of one of the calls, a call that
goes after it has been counted or has failed. -/
inductive Move (l : Limiter) (key : String) : Traffic → Traffic → Prop
  | around {w w' : Traffic} : w.Around key w' → Move l key w w'
  | arrive (w : Traffic) : Move l key w { w with calls := .arrived :: w.calls }
  | advance (w : Traffic) (before after : List Counting) (stage : Counting) :
      w.calls = before ++ stage :: after →
      Move l key w
        { w with
          backend := (l.advance key w.now stage w.backend).2
          calls := before ++ (l.advance key w.now stage w.backend).1 :: after
          log := (stage, (l.advance key w.now stage w.backend).1) :: w.log }
  | leave (w : Traffic) (before after : List Counting) (stage : Counting) :
      w.calls = before ++ stage :: after → stage.settled →
      Move l key w { w with calls := before ++ after }

/-- A course of steps from an empty store, with whatever accesses failing. -/
def Course (l : Limiter) (key : String) (w : Traffic) : Prop :=
  ∃ now down, Relation.ReflTransGen (l.Move key) ⟨now, ⟨.empty, down⟩, [], []⟩ w

theorem Course.move {l : Limiter} {key : String} {w w' : Traffic} (course : l.Course key w)
    (move : l.Move key w w') : l.Course key w' := by
  obtain ⟨now, down, moves⟩ := course
  exact ⟨now, down, moves.tail move⟩

end Limiter

namespace Passage

/-- The stage created the counter. -/
def creates : Passage → Bool
  | (.arrived, .opening _) => true
  | _ => false

/-- The stage set a deadline, if there was a counter to set it for. -/
def dates : Passage → Bool
  | (.opening _, .failed _) | (.banning _, .failed _) => false
  | (.opening _, _) | (.banning _, _) => true
  | _ => false

end Passage

/-- A counter was created, and no stage has set a deadline since. -/
inductive Bare : List Passage → Prop
  | created {p : Passage} (log : List Passage) : p.creates → Bare (p :: log)
  | kept {p : Passage} {log : List Passage} : Bare log → p.dates = false → Bare (p :: log)

/-- A counter was created, the access failed that was to start its window, and no stage has set a
deadline since. -/
inductive Stranded : List Passage → Prop
  | missed {log : List Passage} (n : Int) (e : BackendError) : Bare log →
      Stranded ((.opening n, .failed e) :: log)
  | kept {p : Passage} {log : List Passage} : Stranded log → p.dates = false → Stranded (p :: log)

theorem Stranded.bare {log : List Passage} (stranded : Stranded log) : Bare log := by
  induction stranded with
  | missed n e bare => exact bare.kept rfl
  | kept _ undated ih => exact ih.kept undated

theorem bare_cons {p : Passage} {log : List Passage} :
    Bare (p :: log) ↔ p.creates = true ∨ Bare log ∧ p.dates = false := by
  constructor
  · rintro (⟨_, creates⟩ | ⟨bare, undated⟩)
    · exact .inl creates
    · exact .inr ⟨bare, undated⟩
  · rintro (creates | ⟨bare, undated⟩)
    · exact .created log creates
    · exact bare.kept undated

theorem bare_cons_of_dates {p : Passage} {log : List Passage} (dated : p.dates = true) :
    ¬ Bare (p :: log) := by
  rw [bare_cons]
  rintro (creates | ⟨-, undated⟩)
  · obtain ⟨stage, stage'⟩ := p
    cases stage <;> simp_all [Passage.creates, Passage.dates]
  · simp [dated] at undated

theorem Passage.plain_of_settled {stage : Counting} (settled : stage.settled) :
    Passage.creates (stage, stage) = false ∧ Passage.dates (stage, stage) = false := by
  cases stage with
  | counted | failed => exact ⟨rfl, rfl⟩
  | arrived | opening | banning => cases settled

theorem Passage.plain_of_failed (stage : Counting) (e : BackendError) :
    Passage.creates (stage, .failed e) = false ∧ Passage.dates (stage, .failed e) = false := by
  cases stage <;> exact ⟨rfl, rfl⟩

theorem bare_cons_of_plain {p : Passage} {log : List Passage} (uncreating : p.creates = false)
    (undated : p.dates = false) : Bare (p :: log) ↔ Bare log := by
  rw [bare_cons, uncreating, undated]
  simp

namespace Plain

variable {now : Time} {key : String} {m m' : Plain}

/-- A counter that was raised is a new one, or one more than a counter that exists. -/
theorem incr_some {count : Int} (raised : m.incr now key = (some count, m')) :
    (m.live now key = none ∧ count = 1 ∧ m' = m.put key ⟨.int 1, none⟩) ∨
      ∃ n deadline, m.live now key = some ⟨.int n, deadline⟩ ∧ count = n + 1 ∧
        m' = m.put key ⟨.int (n + 1), deadline⟩ := by
  unfold incr at raised
  split at raised
  · next free =>
    cases raised
    exact .inl ⟨free, rfl, rfl⟩
  · next n deadline found =>
    split at raised
    · cases raised
      exact .inr ⟨n, deadline, found, rfl, rfl⟩
    · cases raised
  · cases raised

theorem put_self (e : Entry) : m.put key e key = some e := Function.update_self _ _ _

theorem of_live {e : Entry} (found : m.live now key = some e) : m key = some e :=
  (Option.filter_eq_some_iff.mp found).1

/-- What has no deadline exists at every instant. -/
theorem live_of_bare {e : Entry} (found : m key = some e) (undated : e.deadline = none)
    (now : Time) : m.live now key = some e :=
  Option.filter_eq_some_iff.mpr ⟨found, by simp [Entry.lives, undated]⟩

/-- After an attempt to set its deadline an entry has one. -/
theorem dated_of_expire {timeout : Duration} {e : Entry}
    (found : m.expire now key timeout key = some e) : e.deadline ≠ none := by
  intro undated
  unfold expire at found
  cases alive : m.live now key with
  | none =>
    rw [alive] at found
    rw [live_of_bare found undated] at alive
    cases alive
  | some held =>
    rw [alive] at found
    cases (put_self _).symm.trans found
    cases undated

end Plain

namespace Limiter

variable {l : Limiter} {key : String} {now : Time} {b : Backend} {m : Plain}

/-- What a stage can come to, and what it does to the entries. -/
inductive Stage (l : Limiter) (key : String) (now : Time) (m : Plain) :
    Counting → Counting → Plain → Prop
  | raised {count : Int} {m' : Plain} : m.incr now key = (some count, m') →
      Stage l key now m .arrived (l.afterRaise count) m'
  | opened (count : Int) : Stage l key now m (.opening count) (l.afterOpening count)
      (m.expire now key l.config.period)
  | banned (count : Int) : Stage l key now m (.banning count) (.counted count)
      (m.expire now key (l.config.ban.getD 0))
  | failed (stage : Counting) (e : BackendError) : Stage l key now m stage (.failed e) m
  | rests {stage : Counting} : stage.settled → Stage l key now m stage stage m

theorem advance_stage (l : Limiter) (key : String) (h : b.store.Agrees now m) (stage : Counting) :
    ∃ m', (l.advance key now stage b).2.store.Agrees now m' ∧
      l.Stage key now m stage (l.advance key now stage b).1 m' := by
  cases stage with
  | arrived =>
    unfold advance
    rcases Backend.incr_cases h key with
      ⟨e, after, failed, agrees⟩ | ⟨_, _, after, raised, done, agrees⟩
    · rw [failed]
      exact ⟨m, agrees, .failed _ e⟩
    · rw [done]
      exact ⟨_, agrees, .raised raised⟩
  | opening count =>
    unfold advance
    rcases Backend.expire_cases h key l.config.period with
      ⟨e, failed⟩ | ⟨after, done, agrees⟩
    · rw [failed]
      exact ⟨m, h, .failed _ e⟩
    · rw [done]
      exact ⟨_, agrees, .opened count⟩
  | banning count =>
    unfold advance
    rcases Backend.expire_cases h key (l.config.ban.getD 0) with
      ⟨e, failed⟩ | ⟨after, done, agrees⟩
    · rw [failed]
      exact ⟨m, h, .failed _ e⟩
    · rw [done]
      exact ⟨_, agrees, .banned count⟩
  | counted | failed => exact ⟨m, h, .rests rfl⟩

/-- The stage after the window is no start of a window, and no failure. -/
theorem afterOpening_cases (l : Limiter) (count : Int) :
    l.afterOpening count = .banning count ∨ l.afterOpening count = .counted count := by
  unfold afterOpening
  split
  · exact .inl rfl
  · exact .inr rfl

end Limiter

/-- The longest time that a deadline is set for. -/
def LimitConfig.reach (c : LimitConfig) : Duration := max c.period (c.ban.getD 0)

namespace Limiter

variable {l : Limiter} {key : String} {w w' : Traffic} {m : Plain}

/-- The counter of the key in the course of the calls: a positive number, with a deadline that comes
within reach, or without one exactly if the log says so. -/
structure Tended (l : Limiter) (key : String) (w : Traffic) (m : Plain) : Prop where
  agrees : w.backend.store.Agrees w.now m
  counter : ∀ e, m key = some e → ∃ n : Nat, 0 < n ∧ e.value = .int n
  within : ∀ e t, m key = some e → e.deadline = some t → t ≤ w.now + l.config.reach
  bare : (∃ e, m key = some e ∧ e.deadline = none) ↔ Bare w.log
  opener : Bare w.log → Stranded w.log ∨ ∃ n, .opening n ∈ w.calls

theorem tended_start (l : Limiter) (key : String) (now : Time) (down : List Op) :
    l.Tended key ⟨now, ⟨.empty, down⟩, [], []⟩ .empty where
  agrees := .empty now
  counter _ found := by cases found
  within _ _ found := by cases found
  bare := by
    constructor
    · rintro ⟨_, found, _⟩
      cases found
    · intro bare
      cases bare
  opener bare := by cases bare

end Limiter

/-- What goes on around the calls leaves the entry under their key alone. -/
theorem Traffic.Around.keeps {key : String} {w w' : Traffic} {m : Plain} (around : w.Around key w')
    (agrees : w.backend.store.Agrees w.now m) :
    w'.calls = w.calls ∧ w'.log = w.log ∧ w.now ≤ w'.now ∧
      ∃ m' : Plain, w'.backend.store.Agrees w'.now m' ∧ m' key = m key := by
  cases around with
  | pass d =>
    have later : w.now ≤ w.now + d := Nat.le_add_right _ _
    exact ⟨rfl, rfl, later, m, agrees.later later, rfl⟩
  | fail down => exact ⟨rfl, rfl, Nat.le_refl _, m, agrees, rfl⟩
  | serve r leaves =>
    obtain ⟨_, m', served, frame⟩ := w.backend.serve_frame agrees r
    exact ⟨rfl, rfl, Nat.le_refl _, m', served, frame key leaves⟩

namespace Limiter

variable {l : Limiter} {key : String} {w w' : Traffic} {m : Plain}

theorem Tended.around (tended : l.Tended key w m) (around : w.Around key w') :
    ∃ m', l.Tended key w' m' ∧ m' key = m key := by
  obtain ⟨calls, log, later, m', agrees, same⟩ := around.keeps tended.agrees
  refine ⟨m', ?_, same⟩
  constructor
  · exact agrees
  · rw [same]
    exact tended.counter
  · rw [same]
    intro e t found due
    exact Nat.le_trans (tended.within e t found due) (Nat.add_le_add_right later _)
  · rw [same, log]
    exact tended.bare
  · rw [calls, log]
    exact tended.opener

/-- A stage that sets no deadline leaves the start of the window to the call that it was left to,
unless it is that call's stage and fails. -/
theorem opener_kept {before after : List Counting} {stage stage' : Counting}
    (calls : w.calls = before ++ stage :: after)
    (undated : Passage.dates (stage, stage') = false)
    (failing : ∀ n, stage = .opening n → ∃ e, stage' = .failed e) (bare : Bare w.log)
    (opener : Stranded w.log ∨ ∃ n, .opening n ∈ w.calls) :
    Stranded ((stage, stage') :: w.log) ∨ ∃ n, .opening n ∈ before ++ stage' :: after := by
  rcases opener with stranded | ⟨n, there⟩
  · exact .inl (stranded.kept undated)
  · rw [calls, List.mem_append, List.mem_cons] at there
    rcases there with front | this | back
    · exact .inr ⟨n, List.mem_append_left _ front⟩
    · obtain ⟨e, rfl⟩ := failing n this.symm
      subst this
      exact .inl (.missed n e bare)
    · exact .inr ⟨n, List.mem_append_right _ (List.mem_cons_of_mem _ back)⟩

/-- One of the calls has come to another stage. -/
abbrev passed (w : Traffic) (before after : List Counting) (stage stage' : Counting)
    (backend : Backend) : Traffic :=
  { w with backend, calls := before ++ stage' :: after, log := (stage, stage') :: w.log }

section Stages

variable {before after : List Counting} {stage stage' : Counting} {backend : Backend} {m' : Plain}

/-- A stage that neither creates the counter nor sets its deadline. -/
theorem Tended.plain_stage (tended : l.Tended key w m) (calls : w.calls = before ++ stage :: after)
    (agrees : backend.store.Agrees w.now m') (uncreating : Passage.creates (stage, stage') = false)
    (undated : Passage.dates (stage, stage') = false)
    (failing : ∀ n, stage = .opening n → ∃ e, stage' = .failed e)
    (counter : ∀ e, m' key = some e → ∃ n : Nat, 0 < n ∧ e.value = .int n)
    (deadline : (m' key).map Entry.deadline = (m key).map Entry.deadline) :
    l.Tended key (passed w before after stage stage' backend) m' := by
  have same : ∀ d, (∃ e, m' key = some e ∧ e.deadline = d) ↔
      ∃ e, m key = some e ∧ e.deadline = d := by
    intro d
    rw [← Option.map_eq_some_iff, ← Option.map_eq_some_iff, deadline]
  constructor
  · exact agrees
  · exact counter
  · intro e t found due
    obtain ⟨held, found', due'⟩ := (same (some t)).mp ⟨e, found, due⟩
    exact tended.within held t found' due'
  · rw [bare_cons_of_plain uncreating undated]
    exact (same none).trans tended.bare
  · rw [bare_cons_of_plain uncreating undated]
    intro bare
    exact opener_kept calls undated failing bare (tended.opener bare)

/-- A stage that sets the deadline of the counter. -/
theorem Tended.dated_stage (tended : l.Tended key w m) {timeout : Duration}
    (agrees : backend.store.Agrees w.now (m.expire w.now key timeout))
    (reached : timeout ≤ l.config.reach) (dated : Passage.dates (stage, stage') = true) :
    l.Tended key (passed w before after stage stage' backend) (m.expire w.now key timeout) := by
  have kept : ∀ e, m.expire w.now key timeout key = some e →
      ∃ held, m key = some held ∧ e.value = held.value ∧
        (e.deadline = held.deadline ∨ e.deadline = some (w.now + timeout)) := by
    intro e found
    unfold Plain.expire at found
    cases alive : m.live w.now key with
    | none =>
      rw [alive] at found
      exact ⟨e, found, rfl, .inl rfl⟩
    | some held =>
      rw [alive] at found
      cases (Plain.put_self _).symm.trans found
      exact ⟨held, Plain.of_live alive, rfl, .inr rfl⟩
  constructor
  · exact agrees
  · intro e found
    obtain ⟨held, found', value, _⟩ := kept e found
    rw [value]
    exact tended.counter held found'
  · intro e t found due
    obtain ⟨held, found', _, old | new⟩ := kept e found
    · exact tended.within held t found' (old ▸ due)
    · cases new.symm.trans due
      exact Nat.add_le_add_left reached _
  · constructor
    · rintro ⟨e, found, undated⟩
      exact absurd undated (Plain.dated_of_expire found)
    · intro bare
      exact absurd bare (bare_cons_of_dates dated)
  · intro bare
    exact absurd bare (bare_cons_of_dates dated)

/-- The stage that creates the counter. -/
theorem tended_created (agrees : backend.store.Agrees w.now (m.put key ⟨.int 1, none⟩)) :
    l.Tended key (passed w before after .arrived (.opening 1) backend)
      (m.put key ⟨.int 1, none⟩) := by
  have created : m.put key ⟨.int 1, none⟩ key = some ⟨.int 1, none⟩ := Plain.put_self _
  have bare : Bare ((.arrived, .opening 1) :: w.log) := .created _ rfl
  constructor
  · exact agrees
  · intro e found
    cases created.symm.trans found
    exact ⟨1, Nat.one_pos, rfl⟩
  · intro e t found due
    cases created.symm.trans found
    cases due
  · exact ⟨fun _ => bare, fun _ => ⟨_, created, rfl⟩⟩
  · intro _
    exact .inr ⟨1, List.mem_append_right _ List.mem_cons_self⟩

end Stages

/-- What a raised counter is followed by is neither its creation nor a deadline. -/
theorem afterOpening_plain (l : Limiter) (count : Int) :
    Passage.creates (.arrived, l.afterOpening count) = false ∧
      Passage.dates (.arrived, l.afterOpening count) = false := by
  rcases l.afterOpening_cases count with ban | done
  · rw [ban]
    exact ⟨rfl, rfl⟩
  · rw [done]
    exact ⟨rfl, rfl⟩

theorem afterOpening_dates (l : Limiter) (count : Int) :
    Passage.dates (.opening count, l.afterOpening count) = true := by
  rcases l.afterOpening_cases count with ban | done
  · rw [ban]
    rfl
  · rw [done]
    rfl

/-- One stage of one of the calls. -/
theorem Tended.advance (tended : l.Tended key w m) {before after : List Counting} {stage : Counting}
    (calls : w.calls = before ++ stage :: after) :
    ∃ m', l.Tended key (passed w before after stage (l.advance key w.now stage w.backend).1
      (l.advance key w.now stage w.backend).2) m' := by
  obtain ⟨m', agrees, came⟩ := l.advance_stage key tended.agrees stage
  refine ⟨m', ?_⟩
  generalize (l.advance key w.now stage w.backend).1 = stage' at came
  cases came with
  | raised raised =>
    rcases Plain.incr_some raised with ⟨_, rfl, rfl⟩ | ⟨n, deadline, found, rfl, rfl⟩
    · exact tended_created agrees
    · -- a counter that exists is positive, so that the raised one starts no window
      have held := Plain.of_live found
      obtain ⟨k, positive, value⟩ := tended.counter _ held
      cases value
      have more : ¬ ((k : Int) + 1 = 1) := by omega
      have next : l.afterRaise (k + 1) = l.afterOpening (k + 1) := if_neg more
      rw [next]
      obtain ⟨uncreating, undated⟩ := l.afterOpening_plain (k + 1)
      refine tended.plain_stage calls agrees uncreating undated (by intro n h; cases h) ?_ ?_
      · intro e found'
        cases (Plain.put_self _).symm.trans found'
        exact ⟨k + 1, Nat.succ_pos k, rfl⟩
      · rw [Plain.put_self, held]
        rfl
  | opened count =>
    exact tended.dated_stage agrees (Nat.le_max_left _ _) (l.afterOpening_dates count)
  | banned count => exact tended.dated_stage agrees (Nat.le_max_right _ _) rfl
  | failed stage e =>
    obtain ⟨uncreating, undated⟩ := Passage.plain_of_failed stage e
    exact tended.plain_stage calls agrees uncreating undated (fun _ _ => ⟨e, rfl⟩)
      tended.counter rfl
  | rests settled =>
    obtain ⟨uncreating, undated⟩ := Passage.plain_of_settled settled
    refine tended.plain_stage calls agrees uncreating undated ?_ tended.counter rfl
    rintro n rfl
    cases settled

/-- **What a step preserves.** -/
theorem Move.tended (move : l.Move key w w') (tended : l.Tended key w m) :
    ∃ m', l.Tended key w' m' := by
  cases move with
  | around around =>
    obtain ⟨m', after, _⟩ := tended.around around
    exact ⟨m', after⟩
  | arrive =>
    refine ⟨m, tended.agrees, tended.counter, tended.within, tended.bare, fun bare => ?_⟩
    rcases tended.opener bare with stranded | ⟨n, there⟩
    · exact .inl stranded
    · exact .inr ⟨n, List.mem_cons_of_mem _ there⟩
  | advance before after stage calls => exact tended.advance calls
  | leave before after stage calls settled =>
    refine ⟨m, tended.agrees, tended.counter, tended.within, tended.bare, fun bare => ?_⟩
    rcases tended.opener bare with stranded | ⟨n, there⟩
    · exact .inl stranded
    · rw [calls, List.mem_append, List.mem_cons] at there
      rcases there with front | rfl | back
      · exact .inr ⟨n, List.mem_append_left _ front⟩
      · cases settled
      · exact .inr ⟨n, List.mem_append_right _ back⟩

/-- **What a course preserves.** -/
theorem Course.tended (course : l.Course key w) : ∃ m, l.Tended key w m := by
  obtain ⟨now, down, moves⟩ := course
  induction moves with
  | refl => exact ⟨.empty, l.tended_start key now down⟩
  | tail _ move ih =>
    obtain ⟨m, tended⟩ := ih
    exact move.tended tended

end Limiter
end Latchkey
