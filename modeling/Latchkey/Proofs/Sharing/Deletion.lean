import Latchkey.Proofs.Sharing.Footprint

/-!
Two runs side by side, one with all calls and one with some of them, in which everything else
happens as before and at the same times. Where the calls that are left work in places of their own,
`Alike.run`: each of their steps comes to the same in both runs. The stores of the two runs differ,
also in what is dropped from them and when; what is alike are the plain entries in these places.
`keys_do_not_interfere` is the case of all calls of limiters with one key.
-/

namespace Latchkey

variable {σ : Type}

/-- The calls that are made work in some places, all others outside of them, and no trace is shared
between the two. -/
structure Parted (calls : Nat → SharedCall σ) (made : Nat → Bool) (places : String → Prop) :
    Prop where
  stateless : ∀ i, (calls i).Stateless
  within : ∀ i place, made i = true → (calls i).place = .ok place → places place
  outside : ∀ i place, made i = false → (calls i).place = .ok place → ¬ places place
  slots : ∀ i j slot, made i = true → made j = false → (calls i).slot? = some slot →
    (calls j).slot? ≠ some slot

namespace SharedCall

variable {c d : SharedCall σ} {s s' : Site σ}

theorem kept?_of_slot? (same : d.slot? = c.slot?) (s : Site σ) : d.kept? s = c.kept? s := by
  rw [kept?, kept?, same]

/-- A step leaves the trace alone that another call works with. -/
theorem kept?_step (apart : ∀ slot, d.slot? = some slot → c.slot? ≠ some slot)
    (standing : Standing) (s : Site σ) : d.kept? (c.step standing s).2 = d.kept? s := by
  unfold kept?
  cases slot : d.slot? with
  | none => rfl
  | some slot' => exact (c.step_beside standing s).2 slot' (apart slot' slot)

theorem trace_of_kept? (same : c.kept? s' = c.kept? s) :
    c.slot?.map s'.trace = c.slot?.map s.trace := by
  cases c with
  | limited => rfl
  | timed c =>
    have same : s'.traces[c.breaker.slot]? = s.traces[c.breaker.slot]? := same
    have trace : s'.trace c.breaker.slot = s.trace c.breaker.slot := by
      rw [Site.trace, Site.trace, List.getD_eq_getElem?_getD, List.getD_eq_getElem?_getD, same]
    exact congrArg some trace

end SharedCall

namespace Scene

variable {calls : Nat → SharedCall σ} {made : Nat → Bool} {places : String → Prop}
  {w w' : Scene σ} {i : Nat}

/-- Two scenes in which the calls that are made find the same. -/
structure Alike (calls : Nat → SharedCall σ) (made : Nat → Bool) (places : String → Prop)
    (w w' : Scene σ) : Prop where
  clock : w'.site.now = w.site.now
  entries : ∃ m m' : Plain, w.site.backend.Mirrors w.site.now m ∧
    w'.site.backend.Mirrors w'.site.now m' ∧ ∀ place, places place → m place = m' place
  traces : ∀ i, made i = true → (calls i).kept? w'.site = (calls i).kept? w.site
  standings : ∀ i, made i = true → w'.standings i = w.standings i

theorem alike_start (calls : Nat → SharedCall σ) (made : Nat → Bool) (places : String → Prop)
    (s : Site σ) : Alike calls made places (.start s) (.start s) where
  clock := rfl
  entries := ⟨.empty, .empty, .empty _, .empty _, fun _ _ => rfl⟩
  traces _ _ := rfl
  standings _ _ := rfl

/-- What is read of the places is the same, now and later. -/
theorem Alike.reads (alike : Alike calls made places w w') {place : String} (among : places place)
    {t : Time} (later : w.site.now ≤ t) :
    (w'.site.backend.get t place).1 = (w.site.backend.get t place).1 ∧
      (w'.site.backend.getExpire t place).1 = (w.site.backend.getExpire t place).1 := by
  obtain ⟨m, m', mirrors, mirrors', same⟩ := alike.entries
  have mirrors := mirrors.later later
  have mirrors' := mirrors'.later (alike.clock ▸ later)
  have same := same place among
  rw [(mirrors.get place).1, (mirrors'.get place).1, (mirrors.getExpire place).1,
    (mirrors'.getExpire place).1, Plain.get_congr same, Plain.remaining_congr same]
  exact ⟨rfl, rfl⟩

/-- What can be told of a call that is made is the same. -/
theorem Alike.sight (parted : Parted calls made places) (alike : Alike calls made places w w')
    (is_made : made i = true) : w'.sight calls i = w.sight calls i := by
  apply Sight.ext
  · rfl
  · exact alike.standings i is_made
  · unfold Scene.sight
    cases placed : (calls i).place with
    | error e => rfl
    | ok place =>
      have among := parted.within i place is_made placed
      obtain ⟨value, left⟩ := alike.reads among (Nat.le_refl _)
      dsimp only [Except.toOption, Option.map_some]
      rw [alike.clock, value, left]
  · exact SharedCall.trace_of_kept? (alike.traces i is_made)

theorem Alike.update (alike : Alike calls made places w w') (i : Nat) (standing : Standing) :
    ∀ j, made j = true →
      Function.update w'.standings i standing j = Function.update w.standings i standing j := by
  intro j is_made
  by_cases same : j = i
  · subst same
    rw [Function.update_self, Function.update_self]
  · rw [Function.update_of_ne same, Function.update_of_ne same]
    exact alike.standings j is_made

/-- If a step leaves the same trace in both scenes, it leaves the same traces of all calls. -/
theorem Alike.kept?_step (alike : Alike calls made places w w') {standing : Standing}
    (same : (calls i).kept? ((calls i).step standing w'.site).2 =
      (calls i).kept? ((calls i).step standing w.site).2) :
    ∀ j, made j = true → (calls j).kept? ((calls i).step standing w'.site).2 =
      (calls j).kept? ((calls i).step standing w.site).2 := by
  intro j is_made
  by_cases shared : (calls j).slot? = (calls i).slot?
  · rw [SharedCall.kept?_of_slot? shared, SharedCall.kept?_of_slot? shared]
    exact same
  · have apart : ∀ slot, (calls j).slot? = some slot → (calls i).slot? ≠ some slot := by
      intro slot mine other
      exact shared (mine.trans other.symm)
    rw [SharedCall.kept?_step apart, SharedCall.kept?_step apart]
    exact alike.traces j is_made

/-- A step of a call that is made, in both scenes. -/
theorem Alike.step (parted : Parted calls made places) (alike : Alike calls made places w w')
    (is_made : made i = true) :
    Alike calls made places (w.happen calls (.step i)) (w'.happen calls (.step i)) := by
  rw [happen_step, happen_step, alike.standings i is_made]
  cases placed : (calls i).place with
  | error e =>
    -- without a key the call ends, and nothing is touched
    rw [SharedCall.step_of_no_place placed, SharedCall.step_of_no_place placed]
    exact { alike with standings := alike.update i _ }
  | ok place =>
    -- one confined access is what the step does in both scenes
    obtain ⟨access, confined, spec⟩ := SharedCall.step_confined (parted.stateless i) placed
      (w.standings i) w.site.now ((calls i).kept? w.site)
    obtain ⟨m, m', mirrors, mirrors', same⟩ := alike.entries
    obtain ⟨told, after⟩ := spec w.site m rfl rfl mirrors
    obtain ⟨told', after'⟩ :=
      spec w'.site m' alike.clock (alike.traces i is_made) (alike.clock ▸ mirrors')
    obtain ⟨answer, left⟩ := confined.agree (parted.within i place is_made placed) same
    have outcome := told'.trans (answer.symm.trans told.symm)
    obtain ⟨clock, -⟩ := (calls i).step_beside (w.standings i) w.site
    obtain ⟨clock', -⟩ := (calls i).step_beside (w.standings i) w'.site
    rw [← clock] at after
    rw [← alike.clock, ← clock'] at after'
    constructor
    · exact (clock'.trans alike.clock).trans clock.symm
    · exact ⟨(access m).2, (access m').2, after, after', left⟩
    · exact alike.kept?_step (congrArg Prod.snd outcome)
    · have standing := congrArg Prod.fst outcome
      dsimp only at standing ⊢
      rw [standing]
      exact alike.update i _

/-- A step of another call, in the one scene. -/
theorem Alike.step_left (parted : Parted calls made places) (alike : Alike calls made places w w')
    (unmade : made i = false) : Alike calls made places (w.happen calls (.step i)) w' := by
  rw [happen_step]
  have others : ∀ (standing : Standing) (j : Nat), made j = true →
      w'.standings j = Function.update w.standings i standing j := by
    intro standing j is_made
    have differ : j ≠ i := by
      rintro rfl
      rw [unmade] at is_made
      cases is_made
    rw [Function.update_of_ne differ]
    exact alike.standings j is_made
  cases placed : (calls i).place with
  | error e =>
    rw [SharedCall.step_of_no_place placed]
    exact { alike with standings := others _ }
  | ok place =>
    obtain ⟨access, confined, spec⟩ := SharedCall.step_confined (parted.stateless i) placed
      (w.standings i) w.site.now ((calls i).kept? w.site)
    obtain ⟨m, m', mirrors, mirrors', same⟩ := alike.entries
    obtain ⟨-, after⟩ := spec w.site m rfl rfl mirrors
    have left := confined.agree_outside (parted.outside i place unmade placed) same
    obtain ⟨clock, -⟩ := (calls i).step_beside (w.standings i) w.site
    rw [← clock] at after
    constructor
    · exact alike.clock.trans clock.symm
    · exact ⟨(access m).2, m', after, mirrors', left⟩
    · intro j is_made
      dsimp only
      rw [SharedCall.kept?_step fun slot => parted.slots j i slot is_made unmade]
      exact alike.traces j is_made
    · exact others _

/-- Whatever remains happens in both scenes. -/
theorem Alike.happen (parted : Parted calls made places) (alike : Alike calls made places w w')
    {h : Happening σ} (remains : h.remains made = true) :
    Alike calls made places (w.happen calls h) (w'.happen calls h) := by
  cases h with
  | step i => exact alike.step parted remains
  | operate i f => exact { alike with }
  | pass d =>
    obtain ⟨m, m', mirrors, mirrors', same⟩ := alike.entries
    have later := mirrors.later (Nat.le_add_right w.site.now d)
    have later' := mirrors'.later (Nat.le_add_right w'.site.now d)
    exact { alike with
      clock := congrArg (· + d) alike.clock
      entries := ⟨m, m', later, later', same⟩ }
  | serve r =>
    obtain ⟨m, m', mirrors, mirrors', same⟩ := alike.entries
    refine { alike with
      entries := ⟨_, _, (mirrors.serve r).2, (mirrors'.serve r).2, fun place among => ?_⟩ }
    rw [alike.clock]
    exact Plain.serve_congr (same place among) w.site.now r

/-- What does not remain happens in the one scene. -/
theorem Alike.happen_left (parted : Parted calls made places)
    (alike : Alike calls made places w w') {h : Happening σ} (goes : h.remains made = false) :
    Alike calls made places (w.happen calls h) w' := by
  cases h with
  | pass | serve => cases goes
  | step i => exact alike.step_left parted goes
  | operate i f => exact { alike with }

/-- What can be told after something that remains. -/
theorem Alike.told (parted : Parted calls made places) (alike : Alike calls made places w w')
    {h : Happening σ} (remains : h.remains made = true) :
    (h.stepped?.map (w'.sight calls)).toList =
      (h.stepped?.map (w.sight calls)).toList.filter fun v => made v.call := by
  cases h with
  | pass | serve | operate => rfl
  | step i =>
    have is_made : made i = true := remains
    change [w'.sight calls i] = [w.sight calls i].filter fun v => made v.call
    rw [alike.sight parted is_made]
    exact (List.filter_eq_self.mpr (by simpa [Scene.sight] using is_made)).symm

theorem told_left {h : Happening σ} (goes : h.remains made = false) (w : Scene σ) :
    (h.stepped?.map (w.sight calls)).toList.filter (fun v => made v.call) = [] := by
  cases h with
  | pass | serve | operate => rfl
  | step i =>
    have unmade : made i = false := goes
    simp [Happening.stepped?, Scene.sight, unmade]

/-- **The calls that are left come to the same.** Two runs from scenes that are alike, one with all
calls and one with the calls that are made. After each step of these the same can be told of them,
and at the end the scenes are alike. -/
theorem Alike.run (parted : Parted calls made places) (alike : Alike calls made places w w')
    (hs : List (Happening σ)) :
    sights calls (hs.filter (·.remains made)) w' =
        (sights calls hs w).filter (fun v => made v.call) ∧
      Alike calls made places (play calls hs w) (play calls (hs.filter (·.remains made)) w') := by
  induction hs generalizing w w' with
  | nil => exact ⟨rfl, alike⟩
  | cons h hs ih =>
    cases remains : h.remains made with
    | true =>
      have after := alike.happen parted remains
      obtain ⟨told, final⟩ := ih after
      rw [List.filter_cons_of_pos remains]
      refine ⟨?_, final⟩
      rw [sights, sights, List.filter_append, ← told, ← after.told parted remains]
    | false =>
      obtain ⟨told, final⟩ := ih (alike.happen_left parted remains)
      rw [List.filter_cons_of_neg (by rw [remains]; exact Bool.false_ne_true)]
      refine ⟨?_, final⟩
      rw [told, sights, List.filter_append, told_left remains]
      rfl

end Scene

theorem LimitedCall.hasKey_iff {c : LimitedCall σ} {key place : String}
    (has_key : c.key = .ok place) : c.hasKey key = true ↔ place = key := by
  unfold hasKey
  rw [has_key]
  simp [Except.toOption]

/-- The calls of limiters with one key work in one place, and all others outside of it. -/
theorem parted_of_key {calls : Nat → LimitedCall σ}
    (stateless : ∀ i, (calls i).action.Stateless) (key : String) :
    Parted (fun i => .limited (calls i)) (fun i => (calls i).hasKey key) (· = key) where
  stateless := stateless
  within _ _ has placed := (LimitedCall.hasKey_iff placed).mp has
  outside i place others placed same := by
    rw [(LimitedCall.hasKey_iff placed).mpr same] at others
    cases others
  slots _ _ _ _ _ none := by cases none

/-- **Keys do not interfere.** Any calls of limiters on one backend, with any settings and with
actions that go by key and arguments, at the same time or one after the other. Take out all calls
that have not a given key, and leave the others at their times. Then each step of these comes to the
same: the calls let through are the same, and so are those refused. What is reported of the value
and the time left under the key is the same after each step, and at any later time. -/
theorem keys_do_not_interfere (calls : Nat → LimitedCall σ)
    (stateless : ∀ i, (calls i).action.Stateless) (key : String) (s : Site σ)
    (hs : List (Happening σ)) :
    let all : Nat → SharedCall σ := fun i => .limited (calls i)
    let alone := hs.filter (·.remains fun i => (calls i).hasKey key)
    Scene.sights all alone (.start s) =
        (Scene.sights all hs (.start s)).filter (fun v => (calls v.call).hasKey key) ∧
      ∀ t, (Scene.play all hs (.start s)).site.now ≤ t →
        ((Scene.play all alone (.start s)).site.backend.get t key).1 =
            ((Scene.play all hs (.start s)).site.backend.get t key).1 ∧
          ((Scene.play all alone (.start s)).site.backend.getExpire t key).1 =
            ((Scene.play all hs (.start s)).site.backend.getExpire t key).1 := by
  intro all alone
  have parted := parted_of_key stateless key
  obtain ⟨told, final⟩ := (Scene.alike_start all _ _ s).run parted hs
  exact ⟨told, fun t later => final.reads rfl later⟩

/-- The second call with one key is refused, with and without a call that has another key in
between. -/
theorem refused_beside_another_key :
    let template : Template := ⟨"m:mail", [.literal "m:mail"], by decide +kernel⟩
    let other : Template := ⟨"m:page", [.literal "m:page"], by decide +kernel⟩
    let limiter (t : Template) : Limiter :=
      ⟨⟨⟨"m", "mail"⟩, []⟩, .ofFunctions [], t, .per 1 (Duration.seconds 60)⟩
    let calls : Nat → LimitedCall Unit := fun i =>
      ⟨limiter (if i = 1 then other else template), .reject, ⟨[], []⟩⟩
    let all : Nat → SharedCall Unit := fun i => .limited (calls i)
    let hs : List (Happening Unit) :=
      [0, 1, 2].flatMap fun i => .pass 1 :: List.replicate 4 (.step i)
    (∀ i, (calls i).action.Stateless) ∧
      ((Scene.sights all (hs.filter (·.remains fun i => (calls i).hasKey "m:mail"))
        (.start (.start ()))).map fun v => (v.call, v.standing)).getLast? =
        some (2, .ended (.error (.rateLimitExceeded "m:mail"))) := by
  intro template other limiter calls all hs
  have stateless : ∀ i, (calls i).action.Stateless := fun _ => LimitAction.stateless_reject
  refine ⟨stateless, ?_⟩
  rw [(keys_do_not_interfere calls stateless "m:mail" (.start ()) hs).1]
  decide +kernel

end Latchkey
