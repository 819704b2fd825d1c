import Latchkey.Proofs.Registry.Provenance
import Latchkey.Proofs.Sharing.Deletion
import Latchkey.Proofs.Signature.Key

/-!
The keys of the limiters of an engine stand below one namespace, and those of its breakers below
another. Whatever the arguments of the calls are, the first separator of a key ends its namespace,
so no counter is ever taken for a lock. `limiters_and_breakers_apart`: where limiters and breakers
share a site, neither can tell whether the others are there.
-/

namespace Latchkey

variable {σ : Type}

/-- A key that starts with the namespace and a separator. -/
def Below (space key : String) : Prop := ∃ rest, key.toList = space.toList ++ separator :: rest

namespace Below

variable {space space' key : String}

/-- A key is below one namespace only, as long as these hold no separator. -/
theorem unique (below : Below space key) (below' : Below space' key)
    (clean : separator ∉ space.toList) (clean' : separator ∉ space'.toList) : space = space' := by
  obtain ⟨rest, front⟩ := below
  obtain ⟨rest', front'⟩ := below'
  apply String.toList_inj.mp
  calc space.toList = key.toList.takeWhile (· ≠ separator) := by
        rw [front, takeWhile_separator clean]
    _ = space'.toList := by rw [front', takeWhile_separator clean']

/-- The lock of a key stands where the key stands. -/
theorem lockKey (below : Below space key) : Below space (lockKey key) := by
  obtain ⟨rest, front⟩ := below
  refine ⟨rest ++ ":lock".toList, ?_⟩
  rw [Latchkey.lockKey, String.toList_append, front]
  simp

end Below

/-- The keys of a template that has a namespace in front stand below it, whatever the values are. -/
theorem below_of_items {f : Formatter} {t : Template} {values : Values} {space key : String}
    {rest : List Item} (items : t.items = space.toList.map .char ++ .char separator :: rest)
    (made : f.format t values = .ok key) : Below space key := by
  have written : ∀ field, .field field ∈ t.items →
      f.fieldText values field = .ok (f.textOf values field) := by
    intro field among
    exact Pattern.fieldText_of_made made field (Template.mem_fields_iff.mpr among)
  cases made.symm.trans (Formatter.format_of_items written)
  refine ⟨rest.flatMap (Item.spell (f.textOf values)), ?_⟩
  rw [String.toList_ofList, items, List.flatMap_append, spell_literal, List.flatMap_cons]
  rfl

theorem Template.items_of_withPrefix {t t' : Template} {space : String}
    (wrapped : t.withPrefix space = .ok t') :
    t'.items = space.toList.map .char ++ .char separator :: t.items := by
  obtain ⟨u, made, items⟩ := t.withPrefix_items space
  cases wrapped.symm.trans made
  exact items

theorem Template.items_of_withSuffix {t t' : Template} {text : String}
    (closed : t.withSuffix text = .ok t') :
    t'.items = t.items ++ .char separator :: text.toList.map .char := by
  obtain ⟨u, made, items⟩ := t.withSuffix_items text
  cases closed.symm.trans made
  exact items

theorem LimitConfig.items_of_template {c : LimitConfig} {sig : Signature} {t : Template}
    (taken : c.template sig = .ok t) :
    ∃ rest, t.items = c.space.toList.map .char ++ .char separator :: rest := by
  obtain ⟨plain, -, wrapped⟩ := bind_eq_ok_iff.mp taken
  exact ⟨plain.items, Template.items_of_withPrefix wrapped⟩

theorem BreakerConfig.items_of_template {c : BreakerConfig} {sig : Signature} {t : Template}
    (underived : c.key = none) (taken : c.template sig = .ok t) :
    ∃ rest, t.items = c.space.toList.map .char ++ .char separator :: rest := by
  unfold template at taken
  rw [underived] at taken
  obtain ⟨plain, -, later⟩ := bind_eq_ok_iff.mp taken
  obtain ⟨below, wrapped, closed⟩ := bind_eq_ok_iff.mp later
  rw [Template.items_of_withSuffix closed, Template.items_of_withPrefix wrapped, List.append_assoc]
  exact ⟨_, rfl⟩

namespace Engine

/-- A limiter under the namespace of the engine, made on some site. -/
def MakesLimiter (σ : Type) (e : Engine) (l : Limiter) : Prop :=
  ∃ sig limit period, ∃ s s' : Site σ, e.limiterWith sig limit period s = (.ok l, s')

/-- A breaker with the settings of the engine, made on some site. -/
def MakesBreaker (σ : Type) (e : Engine) (b : Breaker) : Prop :=
  ∃ sig, ∃ s s' : Site σ, e.breakerWithDefaults sig s = (.ok b, s')

variable {e : Engine} {s s' : Site σ}

theorem template_of_limiter {sig : Signature} {c : LimitConfig} {l : Limiter}
    (made : e.limiter sig c s = (.ok l, s')) : c.template sig = .ok l.template := by
  unfold limiter at made
  split at made
  · cases made
  · split at made
    · cases made
    · next taken =>
      cases made
      exact taken

theorem template_of_breaker {sig : Signature} {c : BreakerConfig} {condition : Condition}
    {b : Breaker} (made : e.breaker sig c condition s = (.ok b, s')) :
    c.template sig = .ok b.template := by
  unfold breaker at made
  split at made
  · cases made
  · split at made
    · cases made
    · next taken =>
      cases made
      exact taken

theorem breaker_of_template {sig : Signature} {c : BreakerConfig} {t : Template} (e : Engine)
    (s : Site σ) (condition : Condition) (accepted : c.flaw? = none)
    (derived : c.template sig = .ok t) :
    e.breaker sig c condition s = (.ok ⟨sig, e.binder, t, c, condition, s.traces.length⟩,
      { (s.register sig.id t).2 with traces := s.traces ++ [[]] }) := by
  rw [breaker, accepted, derived]

theorem MakesLimiter.below {l : Limiter} (makes : e.MakesLimiter σ l) {args : CallArgs}
    {key : String} (has_key : l.key args = .ok key) : Below e.config.limiterSpace key := by
  obtain ⟨sig, limit, period, s, s', made⟩ := makes
  obtain ⟨rest, items⟩ := LimitConfig.items_of_template (template_of_limiter made)
  exact below_of_items items has_key

theorem MakesBreaker.below {b : Breaker} (makes : e.MakesBreaker σ b) {args : CallArgs}
    {key : String} (has_key : b.key args = .ok key) : Below e.config.breakerSpace key := by
  obtain ⟨sig, s, s', made⟩ := makes
  obtain ⟨rest, items⟩ := BreakerConfig.items_of_template rfl (template_of_breaker made)
  exact below_of_items items has_key

end Engine

namespace SharedCall

/-- A call of a limiter or a breaker that the engine makes. -/
def MadeWith (e : Engine) : SharedCall σ → Prop
  | .limited c => e.MakesLimiter σ c.limiter
  | .timed c => e.MakesBreaker σ c.breaker

/-- The namespace of the engine in which a call works. -/
def space (e : Engine) : SharedCall σ → String
  | .limited _ => e.config.limiterSpace
  | .timed _ => e.config.breakerSpace

variable {e : Engine} {c : SharedCall σ}

theorem MadeWith.below (made : c.MadeWith e) {place : String} (placed : c.place = .ok place) :
    Below (c.space e) place := by
  cases c with
  | limited c => exact Engine.MakesLimiter.below made placed
  | timed c =>
    obtain ⟨key, has_key, rfl⟩ := key_of_place placed
    exact (Engine.MakesBreaker.below made has_key).lockKey

/-- Calls of two kinds work in two namespaces and share no trace. -/
theorem apart_of_kinds {c d : SharedCall σ}
    (differ : e.config.limiterSpace ≠ e.config.breakerSpace) (kinds : c.isTimed ≠ d.isTimed) :
    c.space e ≠ d.space e ∧ ∀ slot, c.slot? = some slot → d.slot? ≠ some slot := by
  cases c with
  | limited =>
    cases d with
    | limited => exact absurd rfl kinds
    | timed => exact ⟨differ, fun slot none => by cases none⟩
  | timed =>
    cases d with
    | limited => exact ⟨differ.symm, fun slot _ none => by cases none⟩
    | timed => exact absurd rfl kinds

end SharedCall

variable {e : Engine} {calls : Nat → SharedCall σ}

/-- The calls of one kind are parted from those of the other one. -/
theorem parted_of_kind (differ : e.config.limiterSpace ≠ e.config.breakerSpace)
    (clean : separator ∉ e.config.limiterSpace.toList)
    (clean' : separator ∉ e.config.breakerSpace.toList) (made : ∀ i, (calls i).MadeWith e)
    (stateless : ∀ i, (calls i).Stateless) {kind : SharedCall σ → Bool}
    (kinds : ∀ c d : SharedCall σ, kind c = true → kind d = false → c.isTimed ≠ d.isTimed) :
    Parted calls (fun i => kind (calls i))
      fun place => ∃ i, kind (calls i) = true ∧ (calls i).place = .ok place := by
  have cleanly : ∀ i, separator ∉ ((calls i).space e).toList := by
    intro i
    cases calls i with
    | limited => exact clean
    | timed => exact clean'
  constructor
  case stateless => exact stateless
  case within =>
    intro i place is_kind placed
    exact ⟨i, is_kind, placed⟩
  case outside =>
    rintro j place other placed' ⟨i, is_kind, placed⟩
    have below := (made i).below placed
    have below' := (made j).below placed'
    apply (SharedCall.apart_of_kinds differ (kinds _ _ is_kind other)).1
    exact below.unique below' (cleanly i) (cleanly j)
  case slots =>
    intro i j slot is_kind other
    exact (SharedCall.apart_of_kinds differ (kinds _ _ is_kind other)).2 slot

/-- **Limiters and breakers of one engine do not disturb each other.** Let the namespaces of an
engine be different and without a separator. Then no counter of its limiters has the key of a lock
of its breakers, whatever the functions are and the arguments of the calls. Take any calls of both
on one backend, at the same time or one after the other. If all calls of limiters are taken out and
the others left at their times, each step of the others comes to the same: what becomes of the call,
the lock, and the trace. If all calls of breakers are taken out, each step of the others comes to
the same: what becomes of the call, and the counter. -/
theorem limiters_and_breakers_apart (differ : e.config.limiterSpace ≠ e.config.breakerSpace)
    (clean : separator ∉ e.config.limiterSpace.toList)
    (clean' : separator ∉ e.config.breakerSpace.toList) (made : ∀ i, (calls i).MadeWith e)
    (stateless : ∀ i, (calls i).Stateless) (s : Site σ) (hs : List (Happening σ)) :
    (∀ l b, e.MakesLimiter σ l → e.MakesBreaker σ b → ∀ args args' key key',
        l.key args = .ok key → b.key args' = .ok key' → key ≠ lockKey key') ∧
      Scene.sights calls (hs.filter (·.remains fun i => (calls i).isTimed)) (.start s) =
        (Scene.sights calls hs (.start s)).filter (fun v => (calls v.call).isTimed) ∧
      Scene.sights calls (hs.filter (·.remains fun i => (calls i).isLimited)) (.start s) =
        (Scene.sights calls hs (.start s)).filter (fun v => (calls v.call).isLimited) := by
  refine ⟨?_, ?_, ?_⟩
  · intro l b limits breaks args args' key key' has_key has_key' same
    have below := limits.below has_key
    have below' := (breaks.below has_key').lockKey
    rw [same] at below
    exact differ (below.unique below' clean clean')
  · have kinds : ∀ c d : SharedCall σ, c.isTimed = true → d.isTimed = false →
        c.isTimed ≠ d.isTimed := by
      intro c d timed limited same
      rw [timed, limited] at same
      cases same
    have parted := parted_of_kind differ clean clean' made stateless kinds
    exact ((Scene.alike_start calls _ _ s).run parted hs).1
  · have kinds : ∀ c d : SharedCall σ, c.isLimited = true → d.isLimited = false →
        c.isTimed ≠ d.isTimed := by
      intro c d limited timed same
      rw [SharedCall.isLimited, same] at limited
      cases limited.symm.trans timed
    have parted := parted_of_kind differ clean clean' made stateless kinds
    exact ((Scene.alike_start calls _ _ s).run parted hs).1

/-- The second call of a limiter is refused, with and without a call of a breaker in between. -/
theorem refused_beside_a_breaker :
    let e := Engine.Twice.engine
    let args := Engine.Twice.args
    ∃ b : Breaker, e.MakesBreaker Unit b ∧
      let calls : Nat → SharedCall Unit := fun i =>
        if i = 1 then .timed ⟨b, args⟩ else .limited ⟨Engine.Twice.limiter, .reject, args⟩
      let hs : List (Happening Unit) :=
        [0, 1, 2].flatMap fun i => .pass 1 :: List.replicate 4 (.step i)
      let told := (Scene.sights calls hs (.start (.start ()))).filter fun v =>
        (calls v.call).isLimited
      (told.map fun v => (v.call, v.standing)).getLast? =
        some (2, .ended (.error (.rateLimitExceeded "rate_limit:m:f:a:1"))) := by
  intro e args
  obtain ⟨t, derived, -⟩ := BreakerConfig.template_items e.config.breaker Engine.Twice.sig rfl
    (by decide)
  let b : Breaker := ⟨Engine.Twice.sig, e.binder, t, e.config.breaker, .twiceTheMean, 0⟩
  have breaks : e.MakesBreaker Unit b :=
    ⟨Engine.Twice.sig, .start (), _,
      Engine.breaker_of_template e (.start ()) .twiceTheMean (by decide) derived⟩
  have limits : e.MakesLimiter Unit Engine.Twice.limiter :=
    ⟨Engine.Twice.sig, 1, 3, .start (), _,
      Engine.limiter_of_template e (.start ()) (by decide) Engine.Twice.template_limited⟩
  refine ⟨b, breaks, ?_⟩
  intro calls hs told
  have made : ∀ i, (calls i).MadeWith e := by
    intro i
    dsimp only [calls]
    split
    · exact breaks
    · exact limits
  have stateless : ∀ i, (calls i).Stateless := by
    intro i
    dsimp only [calls]
    split
    · trivial
    · exact LimitAction.stateless_reject
  have apart := limiters_and_breakers_apart (by decide) (by decide) (by decide) made stateless
    (.start ()) hs
  have alone : told = _ := apart.2.2.symm
  rw [alone]
  rfl

end Latchkey
