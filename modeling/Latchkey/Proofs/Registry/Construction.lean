import Latchkey.Proofs.Registry.Provenance
import Latchkey.Proofs.Sharing.Spaces

/-!
A policy is made in stages: its settings are checked, a template is derived and wrapped, and the
template is registered. Wrapping never fails, and whatever can fail comes before the registration.
`construction_atomic`: a policy is made exactly if its settings are sound and its function has a
template, and otherwise nothing is left behind.
-/

namespace Latchkey

theorem Registry.mem_templatesFor_register (r : Registry) (f : FuncId) (t : Template) :
    t ∈ (r.register f t).2.templatesFor f := by
  unfold register
  split
  · next known => exact known
  · have added : ∀ groups, t ∈ (Registry.mk (addTo f t groups)).templatesFor f := by
      intro groups
      induction groups with
      | nil => simp [addTo, templatesFor]
      | cons g groups ih =>
        by_cases same : g.function = f
        · simp [addTo, templatesFor, same]
        · simpa [addTo, templatesFor, same] using ih
    exact added r.groups

variable {sig : Signature} {t : Template}

namespace LimitConfig

variable {c : LimitConfig}

theorem flaw?_eq_none_iff : c.flaw? = none ↔ 0 < c.period ∧ c.ban ≠ some 0 := by
  unfold flaw?
  split_ifs <;> simp_all [Nat.pos_iff_ne_zero]

/-- The template is the derived one in the namespace. -/
def Wraps (c : LimitConfig) (sig : Signature) (t : Template) : Prop :=
  ∃ plain, sig.template c.listed = .ok plain ∧ plain.withPrefix c.space = .ok t

theorem template_eq_ok_iff : c.template sig = .ok t ↔ c.Wraps sig t := bind_eq_ok_iff

theorem exists_wraps_iff : (∃ t, c.Wraps sig t) ↔ ∃ plain, sig.template c.listed = .ok plain := by
  constructor
  · rintro ⟨t, plain, derived, -⟩
    exact ⟨plain, derived⟩
  · rintro ⟨plain, derived⟩
    obtain ⟨t, wrapped, -⟩ := plain.withPrefix_items c.space
    exact ⟨t, plain, derived, wrapped⟩

end LimitConfig

namespace BreakerConfig

variable {c : BreakerConfig}

theorem flaw?_eq_none_iff : c.flaw? = none ↔ 1 ≤ c.traceSize ∧ 0 < c.ttl := by
  unfold flaw?
  split_ifs <;> simp_all [Nat.pos_iff_ne_zero, Nat.one_le_iff_ne_zero]

/-- The template is the one set, as it is, or else the derived one between the namespace and the
seconds for which a circuit opens. -/
def Wraps (c : BreakerConfig) (sig : Signature) (t : Template) : Prop :=
  (∃ source, c.key = some source ∧ Template.parse source = .ok t) ∨
    c.key = none ∧ ∃ plain below, sig.template c.listed = .ok plain ∧
      plain.withPrefix c.space = .ok below ∧
      below.withSuffix (Duration.secondsText c.ttl) = .ok t

theorem template_eq_ok_iff : c.template sig = .ok t ↔ c.Wraps sig t := by
  unfold template Wraps
  cases c.key with
  | some source => simp
  | none =>
    simp [bind_eq_ok_iff]

theorem exists_wraps_iff :
    (∃ t, c.Wraps sig t) ↔
      (∃ source t, c.key = some source ∧ Template.parse source = .ok t) ∨
        c.key = none ∧ ∃ plain, sig.template c.listed = .ok plain := by
  constructor
  · rintro ⟨t, ⟨source, set, parsed⟩ | ⟨unset, plain, -, derived, -⟩⟩
    · exact .inl ⟨source, t, set, parsed⟩
    · exact .inr ⟨unset, plain, derived⟩
  · rintro (⟨source, t, set, parsed⟩ | ⟨unset, plain, derived⟩)
    · exact ⟨t, .inl ⟨source, set, parsed⟩⟩
    · obtain ⟨below, wrapped, -⟩ := plain.withPrefix_items c.space
      obtain ⟨t, closed, -⟩ := below.withSuffix_items (Duration.secondsText c.ttl)
      exact ⟨t, .inr ⟨unset, plain, below, derived, wrapped, closed⟩⟩

end BreakerConfig

/-- A configuration is accepted exactly if its settings of a breaker are. -/
theorem Config.flaw?_eq_none_iff (c : Config) : c.flaw? = none ↔ c.breaker.flaw? = none := by
  have opens : 0 < Duration.seconds c.ttlSeconds ↔ 0 < c.ttlSeconds := by
    simp [Duration.seconds, Duration.nanosPerSecond]
  rw [BreakerConfig.flaw?_eq_none_iff]
  unfold flaw? breaker
  simp only [opens]
  split_ifs <;> simp_all [Nat.pos_iff_ne_zero, Nat.one_le_iff_ne_zero]

namespace Engine

variable {σ α : Type}

/-- A policy for a function is made exactly under this condition, with a template that is as wanted;
the registry then holds this template for the function. Otherwise nothing has changed. -/
structure Constructs (f : FuncId) (template : α → Template) (possible : Prop)
    (wanted : Template → Prop) (s : Site σ) (made : Except EngineError α × Site σ) : Prop where
  succeeds : (∃ a, made.1 = .ok a) ↔ possible
  wraps : ∀ a, made.1 = .ok a → wanted (template a)
  registers : ∀ a, made.1 = .ok a → made.2.registry = (s.registry.register f (template a)).2
  lists : ∀ a, made.1 = .ok a → template a ∈ made.2.registry.templatesFor f
  leaves : ∀ cause, made.1 = .error cause → made.2 = s

namespace Constructs

variable {f : FuncId} {template : α → Template} {possible : Prop} {wanted : Template → Prop}
  {s s' : Site σ}

theorem failed (impossible : ¬ possible) (cause : EngineError) :
    Constructs f template possible wanted s (.error cause, s) where
  succeeds := iff_of_false (by rintro ⟨a, ⟨⟩⟩) impossible
  wraps := by rintro a ⟨⟩
  registers := by rintro a ⟨⟩
  lists := by rintro a ⟨⟩
  leaves := fun _ _ => rfl

theorem built {a : α} (holds : possible) (wraps : wanted (template a))
    (registered : s'.registry = (s.registry.register f (template a)).2) :
    Constructs f template possible wanted s (.ok a, s') where
  succeeds := iff_of_true ⟨a, rfl⟩ holds
  wraps := by
    rintro _ ⟨⟩
    exact wraps
  registers := by
    rintro _ ⟨⟩
    exact registered
  lists := by
    rintro _ ⟨⟩
    rw [registered]
    exact s.registry.mem_templatesFor_register f (template a)
  leaves := by rintro cause ⟨⟩

/-- The stages in which a policy is made: nothing is registered before the last one. -/
theorem of_stages {flaw? : Option PolicyFlaw} {derived : Except KeyError Template}
    {made : Except EngineError α × Site σ}
    (flawed : ∀ flaw, flaw? = some flaw → ∃ cause, made = (.error cause, s))
    (refused : ∀ fault, flaw? = none → derived = .error fault → ∃ cause, made = (.error cause, s))
    (taken : ∀ t, flaw? = none → derived = .ok t → ∃ a s', made = (.ok a, s') ∧ template a = t ∧
      s'.registry = (s.registry.register f t).2) :
    Constructs f template (flaw? = none ∧ ∃ t, derived = .ok t) (fun t => derived = .ok t) s
      made := by
  cases sound : flaw? with
  | some flaw =>
    obtain ⟨cause, rfl⟩ := flawed flaw sound
    exact failed (by rintro ⟨⟨⟩, -⟩) cause
  | none =>
    cases result : derived with
    | error fault =>
      obtain ⟨cause, rfl⟩ := refused fault sound result
      exact failed (by rintro ⟨-, t, ⟨⟩⟩) cause
    | ok t =>
      obtain ⟨a, s', rfl, rfl, registered⟩ := taken t sound result
      exact built ⟨rfl, _, rfl⟩ rfl registered

end Constructs

theorem constructs_limiter (e : Engine) (sig : Signature) (s : Site σ) (c : LimitConfig) :
    Constructs sig.id Limiter.template
      (0 < c.period ∧ c.ban ≠ some 0 ∧ ∃ plain, sig.template c.listed = .ok plain)
      (c.Wraps sig) s (e.limiter sig c s) := by
  have stages : Constructs sig.id Limiter.template
      (c.flaw? = none ∧ ∃ t, c.template sig = .ok t) (fun t => c.template sig = .ok t) s
      (e.limiter sig c s) := by
    apply Constructs.of_stages
    · intro flaw flawed
      rw [limiter, flawed]
      exact ⟨_, rfl⟩
    · intro fault sound refused
      rw [limiter, sound, refused]
      exact ⟨_, rfl⟩
    · intro t sound derived
      exact ⟨_, _, limiter_of_template e s sound derived, rfl, registry_register s sig.id t⟩
  simpa only [LimitConfig.flaw?_eq_none_iff, LimitConfig.template_eq_ok_iff,
    LimitConfig.exists_wraps_iff, and_assoc] using stages

theorem constructs_breaker (e : Engine) (sig : Signature) (s : Site σ) (c : BreakerConfig)
    (condition : Condition) :
    Constructs sig.id Breaker.template
      (1 ≤ c.traceSize ∧ 0 < c.ttl ∧
        ((∃ source t, c.key = some source ∧ Template.parse source = .ok t) ∨
          c.key = none ∧ ∃ plain, sig.template c.listed = .ok plain))
      (c.Wraps sig) s (e.breaker sig c condition s) := by
  have stages : Constructs sig.id Breaker.template
      (c.flaw? = none ∧ ∃ t, c.template sig = .ok t) (fun t => c.template sig = .ok t) s
      (e.breaker sig c condition s) := by
    apply Constructs.of_stages
    · intro flaw flawed
      rw [breaker, flawed]
      exact ⟨_, rfl⟩
    · intro fault sound refused
      rw [breaker, sound, refused]
      exact ⟨_, rfl⟩
    · intro t sound derived
      exact ⟨_, _, breaker_of_template e s condition sound derived, rfl,
        registry_register s sig.id t⟩
  simpa only [BreakerConfig.flaw?_eq_none_iff, BreakerConfig.template_eq_ok_iff,
    BreakerConfig.exists_wraps_iff, and_assoc] using stages

/-- With an accepted configuration, what can be wrong is only the template of the function. -/
theorem breakerWithDefaults_error_iff {e : Engine} (accepted : e.config.flaw? = none)
    (sig : Signature) (s : Site σ) (cause : EngineError) :
    (e.breakerWithDefaults sig s).1 = .error cause ↔
      ∃ fault, sig.template none = .error fault ∧ cause = .policy (.key fault) := by
  have sound := (Config.flaw?_eq_none_iff e.config).mp accepted
  have unset : e.config.breaker.key = none := rfl
  have unlisted : e.config.breaker.listed = none := rfl
  rw [breakerWithDefaults]
  cases derived : sig.template none with
  | error fault =>
    have refused : e.config.breaker.template sig = .error fault := by
      rw [BreakerConfig.template, unset, unlisted, derived]
      rfl
    rw [breaker, sound, refused]
    constructor
    · rintro ⟨⟩
      exact ⟨fault, rfl, rfl⟩
    · rintro ⟨_, ⟨⟩, rfl⟩
      rfl
  | ok plain =>
    obtain ⟨t, wraps⟩ : ∃ t, e.config.breaker.Wraps sig t := by
      rw [BreakerConfig.exists_wraps_iff, unlisted]
      exact .inr ⟨unset, plain, derived⟩
    rw [breaker_of_template e s _ sound (BreakerConfig.template_eq_ok_iff.mpr wraps)]
    constructor
    · rintro ⟨⟩
    · rintro ⟨fault, ⟨⟩, -⟩

/-- **A policy is made when it should be, and never in part.** A limiter is made exactly if its
window and its ban, if set, have a length and its function has a template; a breaker exactly if it
keeps durations, opens for some time and has a template, the one set or that of its function. The
template of the policy is then listed for the function; otherwise the registry and all else stay as
they were. A configuration is accepted exactly if its settings of a breaker are, and with an
accepted one a breaker fails only where the function has no template. -/
theorem construction_atomic (e : Engine) (sig : Signature) (s : Site σ) :
    (∀ c : LimitConfig, Constructs sig.id Limiter.template
      (0 < c.period ∧ c.ban ≠ some 0 ∧ ∃ plain, sig.template c.listed = .ok plain)
      (c.Wraps sig) s (e.limiter sig c s)) ∧
    (∀ (c : BreakerConfig) (condition : Condition), Constructs sig.id Breaker.template
      (1 ≤ c.traceSize ∧ 0 < c.ttl ∧
        ((∃ source t, c.key = some source ∧ Template.parse source = .ok t) ∨
          c.key = none ∧ ∃ plain, sig.template c.listed = .ok plain))
      (c.Wraps sig) s (e.breaker sig c condition s)) ∧
    (∀ c : Config, c.flaw? = none ↔ c.breaker.flaw? = none) ∧
    (e.config.flaw? = none → ∀ cause, (e.breakerWithDefaults sig s).1 = .error cause ↔
      ∃ fault, sig.template none = .error fault ∧ cause = .policy (.key fault)) := by
  refine ⟨constructs_limiter e sig s, constructs_breaker e sig s, Config.flaw?_eq_none_iff, ?_⟩
  intro accepted
  exact breakerWithDefaults_error_iff accepted sig s

/-- With the usual configuration, a function with a parameter that is no field name gets no breaker,
and nothing is registered for it; a limiter whose ban has no length is not made either. -/
theorem unnamed_field_refused :
    let e := Twice.engine
    let sig : Signature := ⟨⟨"m", "f"⟩, ["a["]⟩
    let s : Site Unit := .start ()
    e.config.flaw? = none ∧
      (∃ cause, (e.breakerWithDefaults sig s).1 = .error cause) ∧
      (e.breakerWithDefaults sig s).2 = s ∧
      ¬ ∃ l, (e.limiter Twice.sig { LimitConfig.per 1 3 with ban := some 0 } s).1 = .ok l := by
  intro e sig s
  have accepted : e.config.flaw? = none := by decide +kernel
  have text : Signature.templateText sig.id sig.params = "m:f:a[:\x7ba[\x7d" := by
    decide +kernel
  have unread : Segment.read "m:f:a[:\x7ba[\x7d" = .error ⟨7, .malformedName "a["⟩ := by
    decide +kernel
  have refused : sig.template none =
      .error (.invalidTemplate "m:f:a[:\x7ba[\x7d" ⟨7, .malformedName "a["⟩) := by
    have taken : sig.template none =
        Template.parse (Signature.templateText sig.id sig.params) := rfl
    rw [taken, text, Template.parse_of_fault unread]
  obtain ⟨-, breakers, -, errors⟩ := construction_atomic e sig s
  obtain ⟨limiters, -⟩ := construction_atomic e Twice.sig s
  have failed := (errors accepted _).mpr ⟨_, refused, rfl⟩
  refine ⟨accepted, ⟨_, failed⟩, (breakers _ _).leaves _ failed, ?_⟩
  intro made
  obtain ⟨-, unset, -⟩ := (limiters _).succeeds.mp made
  exact unset rfl

end Engine
end Latchkey
