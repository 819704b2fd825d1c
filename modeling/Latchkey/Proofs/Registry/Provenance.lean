import Latchkey.Engine
import Latchkey.Proofs.Pattern.RoundTrip
import Latchkey.Proofs.Registry.Order
import Latchkey.Proofs.Template.Parsing

/-!
Registrations, limiters and breakers of one engine put their templates into one registry.
`traced_unless_shadowed`: a key that one of them has made is always traced back to a function and a
template, and to its own ones exactly if no template that the look-up comes to before can be read in
the key.
-/

namespace Latchkey

namespace Registry

variable {journal : List Origin} {key : String} {o q : Origin}

/-- A look-up comes to one pair before another: its function came first before the other's, or it
came first of two pairs of one function. -/
def Ahead (journal : List Origin) (q o : Origin) : Prop :=
  arrival journal q.function < arrival journal o.function ∨
    q.function = o.function ∧ journal.idxOf q < journal.idxOf o

theorem not_ahead_of_first (o : Origin) (journal : List Origin) (q : Origin) :
    ¬ Ahead (o :: journal) q o := by
  rintro (function | ⟨_, pair⟩)
  · simp [arrival] at function
  · simp at pair

/-- The first match of a function is the pair before which the function has no match. -/
theorem earliestOf?_eq_some_iff :
    earliestOf? journal key o.function = some o ↔
      o ∈ journal ∧ o.makes key = true ∧
        ∀ q ∈ journal, q.function = o.function → journal.idxOf q < journal.idxOf o →
          q.makes key = false := by
  constructor
  · intro found
    obtain ⟨among, -, makes⟩ := mem_of_earliestOf? found
    obtain ⟨-, before, after, split, early⟩ := List.find?_eq_some_iff_append.mp found
    refine ⟨among, makes, fun q _ owner sooner => ?_⟩
    have late : o ∉ before := fun there => by simpa [makes] using early o there
    rw [split, List.idxOf_append_of_notMem late, List.idxOf_cons_self] at sooner
    by_cases there : q ∈ before
    · simpa [owner] using early q there
    · rw [List.idxOf_append_of_notMem there] at sooner
      omega
  · rintro ⟨among, makes, unmade⟩
    obtain ⟨before, after, split, late⟩ := List.eq_append_cons_of_mem among
    refine List.find?_eq_some_iff_append.mpr ⟨by simpa using makes, before, after, split, ?_⟩
    intro q there
    by_cases owner : q.function = o.function
    · have sooner : journal.idxOf q < journal.idxOf o := by
        rw [split, List.idxOf_append_of_mem there, List.idxOf_append_of_notMem late,
          List.idxOf_cons_self]
        exact List.idxOf_lt_length_of_mem there
      have within : q ∈ journal := split ▸ List.mem_append_left _ there
      simp [unmade q within owner sooner]
    · simp [owner]

/-- A look-up gives a pair exactly if the pair matches and none does that it comes to before. -/
theorem originOf?_eq_some_iff :
    (ofJournal journal).originOf? key = some o ↔
      o ∈ journal ∧ o.makes key = true ∧
        ∀ q ∈ journal, Ahead journal q o → q.makes key = false := by
  rw [originOf?_ofJournal]
  constructor
  · intro given
    obtain ⟨f, -, found⟩ := List.exists_of_findSome?_eq_some given
    obtain rfl := (mem_of_earliestOf? found).2.1
    obtain ⟨among, makes, sooner⟩ := earliestOf?_eq_some_iff.mp found
    refine ⟨among, makes, fun q there ahead => ?_⟩
    rcases ahead with function | ⟨owner, pair⟩
    · -- the function of the pair stands before, and has no match
      obtain ⟨before, after, split, late⟩ :=
        List.eq_append_cons_of_mem (List.mem_map_of_mem (f := (·.function)) among)
      have early : q.function ∈ before := by
        by_contra behind
        exact Nat.not_le.mpr function ((arrival_le_iff split late q.function).mpr behind)
      have elsewhere : ∀ f ∈ before, earliestOf? journal key f ≠ some o :=
        fun f hf taken => late ((mem_of_earliestOf? taken).2.1 ▸ hf)
      have unmade := none_of_findSome? (split ▸ given) elsewhere _ early
      simpa using List.find?_eq_none.mp unmade q there
    · exact sooner q there owner pair
  · rintro ⟨among, makes, unmade⟩
    obtain ⟨before, after, split, late⟩ :=
      List.eq_append_cons_of_mem (List.mem_map_of_mem (f := (·.function)) among)
    have ours : earliestOf? journal key o.function = some o :=
      earliestOf?_eq_some_iff.mpr
        ⟨among, makes, fun q there owner pair => unmade q there (.inr ⟨owner, pair⟩)⟩
    refine List.findSome?_eq_some_iff.mpr ⟨before, o.function, after, split, ours, ?_⟩
    intro f early
    refine List.find?_eq_none.mpr fun q there made => ?_
    obtain ⟨rfl, made⟩ : q.function = f ∧ q.makes key = true := by simpa using made
    have ahead : Ahead journal q o := by
      left
      by_contra behind
      exact (arrival_le_iff split late q.function).mp (Nat.not_lt.mp behind) early
    simp [unmade q there ahead] at made

/-- The pairs that the calls register as new, with those that were there, are all pairs. -/
theorem mem_fresh_ofJournal (journal calls : List Origin) (o : Origin) :
    o ∈ journal ++ (ofJournal journal).fresh calls ↔ o ∈ journal ++ calls := by
  induction calls generalizing journal with
  | nil => rfl
  | cons p calls ih =>
    rw [fresh, register_ofJournal]
    by_cases known : p ∈ journal
    · have here : o = p → o ∈ journal := fun same => same ▸ known
      simp only [known, if_true, Bool.false_eq_true, if_false, ih journal, List.mem_append,
        List.mem_cons]
      tauto
    · have later := ih (journal ++ [p])
      simp only [List.append_assoc, List.singleton_append] at later
      simpa only [known, if_false, if_true] using later

/-- Both look-ups give the same function and the same template. -/
theorem fieldsOf?_origin (r : Registry) (key : String) :
    (r.fieldsOf? key).map (fun k => ⟨k.function, k.template⟩) = r.originOf? key := by
  unfold fieldsOf? originOf?
  induction r.pairs with
  | nil => rfl
  | cons o rest ih =>
    rw [List.findSome?_cons, List.find?_cons, ← ih]
    have read : (Pattern.ofTemplate o.template).accepts key =
        ((Pattern.ofTemplate o.template).captures key).isSome := by
      rw [Pattern.accepts, Pattern.captures, Option.isSome_map]
    rw [read]
    cases (Pattern.ofTemplate o.template).captures key <;> rfl

end Registry

/-- A template that does not match a key cannot be read in it behind any namespace. -/
theorem Origin.makes_eq_false_iff (o : Origin) (key : String) :
    o.makes key = false ↔
      ¬ ∃ space texts, Decomposes o.template.segments key.toList space texts := by
  rw [← Pattern.accepts_iff, Bool.not_eq_true]
  rfl

theorem Site.lookups_of_found {σ : Type} {s : Site σ} {key : String} {o : Origin}
    (found : s.registry.originOf? key = some o) :
    (s.originOf? key).1 = some o ∧
      ∃ fields, (s.fieldsOf? key).1 = some ⟨o.function, o.template, fields⟩ := by
  have both := Registry.fieldsOf?_origin s.registry key
  rw [found] at both
  obtain ⟨k, read, rfl⟩ := Option.map_eq_some_iff.mp both
  constructor
  · rw [Site.originOf?, found]
  · exact ⟨k.fields, by rw [Site.fieldsOf?, read]⟩

/-- What makes keys: a registration, a limiter or a breaker. -/
structure Maker where
  signature : Signature
  template : Template

namespace Maker

def origin (m : Maker) : Origin := ⟨m.signature.id, m.template⟩

/-- The key of a call, as it is written by the engine that all are made with. -/
def key (m : Maker) (e : Engine) (args : CallArgs) : Except KeyError String :=
  m.signature.key e.binder m.template args

end Maker

namespace Engine

variable {σ : Type} {e : Engine} {s s' : Site σ} {ms : List Maker}

/-- What has been made with an engine so far, and the site after it. Anything may go on in between
that leaves the registry alone: calls, and what could not be made. -/
inductive Builds (e : Engine) : Site σ → List Maker → Prop
  | start {s : Site σ} : s.registry = .empty → Builds e s []
  | beside {s s' : Site σ} {ms : List Maker} : Builds e s ms → s'.registry = s.registry →
      Builds e s' ms
  | written {s s' : Site σ} {ms : List Maker} (sig : Signature) (source : String) (t : Template) :
      Builds e s ms → Engine.registerTemplate sig.id source s = (.ok t, s') →
      Builds e s' (ms ++ [⟨sig, t⟩])
  | register {s s' : Site σ} {ms : List Maker} (sig : Signature) (listed : Option (List String))
      (t : Template) : Builds e s ms → Engine.register sig listed s = (.ok t, s') →
      Builds e s' (ms ++ [⟨sig, t⟩])
  | limiter {s s' : Site σ} {ms : List Maker} (sig : Signature) (c : LimitConfig) (l : Limiter) :
      Builds e s ms → e.limiter sig c s = (.ok l, s') → Builds e s' (ms ++ [⟨sig, l.template⟩])
  | breaker {s s' : Site σ} {ms : List Maker} (sig : Signature) (c : BreakerConfig)
      (condition : Condition) (b : Breaker) : Builds e s ms →
      e.breaker sig c condition s = (.ok b, s') → Builds e s' (ms ++ [⟨sig, b.template⟩])

theorem registry_register (s : Site σ) (f : FuncId) (t : Template) :
    (s.register f t).2.registry = (s.registry.register f t).2 := by
  unfold Site.register
  cases s.registry.register f t with
  | mk new registry => cases new <;> rfl

theorem registry_of_written {f : FuncId} {source : String} {t : Template}
    (made : registerTemplate f source s = (.ok t, s')) :
    s'.registry = (s.registry.register f t).2 := by
  unfold registerTemplate at made
  split at made
  · cases made
  · cases made
    exact registry_register s f t

theorem registry_of_register {sig : Signature} {listed : Option (List String)} {t : Template}
    (made : register sig listed s = (.ok t, s')) :
    s'.registry = (s.registry.register sig.id t).2 := by
  unfold register at made
  split at made
  · cases made
  · cases made
    exact registry_register s sig.id t

theorem registry_of_limiter {sig : Signature} {c : LimitConfig} {l : Limiter}
    (made : e.limiter sig c s = (.ok l, s')) :
    l = ⟨sig, e.binder, l.template, c⟩ ∧
      s'.registry = (s.registry.register sig.id l.template).2 := by
  unfold limiter at made
  split at made
  · cases made
  · split at made
    · cases made
    · cases made
      exact ⟨rfl, registry_register s sig.id _⟩

theorem registry_of_breaker {sig : Signature} {c : BreakerConfig} {condition : Condition}
    {b : Breaker} (made : e.breaker sig c condition s = (.ok b, s')) :
    b = ⟨sig, e.binder, b.template, c, condition, s.traces.length⟩ ∧
      s'.registry = (s.registry.register sig.id b.template).2 := by
  unfold breaker at made
  split at made
  · cases made
  · split at made
    · cases made
    · cases made
      exact ⟨rfl, registry_register s sig.id _⟩

theorem register_of_template {sig : Signature} {listed : Option (List String)} {t : Template}
    (s : Site σ) (derived : sig.template listed = .ok t) :
    register sig listed s = (.ok t, (s.register sig.id t).2) := by
  rw [register, derived]

theorem limiter_of_template {sig : Signature} {c : LimitConfig} {t : Template} (e : Engine)
    (s : Site σ) (accepted : c.flaw? = none) (derived : c.template sig = .ok t) :
    e.limiter sig c s = (.ok ⟨sig, e.binder, t, c⟩, (s.register sig.id t).2) := by
  rw [limiter, accepted, derived]

theorem registerAll_concat (r : Registry) (ms : List Maker) (m : Maker) :
    r.registerAll ((ms ++ [m]).map Maker.origin) =
      ((r.registerAll (ms.map Maker.origin)).register m.signature.id m.template).2 := by
  rw [List.map_append, Registry.registerAll, List.foldl_append]
  rfl

/-- The registry is what the templates make of it that were registered, in their order. -/
theorem Builds.registry (built : e.Builds s ms) :
    s.registry = Registry.empty.registerAll (ms.map Maker.origin) := by
  induction built with
  | start fresh => exact fresh
  | beside _ same ih => exact same.trans ih
  | written sig source t _ made ih => rw [registerAll_concat, ← ih, registry_of_written made]
  | register sig listed t _ made ih => rw [registerAll_concat, ← ih, registry_of_register made]
  | limiter sig c l _ made ih => rw [registerAll_concat, ← ih, (registry_of_limiter made).2]
  | breaker sig c condition b _ made ih =>
    rw [registerAll_concat, ← ih, (registry_of_breaker made).2]

theorem bindKey_eq (e : Engine) (m : Maker) (args : CallArgs) (s : Site σ) :
    (s.bindKey e.binder m.signature m.template args).1 = m.key e args := by
  unfold Site.bindKey Maker.key
  split <;> simp_all

/-- A limiter writes its keys as the engine does that it was made with. -/
theorem key_of_limiter {sig : Signature} {c : LimitConfig} {l : Limiter}
    (made : e.limiter sig c s = (.ok l, s')) (args : CallArgs) (s : Site σ) :
    (l.keyFor args s).1 = Maker.key ⟨sig, l.template⟩ e args := by
  rw [(registry_of_limiter made).1]
  exact bindKey_eq e ⟨sig, l.template⟩ args s

/-- A breaker writes its keys as the engine does that it was made with. -/
theorem key_of_breaker {sig : Signature} {c : BreakerConfig} {condition : Condition} {b : Breaker}
    (made : e.breaker sig c condition s = (.ok b, s')) (args : CallArgs) (s : Site σ) :
    (b.keyFor args s).1 = Maker.key ⟨sig, b.template⟩ e args := by
  rw [(registry_of_breaker made).1]
  exact bindKey_eq e ⟨sig, b.template⟩ args s

/-- A key that is made, with no separator in the text of a field, is one of its template. -/
theorem makes_own {own : Maker} {args : CallArgs} {key : String} (made : own.key e args = .ok key)
    (clean : ∀ field ∈ own.template.fields, ∀ text,
      e.binder.fieldText (args.bind own.signature) field = .ok text → separator ∉ text.toList) :
    own.origin.makes key = true := by
  have written := Pattern.fieldText_of_made made
  have spelled := Pattern.spells_of_made made fun field among =>
    clean field among _ (written field among)
  exact (Pattern.accepts_iff own.template key).mpr ⟨[], _, Pattern.decomposes_alone spelled⟩

/-! ## One function, registered and limited -/

namespace Twice

def sig : Signature := ⟨⟨"m", "f"⟩, ["a"]⟩

def plain : Template :=
  ⟨"m:f:a:\x7ba\x7d", [.literal "m:f:a:", .field ⟨"a", none⟩], by decide +kernel⟩

def limited : Template :=
  ⟨"rate_limit:m:f:a:\x7ba\x7d", [.literal "rate_limit:m:f:a:", .field ⟨"a", none⟩],
    by decide +kernel⟩

def engine : Engine := (Engine.build default [] none).1

def limiter : Limiter := ⟨sig, engine.binder, limited, .per 1 3⟩

def args : CallArgs := ⟨[.int 1], []⟩

theorem template_plain : sig.template none = .ok plain := by
  have text : Signature.templateText sig.id sig.params = plain.source := by decide +kernel
  change Template.parse (Signature.templateText sig.id sig.params) = _
  rw [text, plain.parse_source]

theorem template_limited : (LimitConfig.per 1 3).template sig = .ok limited := by
  have text : escape "rate_limit" ++ ":" ++ plain.source = limited.source := by decide +kernel
  change (sig.template none).bind (fun t => t.withPrefix "rate_limit") = _
  rw [template_plain]
  change Template.parse (escape "rate_limit" ++ ":" ++ plain.source) = _
  rw [text, limited.parse_source]

theorem key_limiter : Maker.key ⟨sig, limited⟩ engine args = .ok "rate_limit:m:f:a:1" := by
  decide +kernel

end Twice

/-- **A key is traced back unless its template is shadowed.** Whatever has been made with an engine,
in whatever order: a key that one of these makers has made, with no separator in the text of a
field, is traced back to one of them, by both look-ups alike. It is traced back to the function and
the template of its own maker exactly if it cannot be read as a key, in any namespace, of a template
that the look-up comes to before. -/
theorem traced_unless_shadowed (built : e.Builds s ms) {own : Maker} (among : own ∈ ms)
    {args : CallArgs} {key : String} (made : own.key e args = .ok key)
    (clean : ∀ field ∈ own.template.fields, ∀ text,
      e.binder.fieldText (args.bind own.signature) field = .ok text → separator ∉ text.toList) :
    let journal := Registry.empty.fresh (ms.map Maker.origin)
    ∃ o ∈ journal, (s.originOf? key).1 = some o ∧
      (∃ fields, (s.fieldsOf? key).1 = some ⟨o.function, o.template, fields⟩) ∧
      (o = own.origin ↔ ∀ q ∈ journal, Registry.Ahead journal q own.origin →
        ¬ ∃ space texts, Decomposes q.template.segments key.toList space texts) := by
  intro journal
  have reached : s.registry = Registry.ofJournal journal :=
    built.registry.trans (Registry.registerAll_empty _)
  have listed : own.origin ∈ journal :=
    (Registry.mem_fresh_ofJournal [] _ _).mpr (List.mem_map_of_mem among)
  have accepted := makes_own made clean
  cases found : s.registry.originOf? key with
  | none =>
    rw [reached, Registry.originOf?_eq_none_iff] at found
    simp [found _ listed] at accepted
  | some o =>
    obtain ⟨origin, fields⟩ := Site.lookups_of_found found
    rw [reached] at found
    obtain ⟨within, -, first⟩ := Registry.originOf?_eq_some_iff.mp found
    refine ⟨o, within, origin, fields, ?_⟩
    constructor
    · rintro rfl q there ahead
      exact (Origin.makes_eq_false_iff q key).mp (first q there ahead)
    · intro unread
      have ours : (Registry.ofJournal journal).originOf? key = some own.origin :=
        Registry.originOf?_eq_some_iff.mpr ⟨listed, accepted, fun q there ahead =>
          (Origin.makes_eq_false_iff q key).mpr (unread q there ahead)⟩
      exact Option.some.inj (found.symm.trans ours)

/-- A limiter that is made before its function is registered is found behind its keys. -/
theorem earlier_limiter_traced :
    ∃ s s' : Site Unit,
      Twice.engine.limiter Twice.sig (.per 1 3) (.start ()) = (.ok Twice.limiter, s) ∧
      Engine.register Twice.sig none s = (.ok Twice.plain, s') ∧
      (Twice.limiter.keyFor Twice.args s').1 = .ok "rate_limit:m:f:a:1" ∧
      (s'.originOf? "rate_limit:m:f:a:1").1 = some ⟨Twice.sig.id, Twice.limited⟩ := by
  let s : Site Unit := ((Site.start ()).register Twice.sig.id Twice.limited).2
  have limits := limiter_of_template Twice.engine (.start ()) rfl Twice.template_limited
  have registers := register_of_template s Twice.template_plain
  have built := ((Builds.start rfl).limiter _ _ _ limits).register _ _ _ registers
  have clean : ∀ field ∈ Twice.limited.fields, ∀ text,
      Twice.engine.binder.fieldText (Twice.args.bind Twice.sig) field = .ok text →
      separator ∉ text.toList := by
    intro field among text written
    obtain rfl : ⟨"a", none⟩ = field := by
      simpa [Twice.limited, Template.fields, Segment.field?] using among
    have one : Twice.engine.binder.fieldText (Twice.args.bind Twice.sig) ⟨"a", none⟩ = .ok "1" := by
      decide +kernel
    cases one.symm.trans written
    decide
  obtain ⟨o, _, found, _, own⟩ :=
    traced_unless_shadowed built List.mem_cons_self Twice.key_limiter clean
  refine ⟨s, _, limits, registers, ?_, ?_⟩
  · exact (key_of_limiter limits Twice.args _).trans Twice.key_limiter
  · rw [found, own.mpr]
    · rfl
    · intro q _ ahead
      exact absurd ahead (Registry.not_ahead_of_first _ _ q)

/-- A limiter that is made after its function was registered is not found behind its keys: in their
namespace they are keys of the plain template. -/
theorem later_limiter_shadowed :
    ∃ s s' : Site Unit,
      Engine.register Twice.sig none (.start ()) = (.ok Twice.plain, s) ∧
      Twice.engine.limiter Twice.sig (.per 1 3) s = (.ok Twice.limiter, s') ∧
      (Twice.limiter.keyFor Twice.args s').1 = .ok "rate_limit:m:f:a:1" ∧
      (s'.originOf? "rate_limit:m:f:a:1").1 = some ⟨Twice.sig.id, Twice.plain⟩ ∧
      Twice.plain ≠ Twice.limited := by
  let s : Site Unit := ((Site.start ()).register Twice.sig.id Twice.plain).2
  have limits := limiter_of_template Twice.engine s rfl Twice.template_limited
  refine ⟨s, _, register_of_template (.start ()) Twice.template_plain, limits, ?_, ?_, by decide⟩
  · exact (key_of_limiter limits Twice.args _).trans Twice.key_limiter
  · decide +kernel

end Engine
end Latchkey
