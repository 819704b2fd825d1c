import Mathlib.Data.Finset.Card
import Latchkey.Proofs.Registry.Provenance

/-!
Templates come into a registry by several ways: one by one, derived from a signature, written by
hand, or with a limiter or a breaker. `registry_is_set`: however they came, the registry holds the
set of the pairs that were registered, each function in one group and each group in the order of
the first registrations.
-/

namespace Latchkey

/-- A registration, by one of the ways into a registry. -/
inductive Registration where
  | pair (f : FuncId) (t : Template)
  | derived (sig : Signature) (listed : Option (List String))
  | written (f : FuncId) (source : String)
  | limiter (sig : Signature) (c : LimitConfig)
  | breaker (sig : Signature) (c : BreakerConfig) (condition : Condition)

namespace Registration

variable {σ α : Type}

/-- What was registered for a function, if anything was, and the site after it. -/
def outcome (f : FuncId) (template : α → Template) :
    Except EngineError α × Site σ → Option Origin × Site σ
  | (.ok a, s) => (some ⟨f, template a⟩, s)
  | (.error _, s) => (none, s)

/-- A registration: the pair, if it succeeds, and the site after it. -/
def make (e : Engine) (s : Site σ) : Registration → Option Origin × Site σ
  | .pair f t => (some ⟨f, t⟩, (s.register f t).2)
  | .derived sig listed => outcome sig.id id (Engine.register sig listed s)
  | .written f source => outcome f id (Engine.registerTemplate f source s)
  | .limiter sig c => outcome sig.id Limiter.template (e.limiter sig c s)
  | .breaker sig c condition => outcome sig.id Breaker.template (e.breaker sig c condition s)

/-- Registrations one after the other: the pairs of those that succeed, in their order, and the site
after all. -/
def makeAll (e : Engine) : List Registration → Site σ → List Origin × Site σ
  | [], s => ([], s)
  | r :: rest, s =>
    let (done, s) := r.make e s
    let (later, s) := makeAll e rest s
    (done.toList ++ later, s)

variable {s s' : Site σ}

theorem registry_of_outcome {f : FuncId} {template : α → Template}
    {made : Except EngineError α × Site σ}
    (succeeds : ∀ a s', made = (.ok a, s') →
      s'.registry = (s.registry.register f (template a)).2)
    (fails : ∀ cause s', made = (.error cause, s') → s'.registry = s.registry) :
    (outcome f template made).2.registry =
      s.registry.registerAll (outcome f template made).1.toList := by
  obtain ⟨answer, after⟩ := made
  cases answer with
  | ok a => exact succeeds a after rfl
  | error cause => exact fails cause after rfl

/-- A registration that succeeds registers its pair, and one that fails registers nothing. -/
theorem registry_make (e : Engine) (s : Site σ) (r : Registration) :
    (r.make e s).2.registry = s.registry.registerAll (r.make e s).1.toList := by
  cases r with
  | pair f t => exact Engine.registry_register s f t
  | derived sig listed =>
    refine registry_of_outcome (fun t s' => Engine.registry_of_register) fun cause s' failed => ?_
    unfold Engine.register at failed
    split at failed <;> cases failed
    rfl
  | written f source =>
    refine registry_of_outcome (fun t s' => Engine.registry_of_written) fun cause s' failed => ?_
    unfold Engine.registerTemplate at failed
    split at failed <;> cases failed
    rfl
  | limiter sig c =>
    refine registry_of_outcome (fun l s' made => (Engine.registry_of_limiter made).2)
      fun cause s' failed => ?_
    unfold Engine.limiter at failed
    split at failed
    · cases failed
      rfl
    · split at failed <;> cases failed
      rfl
  | breaker sig c condition =>
    refine registry_of_outcome (fun b s' made => (Engine.registry_of_breaker made).2)
      fun cause s' failed => ?_
    unfold Engine.breaker at failed
    split at failed
    · cases failed
      rfl
    · split at failed <;> cases failed
      rfl

theorem registry_makeAll (e : Engine) (rs : List Registration) (s : Site σ) :
    (makeAll e rs s).2.registry = s.registry.registerAll (makeAll e rs s).1 := by
  induction rs generalizing s with
  | nil => rfl
  | cons r rest ih =>
    have first := registry_make e s r
    have others := ih (r.make e s).2
    rw [first] at others
    unfold makeAll
    dsimp only
    rw [others, Registry.registerAll, Registry.registerAll, Registry.registerAll, List.foldl_append]

end Registration

namespace Registry

/-- The pairs that are new are those that come for the first time. -/
theorem fresh_ofJournal (journal calls : List Origin) :
    (ofJournal journal).fresh calls = (calls.removeAll journal).eraseDups := by
  induction calls generalizing journal with
  | nil => rfl
  | cons o calls ih =>
    rw [fresh, register_ofJournal]
    by_cases known : o ∈ journal
    · simp [known, ih, List.removeAll]
    · have later : calls.removeAll (journal ++ [o]) =
          (calls.removeAll journal).filter fun p => !p == o := by
        simp only [List.removeAll, List.filter_filter]
        refine List.filter_congr fun p _ => ?_
        by_cases same : p = o <;> simp [same]
      have front : (o :: calls).removeAll journal = o :: calls.removeAll journal := by
        simp [List.removeAll, known]
      simp only [known, if_false, if_true]
      rw [ih, later, front, List.eraseDups_cons]

theorem fresh_empty (calls : List Origin) : empty.fresh calls = calls.eraseDups := by
  have fresh := fresh_ofJournal [] calls
  rwa [List.removeAll_nil] at fresh

/-- Calls on an empty registry leave a journal of each pair once. -/
theorem registerAll_eraseDups (calls : List Origin) :
    empty.registerAll calls = ofJournal calls.eraseDups := by
  rw [registerAll_empty, fresh_empty]

theorem mem_group {calls : List Origin} {o : Origin} :
    o.template ∈ (group calls o.function).templates ↔ o ∈ calls := by
  rw [← templatesFor_ofJournal, mem_templatesFor]

/-- Of the templates of a function those remain that come for the first time there. -/
theorem group_eraseDups (calls : List Origin) (f : FuncId) :
    (group calls.eraseDups f).templates = (group calls f).templates.eraseDups := by
  induction calls using List.reverseRecOn with
  | nil => rfl
  | append_singleton calls o ih =>
    rw [eraseDups_concat, group_concat]
    by_cases owner : f = o.function
    · subst owner
      rw [if_pos rfl, eraseDups_concat]
      by_cases known : o ∈ calls
      · rw [if_pos known, if_pos (mem_group.mpr known), ih]
      · rw [if_neg known, if_neg (mt mem_group.mp known), group_concat, if_pos rfl, ih]
    · rw [if_neg owner]
      split
      · exact ih
      · rw [group_concat, if_neg owner, ih]

theorem size_addTo (f : FuncId) (t : Template) (groups : List Group) :
    size ⟨addTo f t groups⟩ = size ⟨groups⟩ + 1 := by
  unfold size pairs
  induction groups with
  | nil => rfl
  | cons g groups ih =>
    unfold addTo
    split
    · simp only [List.flatMap_cons, List.length_append, List.length_map, List.length_singleton]
      omega
    · simp only [List.flatMap_cons, List.length_append] at ih ⊢
      omega

/-- Every call that is new adds one pair. -/
theorem size_registerAll (r : Registry) (calls : List Origin) :
    (r.registerAll calls).size = r.size + (r.fresh calls).length := by
  induction calls generalizing r with
  | nil => rfl
  | cons o calls ih =>
    rw [registerAll, List.foldl_cons, ← registerAll, ih, fresh, register]
    split
    · rfl
    · have added : size ⟨addTo o.function o.template r.groups⟩ = r.size + 1 :=
        size_addTo o.function o.template r.groups
      simp only [if_true, List.length_cons]
      omega

theorem function_groups (journal : List Origin) :
    (ofJournal journal).groups.map Group.function = (journal.map (·.function)).eraseDups := by
  rw [ofJournal, List.map_map]
  exact List.map_id _

/-- **A registry is a set of pairs of a function and a template.** Take registrations of any kinds
in any order, some of which may fail. A further pair is new exactly if no registration that
succeeded was for this function with a template of this text. The size is the number of different
pairs, and the registry is empty exactly if nothing succeeded. A function has the different
templates that were registered for it, each once, in the order of their first registrations for it,
whatever was registered for other functions. No function has two groups. -/
theorem registry_is_set {σ : Type} (e : Engine) (rs : List Registration) (s : Site σ) :
    let (done, after) := Registration.makeAll e rs { s with registry := .empty }
    let r := after.registry
    (∀ f t, (r.register f t).1 = true ↔
        ∀ o ∈ done, ¬ (o.function = f ∧ o.template.source = t.source)) ∧
      r.size = done.toFinset.card ∧
      (r.isEmpty = true ↔ done = []) ∧
      (∀ f, r.templatesFor f =
        ((done.filter (·.function = f)).map (·.template)).eraseDups) ∧
      (r.groups.map Group.function).Nodup := by
  have reached := Registration.registry_makeAll e rs { s with registry := .empty }
  generalize Registration.makeAll e rs { s with registry := .empty } = made at reached
  obtain ⟨done, after⟩ := made
  dsimp only at reached ⊢
  have journal := reached.trans (registerAll_eraseDups done)
  have count : after.registry.size = done.eraseDups.length := by
    rw [reached, size_registerAll, fresh_empty]
    exact Nat.zero_add _
  refine ⟨fun f t => ?_, ?_, ?_, fun f => ?_, ?_⟩
  · have added := register_ofJournal done.eraseDups ⟨f, t⟩
    rw [journal, added]
    constructor
    · intro new o among ⟨owner, text⟩
      have same : o = ⟨f, t⟩ := by
        obtain ⟨g, u⟩ := o
        exact congrArg₂ Origin.mk owner (Template.ext_source text)
      rw [if_pos (List.mem_eraseDups.mpr (same ▸ among))] at new
      cases new
    · intro other
      rw [if_neg fun among => other _ (List.mem_eraseDups.mp among) ⟨rfl, rfl⟩]
  · rw [count, ← List.toFinset_card_of_nodup (nodup_eraseDups done)]
    congr 1
    ext o
    simp
  · rw [isEmpty, count, beq_iff_eq, List.length_eq_zero_iff]
    constructor
    · intro none_left
      refine List.eq_nil_iff_forall_not_mem.mpr fun o among => ?_
      have kept := List.mem_eraseDups.mpr among
      rw [none_left] at kept
      cases kept
    · rintro rfl
      rfl
  · rw [journal, templatesFor_ofJournal, group_eraseDups]
    rfl
  · rw [journal, function_groups]
    exact nodup_eraseDups _

end Registry
end Latchkey
