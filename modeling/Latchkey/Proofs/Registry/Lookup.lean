import Latchkey.Proofs.Pattern.Captures
import Latchkey.Proofs.Registry.Contents

namespace Latchkey

namespace Pattern

/-- A pattern accepts the keys that it captures something of. -/
theorem accepts_eq_isSome_captures (p : Pattern) (key : String) :
    p.accepts key = (p.captures key).isSome := by
  rw [accepts, captures, Option.isSome_map]

end Pattern

namespace Registry

variable {r : Registry} {key : String}

/-- The fields that are found are what the pattern of their template captures. -/
theorem captures_of_fieldsOf? {k : KeyFields} (found : r.fieldsOf? key = some k) :
    (Pattern.ofTemplate k.template).captures key = some k.fields := by
  obtain ⟨o, -, told⟩ := List.exists_of_findSome?_eq_some found
  obtain ⟨fields, captured, rfl⟩ := Option.map_eq_some_iff.mp told
  exact captured

theorem fieldsOf?_eq_none_iff (r : Registry) (key : String) :
    r.fieldsOf? key = none ↔ r.originOf? key = none := by
  rw [← fieldsOf?_origin, Option.map_eq_none_iff]

theorem mem_templatesFor_of_originOf? {journal : List Origin} {o : Origin}
    (found : (ofJournal journal).originOf? key = some o) :
    o.template ∈ (ofJournal journal).templatesFor o.function := by
  rw [mem_templatesFor]
  exact (originOf?_eq_some_iff.mp found).1

end Registry

theorem Site.originOf?_fst {σ : Type} (s : Site σ) (key : String) :
    (s.originOf? key).1 = s.registry.originOf? key := by
  unfold Site.originOf?
  cases s.registry.originOf? key <;> rfl

theorem Site.fieldsOf?_fst {σ : Type} (s : Site σ) (key : String) :
    (s.fieldsOf? key).1 = s.registry.fieldsOf? key := by
  unfold Site.fieldsOf?
  cases s.registry.fieldsOf? key <;> rfl

/-- **Both look-ups find the same, and what they find is sound.** Take registrations of any kinds in
any order, and any key. Each look-up finds nothing exactly if no pattern of a registered pair
accepts the key. Otherwise both find the same function and the same template, a template of this
function. The family of keys is that of the template. And the texts of the fields are what the
pattern of this template captures of the key, one for each of its groups. -/
theorem Registry.lookups_agree {σ : Type} (e : Engine) (rs : List Registration) (s : Site σ)
    (key : String) :
    let (done, after) := Registration.makeAll e rs { s with registry := .empty }
    ((after.originOf? key).1 = none ↔
        ∀ o ∈ done, (Pattern.ofTemplate o.template).accepts key = false) ∧
      ((after.fieldsOf? key).1 = none ↔
        ∀ o ∈ done, (Pattern.ofTemplate o.template).captures key = none) ∧
      ((after.originOf? key).1 = none ↔ (after.fieldsOf? key).1 = none) ∧
      ∀ o, (after.originOf? key).1 = some o →
        ∃ fields, (after.fieldsOf? key).1 = some ⟨o.function, o.template, fields⟩ ∧
          o.template ∈ after.registry.templatesFor o.function ∧
          o.glob = o.template.glob ∧
          (Pattern.ofTemplate o.template).captures key = some fields ∧
          (Named.names fields).Perm (Pattern.ofTemplate o.template).groups := by
  have reached := Registration.registry_makeAll e rs { s with registry := .empty }
  generalize Registration.makeAll e rs { s with registry := .empty } = made at reached
  obtain ⟨done, after⟩ := made
  dsimp only at reached ⊢
  have journal := reached.trans (registerAll_eraseDups done)
  have unmade : after.registry.originOf? key = none ↔
      ∀ o ∈ done, (Pattern.ofTemplate o.template).accepts key = false := by
    rw [journal, originOf?_eq_none_iff]
    simp only [List.mem_eraseDups]
    rfl
  rw [after.originOf?_fst, after.fieldsOf?_fst, fieldsOf?_eq_none_iff]
  refine ⟨unmade, ?_, Iff.rfl, fun o found => ?_⟩
  · simpa only [Pattern.accepts_eq_isSome_captures, Option.isSome_eq_false_iff,
      Option.isNone_iff_eq_none] using unmade
  · obtain ⟨-, fields, told⟩ := Site.lookups_of_found found
    rw [after.fieldsOf?_fst] at told
    have captured := captures_of_fieldsOf? told
    refine ⟨fields, told, ?_, rfl, captured, Pattern.perm_groups_of_captures captured⟩
    rw [journal] at found ⊢
    exact mem_templatesFor_of_originOf? found

end Latchkey
