import Latchkey.Proofs.Template.Assembly

/-!
Wrapping reads a new text, with the old one in the middle of it. No brace of one part pairs with a
brace of another, so the items of the template stay as they are. `wrapping_commutes`: all that a
wrapped template makes is what the template makes, between the two texts.
-/

namespace Latchkey.Template

/-- A template that is another one between two texts: so are its glob and its keys, a key fails as
that of the other one does, and the fields are the same. -/
structure Between (t' t : Template) (front tail : String) : Prop where
  format : ∀ f values, Formatter.format f t' values =
    (Formatter.format f t values).map fun key => front ++ key ++ tail
  glob : t'.glob = front ++ t.glob ++ tail
  fields : t'.fields = t.fields

variable {t t' : Template} {front tail : String}

theorem Between.of_items
    (items : t'.items = front.toList.map .char ++ t.items ++ tail.toList.map .char) :
    t'.Between t front tail where
  format f values := by
    rw [Formatter.format_eq, Formatter.format_eq, items, Formatter.itemsText_append,
      Formatter.itemsText_append, Formatter.itemsText_literal, Formatter.itemsText_literal,
      String.ofList_toList, String.ofList_toList]
    cases f.itemsText values t.items <;> rfl
  glob := by
    rw [glob_eq, glob_eq, items, List.flatMap_append, List.flatMap_append, spell_literal,
      spell_literal, String.ofList_append, String.ofList_append, String.ofList_toList,
      String.ofList_toList]
  fields := by
    rw [fields_eq, fields_eq, items, List.filterMap_append, List.filterMap_append, fields_literal,
      fields_literal, List.nil_append, List.append_nil]

/-- The order of the two steps is not seen in the text, and so nowhere. -/
theorem withSuffix_of_withPrefix {below closed : Template} {space text : String}
    (prefixed : t.withPrefix space = .ok below) (suffixed : t.withSuffix text = .ok closed) :
    below.withSuffix text = closed.withPrefix space := by
  unfold withSuffix withPrefix
  rw [source_of_parse prefixed, source_of_parse suffixed]
  simp only [String.append_assoc]

/-- **Wrapping commutes with all that is made of a template.** Any template can be put below any
namespace and in front of any suffix, in either order, and the order makes no difference. The keys,
the glob and the fields of what results are those of the template, between the two texts. -/
theorem wrapping_commutes (t : Template) (space text : String) :
    ∃ below closed both, t.withPrefix space = .ok below ∧ t.withSuffix text = .ok closed ∧
      below.withSuffix text = .ok both ∧ closed.withPrefix space = .ok both ∧
      below.Between t (space ++ ":") "" ∧ closed.Between t "" (":" ++ text) ∧
      both.Between t (space ++ ":") (":" ++ text) := by
  obtain ⟨below, prefixed, below_items⟩ := t.withPrefix_items space
  obtain ⟨closed, suffixed, closed_items⟩ := t.withSuffix_items text
  obtain ⟨both, wrapped, both_items⟩ := below.withSuffix_items text
  have colon : ":".toList = [separator] := rfl
  refine ⟨below, closed, both, prefixed, suffixed, wrapped, ?_, .of_items ?_, .of_items ?_,
    .of_items ?_⟩
  · rw [← withSuffix_of_withPrefix prefixed suffixed, wrapped]
  · simp [below_items, colon]
  · simp [closed_items, colon]
  · simp [both_items, below_items, colon]

end Latchkey.Template
