import Latchkey.Proofs.Pattern.Captures

namespace Latchkey.Pattern

theorem read_below {t : Template} {key : String} {texts : List (List Char)}
    (read : (ofTemplate t).read key = some texts) (space : String) :
    (ofTemplate t).read (space ++ ":" ++ key) = some texts := by
  obtain ⟨front, body, split, ended, reading⟩ := split_of_read read
  refine read_of_split ?_ (ended.append space.toList) reading
  rw [String.toList_append, String.toList_append, split]
  simp [separator]

/-- **A namespace does not change how a key is read.** What is captured of a key is also captured of
the key below any namespace. And a key is accepted exactly if it can be cut in one way, and in one
way only, into a namespace, which may be empty, and a body that the segments spell. -/
theorem captures_below (t : Template) (key : String) :
    (∀ m, (ofTemplate t).captures key = some m →
      ∀ space : String, (ofTemplate t).captures (space ++ ":" ++ key) = some m) ∧
    ((ofTemplate t).accepts key = true ↔
      ∃! split : List Char × List Char, key.toList = split.1 ++ split.2 ∧ IsSpace split.1 ∧
        ∃ texts, Spells t.segments texts split.2) := by
  constructor
  · intro m captured space
    obtain ⟨texts, read, rfl⟩ := Option.map_eq_some_iff.mp captured
    rw [captures, read_below read space]
    rfl
  · rw [accepts_iff]
    constructor
    · rintro ⟨space, texts, body, split, ended, spelled⟩
      refine ⟨(space, body), ⟨split, ended, texts, spelled⟩, ?_⟩
      rintro ⟨space', body'⟩ ⟨split', ended', texts', spelled'⟩
      obtain ⟨rfl, rfl⟩ := split_unique ended' ended spelled' spelled (split'.symm.trans split)
      rfl
    · rintro ⟨⟨space, body⟩, ⟨split, ended, texts, spelled⟩, -⟩
      exact ⟨space, texts, body, split, ended, spelled⟩

/-- Namespaces that look like the template itself: the fields are still those of the last body. -/
theorem captured_below_own_literal :
    let t : Template := ⟨"k:\x7ba\x7d\x7bb\x7d",
      [.literal "k:", .field ⟨"a", none⟩, .field ⟨"b", none⟩], by decide +kernel⟩
    (ofTemplate t).captures "n:k:xy" = some [("a", "xy"), ("b", "")] ∧
      (ofTemplate t).captures "k:1:k:n:k:xy" = some [("a", "xy"), ("b", "")] := by
  intro t
  have captured : (ofTemplate t).captures "n:k:xy" = some [("a", "xy"), ("b", "")] := by
    decide +kernel
  exact ⟨captured, (captures_below t "n:k:xy").1 _ captured "k:1:k"⟩

end Latchkey.Pattern
