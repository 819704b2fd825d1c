import Latchkey.Breaker
import Latchkey.Limiter
import Latchkey.Proofs.Template.Assembly

/-!
A template derived from a signature writes module, name, and each parameter behind its name. This
needs the names of the parameters to be plain; `limiter_key` and `breaker_key` then give the keys
under a namespace in closed form, for all values.
-/

namespace Latchkey

/-- The characters that mean something in the name of a field, or to a template. -/
def reserved : List Char := ['.', '[', ']', '{', '}', ':', '!']

/-- A name that is the name of a field as it stands, and a path of one step. -/
def PlainName (p : String) : Prop := p ≠ "" ∧ ∀ c ∈ reserved, c ∉ p.toList

instance (p : String) : Decidable (PlainName p) :=
  have : Decidable (∀ c ∈ reserved, c ∉ p.toList) := List.decidableBAll _ _
  inferInstanceAs (Decidable (p ≠ "" ∧ ∀ c ∈ reserved, c ∉ p.toList))

/-- The characters that mean something to a template between the braces of a field. -/
def marks : List Char := ['{', '}', ':', '!']

/-- A name that stands for itself between the braces of a field. -/
def Unmarked (p : String) : Prop := ∀ c ∈ marks, c ∉ p.toList

instance (p : String) : Decidable (Unmarked p) := List.decidableBAll _ _

/-- The text of a parameter in a key: that of its value, or the one for unbound fields. -/
def Formatter.parameterText (f : Formatter) (values : Values) (p : String) : String :=
  match Named.find? p values with
  | some v => v.keyText
  | none => f.unbound p

namespace Unmarked

variable {p : String}

theorem braceless (unmarked : Unmarked p) : Braceless p.toList :=
  ⟨unmarked '{' (by decide), unmarked '}' (by decide)⟩

theorem body (unmarked : Unmarked p) : Field.Body p.toList p.toList none :=
  .intro (.whole (unmarked ':' (by decide))) (.whole (unmarked '!' (by decide)))

/-- An unmarked path between braces is a field of that name without a call. -/
theorem reads (unmarked : Unmarked p) (path : Path.WellFormed p.toList) :
    Item.Reads ('{' :: (p.toList ++ ['}'])) [.field ⟨p, none⟩] := by
  have field := Item.Reads.field unmarked.braceless unmarked.body path .nil
  rwa [String.ofList_toList] at field

end Unmarked

namespace PlainName

variable {p : String}

theorem toList_ne_nil (plain : PlainName p) : p.toList ≠ [] := by
  intro empty
  exact plain.1 (String.toList_eq_nil_iff.mp empty)

theorem unmarked (plain : PlainName p) : Unmarked p := by
  have among : marks ⊆ reserved := by decide
  exact fun c mark => plain.2 c (among mark)

theorem member (plain : PlainName p) : Path.Member p.toList :=
  ⟨plain.toList_ne_nil, plain.2 '.' (by decide), plain.2 '[' (by decide), plain.2 ']' (by decide)⟩

theorem wellFormed (plain : PlainName p) : Path.WellFormed p.toList := by
  rw [← List.append_nil p.toList]
  exact .intro plain.member .nil

theorem path (plain : PlainName p) (call : Option Call) : Field.path ⟨p, call⟩ = [p] := by
  obtain ⟨-, dot, opening, closing⟩ := plain.member
  have inside : ∀ c ∈ p.toList, isStep c = false := by
    intro c among
    simp only [isStep, Bool.or_eq_false_iff, beq_eq_false_iff_ne]
    exact ⟨⟨fun dotted => dot (dotted ▸ among), fun opened => opening (opened ▸ among)⟩,
      fun closed => closing (closed ▸ among)⟩
  unfold Field.path
  rw [List.splitOnP_eq_singleton inside]
  simp [plain.toList_ne_nil]

theorem fieldText (plain : PlainName p) (f : Formatter) (values : Values) :
    f.fieldText values ⟨p, none⟩ = .ok (f.parameterText values p) := by
  have found : Field.value? ⟨p, none⟩ values = Named.find? p values := by
    rw [Field.value?, plain.path, lookup?]
    cases Named.find? p values <;> rfl
  unfold Formatter.fieldText Formatter.parameterText
  rw [found]
  cases Named.find? p values <;> rfl

end PlainName

namespace Signature

/-- The text of a parameter in a template: its name and its field, each behind a separator. -/
def parameterSource (p : String) : String := ":" ++ p ++ ":\x7b" ++ p ++ "\x7d"

/-- A parameter in a template, where its name is a field. -/
def parameterItems (p : String) : List Item :=
  .char separator :: (p.toList.map .char ++ [.char separator, .field ⟨p, none⟩])

/-- The template of a function with these parameters, item by item. -/
def derivedItems (id : FuncId) (params : List String) : List Item :=
  id.home.toList.map .char ++ .char separator ::
    (id.name.toList.map .char ++ params.flatMap parameterItems)

theorem reads_parameter {p : String} (unmarked : Unmarked p) (path : Path.WellFormed p.toList) :
    Item.Reads (parameterSource p).toList (parameterItems p) := by
  have named := Item.Reads.separator.append (Item.Reads.plain unmarked.braceless)
  have whole := named.append (Item.Reads.separator.append (unmarked.reads path))
  simpa [parameterSource, parameterItems, String.toList_append, separator] using whole

/-- Parameters that are rows of items by themselves make a template. -/
theorem reads_templateText {id : FuncId} {params : List String} {row : String → List Item}
    (each : ∀ p ∈ params, Item.Reads (parameterSource p).toList (row p)) :
    Item.Reads (templateText id params).toList (id.home.toList.map .char ++ .char separator ::
      (id.name.toList.map .char ++ params.flatMap row)) := by
  have rows : Item.Reads (String.join (params.map parameterSource)).toList
      (params.flatMap row) := by
    rw [String.toList_join]
    induction params with
    | nil => exact .nil
    | cons p params ih =>
      rw [List.map_cons, List.flatMap_cons, List.flatMap_cons]
      exact (each p List.mem_cons_self).append
        (ih fun q among => each q (List.mem_cons_of_mem _ among))
  unfold templateText
  rw [String.toList_append, String.toList_append, String.toList_append, List.append_assoc,
    List.append_assoc]
  exact (Item.Reads.escape _).append
    (Item.Reads.separator.append ((Item.Reads.escape _).append rows))

theorem template_items (sig : Signature) (listed : Option (List String))
    (plain : ∀ p ∈ listed.getD sig.params, PlainName p) :
    ∃ t, sig.template listed = .ok t ∧ t.items = derivedItems sig.id (listed.getD sig.params) := by
  have reads : Item.Reads (templateText sig.id (listed.getD sig.params)).toList
      (derivedItems sig.id (listed.getD sig.params)) :=
    reads_templateText fun p among =>
      reads_parameter (plain p among).unmarked (plain p among).wellFormed
  obtain ⟨t, taken, -, items⟩ := Template.exists_of_reads reads
  exact ⟨t, taken, items⟩

end Signature

/-- The template of a limiter is the derived one below the namespace. -/
theorem LimitConfig.template_items (c : LimitConfig) (sig : Signature)
    (plain : ∀ p ∈ c.listed.getD sig.params, PlainName p) :
    ∃ t, c.template sig = .ok t ∧ t.items = c.space.toList.map .char ++ .char separator ::
      Signature.derivedItems sig.id (c.listed.getD sig.params) := by
  obtain ⟨t, derived, items⟩ := sig.template_items c.listed plain
  obtain ⟨t', wrapped, items'⟩ := t.withPrefix_items c.space
  refine ⟨t', ?_, items ▸ items'⟩
  unfold LimitConfig.template
  rw [derived]
  exact wrapped

/-- The template of a breaker is the derived one between the namespace and the seconds for which a
circuit opens. -/
theorem BreakerConfig.template_items (c : BreakerConfig) (sig : Signature)
    (underived : c.key = none) (plain : ∀ p ∈ c.listed.getD sig.params, PlainName p) :
    ∃ t, c.template sig = .ok t ∧ t.items = (c.space.toList.map .char ++ .char separator ::
      Signature.derivedItems sig.id (c.listed.getD sig.params)) ++
      .char separator :: (Duration.secondsText c.ttl).toList.map .char := by
  obtain ⟨t, derived, items⟩ := sig.template_items c.listed plain
  obtain ⟨t', wrapped, items'⟩ := t.withPrefix_items c.space
  obtain ⟨t'', closed, items''⟩ := t'.withSuffix_items (Duration.secondsText c.ttl)
  refine ⟨t'', ?_, by rw [items'', items', items]⟩
  unfold BreakerConfig.template
  rw [underived, derived]
  change (t.withPrefix c.space).bind _ = _
  rw [wrapped]
  exact closed

namespace Signature

/-- A parameter in a key: its name and its text, each behind a separator. -/
def tagged (say : String → String) (p : String) : List Char :=
  separator :: (p.toList ++ separator :: (say p).toList)

/-- The key of a call without what stands around it: module, name, and each parameter. -/
def keyText (id : FuncId) (params : List String) (say : String → String) : List Char :=
  id.home.toList ++ separator :: (id.name.toList ++ params.flatMap (tagged say))

/-- The key that a template, where there is one, makes of a call. -/
def keyFrom (sig : Signature) (f : Formatter) (template : Except KeyError Template)
    (args : CallArgs) : Except KeyError String := do
  let t ← template
  sig.key f t args

variable {sig : Signature}

theorem spell_parameters (say : Field → String) (params : List String) :
    (params.flatMap parameterItems).flatMap (Item.spell say) =
      params.flatMap (tagged fun p => say ⟨p, none⟩) := by
  induction params with
  | nil => rfl
  | cons p params ih =>
    rw [List.flatMap_cons, List.flatMap_cons, List.flatMap_append, ih]
    simp [parameterItems, tagged, Item.spell, spell_literal]

theorem spell_derivedItems (say : Field → String) (id : FuncId) (params : List String) :
    (derivedItems id params).flatMap (Item.spell say) =
      keyText id params fun p => say ⟨p, none⟩ := by
  unfold derivedItems keyText
  rw [List.flatMap_append, spell_literal, List.flatMap_cons, List.flatMap_append, spell_literal,
    spell_parameters]
  rfl

theorem field_of_derivedItems {id : FuncId} {params : List String} {field : Field}
    (among : .field field ∈ derivedItems id params) : ∃ p ∈ params, field = ⟨p, none⟩ := by
  simpa [derivedItems, parameterItems] using among

/-- The key of a template that has literal text around the derived items. -/
theorem key_of_items {template : Except KeyError Template} {t : Template} {params : List String}
    {front tail : List Char} (plain : ∀ p ∈ params, PlainName p) (taken : template = .ok t)
    (items : t.items = front.map .char ++ derivedItems sig.id params ++ tail.map .char)
    (f : Formatter) (args : CallArgs) :
    sig.keyFrom f template args =
      .ok (String.ofList
        (front ++ keyText sig.id params (f.parameterText (args.bind sig)) ++ tail)) := by
  let say : Field → String := fun field => f.parameterText (args.bind sig) field.name
  have written : ∀ field, .field field ∈ t.items →
      f.fieldText (args.bind sig) field = .ok (say field) := by
    intro field among
    have derived : .field field ∈ derivedItems sig.id params := by
      simpa [items] using among
    obtain ⟨p, parameter, rfl⟩ := field_of_derivedItems derived
    exact (plain p parameter).fieldText f _
  subst taken
  change f.format t (args.bind sig) = _
  rw [Formatter.format_of_items written, items, List.flatMap_append, List.flatMap_append,
    spell_literal, spell_literal, spell_derivedItems]

end Signature

variable {sig : Signature} (f : Formatter) (args : CallArgs)

theorem listed_key (listed : Option (List String))
    (plain : ∀ p ∈ listed.getD sig.params, PlainName p) :
    sig.keyFrom f (sig.template listed) args =
      .ok (String.ofList (Signature.keyText sig.id (listed.getD sig.params)
        (f.parameterText (args.bind sig)))) := by
  obtain ⟨t, taken, items⟩ := sig.template_items listed plain
  have framed : t.items = [].map .char ++
      Signature.derivedItems sig.id (listed.getD sig.params) ++ [].map .char := by simpa using items
  simpa using Signature.key_of_items plain taken framed f args

theorem derived_key (plain : ∀ p ∈ sig.params, PlainName p) :
    sig.keyFrom f (sig.template none) args =
      .ok (String.ofList
        (Signature.keyText sig.id sig.params (f.parameterText (args.bind sig)))) :=
  listed_key f args none plain

theorem limiter_key {c : LimitConfig} (unlisted : c.listed = none)
    (plain : ∀ p ∈ sig.params, PlainName p) :
    sig.keyFrom f (c.template sig) args =
      .ok (String.ofList (c.space.toList ++ separator ::
        Signature.keyText sig.id sig.params (f.parameterText (args.bind sig)))) := by
  obtain ⟨t, taken, items⟩ := c.template_items sig (by rw [unlisted]; exact plain)
  have framed : t.items = (c.space.toList ++ [separator]).map .char ++
      Signature.derivedItems sig.id sig.params ++ [].map .char := by
    simpa [unlisted] using items
  simpa using Signature.key_of_items plain taken framed f args

theorem breaker_key {c : BreakerConfig} (underived : c.key = none) (unlisted : c.listed = none)
    (plain : ∀ p ∈ sig.params, PlainName p) :
    sig.keyFrom f (c.template sig) args =
      .ok (String.ofList (c.space.toList ++ separator ::
        (Signature.keyText sig.id sig.params (f.parameterText (args.bind sig)) ++
          separator :: (Duration.secondsText c.ttl).toList))) := by
  obtain ⟨t, taken, items⟩ := c.template_items sig underived (by rw [unlisted]; exact plain)
  have framed : t.items = (c.space.toList ++ [separator]).map .char ++
      Signature.derivedItems sig.id sig.params ++
        (separator :: (Duration.secondsText c.ttl).toList).map .char := by
    simpa [unlisted] using items
  simpa using Signature.key_of_items plain taken framed f args

end Latchkey
