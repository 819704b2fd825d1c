import Latchkey.Proofs.Signature.Key

/-!
Keys are joined from texts that may hold the separator themselves, so two calls can have one key. In
any such collision one call imitates the other: where their parts first differ, one part is the
other and goes on as the key of the other call does, through the name of the next parameter.
`keys_apart`: without imitation, different calls have different keys.
-/

namespace Latchkey

/-- A part of a key. Before its text stand its mark and a separator. -/
structure KeyPart where
  mark : List Char
  text : String
deriving Repr, DecidableEq

namespace KeyPart

/-- The text of parts behind one another. -/
def joined (parts : List KeyPart) : List Char :=
  parts.flatMap fun part => part.mark ++ separator :: part.text.toList

/-- A mark is nothing, or a separator and a name. -/
def Marked (part : KeyPart) : Prop :=
  part.mark = [] ∨ ∃ name, part.mark = separator :: name ∧ separator ∉ name

/-- A text goes on behind another one as a key does that has this part next: through the mark, up to
a separator or the end. -/
def TakenUp (next : KeyPart) (a b : String) : Prop :=
  a ≠ b ∧ (b.toList = a.toList ++ next.mark ∨ a.toList ++ next.mark ++ [separator] <+: b.toList)

instance (next : KeyPart) (a b : String) : Decidable (next.TakenUp a b) :=
  inferInstanceAs (Decidable (_ ∧ (_ ∨ _)))

/-- Where they first differ, the second parts take up what the first go on with. -/
def Imitates : List KeyPart → List KeyPart → Prop
  | a :: next :: rest, b :: rest' =>
    next.TakenUp a.text b.text ∨ (a.text = b.text ∧ Imitates (next :: rest) rest')
  | _, _ => False

instance Imitates.decidable : (parts parts' : List KeyPart) → Decidable (Imitates parts parts')
  | a :: next :: rest, b :: rest' =>
    have := decidable (next :: rest) rest'
    inferInstanceAs (Decidable
      (next.TakenUp a.text b.text ∨ (a.text = b.text ∧ Imitates (next :: rest) rest')))
  | [], _ => isFalse id
  | [_], _ => isFalse id
  | _ :: _ :: _, [] => isFalse id

/-- One of two lists of parts imitates the other. -/
def Confusable (parts parts' : List KeyPart) : Prop := Imitates parts parts' ∨ Imitates parts' parts

instance (parts parts' : List KeyPart) : Decidable (Confusable parts parts') :=
  inferInstanceAs (Decidable (_ ∨ _))

variable {a b : KeyPart} {rest rest' : List KeyPart}

theorem Imitates.behind (same : a.text = b.text) (imitates : Imitates rest rest') :
    Imitates (a :: rest) (b :: rest') := by
  cases rest with
  | nil => cases imitates
  | cons next rest => exact .inr ⟨same, imitates⟩

theorem Confusable.behind (same : a.text = b.text) (confusable : Confusable rest rest') :
    Confusable (a :: rest) (b :: rest') :=
  confusable.imp (.behind same) (.behind same.symm)

theorem joined_cons (next : KeyPart) (rest : List KeyPart) :
    joined (next :: rest) = next.mark ++ separator :: (next.text.toList ++ joined rest) := by
  simp [joined]

/-- Behind a part stands nothing, or a separator and more. -/
theorem head_joined (marked : ∀ part ∈ rest, part.Marked) :
    ∀ c ∈ (joined rest).head?, c = separator := by
  intro c first
  cases rest with
  | nil => cases first
  | cons next rest =>
    obtain none_before | ⟨name, named, -⟩ := marked next List.mem_cons_self
    · simpa [joined, none_before, eq_comm] using first
    · simpa [joined, named, eq_comm] using first

/-- A text that is longer than another one, in one key, goes on as the key of the other does. -/
theorem imitates_of_longer {x : List Char} (marked : ∀ part ∈ rest, part.Marked)
    (marked' : ∀ part ∈ rest', part.Marked) (more : x ≠ [])
    (longer : b.text.toList = a.text.toList ++ x) (same : joined rest = x ++ joined rest') :
    Imitates (a :: rest) (b :: rest') := by
  have differ : a.text ≠ b.text := by
    intro equal
    rw [equal] at longer
    exact more (List.self_eq_append_right.mp longer)
  cases rest with
  | nil =>
    have nothing := List.nil_eq_append_iff.mp same
    exact absurd nothing.1 more
  | cons next rest =>
    refine .inl ⟨differ, ?_⟩
    have split : next.mark ++ separator :: (next.text.toList ++ joined rest) =
        x ++ joined rest' := by
      rw [← same, joined_cons]
    rw [longer]
    rcases List.append_eq_append_iff.mp split with ⟨y, through, behind⟩ | ⟨y, within, behind⟩
    · -- the longer text goes through the mark
      cases y with
      | nil => exact .inl (by rw [through, List.append_nil])
      | cons c y =>
        obtain rfl : separator = c := (List.cons.inj behind).1
        refine .inr ?_
        rw [List.append_assoc, through]
        exact (List.prefix_append_right_inj _).mpr ((List.prefix_append_right_inj _).mpr (by simp))
    · -- it cannot end within: no separator follows there
      cases y with
      | nil => exact .inl (by rw [within, List.append_nil])
      | cons c y =>
        have c_eq : c = separator := head_joined marked' c (by rw [behind]; rfl)
        obtain none_before | ⟨name, named, clean⟩ := marked next List.mem_cons_self
        · rw [none_before] at within
          exact absurd within.symm (by simp)
        · obtain ⟨d, x, rfl⟩ := List.exists_cons_of_ne_nil more
          rw [named, List.cons_append] at within
          refine absurd ?_ clean
          rw [(List.cons.inj within).2, c_eq]
          simp

/-- Two texts that begin one key are the same, or one of the calls imitates the other. -/
theorem same_or_confusable (marked : ∀ part ∈ rest, part.Marked)
    (marked' : ∀ part ∈ rest', part.Marked)
    (same : a.text.toList ++ joined rest = b.text.toList ++ joined rest') :
    (a.text = b.text ∧ joined rest = joined rest') ∨ Confusable (a :: rest) (b :: rest') := by
  rcases List.append_eq_append_iff.mp same with ⟨x, longer, left⟩ | ⟨x, longer, left⟩
  · by_cases more : x = []
    · subst more
      rw [List.append_nil] at longer
      exact .inl ⟨String.toList_inj.mp longer.symm, left⟩
    · exact .inr (.inl (imitates_of_longer marked marked' more longer left))
  · by_cases more : x = []
    · subst more
      rw [List.append_nil] at longer
      exact .inl ⟨String.toList_inj.mp longer, left.symm⟩
    · exact .inr (.inr (imitates_of_longer marked' marked more longer left))

/-- Equal texts of parts with equal marks have equal parts, up to imitation. -/
theorem texts_of_joined (marked : ∀ part ∈ rest, part.Marked)
    (marked' : ∀ part ∈ rest', part.Marked) (marks : rest.map mark = rest'.map mark)
    (same : a.text.toList ++ joined rest = b.text.toList ++ joined rest') :
    (a :: rest).map text = (b :: rest').map text ∨ Confusable (a :: rest) (b :: rest') := by
  induction rest generalizing a b rest' with
  | nil =>
    obtain rfl := List.map_eq_nil_iff.mp marks.symm
    refine .inl ?_
    rw [List.append_left_inj] at same
    exact congrArg (· :: []) (String.toList_inj.mp same)
  | cons next rest ih =>
    obtain ⟨next', rest', rfl, mark_eq, marks⟩ := List.map_eq_cons_iff.mp marks.symm
    rcases same_or_confusable marked marked' same with ⟨text_eq, behind⟩ | confusable
    · rw [joined_cons, joined_cons, mark_eq] at behind
      have follows := (List.cons.inj (List.append_cancel_left behind)).2
      refine (ih (List.forall_mem_cons.mp marked).2 (List.forall_mem_cons.mp marked').2 marks.symm
        follows).imp (fun texts => ?_) (.behind text_eq)
      rw [List.map_cons, text_eq, texts]
      rfl
    · exact .inr confusable

end KeyPart

namespace Signature

/-- What a key begins with: the module. -/
def homePart (id : FuncId) : KeyPart := ⟨[], id.home⟩

/-- What stands behind the module in a key: the name, and each parameter marked with its name. -/
def partsBehind (id : FuncId) (params : List String) (say : String → String) : List KeyPart :=
  ⟨[], id.name⟩ :: params.map fun p => ⟨separator :: p.toList, say p⟩

/-- What varies in the keys of calls: module, name, and the texts of the parameters. -/
def parts (sig : Signature) (f : Formatter) (args : CallArgs) : List KeyPart :=
  homePart sig.id :: partsBehind sig.id sig.params (f.parameterText (args.bind sig))

variable {id : FuncId} {params : List String} {say : String → String}

theorem keyText_eq : keyText id params say =
    (homePart id).text.toList ++ KeyPart.joined (partsBehind id params say) := by
  have parameters : params.flatMap (tagged say) =
      KeyPart.joined (params.map fun p => ⟨separator :: p.toList, say p⟩) := by
    rw [KeyPart.joined, List.flatMap_map]
    rfl
  rw [keyText, partsBehind, KeyPart.joined_cons, parameters]
  rfl

theorem marked_partsBehind (plain : ∀ p ∈ params, PlainName p) :
    ∀ part ∈ partsBehind id params say, part.Marked := by
  refine List.forall_mem_cons.mpr ⟨.inl rfl, List.forall_mem_map.mpr fun p parameter => ?_⟩
  exact .inr ⟨p.toList, rfl, (plain p parameter).2 separator (by decide)⟩

theorem marks_partsBehind (say say' : String → String) :
    (partsBehind id params say).map KeyPart.mark =
      (partsBehind id params say').map KeyPart.mark := by
  simp [partsBehind]

/-- The keys of calls that differ are different texts, up to imitation. -/
theorem keyText_ne {sig sig' : Signature} {f f' : Formatter} {args args' : CallArgs}
    (plain : ∀ p ∈ sig.params, PlainName p) (plain' : ∀ p ∈ sig'.params, PlainName p)
    (differ : sig.id ≠ sig'.id ∨ sig = sig' ∧ ∃ p ∈ sig.params,
      f.parameterText (args.bind sig) p ≠ f'.parameterText (args'.bind sig') p)
    (apart : ¬ KeyPart.Confusable (sig.parts f args) (sig'.parts f' args')) :
    keyText sig.id sig.params (f.parameterText (args.bind sig)) ≠
      keyText sig'.id sig'.params (f'.parameterText (args'.bind sig')) := by
  intro same
  rw [keyText_eq, keyText_eq] at same
  have marked : ∀ part ∈ partsBehind sig.id sig.params (f.parameterText (args.bind sig)),
      part.Marked := marked_partsBehind plain
  have marked' : ∀ part ∈ partsBehind sig'.id sig'.params (f'.parameterText (args'.bind sig')),
      part.Marked := marked_partsBehind plain'
  rcases differ with id_ne | ⟨rfl, p, parameter, text_ne⟩
  · obtain ⟨home_eq, behind⟩ := (KeyPart.same_or_confusable marked marked' same).resolve_right apart
    rw [partsBehind, partsBehind, KeyPart.joined_cons, KeyPart.joined_cons] at behind
    have follows := (List.cons.inj (List.append_cancel_left behind)).2
    obtain ⟨name_eq, -⟩ := (KeyPart.same_or_confusable (List.forall_mem_cons.mp marked).2
      (List.forall_mem_cons.mp marked').2 follows).resolve_right
        fun confusable => apart (confusable.behind home_eq)
    exact id_ne (congrArg₂ FuncId.mk home_eq name_eq)
  · have texts := (KeyPart.texts_of_joined marked marked' (marks_partsBehind _ _)
      same).resolve_right apart
    have equal : ∀ p ∈ sig.params,
        f.parameterText (args.bind sig) p = f'.parameterText (args'.bind sig) p := by
      simpa [partsBehind] using texts
    exact text_ne (equal p parameter)

end Signature

/-! ## The seconds at the end of a key -/

namespace Decimal

theorem separator_not_mem_toDigits (n : Nat) : separator ∉ Nat.toDigits 10 n := by
  intro among
  have digit := Nat.isDigit_of_mem_toDigits (by decide) (by decide) among
  exact absurd digit (by decide)

theorem separator_not_mem_zeros (n : Nat) : separator ∉ zeros n := by
  intro among
  exact absurd (List.eq_of_mem_replicate among) (by decide)

theorem separator_not_mem_normalised (d : Digits) : separator ∉ d.normalised.1 := by
  intro among
  have kept := (List.dropWhile_sublist _).mem (List.mem_reverse.mp among)
  exact separator_not_mem_toDigits _ (List.mem_reverse.mp kept)

variable {l : Layout} {digits : List Char}

theorem Layout.separator_not_mem_positional (plain : separator ∉ digits) (exponent : Int) :
    separator ∉ l.positional digits exponent := by
  have point : separator ≠ '.' := by decide
  have zero : separator ≠ '0' := by decide
  unfold Layout.positional
  dsimp only
  split
  · split <;> simp [plain, point, zero, separator_not_mem_zeros]
  · split
    · intro among
      rcases List.mem_append.mp among with taken | dropped
      · exact plain (List.mem_of_mem_take taken)
      · exact plain (List.mem_of_mem_drop ((List.mem_cons.mp dropped).resolve_left point))
    · simp [plain, point, zero, separator_not_mem_zeros]

theorem Layout.separator_not_mem_scientific (plain : separator ∉ digits) (exponent : Int) :
    separator ∉ l.scientific digits exponent := by
  have point : separator ≠ '.' := by decide
  have letter : separator ≠ 'e' := by decide
  have minus : separator ≠ '-' := by decide
  have plus : separator ≠ '+' := by decide
  unfold Layout.scientific
  dsimp only
  rw [List.mem_append, List.mem_cons, List.mem_append, not_or, not_or, not_or]
  refine ⟨?_, letter, ?_, separator_not_mem_toDigits _⟩
  · split
    · simpa [point] using plain
    · exact plain
  · split_ifs <;> simp [minus, plus]

theorem Layout.separator_not_mem_render (l : Layout) (x : Float) :
    separator ∉ (l.render x).toList := by
  have point : separator ≠ '.' := by decide
  have zero : separator ≠ '0' := by decide
  have minus : separator ≠ '-' := by decide
  have digits := separator_not_mem_normalised ((Binary.ofBits x.toBits).shortest l.tie)
  have signed : ∀ text : List Char, separator ∉ text →
      separator ∉ (if x.toBits >>> 63 = 0 then [] else ['-']) ++ text := by
    intro text plain
    split_ifs <;> simp [minus, plain]
  unfold Layout.render
  dsimp only
  split
  · rw [String.toList_ofList]
    refine signed _ ?_
    split_ifs <;> simp [point, zero]
  · split
    · rw [String.toList_ofList]
      exact signed _ (separator_not_mem_positional digits _)
    · rw [String.toList_ofList]
      exact signed _ (separator_not_mem_scientific digits _)

end Decimal

/-- What stands before the last separator is the same in equal texts. -/
theorem eq_before_last_separator {key key' last last' : List Char} (plain : separator ∉ last)
    (plain' : separator ∉ last') (same : key ++ separator :: last = key' ++ separator :: last') :
    key = key' := by
  rcases List.append_eq_append_iff.mp same with ⟨x, longer, left⟩ | ⟨x, longer, left⟩
  · cases x with
    | nil => exact (longer.trans (List.append_nil key)).symm
    | cons c x =>
      refine absurd ?_ plain
      rw [(List.cons.inj left).2]
      simp
  · cases x with
    | nil => exact longer.trans (List.append_nil key')
    | cons c x =>
      refine absurd ?_ plain'
      rw [(List.cons.inj left).2]
      simp

/-- Both keys are made, and they are different texts. -/
def Distinct (key key' : Except KeyError String) : Prop :=
  ∃ text text', key = .ok text ∧ key' = .ok text' ∧ text ≠ text'

theorem Distinct.ofList {text text' : List Char} (different : text ≠ text') :
    Distinct (.ok (String.ofList text)) (.ok (String.ofList text')) :=
  ⟨_, _, rfl, rfl, fun same => different (String.ofList_injective same)⟩

theorem Distinct.lockKey {key key' : Except KeyError String} (distinct : Distinct key key') :
    Distinct (key.map lockKey) (key'.map lockKey) := by
  obtain ⟨text, text', rfl, rfl, different⟩ := distinct
  exact ⟨_, _, rfl, rfl, fun same => different ((String.append_left_inj _).mp same)⟩

/-- **Calls have different keys unless one imitates the other.** Take two calls of functions with
plain names of parameters, where the functions differ, or the function is the same and the text of
some parameter differs. Unless the parts of one call imitate those of the other, the keys of the
derived templates differ, and so do those of two limiters and the locks of two breakers of one
namespace, whatever their other settings are. -/
theorem keys_apart {sig sig' : Signature} {f f' : Formatter} {args args' : CallArgs}
    (plain : ∀ p ∈ sig.params, PlainName p) (plain' : ∀ p ∈ sig'.params, PlainName p)
    (differ : sig.id ≠ sig'.id ∨ sig = sig' ∧ ∃ p ∈ sig.params,
      f.parameterText (args.bind sig) p ≠ f'.parameterText (args'.bind sig') p)
    (apart : ¬ KeyPart.Confusable (sig.parts f args) (sig'.parts f' args')) :
    Distinct (sig.keyFrom f (sig.template none) args) (sig'.keyFrom f' (sig'.template none) args') ∧
      (∀ c c' : LimitConfig, c.listed = none → c'.listed = none → c.space = c'.space →
        Distinct (sig.keyFrom f (c.template sig) args)
          (sig'.keyFrom f' (c'.template sig') args')) ∧
      ∀ c c' : BreakerConfig, c.listed = none → c'.listed = none → c.space = c'.space →
        c.key = none → c'.key = none →
        Distinct ((sig.keyFrom f (c.template sig) args).map lockKey)
          ((sig'.keyFrom f' (c'.template sig') args').map lockKey) := by
  have different := Signature.keyText_ne plain plain' differ apart
  refine ⟨?_, ?_, ?_⟩
  · rw [derived_key f args plain, derived_key f' args' plain']
    exact .ofList different
  · intro c c' unlisted unlisted' space
    rw [limiter_key f args unlisted plain, limiter_key f' args' unlisted' plain', space]
    refine .ofList fun same => different ?_
    exact (List.cons.inj (List.append_cancel_left same)).2
  · intro c c' unlisted unlisted' space underived underived'
    rw [breaker_key f args underived unlisted plain,
      breaker_key f' args' underived' unlisted' plain', space]
    refine .lockKey (.ofList fun same => different ?_)
    have behind := (List.cons.inj (List.append_cancel_left same)).2
    exact eq_before_last_separator (Decimal.Layout.separator_not_mem_render _ _)
      (Decimal.Layout.separator_not_mem_render _ _) behind

/-- Values with separators in them: as long as none takes up the name of the next parameter,
limiters and breakers of one function keep the calls apart. -/
theorem separators_kept_apart :
    let sig : Signature := ⟨⟨"shop.cart", "add"⟩, ["user", "item"]⟩
    let f : Formatter := .ofFunctions []
    let args : CallArgs := ⟨[.str "x", .str "item:2"], []⟩
    let args' : CallArgs := ⟨[.str "x:1", .str "2"], []⟩
    let limit : LimitConfig := default
    let breaker : BreakerConfig := default
    Distinct (sig.keyFrom f (limit.template sig) args) (sig.keyFrom f (limit.template sig) args') ∧
      Distinct ((sig.keyFrom f (breaker.template sig) args).map lockKey)
        ((sig.keyFrom f (breaker.template sig) args').map lockKey) := by
  intro sig f args args' limit breaker
  have plain : ∀ p ∈ sig.params, PlainName p := by decide +kernel
  have differ : sig.id ≠ sig.id ∨ sig = sig ∧ ∃ p ∈ sig.params,
      f.parameterText (args.bind sig) p ≠ f.parameterText (args'.bind sig) p := by
    exact .inr ⟨rfl, "user", by decide, by decide +kernel⟩
  have apart : ¬ KeyPart.Confusable (sig.parts f args) (sig.parts f args') := by decide +kernel
  obtain ⟨-, limiters, breakers⟩ := keys_apart plain plain differ apart
  exact ⟨limiters limit limit rfl rfl rfl, breakers breaker breaker rfl rfl rfl rfl rfl⟩

/-- A value that writes the name of the next parameter: both parameters differ in the two calls, and
yet a limiter counts the calls under one key, and a breaker holds one lock for them. -/
theorem imitated_parameter_shares_key :
    let sig : Signature := ⟨⟨"m", "f"⟩, ["a", "b"]⟩
    let f : Formatter := .ofFunctions []
    let args : CallArgs := ⟨[.str "1", .str "2:b:3"], []⟩
    let args' : CallArgs := ⟨[.str "1:b:2", .str "3"], []⟩
    let limit : LimitConfig := default
    let breaker : BreakerConfig := default
    (∀ p ∈ sig.params, PlainName p) ∧
      (∀ p ∈ sig.params, f.parameterText (args.bind sig) p ≠ f.parameterText (args'.bind sig) p) ∧
      sig.keyFrom f (limit.template sig) args = .ok "rate_limit:m:f:a:1:b:2:b:3" ∧
      sig.keyFrom f (limit.template sig) args' = .ok "rate_limit:m:f:a:1:b:2:b:3" ∧
      (sig.keyFrom f (breaker.template sig) args).map lockKey =
        (sig.keyFrom f (breaker.template sig) args').map lockKey := by
  intro sig f args args' limit breaker
  have plain : ∀ p ∈ sig.params, PlainName p := by decide +kernel
  have joined : Signature.keyText sig.id sig.params (f.parameterText (args.bind sig)) =
      Signature.keyText sig.id sig.params (f.parameterText (args'.bind sig)) := by decide +kernel
  refine ⟨plain, by decide +kernel, ?_, ?_, ?_⟩
  · rw [limiter_key f args rfl plain]
    decide +kernel
  · rw [limiter_key f args' rfl plain]
    decide +kernel
  · rw [breaker_key f args rfl rfl plain, breaker_key f args' rfl rfl plain, joined]

end Latchkey
