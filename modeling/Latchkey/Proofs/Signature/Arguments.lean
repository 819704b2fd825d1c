import Latchkey.Proofs.Named
import Latchkey.Proofs.Signature.Key

namespace Latchkey

/-- The last of the first `n` positions at which a parameter stands. -/
def Signature.lastPosition? (sig : Signature) (p : String) : Nat → Option Nat
  | 0 => none
  | n + 1 => if sig.params[n]? = some p then some n else sig.lastPosition? p n

/-- The value that a call gives for a parameter: the named argument, or else the positional one at
the last position of the parameter that has an argument. -/
def CallArgs.value? (args : CallArgs) (sig : Signature) (p : String) : Option Json :=
  (Named.find? p args.named).or
    ((sig.lastPosition? p args.positional.length).bind fun i => args.positional[i]?)

namespace CallArgs

variable {sig : Signature} {args : CallArgs}

/-- Among the first `n` pairs of parameters and arguments, the last one of a name is at its last
position. -/
theorem find?_zip_take (p : String) {positional : List Json} {n : Nat}
    (filled : n ≤ positional.length) :
    Named.find? p ((sig.params.zip positional).take n).reverse =
      (sig.lastPosition? p n).bind fun i => positional[i]? := by
  induction n with
  | zero => rfl
  | succ n ih =>
    have here : positional[n]? = some positional[n] := List.getElem?_eq_getElem filled
    rw [List.take_add_one, List.reverse_append, Named.find?_append, ih (Nat.le_of_succ_le filled),
      Signature.lastPosition?]
    cases stands : sig.params[n]? with
    | none =>
      have short := List.getElem?_eq_none_iff.mp stands
      have beyond : (sig.params.zip positional)[n]? = none :=
        List.getElem?_eq_none_iff.mpr (by
          rw [List.length_zip]
          exact Nat.le_trans (Nat.min_le_left ..) short)
      simp [beyond, Named.find?]
    | some q =>
      have pair : (sig.params.zip positional)[n]? = some (q, positional[n]) := by
        simp [List.getElem?_zip_eq_some, stands, here]
      rw [pair]
      by_cases same : p = q
      · simp [Named.find?, same, here]
      · simp [Named.find?, same, Ne.symm same]

/-- Binding gives every parameter its value. -/
theorem find?_bind (mapped : Named.Sorted args.named) (p : String) :
    Named.find? p (args.bind sig) = args.value? sig p := by
  have pairs : Named.find? p (Named.ofList (sig.params.zip args.positional)) =
      (sig.lastPosition? p args.positional.length).bind fun i => args.positional[i]? := by
    have whole : (sig.params.zip args.positional).take args.positional.length =
        sig.params.zip args.positional := List.take_of_length_le (by simp)
    rw [← find?_zip_take p (Nat.le_refl _), whole]
    exact (Named.find?_override p [] _).trans (Option.or_none ..)
  rw [bind, Named.find?_override, Named.find?_reverse p (Named.nodup_names mapped), pairs, value?]

end CallArgs

/-- **The key of a call in closed form.** Where all listed parameters have plain names, there is a
template, and the key of every call is the module, the name, and for each listed parameter its name
and its text: that of its value, or the one for unbound fields. So calls that give the same values
for the listed parameters have the same key, whatever else they give and in whatever way. -/
theorem key_of_arguments {sig : Signature} {listed : Option (List String)}
    (plain : ∀ p ∈ listed.getD sig.params, PlainName p) (f : Formatter) :
    ∃ t, sig.template listed = .ok t ∧
      (∀ args : CallArgs, Named.Sorted args.named →
        sig.key f t args = .ok (String.ofList (Signature.keyText sig.id (listed.getD sig.params)
          fun p => (args.value? sig p).elim (f.unbound p) Json.keyText))) ∧
      ∀ args args' : CallArgs, Named.Sorted args.named → Named.Sorted args'.named →
        (∀ p ∈ listed.getD sig.params, args.value? sig p = args'.value? sig p) →
        sig.key f t args = sig.key f t args' := by
  obtain ⟨t, taken, -⟩ := sig.template_items listed plain
  have closed : ∀ args : CallArgs, Named.Sorted args.named →
      sig.key f t args = .ok (String.ofList (Signature.keyText sig.id (listed.getD sig.params)
        fun p => (args.value? sig p).elim (f.unbound p) Json.keyText)) := by
    intro args mapped
    have text : f.parameterText (args.bind sig) =
        fun p => (args.value? sig p).elim (f.unbound p) Json.keyText := by
      funext p
      rw [Formatter.parameterText, CallArgs.find?_bind mapped]
      cases args.value? sig p <;> rfl
    have made := listed_key f args listed plain
    rw [taken, text] at made
    exact made
  refine ⟨t, taken, closed, fun args args' mapped mapped' agree => ?_⟩
  rw [closed args mapped, closed args' mapped']
  unfold Signature.keyText
  have texts : (listed.getD sig.params).flatMap (Signature.tagged fun p =>
        (args.value? sig p).elim (f.unbound p) Json.keyText) =
      (listed.getD sig.params).flatMap (Signature.tagged fun p =>
        (args'.value? sig p).elim (f.unbound p) Json.keyText) := by
    refine List.flatMap_congr fun p parameter => ?_
    rw [Signature.tagged, Signature.tagged, agree p parameter]
  rw [texts]

/-- A parameter that is there twice, one that has no value, and one that is named: two calls that
fill different positions give the listed parameters the same values. -/
theorem repeated_parameter_key :
    let sig : Signature := ⟨⟨"a\x7bb\x7d", "f"⟩, ["x", "y", "x"]⟩
    let f : Formatter := .ofFunctions []
    ∃ t, sig.template (some ["x", "z", "y"]) = .ok t ∧
      sig.key f t ⟨[.int 1, .int 2], [("y", .str "k")]⟩ = .ok "a\x7bb\x7d:f:x:1:z:*:y:k" ∧
      sig.key f t ⟨[.null, .null, .int 1], [("w", .null), ("y", .str "k")]⟩ =
        sig.key f t ⟨[.int 1, .int 2], [("y", .str "k")]⟩ := by
  intro sig f
  have plain : ∀ p ∈ (some ["x", "z", "y"]).getD sig.params, PlainName p := by decide +kernel
  have mapped : Named.Sorted [("y", Json.str "k")] := by unfold Named.Sorted; decide
  have mapped' : Named.Sorted [("w", Json.null), ("y", Json.str "k")] := by
    unfold Named.Sorted
    decide
  obtain ⟨t, taken, closed, agree⟩ := key_of_arguments plain f
  refine ⟨t, taken, (closed _ mapped).trans (by decide +kernel), agree _ _ mapped' mapped ?_⟩
  simp only [Option.getD_some, List.forall_mem_cons]
  exact ⟨rfl, rfl, rfl, fun p among => absurd among List.not_mem_nil⟩

end Latchkey
