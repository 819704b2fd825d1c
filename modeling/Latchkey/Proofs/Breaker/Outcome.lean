import Latchkey.Proofs.Breaker.Refinement

namespace Latchkey.Breaker

variable {σ ε α : Type} {b : Breaker} {s : Site σ} {args : CallArgs} {key : String}

/-- A duration opens the circuit, and the lock that holds it open cannot be written. -/
def Unwritable (b : Breaker) (takes : Float) (s : Site σ) : Prop :=
  b.trips takes (b.trace s) = true ∧ Op.setLock ∈ s.backend.down

instance (b : Breaker) (takes : Float) (s : Site σ) : Decidable (b.Unwritable takes s) :=
  inferInstanceAs (Decidable (_ ∧ _))

/-- Recording a duration fails in one case only, and for one reason. -/
theorem recordAt_answer (b : Breaker) (key : String) (takes : Float) (s : Site σ) :
    (b.recordAt key takes s).1 =
      if b.Unwritable takes s then .error (.down .setLock) else .ok () := by
  unfold recordAt record Unwritable
  by_cases opens : b.trips takes (b.trace s) = true
  · by_cases failing : Op.setLock ∈ s.backend.down <;>
      simp [opens, failing, Backend.setLock, Backend.attempt]
  · simp [opens]

/-- An operation is run only when the call has a key whose circuit the backend says is closed. -/
theorem closed_of_ran {op : Site σ → Except ε α × Site σ} (ran : (b.call args op s).1.ran = true) :
    ∃ key, b.key args = .ok key ∧
      (isLocked key (s.note (.keyBound b.signature.id key))).1 = .ok false := by
  cases has_key : b.key args with
  | error e =>
    rw [call_of_key_error has_key] at ran
    cases ran
  | ok key =>
    refine ⟨key, rfl, ?_⟩
    rw [call, keyFor_of_key has_key] at ran
    dsimp only at ran
    cases told : isLocked key (s.note (.keyBound b.signature.id key)) with
    | mk answer after =>
      rw [told] at ran
      cases answer with
      | error e => cases ran
      | ok held =>
        cases held with
        | true => cases ran
        | false => rfl

/-- **The result of an operation that ran is the result of the call, unless locks cannot be
written.** Whatever is in the trace and on the backend, whatever the condition, whatever the
operation does and whatever fails: the result of the operation, a failure too, is that of the call,
except where its duration opens the circuit after a full trace while locks cannot be written. There
the call fails with that reason, even where its operation did not. -/
theorem result_of_ran {op : Site σ → Except ε α × Site σ} (ran : (b.call args op s).1.ran = true) :
    ∃ key, b.key args = .ok key ∧
      let run := op (b.entered key s)
      (b.call args op s).1.result =
        if b.Unwritable (Duration.toSeconds (run.2.now - s.now)) run.2 then
          .error (.policy (.backend (.down .setLock)))
        else run.1.mapError .operation := by
  obtain ⟨key, has_key, closed⟩ := closed_of_ran ran
  refine ⟨key, has_key, ?_⟩
  intro run
  rw [call_of_unlocked has_key closed op, recordAt_answer]
  dsimp only
  split_ifs <;> rfl

/-- A call opens the circuit, and the failure of its operation is still what becomes of it. -/
theorem opening_call_fails_as_its_operation :
    let template : Template := ⟨"m:query", [.literal "m:query"], by decide +kernel⟩
    let b : Breaker := ⟨⟨⟨"m", "query"⟩, []⟩, .ofFunctions [], template,
      ⟨3, 1, "perf", none, none⟩, fun _ _ => true, 0⟩
    let op : Site Unit → Except String Unit × Site Unit := fun s => (.error "no rows", s.pass 1)
    let s : Site Unit := { Site.start () with traces := [[0.5]] }
    (b.call ⟨[], []⟩ op s).1.ran = true ∧
      (b.call ⟨[], []⟩ op s).1.result = .error (.operation "no rows") := by
  intro template b op s
  have has_key : b.key ⟨[], []⟩ = .ok "m:query" := by decide +kernel
  have ran : (b.call ⟨[], []⟩ op s).1.ran = true := by decide +kernel
  obtain ⟨key, -, result⟩ := result_of_ran ran
  have writable : ¬ b.Unwritable (Duration.toSeconds ((op (b.entered key s)).2.now - s.now))
      (op (b.entered key s)).2 := by
    rintro ⟨-, failing⟩
    cases failing
  exact ⟨ran, result.trans (if_neg writable)⟩

/-- With locks failing, a call that is to open the circuit loses the value that its operation came
to. -/
theorem value_lost_to_lock :
    let template : Template := ⟨"m:load", [.literal "m:load"], by decide +kernel⟩
    let b : Breaker := ⟨⟨⟨"m", "load"⟩, []⟩, .ofFunctions [], template,
      ⟨3, 1, "perf", none, none⟩, fun _ _ => true, 0⟩
    let op : Site Unit → Except String Nat × Site Unit := fun s => (.ok 7, s.pass 1)
    let s : Site Unit :=
      { Site.start () with traces := [[0.5]], backend := ⟨.empty, [.setLock]⟩ }
    (b.call ⟨[], []⟩ op s).1.ran = true ∧
      (op (b.entered "m:load" s)).1 = .ok 7 ∧
      (b.call ⟨[], []⟩ op s).1.result = .error (.policy (.backend (.down .setLock))) := by
  intro template b op s
  have has_key : b.key ⟨[], []⟩ = .ok "m:load" := by decide +kernel
  have closed : (isLocked "m:load" (s.note (.keyBound b.signature.id "m:load"))).1 =
      .ok false := rfl
  have unwritable : b.Unwritable
      (Duration.toSeconds ((op (b.entered "m:load" s)).2.now - s.now))
      (op (b.entered "m:load" s)).2 := ⟨rfl, List.mem_singleton.mpr rfl⟩
  rw [call_of_unlocked has_key closed op, recordAt_answer, if_pos unwritable]
  exact ⟨rfl, rfl, rfl⟩

end Latchkey.Breaker
