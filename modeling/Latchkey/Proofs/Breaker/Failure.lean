import Latchkey.Proofs.Breaker.Overlap

/-!
A call of a breaker changes two things, the trace and the lock of its key, and an access to the
backend may fail before its operation or behind it. `failed_call_leaves_circuit`: a call that fails
by itself, and not by its operation, leaves both as they were, and a call never empties the trace
without the lock being held.
-/

namespace Latchkey.Breaker

variable {σ ε α : Type} {b : Breaker} {s s' s'' : Site σ} {args : CallArgs} {key : String}

/-- The trace of the breaker and the records of its locks are left as they are, except that a record
may go whose deadline has come. -/
structure Untouched (b : Breaker) (s s' : Site σ) : Prop where
  clock : s.now ≤ s'.now
  trace : s'.traces[b.slot]? = s.traces[b.slot]?
  locks : ∀ key, s'.backend.store.entry? (lockKey key) = s.backend.store.entry? (lockKey key) ∨
    s'.backend.store.entry? (lockKey key) = none ∧
      ∃ e t, s.backend.store.entry? (lockKey key) = some e ∧ e.deadline = some t ∧ t ≤ s'.now

theorem Untouched.trans (h : b.Untouched s s') (h' : b.Untouched s' s'') : b.Untouched s s'' := by
  refine ⟨Nat.le_trans h.clock h'.clock, h'.trace.trans h.trace, fun key => ?_⟩
  rcases h'.locks key with same' | ⟨gone', e, t, found, due, past⟩
  · rw [same']
    rcases h.locks key with same | ⟨gone, e, t, found, due, past⟩
    · exact .inl same
    · exact .inr ⟨gone, e, t, found, due, Nat.le_trans past h'.clock⟩
  · rcases h.locks key with same | ⟨gone, -⟩
    · exact .inr ⟨gone', e, t, same ▸ found, due, past⟩
    · cases gone.symm.trans found

/-! ## Before and behind the operation -/

/-- Looking at a circuit drops what is due, or fails and drops nothing. -/
theorem untouched_entered (b : Breaker) (key : String) (sound : s.backend.store.Sound) :
    b.Untouched s (b.entered key s) := by
  refine ⟨Nat.le_refl _, rfl, fun other => ?_⟩
  by_cases failing : Op.isLocked ∈ s.backend.down
  · left
    simp [entered, isLocked, Site.access, Backend.isLocked, Backend.attempt, Site.note, failing]
  · have purged : (b.entered key s).backend.store = s.backend.store.purge s.now := by
      simp [entered, isLocked, Site.access, Backend.isLocked, Backend.attempt, Site.note, failing,
        Store.holds]
    rw [purged]
    exact Store.entry?_purge_cases sound s.now (lockKey other)

/-- The trace put back where it is. -/
theorem traces_set_trace (b : Breaker) (s : Site σ) :
    (s.traces.set b.slot (b.trace s))[b.slot]? = s.traces[b.slot]? := by
  rw [List.getElem?_set_self']
  cases kept : s.traces[b.slot]? with
  | none => rfl
  | some t =>
    rw [trace_of_kept kept]
    rfl

/-- Where recording fails nothing is recorded. -/
theorem untouched_recordAt {takes : Float} {e : BackendError}
    (failed : (b.recordAt key takes s).1 = .error e) :
    e = .down .setLock ∧ b.Untouched s (b.recordAt key takes s).2 := by
  rw [recordAt_answer] at failed
  split_ifs at failed with unwritable
  cases failed
  obtain ⟨opens, failing⟩ := unwritable
  have kept : b.record key takes s.now (b.trace s) s.backend =
      (.error (.down .setLock), b.trace s, s.backend) := by
    simp [record, opens, Backend.setLock, Backend.attempt, failing]
  have after : (b.recordAt key takes s).2 =
      (s.noteAll (b.notes key takes (b.trace s))).setTrace b.slot (b.trace s) := by
    simp only [recordAt, kept]
    rfl
  rw [after]
  exact ⟨rfl, Nat.le_refl _, b.traces_set_trace s, fun _ => .inl rfl⟩

/-- A trace that is empty behind recording was emptied there, and the lock is held. -/
theorem locked_of_emptied (accepted : b.config.flaw? = none) {takes : Float} {t : Trace}
    (kept : s.traces[b.slot]? = some t) (emptied : b.trace (b.recordAt key takes s).2 = []) :
    let after := (b.recordAt key takes s).2
    (after.backend.up.isLocked after.now (lockKey key)).1 = .ok true := by
  have told : (b.recordAt key takes s).2.backend = (b.record key takes s.now t s.backend).2.2 := by
    rw [recordAt, trace_of_kept kept]
    rfl
  obtain ⟨-, put⟩ := traces_recordAt kept key takes
  rw [trace_of_kept put] at emptied
  dsimp only
  rw [told]
  change (Backend.isLocked _ s.now _).1 = _
  unfold record at emptied ⊢
  split_ifs at emptied ⊢ with opens
  · have full : t ≠ [] := by
      rintro rfl
      have some_size := traceSize_pos accepted
      simp [trips] at opens
      omega
    by_cases failing : Op.setLock ∈ s.backend.down
    · simp [Backend.setLock, Backend.attempt, failing] at emptied
      exact absurd emptied full
    · have held := Store.holds_setLock s.now (lockKey key) (.float takes) (ttl_pos accepted)
        s.backend.store
      simp [Backend.setLock, Backend.isLocked, Backend.attempt, Backend.up, failing, held]
  · simp [push] at emptied

theorem isLocked_error {e : BackendError} (failed : (isLocked key s).1 = .error e) :
    e = .down .isLocked := by
  simp only [isLocked, Site.access, Backend.isLocked, Backend.attempt] at failed
  split at failed
  · exact (Except.error.inj failed).symm
  · cases failed

/-- What recording a call with this key comes to, behind its operation. -/
def recording (b : Breaker) (key : String) (op : Site σ → Except ε α × Site σ) (s : Site σ) :
    Except BackendError Unit × Site σ :=
  let after := (op (b.entered key s)).2
  b.recordAt key (Duration.toSeconds (after.now - s.now)) after

/-- What can become of a call: it has no key, its circuit cannot be looked at, its circuit is open,
or its operation is run and recorded, or cannot be recorded. -/
inductive Ends (b : Breaker) (args : CallArgs) (op : Site σ → Except ε α × Site σ) (s : Site σ) :
    Outcome ε α × Site σ → Prop
  | keyless (e : KeyError) : b.key args = .error e →
      Ends b args op s (⟨false, .error (.policy (.key e))⟩, s)
  | unread (key : String) : b.key args = .ok key →
      Ends b args op s (⟨false, .error (.policy (.backend (.down .isLocked)))⟩, b.entered key s)
  | refused (key : String) : b.key args = .ok key →
      Ends b args op s (⟨false, .error (.policy (.performanceDegraded key))⟩,
        (b.entered key s).note (.circuitOpen key))
  | recorded (key : String) : b.key args = .ok key → (b.recording key op s).1 = .ok () →
      Ends b args op s (⟨true, (op (b.entered key s)).1.mapError .operation⟩,
        (b.recording key op s).2)
  | unrecorded (key : String) (e : BackendError) : b.key args = .ok key →
      (b.recording key op s).1 = .error e →
      Ends b args op s (⟨true, .error (.policy (.backend e))⟩, (b.recording key op s).2)

theorem call_ends (b : Breaker) (args : CallArgs) (op : Site σ → Except ε α × Site σ)
    (s : Site σ) : b.Ends args op s (b.call args op s) := by
  cases has_key : b.key args with
  | error e =>
    rw [call_of_key_error has_key]
    exact .keyless e has_key
  | ok key =>
    cases looked : isLocked key (s.note (.keyBound b.signature.id key)) with
    | mk told after =>
      have after_eq : after = b.entered key s := by
        rw [entered, looked]
      cases told with
      | error e =>
        obtain rfl := isLocked_error (congrArg Prod.fst looked)
        rw [call, keyFor_of_key has_key]
        dsimp only
        rw [looked, after_eq]
        exact .unread key has_key
      | ok held =>
        cases held with
        | true =>
          rw [call, keyFor_of_key has_key]
          dsimp only
          rw [looked, after_eq]
          exact .refused key has_key
        | false =>
          rw [call_of_unlocked has_key (congrArg Prod.fst looked) op]
          change b.Ends args op s (⟨true, ((b.recording key op s).1.mapError _).bind _⟩,
            (b.recording key op s).2)
          cases written : (b.recording key op s).1 with
          | ok => exact .recorded key has_key written
          | error e => exact .unrecorded key e has_key written

/-- What an operation comes to is no failure of the breaker. -/
theorem mapError_ne_policy (result : Except ε α) (cause : PolicyError) :
    result.mapError CallError.operation ≠ .error (.policy cause) := by
  cases result <;> rintro ⟨⟩

/-- **A call that fails by itself leaves the circuit as it was.** Take any trace, any entries, any
failing accesses, any operation and any condition. A call without a key changes nothing at all and
does not run its operation. A call that fails with the backend does so in one of two ways. It could
not look at its circuit: then its operation is not run, and trace and locks are left as they were.
Or it could not write its lock: then its operation was run, and trace and locks were left alone
before it and behind it, so that they are as they were if the operation leaves them alone too. A
call that does not run its operation leaves the trace alone, and after one that leaves the trace
empty the lock of its key is held. -/
theorem failed_call_leaves_circuit (accepted : b.config.flaw? = none)
    (sound : s.backend.store.Sound) (args : CallArgs) (op : Site σ → Except ε α × Site σ) :
    let called := b.call args op s
    (∀ e, called.1.result = .error (.policy (.key e)) → called.1.ran = false ∧ called.2 = s) ∧
    (∀ e, called.1.result = .error (.policy (.backend e)) →
      (e = .down .isLocked ∧ called.1.ran = false ∧ b.Untouched s called.2) ∨
      (e = .down .setLock ∧ called.1.ran = true ∧ ∃ key, b.key args = .ok key ∧
        let before := b.entered key s
        let after := (op before).2
        b.Untouched s before ∧ b.Untouched after called.2 ∧
          (b.Untouched before after → b.Untouched s called.2))) ∧
    (called.1.ran = false → called.2.traces = s.traces) ∧
    (∀ key t, b.key args = .ok key → called.1.ran = true →
      (op (b.entered key s)).2.traces[b.slot]? = some t → b.trace called.2 = [] →
      (called.2.backend.up.isLocked called.2.now (lockKey key)).1 = .ok true) := by
  intro called
  have ends : b.Ends args op s called := b.call_ends args op s
  generalize called = called at ends
  cases ends with
  | keyless e no_key =>
    refine ⟨fun _ _ => ⟨rfl, rfl⟩, ?_, fun _ => rfl, ?_⟩
    · rintro _ ⟨⟩
    · rintro _ _ _ ⟨⟩
  | unread key has_key =>
    refine ⟨?_, ?_, fun _ => rfl, ?_⟩
    · rintro _ ⟨⟩
    · rintro _ ⟨⟩
      exact .inl ⟨rfl, rfl, b.untouched_entered key sound⟩
    · rintro _ _ _ ⟨⟩
  | refused key has_key =>
    refine ⟨?_, ?_, fun _ => rfl, ?_⟩
    · rintro _ ⟨⟩
    · rintro _ ⟨⟩
    · rintro _ _ _ ⟨⟩
  | recorded key has_key written =>
    refine ⟨?_, ?_, ?_, ?_⟩
    · intro e own
      exact absurd own (mapError_ne_policy _ _)
    · intro e own
      exact absurd own (mapError_ne_policy _ _)
    · rintro ⟨⟩
    · intro key' t has_key' _ kept emptied
      cases has_key.symm.trans has_key'
      exact locked_of_emptied accepted kept emptied
  | unrecorded key e has_key failed =>
    obtain ⟨reason, behind⟩ := untouched_recordAt failed
    have before := b.untouched_entered key sound
    refine ⟨?_, ?_, ?_, ?_⟩
    · rintro _ ⟨⟩
    · rintro _ ⟨⟩
      exact .inr ⟨reason, rfl, key, has_key, before, behind,
        fun within => (before.trans within).trans behind⟩
    · rintro ⟨⟩
    · intro key' t has_key' _ kept emptied
      cases has_key.symm.trans has_key'
      exact locked_of_emptied accepted kept emptied

/-- With a full trace, an expired lock and locks failing, a call that is to open the circuit runs
its operation and fails, and the trace is the one before. -/
theorem unwritten_lock_leaves_trace :
    let template : Template := ⟨"m:export", [.literal "m:export"], by decide +kernel⟩
    let b : Breaker := ⟨⟨⟨"m", "export"⟩, []⟩, .ofFunctions [], template,
      ⟨3, 1, "perf", none, none⟩, fun _ _ => true, 0⟩
    let op : Site Unit → Except String Nat × Site Unit := fun s => (.ok 7, s.pass 1)
    let store := Store.empty.write "m:export:lock" (.int 1) (some 5)
    let s : Site Unit :=
      { Site.start () with now := 5, traces := [[0.5]], backend := ⟨store, [.setLock]⟩ }
    let called := b.call ⟨[], []⟩ op s
    called.1.result = .error (.policy (.backend (.down .setLock))) ∧ called.1.ran = true ∧
      b.trace called.2 = [0.5] ∧ b.Untouched s called.2 := by
  intro template b op store s called
  have has_key : b.key ⟨[], []⟩ = .ok "m:export" := by decide +kernel
  have closed : (isLocked "m:export" (s.note (.keyBound b.signature.id "m:export"))).1 =
      .ok false := by decide +kernel
  have unwritable : b.Unwritable
      (Duration.toSeconds ((op (b.entered "m:export" s)).2.now - s.now))
      (op (b.entered "m:export" s)).2 := ⟨rfl, List.mem_singleton.mpr rfl⟩
  have failed : called.1.result = .error (.policy (.backend (.down .setLock))) := by
    change (b.call ⟨[], []⟩ op s).1.result = _
    rw [call_of_unlocked has_key closed op, recordAt_answer, if_pos unwritable]
    rfl
  have sound : s.backend.store.Sound := ((Store.Agrees.empty 0).write _ _ _).sound
  obtain ⟨-, after_failure, -⟩ :=
    failed_call_leaves_circuit (b := b) (by decide) sound ⟨[], []⟩ op
  rcases after_failure _ failed with ⟨⟨⟩, -⟩ | ⟨-, ran, key, -, -, -, whole⟩
  have untouched : b.Untouched s called.2 :=
    whole ⟨Nat.le_add_right _ _, rfl, fun _ => .inl rfl⟩
  exact ⟨failed, ran, trace_of_kept untouched.trace, untouched⟩

end Latchkey.Breaker
