import Latchkey.Proofs.Breaker.Circuit

/-!
Calls of one breaker, one after the other, with anything going on between and within them that
leaves the trace and the locks alone. `call_refines_circuit`: in every run, every call is answered
as the circuit machine says, and trace and locks are then those of the machine.
-/

namespace Latchkey.Breaker

variable {σ ε α : Type}

/-- What may go on around the calls of a breaker: time passes, anything changes beside the backend
and the trace, requests are served that do not write under its locks. -/
inductive Apart (b : Breaker) : Site σ → Site σ → Prop
  | beside {s s' : Site σ} : s'.backend = s.backend → s.now ≤ s'.now →
      s'.traces[b.slot]? = s.traces[b.slot]? → Apart b s s'
  | serve (s : Site σ) (r : Request) : (∀ key, b.Derives key → ¬ r.writes (lockKey key)) →
      Apart b s { s with backend := (s.backend.serve s.now r).2 }
  | trans {s s' s'' : Site σ} : Apart b s s' → Apart b s' s'' → Apart b s s''

/-- The trace of the breaker and its locks are those of the machine. -/
structure Tracks (b : Breaker) (s : Site σ) (c : Circuits) : Prop where
  locks : b.Locks s.now s.backend c
  kept : s.traces[b.slot]? = some c.trace
  bounded : c.trace.length ≤ b.config.traceSize

variable {b : Breaker} {c : Circuits} {s s' : Site σ} {args : CallArgs} {key : String}

theorem Apart.now_le (apart : b.Apart s s') : s.now ≤ s'.now := by
  induction apart with
  | beside _ clock _ => exact clock
  | serve s _ _ => exact Nat.le_refl _
  | trans _ _ ih ih' => exact Nat.le_trans ih ih'

theorem Apart.tracks (apart : b.Apart s s') (h : b.Tracks s c) : b.Tracks s' c := by
  induction apart with
  | beside same clock untouched =>
    exact ⟨same ▸ h.locks.later clock, untouched.trans h.kept, h.bounded⟩
  | serve s r leaves => exact ⟨h.locks.serve leaves, h.kept, h.bounded⟩
  | trans _ _ ih ih' => exact ih' (ih h)

theorem trace_of_kept {t : Trace} (kept : s.traces[b.slot]? = some t) : b.trace s = t := by
  rw [trace, Site.trace, List.getD_eq_getElem?_getD, kept]
  rfl

theorem Tracks.trace_eq (h : b.Tracks s c) : b.trace s = c.trace := trace_of_kept h.kept

/-- What calls share at the moment when the operation of a call with this key starts. -/
def entered (b : Breaker) (key : String) (s : Site σ) : Site σ :=
  (isLocked key (s.note (.keyBound b.signature.id key))).2

/-- The circuits after a call: a call that has no key or is refused leaves them as they are. -/
def called (b : Breaker) (args : CallArgs) (op : Site σ → Except ε α × Site σ) (s : Site σ)
    (c : Circuits) : Circuits :=
  match b.key args with
  | .error _ => c
  | .ok key =>
    if c.IsOpen b.config.ttl s.now key then c
    else
      let after := (op (b.entered key s)).2
      b.next key (Duration.toSeconds (after.now - s.now)) after.now c

theorem called_of_open (has_key : b.key args = .ok key) (opened : c.IsOpen b.config.ttl s.now key)
    (op : Site σ → Except ε α × Site σ) : b.called args op s c = c := by
  rw [called, has_key]
  exact if_pos opened

theorem called_of_closed (has_key : b.key args = .ok key)
    (closed : ¬ c.IsOpen b.config.ttl s.now key) (op : Site σ → Except ε α × Site σ) :
    b.called args op s c =
      b.next key (Duration.toSeconds ((op (b.entered key s)).2.now - s.now))
        (op (b.entered key s)).2.now c := by
  rw [called, has_key]
  exact if_neg closed

theorem keyFor_of_key (has_key : b.key args = .ok key) (s : Site σ) :
    b.keyFor args s = (.ok key, s.note (.keyBound b.signature.id key)) := by
  unfold Breaker.key at has_key
  rw [keyFor, Site.bindKey, has_key]

theorem keyFor_of_key_error {e : KeyError} (no_key : b.key args = .error e) (s : Site σ) :
    b.keyFor args s = (.error e, s) := by
  unfold Breaker.key at no_key
  rw [keyFor, Site.bindKey, no_key]

theorem Tracks.entered (h : b.Tracks s c) (derived : b.Derives key) :
    b.Tracks (b.entered key s) c :=
  ⟨(h.locks.isLocked derived).2, h.kept, h.bounded⟩

/-- The lock tells whether the circuit is open. -/
theorem Tracks.isLocked (h : b.Tracks s c) (derived : b.Derives key) :
    isLocked key (s.note (.keyBound b.signature.id key)) =
      (.ok (decide (c.IsOpen b.config.ttl s.now key)), b.entered key s) :=
  Prod.ext (h.locks.isLocked derived).1 rfl

theorem call_of_key_error {e : KeyError} (no_key : b.key args = .error e)
    (op : Site σ → Except ε α × Site σ) :
    b.call args op s = (⟨false, .error (.policy (.key e))⟩, s) := by
  rw [call, keyFor_of_key_error no_key]

theorem call_of_open (h : b.Tracks s c) (has_key : b.key args = .ok key)
    (opened : c.IsOpen b.config.ttl s.now key) (op : Site σ → Except ε α × Site σ) :
    b.call args op s =
      (⟨false, .error (.policy (.performanceDegraded key))⟩,
        (b.entered key s).note (.circuitOpen key)) := by
  rw [call, keyFor_of_key has_key]
  dsimp only
  rw [h.isLocked ⟨args, has_key⟩, decide_eq_true opened]

/-- The operation of a call whose circuit the backend says is closed is run, then its duration is
recorded, and its result stands unless this fails. -/
theorem call_of_unlocked (has_key : b.key args = .ok key)
    (unlocked : (isLocked key (s.note (.keyBound b.signature.id key))).1 = .ok false)
    (op : Site σ → Except ε α × Site σ) :
    let run := op (b.entered key s)
    let recorded := b.recordAt key (Duration.toSeconds (run.2.now - s.now)) run.2
    b.call args op s =
      (⟨true, (recorded.1.mapError fun e => .policy (.backend e)).bind fun _ =>
        run.1.mapError .operation⟩, recorded.2) := by
  intro run recorded
  have told : isLocked key (s.note (.keyBound b.signature.id key)) =
      (.ok false, b.entered key s) := Prod.ext unlocked rfl
  have clock : (b.entered key s).now = s.now := rfl
  rw [call, keyFor_of_key has_key]
  dsimp only
  rw [told]
  dsimp only
  rw [clock]
  change _ = ((⟨true, (recorded.1.mapError _).bind _⟩ : Outcome ε α), recorded.2)
  cases outcome : recorded with
  | mk answer after =>
    have recorded_eq : b.recordAt key (Duration.toSeconds (run.2.now - s.now)) run.2 =
        (answer, after) := outcome
    rw [recorded_eq]
    cases answer <;> rfl

/-- An operation that is run is timed, and its duration is recorded as the machine says. -/
theorem call_of_closed (accepted : b.config.flaw? = none) (h : b.Tracks s c)
    (has_key : b.key args = .ok key) (closed : ¬ c.IsOpen b.config.ttl s.now key)
    (op : Site σ → Except ε α × Site σ) (apart : ∀ before : Site σ, b.Apart before (op before).2) :
    let before := b.entered key s
    let after := (op before).2
    let c' := b.next key (Duration.toSeconds (after.now - s.now)) after.now c
    ∃ backend events, b.Locks after.now backend c' ∧
      b.call args op s = (⟨true, (op before).1.mapError .operation⟩,
        { after with backend, events }.setTrace b.slot c'.trace) := by
  intro before after c'
  have derived : b.Derives key := ⟨args, has_key⟩
  have tracks : b.Tracks after c := (apart before).tracks (h.entered derived)
  have closed' : ¬ c.IsOpen b.config.ttl after.now key :=
    Circuits.closed_later closed (apart before).now_le
  let takes := Duration.toSeconds (after.now - s.now)
  obtain ⟨backend, recorded, locks⟩ :=
    record_eq_next accepted tracks.locks tracks.bounded derived closed' takes
  refine ⟨backend, (after.noteAll (b.notes key takes c.trace)).events, locks, ?_⟩
  have noted : b.recordAt key takes after =
      (.ok (), { after.noteAll (b.notes key takes c.trace) with backend }.setTrace b.slot
        c'.trace) := by
    rw [recordAt, tracks.trace_eq, recorded]
  have unlocked : (isLocked key (s.note (.keyBound b.signature.id key))).1 = .ok false := by
    rw [h.isLocked derived, decide_eq_false closed]
  rw [call_of_unlocked has_key unlocked op, noted]
  rfl

theorem Tracks.setTrace {backend : Backend} {events : List Event} {c' : Circuits}
    (h : b.Tracks s c) (locks : b.Locks s.now backend c')
    (bounded : c'.trace.length ≤ b.config.traceSize) :
    b.Tracks ({ s with backend, events }.setTrace b.slot c'.trace) c' := by
  refine ⟨locks, ?_, bounded⟩
  obtain ⟨within, -⟩ := List.getElem?_eq_some_iff.mp h.kept
  exact List.getElem?_set_self within

/-- A call moves the machine as `called` says. -/
theorem Tracks.call (accepted : b.config.flaw? = none) (h : b.Tracks s c) (args : CallArgs)
    (op : Site σ → Except ε α × Site σ) (apart : ∀ before : Site σ, b.Apart before (op before).2) :
    b.Tracks (b.call args op s).2 (b.called args op s c) := by
  cases has_key : b.key args with
  | error e =>
    rw [call_of_key_error has_key, called, has_key]
    exact h
  | ok key =>
    have entered : b.Tracks (b.entered key s) c := h.entered ⟨args, has_key⟩
    by_cases opened : c.IsOpen b.config.ttl s.now key
    · rw [call_of_open h has_key opened, called_of_open has_key opened]
      exact ⟨entered.locks, entered.kept, entered.bounded⟩
    · obtain ⟨backend, events, locks, result⟩ :=
        call_of_closed accepted h has_key opened op apart
      rw [result, called_of_closed has_key opened]
      exact ((apart _).tracks entered).setTrace locks (length_next_le _ _ _ _ _)

/-- A run up to some instant, beside the run of the circuit machine. It starts with an empty trace
and none of the locks held. -/
inductive Run (b : Breaker) : Site σ → Circuits → Prop
  | fresh {s : Site σ} : b.Locks s.now s.backend .fresh → s.traces[b.slot]? = some [] →
      Run b s .fresh
  | apart {s s' : Site σ} {c : Circuits} : Run b s c → b.Apart s s' → Run b s' c
  | call {s : Site σ} {c : Circuits} {ε α : Type} (args : CallArgs)
      (op : Site σ → Except ε α × Site σ) : Run b s c →
      (∀ before : Site σ, b.Apart before (op before).2) →
      Run b (b.call args op s).2 (b.called args op s c)

theorem Run.tracks (accepted : b.config.flaw? = none) (run : b.Run s c) : b.Tracks s c := by
  induction run with
  | fresh locks empty => exact ⟨locks, empty, Nat.zero_le _⟩
  | apart _ apart ih => exact apart.tracks ih
  | call args op _ apart ih => exact ih.call accepted args op apart

/-- **A breaker is a circuit machine with one trace and a lock for each key.** Take any call of any
run. If it has no key, it fails with the reason and nothing at all has changed. If the circuit of
its key is open, which is also what `isOpen` says, it is refused and its operation is not run.
Otherwise the operation is run once and its result, a failure too, is the result of the call; then
the machine records how long it took. Nothing else is changed than the backend, the log and the
trace. Trace and locks of all keys are then those of the machine. -/
theorem call_refines_circuit (accepted : b.config.flaw? = none) (run : b.Run s c) (args : CallArgs)
    (op : Site σ → Except ε α × Site σ) (apart : ∀ before : Site σ, b.Apart before (op before).2) :
    (match b.key args with
      | .error e => b.call args op s = (⟨false, .error (.policy (.key e))⟩, s)
      | .ok key =>
        (b.isOpen args s).1 = .ok (decide (c.IsOpen b.config.ttl s.now key)) ∧
        ∃ backend events, b.entered key s = { s with backend, events } ∧
        if c.IsOpen b.config.ttl s.now key then
          ∃ events, b.call args op s = (⟨false, .error (.policy (.performanceDegraded key))⟩,
            { s with backend, events })
        else
          let before := b.entered key s
          let after := (op before).2
          ∃ backend events, b.call args op s = (⟨true, (op before).1.mapError .operation⟩,
            { after with backend, events }.setTrace b.slot (b.called args op s c).trace)) ∧
      b.trace (b.call args op s).2 = (b.called args op s c).trace ∧
      ∀ (args' : CallArgs) (key : String) (t : Time), b.key args' = .ok key →
        (b.call args op s).2.now ≤ t →
        ((b.call args op s).2.backend.get t (lockKey key)).1 =
            .ok (((b.called args op s c).lock b.config.ttl t key).map fun o => .float o.takes) ∧
          ((b.call args op s).2.backend.getExpire t (lockKey key)).1 =
            .ok (((b.called args op s c).lock b.config.ttl t key).map fun o =>
              o.since + b.config.ttl - t) := by
  have h := run.tracks accepted
  have after := h.call accepted args op apart
  refine ⟨?_, after.trace_eq, fun args' key t has_key later => ?_⟩
  · cases has_key : b.key args with
    | error e => exact call_of_key_error has_key op
    | ok key =>
      refine ⟨?_, _, _, rfl, ?_⟩
      · rw [isOpen, keyFor_of_key has_key]
        dsimp only
        rw [h.isLocked ⟨args, has_key⟩]
        rfl
      · split
        · next opened =>
          exact ⟨_, call_of_open h has_key opened op⟩
        · next closed =>
          obtain ⟨backend, events, -, result⟩ :=
            call_of_closed accepted h has_key closed op apart
          rw [called_of_closed has_key closed]
          exact ⟨backend, events, result⟩
  · exact (after.locks.later later).reads ⟨args', has_key⟩

/-- With room for one duration and every further call too slow, the second call opens the circuit
though its operation fails, and the third one is refused. -/
theorem third_call_refused :
    let template : Template := ⟨"m:slow", [.literal "m:slow"], by decide +kernel⟩
    let b : Breaker := ⟨⟨⟨"m", "slow"⟩, []⟩, .ofFunctions [], template, ⟨3, 1, "perf", none, none⟩,
      fun _ _ => true, 0⟩
    let op : Site Unit → Except Unit Unit × Site Unit := fun s => (.error (), s.pass 1)
    let once := (b.call ⟨[], []⟩ op { Site.start () with traces := [[]] }).2
    let twice := (b.call ⟨[], []⟩ op once).2
    (b.isOpen ⟨[], []⟩ twice).1 = .ok true ∧
      (b.call ⟨[], []⟩ op twice).1 = ⟨false, .error (.policy (.performanceDegraded "m:slow"))⟩ := by
  intro template b op once twice
  let start : Site Unit := { Site.start () with traces := [[]] }
  let first : Circuits := { Circuits.fresh with trace := [Duration.toSeconds 1] }
  let second : Circuits :=
    ⟨[], Function.update (fun _ => none) "m:slow" (some ⟨2, Duration.toSeconds 1⟩)⟩
  have has_key : b.key ⟨[], []⟩ = .ok "m:slow" := by decide +kernel
  have apart : ∀ s : Site Unit, b.Apart s (op s).2 :=
    fun s => .beside rfl (Nat.le_add_right _ _) rfl
  have accepted : b.config.flaw? = none := by decide
  have joined : b.called ⟨[], []⟩ op start .fresh = first := by
    rw [called_of_closed has_key (by rintro ⟨o, ⟨⟩, -⟩)]
    rfl
  have tripped : b.called ⟨[], []⟩ op once first = second := by
    have began : once.now = 1 := by decide +kernel
    have ended : (op (b.entered "m:slow" once)).2.now = 2 := by decide +kernel
    rw [called_of_closed has_key (by rintro ⟨o, ⟨⟩, -⟩), began, ended]
    rfl
  have run : b.Run start .fresh := .fresh ⟨.empty, .empty 0, fun _ _ => rfl⟩ rfl
  have run : b.Run once first := joined ▸ run.call ⟨[], []⟩ op apart
  have run : b.Run twice second := tripped ▸ run.call ⟨[], []⟩ op apart
  have opened : second.IsOpen b.config.ttl twice.now "m:slow" :=
    ⟨⟨2, Duration.toSeconds 1⟩, by simp [second], by decide +kernel⟩
  obtain ⟨answer, -, -⟩ := call_refines_circuit accepted run ⟨[], []⟩ op apart
  rw [has_key] at answer
  obtain ⟨told, _, _, -, refused⟩ := answer
  rw [if_pos opened] at refused
  obtain ⟨_, refused⟩ := refused
  exact ⟨told.trans (congrArg _ (decide_eq_true opened)), congrArg Prod.fst refused⟩

end Latchkey.Breaker
