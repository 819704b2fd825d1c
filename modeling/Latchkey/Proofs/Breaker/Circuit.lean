import Mathlib.Data.List.DropRight
import Latchkey.Proofs.Store.Frame
import Latchkey.Breaker

/-!
The machine that a breaker is meant to be: one trace for all keys, and for each key the last opening
of its circuit. `record_eq_next`: recording a duration moves the machine by one operation, and the
locks in the store are the circuits of the machine.
-/

namespace Latchkey

/-- When a circuit was opened, and how long the call took that opened it. -/
structure Opening where
  since : Time
  takes : Float

/-- The trace that all keys share, and the last opening of the circuit of each key. -/
structure Circuits where
  trace : Trace
  opened : String → Option Opening

namespace Circuits

/-- No durations, and no circuit was ever opened. -/
def fresh : Circuits := ⟨[], fun _ => none⟩

/-- What holds the circuit of a key open at an instant. -/
def lock (c : Circuits) (ttl : Duration) (now : Time) (key : String) : Option Opening :=
  (c.opened key).filter fun o => decide (now < o.since + ttl)

/-- A circuit is open from the instant at which it was opened until `ttl` later, when it is not. -/
def IsOpen (c : Circuits) (ttl : Duration) (now : Time) (key : String) : Prop :=
  ∃ o, c.opened key = some o ∧ now < o.since + ttl

theorem isSome_lock {c : Circuits} {ttl : Duration} {now : Time} {key : String} :
    (c.lock ttl now key).isSome = true ↔ c.IsOpen ttl now key := by
  rw [Option.isSome_iff_exists]
  simp [lock, IsOpen]

instance (c : Circuits) (ttl : Duration) (now : Time) (key : String) :
    Decidable (c.IsOpen ttl now key) := decidable_of_iff _ isSome_lock

theorem lock_of_closed {c : Circuits} {ttl : Duration} {now : Time} {key : String}
    (closed : ¬ c.IsOpen ttl now key) : c.lock ttl now key = none :=
  Option.not_isSome_iff_eq_none.mp fun held => closed (isSome_lock.mp held)

/-- A closed circuit stays closed until it is opened. -/
theorem closed_later {c : Circuits} {ttl : Duration} {now t : Time} {key : String}
    (closed : ¬ c.IsOpen ttl now key) (later : now ≤ t) : ¬ c.IsOpen ttl t key := by
  rintro ⟨o, found, lasts⟩
  exact closed ⟨o, found, Nat.lt_of_le_of_lt later lasts⟩

end Circuits

namespace Breaker

/-- The key of a call. -/
def key (b : Breaker) (args : CallArgs) : Except KeyError String :=
  b.signature.key b.formatter b.template args

variable {b : Breaker} {c : Circuits} {now : Time} {backend : Backend} {key : String}

/-- The circuits after an operation under a key has come to its end. -/
def next (b : Breaker) (key : String) (takes : Float) (now : Time) (c : Circuits) : Circuits :=
  if c.trace.length = b.config.traceSize ∧ b.condition takes c.trace = true then
    ⟨[], Function.update c.opened key (some ⟨now, takes⟩)⟩
  else { c with trace := (c.trace ++ [takes]).rtake b.config.traceSize }

theorem traceSize_pos {c : BreakerConfig} (accepted : c.flaw? = none) : 0 < c.traceSize := by
  unfold BreakerConfig.flaw? at accepted
  split at accepted
  · cases accepted
  · next some_size => exact Nat.pos_of_ne_zero some_size

theorem ttl_pos {c : BreakerConfig} (accepted : c.flaw? = none) : 0 < c.ttl := by
  have some_size := traceSize_pos accepted
  apply Nat.pos_of_ne_zero
  intro no_time
  simp [BreakerConfig.flaw?, no_time, Nat.ne_of_gt some_size] at accepted

/-- Joining the trace keeps the last durations, as many as the trace holds. -/
theorem push_eq_rtake (takes : Float) {trace : Trace} (some_size : 0 < b.config.traceSize)
    (bounded : trace.length ≤ b.config.traceSize) :
    b.push takes trace = (trace ++ [takes]).rtake b.config.traceSize := by
  unfold push List.rtake
  by_cases full : trace.length = b.config.traceSize
  · have surplus : (trace ++ [takes]).length - b.config.traceSize = 1 := by
      simp only [List.length_append, List.length_singleton]
      omega
    have within : 1 ≤ trace.length := full ▸ some_size
    rw [if_pos full, surplus, List.drop_append_of_le_length within]
  · have room : (trace ++ [takes]).length - b.config.traceSize = 0 := by
      simp only [List.length_append, List.length_singleton]
      omega
    rw [if_neg full, room, List.drop_zero]

theorem length_next_le (b : Breaker) (key : String) (takes : Float) (now : Time) (c : Circuits) :
    (b.next key takes now c).trace.length ≤ b.config.traceSize := by
  unfold next
  split
  · exact Nat.zero_le _
  · simp only [List.rtake, List.length_drop]
    omega

/-- Some call has this key. -/
def Derives (b : Breaker) (key : String) : Prop := ∃ args, b.key args = .ok key

/-- An opening as an entry: the duration, until the circuit closes. -/
def entry (b : Breaker) (o : Opening) : Entry := ⟨.float o.takes, some (o.since + b.config.ttl)⟩

/-- Every access works, and the lock of every key is its last opening. -/
def Locks (b : Breaker) (now : Time) (backend : Backend) (c : Circuits) : Prop :=
  ∃ m : Plain, backend.Mirrors now m ∧
    ∀ key, b.Derives key → m (lockKey key) = (c.opened key).map b.entry

theorem live_lock {m : Plain} (now : Time)
    (locked : m (lockKey key) = (c.opened key).map b.entry) :
    m.live now (lockKey key) = (c.lock b.config.ttl now key).map b.entry := by
  unfold Plain.live Circuits.lock
  rw [locked, Option.filter_map]
  rfl

theorem lockKey_inj {key other : String} (same : lockKey key = lockKey other) : key = other :=
  (String.append_left_inj _).mp same

namespace Locks

theorem later {t : Time} (h : b.Locks now backend c) (hle : now ≤ t) : b.Locks t backend c := by
  obtain ⟨m, mirrors, locked⟩ := h
  exact ⟨m, mirrors.later hle, locked⟩

theorem serve (h : b.Locks now backend c) {r : Request}
    (leaves : ∀ key, b.Derives key → ¬ r.writes (lockKey key)) :
    b.Locks now (backend.serve now r).2 c := by
  obtain ⟨m, mirrors, locked⟩ := h
  refine ⟨_, (mirrors.serve r).2, fun key derived => ?_⟩
  rw [Plain.serve_of_not_writes (leaves key derived), locked key derived]

/-- A lock is held exactly while the circuit is open. -/
theorem isLocked (h : b.Locks now backend c) (derived : b.Derives key) :
    (backend.isLocked now (lockKey key)).1 = .ok (decide (c.IsOpen b.config.ttl now key)) ∧
      b.Locks now (backend.isLocked now (lockKey key)).2 c := by
  obtain ⟨m, mirrors, locked⟩ := h
  have holds : m.holds now (lockKey key) = decide (c.IsOpen b.config.ttl now key) := by
    rw [Plain.holds, live_lock now (locked key derived), Option.isSome_map, Bool.eq_iff_iff,
      decide_eq_true_iff]
    exact Circuits.isSome_lock
  obtain ⟨answer, after⟩ := mirrors.attempt .isLocked (mirrors.agrees.holds (lockKey key))
  exact ⟨answer.trans (congrArg _ holds), m, after, locked⟩

/-- The lock of a closed circuit can be taken, and then the circuit is open. -/
theorem setLock (h : b.Locks now backend c) (derived : b.Derives key)
    (closed : ¬ c.IsOpen b.config.ttl now key) (takes : Float) (trace : Trace) :
    (backend.setLock now (lockKey key) (.float takes) b.config.ttl).1 = .ok true ∧
      b.Locks now (backend.setLock now (lockKey key) (.float takes) b.config.ttl).2
        ⟨trace, Function.update c.opened key (some ⟨now, takes⟩)⟩ := by
  obtain ⟨m, mirrors, locked⟩ := h
  obtain ⟨answer, after⟩ := mirrors.attempt .setLock
    (mirrors.agrees.setLock (lockKey key) (.float takes) b.config.ttl)
  have free : m.live now (lockKey key) = none := by
    rw [live_lock now (locked key derived), Circuits.lock_of_closed closed]
    rfl
  simp only [Plain.setLock, free, Option.isSome_none, Bool.false_eq_true, if_false] at answer after
  refine ⟨answer, _, after, fun other derived' => ?_⟩
  by_cases same : other = key
  · subst same
    simp [Plain.put, entry]
  · have differ : lockKey key ≠ lockKey other := fun e => same (lockKey_inj e).symm
    rw [Plain.put_of_ne _ differ, locked other derived']
    simp [Function.update_of_ne same]

/-- What is read of a lock: the duration that opened the circuit, and the time until it closes. -/
theorem reads (h : b.Locks now backend c) (derived : b.Derives key) :
    (backend.get now (lockKey key)).1 =
        .ok ((c.lock b.config.ttl now key).map fun o => .float o.takes) ∧
      (backend.getExpire now (lockKey key)).1 =
        .ok ((c.lock b.config.ttl now key).map fun o => o.since + b.config.ttl - now) := by
  obtain ⟨m, mirrors, locked⟩ := h
  have live := live_lock now (locked key derived)
  constructor
  · rw [(mirrors.get _).1, Plain.get, live, Option.map_map]
    rfl
  · rw [(mirrors.getExpire _).1, Plain.remaining, live]
    cases c.lock b.config.ttl now key <;> rfl

end Locks

/-- **Recording a duration moves the machine by one operation**: the circuit of the key opens and
the trace is emptied, or the duration joins the trace. -/
theorem record_eq_next (accepted : b.config.flaw? = none) (h : b.Locks now backend c)
    (bounded : c.trace.length ≤ b.config.traceSize) (derived : b.Derives key)
    (closed : ¬ c.IsOpen b.config.ttl now key) (takes : Float) :
    ∃ after, b.record key takes now c.trace backend =
        (.ok (), (b.next key takes now c).trace, after) ∧
      b.Locks now after (b.next key takes now c) := by
  unfold record next trips
  by_cases degraded : c.trace.length = b.config.traceSize ∧ b.condition takes c.trace = true
  · obtain ⟨answer, after⟩ := h.setLock derived closed takes []
    refine ⟨(backend.setLock now (lockKey key) (.float takes) b.config.ttl).2, ?_, ?_⟩
    · rw [if_pos (by simpa using degraded), if_pos degraded]
      generalize backend.setLock now (lockKey key) (.float takes) b.config.ttl = access at answer
      obtain ⟨got, rest⟩ := access
      dsimp only at answer
      subst answer
      rfl
    · rw [if_pos degraded]
      exact after
  · refine ⟨backend, ?_, ?_⟩
    · rw [if_neg (by simpa using degraded), if_neg degraded]
      rw [push_eq_rtake takes (traceSize_pos accepted) bounded]
    · rw [if_neg degraded]
      exact h

end Breaker
end Latchkey
