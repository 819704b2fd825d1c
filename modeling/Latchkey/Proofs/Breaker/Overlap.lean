import Mathlib.Logic.Relation
import Latchkey.Proofs.Breaker.Outcome

/-!
Calls of one breaker, any number of them at the same time and with any keys. A call looks at its
circuit, runs its operation and is then recorded; recording reads the trace, writes the lock and
changes the trace in one step. Between any two steps of the calls anything may happen that leaves
the trace alone: time passes, locks come and go, accesses begin or cease to fail.
`trace_of_records`: the trace holds the latest durations that joined it since a circuit was last
opened, and no circuit is opened before so many have joined it as it holds.
-/

namespace Latchkey

/-- Where a call of a breaker stands. -/
inductive GuardedCall where
  /-- The circuit of its key is to be looked at. -/
  | arrived (key : String)
  /-- Its operation was started at this instant. -/
  | running (key : String) (since : Time)
  /-- It was refused, it was recorded, or an access to the backend failed. -/
  | over

/-- What recording a duration came to. -/
inductive Record where
  /-- It joined the trace. -/
  | joined (takes : Float)
  /-- It opened a circuit, and the trace was emptied. -/
  | tripped
  /-- It was to open a circuit, and the lock could not be written. -/
  | missed

namespace Record

/-- What recording came to, read off its answer and the trace after it. -/
def ofAnswer (takes : Float) (trace : Trace) : Except BackendError Unit → Record
  | .error _ => .missed
  | .ok () => if trace.isEmpty then .tripped else .joined takes

/-- The durations that joined the trace since a circuit was last opened, the oldest first. The
records are given with the latest first. -/
def joinedSince : List Record → List Float
  | [] => []
  | .tripped :: _ => []
  | .missed :: earlier => joinedSince earlier
  | .joined takes :: earlier => joinedSince earlier ++ [takes]

end Record

/-- Calls of a breaker, what they share, and what recording their durations has come to so far, the
latest first. -/
structure Overlap (σ : Type) where
  site : Site σ
  calls : List GuardedCall
  records : List Record

namespace Breaker

variable {σ ε α : Type}

/-- One of the calls looks at its circuit: its operation is started if the circuit is closed. -/
def look (w : Overlap σ) (before after : List GuardedCall) (key : String) : Overlap σ :=
  let told := isLocked key w.site
  let call := match told.1 with
    | .ok false => .running key w.site.now
    | _ => .over
  { w with site := told.2, calls := before ++ call :: after }

/-- The operation of one of the calls has come to its end, and its duration is recorded. -/
def finish (b : Breaker) (w : Overlap σ) (before after : List GuardedCall) (key : String)
    (since : Time) : Overlap σ :=
  let takes := Duration.toSeconds (w.site.now - since)
  let recorded := b.recordAt key takes w.site
  { site := recorded.2
    calls := before ++ .over :: after
    records := .ofAnswer takes (b.trace recorded.2) recorded.1 :: w.records }

/-- A step: anything that leaves the trace alone, a call that comes, a step of one of the calls. -/
inductive Move (b : Breaker) : Overlap σ → Overlap σ → Prop
  | around (w : Overlap σ) (site : Site σ) : site.traces[b.slot]? = w.site.traces[b.slot]? →
      Move b w { w with site }
  | arrive (w : Overlap σ) (key : String) : Move b w { w with calls := .arrived key :: w.calls }
  | look (w : Overlap σ) (before after : List GuardedCall) (key : String) :
      w.calls = before ++ .arrived key :: after → Move b w (look w before after key)
  | finish (w : Overlap σ) (before after : List GuardedCall) (key : String) (since : Time) :
      w.calls = before ++ .running key since :: after →
      Move b w (b.finish w before after key since)

/-- A course of steps from an empty trace. -/
def Course (b : Breaker) (w : Overlap σ) : Prop :=
  ∃ site : Site σ, site.traces[b.slot]? = some [] ∧
    Relation.ReflTransGen b.Move ⟨site, [], []⟩ w

variable {b : Breaker} {w w' : Overlap σ} {s : Site σ} {args : CallArgs} {key : String}

theorem Course.move (course : b.Course w) (move : b.Move w w') : b.Course w' := by
  obtain ⟨site, empty, moves⟩ := course
  exact ⟨site, empty, moves.tail move⟩

theorem Course.pass (course : b.Course w) (d : Duration) :
    b.Course { w with site := w.site.pass d } :=
  course.move (.around w (w.site.pass d) rfl)

/-- Recording opens the circuit and empties the trace, or leaves the trace as it is because the lock
cannot be written, or lets the duration join the trace. -/
theorem record_cases (b : Breaker) (key : String) (takes : Float) (now : Time) (trace : Trace)
    (backend : Backend) :
    let recorded := b.record key takes now trace backend
    recorded.1 = .ok () ∧ recorded.2.1 = [] ∧ trace.length = b.config.traceSize ∨
      (∃ e, recorded.1 = .error e) ∧ recorded.2.1 = trace ∨
      recorded.1 = .ok () ∧ recorded.2.1 = b.push takes trace := by
  unfold record
  dsimp only
  by_cases opens : b.trips takes trace = true
  · have full : trace.length = b.config.traceSize := by
      simp only [trips, Bool.and_eq_true, beq_iff_eq] at opens
      exact opens.1
    rw [if_pos opens]
    cases backend.setLock now (lockKey key) (.float takes) b.config.ttl with
    | mk answer after =>
      cases answer with
      | ok _ => exact .inl ⟨rfl, rfl, full⟩
      | error e => exact .inr (.inl ⟨⟨e, rfl⟩, rfl⟩)
  · rw [if_neg opens]
    exact .inr (.inr ⟨rfl, rfl⟩)

/-- What the trace of the breaker is after recording. -/
theorem traces_recordAt {trace : Trace} (kept : s.traces[b.slot]? = some trace) (key : String)
    (takes : Float) :
    let recorded := b.record key takes s.now trace s.backend
    (b.recordAt key takes s).1 = recorded.1 ∧
      (b.recordAt key takes s).2.traces[b.slot]? = some recorded.2.1 := by
  obtain ⟨within, -⟩ := List.getElem?_eq_some_iff.mp kept
  intro recorded
  unfold recordAt
  rw [trace_of_kept kept]
  exact ⟨rfl, List.getElem?_set_self within⟩

/-- One more element, of which only the last ones are kept. -/
theorem rtake_concat_rtake {β : Type} (xs : List β) (x : β) (n : Nat) :
    (xs.rtake n ++ [x]).rtake n = (xs ++ [x]).rtake n := by
  cases n with
  | zero => simp
  | succ n =>
    have shorter : (xs.rtake (n + 1)).rtake n = xs.rtake n := by
      simp only [List.rtake_eq_reverse_take_reverse, List.reverse_reverse, List.take_take,
        Nat.min_eq_left (Nat.le_succ n)]
    rw [List.rtake_concat_succ, List.rtake_concat_succ, shorter]

theorem length_rtake_le {β : Type} (xs : List β) (n : Nat) :
    (xs.rtake n).length ≤ n ∧ (xs.rtake n).length ≤ xs.length := by
  simp only [List.rtake, List.length_drop]
  omega

/-- What the trace of a breaker has to do with the records so far. -/
structure Recorded (b : Breaker) (w : Overlap σ) : Prop where
  kept : w.site.traces[b.slot]? =
    some ((Record.joinedSince w.records).rtake b.config.traceSize)
  enough : ∀ later earlier, w.records = later ++ .tripped :: earlier →
    b.config.traceSize ≤ (Record.joinedSince earlier).length

theorem Recorded.finish (accepted : b.config.flaw? = none) (recorded : b.Recorded w)
    (before after : List GuardedCall) (key : String) (since : Time) :
    b.Recorded (b.finish w before after key since) := by
  obtain ⟨kept, enough⟩ := recorded
  have some_size := traceSize_pos accepted
  obtain ⟨bounded, within⟩ := length_rtake_le (Record.joinedSince w.records) b.config.traceSize
  let takes := Duration.toSeconds (w.site.now - since)
  obtain ⟨answer, put⟩ := traces_recordAt kept key takes
  -- no record but the latest one can be a new opening
  have still : ∀ r : Record, (r = .tripped →
        b.config.traceSize ≤ (Record.joinedSince w.records).length) →
      ∀ later earlier, r :: w.records = later ++ .tripped :: earlier →
        b.config.traceSize ≤ (Record.joinedSince earlier).length := by
    intro r opened later earlier split
    cases later with
    | nil =>
      obtain ⟨this, rfl⟩ := List.cons.inj split
      exact opened this
    | cons _ later => exact enough later earlier (List.cons.inj split).2
  have records : (b.finish w before after key since).records =
      .ofAnswer takes (b.trace (b.recordAt key takes w.site).2) (b.recordAt key takes w.site).1 ::
        w.records := rfl
  rw [trace_of_kept put, answer] at records
  rcases record_cases b key takes w.site.now _ w.site.backend with
    ⟨done, emptied, full⟩ | ⟨⟨e, failed⟩, same⟩ | ⟨done, pushed⟩
  · rw [emptied] at put records
    rw [done] at records
    constructor
    · rw [records]
      exact put.trans (congrArg some (List.rtake_nil _).symm)
    · rw [records]
      exact still .tripped fun _ => full ▸ within
  · rw [same] at put
    rw [failed] at records
    constructor
    · rw [records]
      exact put
    · rw [records]
      exact still .missed (by rintro ⟨⟩)
  · rw [pushed, push_eq_rtake takes some_size bounded, rtake_concat_rtake] at put
    have some_trace : (b.push takes ((Record.joinedSince w.records).rtake
        b.config.traceSize)).isEmpty = false := by
      simp [push]
    rw [done, pushed, Record.ofAnswer, some_trace] at records
    constructor
    · rw [records]
      exact put
    · rw [records]
      exact still (.joined takes) (by rintro ⟨⟩)

theorem Move.recorded (accepted : b.config.flaw? = none) (move : b.Move w w')
    (recorded : b.Recorded w) : b.Recorded w' := by
  cases move with
  | around site untouched => exact ⟨untouched.trans recorded.kept, recorded.enough⟩
  | arrive key => exact ⟨recorded.kept, recorded.enough⟩
  | look before after key calls => exact ⟨recorded.kept, recorded.enough⟩
  | finish before after key since calls => exact recorded.finish accepted before after key since

theorem Course.recorded (accepted : b.config.flaw? = none) (course : b.Course w) :
    b.Recorded w := by
  obtain ⟨site, empty, moves⟩ := course
  induction moves with
  | refl =>
    exact ⟨empty.trans (congrArg some (List.rtake_nil _).symm),
      fun later earlier split => by cases later <;> cases split⟩
  | tail _ move ih => exact move.recorded accepted ih

theorem look_of_open (w : Overlap σ) {answer : Except BackendError Bool}
    (before after : List GuardedCall)
    (told : (isLocked key w.site).1 = answer) (refused : answer ≠ .ok false) :
    look w before after key =
      { w with site := (isLocked key w.site).2, calls := before ++ .over :: after } := by
  unfold look
  dsimp only
  rw [told]
  match answer with
  | .ok false => exact absurd rfl refused
  | .ok true => rfl
  | .error _ => rfl

theorem look_of_closed (w : Overlap σ) (before after : List GuardedCall)
    (told : (isLocked key w.site).1 = .ok false) :
    look w before after key =
      { w with
        site := (isLocked key w.site).2
        calls := before ++ .running key w.site.now :: after } := by
  unfold look
  dsimp only
  rw [told]

/-- A call that is made all at once continues a course, if its operation leaves the trace alone. -/
theorem Course.call (course : b.Course w) (args : CallArgs) (op : Site σ → Except ε α × Site σ)
    (apart : ∀ before : Site σ, (op before).2.traces[b.slot]? = before.traces[b.slot]?) :
    ∃ calls records, b.Course ⟨(b.call args op w.site).2, calls, records⟩ := by
  cases has_key : b.key args with
  | error e =>
    rw [call_of_key_error has_key op]
    exact ⟨w.calls, w.records, course⟩
  | ok key =>
    let s := w.site.note (.keyBound b.signature.id key)
    have bound : b.Course { w with site := s } := course.move (.around w s rfl)
    let entering : Overlap σ := ⟨s, [] ++ .arrived key :: w.calls, w.records⟩
    have arrived : b.Course entering := bound.move (.arrive _ key)
    have looked := arrived.move (.look _ [] w.calls key rfl)
    have keyed : b.keyFor args w.site = (.ok key, s) := keyFor_of_key has_key w.site
    cases told : isLocked key s with
    | mk answer after =>
      match answer with
      | .error e =>
        rw [look_of_open entering [] w.calls (congrArg Prod.fst told) (by rintro ⟨⟩)] at looked
        rw [Breaker.call, keyed]
        dsimp only
        rw [told]
        exact ⟨_, _, congrArg Prod.snd told ▸ looked⟩
      | .ok true =>
        rw [look_of_open entering [] w.calls (congrArg Prod.fst told) (by rintro ⟨⟩)] at looked
        have noted := looked.move (.around _ ((isLocked key s).2.note (.circuitOpen key)) rfl)
        rw [Breaker.call, keyed]
        dsimp only
        rw [told]
        exact ⟨_, _, congrArg Prod.snd told ▸ noted⟩
      | .ok false =>
        have closed : (isLocked key s).1 = .ok false := congrArg Prod.fst told
        rw [look_of_closed entering [] w.calls closed] at looked
        have ended := looked.move (.around _ (op (b.entered key w.site)).2 (apart _))
        rw [call_of_unlocked has_key closed op]
        exact ⟨_, _, ended.move (.finish _ [] w.calls key s.now rfl)⟩

/-- **The trace holds the latest durations since a circuit was last opened.** However the calls of a
breaker overlap, whatever their keys and the condition, and whether locks can be written or not: the
trace is the last of the durations that joined it since then, as many as it has room for, in the
order in which they were recorded. And a circuit is opened only after as many have joined it since
the opening before, or since the start. -/
theorem trace_of_records (accepted : b.config.flaw? = none) (course : b.Course w) :
    b.trace w.site = (Record.joinedSince w.records).rtake b.config.traceSize ∧
      (b.trace w.site).length ≤ b.config.traceSize ∧
      ∀ later earlier, w.records = later ++ .tripped :: earlier →
        b.config.traceSize ≤ (Record.joinedSince earlier).length := by
  obtain ⟨kept, enough⟩ := course.recorded accepted
  have held := trace_of_kept kept
  refine ⟨held, ?_, enough⟩
  rw [held]
  exact (length_rtake_le _ _).1

/-- Three calls are under way. The first one fills the trace, the second one opens a circuit and
empties it. The third one, let through before that, is recorded after it, and begins the trace
anew. -/
theorem late_record_begins_anew :
    let template : Template := ⟨"m:scan", [.literal "m:scan"], by decide +kernel⟩
    let b : Breaker := ⟨⟨⟨"m", "scan"⟩, []⟩, .ofFunctions [], template,
      ⟨3, 1, "perf", none, none⟩, fun _ _ => true, 0⟩
    b.config.flaw? = none ∧ ∃ w : Overlap Unit, b.Course w ∧
      w.records = [.joined (Duration.toSeconds 3), .tripped, .joined (Duration.toSeconds 1)] ∧
      b.trace w.site = [Duration.toSeconds 3] := by
  intro template b
  let start : Site Unit := { Site.start () with traces := [[]] }
  have accepted : b.config.flaw? = none := by decide
  have begun : b.Course ⟨start, [], []⟩ := ⟨start, rfl, .refl⟩
  have come := ((begun.move (.arrive _ "a")).move (.arrive _ "b")).move (.arrive _ "c")
  have running := ((come.move (.look _ [] [.arrived "b", .arrived "a"] "c" rfl)).move
    (.look _ [.running "c" 0] [.arrived "a"] "b" rfl)).move
    (.look _ [.running "c" 0, .running "b" 0] [] "a" rfl)
  have filled : b.Course ⟨{ start with now := 1, traces := [[Duration.toSeconds 1]] },
      [.running "c" 0, .running "b" 0, .over], [.joined (Duration.toSeconds 1)]⟩ :=
    (running.pass 1).move (.finish _ [.running "c" 0, .running "b" 0] [] "a" 0 rfl)
  obtain ⟨backend, events, emptied⟩ : ∃ backend events,
      b.Course ⟨{ start with now := 2, traces := [[]], backend, events },
        [.running "c" 0, .over, .over], [.tripped, .joined (Duration.toSeconds 1)]⟩ :=
    ⟨_, _, (filled.pass 1).move (.finish _ [.running "c" 0] [.over] "b" 0 rfl)⟩
  have last : b.Course
      ⟨{ start with now := 3, traces := [[Duration.toSeconds 3]], backend, events },
      [.over, .over, .over],
      [.joined (Duration.toSeconds 3), .tripped, .joined (Duration.toSeconds 1)]⟩ :=
    (emptied.pass 1).move (.finish _ [] [.over, .over] "c" 0 rfl)
  exact ⟨accepted, _, last, rfl, (trace_of_records accepted last).1⟩

end Breaker
end Latchkey
