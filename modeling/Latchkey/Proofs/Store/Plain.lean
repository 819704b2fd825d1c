import Mathlib.Data.Set.Card
import Latchkey.Proofs.Store.Index

/-!
A plain map with deadlines drops nothing and has no index: an entry exists as long as it has no
deadline or its deadline is still to come, and it is asked for the instant. The store agrees with
such a map on what exists now and, since no entry comes back, on what exists later. Every operation
gives the answer of the plain one and keeps the agreement.
-/

namespace Latchkey

/-- Entries by key, those included whose deadline has come. -/
abbrev Plain := String → Option Entry

namespace Plain

/-- No entries. -/
def empty : Plain := fun _ => none

/-- The entry that exists under a key at an instant. -/
def live (m : Plain) (now : Time) (key : String) : Option Entry := (m key).filter (Entry.lives now)

/-- An entry in place of what was there. -/
def put (key : String) (e : Entry) (m : Plain) : Plain := Function.update m key (some e)

/-- Nothing in place of what was there. -/
def remove (key : String) (m : Plain) : Plain := Function.update m key none

theorem live_put (key other : String) (e : Entry) (m : Plain) (now : Time) :
    (m.put key e).live now other =
      if other = key then (some e).filter (Entry.lives now) else m.live now other := by
  unfold live put Function.update
  split <;> simp_all

theorem live_remove (key other : String) (m : Plain) (now : Time) :
    (m.remove key).live now other = if other = key then none else m.live now other := by
  unfold live remove Function.update
  split <;> simp_all

def get (now : Time) (key : String) (m : Plain) : Option Json := (m.live now key).map Entry.value

/-- Value and deadline are replaced; without a time to live there is no deadline any more. -/
def set (now : Time) (key : String) (value : Json) (expire : Option Duration) (m : Plain) : Plain :=
  m.put key ⟨value, expire.map (now + ·)⟩

def delete (now : Time) (key : String) (m : Plain) : Bool × Plain :=
  ((m.live now key).isSome, m.remove key)

/-- A missing counter starts at 1 without a deadline; another one keeps its deadline. What is no
integer of 64 bits stays as it is. -/
def incr (now : Time) (key : String) (m : Plain) : Option Int × Plain :=
  match m.live now key with
  | none => (some 1, m.put key ⟨.int 1, none⟩)
  | some ⟨.int n, deadline⟩ =>
    if -9223372036854775808 ≤ n ∧ n < 9223372036854775808 then
      (some (n + 1), m.put key ⟨.int (n + 1), deadline⟩)
    else (none, m)
  | some _ => (none, m)

/-- The deadline of an entry that exists is moved, and nothing else happens. -/
def expire (now : Time) (key : String) (timeout : Duration) (m : Plain) : Plain :=
  match m.live now key with
  | none => m
  | some e => m.put key ⟨e.value, some (now + timeout)⟩

/-- The time that is left to an entry with a deadline. -/
def remaining (now : Time) (key : String) (m : Plain) : Option Duration :=
  ((m.live now key).bind Entry.deadline).map (· - now)

def holds (now : Time) (key : String) (m : Plain) : Bool := (m.live now key).isSome

/-- The value is put there exactly if no entry exists. -/
def setLock (now : Time) (key : String) (value : Json) (expire : Duration) (m : Plain) :
    Bool × Plain :=
  if (m.live now key).isSome then (false, m) else (true, m.put key ⟨value, some (now + expire)⟩)

/-- The number of keys under which an entry exists. -/
noncomputable def size (now : Time) (m : Plain) : Nat := {key | (m.live now key).isSome}.ncard

/-- What is left is more than nothing. -/
theorem remaining_pos {now : Time} {key : String} {m : Plain} {d : Duration}
    (h : m.remaining now key = some d) : 0 < d := by
  simp only [remaining, Option.map_eq_some_iff, Option.bind_eq_some_iff] at h
  obtain ⟨t, ⟨e, exists_, ht⟩, rfl⟩ := h
  have lives : e.lives now := by
    simp only [live, Option.filter_eq_some_iff] at exists_
    exact exists_.2
  exact Nat.sub_pos_of_lt (Entry.lives_iff.mp lives t ht)

end Plain

theorem Json.count?_int (n : Int) :
    (Json.int n).count? =
      if -9223372036854775808 ≤ n ∧ n < 9223372036854775808 then some n else none := by
  simp only [Json.count?, Json.isCount, Bool.and_eq_true, decide_eq_true_eq]
  rfl

theorem Entry.lives_of_le {now t : Time} (h : now ≤ t) {e : Entry} (lives : e.lives t) :
    e.lives now := by
  rw [Entry.lives_iff] at lives ⊢
  exact fun u hu => Nat.lt_of_le_of_lt h (lives u hu)

namespace Store

/-- The store and the plain map have the same entries that exist at this instant. -/
structure Agrees (now : Time) (s : Store) (m : Plain) : Prop where
  sound : s.Sound
  live : ∀ key, s.live now key = m.live now key

namespace Agrees

variable {now : Time} {s : Store} {m : Plain}

theorem empty (now : Time) : Agrees now .empty .empty := ⟨sound_empty, fun _ => rfl⟩

/-- What does not exist any more never exists again. -/
theorem later {t : Time} (h : Agrees now s m) (hle : now ≤ t) : Agrees t s m := by
  refine ⟨h.sound, fun key => ?_⟩
  have narrow : ∀ o : Option Entry,
      (o.filter (Entry.lives now)).filter (Entry.lives t) = o.filter (Entry.lives t) := by
    intro o
    cases o with
    | none => rfl
    | some e =>
      rw [Option.filter_filter]
      by_cases lives : e.lives t
      · simp [Option.filter_some, lives, Entry.lives_of_le hle lives]
      · simp [Option.filter_some, lives]
  have same := congrArg (Option.filter (Entry.lives t)) (h.live key)
  rwa [Store.live, Plain.live, narrow, narrow] at same

theorem purge (h : Agrees now s m) : Agrees now (s.purge now) m :=
  ⟨sound_purge h.sound now, fun key => by rw [live_purge h.sound (Nat.le_refl now), h.live]⟩

/-- After dropping what is due, what is kept is what exists in the plain map. -/
theorem kept (h : Agrees now s m) (key : String) :
    Store.entry? (s.purge now) key = m.live now key := by
  rw [entry?_purge h.sound, h.live]

/-- An entry put in, with the pair for its deadline in an index that keeps all other pairs. -/
theorem put (h : Agrees now s m) (key : String) (e : Entry) {ds : List Due}
    (order : Due.Ordered ds) (keeps : ∀ d ∈ s.deadlines, d ∈ ds)
    (pair : ∀ t, e.deadline = some t → (t, key) ∈ ds) :
    Agrees now ⟨Named.insert key e s.entries, ds⟩ (m.put key e) where
  sound := by
    refine ⟨Named.sorted_insert h.sound.names _ _, order, fun other held t found ht => ?_⟩
    simp only [Named.find?_insert, Store.entry?] at found
    split at found
    · rename_i same
      cases found
      exact same ▸ pair t ht
    · exact keeps _ (h.sound.indexed other held t found ht)
  live := by
    intro other
    rw [Plain.live_put, ← h.live other]
    simp only [Store.live, Store.entry?, Named.find?_insert]
    split <;> rfl

theorem write (h : Agrees now s m) (key : String) (value : Json) (deadline : Option Time) :
    Agrees now (s.write key value deadline) (m.put key ⟨value, deadline⟩) := by
  cases deadline with
  | none => exact h.put key _ h.sound.order (fun _ hd => hd) (fun _ ht => by cases ht)
  | some t =>
    refine h.put key _ (Due.ordered_insert h.sound.order _) (fun _ hd => ?_) (fun _ ht => ?_)
    · exact Due.mem_insert.mpr (.inr hd)
    · cases ht
      exact Due.mem_insert.mpr (.inl rfl)

theorem remove (h : Agrees now s m) (key : String) :
    Agrees now { s with entries := Named.erase key s.entries } (m.remove key) where
  sound := by
    refine ⟨Named.sorted_erase h.sound.names _, h.sound.order, fun other held t found ht => ?_⟩
    simp only [Named.find?_erase h.sound.names, Store.entry?] at found
    split at found
    · cases found
    · exact h.sound.indexed other held t found ht
  live := by
    intro other
    rw [Plain.live_remove, ← h.live other]
    simp only [Store.live, Store.entry?, Named.find?_erase h.sound.names]
    split <;> rfl

theorem get (h : Agrees now s m) (key : String) :
    (s.get now key).1 = m.get now key ∧ Agrees now (s.get now key).2 m := by
  refine ⟨?_, h.purge⟩
  simp only [Store.get, h.kept, Plain.get]

theorem set (h : Agrees now s m) (key : String) (value : Json) (expire : Option Duration) :
    Agrees now (s.set now key value expire) (m.set now key value expire) :=
  h.purge.write key value _

theorem delete (h : Agrees now s m) (key : String) :
    (s.delete now key).1 = (m.delete now key).1 ∧
      Agrees now (s.delete now key).2 (m.delete now key).2 := by
  refine ⟨?_, h.purge.remove key⟩
  simp only [Store.delete, h.kept, Plain.delete]

theorem incr (h : Agrees now s m) (key : String) :
    (s.incr now key).1 = (m.incr now key).1 ∧
      Agrees now (s.incr now key).2 (m.incr now key).2 := by
  have kept := h.kept key
  unfold Store.incr Plain.incr
  dsimp only
  rw [kept]
  cases found : m.live now key with
  | none => exact ⟨rfl, h.purge.write key _ none⟩
  | some e =>
    obtain ⟨value, deadline⟩ := e
    cases value with
    | int n =>
      simp only [Json.count?_int]
      by_cases fits : -9223372036854775808 ≤ n ∧ n < 9223372036854775808
      · simp only [if_pos fits]
        -- the deadline stays, so its pair is in the index already
        refine ⟨trivial, h.purge.put key _ h.purge.sound.order (fun _ hd => hd) fun t ht => ?_⟩
        rw [found] at kept
        exact h.purge.sound.indexed key _ t kept ht
      · simp only [if_neg fits]
        exact ⟨trivial, h.purge⟩
    | _ => exact ⟨rfl, h.purge⟩

theorem expire (h : Agrees now s m) (key : String) (timeout : Duration) :
    Agrees now (s.expire now key timeout) (m.expire now key timeout) := by
  unfold Store.expire Plain.expire
  dsimp only
  rw [h.kept]
  cases m.live now key with
  | none => exact h.purge
  | some e => exact h.purge.write key _ _

theorem remaining (h : Agrees now s m) (key : String) :
    (s.remaining now key).1 = m.remaining now key ∧ Agrees now (s.remaining now key).2 m := by
  refine ⟨?_, h.purge⟩
  simp only [Store.remaining, h.kept, Plain.remaining]

theorem holds (h : Agrees now s m) (key : String) :
    (s.holds now key).1 = m.holds now key ∧ Agrees now (s.holds now key).2 m := by
  refine ⟨?_, h.purge⟩
  simp only [Store.holds, h.kept, Plain.holds]

theorem setLock (h : Agrees now s m) (key : String) (value : Json) (expire : Duration) :
    (s.setLock now key value expire).1 = (m.setLock now key value expire).1 ∧
      Agrees now (s.setLock now key value expire).2 (m.setLock now key value expire).2 := by
  unfold Store.setLock Plain.setLock
  dsimp only
  rw [h.kept]
  cases m.live now key with
  | none => exact ⟨rfl, h.purge.write key _ _⟩
  | some e => exact ⟨rfl, h.purge⟩

theorem size (h : Agrees now s m) :
    (s.size now).1 = m.size now ∧ Agrees now (s.size now).2 m := by
  refine ⟨?_, h.purge⟩
  have keys : {key | (m.live now key).isSome} = ↑(Named.names (s.purge now).entries).toFinset := by
    ext key
    rw [Set.mem_ofPred_eq, ← h.kept key, List.coe_toFinset, Set.mem_ofPred_eq, Named.mem_names]
    rfl
  rw [Plain.size, keys, Set.ncard_coe_finset,
    List.toFinset_card_of_nodup (Named.nodup_names h.purge.sound.names)]
  simp [Store.size, Named.names]

end Agrees
end Store
end Latchkey
