import Latchkey.Proofs.Named
import Latchkey.Store

/-!
Every entry with a deadline has its pair in the index, and the index is in order of time. So going
through the front of the index drops exactly the entries whose deadline has come: a pair that is
stale drops nothing, and no entry is overlooked.
-/

namespace Latchkey

/-- Whether the entry still exists at an instant; at its deadline it does not. -/
def Entry.lives (now : Time) (e : Entry) : Bool :=
  match e.deadline with
  | none => true
  | some t => decide (now < t)

theorem Entry.lives_iff {now : Time} {e : Entry} :
    e.lives now ↔ ∀ t, e.deadline = some t → now < t := by
  unfold Entry.lives
  cases e.deadline <;> simp

namespace Due

/-- Earlier pairs first; pairs of one instant in any order. -/
def Ordered (ds : List Due) : Prop := ds.Pairwise fun a b => a.1 ≤ b.1

theorem mem_insert {d x : Due} {ds : List Due} : x ∈ Due.insert d ds ↔ x = d ∨ x ∈ ds := by
  fun_induction Due.insert d ds with
  | case1 => simp
  | case2 => simp
  | case3 => simp
  | case4 _ _ _ _ ih => simp only [List.mem_cons, ih]; tauto

theorem ordered_insert {ds : List Due} (h : Ordered ds) (d : Due) : Ordered (Due.insert d ds) := by
  fun_induction Due.insert d ds with
  | case1 => simp [Ordered]
  | case2 e rest before =>
    have first : d.1 ≤ e.1 := by
      simp only [Due.before, Bool.or_eq_true, Bool.and_eq_true, decide_eq_true_eq,
        beq_iff_eq] at before
      rcases before with earlier | ⟨same, _⟩
      · exact Nat.le_of_lt earlier
      · exact Nat.le_of_eq same
    refine List.pairwise_cons.mpr ⟨fun x hx => ?_, h⟩
    rcases List.mem_cons.mp hx with rfl | hx
    · exact first
    · exact first.trans (List.rel_of_pairwise_cons h hx)
  | case3 => exact h
  | case4 e rest notBefore _ ih =>
    obtain ⟨first, rest_ordered⟩ := List.pairwise_cons.mp h
    refine List.pairwise_cons.mpr ⟨fun x hx => ?_, ih rest_ordered⟩
    rcases mem_insert.mp hx with rfl | hx
    · simp only [Due.before, Bool.or_eq_true, decide_eq_true_eq, not_or] at notBefore
      exact Nat.not_lt.mp notBefore.1
    · exact first x hx

end Due

namespace Store

/-- What every operation keeps: entries in order of their names, pairs in order of time, and a pair
for the deadline of every entry. Pairs without such an entry may be there too. -/
structure Sound (s : Store) : Prop where
  names : Named.Sorted s.entries
  order : Due.Ordered s.deadlines
  indexed : ∀ key e t, s.entry? key = some e → e.deadline = some t → (t, key) ∈ s.deadlines

/-- The entry that exists under a key at an instant. -/
def live (s : Store) (now : Time) (key : String) : Option Entry :=
  (s.entry? key).filter (Entry.lives now)

theorem sound_empty : Sound empty :=
  ⟨List.Pairwise.nil, List.Pairwise.nil, fun _ _ _ found => by cases found⟩

theorem find?_drop {entries : Named Entry} (h : Named.Sorted entries) (d : Due) (key : String) :
    Named.find? key (drop d entries) =
      (Named.find? key entries).filter fun e => !(key = d.2 && e.deadline = some d.1) := by
  unfold drop
  by_cases same : key = d.2
  · subst same
    cases found : Named.find? d.2 entries with
    | none => simp [found]
    | some e =>
      by_cases due : e.deadline = some d.1
      · simp [due, Named.find?_erase h, Option.filter_some]
      · simp [due, found, Option.filter_some]
  · have kept : ∀ o : Option Entry,
        o.filter (fun e => !(key = d.2 && e.deadline = some d.1)) = o := by
      intro o
      cases o <;> simp [same]
    rw [kept]
    split
    · split
      · rw [Named.find?_erase h, if_neg same]
      · rfl
    · rfl

theorem sound_drop {entries : Named Entry} {d : Due} {rest : List Due}
    (h : Sound ⟨entries, d :: rest⟩) : Sound ⟨drop d entries, rest⟩ where
  names := by
    show Named.Sorted (drop d entries)
    unfold drop
    split
    · split
      · exact Named.sorted_erase h.names _
      · exact h.names
    · exact h.names
  order := (List.pairwise_cons.mp h.order).2
  indexed := by
    intro key e t found ht
    simp only [find?_drop h.names, entry?, Option.filter_eq_some_iff] at found
    obtain ⟨found, stays⟩ := found
    rcases List.mem_cons.mp (h.indexed key e t found ht) with rfl | hp
    · simp [ht] at stays
    · exact hp

theorem sound_purgeFrom (now : Time) {entries : Named Entry} {deadlines : List Due}
    (h : Sound ⟨entries, deadlines⟩) : Sound (purgeFrom now entries deadlines) := by
  induction deadlines generalizing entries with
  | nil => exact h
  | cons d rest ih =>
    unfold purgeFrom
    split
    · exact h
    · exact ih (sound_drop h)

/-- Every pair that is left is for a later instant. -/
theorem lt_of_mem_purgeFrom {now : Time} {entries : Named Entry} {deadlines : List Due}
    (h : Due.Ordered deadlines) {d : Due} (hd : d ∈ (purgeFrom now entries deadlines).deadlines) :
    now < d.1 := by
  induction deadlines generalizing entries with
  | nil => cases hd
  | cons first rest ih =>
    obtain ⟨least, rest_ordered⟩ := List.pairwise_cons.mp h
    unfold purgeFrom at hd
    split at hd
    · rename_i later
      rcases List.mem_cons.mp hd with rfl | hd
      · exact later
      · exact Nat.lt_of_lt_of_le later (least d hd)
    · exact ih rest_ordered hd

/-- Dropping an entry whose deadline has come changes nothing that exists. -/
theorem live_purgeFrom {now t : Time} (hle : now ≤ t) {entries : Named Entry}
    {deadlines : List Due} (h : Sound ⟨entries, deadlines⟩) (key : String) :
    (purgeFrom now entries deadlines).live t key = live ⟨entries, deadlines⟩ t key := by
  induction deadlines generalizing entries with
  | nil => rfl
  | cons d rest ih =>
    unfold purgeFrom
    split
    · rfl
    · rename_i due
      rw [ih (sound_drop h)]
      simp only [live, entry?, find?_drop h.names, Option.filter_filter]
      congr 1
      funext e
      by_cases gone : key = d.2 ∧ e.deadline = some d.1
      · -- the pair drops its entry, which is due and so does not exist at the later instant either
        have past : ¬ t < d.1 := Nat.not_lt.mpr ((Nat.not_lt.mp due).trans hle)
        simp [gone, Entry.lives, past]
      · have stays : (!(key = d.2 && e.deadline = some d.1)) = true := by
          simpa using not_and_or.mp gone
        rw [stays, Bool.true_and]

theorem sound_purge {s : Store} (h : Sound s) (now : Time) : Sound (s.purge now) :=
  sound_purgeFrom now h

theorem live_purge {s : Store} (h : Sound s) {now t : Time} (hle : now ≤ t) (key : String) :
    (s.purge now).live t key = s.live t key :=
  live_purgeFrom hle h key

/-- After dropping what is due, what is kept under a key is what exists. -/
theorem entry?_purge {s : Store} (h : Sound s) (now : Time) (key : String) :
    Store.entry? (s.purge now) key = s.live now key := by
  rw [← live_purge h (Nat.le_refl now) key, live]
  cases found : Store.entry? (s.purge now) key with
  | none => rfl
  | some e =>
    symm
    apply Option.filter_some_pos
    rw [Entry.lives_iff]
    intro t ht
    exact lt_of_mem_purgeFrom h.order ((sound_purge h now).indexed key e t found ht)

/-- An entry that was dropped had to be: its deadline has come. -/
theorem entry?_purge_cases {s : Store} (h : Sound s) (now : Time) (key : String) :
    Store.entry? (s.purge now) key = s.entry? key ∨
      Store.entry? (s.purge now) key = none ∧
        ∃ e t, s.entry? key = some e ∧ e.deadline = some t ∧ t ≤ now := by
  rw [entry?_purge h, live]
  cases found : s.entry? key with
  | none => exact .inl rfl
  | some e =>
    cases lives : e.lives now with
    | true => exact .inl (Option.filter_some_pos lives)
    | false =>
      have ended : ¬ ∀ t, e.deadline = some t → now < t := by
        rw [← Entry.lives_iff, lives]
        exact Bool.false_ne_true
      push Not at ended
      obtain ⟨t, due, past⟩ := ended
      exact .inr ⟨Option.filter_some_neg (by simp [lives]), e, t, rfl, due, past⟩

/-- Nothing is due: the first pair of the index, if there is one, is for a later instant. -/
def Rested (now : Time) (s : Store) : Prop := ∀ d, s.deadlines.head? = some d → now < d.1

theorem Rested.purge_eq {now : Time} {s : Store} (rested : Rested now s) : s.purge now = s := by
  obtain ⟨entries, deadlines⟩ := s
  cases deadlines with
  | nil => rfl
  | cons d rest => exact if_pos (rested d rfl)

theorem rested_purgeFrom (now : Time) (entries : Named Entry) (deadlines : List Due) :
    Rested now (purgeFrom now entries deadlines) := by
  induction deadlines generalizing entries with
  | nil => simp [Rested, purgeFrom]
  | cons d rest ih =>
    unfold purgeFrom
    split
    · rename_i later
      rintro _ ⟨⟩
      exact later
    · exact ih _

theorem Rested.write {now t : Time} {s : Store} (rested : Rested now s) (later : now < t)
    (key : String) (value : Json) : Rested now (s.write key value (some t)) := by
  have first (d : Due) (ds : List Due) :
      (Due.insert d ds).head? = some d ∨ (Due.insert d ds).head? = ds.head? := by
    cases ds with
    | nil => exact .inl rfl
    | cons e rest =>
      unfold Due.insert
      split_ifs
      · exact .inl rfl
      · exact .inr rfl
      · exact .inr rfl
  intro d ahead
  rcases first (t, key) s.deadlines with new | old
  · cases new.symm.trans ahead
    exact later
  · exact rested d (old.symm.trans ahead)

/-- After an attempt to set a lock there is one, whoever set it. -/
theorem holds_setLock (now : Time) (key : String) (value : Json) {expire : Duration}
    (some_time : 0 < expire) (s : Store) :
    (((s.setLock now key value expire).2).holds now key).1 = true := by
  have rested := rested_purgeFrom now s.entries s.deadlines
  change Rested now (s.purge now) at rested
  unfold setLock holds
  dsimp only
  cases found : Store.entry? (s.purge now) key with
  | some e =>
    dsimp only
    rw [rested.purge_eq, found]
    rfl
  | none =>
    dsimp only
    rw [(rested.write (Nat.lt_add_of_pos_right some_time) key value).purge_eq, entry?, write]
    simp [Named.find?_insert]

end Store
end Latchkey
