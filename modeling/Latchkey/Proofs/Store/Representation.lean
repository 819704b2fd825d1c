import Latchkey.Proofs.Store.Refinement

/-!
A store holds more than what exists: entries whose deadline has come, and stale pairs in its index.
In every state that requests lead to, the index has a pair for each deadline, so that dropping what
is due leaves exactly the entries that exist. Every request begins with that.
-/

namespace Latchkey

namespace Store

/-- The index has a pair for the deadline of every entry. -/
def Indexed (s : Store) : Prop :=
  ∀ key e t, (key, e) ∈ s.entries → e.deadline = some t → (t, key) ∈ s.deadlines

/-- The second store is what is left of the first one at an instant: the entries that still exist,
as they were, and nothing that is due. -/
structure Left (now : Time) (s after : Store) : Prop where
  /-- No pair of the index is due. -/
  pairs : ∀ d ∈ after.deadlines, now < d.1
  /-- No entry is due. -/
  entries : ∀ key e t, (key, e) ∈ after.entries → e.deadline = some t → now < t
  /-- An entry is kept, with its value and its deadline, exactly if it exists. -/
  live : ∀ key e, (key, e) ∈ after.entries ↔ (key, e) ∈ s.entries ∧ e.lives now
  /-- Nothing is kept under the key of an entry that was due. -/
  due : ∀ key e t, (key, e) ∈ s.entries → e.deadline = some t → t ≤ now →
    key ∉ Named.names after.entries
  /-- There are as many entries as keys with an entry that exists. -/
  size : after.entries.length = {key | (s.live now key).isSome}.ncard

theorem Sound.isIndexed {s : Store} (sound : s.Sound) : s.Indexed := by
  intro key e t among deadline
  exact sound.indexed key e t ((Named.mem_iff_find? sound.names).mp among) deadline

theorem mem_purge_iff {s : Store} (sound : s.Sound) (now : Time) {key : String} {e : Entry} :
    (key, e) ∈ (s.purge now).entries ↔ (key, e) ∈ s.entries ∧ e.lives now := by
  have kept := entry?_purge sound now key
  simp only [live, entry?] at kept
  rw [Named.mem_iff_find? (sound_purge sound now).names, Named.mem_iff_find? sound.names, kept,
    Option.filter_eq_some_iff]

theorem Agrees.left_purge {now : Time} {s : Store} {m : Plain} (h : s.Agrees now m) :
    s.Left now (s.purge now) where
  pairs _ among := lt_of_mem_purgeFrom h.sound.order among
  entries key e t among deadline := by
    obtain ⟨-, lives⟩ := (mem_purge_iff h.sound now).mp among
    exact Entry.lives_iff.mp lives t deadline
  live _ _ := mem_purge_iff h.sound now
  due key e t among deadline past named := by
    obtain ⟨other, found⟩ := Option.isSome_iff_exists.mp (Named.mem_names.mp named)
    obtain ⟨before, lives⟩ := (mem_purge_iff h.sound now).mp (Named.mem_of_find? found)
    -- what is kept under the key is the entry that was due
    rw [Named.mem_iff_find? h.sound.names] at among before
    cases among.symm.trans before
    exact Nat.not_lt.mpr past (Entry.lives_iff.mp lives t deadline)
  size := by
    have counted := h.size.1
    simp only [Plain.size, ← h.live] at counted
    exact counted

/-- What is due is dropped once: a second time there is nothing to drop. -/
theorem purge_purge (now : Time) (s : Store) : (s.purge now).purge now = s.purge now := by
  have rested := rested_purgeFrom now s.entries s.deadlines
  exact Rested.purge_eq rested

end Store

namespace Backend

/-- The backend after dropping what is due. -/
def purged (now : Time) (b : Backend) : Backend := { b with store := b.store.purge now }

theorem attempt_purged {α : Type} {now : Time} {b : Backend} (working : b.down = []) (op : Op)
    {access : Store → α × Store} (first : access (b.store.purge now) = access b.store) :
    (b.purged now).attempt op access = b.attempt op access := by
  simp only [attempt, purged, working, List.not_mem_nil, if_false, first]

/-- Every request first drops what is due: it is served as if that had been done before. -/
theorem serve_purged {now : Time} {b : Backend} (working : b.down = []) (r : Request) :
    (b.purged now).serve now r = b.serve now r := by
  have again := Store.purge_purge now b.store
  cases r with
  | get key =>
    apply congrArg (Reply.ofAccess _)
    exact attempt_purged working .get (by simp only [Store.get, again])
  | set key value expire =>
    apply congrArg (Reply.ofAccess _)
    exact attempt_purged working .set (by simp only [Store.set, again])
  | delete key =>
    apply congrArg (Reply.ofAccess _)
    exact attempt_purged working .delete (by simp only [Store.delete, again])
  | incr key =>
    have first : Store.incr now key (b.store.purge now) = Store.incr now key b.store := by
      simp only [Store.incr, again]
    have same := attempt_purged working .incr first
    simp only [serve, incr, same]
  | expire key timeout =>
    apply congrArg (Reply.ofAccess _)
    exact attempt_purged working .expire (by simp only [Store.expire, again])
  | getExpire key =>
    apply congrArg (Reply.ofAccess _)
    exact attempt_purged working .getExpire (by simp only [Store.remaining, again])
  | isLocked key =>
    apply congrArg (Reply.ofAccess _)
    exact attempt_purged working .isLocked (by simp only [Store.holds, again])
  | setLock key value expire =>
    apply congrArg (Reply.ofAccess _)
    exact attempt_purged working .setLock (by simp only [Store.setLock, again])
  | unlock key =>
    apply congrArg (Reply.ofAccess _)
    exact attempt_purged working .unlock (by simp only [Store.delete, again])
  | size => simp only [serve, purged, Store.size, again]
  | clear => rfl

/-- A backend that requests have led to from an empty one, by a clock that is never turned back. -/
inductive Reached : Time → Backend → Prop
  | start (now : Time) : Reached now .empty
  | wait {now later : Time} {b : Backend} : Reached now b → now ≤ later → Reached later b
  | serve {now : Time} {b : Backend} (r : Request) : Reached now b → Reached now (b.serve now r).2

theorem Reached.mirrors {now : Time} {b : Backend} (reached : Reached now b) :
    ∃ m, b.Mirrors now m := by
  induction reached with
  | start now => exact ⟨.empty, .empty now⟩
  | wait _ later ih =>
    obtain ⟨m, h⟩ := ih
    exact ⟨m, h.later later⟩
  | serve r _ ih =>
    obtain ⟨m, h⟩ := ih
    exact ⟨_, (h.serve r).2⟩

/-- **What is stored is what is live.** Wherever requests lead, the index has a pair for the
deadline of every entry; right after dropping what is due, the store holds the entries that exist,
as they were, and nothing else; and every request first drops what is due. -/
theorem stored_is_live {now : Time} {b : Backend} (reached : Reached now b) :
    b.store.Indexed ∧ b.store.Left now (b.store.purge now) ∧
      ∀ r, (b.purged now).serve now r = b.serve now r := by
  obtain ⟨m, working, agrees⟩ := reached.mirrors
  exact ⟨agrees.sound.isIndexed, agrees.left_purge, serve_purged working⟩

/-- Two entries, one of them with a deadline that was moved. At the other's deadline the pair for
the earlier one is stale and drops nothing. -/
theorem moved_deadline_kept :
    ∃ b, Reached 7 b ∧ b.store.deadlines = [(5, "a"), (7, "b"), (9, "a")] ∧
      (b.store.purge 7).entries.map (fun p => (p.1, p.2.deadline)) = [("a", some 9)] ∧
      b.store.Indexed ∧ b.store.Left 7 (b.store.purge 7) ∧
        ∀ r, (b.purged 7).serve 7 r = b.serve 7 r := by
  have reached := (((Reached.start 0).serve (.setLock "a" .null 5)).serve
    (.set "b" .null (some 7))).serve (.expire "a" 9)
  have later := reached.wait (by decide : 0 ≤ 7)
  exact ⟨_, later, by decide +kernel, by decide +kernel, stored_is_live later⟩

end Backend
end Latchkey
