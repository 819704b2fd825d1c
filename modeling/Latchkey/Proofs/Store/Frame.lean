import Latchkey.Proofs.Store.Refinement

namespace Latchkey

/-- Whether something may be written under the key. -/
def Request.writes (key : String) : Request → Prop
  | .get _ | .getExpire _ | .isLocked _ | .size => False
  | .set k _ _ | .delete k | .incr k | .expire k _ | .setLock k _ _ | .unlock k => k = key
  | .clear => True

namespace Plain

variable {now : Time} {key other : String} {m : Plain}

theorem put_of_ne (e : Entry) (differ : other ≠ key) : m.put other e key = m key :=
  Function.update_of_ne (Ne.symm differ) _ _

theorem remove_of_ne (differ : other ≠ key) : m.remove other key = m key :=
  Function.update_of_ne (Ne.symm differ) _ _

theorem incr_of_ne (differ : other ≠ key) : (m.incr now other).2 key = m key := by
  unfold incr
  split
  · exact put_of_ne _ differ
  · split
    · exact put_of_ne _ differ
    · rfl
  · rfl

theorem eq_of_incr_none {m' : Plain} (refused : m.incr now key = (none, m')) : m' = m := by
  unfold incr at refused
  split at refused
  · cases refused
  · split at refused
    · cases refused
    · exact (Prod.ext_iff.mp refused).2.symm
  · exact (Prod.ext_iff.mp refused).2.symm

theorem expire_of_ne (timeout : Duration) (differ : other ≠ key) :
    m.expire now other timeout key = m key := by
  unfold expire
  cases m.live now other with
  | none => rfl
  | some e => exact put_of_ne _ differ

theorem setLock_of_ne (value : Json) (expire : Duration) (differ : other ≠ key) :
    (m.setLock now other value expire).2 key = m key := by
  unfold setLock
  split
  · rfl
  · exact put_of_ne _ differ

theorem serve_of_not_writes {r : Request} (leaves : ¬ r.writes key) (now : Time) (m : Plain) :
    (m.serve now r).2 key = m key := by
  cases r with
  | get | getExpire | isLocked | size => rfl
  | set other => exact put_of_ne _ leaves
  | delete other => exact remove_of_ne leaves
  | unlock other => exact remove_of_ne leaves
  | incr other =>
    have kept : (m.incr now other).2 key = m key := incr_of_ne leaves
    unfold serve
    dsimp only
    split <;> simp_all
  | expire other timeout => exact expire_of_ne timeout leaves
  | setLock other value expire => exact setLock_of_ne value expire leaves
  | clear => exact absurd trivial leaves

end Plain

namespace Backend

variable {α : Type} {now : Time} {b : Backend} {m : Plain}

/-- The same backend with every access working. -/
def up (b : Backend) : Backend := { b with down := [] }

/-- An access fails and leaves all as it is, or does what it would do if no access failed. -/
theorem attempt_cases (b : Backend) (op : Op) (access : Store → α × Store) :
    (b.attempt op access).2 = b ∨
      (b.attempt op access).2 = { (b.up.attempt op access).2 with down := b.down } := by
  unfold attempt up
  by_cases failing : op ∈ b.down
  · simp [failing]
  · simp [failing]

theorem incr_snd (b : Backend) (now : Time) (key : String) :
    (b.incr now key).2 = (b.attempt .incr (Store.incr now key)).2 := by
  unfold incr
  split <;> simp_all

theorem serve_cases (b : Backend) (now : Time) (r : Request) :
    (b.serve now r).2 = b ∨
      (b.serve now r).2 = { (b.up.serve now r).2 with down := b.down } := by
  cases r with
  | size | clear => exact .inr rfl
  | incr key =>
    unfold serve Reply.ofAccess
    simp only [incr_snd]
    exact attempt_cases b _ _
  | _ => exact attempt_cases b _ _

theorem mirrors_up (h : b.store.Agrees now m) : b.up.Mirrors now m := ⟨rfl, h⟩

/-- Whatever fails, a request leaves every key alone that it does not write under. -/
theorem serve_frame (h : b.store.Agrees now m) (r : Request) :
    (b.serve now r).2.down = b.down ∧
      ∃ m' : Plain, (b.serve now r).2.store.Agrees now m' ∧
        ∀ key, ¬ r.writes key → m' key = m key := by
  rcases b.serve_cases now r with same | done
  · rw [same]
    exact ⟨rfl, m, h, fun _ _ => rfl⟩
  · rw [done]
    refine ⟨rfl, _, ((mirrors_up h).serve r).2.agrees, fun key leaves => ?_⟩
    exact Plain.serve_of_not_writes leaves now m

theorem attempt_spec {m' : Plain} (b : Backend) (op : Op) {access : Store → α × Store} {answer : α}
    (spec : (access b.store).1 = answer ∧ (access b.store).2.Agrees now m') :
    b.attempt op access = (.error (.down op), b) ∨
      ∃ after, b.attempt op access = (.ok answer, after) ∧ after.store.Agrees now m' := by
  unfold attempt
  split
  · exact .inl rfl
  · obtain ⟨rfl, agrees⟩ := spec
    exact .inr ⟨_, rfl, agrees⟩

theorem expire_cases (h : b.store.Agrees now m) (key : String) (timeout : Duration) :
    (∃ e, b.expire now key timeout = (.error e, b)) ∨
      ∃ after, b.expire now key timeout = (.ok (), after) ∧
        after.store.Agrees now (m.expire now key timeout) := by
  have outcome : b.expire now key timeout = _ ∨ _ :=
    b.attempt_spec .expire ⟨rfl, h.expire key timeout⟩
  exact outcome.imp_left fun failed => ⟨_, failed⟩

theorem incr_cases (h : b.store.Agrees now m) (key : String) :
    (∃ e after, b.incr now key = (.error e, after) ∧ after.store.Agrees now m) ∨
      ∃ n m' after, m.incr now key = (some n, m') ∧ b.incr now key = (.ok n, after) ∧
        after.store.Agrees now m' := by
  unfold incr
  rcases b.attempt_spec .incr (h.incr key) with failed | ⟨after, done, agrees⟩
  · rw [failed]
    exact .inl ⟨_, _, rfl, h⟩
  · rw [done]
    cases raised : m.incr now key with
    | mk count m' =>
      rw [raised] at agrees
      cases count with
      | some n => exact .inr ⟨n, m', after, rfl, rfl, agrees⟩
      | none =>
        obtain rfl := Plain.eq_of_incr_none raised
        exact .inl ⟨_, _, rfl, agrees⟩

end Backend
end Latchkey
