import Latchkey.Proofs.Store.Plain
import Latchkey.Backend

/-!
A backend whose accesses all work and a plain map are asked the same, one request after the other,
by a clock that is never turned back. `replies_eq_plain`: they give the same replies.
-/

namespace Latchkey

/-- What a backend can be asked. -/
inductive Request where
  | get (key : String)
  | set (key : String) (value : Json) (expire : Option Duration)
  | delete (key : String)
  | incr (key : String)
  | expire (key : String) (timeout : Duration)
  | getExpire (key : String)
  | isLocked (key : String)
  | setLock (key : String) (value : Json) (expire : Duration)
  | unlock (key : String)
  | size
  | clear

/-- What is replied. -/
inductive Reply where
  | done
  | value (v : Option Json)
  | flag (b : Bool)
  | count (n : Int)
  | remaining (d : Option Duration)
  | size (n : Nat)
  | failed (cause : BackendError)

/-- The reply to an access, and the backend after it. -/
def Reply.ofAccess {α : Type} (f : α → Reply) (a : Access α) : Reply × Backend :=
  (match a.1 with
    | .ok answer => f answer
    | .error e => .failed e, a.2)

/-- A request at an instant: the reply, and the backend after it. -/
def Backend.serve (now : Time) (b : Backend) : Request → Reply × Backend
  | .get key => Reply.ofAccess .value (b.get now key)
  | .set key value expire => Reply.ofAccess (fun _ => .done) (b.set now key value expire)
  | .delete key => Reply.ofAccess .flag (b.delete now key)
  | .incr key => Reply.ofAccess .count (b.incr now key)
  | .expire key timeout => Reply.ofAccess (fun _ => .done) (b.expire now key timeout)
  | .getExpire key => Reply.ofAccess .remaining (b.getExpire now key)
  | .isLocked key => Reply.ofAccess .flag (b.isLocked now key)
  | .setLock key value expire => Reply.ofAccess .flag (b.setLock now key value expire)
  | .unlock key => Reply.ofAccess .flag (b.unlock now key)
  | .size => (.size (b.store.size now).1, { b with store := (b.store.size now).2 })
  | .clear => (.done, { b with store := .empty })

/-- A request of a plain map at an instant. -/
noncomputable def Plain.serve (now : Time) (m : Plain) : Request → Reply × Plain
  | .get key => (.value (m.get now key), m)
  | .set key value expire => (.done, m.set now key value expire)
  | .delete key => (.flag (m.delete now key).1, (m.delete now key).2)
  | .incr key =>
    match m.incr now key with
    | (some n, m) => (.count n, m)
    | (none, m) => (.failed (.notCounter key), m)
  | .expire key timeout => (.done, m.expire now key timeout)
  | .getExpire key => (.remaining (m.remaining now key), m)
  | .isLocked key => (.flag (m.holds now key), m)
  | .setLock key value expire =>
    (.flag (m.setLock now key value expire).1, (m.setLock now key value expire).2)
  | .unlock key => (.flag (m.delete now key).1, (m.delete now key).2)
  | .size => (.size (m.size now), m)
  | .clear => (.done, .empty)

namespace Backend

/-- Every access works, and the store agrees with the plain map. -/
structure Mirrors (now : Time) (b : Backend) (m : Plain) : Prop where
  working : b.down = []
  agrees : b.store.Agrees now m

namespace Mirrors

variable {α : Type} {now : Time} {b : Backend} {m m' : Plain}

theorem empty (now : Time) : Mirrors now .empty .empty := ⟨rfl, .empty now⟩

theorem later {t : Time} (h : Mirrors now b m) (hle : now ≤ t) : Mirrors t b m :=
  ⟨h.working, h.agrees.later hle⟩

/-- An access that works does what it does to the store. -/
theorem attempt (h : Mirrors now b m) (op : Op) {access : Store → α × Store} {answer : α}
    (spec : (access b.store).1 = answer ∧ (access b.store).2.Agrees now m') :
    (b.attempt op access).1 = .ok answer ∧ Mirrors now (b.attempt op access).2 m' := by
  simp only [Backend.attempt, h.working, List.not_mem_nil, if_false]
  exact ⟨congrArg _ spec.1, rfl, spec.2⟩

theorem get (h : Mirrors now b m) (key : String) :
    (b.get now key).1 = .ok (m.get now key) ∧ Mirrors now (b.get now key).2 m :=
  h.attempt .get (h.agrees.get key)

theorem expire (h : Mirrors now b m) (key : String) (timeout : Duration) :
    (b.expire now key timeout).1 = .ok () ∧
      Mirrors now (b.expire now key timeout).2 (m.expire now key timeout) :=
  h.attempt .expire ⟨rfl, h.agrees.expire key timeout⟩

theorem getExpire (h : Mirrors now b m) (key : String) :
    (b.getExpire now key).1 = .ok (m.remaining now key) ∧ Mirrors now (b.getExpire now key).2 m :=
  h.attempt .getExpire (h.agrees.remaining key)

/-- A counter is raised as in the plain map; a value that is no counter is refused. -/
theorem incr (h : Mirrors now b m) (key : String) :
    (b.incr now key).1 =
        (match (m.incr now key).1 with
          | some n => .ok n
          | none => .error (.notCounter key)) ∧
      Mirrors now (b.incr now key).2 (m.incr now key).2 := by
  obtain ⟨answer, after⟩ := h.attempt .incr (h.agrees.incr key)
  unfold Backend.incr
  generalize b.attempt .incr (Store.incr now key) = access at answer after
  obtain ⟨got, rest⟩ := access
  dsimp only at answer after
  subst answer
  cases (m.incr now key).1 <;> exact ⟨rfl, after⟩

theorem reply {a : Access α} {answer : α} (f : α → Reply)
    (h : a.1 = .ok answer ∧ Mirrors now a.2 m') :
    (Reply.ofAccess f a).1 = f answer ∧ Mirrors now (Reply.ofAccess f a).2 m' :=
  ⟨by rw [Reply.ofAccess, h.1], h.2⟩

/-- One request: the reply is that of the plain map, and what is left still mirrors it. -/
theorem serve (h : Mirrors now b m) (r : Request) :
    (b.serve now r).1 = (m.serve now r).1 ∧ Mirrors now (b.serve now r).2 (m.serve now r).2 := by
  cases r with
  | get key => exact reply _ (h.get key)
  | set key value expire => exact reply _ (h.attempt .set ⟨rfl, h.agrees.set key value expire⟩)
  | delete key => exact reply _ (h.attempt .delete (h.agrees.delete key))
  | incr key =>
    obtain ⟨answer, after⟩ := h.incr key
    simp only [Backend.serve, Reply.ofAccess, Plain.serve, answer]
    cases raised : m.incr now key with
    | mk count m' =>
      rw [raised] at after
      cases count <;> exact ⟨rfl, after⟩
  | expire key timeout => exact reply _ (h.expire key timeout)
  | getExpire key => exact reply _ (h.getExpire key)
  | isLocked key => exact reply _ (h.attempt .isLocked (h.agrees.holds key))
  | setLock key value expire =>
    exact reply _ (h.attempt .setLock (h.agrees.setLock key value expire))
  | unlock key => exact reply _ (h.attempt .unlock (h.agrees.delete key))
  | size => exact ⟨congrArg Reply.size h.agrees.size.1, h.working, h.agrees.size.2⟩
  | clear => exact ⟨rfl, h.working, .empty now⟩

end Mirrors
end Backend

/-- A request, and the time that passes before it is made. -/
structure Timed where
  wait : Duration
  request : Request

/-- The replies to requests made one after the other from an instant on. -/
def replies {σ : Type} (serve : Time → σ → Request → Reply × σ) :
    Time → σ → List Timed → List Reply
  | _, _, [] => []
  | now, s, r :: rest =>
    let (reply, s) := serve (now + r.wait) s r.request
    reply :: replies serve (now + r.wait) s rest

theorem Backend.Mirrors.replies {now : Time} {b : Backend} {m : Plain} (h : b.Mirrors now m)
    (rs : List Timed) : replies Backend.serve now b rs = replies Plain.serve now m rs := by
  induction rs generalizing now b m with
  | nil => rfl
  | cons r rest ih =>
    obtain ⟨same, after⟩ := (h.later (Nat.le_add_right now r.wait)).serve r.request
    simp only [Latchkey.replies, same, ih after]

theorem Plain.remaining_pos_of_mem_replies {now : Time} {m : Plain} {rs : List Timed} {d : Duration}
    (h : Reply.remaining (some d) ∈ replies Plain.serve now m rs) : 0 < d := by
  induction rs generalizing now m with
  | nil => cases h
  | cons r rest ih =>
    rcases List.mem_cons.mp h with told | h
    · cases request : r.request with
      | getExpire key =>
        rw [request] at told
        exact remaining_pos (Reply.remaining.inj told).symm
      | incr key =>
        simp only [request] at told
        split at told <;> cases told
      | _ =>
        rw [request] at told
        cases told
    · exact ih h

/-- **The store is a plain map with deadlines.** Whatever is asked of an empty store, in any order
and after any waits, the replies are those of the plain map. Pairs that are left in the index by
entries that were replaced, moved or removed show in none of them. A time that is told to be left
is never zero. -/
theorem replies_eq_plain (start : Time) (rs : List Timed) :
    replies Backend.serve start .empty rs = replies Plain.serve start .empty rs ∧
      ∀ d, Reply.remaining (some d) ∈ replies Backend.serve start .empty rs → 0 < d := by
  have same := (Backend.Mirrors.empty start).replies rs
  exact ⟨same, fun d told => Plain.remaining_pos_of_mem_replies (same ▸ told)⟩

end Latchkey
