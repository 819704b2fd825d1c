import Mathlib.Data.String.Basic
import Mathlib.Data.List.Nodup
import Latchkey.Named

namespace Latchkey.Named

variable {α : Type}

/-- The names increase strictly. -/
def Sorted (m : Named α) : Prop := m.Pairwise fun p q => p.1 < q.1

theorem mem_insert {name : String} {value : α} {m : Named α} {p : String × α}
    (h : p ∈ insert name value m) : p = (name, value) ∨ p ∈ m := by
  fun_induction insert name value m with
  | case1 => simpa using h
  | case2 => simpa using h
  | case3 => grind
  | case4 => grind

theorem sorted_insert {m : Named α} (h : Sorted m) (name : String) (value : α) :
    Sorted (insert name value m) := by
  fun_induction insert name value m with
  | case1 => simp [Sorted]
  | case2 other held rest before =>
    refine List.pairwise_cons.mpr ⟨fun p hp => ?_, h⟩
    rcases List.mem_cons.mp hp with rfl | hp
    · exact before
    · exact before.trans (List.rel_of_pairwise_cons h hp)
  | case3 held rest _ => exact List.pairwise_cons.mpr (List.pairwise_cons.mp h)
  | case4 other held rest notBefore differ ih =>
    obtain ⟨first, rest_sorted⟩ := List.pairwise_cons.mp h
    refine List.pairwise_cons.mpr ⟨fun p hp => ?_, ih rest_sorted⟩
    rcases mem_insert hp with rfl | hp
    · exact lt_of_le_of_ne (not_lt.mp notBefore) (Ne.symm differ)
    · exact first p hp

theorem mem_erase {name : String} {m : Named α} {p : String × α} (h : p ∈ erase name m) :
    p ∈ m := by
  fun_induction erase name m with
  | case1 => exact h
  | case2 => exact List.mem_cons_of_mem _ h
  | case3 _ _ _ _ ih =>
    rcases List.mem_cons.mp h with rfl | h
    · exact List.mem_cons_self
    · exact List.mem_cons_of_mem _ (ih h)

theorem sorted_erase {m : Named α} (h : Sorted m) (name : String) : Sorted (erase name m) := by
  fun_induction erase name m with
  | case1 => exact h
  | case2 => exact (List.pairwise_cons.mp h).2
  | case3 other held rest differ ih =>
    obtain ⟨first, rest_sorted⟩ := List.pairwise_cons.mp h
    exact List.pairwise_cons.mpr ⟨fun p hp => first p (mem_erase hp), ih rest_sorted⟩

theorem mem_of_find? {n : String} {m : Named α} {a : α} (h : find? n m = some a) : (n, a) ∈ m := by
  fun_induction find? n m with
  | case1 => cases h
  | case2 => cases h; exact List.mem_cons_self
  | case3 _ _ _ _ ih => exact List.mem_cons_of_mem _ (ih h)

theorem mem_iff_find? {n : String} {m : Named α} (h : Sorted m) {a : α} :
    (n, a) ∈ m ↔ find? n m = some a := by
  constructor
  · intro among
    induction m with
    | nil => cases among
    | cons p rest ih =>
      obtain ⟨other, held⟩ := p
      obtain ⟨first, rest_sorted⟩ := List.pairwise_cons.mp h
      rw [find?]
      rcases List.mem_cons.mp among with here | later
      · cases here
        exact if_pos rfl
      · rw [if_neg (first _ later).ne']
        exact ih rest_sorted later
  · exact mem_of_find?

theorem find?_eq_none_of_lt {n : String} {m : Named α} (h : ∀ p ∈ m, n < p.1) :
    find? n m = none := by
  cases found : find? n m with
  | none => rfl
  | some a => exact absurd (h _ (mem_of_find? found)) (lt_irrefl n)

theorem find?_erase {m : Named α} (h : Sorted m) (n name : String) :
    find? n (erase name m) = if n = name then none else find? n m := by
  induction m with
  | nil => simp [erase, find?]
  | cons p rest ih =>
    obtain ⟨other, held⟩ := p
    obtain ⟨first, rest_sorted⟩ := List.pairwise_cons.mp h
    unfold erase
    split
    · rename_i same
      subst same
      split
      · rename_i same
        subst same
        exact find?_eq_none_of_lt first
      · rename_i differ
        simp [find?, differ]
    · rename_i differ
      simp only [find?, ih rest_sorted]
      by_cases hn : n = other
      · subst hn
        simp [Ne.symm differ]
      · simp [hn]

theorem mem_names {n : String} {m : Named α} : n ∈ names m ↔ (find? n m).isSome := by
  induction m with
  | nil => simp [names, find?]
  | cons p rest ih =>
    simp only [names, List.map_cons, List.mem_cons, find?]
    split
    · simp [*]
    · rename_i differ
      simpa [differ, names] using ih

theorem nodup_names {m : Named α} (h : Sorted m) : (names m).Nodup := by
  rw [names, List.nodup_iff_pairwise_ne, List.pairwise_map]
  exact h.imp fun before => before.ne

theorem sorted_ofList (pairs : List (String × α)) : Sorted (ofList pairs) := by
  have kept : ∀ m : Named α, Sorted m → Sorted (pairs.foldl (fun m p => insert p.1 p.2 m) m) := by
    induction pairs with
    | nil => exact fun _ sorted => sorted
    | cons p pairs ih => exact fun m sorted => ih _ (sorted_insert sorted p.1 p.2)
  exact kept [] List.Pairwise.nil

theorem find?_append (n : String) (front behind : List (String × α)) :
    find? n (front ++ behind) = (find? n front).or (find? n behind) := by
  induction front with
  | nil => rfl
  | cons p front ih =>
    rw [List.cons_append, find?, find?, ih]
    split <;> rfl

/-- Of the pairs that are put in, the last one of a name wins, and it wins over what was there. -/
theorem find?_override (n : String) (m more : Named α) :
    find? n (override m more) = (find? n more.reverse).or (find? n m) := by
  induction more generalizing m with
  | nil => rfl
  | cons p more ih =>
    have first : override m (p :: more) = override (insert p.1 p.2 m) more := rfl
    rw [first, ih, find?_insert, List.reverse_cons, find?_append, Option.or_assoc]
    by_cases here : n = p.1 <;> simp [find?, here]

theorem find?_reverse (n : String) {pairs : List (String × α)} (once : (names pairs).Nodup) :
    find? n pairs.reverse = find? n pairs := by
  induction pairs with
  | nil => rfl
  | cons p pairs ih =>
    obtain ⟨absent, once⟩ := List.nodup_cons.mp once
    rw [List.reverse_cons, find?_append, ih once]
    by_cases here : n = p.1
    · subst here
      have later : find? p.1 pairs = none := by
        rw [← Option.not_isSome_iff_eq_none, ← mem_names]
        exact absent
      simp [find?, later]
    · simp [find?, here]

theorem find?_ofList (n : String) {pairs : List (String × α)} (once : (names pairs).Nodup) :
    find? n (ofList pairs) = find? n pairs := by
  have put : find? n (ofList pairs) = (find? n pairs.reverse).or none := find?_override n [] pairs
  rw [put, Option.or_none, find?_reverse n once]

end Latchkey.Named
