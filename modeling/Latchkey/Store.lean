import Latchkey.Json.Value
import Latchkey.Time

/-!
Values with deadlines, kept by key.

Beside the entries stands an index of deadlines, earliest first. A pair of the index may be stale:
its key has another deadline by now, or none, or is gone. Every access first drops the entries
whose deadline has come, from the front of the index, and skips stale pairs on the way.
-/

namespace Latchkey

/-- What is kept under one key. -/
structure Entry where
  value : Json
  deadline : Option Time

/-- A deadline and the key it was set for. -/
abbrev Due := Time × String

/-- Deadlines in order: by time, and at one time by key. -/
def Due.before (a b : Due) : Bool := decide (a.1 < b.1) || (a.1 == b.1 && decide (a.2 < b.2))

/-- A pair put into an index, each pair once. -/
def Due.insert (d : Due) : List Due → List Due
  | [] => [d]
  | e :: rest =>
    if Due.before d e then d :: e :: rest
    else if d = e then e :: rest
    else e :: Due.insert d rest

/-- Entries by key, and the index of deadlines. -/
structure Store where
  entries : Named Entry
  deadlines : List Due

namespace Store

/-- Nothing kept. -/
def empty : Store := ⟨[], []⟩

/-- The entries without the one that a due pair stands for, unless the pair is stale. -/
def drop (d : Due) (entries : Named Entry) : Named Entry :=
  match Named.find? d.2 entries with
  | some e => if e.deadline = some d.1 then Named.erase d.2 entries else entries
  | none => entries

/-- The pairs due at `now` taken from the front of the index, and their entries dropped. -/
def purgeFrom (now : Time) (entries : Named Entry) : List Due → Store
  | [] => ⟨entries, []⟩
  | d :: rest => if now < d.1 then ⟨entries, d :: rest⟩ else purgeFrom now (drop d entries) rest

/-- Every entry whose deadline has come dropped. -/
def purge (now : Time) (s : Store) : Store := purgeFrom now s.entries s.deadlines

/-- What is kept under a key right after dropping what is due. -/
def entry? (s : Store) (key : String) : Option Entry := Named.find? key s.entries

/-- An entry written over what was there; an earlier deadline stays behind in the index. -/
def write (key : String) (value : Json) (deadline : Option Time) (s : Store) : Store :=
  { entries := Named.insert key ⟨value, deadline⟩ s.entries
    deadlines := match deadline with
      | some t => Due.insert (t, key) s.deadlines
      | none => s.deadlines }

/-- The value under a key. -/
def get (now : Time) (key : String) (s : Store) : Option Json × Store :=
  let s := s.purge now
  ((s.entry? key).map Entry.value, s)

/-- A value put under a key, for a time or for good. The deadline is taken to be an instant that a
clock can show. -/
def set (now : Time) (key : String) (value : Json) (expire : Option Duration) (s : Store) : Store :=
  (s.purge now).write key value (expire.map (now + ·))

/-- A key removed; whether there was something. -/
def delete (now : Time) (key : String) (s : Store) : Bool × Store :=
  let s := s.purge now
  ((s.entry? key).isSome, { s with entries := Named.erase key s.entries })

/-- A counter raised by one; a new one starts at 1 and stays for good. Nothing is returned, and
nothing changed, where the value is no counter. Counters are taken to stay below `2 ^ 63`. -/
def incr (now : Time) (key : String) (s : Store) : Option Int × Store :=
  let s := s.purge now
  match s.entry? key with
  | none => (some 1, s.write key (.int 1) none)
  | some e =>
    match e.value.count? with
    | none => (none, s)
    | some n =>
      (some (n + 1), { s with entries := Named.insert key ⟨.int (n + 1), e.deadline⟩ s.entries })

/-- The deadline of an entry moved; where there is no entry nothing happens. The new deadline is
taken to be an instant that a clock can show. -/
def expire (now : Time) (key : String) (timeout : Duration) (s : Store) : Store :=
  let s := s.purge now
  match s.entry? key with
  | none => s
  | some e => s.write key e.value (some (now + timeout))

/-- The time that an entry has left, if it has a deadline. -/
def remaining (now : Time) (key : String) (s : Store) : Option Duration × Store :=
  let s := s.purge now
  (((s.entry? key).bind Entry.deadline).map (· - now), s)

/-- Whether there is something under a key. -/
def holds (now : Time) (key : String) (s : Store) : Bool × Store :=
  let s := s.purge now
  ((s.entry? key).isSome, s)

/-- A value put under a key for a time, unless there is something; whether it was put there. The
deadline is taken to be an instant that a clock can show. -/
def setLock (now : Time) (key : String) (value : Json) (expire : Duration) (s : Store) :
    Bool × Store :=
  let s := s.purge now
  match s.entry? key with
  | some _ => (false, s)
  | none => (true, s.write key value (some (now + expire)))

/-- How many entries there are. -/
def size (now : Time) (s : Store) : Nat × Store :=
  let s := s.purge now
  (s.entries.length, s)

end Store
end Latchkey
