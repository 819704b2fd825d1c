import Latchkey.Store

/-!
A store behind accesses that can fail. An access that fails does so before it does anything.
-/

namespace Latchkey

/-- The kinds of access. -/
inductive Op where
  | get
  | set
  | delete
  | incr
  | expire
  | getExpire
  | isLocked
  | setLock
  | unlock
deriving Repr, DecidableEq

namespace Op

def all : List Op := [get, set, delete, incr, expire, getExpire, isLocked, setLock, unlock]

def name : Op → String
  | get => "get"
  | set => "set"
  | delete => "delete"
  | incr => "incr"
  | expire => "expire"
  | getExpire => "get_expire"
  | isLocked => "is_locked"
  | setLock => "set_lock"
  | unlock => "unlock"

end Op

/-- Why an access failed. -/
inductive BackendError where
  /-- Accesses of this kind fail at present. -/
  | down (op : Op)
  /-- The value under the key is no counter. -/
  | notCounter (key : String)
  /-- A reason of somebody else's. -/
  | other (reason : String)
deriving Repr, DecidableEq

def BackendError.message : BackendError → String
  | .down op => op.name ++ " down"
  | .notCounter key => "value at " ++ key ++ " is not an integer"
  | .other reason => reason

/-- A store, and the kinds of access that fail at present. -/
structure Backend where
  store : Store
  down : List Op

/-- What an access gives back, and the backend after it. -/
abbrev Access (α : Type) := Except BackendError α × Backend

namespace Backend

variable {α : Type}

/-- An empty store with every access working. -/
def empty : Backend := ⟨.empty, []⟩

/-- An access of this kind, if it does not fail. -/
def attempt (b : Backend) (op : Op) (access : Store → α × Store) : Access α :=
  if op ∈ b.down then (.error (.down op), b)
  else
    let (answer, store) := access b.store
    (.ok answer, { b with store })

def get (b : Backend) (now : Time) (key : String) : Access (Option Json) :=
  b.attempt .get (Store.get now key)

def set (b : Backend) (now : Time) (key : String) (value : Json) (expire : Option Duration) :
    Access Unit :=
  b.attempt .set fun s => ((), s.set now key value expire)

def delete (b : Backend) (now : Time) (key : String) : Access Bool :=
  b.attempt .delete (Store.delete now key)

def incr (b : Backend) (now : Time) (key : String) : Access Int :=
  match b.attempt .incr (Store.incr now key) with
  | (.ok (some n), b) => (.ok n, b)
  | (.ok none, b) => (.error (.notCounter key), b)
  | (.error e, b) => (.error e, b)

def expire (b : Backend) (now : Time) (key : String) (timeout : Duration) : Access Unit :=
  b.attempt .expire fun s => ((), s.expire now key timeout)

def getExpire (b : Backend) (now : Time) (key : String) : Access (Option Duration) :=
  b.attempt .getExpire (Store.remaining now key)

def isLocked (b : Backend) (now : Time) (key : String) : Access Bool :=
  b.attempt .isLocked (Store.holds now key)

def setLock (b : Backend) (now : Time) (key : String) (value : Json) (expire : Duration) :
    Access Bool :=
  b.attempt .setLock (Store.setLock now key value expire)

def unlock (b : Backend) (now : Time) (key : String) : Access Bool :=
  b.attempt .unlock (Store.delete now key)

end Backend
end Latchkey
