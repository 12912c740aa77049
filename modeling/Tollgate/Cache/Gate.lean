import Tollgate.Table

/-!
Gates: exclusive rights, one per key, handed on first come, first served. The right of a key lies in
a lock that is made when the gate is first asked for. Whoever asks keeps a handle on the lock that
the key has at that moment, and a holder that lets go takes the lock away from the key if no handle
on it is left; the next to ask then gets another lock.

Being handed a gate and acting on it are two moments. A waiter that gives up between them still
passes the gate on, but only a holder that lets go takes an unused lock away.
-/

namespace Tollgate

/-- An exclusive right: free, or held with others waiting in the order in which they asked. -/
inductive Gate (T : Type)
  | free
  | held (holder : T) (waiting : List T)
deriving DecidableEq, Repr

namespace Gate

variable {T : Type}

/-- Who holds the gate. -/
def holder? : Gate T → Option T
  | free => none
  | held h _ => some h

/-- Those who wait, the next in turn first. -/
def waiting : Gate T → List T
  | free => []
  | held _ ws => ws

/-- Asks for the gate: a free one is granted at once. -/
def join (t : T) : Gate T → Gate T
  | free => held t []
  | held h ws => held h (ws ++ [t])

/-- Hands the gate to the next in turn. -/
def pass : Gate T → Gate T
  | free | held _ [] => free
  | held _ (w :: ws) => held w ws

/-- Withdraws from the gate. One that was just handed it passes it on. -/
def leave [DecidableEq T] (t : T) : Gate T → Gate T
  | free => free
  | held h ws => if h = t then pass (held h ws) else held h (ws.filter (· ≠ t))

end Gate

/-- A lock: the right it gives, and the number of handles on it that are kept outside the table of
gates. -/
structure Lock (T : Type) where
  right : Gate T := .free
  handles : Nat := 0

/-- A lock is known by its number. -/
abbrev LockId := Nat

/-- A place at a gate: the key that was asked for, and the lock on which there is a handle. -/
structure Pass (K : Type) where
  key : K
  lock : LockId
deriving DecidableEq

/-- Every lock made so far, and the lock that each key has now. -/
structure Gates (K T : Type) where
  locks : List (Lock T) := []
  table : Table K LockId := {}

namespace Gates

variable {K T : Type}

/-- The number of keys that have a lock. -/
def size (g : Gates K T) : Nat :=
  g.table.size

/-- The lock of a number. -/
def lock (g : Gates K T) (l : LockId) : Lock T :=
  g.locks.getD l {}

/-- Changes one lock. -/
def onLock (g : Gates K T) (l : LockId) (change : Lock T → Lock T) : Gates K T :=
  { g with locks := g.locks.modify l change }

/-- Who holds a lock. -/
def holder? (g : Gates K T) (l : LockId) : Option T :=
  (g.lock l).right.holder?

/-- Whether `t` holds a lock. -/
def isHeldBy [DecidableEq T] (g : Gates K T) (l : LockId) (t : T) : Bool :=
  g.holder? l = some t

/-- Somebody who has not acted on a lock yet gives up, waiting or just handed it. The key keeps the
lock. -/
def abandon [DecidableEq T] (g : Gates K T) (l : LockId) (t : T) : Gates K T :=
  g.onLock l fun lock => { right := lock.right.leave t, handles := lock.handles - 1 }

variable [DecidableEq K]

/-- The lock of a key. A key without one gets a new one. -/
def lockOf (g : Gates K T) (k : K) : LockId × Gates K T :=
  match g.table.get? k with
  | some l => (l, g)
  | none =>
    (g.locks.length, { locks := g.locks ++ [{}], table := g.table.put k g.locks.length })

/-- Asks for the gate of a key, and keeps a handle on its lock. -/
def join (g : Gates K T) (k : K) (t : T) : LockId × Gates K T :=
  let (l, g) := g.lockOf k
  (l, g.onLock l fun lock => { right := lock.right.join t, handles := lock.handles + 1 })

/-- Takes its lock away from a key if no handle on the lock is left. -/
def tidy (g : Gates K T) (k : K) : Gates K T :=
  match g.table.get? k with
  | none => g
  | some l => if (g.lock l).handles = 0 then { g with table := g.table.erase k } else g

/-- The holder of a lock, which it got for this key, lets go of it. -/
def release (g : Gates K T) (k : K) (l : LockId) : Gates K T :=
  Gates.tidy
    (g.onLock l fun lock => { right := lock.right.pass, handles := lock.handles - 1 }) k

end Gates

end Tollgate
