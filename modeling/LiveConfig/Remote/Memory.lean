import LiveConfig.Remote.Exchange

/-!
A remote store in memory.

Every write has an index of its own, and an entry carries the index of its last one, so that an
entry that is deleted and created again never gets an old index back.  The store can be made
unavailable, and a number of writes can be made to fail.

A `Waiter` is a read that waits for a change: it looks at the store, is parked while the index of
its key is the one it knows, and looks again when it is woken.  Every operation on the store wakes
all waiters.
-/

namespace LiveConfig

/-- A remote store in memory. -/
structure Memory where
  entries : List (String × Pair)
  /-- How many writes and deletions have taken effect. -/
  index : Nat
  available : Bool
  /-- How many writes are still to fail. -/
  failing : Nat
  /-- How many writes have taken effect. -/
  puts : Nat

namespace Memory

/-- The store without entries. -/
def empty : Memory := ⟨[], 0, true, 0, 0⟩

/-- The key under which an entry is kept: slashes in front of it do not count. -/
def normalKey (key : String) : String := String.ofList (key.toList.dropWhile (· = '/'))

/-- The error of a store that is not available. -/
def unavailable : ConfigError := .transport "memory store unavailable"

/-- The error of a write that is made to fail. -/
def injected : ConfigError := .transport "injected PUT failure"

/-- The entry of a key. -/
def current (m : Memory) (key : String) : Option Pair := m.entries.lookup (normalKey key)

/-- The index of a key, zero if it has no entry. -/
def indexOf (m : Memory) (key : String) : Nat := ((m.current key).map (·.modifyIndex)).getD 0

/-- Replace the entry of a key or add it. -/
def setEntry (key : String) (p : Pair) : List (String × Pair) → List (String × Pair)
  | [] => [(key, p)]
  | (k, q) :: es => if k = key then (key, p) :: es else (k, q) :: setEntry key p es

/-- The entry after a write with an index. -/
def written (key : String) (value : Bytes) (index : Nat) : Option Pair → Pair
  | none => ⟨key, index, index, 0, 0, value, none⟩
  | some p => { p with modifyIndex := index, value }

/-- Read a key without waiting. -/
def read (m : Memory) (key : String) : ReadAnswer :=
  if m.available then .ok (m.current key) else .error unavailable

/-- Write the value of a key. -/
def put (m : Memory) (key : String) (value : Bytes) : WriteAnswer × Memory :=
  if !m.available then (.error unavailable, m)
  else if 0 < m.failing then (.error injected, { m with failing := m.failing - 1 })
  else
    let k := normalKey key
    let p := written k value (m.index + 1) (m.entries.lookup k)
    (.ok (),
      { m with entries := setEntry k p m.entries, index := m.index + 1, puts := m.puts + 1 })

/-- Delete a key.  Only a deletion that removes an entry takes an index. -/
def delete (m : Memory) (key : String) : WriteAnswer × Memory :=
  if !m.available then (.error unavailable, m)
  else
    let k := normalKey key
    match m.entries.lookup k with
    | none => (.ok (), m)
    | some _ =>
      (.ok (), { m with entries := m.entries.filter (·.1 ≠ k), index := m.index + 1 })

/-- Make the store available or not. -/
def setAvailable (m : Memory) (available : Bool) : Memory := { m with available }

/-- Let the next writes fail. -/
def failPuts (m : Memory) (count : Nat) : Memory := { m with failing := count }

end Memory

/-! ### Waiting reads -/

/-- A read that waits until the index of a key differs from the one it knows, or until the deadline,
a time in milliseconds. -/
structure Waiter where
  key : String
  index : Nat
  deadline : Nat
  /-- The entry that was there when the waiter last looked. -/
  seen : Option Pair
  /-- Whether something has happened to the store since then. -/
  woken : Bool

/-- How far a waiting read has come. -/
inductive Waiting where
  | answered (answer : ReadAnswer)
  | parked (waiter : Waiter)

namespace Waiter

/-- Look at the store: an index that is not the known one is an answer. -/
def look (w : Waiter) (m : Memory) : Waiting :=
  if !m.available then .answered (.error Memory.unavailable)
  else if m.indexOf w.key ≠ w.index then .answered (.ok (m.current w.key))
  else .parked { w with seen := m.current w.key, woken := false }

/-- Tell the waiter that something has happened to the store. -/
def wake (w : Waiter) : Waiter := { w with woken := true }

/-- Go on at a time: a waiter that has been woken looks again, and one that is parked at its
deadline answers what it has seen. -/
def resume (w : Waiter) (m : Memory) (now : Nat) : Waiting :=
  let result := if w.woken then w.look m else .parked w
  match result with
  | .answered a => .answered a
  | .parked w => if w.deadline ≤ now then .answered (.ok w.seen) else .parked w

end Waiter

/-- Read a key with a query at a time. -/
def Memory.ask (m : Memory) (key : String) (q : Option Query) (now : Nat) : Waiting :=
  match q.filter (·.index ≠ 0) with
  | none => .answered (m.read key)
  | some q => (Waiter.mk key q.index (now + q.patience.ticks) none true).resume m now

end LiveConfig
