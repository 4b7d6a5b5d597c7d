import LiveConfig.Session.Tasks

/-!
The clock of a session, and its conversations with the remote store.

Tasks go on only while something is waited for: then the clock jumps to the next time at which one
of them goes on by itself, and on from there, until what is waited for has come.
-/

namespace LiveConfig

namespace Session

/-! ### Time -/

/-- The next time at which a task goes on by itself. -/
def Task.timer? : Task → Option Nat
  | .watch l _ => l.timer?
  | .read (.waiting w _) => some w.deadline
  | _ => none

/-- The next time after now at which a task goes on by itself. -/
def nextTimer? (s : Session) : Option Nat :=
  ((s.tasks.toList.filterMap Task.timer?).filter (s.now < ·)).min?

/-- Let time pass until `target`, in at most `fuel` jumps. -/
def advanceWithin (target : Nat) : Nat → Session → Session
  | 0, s => s.settle
  | fuel + 1, s =>
    let s := s.settle
    match s.nextTimer?.filter (· ≤ target) with
    | some t => advanceWithin target fuel { s with now := t }
    | none => if s.now < target then { s with now := target }.settle else s

/-- Let time pass until `target`.  Every jump takes at least a millisecond. -/
def advanceTo (s : Session) (target : Nat) : Session := advanceWithin target (target - s.now + 1) s

/-- Let a span of time pass. -/
def sleep (s : Session) (time : Span) : Session := s.advanceTo (s.now + time.ticks)

/-! ### Conversations with the remote store -/

/-- What another client does to a key. -/
inductive Foreign where
  | put (value : Bytes)
  | delete
  | down

/-- Let another client act on a key. -/
def interfere (s : Session) (key : String) : Option Foreign → Session
  | none => s
  | some (.put value) => s.change (s.memory.put key value).2
  | some .delete => s.change (s.memory.delete key).2
  | some .down => s.change (s.memory.setAvailable false)

/-- Write a value. -/
def put (s : Session) (key : String) (value : Bytes) : WriteAnswer × Session :=
  let (a, m) := s.memory.put key value
  (a, s.change m)

/-- Delete a key. -/
def delete (s : Session) (key : String) : WriteAnswer × Session :=
  let (a, m) := s.memory.delete key
  (a, s.change m)

/-- Read a key, and wait for the answer. -/
def read (s : Session) (key : String) (query : Option Query) : ReadAnswer × Session :=
  match s.memory.ask key query s.now with
  | .answered a => (a, s)
  | .parked w => (.ok w.seen, s.advanceTo w.deadline)

/-- Hold a conversation with the remote store.  After the first read another client may act. -/
def converse {α : Type} : Exchange α → Option Foreign → Session → α × Session
  | .done x, _, s => (x, s)
  | .read key next, foreign, s =>
    converse (next (s.memory.read key)) none (s.interfere key foreign)
  | .write key value next, foreign, s =>
    let (a, m) := s.memory.put key value
    converse (next a) foreign (s.change m)
  | .pause time next, foreign, s => converse next foreign (s.sleep time)

end Session

end LiveConfig
