import LiveConfig.CommandLine.Commands
import LiveConfig.Watch.Loop

/-!
Stores and watches side by side, over one remote store in memory and on a clock of milliseconds.

A session holds everything that there is at a moment: the remote store, the stores with their
callbacks and subscribers, and what goes on in the background, which is a list of tasks in the order
in which they were started.  The only server is one that cannot be reached.
-/

namespace LiveConfig

/-- A store with everything that hangs on it. -/
structure LiveStore where
  store : Store
  /-- The callback that is told of changes. -/
  callback : Option String
  channel : Channel
  /-- The task of its watch, until that has been shut down. -/
  watch : Option Nat

/-- Where the values go that a watch delivers. -/
inductive Target where
  | store (id : Nat)
  | watcher (id : Nat)
deriving DecidableEq

/-- A watch of a key for its own sake. -/
structure Watcher where
  task : Nat
  /-- The delivered values that nobody has asked for yet. -/
  seen : List Bytes
  /-- Whether somebody still holds the watch. -/
  held : Bool

/-- How far a read in the background has come. -/
inductive Reading where
  | fresh (key : String) (query : Option Query)
  | waiting (waiter : Waiter) (since : Nat)
  | answered (answer : ReadAnswer) (took : Nat)
  /-- The answer has been fetched. -/
  | fetched

/-- How far the watch command has come. -/
inductive Following where
  | fresh
  /-- Subscribed to the store, with so many of its events received. -/
  | subscribed (next : Nat)
  | finished

/-- The watch command over a store. -/
structure Follower where
  store : Nat
  state : Following
  output : Output

/-- What runs in the background. -/
inductive Task where
  | watch (loop : WatchLoop) (target : Target)
  | read (reading : Reading)
  | follow (follower : Follower)

/-- What is handed to a callback. -/
structure Call where
  callback : String
  changes : List Change

/-- Everything there is at a moment. -/
structure Session where
  now : Nat
  memory : Memory
  tasks : Array Task
  stores : Array LiveStore
  /-- The store in use. -/
  current : Option Nat
  /-- Another handle that is kept. -/
  kept : Option Nat
  watchers : Array Watcher
  /-- The tasks of the reads in the background. -/
  reads : Array Nat
  /-- Subscribers: the store, and how many of its events have been received. -/
  subscribers : Array (Nat × Nat)
  /-- The calls of callbacks that nobody has asked for yet. -/
  calls : List Call
  /-- The task of the watch command. -/
  command : Option Nat
  files : Files
  env : Environment

namespace Session

/-- The beginning of a session. -/
def start (files : Files) (env : Environment) : Session where
  now := 0
  memory := .empty
  tasks := #[]
  stores := #[]
  current := none
  kept := none
  watchers := #[]
  reads := #[]
  subscribers := #[]
  calls := []
  command := none
  files
  env

/-! ### Parts of a session -/

/-- Change a store. -/
def modifyStore (s : Session) (id : Nat) (f : LiveStore → LiveStore) : Session :=
  { s with stores := s.stores.modify id f }

/-- Change a task. -/
def modifyTask (s : Session) (id : Nat) (f : Task → Task) : Session :=
  { s with tasks := s.tasks.modify id f }

/-- The watch command that has not finished yet, with its task. -/
def follower? (s : Session) : Option (Nat × Follower) := do
  let id ← s.command
  match s.tasks[id]? with
  | some (.follow f) =>
    match f.state with
    | .finished => none
    | _ => some (id, f)
  | _ => none

/-- Whether somebody holds a store. -/
def isHeld (s : Session) (id : Nat) : Bool :=
  s.current == some id || s.kept == some id || (s.follower?.map (·.2.store)) == some id

/-- Whether a task has ended. -/
def hasEnded (s : Session) (task : Nat) : Bool :=
  match s.tasks[task]? with
  | some (.watch l _) => l.isEnded
  | _ => true

/-- Whether a store follows its remote key. -/
def isWatching (s : Session) (id : Nat) : Bool :=
  match s.stores[id]? with
  | some l => l.watch.any fun task => !s.hasEnded task
  | none => false

/-- Tell the loop of a watch to stop. -/
def stopTask (s : Session) (task : Nat) : Session :=
  s.modifyTask task fun
    | .watch l t => .watch l.stop t
    | t => t

/-- Give up what nobody holds any more: its watch stops and its subscribers hear no more. -/
def release (s : Session) : Session :=
  (List.range s.stores.size).foldl (fun s id =>
    if s.isHeld id then s
    else
      match s.stores[id]? with
      | none => s
      | some l =>
        let s := s.modifyStore id fun l => { l with watch := none, channel := l.channel.close }
        match l.watch with
        | some task => s.stopTask task
        | none => s) s

/-- Tell everything that waits for the remote store that something has happened to it. -/
def wakeAll (s : Session) : Session :=
  { s with tasks := s.tasks.map fun
    | .watch l t => .watch l.wake t
    | .read (.waiting w since) => .read (.waiting w.wake since)
    | t => t }

/-- Do something to the remote store that everything hears of that waits for it. -/
def change (s : Session) (m : Memory) : Session := { s with memory := m }.wakeAll

end Session

end LiveConfig
