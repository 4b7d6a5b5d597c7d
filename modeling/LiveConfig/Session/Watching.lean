import LiveConfig.Session.Stores

/-!
What a session follows in the background: watches of a key for its own sake, reads that wait, and
the watch command.
-/

namespace LiveConfig

namespace Session

/-! ### Watches -/

/-- Watch a key of the store in memory, of which a value may be known already. -/
def watch (s : Session) (key : String) (known : Option Bytes) (options : WatchOptions) :
    Except ConfigError Nat × Session :=
  match checkKey key with
  | .error e => (.error e, s)
  | .ok () =>
    match s.converse (Exchange.startWatch key known options) none with
    | (.error e, s) => (.error e, s)
    | (.ok w, s) =>
      let id := s.watchers.size
      (.ok id,
        { s with
          tasks := s.tasks.push (.watch (.start w.poll) (.watcher id))
          watchers := s.watchers.push ⟨s.tasks.size, w.news.toList, true⟩ })

/-- What is known of a watch. -/
structure WatcherState where
  /-- The values that have been delivered since somebody last asked. -/
  seen : List Bytes
  /-- Whether its loop has ended, as far as somebody still holds it. -/
  finished : Option Bool
  /-- Whether its loop has ended. -/
  released : Bool

/-- Ask what is known of a watch. -/
def observe (s : Session) (id : Nat) : Option (WatcherState × Session) := do
  let w ← s.watchers[id]?
  let ended := s.hasEnded w.task
  return (⟨w.seen, if w.held then some ended else none, ended⟩,
    { s with watchers := s.watchers.modify id fun w => { w with seen := [] } })

/-- Let a watch go. -/
def dropWatcher (s : Session) (id : Nat) : Session :=
  { s with watchers := s.watchers.modify id fun w => { w with held := false } }

/-- Stop a watch that somebody holds. -/
def stopWatcher (s : Session) (id : Nat) : Session :=
  match s.watchers[id]? with
  | some w => if w.held then s.stopTask w.task else s
  | none => s

/-- Stop a watch and let it go. -/
def releaseWatcher (s : Session) (id : Nat) : Session := (s.stopWatcher id).dropWatcher id

/-- Stop a watch, let it go and wait for its end. -/
def awaitWatcher (s : Session) (id : Nat) : Session :=
  match s.watchers[id]? with
  | some w => if w.held then (s.releaseWatcher id).settle else s
  | none => s

/-! ### Reads -/

/-- Read a key in the background. -/
def spawnRead (s : Session) (key : String) (query : Option Query) : Nat × Session :=
  (s.reads.size,
    { s with
      tasks := s.tasks.push (.read (.fresh key query))
      reads := s.reads.push s.tasks.size })

/-- Whether a read in the background has got its answer, and the answer with the time that it took,
unless that has been asked for before. -/
def pollRead (s : Session) (id : Nat) : Option ((Bool × Option (ReadAnswer × Nat)) × Session) := do
  let task ← s.reads[id]?
  match s.tasks[task]? with
  | some (.read (.answered a took)) =>
    return ((true, some (a, took)), s.modifyTask task fun _ => .read .fetched)
  | some (.read .fetched) => return ((true, none), s)
  | _ => return ((false, none), s)

/-! ### The watch command -/

/-- Start the watch command over the store in use. -/
def follow (s : Session) : Session :=
  match s.current with
  | none => s
  | some store =>
    { s with
      tasks := s.tasks.push (.follow ⟨store, .fresh, .empty⟩)
      command := some s.tasks.size }

/-- End the watch command, and what it has printed: if it is still under way it shuts its store
down. -/
def endFollow (s : Session) : Output × Session :=
  let s := s.settle
  let finish := fun (s : Session) =>
    match s.command.bind (s.tasks[·]?) with
    | some (.follow f) => (f.output, { s with command := none }.release)
    | _ => (.empty, s)
  match s.follower? with
  | none => finish s
  | some (id, f) =>
    finish ((s.shutDown f.store).modifyTask id fun
      | .follow f => .follow { f with state := .finished, output := f.output.watchStopped }
      | t => t)

end Session

end LiveConfig
