import LiveConfig.Session.Clock
import LiveConfig.Settings.Loader
import LiveConfig.Store.Opening

/-!
The stores of a session: opening one, handing it on and letting it go.

A store that is opened takes the place of the one in use, which is given up unless another handle
keeps it.  A store that cannot be opened leaves the one in use where it is.
-/

namespace LiveConfig

namespace Session

/-! ### Opening -/

/-- Use a store, with the watch of its remote key. -/
def adopt (s : Session) (store : Store) (poll : Option Poll) : Session :=
  let id := s.stores.size
  let watch := poll.map fun _ => s.tasks.size
  let tasks := match poll with
    | some p => s.tasks.push (.watch (.start p) (.store id))
    | none => s.tasks
  { s with
    tasks
    stores := s.stores.push ⟨store, none, .open_, watch⟩
    current := some id }.release

/-- Use a store that can be opened. -/
def adoptResult (s : Session) : Except ConfigError Store → Except ConfigError Unit × Session
  | .ok store => (.ok (), s.adopt store none)
  | .error e => (.error e, s)

/-- Use an empty store. -/
def openEmpty (s : Session) (sectionName : Option String) : Session :=
  s.adopt (.empty sectionName) none

/-- Use the store of some bytes. -/
def openBytes (s : Session) (sectionName : Option String) (raw : Bytes) :
    Except ConfigError Unit × Session :=
  s.adoptResult ((Store.empty sectionName).loadBytes raw)

/-- Use the store of a file. -/
def openFile (s : Session) (sectionName : Option String) (path : String) :
    Except ConfigError Unit × Session :=
  s.adoptResult ((Store.empty sectionName).loadFile path s.files)

/-- No server can be reached from a session. -/
def noServer : Request → Reply := fun _ => .refused

/-- Use the store that settings describe. -/
def openSettings (s : Session) (settings : Settings) : Except ConfigError Unit × Session :=
  match settings.opening s.files with
  | .error e => (.error e, s)
  | .ok (.here store) => (.ok (), s.adopt store none)
  | .ok (.remote client conversation) =>
    s.adoptResult ((client.converse noServer conversation).map (·.store))

/-- Use the store that the settings of the surroundings describe. -/
def openUsual (s : Session) : Except ConfigError Unit × Session :=
  match Settings.load none s.files s.env with
  | .ok settings => s.openSettings settings
  | .error e => (.error e, s)

/-- What the store in memory is called, alone and together with another client. -/
def remoteName : Option Foreign → String
  | none => "memory"
  | some _ => "race"

/-- Use a store that follows a key of the store in memory.  Another client may act after the first
read. -/
def connect (s : Session) (key : String) (sectionName localPath : Option String)
    (options : WatchOptions) (foreign : Option Foreign) : Except ConfigError Unit × Session :=
  let conversation :=
    Exchange.connect (remoteName foreign) key sectionName localPath s.files options
  match s.converse conversation foreign with
  | (.ok c, s) => (.ok (), s.adopt c.store (some c.poll))
  | (.error e, s) => (.error e, s)

/-- The value of a key of the store in memory, seeded from a local file if it is absent. -/
def fetchOrSeed (s : Session) (key : String) (localPath : Option String) :
    Except ConfigError Bytes × Session :=
  s.converse (Exchange.fetchOrSeed (remoteName none) key localPath s.files) none

/-! ### The store in use -/

/-- The store in use. -/
def live? (s : Session) : Option LiveStore := s.current.bind (s.stores[·]?)

/-- Whether the store in use follows its remote key. -/
def isFollowing (s : Session) : Bool := s.current.any s.isWatching

/-- The store in use on one line. -/
def describe (s : Session) : String :=
  match s.live? with
  | some l => l.store.describe s.isFollowing
  | none => ""

/-- Change the store in use, which nobody is told of. -/
def reload (s : Session) (f : Store → Except ConfigError Store) :
    Except ConfigError Unit × Session :=
  match s.current, s.live? with
  | some id, some l =>
    match f l.store with
    | .ok store => (.ok (), s.modifyStore id fun l => { l with store })
    | .error e => (.error e, s)
  | _, _ => (.ok (), s)

/-- Tell a callback of the changes of the store in use, in place of the one before. -/
def setCallback (s : Session) (callback : String) : Session :=
  match s.current with
  | some id => s.modifyStore id fun l => { l with callback := some callback }
  | none => s

/-- The calls of callbacks since somebody last asked. -/
def takeCalls (s : Session) : List Call × Session := (s.calls, { s with calls := [] })

/-! ### Handles -/

/-- Keep a second handle of the store in use. -/
def keep (s : Session) : Session := { s with kept := s.current }.release

/-- Use the handle that is kept, and keep the one in use. -/
def swap (s : Session) : Session := { s with current := s.kept, kept := s.current }

/-- Let the handle in use go. -/
def letGo (s : Session) : Session := { s with current := none }.release

/-- Stop the watch of a store and wait for its end. -/
def shutDown (s : Session) (id : Nat) : Session :=
  match (s.stores[id]?).bind (·.watch) with
  | some task => ((s.modifyStore id fun l => { l with watch := none }).stopTask task).settle
  | none => s

/-! ### Subscribers -/

/-- Subscribe to the events of the store in use. -/
def subscribe (s : Session) : Option (Nat × Session) := do
  let id ← s.current
  let l ← s.live?
  let next := l.channel.sent.size
  return (s.subscribers.size, { s with subscribers := s.subscribers.push (id, next) })

/-- What is received of a channel, at most `limit` things, up to its end. -/
def receiveUpTo (c : Channel) : Nat → Nat → List Received × Nat
  | 0, next => ([], next)
  | limit + 1, next =>
    match c.receive next with
    | none => ([], next)
    | some (.closed, next) => ([.closed], next)
    | some (r, next) =>
      let (rs, last) := receiveUpTo c limit next
      (r :: rs, last)

/-- What a subscriber receives now, at most `limit` things. -/
def receive (s : Session) (subscriber : Nat) (limit : Option Nat) :
    Option (List Received × Session) := do
  let (id, next) ← s.subscribers[subscriber]?
  let l ← s.stores[id]?
  let (rs, next) := receiveUpTo l.channel (limit.getD (l.channel.sent.size + 2)) next
  return (rs, { s with subscribers := s.subscribers.modify subscriber fun _ => (id, next) })

end Session

end LiveConfig
