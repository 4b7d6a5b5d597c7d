import LiveConfig.Bootstrap
import LiveConfig.Store.Basic
import LiveConfig.Watch.Poll

/-!
A store that follows a remote key.

The value is fetched or seeded, installed, and only then the watch is started: it reads the key
again and delivers a value that has been written in between.
-/

namespace LiveConfig

/-- A store that has just been connected, and the polling that it goes on with. -/
structure Connected where
  store : Store
  poll : Poll

namespace Exchange

/-- Install the fetched bytes of a key. -/
def installFetched (sectionName : Option String) (key : String) (raw : Bytes) :
    Except ConfigError Store :=
  match (Store.empty sectionName).load key raw with
  | .error e => .error e
  | .ok s =>
    match checkKey key with
    | .error e => .error e
    | .ok () => .ok s

/-- Connect a store to a key. -/
def connect (storeName key : String) (sectionName localPath : Option String) (files : Files)
    (options : WatchOptions) : Exchange (Except ConfigError Connected) := do
  match ← fetchOrSeed storeName key localPath files with
  | .error e => return .error e
  | .ok raw =>
    match installFetched sectionName key raw with
    | .error e => return .error e
    | .ok s =>
      match ← startWatch key (some raw) options with
      | .error e => return .error e
      | .ok w =>
        match w.news with
        | none => return .ok ⟨s, w.poll⟩
        | some v => return .ok ⟨(s.applyRemote v).1, w.poll⟩

end Exchange

end LiveConfig
