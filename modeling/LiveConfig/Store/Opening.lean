import LiveConfig.Remote.Http
import LiveConfig.Store.Connect

/-!
Opening the configuration that settings describe.

With the address and the key of a remote store the document comes from there, and a local file only
seeds it.  Without them the local file is the document, and if there is none the store stays empty.
-/

namespace LiveConfig

namespace Store

/-- Accept bytes that come from nowhere in particular. -/
def loadBytes (s : Store) (raw : Bytes) : Except ConfigError Store := s.load "bytes" raw

/-- Accept the contents of a file. -/
def loadFile (s : Store) (path : String) (files : Files) : Except ConfigError Store :=
  match files.read path with
  | .ok raw => s.load path raw
  | .error f => .error (.load path f.message)

end Store

/-- How a configuration is opened. -/
inductive Opening where
  /-- The store is there already. -/
  | here (store : Store)
  /-- It comes out of a conversation with a remote store. -/
  | remote (client : Client) (conversation : Exchange (Except ConfigError Connected))

namespace Settings

/-- The store of a local file, or the empty one. -/
def openLocal (s : Settings) (files : Files) : Except ConfigError Store :=
  match s.localSource files with
  | some path => (Store.empty s.activeSection).loadFile path files
  | none => .ok (.empty s.activeSection)

/-- How the configuration of some settings is opened. -/
def opening (s : Settings) (files : Files) : Except ConfigError Opening := do
  s.validate
  match s.remote.url, s.remote.key with
  | some _, some key =>
    let client ← Client.ofSettings s.remote
    return .remote client
      (Exchange.connect Client.storeName key s.activeSection (s.localSource files) files
        s.watch.options)
  | _, _ => return .here (← s.openLocal files)

end Settings

end LiveConfig
