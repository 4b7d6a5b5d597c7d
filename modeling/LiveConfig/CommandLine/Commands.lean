import LiveConfig.CommandLine.Output
import LiveConfig.Store.Access
import LiveConfig.Store.Broadcast
import LiveConfig.Store.Opening

/-!
The commands: asking for a value, showing the document, following its changes, and pushing a file to
the remote key.
-/

namespace LiveConfig

/-- What a user asks for. -/
inductive Command where
  /-- The value under a path. -/
  | get (path : String) (kind : ValueKind)
  /-- The document, on one line or over several. -/
  | display (pretty : Bool)
  /-- The changes of the document as they happen. -/
  | watch
  /-- Write the document in a file to the remote key. -/
  | push (file : String)
deriving DecidableEq

/-! ### Values and documents -/

namespace Store

/-- Print the value under a path. -/
def printValue (s : Store) (env : Environment) (path : String) (kind : ValueKind) :
    Except ConfigError Output :=
  (s.render env path kind).map Output.empty.value

/-- Print the document. -/
def printDocument (s : Store) (pretty : Bool) : Output :=
  let d := s.current.document
  let o := if d.entries.isEmpty then Output.empty.warning "No configuration loaded" else .empty
  let o := o.value (if pretty then d.toJson.pretty else d.toJson.compact)
  match s.sectionName with
  | some name =>
    o.info ("Section '" ++ name ++ "', generation " ++ toString s.current.number)
  | none => o

end Store

/-! ### Following changes -/

namespace Output

/-- The following begins. -/
def watchStarted (o : Output) : Output :=
  o.info "Watching for configuration changes (Ctrl-C to stop)"

/-- The following has ended. -/
def watchStopped (o : Output) : Output := o.success "Watch stopped"

/-- There is nothing to follow. -/
def nothingToWatch (o : Output) : Output :=
  o.warning "Remote store not configured; nothing to watch"

/-- Print what is received at a time of day. -/
def received (o : Output) (time : String) : Received → Output
  | .event e => o.event time e
  | .lagged n => o.warning ("Missed " ++ toString n ++ " event(s)")
  | .closed => o

end Output

/-! ### Pushing -/

/-- A document that is to be written to a remote key. -/
structure Push where
  file : String
  client : Client
  key : String
  document : Bytes

namespace Push

/-- The document in a file. -/
def readDocument (file : String) (files : Files) : Except ConfigError Bytes :=
  match files.read file with
  | .error f => .error (.load file f.message)
  | .ok bytes =>
    match Document.parse bytes with
    | .error m => .error (.load file m)
    | .ok _ => .ok bytes

/-- What is needed for pushing a file: the key, a document, and the address of the remote store. -/
def prepare (s : Settings) (file : String) (files : Files) : Except ConfigError Push := do
  match s.remote.key with
  | none => throw (.settings "Remote key is not configured")
  | some key =>
    let document ← readDocument file files
    let client ← Client.ofSettings s.remote
    return ⟨file, client, key, document⟩

/-- What is printed of an answer. -/
def print (p : Push) : WriteAnswer → Except ConfigError Output
  | .ok () => .ok (Output.empty.success ("Pushed " ++ p.file ++ " to '" ++ p.key ++ "'"))
  | .error e => .error e

/-- Write the document, and print the answer. -/
def conversation (p : Push) : Exchange (Except ConfigError Output) :=
  .write p.key p.document fun a => .done (p.print a)

end Push

end LiveConfig
