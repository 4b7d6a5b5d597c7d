import LiveConfig.CommandLine.Arguments
import LiveConfig.Settings.Loader

/-!
Running a command.

The settings and a command make a `Job`: what is printed, a conversation with the remote store that
ends with it, or a connection that has to be followed.  A run that fails prints one error, and its
exit status tells failures and misuse apart.  The texts of help and of misuse are left short.
-/

namespace LiveConfig

/-- What a run leaves behind. -/
structure Outcome where
  status : Nat
  output : Output
deriving DecidableEq

namespace Outcome

/-- What a run has printed, or the error that it has ended with. -/
def ofResult : Except ConfigError Output → Outcome
  | .ok o => ⟨0, o⟩
  | .error e => ⟨1, Output.empty.error e.message⟩

/-- The name of the program and its version. -/
def versionText : String := "cfgsync 0.1.0"

/-- How the program is used. -/
def usage : List String :=
  ["Section-aware configuration with remote live reload", "",
    "Usage: cfgsync [OPTIONS] <COMMAND>", "",
    "Commands:",
    "  get <PATH> [--as <KIND>]  Resolve a single value",
    "  show [--pretty]           Print the current document",
    "  watch                     Print every change until Ctrl-C",
    "  push <FILE>               Validate a local document and write it to the remote key", "",
    "Options:",
    "  -s, --section <SECTION>    Section whose keys override global keys",
    "      --settings <SETTINGS>  Settings file (defaults to ./cfgsync.toml when present)",
    "      --verbose              Say more",
    "  -q, --quiet                Say less",
    "  -h, --help                 Print help",
    "  -V, --version              Print version"]

/-- What is left behind if no command is run. -/
def ofHalt : Halt → Outcome
  | .help => ⟨0, usage.foldl Output.value .empty⟩
  | .version => ⟨0, Output.empty.value versionText⟩
  | .misuse => ⟨2, { Output.empty with err := "\n".intercalate usage ++ "\n" }⟩

end Outcome

/-- What there is to do. -/
inductive Job where
  /-- Print something. -/
  | print (output : Output)
  /-- Hold a conversation with a remote store, and print what it ends with. -/
  | ask (client : Client) (conversation : Exchange (Except ConfigError Output))
  /-- Connect to a remote store, and follow the changes. -/
  | follow (client : Client) (conversation : Exchange (Except ConfigError Connected))

/-- Go on with a store, wherever it comes from. -/
def Opening.ask (o : Opening) (f : Store → Except ConfigError Output) : Except ConfigError Job :=
  match o with
  | .here store => (f store).map .print
  | .remote client conversation =>
    .ok (.ask client (do
      match ← conversation with
      | .ok c => return f c.store
      | .error e => return .error e))

/-- Follow a store, if it comes from a remote store. -/
def Opening.follow : Opening → Job
  | .here _ => .print Output.empty.nothingToWatch
  | .remote client conversation => .follow client conversation

/-- What a command has to do under some settings. -/
def Command.job (c : Command) (s : Settings) (files : Files) (env : Environment) :
    Except ConfigError Job := do
  match c with
  | .get path kind => (← s.opening files).ask fun store => store.printValue env path kind
  | .display pretty => (← s.opening files).ask fun store => .ok (store.printDocument pretty)
  | .watch => return (← s.opening files).follow
  | .push file =>
    let p ← Push.prepare s file files
    return .ask p.client p.conversation

/-- The files that a command may read under some settings. -/
def Command.sources (c : Command) (s : Settings) : List String :=
  match c with
  | .push file => [file]
  | _ => [s.localPath, s.runtimePath.getD s.secretsPath]

namespace Invocation

/-- The file that the settings are read from. -/
def settingsSource (i : Invocation) : String := i.settings.getD settingsFile

/-- What an invocation has to do. -/
def job (i : Invocation) (files : Files) (env : Environment) : Except ConfigError Job := do
  i.command.job (← Settings.loadFor i.settings i.sectionName files env) files env

/-- Run an invocation against a server that answers requests by `send`.  Following ends at once. -/
def run (i : Invocation) (files : Files) (env : Environment) (send : Request → Reply) : Outcome :=
  .ofResult do
    match ← i.job files env with
    | .print o => return o
    | .ask client conversation => client.converse send conversation
    | .follow client conversation =>
      let _ ← client.converse send conversation
      return Output.empty.watchStarted.watchStopped

end Invocation

/-- Run the program. -/
def runProgram (arguments : List String) (files : Files) (env : Environment)
    (send : Request → Reply) : Outcome :=
  match Invocation.read arguments with
  | .ok i => i.run files env send
  | .error h => .ofHalt h

end LiveConfig
