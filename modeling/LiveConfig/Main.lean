import LiveConfig.CommandLine.Run
import LiveConfig.Remote.Wire
import Std.Async.DNS
import Std.Async.Signal
import Std.Async.TCP
import Std.Async.Timer
import Std.Time

/-!
The program: it reads files and variables, talks to servers and prints.  What it does with all of it
is said elsewhere.

Some things are left out.  There are no encrypted connections and no proxies, and a reply that leads
to another address is not followed.  There are no log lines, so that the options which choose among
them are read and have no effect, and no colours.
-/

namespace LiveConfig.Program

open Std.Async Std.Net

/-! ### Files and variables -/

/-- Whether a path leads somewhere, be it to a file that is not to be read. -/
def leads (path : String) : IO Bool := do
  try
    let _ ← IO.FS.realPath path
    return true
  catch _ => return false

/-- Why the system cannot read a file under a path. -/
def faultOf (path : String) : IO.Error → IO FileFault
  | .noFileOrDirectory .. => return .missing
  | .inappropriateType _ code _ =>
    return if code.toInt32.toInt.natAbs = 21 then .directory else .notDirectory
  | e => do
    let message := match e with
      | .permissionDenied .. => "Permission denied (os error 13)"
      | e => toString e
    return if ← leads path then .unreadable message else .other message

/-- Read a file. -/
def readFile (path : String) : IO (Except FileFault Bytes) := do
  try return .ok (← IO.FS.readBinFile path).data.toList
  catch e => return .error (← faultOf path e)

/-- The names of the directories down to the one that the program runs in. -/
def workingDirectory : IO (List String) := return pathNames (toString (← IO.currentDir))

/-- Read some files, as seen from a directory. -/
def readFiles (here : List String) (paths : List String) : IO Files :=
  return { Files.ofList (← paths.mapM fun path => return (path, ← readFile path)) with here }

/-- The lines between zero bytes. -/
def cutLines : Bytes → List Bytes
  | [] => []
  | b :: r =>
    match cutLines r with
    | l :: ls => if b = 0 then [] :: l :: ls else (b :: l) :: ls
    | [] => if b = 0 then [[]] else [[b]]

/-- The environment. -/
def readEnvironment : IO Environment := do
  match ← readFile "/proc/self/environ" with
  | .ok bytes => return ⟨(cutLines bytes).filter fun l => !l.isEmpty⟩
  | .error _ => return ⟨[]⟩

/-! ### Servers -/

/-- The addresses of a host. -/
def addressesOf (host : Url.Host) (port : UInt16) : IO (List SocketAddress) := do
  match host with
  | .ipv4 n =>
    let part := fun (i : Nat) => (n >>> (8 * i)).toUInt8
    return [.v4 ⟨.ofParts (part 3) (part 2) (part 1) (part 0), port⟩]
  | .ipv6 ps =>
    let part := fun (i : Nat) => (ps.getD i 0).toUInt16
    return [.v6 ⟨.ofParts (part 0) (part 1) (part 2) (part 3) (part 4) (part 5) (part 6) (part 7),
      port⟩]
  | .domain name =>
    let found ← (DNS.getAddrInfo name "").block
    return found.toList.map fun
      | .v4 a => .v4 ⟨a, port⟩
      | .v6 a => .v6 ⟨a, port⟩

/-- Connect to one of some addresses. -/
def connectTo : List SocketAddress → Async (Option TCP.Socket.Client)
  | [] => return none
  | a :: as => do
    let socket ← TCP.Socket.Client.mk
    try
      socket.connect a
      return some socket
    catch _ => connectTo as

/-- What a server sends until it closes the connection; nothing if that does not come in time. -/
partial def receiveAll (socket : TCP.Socket.Client) (timer : Sleep) (sofar : Bytes) :
    Async (Option Bytes) := do
  let some chunk ← Selectable.one #[
      .case (socket.recvSelector 65536) fun chunk => return some chunk,
      .case timer.selector fun _ => return none]
    | return none
  match chunk with
  | some bytes => receiveAll socket timer (sofar ++ bytes.data.toList)
  | none => return some sofar

/-- Send a request to one of some addresses, and wait for the answer for some time. -/
def exchange (patience : Span) (r : Request) (addresses : List SocketAddress) : Async Reply := do
  match ← connectTo addresses with
  | none => return .refused
  | some socket =>
    try
      socket.send ⟨r.message.toArray⟩
      let timer ← Sleep.mk (.ofNat patience.ticks)
      match ← receiveAll socket timer [] with
      | some bytes => return Wire.readReply bytes
      | none => return .late
    catch _ => return .lost

/-- Send a request, and wait for the answer for some time.  There are no encrypted connections here:
a request that asks for one is lost. -/
def send (patience : Span) (r : Request) : IO Reply := do
  if r.url.secure then return .lost
  try
    let addresses ← addressesOf r.url.host r.port.toUInt16
    (exchange patience r addresses).block
  catch _ => return .refused

/-- Ask for a key. -/
def ask (c : Client) (key : String) (query : Option Query) : IO ReadAnswer := do
  match c.request .get key query [] with
  | some r => return c.readAnswer r (← send c.timeout r)
  | none => return .error Client.requestError

/-- Write a key. -/
def write (c : Client) (key : String) (value : Bytes) : IO WriteAnswer := do
  match c.request .put key none value with
  | some r => return c.writeAnswer r (← send c.timeout r)
  | none => return .error Client.requestError

/-- Let a span of time pass. -/
def rest (time : Span) : IO Unit := IO.sleep time.ticks.toUInt32

/-- Hold a conversation with a server. -/
def converse {α : Type} (c : Client) : Exchange α → IO α
  | .done x => return x
  | .read key next => do converse c (next (← ask c key none))
  | .write key value next => do converse c (next (← write c key value))
  | .pause time next => do
    rest time
    converse c next

/-! ### Commands -/

/-- Print what has been printed. -/
def flush (o : Output) : IO Unit := do
  let out ← IO.getStdout
  let err ← IO.getStderr
  out.putStr o.out
  out.flush
  err.putStr o.err
  err.flush

/-- Follow a key, and print every event. -/
partial def follow (c : Client) (store : Store) (poll : Poll) : IO Unit := do
  match poll.receive (← ask c poll.key (some poll.query)) with
  | (.again, poll) => follow c store poll
  | (.deliver value, poll) =>
    let (store, event) := store.applyRemote value
    match event with
    | some e =>
      let now ← Std.Time.Timestamp.now
      flush (Output.empty.event (Output.timeOfDay now.toSecondsSinceUnixEpoch.val) e)
    | none => pure ()
    follow c store poll
  | (.rest, poll) =>
    rest poll.options.rest
    follow c store poll

/-- Do what there is to do. -/
def work : Job → IO (Except ConfigError Output)
  | .print o => return .ok o
  | .ask c conversation => converse c conversation
  | .follow c conversation => do
    match ← converse c conversation with
    | .error e => return .error e
    | .ok connected =>
      flush Output.empty.watchStarted
      let following ← IO.asTask (follow c connected.store connected.poll) .dedicated
      let signal ← Signal.Waiter.mk .sigint false
      let _ ← (← signal.wait).block
      IO.cancel following
      return .ok Output.empty.watchStopped

/-- Run an invocation. -/
def run (i : Invocation) : IO Outcome := do
  let env ← readEnvironment
  let here ← workingDirectory
  let places := (Location.candidates here i.settingsSource).map (·.path)
  let settings := Settings.loadFor i.settings i.sectionName (← readFiles here places) env
  match settings with
  | .error e => return .ofResult (.error e)
  | .ok settings =>
    match i.command.job settings (← readFiles here (i.command.sources settings)) env with
    | .error e => return .ofResult (.error e)
    | .ok job => return .ofResult (← work job)

end LiveConfig.Program

/-- Run the program. -/
def main (arguments : List String) : IO UInt32 := do
  let outcome ← match LiveConfig.Invocation.read arguments with
    | .ok i => LiveConfig.Program.run i
    | .error h => pure (.ofHalt h)
  LiveConfig.Program.flush outcome.output
  return outcome.status.toUInt32
