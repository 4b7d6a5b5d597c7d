import LiveConfig.Error
import LiveConfig.Files
import LiveConfig.Text.Quoted
import LiveConfig.Url.Reader
import LiveConfig.Watch.Poll

/-!
Where a configuration comes from.

`Settings.validate` says which settings are good: the address of the remote store is a web address,
its key is not blank, no time is zero, and a request may take longer than a poll waits.
-/

namespace LiveConfig

/-- How the remote store is reached. -/
structure RemoteSettings where
  url : Option String
  key : Option String
  token : Option String
  /-- How long a request may take, in seconds. -/
  requestTimeout : Nat
deriving DecidableEq

/-- How the remote key is watched. -/
structure WatchSettings where
  /-- How long a poll waits, in seconds. -/
  wait : Nat
  /-- How long the watch rests after a failure, in seconds. -/
  rest : Nat
deriving DecidableEq

/-- Where a configuration comes from. -/
structure Settings where
  sectionName : Option String
  /-- The file that is looked for first. -/
  localPath : String
  /-- The file that is looked for next. -/
  runtimePath : Option String
  /-- The file that is looked for if there is no such path. -/
  secretsPath : String
  remote : RemoteSettings
  watch : WatchSettings
deriving DecidableEq

namespace RemoteSettings

/-- No remote store. -/
def usual : RemoteSettings := ⟨none, none, none, 1800⟩

/-- How long a request may take. -/
def timeout (r : RemoteSettings) : Span := .ofSeconds r.requestTimeout

/-- The settings on one line, without the token. -/
def describe (r : RemoteSettings) : String :=
  "RemoteSettings \x7b url: " ++ Text.quotedOption r.url ++ ", key: " ++ Text.quotedOption r.key
    ++ ", token: " ++ Text.quotedOption (r.token.map fun _ => "[REDACTED]")
    ++ ", request_timeout_secs: " ++ toString r.requestTimeout ++ " \x7d"

end RemoteSettings

namespace WatchSettings

/-- Polls wait for ten minutes and rest for ten seconds. -/
def usual : WatchSettings := ⟨600, 10⟩

/-- The options of a watch. -/
def options (w : WatchSettings) : WatchOptions := ⟨.ofSeconds w.wait, .ofSeconds w.rest⟩

end WatchSettings

/-- The scheme of an address that is no web address, or what is wrong with it. -/
def checkWebUrl (url : String) : Except ConfigError Unit :=
  match Url.read url with
  | .error f => .error (.settings ("Invalid remote URL '" ++ url ++ "': " ++ f.message))
  | .ok (.other scheme) =>
    .error (.settings ("Remote URL must use http or https scheme, got: " ++ scheme))
  | .ok (.web _) => .ok ()

namespace Settings

/-- The settings of somebody who has set nothing. -/
def usual : Settings where
  sectionName := none
  localPath := "configuration.json"
  runtimePath := none
  secretsPath := "/run/secrets/configuration.json"
  remote := .usual
  watch := .usual

/-- Whether a remote store is used. -/
def isRemote (s : Settings) : Bool := s.remote.url.isSome && s.remote.key.isSome

/-- The active section.  The empty one is none. -/
def activeSection (s : Settings) : Option String := s.sectionName.filter (· ≠ "")

/-- Fail with a message unless a condition holds. -/
def require (condition : Bool) (message : String) : Except ConfigError Unit :=
  if condition then .ok () else .error (.settings message)

/-- What the settings have to be like. -/
def validate (s : Settings) : Except ConfigError Unit := do
  match s.remote.url with
  | some url => checkWebUrl url
  | none => pure ()
  require (s.remote.key.all fun k => !(Text.strip k).isEmpty) "Remote key must not be empty"
  require (0 < s.watch.wait) "watch.wait_secs must be greater than 0"
  require (0 < s.watch.rest) "watch.retry_backoff_secs must be greater than 0"
  require (!s.isRemote || s.watch.wait < s.remote.requestTimeout)
    ("remote.request_timeout_secs (" ++ toString s.remote.requestTimeout
      ++ ") must exceed watch.wait_secs (" ++ toString s.watch.wait ++ ")")

/-- The local file: the first one, or else the next one. -/
def localSource (s : Settings) (files : Files) : Option String :=
  if files.contains s.localPath then some s.localPath
  else
    let next := s.runtimePath.getD s.secretsPath
    if files.contains next then some next else none

end Settings

end LiveConfig
