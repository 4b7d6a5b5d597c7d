import LiveConfig.Json.Printer
import LiveConfig.Json.Record
import LiveConfig.Settings.Basic

/-!
Settings as JSON.  What is missing has its usual value, and the token is never written.
-/

namespace LiveConfig

/-- A text that may be `null`. -/
def readOptionalText (expected : String) :
    Bytes → Except Json.Fault (Option String × Bytes) :=
  Json.optional (Json.expectText expected)

/-- A field of settings, which may be missing. -/
def settingsField {σ α : Type} (name : String) (reader : Bytes → Except Json.Fault (α × Bytes))
    (set : σ → α → σ) : Json.Field σ := .of name reader set true true

namespace RemoteSettings

/-- The fields of the settings. -/
def layout : Json.Layout RemoteSettings where
  title := "struct RemoteSettings"
  fields := [
    settingsField "url" (readOptionalText "a string") fun s url => { s with url },
    settingsField "key" (readOptionalText "a string") fun s key => { s with key },
    settingsField "token" (readOptionalText "a string") fun s token => { s with token },
    settingsField "request_timeout_secs" Json.expectUnsigned fun s n =>
      { s with requestTimeout := n }]

/-- The settings as a value, without the token. -/
def toJson (s : RemoteSettings) : Json :=
  .map ((s.url.toList.map fun u => ("url", .text u)) ++ (s.key.toList.map fun k => ("key", .text k))
    ++ [("request_timeout_secs", .ofNat s.requestTimeout)])

end RemoteSettings

namespace WatchSettings

/-- The fields of the settings. -/
def layout : Json.Layout WatchSettings where
  title := "struct WatchSettings"
  fields := [
    settingsField "wait_secs" Json.expectUnsigned fun s wait => { s with wait },
    settingsField "retry_backoff_secs" Json.expectUnsigned fun s rest => { s with rest }]

/-- The settings as a value. -/
def toJson (s : WatchSettings) : Json :=
  .map [("wait_secs", .ofNat s.wait), ("retry_backoff_secs", .ofNat s.rest)]

end WatchSettings

namespace Settings

/-- The fields of the settings. -/
def layout : Json.Layout Settings where
  title := "struct Settings"
  fields := [
    settingsField "section" (readOptionalText "a string") fun s x => { s with sectionName := x },
    settingsField "local_path" (Json.expectText "path string") fun s x => { s with localPath := x },
    settingsField "runtime_config_path" (readOptionalText "path string") fun s x =>
      { s with runtimePath := x },
    settingsField "secrets_path" (Json.expectText "path string") fun s x =>
      { s with secretsPath := x },
    settingsField "remote" (RemoteSettings.layout.read .usual) fun s remote => { s with remote },
    settingsField "watch" (WatchSettings.layout.read .usual) fun s watch => { s with watch }]

/-- Read settings. -/
def read? (s : Bytes) : Except Json.Fault Settings := Json.readWhole (layout.read .usual) s

/-- The settings as a value. -/
def toJson (s : Settings) : Json :=
  .map ((s.sectionName.toList.map fun x => ("section", .text x))
    ++ [("local_path", .text s.localPath)]
    ++ (s.runtimePath.toList.map fun x => ("runtime_config_path", .text x))
    ++ [("secrets_path", .text s.secretsPath), ("remote", s.remote.toJson),
      ("watch", s.watch.toJson)])

end Settings

end LiveConfig
