import LiveConfig.Settings.Variable
import LiveConfig.Toml.Reader

/-!
Loading settings: the usual ones, a file over them, and environment variables over both.

Without a file there is a layer of nothing in its place; but a file that is there counts, and if it
cannot be read or is no TOML, no settings are loaded.
-/

namespace LiveConfig

/-- The file that settings are read from unless another one is named. -/
def settingsFile : String := "cfgsync.toml"

/-- The layer of a file that is called `source`. -/
def fileLayer (source : String) (content : Except FileFault Bytes) : Except ConfigError Setting :=
  let failed := fun (reason : String) => ConfigError.settings
    ("Settings error: " ++ reason ++ " in " ++ SettingFault.originText (.file source))
  match content with
  | .error f => .error (failed (f.message ++ "\n"))
  | .ok bytes =>
    match Utf8.decode? bytes with
    | none => .error (failed "stream did not contain valid UTF-8\n")
    | some text =>
      match Toml.read? text with
      | none => .error (failed "TOML parse error\n")
      | some es => .ok (.ofToml (.file source) (.table .header es))

namespace Files

/-- Where the settings file under a path is, if anything is there.  That may be a directory: then
the next file is taken that the path leads to from a directory above. -/
def settingsLocation? (files : Files) (path : String) : Option Location :=
  if files.contains path then
    (Location.candidates files.here path).find? fun p => files.hasFile p.path
  else none

/-- The layer of the settings file under a path, which is empty if there is none. -/
def settingsLayer (files : Files) (path : String) : Except ConfigError Setting :=
  match files.settingsLocation? path with
  | some p => fileLayer (p.describe files.here) (files.read p.path)
  | none => .ok (.table (.file path) [])

end Files

namespace Settings

/-- Settings from the layer of a file, with the variables over it. -/
def extract (file : Setting) (env : Environment) : Except ConfigError Settings := do
  let own := Setting.ofEnvironment .ownVariables Setting.ownKey? env
  let bootstrap := Setting.ofEnvironment .bootstrap Setting.bootstrapKey? env
  let layer := ((Setting.usual.merge file).merge own).merge bootstrap
  match Settings.ofLayer layer with
  | .error f => .error (.settings ("Settings error: " ++ f.message))
  | .ok s => do
    s.validate
    return s

/-- Load settings from the file that is named, or else from the usual one if it is there. -/
def load (file : Option String) (files : Files) (env : Environment) : Except ConfigError Settings :=
  match file with
  | some path =>
    if files.contains path then do extract (← files.settingsLayer path) env
    else .error (.settings ("Settings file not found: " ++ path))
  | none => do extract (← files.settingsLayer settingsFile) env

/-- Load settings for a command, which may name a section of its own. -/
def loadFor (file sectionName : Option String) (files : Files) (env : Environment) :
    Except ConfigError Settings := do
  let s ← load file files env
  return { s with sectionName := sectionName.or s.sectionName }

end Settings

end LiveConfig
