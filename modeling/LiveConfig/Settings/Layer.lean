import LiveConfig.KeyOrder
import LiveConfig.Settings.Basic
import LiveConfig.Toml.Value

/-!
Layers of settings.

A setting remembers where it comes from.  Of two layers the later one wins, but tables are merged
entry by entry.  `Settings.ofLayer` turns a layer into settings, and blames a value that is of the
wrong kind on where it comes from.
-/

namespace LiveConfig

/-- Where a setting comes from. -/
inductive Origin where
  | usual
  | file (path : String)
  /-- Variables whose names begin with the program's own word. -/
  | ownVariables
  /-- Variables with names of their own. -/
  | bootstrap
deriving DecidableEq

/-- A setting that holds a single value. -/
inductive Scalar where
  | text (value : String)
  | bool (value : Bool)
  | unsigned (value : Nat)
  | signed (value : Int)
  | real (value : Binary64Result)
deriving DecidableEq

/-- A setting as it is given, before it is known what it is for. -/
inductive Setting where
  | scalar (origin : Origin) (value : Scalar)
  | list (origin : Origin) (items : List Setting)
  | table (origin : Origin) (entries : List (String × Setting))

namespace Setting

instance : Inhabited Setting := ⟨.list .usual []⟩

/-- Where a setting comes from. -/
def origin : Setting → Origin
  | scalar o _ => o
  | list o _ => o
  | table o _ => o

mutual

/-- A TOML value as a setting. -/
def ofToml (o : Origin) : Toml → Setting
  | .text s => scalar o (.text s)
  | .bool b => scalar o (.bool b)
  | .int i => scalar o (.signed i)
  | .real x => scalar o (.real x)
  | .moment => table o [("moment", scalar o (.text ""))]
  | .list xs => list o (ofTomls o xs)
  | .table _ es => table o (KeyOrder.insertAll [] (ofTomlEntries o es))
  | .tables rows => list o (ofTomlRows o rows)

/-- TOML values as settings. -/
def ofTomls (o : Origin) : List Toml → List Setting
  | [] => []
  | x :: xs => ofToml o x :: ofTomls o xs

/-- TOML entries as settings. -/
def ofTomlEntries (o : Origin) : List (String × Toml) → List (String × Setting)
  | [] => []
  | (k, x) :: es => (k, ofToml o x) :: ofTomlEntries o es

/-- The tables of an array as settings. -/
def ofTomlRows (o : Origin) : List (List (String × Toml)) → List Setting
  | [] => []
  | es :: rows => table o (KeyOrder.insertAll [] (ofTomlEntries o es)) :: ofTomlRows o rows

end

/-! ### Merging -/

mutual

/-- Put a setting over another one. -/
def merge (under : Setting) : Setting → Setting
  | table o es =>
    match under with
    | table _ us => table o (mergeEntries us es)
    | _ => table o es
  | s => s

/-- Put entries over others. -/
def mergeEntries (under : List (String × Setting)) :
    List (String × Setting) → List (String × Setting)
  | [] => under
  | (k, s) :: es =>
    match under.lookup k with
    | some u => mergeEntries (KeyOrder.insert k (merge u s) under) es
    | none => mergeEntries (KeyOrder.insert k s under) es

end

/-- A setting inside tables, one for each key. -/
def nest (o : Origin) : List String → Setting → Setting
  | [], s => s
  | k :: ks, s => table o [(k, nest o ks s)]

/-! ### What a setting is called in messages -/

/-- The kind of a scalar, with its value. -/
def describeScalar : Scalar → String
  | .text s => "string " ++ Text.quoted s
  | .bool b => "bool " ++ toString b
  | .unsigned n => "unsigned int `" ++ toString n ++ "`"
  | .signed i => "signed int `" ++ toString i ++ "`"
  | .real x => "float `" ++ x.text ++ "`"

/-- The kind of a setting. -/
def describe : Setting → String
  | scalar _ v => describeScalar v
  | list _ _ => "sequence"
  | table _ _ => "map"

end Setting

/-! ### Faults -/

/-- A setting of the wrong kind: where it comes from, the keys that lead to it, and what is wrong.
-/
structure SettingFault where
  origin : Origin
  path : List String
  reason : String
deriving DecidableEq

namespace SettingFault

/-- What a layer calls the setting under some keys. -/
def keyText (o : Origin) (path : List String) : String :=
  match o with
  | .usual => ".".intercalate ("default" :: path)
  | .file _ => ".".intercalate ("default" :: path)
  | _ => ".".intercalate (path.map String.toUpper)

/-- The name of a layer. -/
def originText : Origin → String
  | .usual => "settings"
  | .file path => path ++ " TOML file"
  | .ownVariables => "`CFGSYNC_` environment variable(s)"
  | .bootstrap => "environment variable(s)"

/-- The message of a fault. -/
def message (f : SettingFault) : String :=
  f.reason ++ " for key " ++ Text.quoted (keyText f.origin f.path) ++ " in " ++ originText f.origin

/-- A fault inside the setting of a key. -/
def under (key : String) (f : SettingFault) : SettingFault := { f with path := key :: f.path }

end SettingFault

namespace Setting

/-- The fault of a setting that is not of the expected kind. -/
def mismatch (expected : String) (s : Setting) : SettingFault :=
  ⟨s.origin, [], "invalid type: found " ++ s.describe ++ ", expected " ++ expected⟩

/-! ### Settings of known kinds -/

/-- A text. -/
def toText (expected : String) : Setting → Except SettingFault String
  | scalar _ (.text s) => .ok s
  | s => .error (s.mismatch expected)

/-- A number of 64 bits without a sign. -/
def toUnsigned : Setting → Except SettingFault Nat
  | scalar _ (.unsigned n) => .ok n
  | scalar o (.signed i) =>
    if 0 ≤ i then .ok i.toNat
    else .error ⟨o, [], "invalid value " ++ describeScalar (.signed i) ++ ", expected u64"⟩
  | s => .error (s.mismatch "u64")

/-- A field of a record of type `σ`: its key, and how it is put into the record. -/
structure Field (σ : Type) where
  key : String
  set : σ → Setting → Except SettingFault σ

/-- A field of a known kind. -/
def Field.of {σ α : Type} (key : String) (get : Setting → Except SettingFault α) (put : σ → α → σ) :
    Field σ := ⟨key, fun x s => do return put x (← get s)⟩

/-- Put the entries of a table into a record. -/
def setEntries {σ : Type} (fields : List (Field σ)) :
    List (String × Setting) → σ → Except SettingFault σ
  | [], x => .ok x
  | (k, s) :: es, x =>
    match fields.find? (·.key = k) with
    | none => setEntries fields es x
    | some f => do setEntries fields es (← (f.set x s).mapError (·.under k))

/-- Put the items of a list into a record, field by field. -/
def setItems {σ : Type} : List (Field σ) → Nat → List Setting → σ → Except SettingFault σ
  | f :: fs, i, s :: ss, x => do
    setItems fs (i + 1) ss (← (f.set x s).mapError (·.under (toString i)))
  | _, _, _, x => .ok x

/-- A record, starting from `x`. -/
def toRecord {σ : Type} (title : String) (fields : List (Field σ)) (x : σ) :
    Setting → Except SettingFault σ
  | table _ es => setEntries fields es x
  | list _ items => setItems fields 0 items x
  | s => .error (s.mismatch title)

end Setting

/-! ### Settings from a layer -/

/-- The settings of the remote store. -/
def RemoteSettings.ofLayer : Setting → Except SettingFault RemoteSettings :=
  Setting.toRecord "struct RemoteSettings"
    [ .of "url" (Setting.toText "a string") fun s x => { s with url := some x },
      .of "key" (Setting.toText "a string") fun s x => { s with key := some x },
      .of "token" (Setting.toText "a string") fun s x => { s with token := some x },
      .of "request_timeout_secs" Setting.toUnsigned fun s x => { s with requestTimeout := x }]
    .usual

/-- The settings of the watch. -/
def WatchSettings.ofLayer : Setting → Except SettingFault WatchSettings :=
  Setting.toRecord "struct WatchSettings"
    [ .of "wait_secs" Setting.toUnsigned fun s x => { s with wait := x },
      .of "retry_backoff_secs" Setting.toUnsigned fun s x => { s with rest := x }]
    .usual

/-- The settings. -/
def Settings.ofLayer : Setting → Except SettingFault Settings :=
  Setting.toRecord "struct Settings"
    [ .of "section" (Setting.toText "a string") fun s x => { s with sectionName := some x },
      .of "local_path" (Setting.toText "path string") fun s x => { s with localPath := x },
      .of "runtime_config_path" (Setting.toText "path string") fun s x =>
        { s with runtimePath := some x },
      .of "secrets_path" (Setting.toText "path string") fun s x => { s with secretsPath := x },
      .of "remote" RemoteSettings.ofLayer fun s x => { s with remote := x },
      .of "watch" WatchSettings.ofLayer fun s x => { s with watch := x }]
    .usual

/-- The usual settings as the lowest layer. -/
def Setting.usual : Setting :=
  let text := fun s => Setting.scalar .usual (.text s)
  let number := fun n => Setting.scalar .usual (.unsigned n)
  .table .usual
    [ ("local_path", text Settings.usual.localPath),
      ("remote", .table .usual
        [("request_timeout_secs", number Settings.usual.remote.requestTimeout)]),
      ("secrets_path", text Settings.usual.secretsPath),
      ("watch", .table .usual
        [("retry_backoff_secs", number Settings.usual.watch.rest),
          ("wait_secs", number Settings.usual.watch.wait)])]

end LiveConfig
