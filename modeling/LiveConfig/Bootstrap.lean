import LiveConfig.Document
import LiveConfig.Files
import LiveConfig.Remote.Exchange

/-!
Fetching the value of a remote key, or seeding it from a local file.

An existing value is taken as it is.  An absent one is written once: the file must hold a document,
and a write that fails in passing is repeated after growing pauses.
-/

namespace LiveConfig

/-- How often a write that has failed is repeated. -/
def seedRepetitions : Nat := 3

/-- The pauses before the repetitions: half a second, then twice as long each time. -/
def seedPauses : List Span := (List.range seedRepetitions).map fun i => .ofMillis (500 <<< i)

namespace Exchange

/-- Write a value, and repeat it after each of the pauses while the write fails in passing. -/
def writeRepeating (key : String) (value : Bytes) : List Span → Exchange WriteAnswer
  | [] => .write key value .done
  | p :: ps => .write key value fun
    | .error e => if e.isTransient then .pause p (writeRepeating key value ps) else .done (.error e)
    | .ok () => .done (.ok ())

/-- The document in a local file, as bytes. -/
def localDefault (key : String) (localPath : Option String) (files : Files) :
    Except ConfigError Bytes :=
  match localPath with
  | none => .error (.bootstrap key "remote key is absent and no local default configuration exists")
  | some path =>
    match files.read path with
    | .error f =>
      .error (.bootstrap key ("unable to read local default " ++ path ++ ": " ++ f.message))
    | .ok bytes =>
      match Document.parse bytes with
      | .error m => .error (.load path m)
      | .ok _ => .ok bytes

/-- The value of a key on the store called `storeName`, seeded from a local file if it is absent. -/
def fetchOrSeed (storeName key : String) (localPath : Option String) (files : Files) :
    Exchange (Except ConfigError Bytes) :=
  .read key fun
    | .error e =>
      .done (.error (.bootstrap key ("unable to read from " ++ storeName ++ ": " ++ e.message)))
    | .ok (some p) => .done (.ok p.value)
    | .ok none =>
      match localDefault key localPath files with
      | .error e => .done (.error e)
      | .ok bytes => do
        match ← writeRepeating key bytes seedPauses with
        | .ok () => return .ok bytes
        | .error e => return .error (.bootstrap key ("unable to push local default: " ++ e.message))

end Exchange

end LiveConfig
