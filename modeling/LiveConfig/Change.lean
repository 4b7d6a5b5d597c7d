import LiveConfig.Json.Printer
import LiveConfig.Json.Record

/-!
Changes between two documents, and what subscribers are told.
-/

namespace LiveConfig

/-- What became of a name. -/
inductive ChangeKind where
  | added
  | updated
  | deleted
deriving DecidableEq

namespace ChangeKind

/-- The name of a kind. -/
def name : ChangeKind → String
  | added => "added"
  | updated => "updated"
  | deleted => "deleted"

/-- The kind with a name. -/
def ofName? (n : String) : Option ChangeKind := [added, updated, deleted].find? (·.name = n)

end ChangeKind

/-- The change of one name.  A deleted name has no value. -/
structure Change where
  name : String
  value : Option Json
  kind : ChangeKind

namespace Change

/-- A name that is new. -/
def added (name : String) (value : Json) : Change := ⟨name, some value, .added⟩

/-- A name with another value than before. -/
def updated (name : String) (value : Json) : Change := ⟨name, some value, .updated⟩

/-- A name that is gone. -/
def deleted (name : String) : Change := ⟨name, none, .deleted⟩

/-- A change on one line. -/
def display (c : Change) : String :=
  c.kind.name ++ " " ++ c.name ++
    match c.value with
    | some v => " -> " ++ v.compact
    | none => ""

/-! ### JSON form -/

/-- The JSON value of a change. -/
def toJson (c : Change) : Json :=
  .map [("name", .text c.name), ("value", c.value.getD .null), ("operation", .text c.kind.name)]

/-- The names of all kinds. -/
def kindNames : List String := [ChangeKind.added, .updated, .deleted].map (·.name)

/-- A kind by its name. -/
def readKind (s : Bytes) : Except Json.Fault (ChangeKind × Bytes) := do
  let (n, r) ← Json.expectVariant kindNames s
  return ((ChangeKind.ofName? n).getD .added, r)

/-- The value inside of a change. -/
def readValue (s : Bytes) : Except Json.Fault (Option Json × Bytes) := do
  let (v, r) ← Json.optional (Json.readValue (Json.maxLevels - 1)) s
  return (v.map Json.sorted, r)

/-- The fields of a change. -/
def layout : Json.Layout Change where
  title := "struct ChangeDetails"
  fields := [
    .of "name" (Json.expectText "a string") (fun c name => { c with name }) false false,
    .of "value" readValue (fun c value => { c with value }) true false,
    .of "operation" readKind (fun c kind => { c with kind }) false false]

/-- Read a change. -/
def read? (s : Bytes) : Except Json.Fault Change :=
  Json.readWhole (layout.read ⟨"", none, .added⟩) s

end Change

/-- What subscribers of a store are told. -/
inductive Event where
  /-- A remote value was installed as a generation and differs visibly from the one before. -/
  | changed (generation : Nat) (changes : List Change)
  /-- A remote value was no document. -/
  | rejected (reason : String)

/-- The changes of an event. -/
def Event.changes : Event → List Change
  | changed _ cs => cs
  | rejected _ => []

end LiveConfig
