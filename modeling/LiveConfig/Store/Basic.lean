import LiveConfig.Diff
import LiveConfig.Document
import LiveConfig.Error
import LiveConfig.Text.Quoted

/-!
A configuration that is replaced as a whole.

A store holds the generation that was accepted last: a document, the bytes that it was read from,
and its number.  Bytes that are no document change nothing.  A value from a remote store is compared
with the generation that it replaces, and makes an event if the difference can be seen.
-/

namespace LiveConfig

/-- A document that has been accepted. -/
structure Generation where
  document : Document
  raw : Bytes
  number : Nat

/-- Before anything has been accepted. -/
def Generation.initial : Generation := ⟨.empty, [], 0⟩

/-- A configuration with its active section. -/
structure Store where
  sectionName : Option String
  current : Generation

namespace Store

/-- The store without a document.  The empty section is none. -/
def empty (sectionName : Option String) : Store := ⟨sectionName.filter (· ≠ ""), .initial⟩

/-- Replace the document. -/
def install (s : Store) (d : Document) (raw : Bytes) : Store :=
  { s with current := ⟨d, raw, s.current.number + 1⟩ }

/-- Accept bytes from a source. -/
def load (s : Store) (source : String) (raw : Bytes) : Except ConfigError Store :=
  match Document.parse raw with
  | .ok d => .ok (s.install d raw)
  | .error m => .error (.load source m)

/-- The visible changes to another document. -/
def changesTo (s : Store) (d : Document) : List Change :=
  diffSections (.of s.current.document s.sectionName) (.of d s.sectionName) s.sectionName

/-- Take over a value from a remote store, and tell what there is to tell. -/
def applyRemote (s : Store) (raw : Bytes) : Store × Option Event :=
  match Document.parse raw with
  | .error m => (s, some (.rejected m))
  | .ok d =>
    let next := s.install d raw
    let changes := s.changesTo d
    (next, if changes.isEmpty then none else some (.changed next.current.number changes))

/-- A store on one line. -/
def describe (s : Store) (watching : Bool) : String :=
  "ConfigStore \x7b section: " ++ Text.quotedOption s.sectionName ++ ", generation: "
    ++ toString s.current.number ++ ", watching: " ++ toString watching ++ " \x7d"

end Store

end LiveConfig
