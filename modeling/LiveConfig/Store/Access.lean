import LiveConfig.Convert
import LiveConfig.Environment
import LiveConfig.Lookup
import LiveConfig.Store.Basic

/-!
Asking a configuration for values.

The active section comes before the whole document, and the environment after it.  What is found
first must be of the wanted kind: nothing is looked for any further.
-/

namespace LiveConfig

namespace Store

/-- The value of the document under a path. -/
def resolve (s : Store) (path : String) : Option Json :=
  s.current.document.resolve s.sectionName path

/-- The value under a path, from the document or else from a variable of that name. -/
def scalar {α : Type} (s : Store) (env : Environment) (path : String)
    (ofJson : String → Json → Except ConfigError α)
    (ofText : String → String → Except ConfigError α) : Except ConfigError α :=
  match s.resolve path with
  | some v => ofJson path v
  | none =>
    match env.text? path with
    | some raw => ofText path raw
    | none => .error (.notFound path)

/-- A text. -/
def getText (s : Store) (env : Environment) (path : String) : Except ConfigError String :=
  s.scalar env path Json.toText fun _ raw => .ok raw

/-- An integer of 64 bits. -/
def getInt (s : Store) (env : Environment) (path : String) : Except ConfigError Int :=
  s.scalar env path Json.toInt Variable.toInt

/-- A number. -/
def getFloat (s : Store) (env : Environment) (path : String) : Except ConfigError Binary64Result :=
  s.scalar env path Json.toFloat Variable.toFloat

/-- A truth value. -/
def getBool (s : Store) (env : Environment) (path : String) : Except ConfigError Bool :=
  s.scalar env path Json.toBool Variable.toBool

/-- A list of texts. -/
def getTextList (s : Store) (env : Environment) (path : String) :
    Except ConfigError (List String) :=
  s.scalar env path Json.toTextList fun _ raw => .ok (Variable.toTextList raw)

/-- The entries of a map of the document. -/
def getNested (s : Store) (path : String) : Except ConfigError Json.Entries :=
  match s.resolve path with
  | some v => v.toNested path
  | none => .error (.notFound path)

/-- A map of maps of leaves of the document, the leaves as texts. -/
def getTextMap (s : Store) (path : String) :
    Except ConfigError (List (String × List (String × String))) := do
  Json.textMap path (← s.getNested path)

end Store

/-! ### Values as text -/

/-- The kinds of values that can be asked for by name. -/
inductive ValueKind where
  | text
  | int
  | float
  | bool
  | list
  | nested
deriving DecidableEq

namespace ValueKind

/-- All kinds. -/
def all : List ValueKind := [text, int, float, bool, list, nested]

/-- The name of a kind. -/
def name : ValueKind → String
  | text => "string"
  | int => "int"
  | float => "float"
  | bool => "bool"
  | list => "list"
  | nested => "section"

/-- The kind with a name. -/
def ofName? (n : String) : Option ValueKind := all.find? (·.name = n)

end ValueKind

/-- The value under a path as a text: the items of a list on lines of their own, a map over several
lines. -/
def Store.render (s : Store) (env : Environment) (path : String) :
    ValueKind → Except ConfigError String
  | .text => s.getText env path
  | .int => (s.getInt env path).map toString
  | .float => (s.getFloat env path).map (·.text)
  | .bool => (s.getBool env path).map toString
  | .list => (s.getTextList env path).map ("\n".intercalate ·)
  | .nested => (s.getNested path).map fun es => (Json.map es).pretty

end LiveConfig
