import LiveConfig.Number.Reading

/-!
TOML values.
-/

namespace LiveConfig

/-- How a table came to be, which decides who may add to it. -/
inductive TableKind where
  /-- It has a header of its own. -/
  | header
  /-- It is named on the way to another header. -/
  | implied
  /-- It is named on the way to the key of an entry. -/
  | dotted
  /-- It is written between braces. -/
  | inline
deriving DecidableEq

/-- A TOML value. -/
inductive Toml where
  | text (value : String)
  | bool (value : Bool)
  | int (value : Int)
  | real (value : Binary64Result)
  /-- A date, a time of day, or both. -/
  | moment
  | list (items : List Toml)
  | table (kind : TableKind) (entries : List (String × Toml))
  /-- The tables of an array, each with a header. -/
  | tables (rows : List (List (String × Toml)))

namespace Toml

instance : Inhabited Toml := ⟨.moment⟩

/-- The entries of a table. -/
abbrev Entries := List (String × Toml)

/-- Replace the value of a key. -/
def replace (key : String) (value : Toml) : Entries → Entries
  | [] => []
  | (k, v) :: es => if k = key then (k, value) :: es else (k, v) :: replace key value es

end Toml

end LiveConfig
