import LiveConfig.Text.Utf8

/-!
Environment variables.
-/

namespace LiveConfig

/-- The environment of a program: lines of the form `NAME=value`. -/
structure Environment where
  lines : List Bytes

namespace Environment

/-- The sign between the name and the value of a variable. -/
def separator : UInt8 := 0x3D

/-- The environment with the given variables. -/
def ofVariables (vs : List (Bytes × Bytes)) : Environment :=
  ⟨vs.map fun (name, value) => name ++ separator :: value⟩

/-- The value in the first line that begins with `name=`.  No variable has an empty name. -/
def find? (env : Environment) (name : String) : Option Bytes :=
  let start := Utf8.encode name ++ [separator]
  if name.isEmpty then none
  else (env.lines.find? start.isPrefixOf).map (·.drop start.length)

/-- The value of a variable, if it is a text. -/
def text? (env : Environment) (name : String) : Option String :=
  (env.find? name).bind Utf8.decode?

/-- Names and values.  A name has at least one byte, even if that is the separator. -/
def entries (env : Environment) : List (Bytes × Bytes) :=
  env.lines.filterMap fun line =>
    match line with
    | [] => none
    | b :: r =>
      match r.dropWhile (· ≠ separator) with
      | [] => none
      | _ :: value => some (b :: r.takeWhile (· ≠ separator), value)

end Environment

end LiveConfig
