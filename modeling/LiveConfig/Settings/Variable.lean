import LiveConfig.Environment
import LiveConfig.Settings.Layer
import LiveConfig.Toml.Word

/-!
Settings from environment variables.

The value of a variable may be a truth value, a number, a text between quotes, a list or a table; if
it is none of these it is a text.  The name of a variable is the key of the setting, with two
underscores or a point between the keys of nested tables.
-/

namespace LiveConfig.Setting

/-! ### Values -/

/-- A blank around a value. -/
def isSpace (c : Char) : Bool :=
  c == ' ' || c == '\t' || c == '\n' || c == '\x0c' || c == '\r'

/-- The text after its blanks. -/
def skipSpaces (cs : List Char) : List Char := cs.dropWhile isSpace

/-- What ends a value without quotes. -/
def isDelimiter (c : Char) : Bool := [',', '\x7b', '\x7d', '[', ']'].contains c

/-- An integer of 64 bits without or with a sign. -/
def integer? (s : String) : Option Scalar :=
  let (minus, ds) := takeSign s.toList
  if ds.isEmpty ∨ !ds.all Char.isDigit then none
  else
    let n := digitsValue ds
    if minus then (if n ≤ 2 ^ 63 then some (.signed (-n)) else none)
    else if n < 2 ^ 64 then some (.unsigned n) else none

/-- A word without quotes.  Only a number with a point is a real number. -/
def ofWord (s : String) : Scalar :=
  let real := if s.toList.contains '.' then Binary64Result.read? s else none
  match real with
  | some x => .real x
  | none => (integer? s).getD (.text s)

/-- A text between double quotes, after the first of them, with its escapes. -/
def quotedText (cs : List Char) : Option (String × List Char) :=
  Toml.basicText (cs.length + 1) [] cs

/-- The items of a list after its opening bracket. -/
def takeItems (item : List Char → Option (Setting × List Char)) :
    Nat → List Char → Option (List Setting × List Char)
  | 0, _ => none
  | fuel + 1, cs =>
    match cs with
    | ']' :: r => some ([], r)
    | cs => do
      let (x, r) ← item cs
      match r with
      | ',' :: r => do
        let (xs, r) ← takeItems item fuel r
        return (x :: xs, r)
      | ']' :: r => return ([x], r)
      | _ => none

/-- The key of an entry. -/
def takeKey (cs : List Char) : Option (String × List Char) :=
  match cs with
  | '"' :: r => quotedText r
  | cs =>
    let name := cs.takeWhile Toml.isBare
    if name.isEmpty then none else some (String.ofList name, cs.drop name.length)

/-- The entries of a table after its opening brace. -/
def takeEntries (item : List Char → Option (Setting × List Char)) :
    Nat → List Char → Option (List (String × Setting) × List Char)
  | 0, _ => none
  | fuel + 1, cs =>
    match cs with
    | '\x7d' :: r => some ([], r)
    | cs => do
      let (k, r) ← takeKey (skipSpaces cs)
      match skipSpaces r with
      | '=' :: r => do
        let (x, r) ← item r
        match r with
        | ',' :: r => do
          let (es, r) ← takeEntries item fuel r
          return ((k, x) :: es, r)
        | '\x7d' :: r => return ([(k, x)], r)
        | _ => none
      | _ => none

/-- A value with the blanks around it, at most `fuel` characters deep. -/
def takeValue (o : Origin) : Nat → List Char → Option (Setting × List Char)
  | 0, _ => none
  | fuel + 1, cs =>
    let value := match skipSpaces cs with
      | 't' :: 'r' :: 'u' :: 'e' :: r => some (scalar o (.bool true), r)
      | 'f' :: 'a' :: 'l' :: 's' :: 'e' :: r => some (scalar o (.bool false), r)
      | '\x7b' :: r =>
        (takeEntries (fun cs => takeValue o fuel cs) (r.length + 1) r).map fun (es, r) =>
          (table o (KeyOrder.insertAll [] es), r)
      | '[' :: r =>
        (takeItems (fun cs => takeValue o fuel cs) (r.length + 1) r).map fun (xs, r) =>
          (list o xs, r)
      | '"' :: r => (quotedText r).map fun (s, r) => (scalar o (.text s), r)
      | '\'' :: c :: '\'' :: r => some (scalar o (.text c.toString), r)
      | '\'' :: _ => none
      | r =>
        let word := r.takeWhile (!isDelimiter ·)
        some (scalar o (ofWord (Text.strip (String.ofList word))), r.drop word.length)
    value.map fun (x, r) => (x, skipSpaces r)

/-- The value of a variable. -/
def ofVariable (o : Origin) (raw : String) : Setting :=
  match takeValue o (raw.length + 1) raw.toList with
  | some (x, []) => x
  | _ => scalar o (.text raw)

/-! ### Names -/

/-- Put points for pairs of underscores. -/
def pointed : List Char → List Char
  | '_' :: '_' :: r => '.' :: pointed r
  | c :: r => c :: pointed r
  | [] => []

/-- What follows a word at the front of a name, in which capitals do not count. -/
def afterWord? (word name : List Char) : Option (List Char) :=
  if (word.map Char.toLower).isPrefixOf (name.map Char.toLower) then some (name.drop word.length)
  else none

/-- The word in front of the program's own variables. -/
def ownWord : String := "CFGSYNC_"

/-- The keys of a variable of the program's own. -/
def ownKey? (name : String) : Option (List Char) :=
  (afterWord? ownWord.toList name.toList).map pointed

/-- Variables with names of their own, and the settings they stand for. -/
def bootstrapKeys : List (String × String) :=
  [("consulurl", "remote.url"), ("consulconfigkey", "remote.key"),
    ("runtimeconfigpath", "runtime_config_path")]

/-- The keys of a variable with a name of its own. -/
def bootstrapKey? (name : String) : Option (List Char) :=
  (bootstrapKeys.lookup (String.ofList (name.toList.map Char.toLower))).map String.toList

/-- The keys between the points, in small letters; none of them may be empty. -/
def keysOf? (key : List Char) : Option (List String) :=
  let name := Text.strip (String.ofList (key.map Char.toLower))
  let keys := Text.pieces '.' name
  if keys.any (·.isEmpty) then none else some keys

/-- The layer of the variables whose names `key?` turns into keys.  Of two variables for the same
setting the later one wins. -/
def ofEnvironment (o : Origin) (key? : String → Option (List Char)) (env : Environment) : Setting :=
  env.entries.foldl (fun layer (name, value) =>
    match (key? (Text.strip (Utf8.lossy name))).bind keysOf? with
    | some keys => layer.merge (nest o keys (ofVariable o (Utf8.lossy value)))
    | none => layer) (table o [])

end LiveConfig.Setting
