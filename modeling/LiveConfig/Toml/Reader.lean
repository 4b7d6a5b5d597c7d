import LiveConfig.Toml.Scalar
import LiveConfig.Toml.Table

/-!
Reading a TOML text.  A text that is none is refused without a reason: where and why it is spoilt is
left out.
-/

namespace LiveConfig.Toml

/-! ### Values -/

/-- The items of a list after its opening bracket, and what follows its closing one. -/
def takeItems (item : List Char → Option (Toml × List Char)) :
    Nat → List Char → Option (List Toml × List Char)
  | 0, _ => none
  | fuel + 1, cs => do
    let r ← skipLines (cs.length + 1) cs
    match r with
    | ']' :: r => return ([], r)
    | r => do
      let (x, r) ← item r
      let r ← skipLines (r.length + 1) r
      match r with
      | ',' :: r => do
        let (xs, r) ← takeItems item fuel r
        return (x :: xs, r)
      | ']' :: r => return ([x], r)
      | _ => none

/-- The entries of a table between braces, of which those in `sofar` have been read. -/
def takeEntries (item : List Char → Option (Toml × List Char)) :
    Nat → Entries → List Char → Option (Entries × List Char)
  | 0, _, _ => none
  | fuel + 1, sofar, cs => do
    let (key, r) ← takeKey maxDepth cs
    match r with
    | '=' :: r => do
      let (v, r) ← item (skipBlanks r)
      let es ← addEntry .inline sofar key v
      match skipBlanks r with
      | ',' :: r => takeEntries item fuel es r
      | '}' :: r => return (es, r)
      | _ => none
    | _ => none

/-- A table between braces, after the first of them. -/
def takeInline (item : List Char → Option (Toml × List Char)) (cs : List Char) :
    Option (Toml × List Char) :=
  match skipBlanks cs with
  | '}' :: r => some (.table .inline [], r)
  | r => (takeEntries item (r.length + 1) [] r).map fun (es, r) => (.table .inline es, r)

/-- A value that is neither a list nor a table. -/
def takeScalar (cs : List Char) : Option (Toml × List Char) :=
  match cs with
  | 't' :: 'r' :: 'u' :: 'e' :: r => some (.bool true, r)
  | 'f' :: 'a' :: 'l' :: 's' :: 'e' :: r => some (.bool false, r)
  | '"' :: _ => (takeText cs).map fun (s, r) => (.text s, r)
  | '\'' :: _ => (takeText cs).map fun (s, r) => (.text s, r)
  | cs => takeNumberOrDate cs

/-- A value in which lists and tables are nested at most `levels` deep. -/
def takeValue (levels : Nat) (cs : List Char) : Option (Toml × List Char) :=
  match cs with
  | '[' :: r =>
    match levels with
    | 0 => none
    | levels + 1 =>
      (takeItems (fun cs => takeValue levels cs) (r.length + 1) r).map fun (xs, r) => (.list xs, r)
  | '\x7b' :: r =>
    match levels with
    | 0 => none
    | levels + 1 => takeInline (fun cs => takeValue levels cs) r
  | cs => takeScalar cs

/-! ### Lines -/

/-- The key of a header, up to its closing brackets. -/
def takeHeader (closing : List Char) (cs : List Char) : Option (List String × List Char) := do
  let (key, r) ← takeKey maxDepth cs
  if closing.isPrefixOf r then return (key, r.drop closing.length) else none

/-- Read a line that is not empty. -/
def readLine (d : Draft) (cs : List Char) : Option (Draft × List Char) :=
  match cs with
  | '[' :: '[' :: r => do
    let (key, r) ← takeHeader [']', ']'] r
    return (← d.openRow key, r)
  | '[' :: r => do
    let (key, r) ← takeHeader [']'] r
    return (← d.openTable key, r)
  | cs => do
    let (key, r) ← takeKey maxDepth cs
    match r with
    | '=' :: r => do
      let (v, r) ← takeValue maxDepth (skipBlanks r)
      return (← d.add key v, r)
    | _ => none

/-- Read lines up to the end of the text. -/
def readLines : Nat → Draft → List Char → Option Draft
  | 0, _, _ => none
  | fuel + 1, d, cs =>
    match skipBlanks cs with
    | [] => some d
    | r =>
      match restOfLine r with
      | some r => readLines fuel d r
      | none => do
        let (d, r) ← readLine d r
        readLines fuel d (← restOfLine r)

/-- The entries of a TOML text, or nothing if it is not well formed.  A byte order mark in front of
it does not count. -/
def read? (text : String) : Option Entries := do
  let cs := match text.toList with
    | '\uFEFF' :: r => r
    | r => r
  (← readLines (cs.length + 1) .empty cs).close

end LiveConfig.Toml
