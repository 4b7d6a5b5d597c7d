import LiveConfig.Json.Token
import LiveConfig.Json.Value

/-!
Reading JSON values from bytes.

A container inside 127 others is refused; the number of containers that may still be opened is the
measure of the recursion.  Items and entries come out in the order of the text, so that
`Json.sorted` decides what becomes of repeated keys.
-/

namespace LiveConfig.Json

/-- How many containers may stand one inside the other. -/
def maxLevels : Nat := 127

/-! ### Items and entries -/

/-- What comes next in a container: its closing bracket, which is not passed over, or an item. -/
inductive Next where
  | stop (rest : Bytes)
  | more (rest : Bytes)

/-- What comes next in a list. -/
def nextItem (first : Bool) (s : Bytes) : Except Fault Next :=
  match skipBlanks s with
  | [] => .error (.before .endInList [])
  | b :: r =>
    if b = Ascii.closeBracket then .ok (.stop (b :: r))
    else if first then .ok (.more (b :: r))
    else if b = Ascii.comma then
      match skipBlanks r with
      | [] => .error (.before .endInValue [])
      | c :: r =>
        if c = Ascii.closeBracket then .error (.before .trailingComma r) else .ok (.more (c :: r))
    else .error (.before .expectedListEnd r)

/-- What comes next in a map; more begins with the quote of a key. -/
def nextKey (first : Bool) (s : Bytes) : Except Fault Next :=
  match skipBlanks s with
  | [] => .error (.before .endInObject [])
  | b :: r =>
    if b = Ascii.closeBrace then .ok (.stop (b :: r))
    else if first then
      if b = Ascii.quote then .ok (.more (b :: r)) else .error (.before .keyMustBeText r)
    else if b = Ascii.comma then
      match skipBlanks r with
      | [] => .error (.before .endInValue [])
      | c :: r =>
        if c = Ascii.quote then .ok (.more (c :: r))
        else if c = Ascii.closeBrace then .error (.before .trailingComma r)
        else .error (.before .keyMustBeText r)
    else .error (.before .expectedObjectEnd r)

/-- The colon after a key. -/
def readColon (s : Bytes) : Except Fault (Unit × Bytes) :=
  match skipBlanks s with
  | [] => .error (.before .endInObject [])
  | b :: r => if b = Ascii.colon then .ok ((), r) else .error (.before .expectedColon r)

/-- The items of a list after its opening bracket, and the bytes after its closing one.  At most
`fuel` items are read. -/
def readItems {α : Type} (item : Bytes → Except Fault (α × Bytes)) :
    Nat → Bool → Bytes → Except Fault (List α × Bytes)
  | 0, _, s => .error (.before .endInList s)
  | fuel + 1, first, s => do
    match ← nextItem first s with
    | .stop r => return ([], r.drop 1)
    | .more r =>
      let (x, r) ← item r
      let (xs, r) ← readItems item fuel false r
      return (x :: xs, r)

/-- The entries of a map after its opening brace, and the bytes after its closing one. -/
def readEntries {α : Type} (value : Bytes → Except Fault (α × Bytes)) :
    Nat → Bool → Bytes → Except Fault (List (String × α) × Bytes)
  | 0, _, s => .error (.before .endInObject s)
  | fuel + 1, first, s => do
    match ← nextKey first s with
    | .stop r => return ([], r.drop 1)
    | .more r =>
      let (k, r) ← readText (r.drop 1)
      let ((), r) ← readColon r
      let (x, r) ← value r
      let (es, r) ← readEntries value fuel false r
      return ((k, x) :: es, r)

/-! ### Values -/

/-- A value that is no container, and what follows it.  `b` is its first byte and `r` what follows
this byte. -/
def readScalar (b : UInt8) (r : Bytes) : Except Fault (Json × Bytes) :=
  if b = 0x6E then do
    let ((), r) ← readName afterN r
    return (.null, r)
  else if b = 0x74 then do
    let ((), r) ← readName afterT r
    return (.bool true, r)
  else if b = 0x66 then do
    let ((), r) ← readName afterF r
    return (.bool false, r)
  else if b = Ascii.minus ∨ Ascii.isDigit b then do
    let (n, r) ← readNumber (b :: r)
    return (.number n, r)
  else if b = Ascii.quote then do
    let (s, r) ← readText r
    return (.text s, r)
  else .error (.before .expectedValue r)

/-- A value inside which `levels` containers may still be opened one in the other. -/
def readValue (levels : Nat) (s : Bytes) : Except Fault (Json × Bytes) :=
  match skipBlanks s with
  | [] => .error (.before .endInValue [])
  | b :: r =>
    if b = Ascii.openBracket then
      match levels with
      | 0 => .error (.before .nestedTooDeep r)
      | levels + 1 => do
        let (xs, r) ← readItems (fun s => readValue levels s) (r.length + 1) true r
        return (.list xs, r)
    else if b = Ascii.openBrace then
      match levels with
      | 0 => .error (.before .nestedTooDeep r)
      | levels + 1 => do
        let (es, r) ← readEntries (fun s => readValue levels s) (r.length + 1) true r
        return (.map es, r)
    else readScalar b r

/-! ### Whole texts -/

/-- Nothing but blanks may follow. -/
def finish {α : Type} (result : α × Bytes) : Except Fault α :=
  match skipBlanks result.2 with
  | [] => .ok result.1
  | _ :: r => .error (.before .trailingCharacters r)

/-- Read a whole text with a reader of values. -/
def readWhole {α : Type} (reader : Bytes → Except Fault (α × Bytes)) (s : Bytes) :
    Except Fault α := do
  finish (← reader s)

/-- The value that a text stands for, in canonical form. -/
def read? (s : Bytes) : Except Fault Json := do
  return (← readWhole (readValue maxLevels) s).sorted

/-! ### Shown in messages -/

/-- The kind of a scalar, with its value. -/
def describe : Json → String
  | .null => "null"
  | .bool true => "boolean `true`"
  | .bool false => "boolean `false`"
  | .number (.int i _) => "integer `" ++ toString i ++ "`"
  | .number (.real x) => "floating point `" ++ Number.realNotation.write x ++ "`"
  | .text s => "string " ++ Text.quoted s
  | .list _ => "sequence"
  | .map _ => "map"

/-- The fault of a value that is not of the expected kind.  Of a container only the bracket has been
seen, anything else has been read. -/
def unexpected (expected : String) (b : UInt8) (r : Bytes) : Fault :=
  if b = Ascii.openBracket then .before (.wrongType "sequence" expected) (b :: r)
  else if b = Ascii.openBrace then .before (.wrongType "map" expected) (b :: r)
  else
    match readScalar b r with
    | .ok (v, r) => .before (.wrongType v.describe expected) r
    | .error f => f

/-- The entries of the map that a text must be, in the order of the text. -/
def readMap (s : Bytes) : Except Fault (Entries × Bytes) :=
  match skipBlanks s with
  | [] => .error (.before .endInValue [])
  | b :: r =>
    if b = Ascii.openBrace then
      readEntries (readValue (maxLevels - 1)) (r.length + 1) true r
    else .error (unexpected "a map" b r)

end LiveConfig.Json

namespace LiveConfig

/-- The document that a text stands for.  Its root must be a map. -/
def Document.read? (s : Bytes) : Except Json.Fault Document := do
  return .ofEntries (← Json.readWhole Json.readMap s)

end LiveConfig
