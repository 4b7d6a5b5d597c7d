import LiveConfig.Json.Skip

/-!
Records: maps with named fields of given kinds.

A record may also come as the list of its fields in their order.  Unknown keys are passed over; a
field that is missing or given twice is a fault of the whole record.
-/

namespace LiveConfig.Json

/-! ### Values of given kinds -/

/-- A text value. -/
def expectText (expected : String) (s : Bytes) : Except Fault (String × Bytes) :=
  match skipBlanks s with
  | [] => .error (.before .endInValue [])
  | b :: r => if b = Ascii.quote then readText r else .error (unexpected expected b r)

/-- An integer of 64 bits without a sign. -/
def expectUnsigned (s : Bytes) : Except Fault (Nat × Bytes) :=
  match skipBlanks s with
  | [] => .error (.before .endInValue [])
  | b :: r =>
    if b = Ascii.minus ∨ Ascii.isDigit b then do
      let (n, r) ← readNumber (b :: r)
      match n with
      | .int i _ =>
        if 0 ≤ i then return (i.toNat, r)
        else .error (.before (.wrongValue (describe (.number n)) "u64") r)
      | .real _ => .error (.before (.wrongType (describe (.number n)) "u64") r)
    else .error (unexpected "u64" b r)

/-- `null` or a value that `reader` reads. -/
def optional {α : Type} (reader : Bytes → Except Fault (α × Bytes)) (s : Bytes) :
    Except Fault (Option α × Bytes) :=
  match skipBlanks s with
  | [] => do
    let (x, r) ← reader []
    return (some x, r)
  | b :: r =>
    if b = 0x6E then do
      let ((), r) ← readName afterN r
      return (none, r)
    else do
      let (x, r) ← reader (b :: r)
      return (some x, r)

/-- One of some names: a text value, or a map of the name to `null`. -/
def expectVariant (names : List String) (s : Bytes) : Except Fault (String × Bytes) :=
  let known := fun (n : String) (r : Bytes) =>
    if names.contains n then Except.ok (n, r) else .error (Fault.before (.unknownVariant n names) r)
  match skipBlanks s with
  | [] => .error (.before .endInValue [])
  | b :: r =>
    if b = Ascii.quote then do
      let (n, r) ← readText r
      known n r
    else if b = Ascii.openBrace then do
      let (n, r) ← expectText "variant identifier" r
      let (n, r) ← known n r
      let ((), r) ← readColon r
      match skipBlanks r with
      | [] => .error (.before .endInValue [])
      | b :: r =>
        if b = 0x6E then do
          let ((), r) ← readName afterN r
          match skipBlanks r with
          | [] => .error (.before .endInObject [])
          | b :: r =>
            if b = Ascii.closeBrace then return (n, r)
            else .error (.before .expectedValue (b :: r))
        else .error (unexpected "unit" b r)
    else .error (.before .expectedValue r)

/-- A list of values. -/
def expectList {α : Type} (item : Bytes → Except Fault (α × Bytes)) (s : Bytes) :
    Except Fault (List α × Bytes) :=
  match skipBlanks s with
  | [] => .error (.before .endInValue [])
  | b :: r =>
    if b = Ascii.openBracket then readItems item (r.length + 1) true r
    else .error (unexpected "a sequence" b r)

/-! ### Records -/

/-- A field of records of type `σ`. -/
structure Field (σ : Type) where
  name : String
  /-- Read the field into a record. -/
  read : σ → Bytes → Except Fault (σ × Bytes)
  /-- Whether a map may lack the field. -/
  optional : Bool
  /-- Whether a list may end before the field. -/
  atEnd : Bool

/-- A field that `reader` reads and `set` puts into a record. -/
def Field.of {σ α : Type} (name : String) (reader : Bytes → Except Fault (α × Bytes))
    (set : σ → α → σ) (optional atEnd : Bool) : Field σ where
  name
  read x s := do
    let (v, r) ← reader s
    return (set x v, r)
  optional
  atEnd

/-- What a kind of records is called, and its fields. -/
structure Layout (σ : Type) where
  title : String
  fields : List (Field σ)

/-- Pass over the brace that ends a map, if it is there. -/
def leaveMap (s : Bytes) : Bytes :=
  match skipBlanks s with
  | [] => []
  | b :: r => if b = Ascii.closeBrace then r else b :: r

/-- Pass over the bracket that ends a list, or over a comma, if it is there. -/
def leaveList (s : Bytes) : Bytes :=
  match skipBlanks s with
  | [] => []
  | b :: r =>
    if b = Ascii.closeBracket then r
    else if b = Ascii.comma then skipBlanks r
    else b :: r

/-- The end of a list of which no more items are wanted. -/
def endList (s : Bytes) : Except Fault (Unit × Bytes) :=
  match skipBlanks s with
  | [] => .error (.before .endInList [])
  | b :: r =>
    if b = Ascii.closeBracket then .ok ((), r)
    else if b = Ascii.comma then
      match skipBlanks r with
      | [] => .error (.before .trailingCharacters [])
      | c :: r =>
        .error (.before (if c = Ascii.closeBracket then .trailingComma else .trailingCharacters) r)
    else .error (.before .trailingCharacters r)

namespace Layout

variable {σ : Type}

/-- Read entries up to the closing brace, which is passed over; the fields `given` have been read.
-/
def readNamed (l : Layout σ) : Nat → List String → Bool → σ → Bytes → Except Fault (σ × Bytes)
  | 0, _, _, _, s => .error (.before .endInObject s)
  | fuel + 1, given, first, x, s => do
    match ← nextKey first s with
    | .stop r =>
      match l.fields.find? fun f => !given.contains f.name && !f.optional with
      | some f => .error (.ofRecord (.missingField f.name) r)
      | none => return (x, r.drop 1)
    | .more r =>
      let (k, r) ← readText (r.drop 1)
      match l.fields.find? (·.name = k) with
      | none =>
        let ((), r) ← readColon r
        let r ← skipValue r
        l.readNamed fuel given false x r
      | some f =>
        if given.contains k then .error (.ofRecord (.duplicateField k) r)
        else
          let ((), r) ← readColon r
          let (x, r) ← f.read x r
          l.readNamed fuel (k :: given) false x r

/-- Read the fields in order; `count` of them have been read. -/
def readInOrder (l : Layout σ) : List (Field σ) → Nat → σ → Bytes → Except Fault (σ × Bytes)
  | [], _, x, s => return (x, s)
  | f :: fs, count, x, s => do
    match ← nextItem (count == 0) s with
    | .stop r =>
      match (f :: fs).findIdx? (!·.atEnd) with
      | none => return (x, r)
      | some i =>
        .error (.ofRecord
          (.wrongLength (count + i)
            (l.title ++ " with " ++ toString l.fields.length ++ " elements")) r)
    | .more r =>
      let (x, r) ← f.read x r
      l.readInOrder fs (count + 1) x r

/-- Read a record, starting from the fields in `x`. -/
def read (l : Layout σ) (x : σ) (s : Bytes) : Except Fault (σ × Bytes) :=
  match skipBlanks s with
  | [] => .error (.before .endInValue [])
  | b :: r =>
    if b = Ascii.openBrace then
      (l.readNamed (r.length + 1) [] true x r).mapError (·.settle leaveMap r)
    else if b = Ascii.openBracket then do
      let (x, r) ← (l.readInOrder l.fields 0 x r).mapError (·.settle leaveList r)
      let ((), r) ← endList r
      return (x, r)
    else .error (unexpected l.title b r)

end Layout

end LiveConfig.Json
