import LiveConfig.Json.Reader

/-!
Passing over a value that nobody asked for.  It may be nested as deep as it likes, its numbers may
be of any size and its text values need not be valid.
-/

namespace LiveConfig.Json

/-! ### Numbers and text values -/

/-- Pass over the exponent of a number, after its letter. -/
def skipExponent (s : Bytes) : Except Fault Bytes :=
  match (takeByteSign s).2 with
  | [] => .error (.before .invalidNumber [])
  | b :: r => if Ascii.isDigit b then .ok (skipDigits 0 r).2 else .error (.before .invalidNumber r)

/-- Pass over an exponent, if there is one. -/
def skipOptionalExponent (s : Bytes) : Except Fault Bytes :=
  match s with
  | [] => .ok []
  | b :: r => if isExponentMark b then skipExponent r else .ok (b :: r)

/-- Pass over what may follow the digits of an integer. -/
def skipAfterInteger (s : Bytes) : Except Fault Bytes :=
  match s with
  | [] => .ok []
  | b :: r =>
    if b = Ascii.point then
      let (count, r) := skipDigits 0 r
      if count = 0 then .error (.behind .invalidNumber r) else skipOptionalExponent r
    else skipOptionalExponent (b :: r)

/-- Pass over a number after its sign. -/
def skipNumber (s : Bytes) : Except Fault Bytes :=
  match s with
  | [] => .error (.before .invalidNumber [])
  | b :: r =>
    if b = Ascii.zero then
      if startsWithDigit r then .error (.behind .invalidNumber r) else skipAfterInteger r
    else if Ascii.isDigit b then skipAfterInteger (skipDigits 0 r).2
    else .error (.before .invalidNumber r)

/-- Pass over an escape after its backslash. -/
def skipEscape (s : Bytes) : Except Fault Bytes :=
  match s with
  | [] => .error (.before .endInText [])
  | b :: r =>
    if [0x22, 0x5C, 0x2F, 0x62, 0x66, 0x6E, 0x72, 0x74].contains b then .ok r
    else if b = 0x75 then do
      let (_, r) ← readHex4 r
      return r
    else .error (.before .invalidEscape r)

/-- Pass over a text value after its opening quote. -/
def skipText : Nat → Bytes → Except Fault Bytes
  | 0, s => .error (.before .endInText s)
  | fuel + 1, s =>
    match s with
    | [] => .error (.before .endInText [])
    | b :: r =>
      if b = Ascii.quote then .ok r
      else if b = Ascii.backslash then do
        let r ← skipEscape r
        skipText fuel r
      else if b < 0x20 then .error (.before .controlCharacter (b :: r))
      else skipText fuel r

/-! ### Values -/

/-- The kinds of containers. -/
inductive Container where
  | list
  | map
deriving DecidableEq

/-- The bracket that ends a container. -/
def Container.closing : Container → UInt8
  | list => Ascii.closeBracket
  | map => Ascii.closeBrace

/-- The text ends inside a container. -/
def Container.cut : Container → Cause
  | list => .endInList
  | map => .endInObject

/-- What should follow an item. -/
def Container.expectedNext : Container → Cause
  | list => .expectedListEnd
  | map => .expectedObjectEnd

/-- Pass over the key and colon in front of an entry of a map; an item of a list has none. -/
def skipKey (c : Container) (s : Bytes) : Except Fault Bytes :=
  match c with
  | .list => .ok s
  | .map =>
    match skipBlanks s with
    | [] => .error (.before .endInObject [])
    | b :: r =>
      if b = Ascii.quote then do
        let r ← skipText (r.length + 1) r
        let ((), r) ← readColon r
        return r
      else .error (.before .keyMustBeText r)

/-- Pass over a value that is no container. -/
def skipScalar (b : UInt8) (r : Bytes) : Except Fault Bytes :=
  if b = 0x6E then (readName afterN r).map (·.2)
  else if b = 0x74 then (readName afterT r).map (·.2)
  else if b = 0x66 then (readName afterF r).map (·.2)
  else if b = Ascii.minus then skipNumber r
  else if Ascii.isDigit b then skipNumber (b :: r)
  else if b = Ascii.quote then skipText (r.length + 1) r
  else .error (.before .expectedValue r)

mutual

/-- Pass over a value inside the given containers, and over what is left of these. -/
def skipWithin : Nat → List Container → Bytes → Except Fault Bytes
  | 0, _, s => .error (.before .endInValue s)
  | fuel + 1, open_, s =>
    match skipBlanks s with
    | [] => .error (.before .endInValue [])
    | b :: r =>
      if b = Ascii.openBracket then skipInside fuel false .list open_ r
      else if b = Ascii.openBrace then skipInside fuel false .map open_ r
      else do
        let r ← skipScalar b r
        match open_ with
        | [] => return r
        | c :: open_ => skipInside fuel true c open_ r

/-- Pass over what is left of the container `c` and of those around it; `started` if an item of it
has been passed over. -/
def skipInside : Nat → Bool → Container → List Container → Bytes → Except Fault Bytes
  | 0, _, _, _, s => .error (.before .endInValue s)
  | fuel + 1, started, c, open_, s =>
    match skipBlanks s with
    | [] => .error (.before c.cut [])
    | b :: r =>
      if b = c.closing then
        match open_ with
        | [] => .ok r
        | d :: open_ => skipInside fuel true d open_ r
      else if started then
        if b = Ascii.comma then do
          let r ← skipKey c r
          skipWithin fuel (c :: open_) r
        else .error (.before c.expectedNext r)
      else do
        let r ← skipKey c (b :: r)
        skipWithin fuel (c :: open_) r

end

/-- Pass over a value. -/
def skipValue (s : Bytes) : Except Fault Bytes := skipWithin (2 * s.length + 2) [] s

end LiveConfig.Json
