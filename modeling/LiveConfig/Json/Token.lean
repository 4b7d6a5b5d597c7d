import LiveConfig.Json.Fault
import LiveConfig.Json.Number

/-!
The words of a JSON text: blanks, the three names, numbers and text values.
-/

namespace LiveConfig.Json

/-! ### Blanks and names -/

/-- A blank between the words of a JSON text. -/
def isJsonBlank (b : UInt8) : Bool :=
  b == Ascii.space || b == Ascii.lineFeed || b == Ascii.tab || b == Ascii.carriageReturn

/-- The text after its blanks. -/
def skipBlanks (s : Bytes) : Bytes := s.dropWhile isJsonBlank

/-- The rest of a name whose first letter has been read. -/
def readName : Bytes → Bytes → Except Fault (Unit × Bytes)
  | [], s => .ok ((), s)
  | _ :: _, [] => .error (.before .endInValue [])
  | e :: es, b :: s => if b = e then readName es s else .error (.before .expectedIdent s)

/-- What follows `n` of `null`. -/
def afterN : Bytes := [0x75, 0x6C, 0x6C]

/-- What follows `t` of `true`. -/
def afterT : Bytes := [0x72, 0x75, 0x65]

/-- What follows `f` of `false`. -/
def afterF : Bytes := [0x61, 0x6C, 0x73, 0x65]

/-! ### Numbers -/

/-- Whether the text goes on with a digit. -/
def startsWithDigit : Bytes → Bool
  | b :: _ => Ascii.isDigit b
  | [] => false

/-- The value of a digit. -/
def digitValue (b : UInt8) : Nat := b.toNat - 0x30

/-- Append digits to a number as long as it stays within 64 bits; also how many they were. -/
def appendDigits (n count : Nat) : Bytes → Nat × Nat × Bytes
  | [] => (n, count, [])
  | b :: s =>
    if Ascii.isDigit b ∧ n * 10 + digitValue b < 2 ^ 64 then
      appendDigits (n * 10 + digitValue b) (count + 1) s
    else (n, count, b :: s)

/-- Pass over digits; also how many they were. -/
def skipDigits (count : Nat) : Bytes → Nat × Bytes
  | [] => (count, [])
  | b :: s => if Ascii.isDigit b then skipDigits (count + 1) s else (count, b :: s)

/-- `significand * 10 ^ exponent` in binary64 arithmetic: one product or quotient with a rounded
power of ten, after quotients by `10 ^ 308` while the exponent is below `-308`.  `none` is a result
out of range. -/
def scale (x : Binary64) (exponent : Int) : Nat → Option Binary64
  | 0 => some x
  | fuel + 1 =>
    if exponent.natAbs ≤ 308 then do
      let p ← Binary64.powerOfTen? exponent.natAbs
      if 0 ≤ exponent then x.mul? p else x.div? p
    else if x.mantissa = 0 then some x
    else if 0 ≤ exponent then none
    else do
      let p ← Binary64.powerOfTen? 308
      scale (← x.div? p) (exponent + 308) fuel

/-- The number with a sign that has the given digits and exponent; after the text `s` of it. -/
def realOfParts (negative : Bool) (significand : Nat) (exponent : Int) (s : Bytes) :
    Except Fault (Number × Bytes) :=
  match (Binary64.ofInt? significand).bind (scale · exponent 5) with
  | some x => .ok (.real (if negative then -x else x), s)
  | none => .error (.before .numberOutOfRange s)

/-- The digits of an exponent, of which the first has been read. -/
def exponentDigits (value : Nat) : Bytes → Nat × Bytes
  | [] => (value, [])
  | b :: s =>
    if Ascii.isDigit b then
      if value * 10 + digitValue b < 2 ^ 31 then exponentDigits (value * 10 + digitValue b) s
      else (value * 10 + digitValue b, s)
    else (value, b :: s)

/-- An optional sign (`true` for minus) and what follows it. -/
def takeByteSign : Bytes → Bool × Bytes
  | [] => (false, [])
  | b :: r =>
    if b = Ascii.minus then (true, r)
    else if b = Ascii.plus then (false, r)
    else (false, b :: r)

/-- An exponent after its letter.  One that does not fit 32 bits makes the number zero or out of
range at once. -/
def readExponent (negative : Bool) (significand : Nat) (start : Int) (s : Bytes) :
    Except Fault (Number × Bytes) :=
  let (minus, s) := takeByteSign s
  match s with
  | [] => .error (.before .endInValue [])
  | b :: s =>
    if Ascii.isDigit b then
      let (e, s) := exponentDigits (digitValue b) s
      if e < 2 ^ 31 then
        realOfParts negative significand (if minus then start - e else start + e) s
      else if significand ≠ 0 ∧ !minus then .error (.before .numberOutOfRange s)
      else .ok (.real (if negative then -.zero else .zero), (skipDigits 0 s).2)
    else .error (.before .invalidNumber s)

/-- What an exponent starts with: the letter `e`, small or capital. -/
def isExponentMark (b : UInt8) : Bool := b == 0x65 || b == 0x45

/-- What may follow the digits after the point. -/
def afterFraction (negative : Bool) (significand : Nat) (exponent : Int) (s : Bytes) :
    Except Fault (Number × Bytes) :=
  match s with
  | [] => realOfParts negative significand exponent []
  | b :: r =>
    if isExponentMark b then readExponent negative significand exponent r
    else realOfParts negative significand exponent (b :: r)

/-- The digits after the point.  Those that would not fit 64 bits are passed over. -/
def readFraction (negative : Bool) (significand : Nat) (start : Int) (s : Bytes) :
    Except Fault (Number × Bytes) :=
  let (n, count, r) := appendDigits significand 0 s
  if startsWithDigit r then afterFraction negative n (start - count) (skipDigits 0 r).2
  else if count = 0 then .error (.behind (if r.isEmpty then .endInValue else .invalidNumber) r)
  else afterFraction negative n (start - count) r

/-- The integer `n` with a sign; `-0` and what does not fit 64 bits are reals. -/
def integer (negative : Bool) (n : Nat) (s : Bytes) : Except Fault (Number × Bytes) :=
  if negative then
    if h : 0 < n ∧ n ≤ 2 ^ 63 then .ok (.int (-n) (Number.inRange_neg_natCast h.2), s)
    else realOfParts true n 0 s
  else if h : n < 2 ^ 64 then .ok (.int n (Number.inRange_natCast h), s)
  else realOfParts false n 0 s

/-- What may follow the digits of an integer. -/
def afterInteger (negative : Bool) (n : Nat) (s : Bytes) : Except Fault (Number × Bytes) :=
  match s with
  | [] => integer negative n []
  | b :: r =>
    if b = Ascii.point then readFraction negative n 0 r
    else if isExponentMark b then readExponent negative n 0 r
    else integer negative n (b :: r)

/-- What may follow the digits of an integer beyond 64 bits, of which `exponent` were passed over.
-/
def afterLongInteger (negative : Bool) (n : Nat) (exponent : Int) (s : Bytes) :
    Except Fault (Number × Bytes) :=
  match s with
  | [] => realOfParts negative n exponent []
  | b :: r =>
    if b = Ascii.point then readFraction negative n exponent r
    else if isExponentMark b then readExponent negative n exponent r
    else realOfParts negative n exponent (b :: r)

/-- A number after its sign. -/
def readUnsigned (negative : Bool) (s : Bytes) : Except Fault (Number × Bytes) :=
  match s with
  | [] => .error (.before .endInValue [])
  | b :: r =>
    if b = Ascii.zero then
      if startsWithDigit r then .error (.behind .invalidNumber r) else afterInteger negative 0 r
    else if Ascii.isDigit b then
      let (n, _, r) := appendDigits (digitValue b) 1 r
      if startsWithDigit r then
        let (count, r) := skipDigits 0 r
        afterLongInteger negative n count r
      else afterInteger negative n r
    else .error (.before .invalidNumber r)

/-- A number. -/
def readNumber (s : Bytes) : Except Fault (Number × Bytes) :=
  match s with
  | [] => readUnsigned false []
  | b :: r => if b = Ascii.minus then readUnsigned true r else readUnsigned false (b :: r)

/-! ### Text values -/

/-- Four hexadecimal digits. -/
def readHex4 (s : Bytes) : Except Fault (Nat × Bytes) :=
  match s with
  | a :: b :: c :: d :: r =>
    match Ascii.hexValue? a, Ascii.hexValue? b, Ascii.hexValue? c, Ascii.hexValue? d with
    | some a, some b, some c, some d => .ok (((a * 16 + b) * 16 + c) * 16 + d, r)
    | _, _, _, _ => .error (.before .invalidEscape r)
  | _ => .error (.before .endInText [])

/-- The second of two escapes that stand for one character. -/
def readSecondUnit (first : Nat) (s : Bytes) : Except Fault (Char × Bytes) :=
  match s with
  | [] => .error (.before .endInText [])
  | b :: r =>
    if b ≠ Ascii.backslash then .error (.before .unpairedSurrogate r)
    else
      match r with
      | [] => .error (.before .endInText [])
      | c :: r =>
        if c ≠ 0x75 then .error (.before .unpairedSurrogate r)
        else do
          let (second, r) ← readHex4 r
          if 0xDC00 ≤ second ∧ second ≤ 0xDFFF then
            return (Char.ofNat (0x10000 + (first - 0xD800) * 0x400 + (second - 0xDC00)), r)
          else .error (.before .loneSurrogate r)

/-- The character that an escape stands for, after its backslash. -/
def readEscape (s : Bytes) : Except Fault (Char × Bytes) :=
  match s with
  | [] => .error (.before .endInText [])
  | b :: r =>
    if b = Ascii.quote then .ok ('"', r)
    else if b = Ascii.backslash then .ok ('\\', r)
    else if b = Ascii.slash then .ok ('/', r)
    else if b = 0x62 then .ok ('\x08', r)
    else if b = 0x66 then .ok ('\x0c', r)
    else if b = 0x6E then .ok ('\n', r)
    else if b = 0x72 then .ok ('\r', r)
    else if b = 0x74 then .ok ('\t', r)
    else if b = 0x75 then do
      let (unit, r) ← readHex4 r
      if 0xDC00 ≤ unit ∧ unit ≤ 0xDFFF then .error (.before .loneSurrogate r)
      else if 0xD800 ≤ unit ∧ unit ≤ 0xDBFF then readSecondUnit unit r
      else return (Char.ofNat unit, r)
    else .error (.before .invalidEscape r)

/-- The characters of a text value up to its closing quote, in front of which stand the characters
`sofar` in reverse.  The place of the first byte that belongs to no character is `spoilt`; it
matters only once the closing quote has been found. -/
def readCharacters : Nat → Bytes → List Char → Option Nat → Except Fault (String × Bytes)
  | 0, s, _, _ => .error (.before .endInText s)
  | fuel + 1, s, sofar, spoilt =>
    match s with
    | [] => .error (.before .endInText [])
    | b :: r =>
      if b = Ascii.quote then
        match spoilt with
        | none => .ok (String.ofList sofar.reverse, r)
        | some left => .error ⟨.invalidUnicode, left, true⟩
      else if b = Ascii.backslash then do
        let (c, r) ← readEscape r
        readCharacters fuel r (c :: sofar) spoilt
      else if b < 0x20 then .error (.before .controlCharacter r)
      else
        match Utf8.next? s with
        | some (c, r) => readCharacters fuel r (c :: sofar) spoilt
        | none => readCharacters fuel r sofar (spoilt.or (some r.length))

/-- A text value after its opening quote. -/
def readText (s : Bytes) : Except Fault (String × Bytes) := readCharacters (s.length + 1) s [] none

end LiveConfig.Json
