/-!
Byte strings and their reading as UTF-8.

`next?` splits the first character off a byte string; `decode?` reads a whole one and `lossy`
replaces what is no character.
-/

namespace LiveConfig

/-- A string of bytes. -/
abbrev Bytes := List UInt8

namespace Utf8

/-- The bytes of a text. -/
def encode (s : String) : Bytes := s.toUTF8.data.toList

/-- Whether a byte continues a character. -/
def isTail (b : UInt8) : Bool := 0x80 ≤ b && b ≤ 0xBF

/-- The six low bits of a continuation byte. -/
def tailBits (b : UInt8) : Nat := b.toNat % 64

/-- How many bytes follow the first byte of a character, and between which values the second one
lies; `none` if no character starts so. -/
def lead? (b : UInt8) : Option (Nat × UInt8 × UInt8) :=
  if b < 0x80 then some (0, 0x80, 0xBF)
  else if b < 0xC2 then none
  else if b < 0xE0 then some (1, 0x80, 0xBF)
  else if b = 0xE0 then some (2, 0xA0, 0xBF)
  else if b = 0xED then some (2, 0x80, 0x9F)
  else if b < 0xF0 then some (2, 0x80, 0xBF)
  else if b = 0xF0 then some (3, 0x90, 0xBF)
  else if b < 0xF4 then some (3, 0x80, 0xBF)
  else if b = 0xF4 then some (3, 0x80, 0x8F)
  else none

/-- The character at the front and what follows it. -/
def next? (s : Bytes) : Option (Char × Bytes) :=
  match s with
  | [] => none
  | a :: r =>
    match lead? a with
    | none => none
    | some (0, _, _) => some (Char.ofNat a.toNat, r)
    | some (1, lo, hi) =>
      match r with
      | b :: r =>
        if lo ≤ b ∧ b ≤ hi then some (Char.ofNat ((a.toNat % 32) * 64 + tailBits b), r) else none
      | _ => none
    | some (2, lo, hi) =>
      match r with
      | b :: c :: r =>
        if lo ≤ b ∧ b ≤ hi ∧ isTail c then
          some (Char.ofNat (((a.toNat % 16) * 64 + tailBits b) * 64 + tailBits c), r)
        else none
      | _ => none
    | some (_, lo, hi) =>
      match r with
      | b :: c :: d :: r =>
        if lo ≤ b ∧ b ≤ hi ∧ isTail c ∧ isTail d then
          let n := (((a.toNat % 8) * 64 + tailBits b) * 64 + tailBits c) * 64 + tailBits d
          some (Char.ofNat n, r)
        else none
      | _ => none

/-- How many bytes at the front belong to a character that is cut short or spoilt; at least one. -/
def spoilt (s : Bytes) : Nat :=
  match s with
  | [] => 1
  | a :: r =>
    match lead? a with
    | none => 1
    | some (n, lo, hi) =>
      match r with
      | b :: r =>
        if lo ≤ b ∧ b ≤ hi then min n (2 + (r.takeWhile isTail).length) else 1
      | [] => 1

/-- The characters of a byte string.  What is no character becomes `none`, one for each longest
piece that starts like a character. -/
def pieces (fuel : Nat) (s : Bytes) : List (Option Char) :=
  match fuel, s with
  | 0, _ => []
  | _, [] => []
  | fuel + 1, s =>
    match next? s with
    | some (c, r) => some c :: pieces fuel r
    | none => none :: pieces fuel (s.drop (spoilt s))

/-- The text of a byte string, if it is one. -/
def decode? (s : Bytes) : Option String :=
  ((pieces s.length s).mapM id).map String.ofList

/-- The text of a byte string, with U+FFFD for every piece that is no character. -/
def lossy (s : Bytes) : String :=
  String.ofList ((pieces s.length s).map (·.getD '\uFFFD'))

end Utf8

/-! ### Names of characters as bytes -/

namespace Ascii

abbrev tab : UInt8 := 0x09
abbrev lineFeed : UInt8 := 0x0A
abbrev carriageReturn : UInt8 := 0x0D
abbrev space : UInt8 := 0x20
abbrev quote : UInt8 := 0x22
abbrev plus : UInt8 := 0x2B
abbrev comma : UInt8 := 0x2C
abbrev minus : UInt8 := 0x2D
abbrev point : UInt8 := 0x2E
abbrev slash : UInt8 := 0x2F
abbrev zero : UInt8 := 0x30
abbrev colon : UInt8 := 0x3A
abbrev openBracket : UInt8 := 0x5B
abbrev backslash : UInt8 := 0x5C
abbrev closeBracket : UInt8 := 0x5D
abbrev openBrace : UInt8 := 0x7B
abbrev closeBrace : UInt8 := 0x7D

/-- The byte of an ASCII character. -/
def byte (c : Char) : UInt8 := c.toNat.toUInt8

/-- A decimal digit. -/
def isDigit (b : UInt8) : Bool := 0x30 ≤ b && b ≤ 0x39

/-- The value of a hexadecimal digit. -/
def hexValue? (b : UInt8) : Option Nat :=
  if isDigit b then some (b.toNat - 0x30)
  else if 0x41 ≤ b && b ≤ 0x46 then some (b.toNat - 0x41 + 10)
  else if 0x61 ≤ b && b ≤ 0x66 then some (b.toNat - 0x61 + 10)
  else none

end Ascii

end LiveConfig
