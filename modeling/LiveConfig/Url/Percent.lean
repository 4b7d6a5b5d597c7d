import LiveConfig.Text.Utf8

/-!
Percent encoding.  A character is encoded as its UTF-8 bytes, each written with two hexadecimal
digits; which characters are encoded depends on the part of a URL.
-/

namespace LiveConfig.Url

/-- Characters that are encoded everywhere: controls, and everything beyond ASCII. -/
def alwaysEncoded (c : Char) : Bool := c.toNat < 0x20 || 0x7E < c.toNat

/-- Characters that are encoded in a fragment. -/
def inFragment (c : Char) : Bool := alwaysEncoded c || [' ', '"', '<', '>', '`'].contains c

/-- Characters that are encoded in a path. -/
def inPath (c : Char) : Bool := inFragment c || ['#', '?', '\x7b', '\x7d'].contains c

/-- Characters that are encoded in a user name or password. -/
def inUserinfo (c : Char) : Bool :=
  inPath c || ['/', ':', ';', '=', '@', '[', '\\', ']', '^', '|'].contains c

/-- Characters that are encoded in a query. -/
def inQuery (c : Char) : Bool := alwaysEncoded c || [' ', '"', '#', '<', '>', '\''].contains c

/-- A hexadecimal digit, as a capital. -/
def upperHexDigit (n : Nat) : Char := (Nat.digitChar n).toUpper

/-- A byte as a percent sign and two digits. -/
def encodeByte (b : UInt8) : List Char :=
  ['%', upperHexDigit (b.toNat / 16), upperHexDigit (b.toNat % 16)]

/-- Encode the characters that `p` holds of. -/
def percentEncode (p : Char → Bool) (cs : List Char) : String :=
  String.ofList (cs.flatMap fun c =>
    if p c then (Utf8.encode c.toString).flatMap encodeByte else [c])

/-- The percent sign. -/
def percentSign : UInt8 := 0x25

/-- Decode each percent sign that two hexadecimal digits follow. -/
def percentDecode : Bytes → Bytes
  | a :: b :: c :: s =>
    match Ascii.hexValue? b, Ascii.hexValue? c with
    | some x, some y =>
      if a = percentSign then (x * 16 + y).toUInt8 :: percentDecode s
      else a :: percentDecode (b :: c :: s)
    | _, _ => a :: percentDecode (b :: c :: s)
  | s => s

end LiveConfig.Url
