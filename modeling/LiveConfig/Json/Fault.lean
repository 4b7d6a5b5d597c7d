import LiveConfig.Text.Quoted
import LiveConfig.Text.Utf8

/-!
What is wrong with a JSON text, and where.

A reader yields a result and the bytes after it, or a fault.  The place of a fault is given by the
number of bytes after it, so that a reader needs no counter; `Fault.render` turns it into a line and
a column.
-/

namespace LiveConfig.Json

/-- Why a text cannot be read. -/
inductive Cause where
  | endInValue
  | endInObject
  | endInList
  | endInText
  | expectedColon
  | expectedListEnd
  | expectedObjectEnd
  | expectedIdent
  | expectedValue
  | keyMustBeText
  | invalidNumber
  | numberOutOfRange
  | invalidEscape
  | controlCharacter
  | invalidUnicode
  | loneSurrogate
  | unpairedSurrogate
  | trailingComma
  | trailingCharacters
  | nestedTooDeep
  | wrongType (found expected : String)
  | wrongValue (found expected : String)
  | wrongLength (found : Nat) (expected : String)
  | unknownVariant (found : String) (expected : List String)
  | missingField (name : String)
  | duplicateField (name : String)
  | badEncoding (message : String)
deriving DecidableEq

/-- Names in a list, each between backticks. -/
def ticked (names : List String) : String := ", ".intercalate (names.map fun n => "`" ++ n ++ "`")

/-- The message of a cause. -/
def Cause.message : Cause → String
  | endInValue => "EOF while parsing a value"
  | endInObject => "EOF while parsing an object"
  | endInList => "EOF while parsing a list"
  | endInText => "EOF while parsing a string"
  | expectedColon => "expected `:`"
  | expectedListEnd => "expected `,` or `]`"
  | expectedObjectEnd => "expected `,` or `\x7d`"
  | expectedIdent => "expected ident"
  | expectedValue => "expected value"
  | keyMustBeText => "key must be a string"
  | invalidNumber => "invalid number"
  | numberOutOfRange => "number out of range"
  | invalidEscape => "invalid escape"
  | controlCharacter => "control character (\\u0000-\\u001F) found while parsing a string"
  | invalidUnicode => "invalid unicode code point"
  | loneSurrogate => "lone leading surrogate in hex escape"
  | unpairedSurrogate => "unexpected end of hex escape"
  | trailingComma => "trailing comma"
  | trailingCharacters => "trailing characters"
  | nestedTooDeep => "recursion limit exceeded"
  | wrongType found expected => "invalid type: " ++ found ++ ", expected " ++ expected
  | wrongValue found expected => "invalid value: " ++ found ++ ", expected " ++ expected
  | wrongLength found expected => "invalid length " ++ toString found ++ ", expected " ++ expected
  | unknownVariant found expected =>
    "unknown variant `" ++ found ++ "`, expected one of " ++ ticked expected
  | missingField name => "missing field `" ++ name ++ "`"
  | duplicateField name => "duplicate field `" ++ name ++ "`"
  | badEncoding message => message

/-- A cause and its place: how many bytes of the text follow it.  A fault that is not `settled` is
one of a whole record: its place is where the record is left. -/
structure Fault where
  cause : Cause
  left : Nat
  settled : Bool
deriving DecidableEq

namespace Fault

/-- A fault in front of the bytes `s`. -/
def before (cause : Cause) (s : Bytes) : Fault := ⟨cause, s.length, true⟩

/-- A fault behind the first of the bytes `s`, or at the end of the text. -/
def behind (cause : Cause) (s : Bytes) : Fault := ⟨cause, s.length - 1, true⟩

/-- A fault of the record that is being read, noticed in front of the bytes `s`. -/
def ofRecord (cause : Cause) (s : Bytes) : Fault := ⟨cause, s.length, false⟩

/-- Settle a fault of the record that starts at the bytes `s`: `leave` passes over what ends the
record. -/
def settle (f : Fault) (leave : Bytes → Bytes) (s : Bytes) : Fault :=
  if f.settled then f else ⟨f.cause, (leave (s.drop (s.length - f.left))).length, true⟩

/-- The line of a place, counted from one, and its column: the bytes since the line began. -/
def lineAndColumn (whole : Bytes) (left : Nat) : Nat × Nat :=
  let past := whole.take (whole.length - left)
  (past.count Ascii.lineFeed + 1, (past.reverse.takeWhile (· ≠ Ascii.lineFeed)).length)

/-- The message of a fault in the text `whole`. -/
def render (f : Fault) (whole : Bytes) : String :=
  let (line, column) := lineAndColumn whole f.left
  f.cause.message ++ " at line " ++ toString line ++ " column " ++ toString column

end Fault

end LiveConfig.Json
