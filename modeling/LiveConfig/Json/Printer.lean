import LiveConfig.Json.Value

/-!
The text of JSON values, on one line (`compact`) or with one item or entry a line (`pretty`).
-/

namespace LiveConfig.Json

/-! ### Text values -/

/-- A hexadecimal digit, in small letters. -/
def hexDigit (n : Nat) : Char := (Nat.toDigits 16 n).headD '0'

/-- A character inside a text value.  Only quotes, backslashes and controls are escaped. -/
def escaped (c : Char) : List Char :=
  if c = '"' then ['\\', '"']
  else if c = '\\' then ['\\', '\\']
  else if c = '\x08' then ['\\', 'b']
  else if c = '\t' then ['\\', 't']
  else if c = '\n' then ['\\', 'n']
  else if c = '\x0c' then ['\\', 'f']
  else if c = '\r' then ['\\', 'r']
  else if c.toNat < 0x20 then
    ['\\', 'u', '0', '0', hexDigit (c.toNat / 16), hexDigit (c.toNat % 16)]
  else [c]

/-- A text value. -/
def textLiteral (s : String) : String :=
  String.ofList ('"' :: s.toList.flatMap escaped ++ ['"'])

/-! ### One line -/

mutual

/-- The text of a value without any blanks. -/
def compact : Json → String
  | .null => "null"
  | .bool true => "true"
  | .bool false => "false"
  | .number n => n.write
  | .text s => textLiteral s
  | .list xs => "[" ++ compactItems xs ++ "]"
  | .map es => "\x7b" ++ compactEntries es ++ "\x7d"

/-- Items with commas between them. -/
def compactItems : List Json → String
  | [] => ""
  | [x] => compact x
  | x :: y :: xs => compact x ++ "," ++ compactItems (y :: xs)

/-- Entries with commas between them. -/
def compactEntries : List (String × Json) → String
  | [] => ""
  | [(k, x)] => textLiteral k ++ ":" ++ compact x
  | (k, x) :: e :: es => textLiteral k ++ ":" ++ compact x ++ "," ++ compactEntries (e :: es)

end

/-! ### One item a line -/

/-- A line break and the indentation of a nesting depth, two spaces each. -/
def lineBreak (depth : Nat) : String := String.ofList ('\n' :: List.replicate (2 * depth) ' ')

mutual

/-- The text of a value inside `depth` others. -/
def prettyAt (depth : Nat) : Json → String
  | .list [] => "[]"
  | .list (x :: xs) => "[" ++ prettyItems (depth + 1) (x :: xs) ++ lineBreak depth ++ "]"
  | .map [] => "\x7b\x7d"
  | .map (e :: es) => "\x7b" ++ prettyEntries (depth + 1) (e :: es) ++ lineBreak depth ++ "\x7d"
  | .null => "null"
  | .bool true => "true"
  | .bool false => "false"
  | .number n => n.write
  | .text s => textLiteral s

/-- Items, each on a line of its own. -/
def prettyItems (depth : Nat) : List Json → String
  | [] => ""
  | [x] => lineBreak depth ++ prettyAt depth x
  | x :: y :: xs => lineBreak depth ++ prettyAt depth x ++ "," ++ prettyItems depth (y :: xs)

/-- Entries, each on a line of its own. -/
def prettyEntries (depth : Nat) : List (String × Json) → String
  | [] => ""
  | [(k, x)] => lineBreak depth ++ textLiteral k ++ ": " ++ prettyAt depth x
  | (k, x) :: e :: es =>
    lineBreak depth ++ textLiteral k ++ ": " ++ prettyAt depth x ++ ","
      ++ prettyEntries depth (e :: es)

end

/-- The text of a value with one item or entry a line. -/
def pretty (v : Json) : String := prettyAt 0 v

end LiveConfig.Json
