import LiveConfig.Toml.Value

/-!
The words of a TOML text: blanks, comments, keys and text values.

A reader takes a word from the front of a text and yields it with what follows, or nothing if the
text is not well formed.
-/

namespace LiveConfig.Toml

/-! ### Blanks -/

/-- A blank inside a line. -/
def isBlank (c : Char) : Bool := c == ' ' || c == '\t'

/-- The text after its blanks. -/
def skipBlanks (cs : List Char) : List Char := cs.dropWhile isBlank

/-- A character that stands for itself: no control but the tab. -/
def isPlain (c : Char) : Bool := c == '\t' || (0x20 ≤ c.toNat && c.toNat != 0x7F)

/-- Pass over the end of a line, or of the text. -/
def lineEnd : List Char → Option (List Char)
  | [] => some []
  | '\n' :: r => some r
  | '\r' :: '\n' :: r => some r
  | _ => none

/-- The text after a comment, if there is one. -/
def skipComment : List Char → List Char
  | '#' :: r => r.dropWhile isPlain
  | cs => cs

/-- Pass over the rest of a line: blanks, and perhaps a comment. -/
def restOfLine (cs : List Char) : Option (List Char) := lineEnd (skipComment (skipBlanks cs))

/-- Pass over blanks, comments and line ends. -/
def skipLines : Nat → List Char → Option (List Char)
  | 0, cs => some cs
  | fuel + 1, cs =>
    match skipBlanks cs with
    | '\n' :: r => skipLines fuel r
    | '\r' :: '\n' :: r => skipLines fuel r
    | '#' :: r =>
      match r.dropWhile isPlain with
      | '\n' :: r => skipLines fuel r
      | '\r' :: '\n' :: r => skipLines fuel r
      | _ => none
    | r => some r

/-! ### Text values -/

/-- The value of hexadecimal digits. -/
def hexValue? (cs : List Char) : Option Nat :=
  cs.foldlM (fun n c =>
    if c.isDigit then some (16 * n + (c.toNat - '0'.toNat))
    else if 'a' ≤ c ∧ c ≤ 'f' then some (16 * n + (c.toNat - 'a'.toNat + 10))
    else if 'A' ≤ c ∧ c ≤ 'F' then some (16 * n + (c.toNat - 'A'.toNat + 10))
    else none) 0

/-- A character by its code point, given by exactly `count` digits. -/
def codePoint (count : Nat) (cs : List Char) : Option (Char × List Char) := do
  let ds := cs.take count
  if ds.length < count then none
  else
    let n ← hexValue? ds
    if n.isValidChar then some (Char.ofNat n, cs.drop count) else none

/-- The character that an escape stands for, after its backslash. -/
def escapedChar : List Char → Option (Char × List Char)
  | 'b' :: r => some ('\x08', r)
  | 't' :: r => some ('\t', r)
  | 'n' :: r => some ('\n', r)
  | 'f' :: r => some ('\x0c', r)
  | 'r' :: r => some ('\r', r)
  | '"' :: r => some ('"', r)
  | '\\' :: r => some ('\\', r)
  | 'u' :: r => codePoint 4 r
  | 'U' :: r => codePoint 8 r
  | _ => none

/-- A text between double quotes, after the first of them; what has been read is in reverse. -/
def basicText : Nat → List Char → List Char → Option (String × List Char)
  | 0, _, _ => none
  | fuel + 1, sofar, cs =>
    match cs with
    | [] => none
    | '"' :: r => some (String.ofList sofar.reverse, r)
    | '\\' :: r => do
      let (c, r) ← escapedChar r
      basicText fuel (c :: sofar) r
    | c :: r => if isPlain c then basicText fuel (c :: sofar) r else none

/-- A text between single quotes, after the first of them. -/
def literalText (cs : List Char) : Option (String × List Char) :=
  let inner := cs.takeWhile fun c => c ≠ '\'' ∧ isPlain c
  match cs.drop inner.length with
  | '\'' :: r => some (String.ofList inner, r)
  | _ => none

/-- A line end, as a line feed. -/
def newline : List Char → Option (Unit × List Char)
  | '\n' :: r => some ((), r)
  | '\r' :: '\n' :: r => some ((), r)
  | _ => none

/-- The text without a line end at its front. -/
def dropNewline (cs : List Char) : List Char :=
  match newline cs with
  | some ((), r) => r
  | none => cs

/-- A backslash at the end of a line joins it to the next character that is no blank. -/
def joinLines (cs : List Char) : Option (List Char) := do
  let ((), r) ← newline (skipBlanks cs)
  return r.dropWhile fun c => isBlank c || c == '\n' || c == '\r'

/-- A text of several lines, after the three quotes it begins with.  It ends at the next three
quotes; up to two quotes in front of these belong to it. -/
def longText (quote : Char) (escapes : Bool) :
    Nat → List Char → List Char → Option (String × List Char)
  | 0, _, _ => none
  | fuel + 1, sofar, cs =>
    match cs with
    | [] => none
    | c :: r =>
      if c = quote then
        let count := (cs.takeWhile (· = quote)).length
        if count < 3 then
          longText quote escapes fuel (List.replicate count quote ++ sofar) (cs.drop count)
        else if count < 6 then
          some (String.ofList (List.replicate (count - 3) quote ++ sofar).reverse, cs.drop count)
        else none
      else if c = '\\' ∧ escapes then
        match joinLines r with
        | some r => longText quote escapes fuel sofar r
        | none => do
          let (c, r) ← escapedChar r
          longText quote escapes fuel (c :: sofar) r
      else
        match newline cs with
        | some ((), r) => longText quote escapes fuel ('\n' :: sofar) r
        | none => if isPlain c then longText quote escapes fuel (c :: sofar) r else none

/-- A text value in any of its four forms. -/
def takeText : List Char → Option (String × List Char)
  | '"' :: '"' :: '"' :: r => longText '"' true (r.length + 1) [] (dropNewline r)
  | '\'' :: '\'' :: '\'' :: r => longText '\'' false (r.length + 1) [] (dropNewline r)
  | '"' :: r => basicText (r.length + 1) [] r
  | '\'' :: r => literalText r
  | _ => none

/-! ### Keys -/

/-- A character of a key without quotes. -/
def isBare (c : Char) : Bool := c.isAlphanum || c == '_' || c == '-'

/-- A part of a key: with quotes, or not empty. -/
def takeName : List Char → Option (String × List Char)
  | '"' :: r => basicText (r.length + 1) [] r
  | '\'' :: r => literalText r
  | cs =>
    let name := cs.takeWhile isBare
    if name.isEmpty then none else some (String.ofList name, cs.drop name.length)

/-- How deep keys and values may go. -/
def maxDepth : Nat := 79

/-- A key: parts with points between them, and blanks around these. -/
def takeKey : Nat → List Char → Option (List String × List Char)
  | 0, _ => none
  | fuel + 1, cs => do
    let (name, r) ← takeName (skipBlanks cs)
    match skipBlanks r with
    | '.' :: r => do
      let (names, r) ← takeKey fuel r
      return (name :: names, r)
    | r => return ([name], r)

end LiveConfig.Toml
