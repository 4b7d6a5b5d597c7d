import LiveConfig.Error
import LiveConfig.Json.Printer
import LiveConfig.Text.Pieces
import LiveConfig.Text.CharRanges

/-!
Values of wanted kinds, from documents and from environment variables.

A value of a document must already be of the wanted kind; the text of a variable is read.
-/

namespace LiveConfig

/-! ### Kinds as they are named in messages -/

namespace Wanted

def text : String := "a string"
def int : String := "an int"
def float : String := "a float"
def bool : String := "a bool"
def textList : String := "a list of strings"
def nested : String := "a nested section"
def textMap : String := "a map of string maps"
def leaf : String := "a string, number or bool"

end Wanted

namespace Json

/-- The error that a value is not of the wanted kind. -/
def mismatch (path expected : String) (v : Json) : ConfigError :=
  .conversion path expected v.compact

/-- A limit of the integers of 64 bits as a binary64 number.  The upper one is rounded up. -/
def Number.limit (i : Int) : Binary64 := (Binary64.ofInt? i).getD .zero

/-- The number as an integer of 64 bits with a sign, if it is one.  What is no such integer as it
stands is looked at as a binary64 number, and the limits as well. -/
def Number.toInt64? (n : Number) : Option Int :=
  match n.asSigned? with
  | some i => some i
  | none =>
    let x := n.toBinary64
    x.toInt?.filter fun _ =>
      (limit minInt64).signedUnits ≤ x.signedUnits ∧ x.signedUnits < (limit maxInt64).signedUnits

/-- A text value. -/
def toText (path : String) : Json → Except ConfigError String
  | .text s => .ok s
  | v => .error (v.mismatch path Wanted.text)

/-- An integer of 64 bits. -/
def toInt (path : String) (v : Json) : Except ConfigError Int :=
  match v with
  | .number n =>
    match n.toInt64? with
    | some i => .ok i
    | none => .error (v.mismatch path Wanted.int)
  | _ => .error (v.mismatch path Wanted.int)

/-- A number, rounded to binary64. -/
def toFloat (path : String) : Json → Except ConfigError Binary64Result
  | .number n => .ok (.finite n.toBinary64)
  | v => .error (v.mismatch path Wanted.float)

/-- A truth value. -/
def toBool (path : String) : Json → Except ConfigError Bool
  | .bool b => .ok b
  | v => .error (v.mismatch path Wanted.bool)

/-- An item of a list of texts. -/
def toListItem (path : String) : Json → Except ConfigError String
  | .text s => .ok s
  | v => .error (v.mismatch path Wanted.textList)

/-- A list of texts. -/
def toTextList (path : String) : Json → Except ConfigError (List String)
  | .list xs => xs.mapM (toListItem path)
  | v => .error (v.mismatch path Wanted.textList)

/-- The entries of a map. -/
def toNested (path : String) : Json → Except ConfigError Entries
  | .map es => .ok es
  | v => .error (v.mismatch path Wanted.nested)

/-- A text, number or truth value as a text. -/
def leafText : Json → Option String
  | .text s => some s
  | .bool true => some "true"
  | .bool false => some "false"
  | .number (.int i _) => some (toString i)
  | .number (.real x) => some (plainReal.write x)
  | _ => none

/-- The leaves of a map as texts. -/
def leafTexts (path : String) (es : Entries) : Except ConfigError (List (String × String)) :=
  es.mapM fun (key, v) =>
    match v.leafText with
    | some s => .ok (key, s)
    | none => .error (v.mismatch (path ++ "." ++ key) Wanted.leaf)

/-- A map of maps of leaves, the leaves as texts. -/
def textMap (path : String) (es : Entries) :
    Except ConfigError (List (String × List (String × String))) :=
  es.mapM fun (name, v) =>
    match v with
    | .map leaves => do return (name, ← leafTexts (path ++ "." ++ name) leaves)
    | _ => .error (v.mismatch (path ++ "." ++ name) Wanted.textMap)

end Json

/-! ### Texts of environment variables -/

namespace Variable

/-- An integer of 64 bits. -/
def toInt (path raw : String) : Except ConfigError Int :=
  match readInt? raw with
  | some i => .ok i
  | none => .error (.conversion path Wanted.int raw)

/-- A decimal, rounded to binary64. -/
def toFloat (path raw : String) : Except ConfigError Binary64Result :=
  match Binary64Result.read? raw with
  | some x => .ok x
  | none => .error (.conversion path Wanted.float raw)

/-- A truth value in one of its usual spellings. -/
def toBool (path raw : String) : Except ConfigError Bool :=
  if ["1", "t", "T", "TRUE", "true", "True"].contains raw then .ok true
  else if ["0", "f", "F", "FALSE", "false", "False"].contains raw then .ok false
  else .error (.conversion path Wanted.bool raw)

/-- The items of a list with commas between them.  One opening and one closing bracket are dropped
wherever they stand, and spaces around the items. -/
def toTextList (raw : String) : List String :=
  (Text.cut ',' ((raw.toList.erase '[').erase ']')).map fun item =>
    Text.stripBy (· = ' ') (String.ofList item)

end Variable

end LiveConfig
