import LiveConfig.Text.Pieces
import LiveConfig.Text.Punycode
import LiveConfig.Url.Domain.Direction
import LiveConfig.Url.Domain.Joining
import LiveConfig.Url.Domain.Table

/-!
Domain names in ASCII.

A name is read in small letters and in composed form.  A label that is not ASCII is written in
Punycode after `xn--`; a label that is written so already is read back, and must be what would be
written.
-/

namespace LiveConfig.Url.Domain

open Text

/-- Characters that no domain name has, whatever stands for them. -/
def isForbidden (c : Char) : Bool :=
  c.toNat ≤ 0x20 || c.toNat == 0x7F
    || ['%', '#', '/', ':', '<', '>', '?', '@', '[', '\\', ']', '^', '|'].contains c

/-- What a character stands for: small letters for capital ones, the usual form for unusual ones. -/
def meaning? (c : Char) : Option (List Char) :=
  if c.toNat < 0x80 then some [c.toLower]
  else
    match alternating.find? c with
    | some (first, _) => some [if (c.toNat - first) % 2 = 0 then Char.ofNat (c.toNat + 1) else c]
    | none =>
      match shifted.find? c with
      | some r => some (r.numbers.map fun n => Char.ofNat (n + (c.toNat - r.first)))
      | none =>
        match spelled.find? c with
        | some r => some (r.numbers.map Char.ofNat)
        | none => if excluded.contains c then none else some [c]

/-- What the characters of a text stand for. -/
def meanings? (cs : List Char) : Option (List Char) := (cs.mapM meaning?).map List.flatten

/-- What the labels begin with that are written in Punycode. -/
def mark : List Char := "xn--".toList

/-- How long a label may be that is read or written in Punycode. -/
def longestRead : Nat := 2000

@[inherit_doc longestRead]
def longestWritten : Nat := 1000

/-- A label that may be part of a name: it has no forbidden character, begins with no mark, and its
joiners stand where they may. -/
def isLabel (cs : List Char) : Bool :=
  !cs.any isForbidden && !cs.head?.any marks.contains && joinersPlaced [] cs

/-- Read a label back from Punycode. -/
def readLabel? (body : List Char) : Option (List Char) :=
  if body.getLast?.all (· = '-') ∨ longestRead < body.length then none
  else
    match Punycode.decode? body with
    | none => none
    | some cs =>
      if (meanings? cs).map Composition.normalize = some cs then some cs
      else none

/-- The characters of a label in composed small letters. -/
def label? (cs : List Char) : Option (List Char) :=
  let read := if mark.isPrefixOf cs then readLabel? (cs.drop mark.length) else some cs
  read.filter isLabel

/-- Write a label in ASCII. -/
def writeLabel (cs : List Char) : List Char :=
  if cs.all (·.toNat < 0x80) then cs else mark ++ Punycode.encode cs

/-- The labels of a name. -/
def labels? (name : List Char) : Option (List (List Char)) := do
  let cs ← meanings? name
  let labels ← (cut '.' (Composition.normalize cs)).mapM label?
  if labels.any (·.any turns) && !labels.all fun l => isDirected (l.map direction) then none
  else if labels.any fun l => longestWritten < l.length && !l.all (·.toNat < 0x80) then none
  else some labels

/-- A domain name in ASCII. -/
def toAscii? (name : List Char) : Option (List Char) :=
  (labels? name).map fun labels => ['.'].intercalate (labels.map writeLabel)

end LiveConfig.Url.Domain
