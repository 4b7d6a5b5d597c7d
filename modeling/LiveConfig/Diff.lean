import LiveConfig.Change

/-!
Which names of a document change.

`Sections.of` takes out of a document what is watched: the values at its top that are no maps, and
the entries of the active section.  `diff` compares two lists of entries and `diffSections` both
parts.  `null` counts as absent on every side.
-/

namespace LiveConfig

/-- The watched part of a document. -/
structure Sections where
  /-- The top entries that are neither maps nor `null`. -/
  global : Json.Entries
  /-- The entries of the active section that are not `null`. -/
  target : Json.Entries

/-- The entries that are not `null`. -/
def present (es : Json.Entries) : Json.Entries := es.filter (!·.2.isNull)

/-- The watched part of a document under a section. -/
def Sections.of (d : Document) (sectionName : Option String) : Sections where
  global := d.entries.filter fun e => !e.2.isNull && !e.2.isMap
  target :=
    match sectionName.bind fun s => d.entries.lookup s with
    | some (.map es) => present es
    | _ => []

/-- The value of a key that is not `null`. -/
def presentValue (es : Json.Entries) (key : String) : Option Json :=
  (es.lookup key).filter (!·.isNull)

/-- What became of an entry that was there before. -/
def changeOf? (new : Json.Entries) (qualify : String → String) (e : String × Json) :
    Option Change :=
  if e.2.isNull then none
  else
    match presentValue new e.1 with
    | none => some (.deleted (qualify e.1))
    | some v => if e.2.same v then none else some (.updated (qualify e.1) v)

/-- An entry that was not there before. -/
def additionOf? (previous : Json.Entries) (qualify : String → String) (e : String × Json) :
    Option Change :=
  if e.2.isNull then none
  else
    match presentValue previous e.1 with
    | none => some (.added (qualify e.1) e.2)
    | some _ => none

/-- The changes from one list of entries to another: first of the entries that were there before, in
their order, then the new ones in theirs.  `qualify` makes the name of a change from a key. -/
def diff (previous new : Json.Entries) (qualify : String → String) : List Change :=
  previous.filterMap (changeOf? new qualify) ++ new.filterMap (additionOf? previous qualify)

/-- The changes of the watched parts: of the top entries under their keys, of the section's under
`section.key`. -/
def diffSections (previous new : Sections) (sectionName : Option String) : List Change :=
  diff previous.global new.global id ++
    match sectionName with
    | some s => diff previous.target new.target fun key => s ++ "." ++ key
    | none => []

end LiveConfig
