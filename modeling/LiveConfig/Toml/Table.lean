import LiveConfig.Toml.Word

/-!
Adding to the tables of a TOML text.

A table that is named on the way to an entry or a header comes into being where it is missing.  A
table with a header cannot be reached by a dotted key, one between braces cannot be reached at all,
and of two entries or headers with the same key the second is refused.
-/

namespace LiveConfig.Toml

/-- Change the table that is reached over keys, starting in a table of some kind.  Missing tables
become tables of the kind `missing`. -/
def within {β : Type} (missing : TableKind) (f : TableKind → Entries → Option (β × Entries)) :
    List String → TableKind → Entries → Option (β × Entries)
  | [], kind, es => f kind es
  | k :: ks, _, es =>
    match es.lookup k with
    | none => do
      let (x, sub) ← within missing f ks missing []
      return (x, es ++ [(k, .table missing sub)])
    | some (.table kind sub) =>
      if kind = .inline ∨ (missing = .dotted ∧ kind = .header) then none
      else do
        let (x, sub) ← within missing f ks kind sub
        return (x, replace k (.table kind sub) es)
    | some (.tables rows) => do
      let last ← rows.getLast?
      let (x, last) ← within missing f ks .header last
      return (x, replace k (.tables (rows.dropLast ++ [last])) es)
    | some _ => none

/-- Add an entry to a table.  The last part of its key is new there, and the parts in front of it
lead to a table that is made for such entries. -/
def addEntry (kind : TableKind) (es : Entries) (key : List String) (value : Toml) :
    Option Entries := do
  let name ← key.getLast?
  let path := key.dropLast
  let add := fun (kind : TableKind) (es : Entries) =>
    if (kind == .dotted) == path.isEmpty ∨ (es.lookup name).isSome then none
    else some ((), es ++ [(name, value)])
  (within .dotted add path kind es).map (·.2)

/-- A text that has been read up to some place: everything in front of the last header, and the
table after it. -/
structure Draft where
  root : Entries
  /-- The key in the last header; empty before the first one. -/
  header : List String
  /-- Whether the last header is one of an array. -/
  inArray : Bool
  current : Entries

namespace Draft

/-- Nothing has been read. -/
def empty : Draft := ⟨[], [], false, []⟩

/-- Everything that has been read, with the last table in its place. -/
def close (d : Draft) : Option Entries :=
  match d.header.getLast? with
  | none => some d.current
  | some name =>
    let put := fun (_ : TableKind) (es : Entries) =>
      match es.lookup name, d.inArray with
      | none, false => some ((), es ++ [(name, .table .header d.current)])
      | none, true => some ((), es ++ [(name, .tables [d.current])])
      | some (.tables rows), true => some ((), replace name (.tables (rows ++ [d.current])) es)
      | _, _ => none
    (within .implied put d.header.dropLast .header d.root).map (·.2)

/-- Begin a table.  One that has only been named so far keeps its entries. -/
def openTable (d : Draft) (header : List String) : Option Draft := do
  let root ← d.close
  let name ← header.getLast?
  let take := fun (_ : TableKind) (es : Entries) =>
    match es.lookup name with
    | none => some ([], es)
    | some (.table .implied sub) => some (sub, es.filter (·.1 ≠ name))
    | some _ => none
  let (current, root) ← within .implied take header.dropLast .header root
  return ⟨root, header, false, current⟩

/-- Begin a table of an array. -/
def openRow (d : Draft) (header : List String) : Option Draft := do
  let root ← d.close
  let name ← header.getLast?
  let look := fun (_ : TableKind) (es : Entries) =>
    match es.lookup name with
    | none => some ((), es)
    | some (.tables _) => some ((), es)
    | some _ => none
  let ((), root) ← within .implied look header.dropLast .header root
  return ⟨root, header, true, []⟩

/-- Add an entry to the last table. -/
def add (d : Draft) (key : List String) (value : Toml) : Option Draft := do
  return { d with current := ← addEntry .header d.current key value }

end Draft

end LiveConfig.Toml
