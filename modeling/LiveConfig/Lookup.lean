import LiveConfig.Json.Value
import LiveConfig.Text.Pieces

/-!
Finding values in a document.

A path is a list of keys with points between them.  It is walked through the maps of the document
and may end early, at the first value that is no map.  `null` counts as absent.  Under a section,
`section.path` is looked up before `path`.
-/

namespace LiveConfig

/-- Follow keys from a value; the walk ends at a value that is no map. -/
def Json.walk : Json → List String → Option Json
  | v, [] => some v
  | .map es, k :: ks =>
    match es.lookup k with
    | none => none
    | some v => v.walk ks
  | v, _ :: _ => some v

/-- The keys of a path. -/
def pathKeys (path : String) : List String := Text.pieces '.' path

namespace Document

/-- The value under a path. -/
def lookup (d : Document) (path : String) : Option Json :=
  (d.toJson.walk (pathKeys path)).filter (!·.isNull)

/-- The value under a path, first looked for in a section. -/
def resolve (d : Document) (sectionName : Option String) (path : String) : Option Json :=
  match sectionName.bind fun s => d.lookup (s ++ "." ++ path) with
  | some v => some v
  | none => d.lookup path

end Document

end LiveConfig
