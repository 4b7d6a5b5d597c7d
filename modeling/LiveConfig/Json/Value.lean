import LiveConfig.Json.Number
import LiveConfig.KeyOrder

/-!
JSON values.

The entries of a map are a list of keys and values.  `sorted` puts a value into its canonical form:
in every map each key once, with the value that stood last in the text, in the order of the keys.
`canonical_sorted` says that the result has this form, and a `Document` is a map that has it.
-/

namespace LiveConfig

/-- A JSON value. -/
inductive Json where
  | null
  | bool (value : Bool)
  | number (value : Json.Number)
  | text (value : String)
  | list (items : List Json)
  | map (entries : List (String × Json))

namespace Json

instance : Inhabited Json := ⟨.null⟩

/-- Entries of a map. -/
abbrev Entries := List (String × Json)

/-- Whether a value is `null`. -/
def isNull : Json → Bool
  | .null => true
  | _ => false

/-- Whether a value is a map. -/
def isMap : Json → Bool
  | .map _ => true
  | _ => false

/-- A natural number; one that does not fit 64 bits is rounded. -/
def ofNat (n : Nat) : Json :=
  if h : n < 2 ^ 64 then .number (.int n (Number.inRange_natCast h))
  else .number (.real ((Binary64.ofInt? n).getD .zero))

/-! ### Equality of values -/

mutual

/-- Equality in which numbers are compared by their values and the order of entries is no
matter. -/
def same : Json → Json → Bool
  | .null, .null => true
  | .bool a, .bool b => a == b
  | .number a, .number b => a.sameValue b
  | .text a, .text b => a == b
  | .list xs, .list ys => sameItems xs ys
  | .map xs, .map ys => xs.length == ys.length && sameEntries xs ys
  | _, _ => false

/-- The same items at the same places. -/
def sameItems : List Json → List Json → Bool
  | [], [] => true
  | x :: xs, y :: ys => same x y && sameItems xs ys
  | _, _ => false

/-- Every entry of the first list has an equal one in the second. -/
def sameEntries : List (String × Json) → List (String × Json) → Bool
  | [], _ => true
  | (k, x) :: xs, ys =>
    (match ys.lookup k with
      | some y => same x y
      | none => false) && sameEntries xs ys

end

/-! ### Canonical form -/

mutual

/-- Every map of a value has its keys in increasing order. -/
def Canonical : Json → Prop
  | .list xs => CanonicalItems xs
  | .map es => KeyOrder.Increasing es ∧ CanonicalEntries es
  | _ => True

/-- Every item is canonical. -/
def CanonicalItems : List Json → Prop
  | [] => True
  | x :: xs => Canonical x ∧ CanonicalItems xs

/-- Every value of the entries is canonical. -/
def CanonicalEntries : List (String × Json) → Prop
  | [] => True
  | (_, x) :: es => Canonical x ∧ CanonicalEntries es

end

mutual

/-- The canonical form of a value. -/
def sorted : Json → Json
  | .list xs => .list (sortedItems xs)
  | .map es => .map (KeyOrder.insertAll [] (sortedEntries es))
  | v => v

/-- The canonical forms of items. -/
def sortedItems : List Json → List Json
  | [] => []
  | x :: xs => sorted x :: sortedItems xs

/-- The entries as they stand, with their values in canonical form. -/
def sortedEntries : List (String × Json) → List (String × Json)
  | [] => []
  | (k, x) :: es => (k, sorted x) :: sortedEntries es

end

theorem canonicalEntries_iff {es : List (String × Json)} :
    CanonicalEntries es ↔ ∀ e ∈ es, Canonical e.2 := by
  induction es with
  | nil => simp [CanonicalEntries]
  | cons e es ih => simp [CanonicalEntries, ih]

theorem canonicalEntries_insertAll {sofar es : List (String × Json)}
    (h : CanonicalEntries sofar) (hes : CanonicalEntries es) :
    CanonicalEntries (KeyOrder.insertAll sofar es) := by
  induction es generalizing sofar with
  | nil => exact h
  | cons e es ih =>
    obtain ⟨he, hes⟩ := hes
    refine ih (canonicalEntries_iff.mpr fun b hb => ?_) hes
    rcases KeyOrder.mem_insert hb with rfl | hb
    · exact he
    · exact canonicalEntries_iff.mp h b hb

mutual

theorem canonical_sorted : ∀ v : Json, Canonical (sorted v)
  | .null | .bool _ | .number _ | .text _ => by simp [sorted, Canonical]
  | .list xs => by simpa [sorted, Canonical] using canonicalItems_sorted xs
  | .map es => by
    refine ⟨KeyOrder.increasing_insertAll List.Pairwise.nil, ?_⟩
    exact canonicalEntries_insertAll trivial (canonicalEntries_sorted es)

theorem canonicalItems_sorted : ∀ xs : List Json, CanonicalItems (sortedItems xs)
  | [] => trivial
  | x :: xs => ⟨canonical_sorted x, canonicalItems_sorted xs⟩

theorem canonicalEntries_sorted : ∀ es : List (String × Json), CanonicalEntries (sortedEntries es)
  | [] => trivial
  | (_, x) :: es => ⟨canonical_sorted x, canonicalEntries_sorted es⟩

end

end Json

/-! ### Documents -/

/-- A configuration document: the entries of a map in canonical form. -/
structure Document where
  entries : Json.Entries
  canonical : (Json.map entries).Canonical

namespace Document

/-- The document without entries. -/
def empty : Document := ⟨[], List.Pairwise.nil, trivial⟩

instance : Inhabited Document := ⟨empty⟩

/-- The document that has the given entries; of two with the same key the later one. -/
def ofEntries (es : Json.Entries) : Document :=
  ⟨KeyOrder.insertAll [] (Json.sortedEntries es), Json.canonical_sorted (.map es)⟩

/-- The document as a value. -/
def toJson (d : Document) : Json := .map d.entries

end Document

end LiveConfig
