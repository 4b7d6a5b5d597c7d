import LiveConfig.Lookup
import LiveConfig.Proofs.Maps

/-!
Paths through a document.

A key without points is a path of one step, and the keys of two paths with a point between them are
the keys of both.  `firstKey` is the key at which a path enters the document: of all entries at the
top only the one with this key has a say in what is found.
-/

namespace LiveConfig

/-! ### Keys of a path -/

namespace Text

variable {sep : Char}

theorem cut_of_notMem {cs : List Char} (h : sep ∉ cs) : cut sep cs = [cs] := by
  induction cs with
  | nil => rfl
  | cons c cs ih =>
    have hc : c ≠ sep := fun hc => h (by simp [hc])
    have hrest : sep ∉ cs := fun hmem => h (List.mem_cons_of_mem _ hmem)
    rw [cut, if_neg hc, ih hrest]

theorem cut_append (as bs : List Char) : cut sep (as ++ sep :: bs) = cut sep as ++ cut sep bs := by
  induction as with
  | nil => simp [cut]
  | cons a as ih =>
    rw [List.cons_append, cut, cut, ih]
    split
    · rfl
    · cases has : cut sep as with
      | nil => exact absurd has (cut_ne_nil sep as)
      | cons p ps => rfl

theorem cut_eq_takeWhile_cons (sep : Char) (cs : List Char) :
    ∃ ps, cut sep cs = cs.takeWhile (· ≠ sep) :: ps := by
  induction cs with
  | nil => exact ⟨[], rfl⟩
  | cons c cs ih =>
    obtain ⟨ps, hps⟩ := ih
    by_cases hc : c = sep
    · exact ⟨cut sep cs, by simp [cut, hc]⟩
    · exact ⟨ps, by simp [cut, hc, hps]⟩

end Text

/-- A key that is a path by itself: it has no points. -/
def IsStep (k : String) : Prop := '.' ∉ k.toList

instance : DecidablePred IsStep := fun k => inferInstanceAs (Decidable ('.' ∉ k.toList))

/-- The text of a path before its first point. -/
def firstKey (path : String) : String := String.ofList (path.toList.takeWhile (· ≠ '.'))

theorem pathKeys_of_isStep {k : String} (h : IsStep k) : pathKeys k = [k] := by
  simp [pathKeys, Text.pieces, Text.cut_of_notMem h]

theorem pathKeys_join (s p : String) : pathKeys (s ++ "." ++ p) = pathKeys s ++ pathKeys p := by
  have hlist : (s ++ "." ++ p).toList = s.toList ++ '.' :: p.toList := by simp
  simp [pathKeys, Text.pieces, hlist, Text.cut_append]

theorem pathKeys_eq_cons (path : String) : ∃ ks, pathKeys path = firstKey path :: ks := by
  obtain ⟨ps, hps⟩ := Text.cut_eq_takeWhile_cons '.' path.toList
  exact ⟨ps.map String.ofList, by simp [pathKeys, Text.pieces, hps, firstKey]⟩

theorem firstKey_of_isStep {k : String} (h : IsStep k) : firstKey k = k := by
  obtain ⟨ks, hks⟩ := pathKeys_eq_cons k
  rw [pathKeys_of_isStep h] at hks
  exact (List.cons.inj hks).1.symm

theorem pathKeys_join_eq_cons (s p : String) :
    ∃ ks, pathKeys (s ++ "." ++ p) = firstKey s :: ks := by
  obtain ⟨ks, hks⟩ := pathKeys_eq_cons s
  exact ⟨ks ++ pathKeys p, by rw [pathKeys_join, hks, List.cons_append]⟩

theorem firstKey_join (s p : String) : firstKey (s ++ "." ++ p) = firstKey s := by
  obtain ⟨ks, hks⟩ := pathKeys_eq_cons (s ++ "." ++ p)
  obtain ⟨ls, hls⟩ := pathKeys_join_eq_cons s p
  exact (List.cons.inj (hks.symm.trans hls)).1

/-! ### Walking -/

theorem Json.isNull_iff {v : Json} : v.isNull = true ↔ v = .null := by
  cases v <;> simp [Json.isNull]

theorem Json.walk_of_not_isMap {v : Json} (h : v.isMap = false) (ks : List String) :
    v.walk ks = some v := by
  cases ks with
  | nil => rfl
  | cons k ks => cases v <;> simp_all [Json.walk, Json.isMap]

/-- A walk goes on from where it came with its first keys. -/
theorem Json.walk_append (v : Json) (ks ls : List String) :
    v.walk (ks ++ ls) = (v.walk ks).bind (·.walk ls) := by
  induction ks generalizing v with
  | nil => rfl
  | cons k ks ih =>
    cases v with
    | map es =>
      rw [List.cons_append, walk, walk]
      cases es.lookup k with
      | none => rfl
      | some u => exact ih u
    | null | bool | number | text | list => exact (walk_of_not_isMap rfl ls).symm

namespace Document

variable {d : Document}

theorem lookup_eq_of_keys {path k : String} {ks : List String} (h : pathKeys path = k :: ks) :
    d.lookup path = ((d.entries.lookup k).bind fun v => v.walk ks).filter (!·.isNull) := by
  rw [Document.lookup, h, toJson, Json.walk]
  cases d.entries.lookup k <;> rfl

/-- Without a section only the path itself is looked up. -/
theorem resolve_none (path : String) : d.resolve none path = d.lookup path := rfl

/-- A section is looked up first. -/
theorem resolve_some (s path : String) :
    d.resolve (some s) path = (d.lookup (s ++ "." ++ path)).or (d.lookup path) := by
  rw [Document.resolve, Option.bind_some]
  cases d.lookup (s ++ "." ++ path) <;> rfl

/-- Looking under a path goes on from what is found there; from `null` it does not get on. -/
theorem lookup_join (d : Document) (path more : String) :
    d.lookup (path ++ "." ++ more) =
      (d.lookup path).bind fun v => (v.walk (pathKeys more)).filter (!·.isNull) := by
  unfold lookup
  rw [pathKeys_join, Json.walk_append]
  cases d.toJson.walk (pathKeys path) with
  | none => rfl
  | some v =>
    cases hv : v.isNull
    · rw [Option.bind_some, Option.filter_some, hv]
      rfl
    · obtain rfl := Json.isNull_iff.mp hv
      rw [Option.bind_some, Json.walk_of_not_isMap rfl]
      rfl

/-- What is found under a path is looked into, be it found in the section or not. -/
theorem resolve_join {sectionName : Option String} {path more : String} {v u : Json}
    (h : d.resolve sectionName path = some v) (hu : v.walk (pathKeys more) = some u)
    (hn : u.isNull = false) : d.resolve sectionName (path ++ "." ++ more) = some u := by
  have hjoin : ∀ p, d.lookup p = some v → d.lookup (p ++ "." ++ more) = some u := by
    intro p hp
    rw [lookup_join, hp, Option.bind_some, hu]
    simp [hn]
  cases sectionName with
  | none => exact hjoin path h
  | some s =>
    have hassoc : s ++ "." ++ (path ++ "." ++ more) = s ++ "." ++ path ++ "." ++ more := by
      simp only [String.append_assoc]
    rw [resolve_some] at h ⊢
    rw [hassoc]
    cases hs : d.lookup (s ++ "." ++ path) with
    | some v' =>
      rw [hs] at h
      obtain rfl : v' = v := Option.some.inj h
      rw [hjoin _ hs, Option.some_or]
    | none =>
      rw [hs, Option.none_or] at h
      rw [lookup_join, hs, Option.bind_none, Option.none_or]
      exact hjoin path h

/-- **One step**: a key without points finds the entry that has it. -/
theorem lookup_of_isStep {k : String} (h : IsStep k) : d.lookup k = presentValue d.entries k := by
  rw [lookup_eq_of_keys (pathKeys_of_isStep h), presentValue]
  cases d.entries.lookup k <;> rfl

/-- **Where a path looks**: documents with the same entry under its first key agree on it. -/
theorem lookup_congr {d' : Document} {path : String}
    (h : d.entries.lookup (firstKey path) = d'.entries.lookup (firstKey path)) :
    d.lookup path = d'.lookup path := by
  obtain ⟨ks, hks⟩ := pathKeys_eq_cons path
  rw [lookup_eq_of_keys hks, lookup_eq_of_keys hks, h]

/-- What is no map ends the walk into a section. -/
theorem lookup_join_of_leaf {s p : String} {v : Json}
    (h : presentValue d.entries (firstKey s) = some v) (hv : v.isMap = false) :
    d.lookup (s ++ "." ++ p) = some v := by
  obtain ⟨ks, hks⟩ := pathKeys_join_eq_cons s p
  obtain ⟨hl, hn⟩ := presentValue_eq_some_iff.mp h
  rw [lookup_eq_of_keys hks, hl, Option.bind_some, Json.walk_of_not_isMap hv]
  simp [hn]

/-- What is absent, or `null`, ends it as well. -/
theorem lookup_join_of_absent {s p : String} (h : presentValue d.entries (firstKey s) = none) :
    d.lookup (s ++ "." ++ p) = none := by
  obtain ⟨ks, hks⟩ := pathKeys_join_eq_cons s p
  rw [lookup_eq_of_keys hks]
  cases hl : d.entries.lookup (firstKey s) with
  | none => rfl
  | some v =>
    obtain rfl : v = .null := Json.isNull_iff.mp (by simpa [presentValue, hl] using h)
    rw [Option.bind_some, Json.walk_of_not_isMap rfl]
    rfl

/-- A map is looked into. -/
theorem lookup_join_of_map {s p : String} {es : Json.Entries} (hs : IsStep s) (hp : IsStep p)
    (h : presentValue d.entries s = some (.map es)) :
    d.lookup (s ++ "." ++ p) = presentValue es p := by
  have hks : pathKeys (s ++ "." ++ p) = [s, p] := by
    rw [pathKeys_join, pathKeys_of_isStep hs, pathKeys_of_isStep hp, List.singleton_append]
  rw [lookup_eq_of_keys hks, (presentValue_eq_some_iff.mp h).1, Option.bind_some, Json.walk,
    presentValue]
  cases es.lookup p <;> rfl

end Document

end LiveConfig
