import LiveConfig.Proofs.ChangeNames

/-!
What is read is told of.

Documents are looked into along paths, and they are watched key by key.  `ReadsDifferently` says
that a reader of scalars sees two values as different, and `SectionIsWatched` leaves out what lies
in maps that nobody watches.  Main statement: `changes_cover_lookups`, when a lookup reads
differently than before, then the key, the key in the section or the section itself is told of.
-/

namespace LiveConfig

/-! ### Readers of scalars -/

/-- **Different for a reader of scalars**: one of the values is no map, and the other one is
missing, a map, or another value. -/
def ReadsDifferently (u v : Option Json) : Prop :=
  (∃ x, u = some x ∧ x.isMap = false ∧ ∀ y, v = some y → y.isMap = false → x.same y = false) ∨
    ∃ y, v = some y ∧ y.isMap = false ∧ ∀ x, u = some x → x.isMap = false → x.same y = false

/-- To such a reader a map is the same as nothing. -/
def scalar? (v : Option Json) : Option Json := v.filter (!·.isMap)

theorem scalar?_eq_some_iff {u : Option Json} {x : Json} :
    scalar? u = some x ↔ u = some x ∧ x.isMap = false := by
  simp [scalar?, Option.filter_eq_some_iff]

theorem readsDifferently_iff {u v : Option Json} :
    ReadsDifferently u v ↔ Differs (scalar? u) (scalar? v) := by
  have hforall : ∀ (w : Option Json) (P : Json → Prop),
      (∀ x, w = some x → x.isMap = false → P x) ↔ ∀ x, scalar? w = some x → P x :=
    fun w P => by simp [scalar?_eq_some_iff]
  simp only [ReadsDifferently, hforall, ← and_assoc, ← scalar?_eq_some_iff]
  cases scalar? u <;> cases scalar? v <;> simp [Differs]

theorem Json.isMap_eq_of_same {x y : Json} (h : x.same y = true) : x.isMap = y.isMap := by
  cases x <;> cases y <;> simp_all [Json.same, Json.isMap]

/-- What is different to such a reader is different. -/
theorem Differs.of_scalar? {u v : Option Json} (h : Differs (scalar? u) (scalar? v)) :
    Differs u v := by
  rcases u with _ | x <;> rcases v with _ | y
  · exact h
  · trivial
  · trivial
  · rw [Differs, ← Bool.not_eq_true]
    intro hsame
    have hmap := Json.isMap_eq_of_same hsame
    cases hx : x.isMap with
    | true => simp [scalar?, Option.filter, hx, ← hmap, Differs] at h
    | false => simp [scalar?, Option.filter, hx, ← hmap, Differs, hsame] at h

/-- What is different after a fallback is so before it or in what is fallen back to. -/
theorem Differs.of_or {u u' v v' : Option Json}
    (h : Differs (scalar? (u.or u')) (scalar? (v.or v'))) :
    Differs u v ∨ Differs (scalar? u') (scalar? v') := by
  rcases u with _ | x <;> rcases v with _ | y
  · exact .inr h
  · exact .inl trivial
  · exact .inl trivial
  · exact .inl h.of_scalar?

/-! ### Lookups under a section -/

namespace Document

/-- The entry under a key is there and is no map. -/
def HasScalar (d : Document) (k : String) : Prop :=
  ∃ v, presentValue d.entries k = some v ∧ v.isMap = false

/-- **Where sections are watched**: the name of the section is one key, or it leads to nothing
inside of a map. -/
def SectionIsWatched (d : Document) (s path : String) : Prop :=
  IsStep s ∨ ∀ es, presentValue d.entries (firstKey s) = some (.map es) →
    d.lookup (s ++ "." ++ path) = none

variable {d : Document} {s path : String}

theorem hasScalar_iff {k : String} :
    d.HasScalar k ↔ ∃ v, scalar? (presentValue d.entries k) = some v := by
  simp [HasScalar, scalar?_eq_some_iff]

theorem resolve_eq_of_scalar? {v : Json}
    (h : scalar? (presentValue d.entries (firstKey s)) = some v) :
    d.resolve (some s) path = some v := by
  obtain ⟨hv, hmap⟩ := scalar?_eq_some_iff.mp h
  rw [resolve_some, lookup_join_of_leaf hv hmap, Option.some_or]

/-- A section that is no scalar is looked up where it is watched. -/
theorem lookup_join_eq_target (hs : IsStep s) (hpath : IsStep path) (h : ¬ d.HasScalar s) :
    d.lookup (s ++ "." ++ path) = presentValue (Sections.of d (some s)).target path := by
  cases hv : presentValue d.entries s with
  | none =>
    rw [lookup_join_of_absent (by rwa [firstKey_of_isStep hs]),
      Sections.presentValue_target_of_not_map (by simp [hv])]
  | some v =>
    cases v with
    | map es => rw [lookup_join_of_map hs hpath hv, Sections.presentValue_target_of_map hv]
    | _ => exact absurd ⟨_, hv, rfl⟩ h

/-- A watched section of several keys that is no scalar has nothing. -/
theorem lookup_join_eq_none (hs : ¬ IsStep s) (hwatched : d.SectionIsWatched s path)
    (h : ¬ d.HasScalar (firstKey s)) : d.lookup (s ++ "." ++ path) = none := by
  cases hv : presentValue d.entries (firstKey s) with
  | none => exact lookup_join_of_absent hv
  | some v =>
    cases v with
    | map es => exact hwatched.resolve_left hs es hv
    | _ => exact absurd ⟨_, hv, rfl⟩ h

end Document

/-! ### What is told -/

section Changes

variable {previous new : Document} {sectionName : Option String} {path : String}

theorem exists_change_at_top {k : String} (h : Differs (scalar? (presentValue previous.entries k))
    (scalar? (presentValue new.entries k))) :
    ∃ c ∈ diffSections (.of previous sectionName) (.of new sectionName) sectionName,
      c.name = k := by
  have hwatched : Differs (presentValue (Sections.of previous sectionName).global k)
      (presentValue (Sections.of new sectionName).global k) := by
    rwa [Sections.presentValue_global, Sections.presentValue_global]
  obtain ⟨c, hc⟩ := exists_changeAt?_iff.mpr hwatched
  exact ⟨c, mem_diffSections_iff.mpr ⟨[k], .top hc⟩, Change.name_of_between hc⟩

theorem exists_change_in_section {s k : String}
    (h : Differs (presentValue (Sections.of previous (some s)).target k)
      (presentValue (Sections.of new (some s)).target k)) :
    ∃ c ∈ diffSections (.of previous (some s)) (.of new (some s)) (some s),
      c.name = s ++ "." ++ k := by
  obtain ⟨c, hc⟩ := exists_changeAt?_iff.mpr h
  exact ⟨c, mem_diffSections_iff.mpr ⟨[s, k], .inSection rfl hc⟩, Change.name_of_between hc⟩

/-- **A section that is a scalar is told of**: every lookup under it reads that scalar. -/
theorem exists_change_of_hasScalar {s : String}
    (hscalar : previous.HasScalar (firstKey s) ∨ new.HasScalar (firstKey s))
    (h : ReadsDifferently (previous.resolve (some s) path) (new.resolve (some s) path)) :
    ∃ c ∈ diffSections (.of previous (some s)) (.of new (some s)) (some s),
      c.name = firstKey s := by
  refine exists_change_at_top ?_
  rw [Document.hasScalar_iff, Document.hasScalar_iff] at hscalar
  cases hu : scalar? (presentValue previous.entries (firstKey s)) with
  | none =>
    obtain ⟨v, hv⟩ := hscalar.resolve_left (by simp [hu])
    rw [hv]
    trivial
  | some u =>
    cases hv : scalar? (presentValue new.entries (firstKey s)) with
    | none => trivial
    | some v =>
      rw [Document.resolve_eq_of_scalar? hu, Document.resolve_eq_of_scalar? hv,
        readsDifferently_iff] at h
      exact h.of_scalar?

/-- **Otherwise the key is told of**, in the section or at the top. -/
theorem exists_change_of_not_hasScalar {s : String} (hpath : IsStep path)
    (hprevious : ¬ previous.HasScalar (firstKey s)) (hnew : ¬ new.HasScalar (firstKey s))
    (hwatched : previous.SectionIsWatched s path ∧ new.SectionIsWatched s path)
    (h : ReadsDifferently (previous.resolve (some s) path) (new.resolve (some s) path)) :
    ∃ c ∈ diffSections (.of previous (some s)) (.of new (some s)) (some s),
      c.name = path ∨ c.name = s ++ "." ++ path := by
  rw [readsDifferently_iff, Document.resolve_some, Document.resolve_some,
    Document.lookup_of_isStep hpath, Document.lookup_of_isStep hpath] at h
  by_cases hs : IsStep s
  · rw [firstKey_of_isStep hs] at hprevious hnew
    rw [Document.lookup_join_eq_target hs hpath hprevious,
      Document.lookup_join_eq_target hs hpath hnew] at h
    rcases h.of_or with hsection | htop
    · obtain ⟨c, hc, hname⟩ := exists_change_in_section hsection
      exact ⟨c, hc, .inr hname⟩
    · obtain ⟨c, hc, hname⟩ := exists_change_at_top htop
      exact ⟨c, hc, .inl hname⟩
  · rw [Document.lookup_join_eq_none hs hwatched.1 hprevious,
      Document.lookup_join_eq_none hs hwatched.2 hnew, Option.none_or, Option.none_or] at h
    obtain ⟨c, hc, hname⟩ := exists_change_at_top h
    exact ⟨c, hc, .inl hname⟩

end Changes

/-- **Changes cover lookups.**  When the lookup of a key reads differently than before and the
section is watched, then there is a change of the key or of the key in the section; only where the
section itself was or is a scalar at the top, which every lookup under it reads, the change may be
of that one instead. -/
theorem changes_cover_lookups (previous new : Document) (sectionName : Option String)
    (path : String) (hpath : IsStep path)
    (hwatched : ∀ s, sectionName = some s →
      previous.SectionIsWatched s path ∧ new.SectionIsWatched s path)
    (hreads : ReadsDifferently (previous.resolve sectionName path)
      (new.resolve sectionName path)) :
    ∃ c ∈ diffSections (.of previous sectionName) (.of new sectionName) sectionName,
      c.name = path ∨ ∃ s, sectionName = some s ∧ (c.name = s ++ "." ++ path ∨
        c.name = firstKey s ∧ (previous.HasScalar (firstKey s) ∨ new.HasScalar (firstKey s))) := by
  cases sectionName with
  | none =>
    rw [readsDifferently_iff, Document.resolve_none, Document.resolve_none,
      Document.lookup_of_isStep hpath, Document.lookup_of_isStep hpath] at hreads
    obtain ⟨c, hc, hname⟩ := exists_change_at_top hreads
    exact ⟨c, hc, .inl hname⟩
  | some s =>
    by_cases hscalar : previous.HasScalar (firstKey s) ∨ new.HasScalar (firstKey s)
    · obtain ⟨c, hc, hname⟩ := exists_change_of_hasScalar hscalar hreads
      exact ⟨c, hc, .inr ⟨s, rfl, .inr ⟨hname, hscalar⟩⟩⟩
    · obtain ⟨hprevious, hnew⟩ := not_or.mp hscalar
      obtain ⟨c, hc, hname⟩ :=
        exists_change_of_not_hasScalar hpath hprevious hnew (hwatched s rfl) hreads
      exact ⟨c, hc, hname.imp_right fun hname => ⟨s, rfl, .inl hname⟩⟩

/-- A section loses a value and its lookup falls back to the one at the top. -/
theorem changes_cover_lookups_falling_back :
    let previous : Document :=
      .ofEntries [("port", .text "8080"), ("svc", .map [("port", .text "8085")])]
    let new : Document := .ofEntries [("port", .text "8080"), ("svc", .map [])]
    IsStep "port" ∧ (previous.SectionIsWatched "svc" "port" ∧ new.SectionIsWatched "svc" "port") ∧
      ReadsDifferently (previous.resolve (some "svc") "port") (new.resolve (some "svc") "port") ∧
      ∃ c ∈ diffSections (.of previous (some "svc")) (.of new (some "svc")) (some "svc"),
        c.name = "svc.port" := by
  intro previous new
  have hpath : IsStep "port" := by decide
  have hwatched : previous.SectionIsWatched "svc" "port" ∧ new.SectionIsWatched "svc" "port" :=
    ⟨.inl (by decide), .inl (by decide)⟩
  have hreads : ReadsDifferently (previous.resolve (some "svc") "port")
      (new.resolve (some "svc") "port") := by
    refine .inl ⟨.text "8085", rfl, rfl, fun y hy _ => ?_⟩
    cases hy
    decide
  have hnames : (diffSections (.of previous (some "svc")) (.of new (some "svc"))
      (some "svc")).map (·.name) = ["svc.port"] := by decide +kernel
  obtain ⟨c, hc, -⟩ := changes_cover_lookups previous new (some "svc") "port" hpath
    (by rintro s ⟨⟩; exact hwatched) hreads
  have hname : c.name ∈ ["svc.port"] := hnames ▸ List.mem_map_of_mem hc
  exact ⟨hpath, hwatched, hreads, c, hc, List.mem_singleton.mp hname⟩

/-- **Where the section is no map** its lookups read the scalar in its place, and the change is told
under the name of the section; and where a section is named by several keys, changes inside of its
maps are not told at all. -/
theorem changes_miss_lookups_without_map :
    let scalar (text : String) : Document := .ofEntries [("s", .text text)]
    let nested (text : String) : Document :=
      .ofEntries [("a", .map [("b", .map [("p", .text text)])])]
    let changes (s : String) (previous new : Document) :=
      diffSections (.of previous (some s)) (.of new (some s)) (some s)
    IsStep "p" ∧
      (ReadsDifferently ((scalar "x").resolve (some "s") "p")
          ((scalar "y").resolve (some "s") "p") ∧
        (changes "s" (scalar "x") (scalar "y")).map (·.name) = ["s"]) ∧
      ReadsDifferently ((nested "x").resolve (some "a.b") "p")
          ((nested "y").resolve (some "a.b") "p") ∧
        changes "a.b" (nested "x") (nested "y") = [] := by
  intro scalar nested changes
  refine ⟨by decide, ⟨.inl ⟨.text "x", rfl, rfl, fun y hy _ => ?_⟩, by decide +kernel⟩,
    .inl ⟨.text "x", rfl, rfl, fun y hy _ => ?_⟩, by rfl⟩
  · cases hy
    decide
  · cases hy
    decide

end LiveConfig
