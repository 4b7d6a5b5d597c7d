import LiveConfig.Proofs.Nulls

/-!
What of a document is watched, and what is not.

`Document.Watches` says which entries are watched: values at the top and values in the active
section.  `LooksSame` is how an entry at the top may differ from another one without anybody
noticing.  Main statement: `watched_entries_decide`, the watched part of a document holds just these
entries, and documents that look the same have no difference, nor other differences to a third one.
-/

namespace LiveConfig

open KeyOrder

attribute [ext] Sections

/-! ### Watched entries -/

/-- Where an entry is that is watched: at the top, or in the active section. -/
inductive Place where
  | top (key : String)
  | inSection (key : String)

/-- **The watched entries of a document**: at the top those that are neither `null` nor maps, and
of the map of the active section those that are not `null`. -/
inductive Document.Watches (d : Document) (sectionName : Option String) : Place → Json → Prop
  | top {k : String} {v : Json} (found : d.entries.lookup k = some v) (notNull : v.isNull = false)
      (notMap : v.isMap = false) : Watches d sectionName (.top k) v
  | inSection {s k : String} {es : Json.Entries} {v : Json} (active : sectionName = some s)
      (isMap : d.entries.lookup s = some (.map es)) (found : es.lookup k = some v)
      (notNull : v.isNull = false) : Watches d sectionName (.inSection k) v

namespace Sections

variable {d : Document} {sectionName : Option String} {k : String} {v : Json}

/-- The watched value of an entry. -/
def valueAt (s : Sections) : Place → Option Json
  | .top k => presentValue s.global k
  | .inSection k => presentValue s.target k

theorem mem_global_iff :
    (k, v) ∈ (Sections.of d sectionName).global ↔ d.Watches sectionName (.top k) v := by
  unfold Sections.of
  rw [List.mem_filter, ← d.increasing_entries.lookup_eq_some_iff]
  constructor
  · rintro ⟨hfound, hwatched⟩
    obtain ⟨hnull, hmap⟩ : v.isNull = false ∧ v.isMap = false := by simpa using hwatched
    exact .top hfound hnull hmap
  · intro h
    cases h with
    | top found notNull notMap => exact ⟨found, by simp [notNull, notMap]⟩

theorem mem_target_iff :
    (k, v) ∈ (Sections.of d sectionName).target ↔ d.Watches sectionName (.inSection k) v := by
  constructor
  · intro h
    unfold Sections.of at h
    dsimp only at h
    split at h
    · rename_i es hes
      obtain ⟨s, hs, hmap⟩ := Option.bind_eq_some_iff.mp hes
      obtain ⟨hmem, hnull⟩ := List.mem_filter.mp h
      exact .inSection hs hmap ((Document.increasing_of_lookup hmap).lookup_eq_some_iff.mpr hmem)
        (by simpa using hnull)
    · cases h
  · intro h
    cases h with
    | @inSection s _ es _ active isMap found notNull =>
      subst active
      have htarget : (Sections.of d (some s)).target = present es := by
        unfold Sections.of
        rw [Option.bind_some, isMap]
      rw [htarget]
      exact List.mem_filter.mpr ⟨mem_of_lookup found, by simp [notNull]⟩

/-- Watched values are those of watched entries. -/
theorem valueAt_eq_some_iff {place : Place} :
    (Sections.of d sectionName).valueAt place = some v ↔ d.Watches sectionName place v := by
  obtain ⟨hglobal, htarget⟩ := Sections.of_forall d sectionName
  cases place with
  | top k =>
    rw [valueAt, presentValue_eq_some_iff,
      (increasing_global d sectionName).lookup_eq_some_iff, mem_global_iff]
    exact and_iff_left_of_imp fun h => (hglobal _ (mem_global_iff.mpr h)).1
  | inSection k =>
    rw [valueAt, presentValue_eq_some_iff,
      (increasing_target d sectionName).lookup_eq_some_iff, mem_target_iff]
    exact and_iff_left_of_imp fun h => (htarget _ (mem_target_iff.mpr h)).1

end Sections

/-! ### The same watched part -/

/-- Maps of the same entries are the same. -/
theorem KeyOrder.Increasing.ext {α : Type} {xs ys : List (String × α)} (hx : Increasing xs)
    (hy : Increasing ys) (h : ∀ e, e ∈ xs ↔ e ∈ ys) : xs = ys := by
  have hperm : xs.Perm ys :=
    (List.perm_ext_iff_of_nodup hx.nodup_keys.of_map hy.nodup_keys.of_map).mpr h
  exact hperm.eq_of_pairwise (fun a b _ _ hab hba => absurd hba (String.lt_asymm hab)) hx hy

/-- **The watched entries decide**: the watched parts of two documents are the same just if their
watched entries are. -/
theorem Sections.of_eq_iff {d d' : Document} {sectionName : Option String} :
    Sections.of d sectionName = Sections.of d' sectionName ↔
      ∀ place v, d.Watches sectionName place v ↔ d'.Watches sectionName place v := by
  constructor
  · intro h place v
    rw [← valueAt_eq_some_iff, h, valueAt_eq_some_iff]
  · intro h
    have hglobal : (Sections.of d sectionName).global = (Sections.of d' sectionName).global := by
      refine (increasing_global d sectionName).ext (increasing_global d' sectionName) fun e => ?_
      exact mem_global_iff.trans ((h (.top e.1) e.2).trans mem_global_iff.symm)
    have htarget : (Sections.of d sectionName).target = (Sections.of d' sectionName).target := by
      refine (increasing_target d sectionName).ext (increasing_target d' sectionName) fun e => ?_
      exact mem_target_iff.trans ((h (.inSection e.1) e.2).trans mem_target_iff.symm)
    exact Sections.ext hglobal htarget

/-! ### What nobody watches -/

/-- **Entries under a key that look the same**: equal ones, `null` or nothing instead of `null` or
nothing, a map instead of another one if it is not the active section, and for the active section a
map that differs from the other one in entries that are `null`. -/
inductive LooksSame (sectionName : Option String) (k : String) : Option Json → Option Json → Prop
  | equal (u : Option Json) : LooksSame sectionName k u u
  | absent {u v : Option Json} (left : ∀ x, u = some x → x.isNull = true)
      (right : ∀ y, v = some y → y.isNull = true) : LooksSame sectionName k u v
  | otherMap {xs ys : Json.Entries} (inactive : sectionName ≠ some k) :
      LooksSame sectionName k (some (.map xs)) (some (.map ys))
  | activeMap {xs ys : Json.Entries} (present : ∀ j, presentValue xs j = presentValue ys j) :
      LooksSame sectionName k (some (.map xs)) (some (.map ys))

theorem LooksSame.symm {sectionName : Option String} {k : String} {u v : Option Json}
    (h : LooksSame sectionName k u v) : LooksSame sectionName k v u := by
  cases h with
  | equal => exact .equal _
  | absent left right => exact .absent right left
  | otherMap inactive => exact .otherMap inactive
  | activeMap present => exact .activeMap fun j => (present j).symm

/-- Two documents of which every entry looks the same. -/
def Document.LooksLike (d d' : Document) (sectionName : Option String) : Prop :=
  ∀ k, LooksSame sectionName k (d.entries.lookup k) (d'.entries.lookup k)

namespace Document

variable {d d' : Document} {sectionName : Option String} {place : Place} {v : Json}

theorem LooksLike.symm (h : d.LooksLike d' sectionName) : d'.LooksLike d sectionName :=
  fun k => (h k).symm

theorem Watches.of_looksLike (h : d.LooksLike d' sectionName) (hw : d.Watches sectionName place v) :
    d'.Watches sectionName place v := by
  cases hw with
  | @top k _ found notNull notMap =>
    have hk := h k
    rw [found] at hk
    generalize hu : d'.entries.lookup k = u at hk
    cases hk with
    | equal => exact .top hu notNull notMap
    | absent left => simp [left v rfl] at notNull
    | otherMap => cases notMap
    | activeMap => cases notMap
  | @inSection s k es _ active isMap found notNull =>
    have hs := h s
    rw [isMap] at hs
    generalize hu : d'.entries.lookup s = u at hs
    cases hs with
    | equal => exact .inSection active hu found notNull
    | absent left => cases left _ rfl
    | otherMap inactive => exact absurd active inactive
    | activeMap present =>
      have hpresent := (present k).symm.trans (presentValue_eq_some_iff.mpr ⟨found, notNull⟩)
      exact .inSection active hu (presentValue_eq_some_iff.mp hpresent).1 notNull

/-- Documents that look the same have the same watched part. -/
theorem LooksLike.sections_eq (h : d.LooksLike d' sectionName) :
    Sections.of d sectionName = Sections.of d' sectionName :=
  Sections.of_eq_iff.mpr fun _ _ => ⟨.of_looksLike h, .of_looksLike h.symm⟩

end Document

/-! ### No difference -/

/-- What is found in a map is canonical. -/
theorem canonical_of_presentValue {es : Json.Entries} (h : (Json.map es).Canonical) {k : String}
    {v : Json} (hv : presentValue es k = some v) : v.Canonical :=
  Json.canonicalEntries_iff.mp h.2 _ (mem_of_lookup (presentValue_eq_some_iff.mp hv).1)

/-- The watched parts of a document are canonical maps. -/
theorem Sections.canonical_of (d : Document) (sectionName : Option String) :
    (Json.map (Sections.of d sectionName).global).Canonical ∧
      (Json.map (Sections.of d sectionName).target).Canonical := by
  obtain ⟨hglobal, htarget⟩ := Sections.of_forall d sectionName
  exact ⟨⟨increasing_global d sectionName,
      Json.canonicalEntries_iff.mpr fun e he => (hglobal e he).2⟩,
    increasing_target d sectionName, Json.canonicalEntries_iff.mpr fun e he => (htarget e he).2⟩

/-- A map does not differ from itself. -/
theorem diff_self {es : Json.Entries} (h : (Json.map es).Canonical) (qualify : String → String) :
    diff es es qualify = [] := by
  rw [diff_eq_classification h.1 h.1, classification_eq_scanned, List.filterMap_eq_nil_iff]
  intro k _
  cases hk : presentValue es k with
  | none => simp [changeAt?, Change.between?, hk]
  | some v =>
    simp [changeAt?, Change.between?, hk, Json.same_refl (canonical_of_presentValue h hk)]

/-- A document does not differ from itself. -/
theorem diffSections_self (d : Document) (sectionName : Option String) :
    diffSections (.of d sectionName) (.of d sectionName) sectionName = [] := by
  obtain ⟨hglobal, htarget⟩ := Sections.canonical_of d sectionName
  unfold diffSections
  rw [diff_self hglobal, List.nil_append]
  cases sectionName with
  | none => rfl
  | some s => exact diff_self htarget _

/-- **The watched entries decide.**  The watched part of a document holds just the watched entries,
in the order of their keys, so those of two documents are the same just if they watch the same.
Between documents that look the same there is no difference, and no third document differs from the
one in another way than from the other. -/
theorem watched_entries_decide (d d' : Document) (sectionName : Option String) :
    let p := Sections.of d sectionName
    let p' := Sections.of d' sectionName
    (Increasing p.global ∧ ∀ k v, (k, v) ∈ p.global ↔ d.Watches sectionName (.top k) v) ∧
    (Increasing p.target ∧ ∀ k v, (k, v) ∈ p.target ↔ d.Watches sectionName (.inSection k) v) ∧
    (p = p' ↔ ∀ place v, d.Watches sectionName place v ↔ d'.Watches sectionName place v) ∧
    (d.LooksLike d' sectionName → p = p' ∧
      diffSections p p' sectionName = [] ∧ diffSections p' p sectionName = [] ∧
        ∀ third : Document, let q := Sections.of third sectionName
          diffSections p q sectionName = diffSections p' q sectionName ∧
            diffSections q p sectionName = diffSections q p' sectionName) := by
  intro p p'
  refine ⟨⟨Sections.increasing_global d sectionName, fun k v => Sections.mem_global_iff⟩,
    ⟨Sections.increasing_target d sectionName, fun k v => Sections.mem_target_iff⟩,
    Sections.of_eq_iff, fun hlooks => ?_⟩
  have hp : p = p' := hlooks.sections_eq
  have hself : diffSections p p sectionName = [] := diffSections_self d sectionName
  rw [← hp]
  exact ⟨rfl, hself, hself, fun third => ⟨rfl, rfl⟩⟩

/-- Another map, an entry of the section that is `null`, and one at the top: nobody sees them. -/
theorem watched_entries_decide_beside_other_map :
    let d : Document := .ofEntries [("a", .null), ("other", .map [("x", .bool true)]),
      ("port", .text "8080"), ("svc", .map [("k", .text "v"), ("n", .null)])]
    let d' : Document := .ofEntries [("other", .map [("x", .bool false), ("y", .null)]),
      ("port", .text "8080"), ("svc", .map [("k", .text "v")])]
    let third : Document := .ofEntries [("other", .text "z"), ("svc", .map [("k", .text "w")])]
    let p := Sections.of d (some "svc")
    let p' := Sections.of d' (some "svc")
    let q := Sections.of third (some "svc")
    d.LooksLike d' (some "svc") ∧ diffSections p p' (some "svc") = [] ∧
      diffSections q p (some "svc") = diffSections q p' (some "svc") ∧
      (diffSections q p (some "svc")).map (fun c => (c.name, c.kind)) =
        [("other", .deleted), ("port", .added), ("svc.k", .updated)] := by
  intro d d' third p p' q
  have hlooks : d.LooksLike d' (some "svc") := by
    intro k
    have hd : d.entries = [("a", .null), ("other", .map [("x", .bool true)]),
      ("port", .text "8080"), ("svc", .map [("k", .text "v"), ("n", .null)])] := by rfl
    have hd' : d'.entries = [("other", .map [("x", .bool false), ("y", .null)]),
      ("port", .text "8080"), ("svc", .map [("k", .text "v")])] := by rfl
    rw [hd, hd']
    by_cases ha : k = "a"
    · subst ha
      exact .absent (by rintro x ⟨⟩; rfl) (by rintro y ⟨⟩)
    by_cases ho : k = "other"
    · subst ho
      exact .otherMap (by decide)
    by_cases hp : k = "port"
    · subst hp
      exact .equal _
    by_cases hs : k = "svc"
    · subst hs
      refine .activeMap fun j => ?_
      by_cases hj : j = "n"
      · subst hj
        rfl
      · simp [presentValue, List.lookup_cons, beq_eq_false_iff_ne.mpr hj]
    · have hnone : ∀ key, k ≠ key → (k == key) = false := fun key => beq_eq_false_iff_ne.mpr
      simpa [List.lookup_cons, hnone, ha, ho, hp, hs] using LooksSame.equal none
  obtain ⟨-, -, -, hblind⟩ := watched_entries_decide d d' (some "svc")
  obtain ⟨-, hnone, -, hthird⟩ := hblind hlooks
  exact ⟨hlooks, hnone, (hthird third).2, by decide +kernel⟩

end LiveConfig
