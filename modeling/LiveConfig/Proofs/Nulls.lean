import LiveConfig.Proofs.ChangeNames
import LiveConfig.Proofs.Equality

/-!
Entries that are `null`.

`Document.erased` is a document without them, at every depth.  Looking a path up does not tell it
from the document itself.  A difference skips them at the top and at the first level of the active
section, but it compares nested values as they stand.  Main statement: `null_counts_as_absent`,
what a watched value holds inside is all that a difference notices of them.
-/

namespace LiveConfig

open KeyOrder

namespace Json

mutual

/-- A value without the map entries in it that are `null`. -/
def erased : Json → Json
  | .list xs => .list (erasedItems xs)
  | .map es => .map (erasedEntries es)
  | v => v

def erasedItems : List Json → List Json
  | [] => []
  | x :: xs => x.erased :: erasedItems xs

def erasedEntries : List (String × Json) → List (String × Json)
  | [] => []
  | (k, x) :: es => if x.isNull then erasedEntries es else (k, x.erased) :: erasedEntries es

end

mutual

/-- Whether some map in a value has an entry that is `null`. -/
def holdsNull : Json → Bool
  | .list xs => holdsNullItems xs
  | .map es => holdsNullEntries es
  | _ => false

def holdsNullItems : List Json → Bool
  | [] => false
  | x :: xs => x.holdsNull || holdsNullItems xs

def holdsNullEntries : List (String × Json) → Bool
  | [] => false
  | (_, x) :: es => x.isNull || x.holdsNull || holdsNullEntries es

end

/-! ### Values without such entries -/

theorem erasedItems_eq (xs : List Json) : erasedItems xs = xs.map erased := by
  induction xs with
  | nil => rfl
  | cons x xs ih => rw [erasedItems, ih, List.map_cons]

theorem erasedEntries_eq (es : Entries) :
    erasedEntries es = (present es).map fun e => (e.1, e.2.erased) := by
  induction es with
  | nil => rfl
  | cons e es ih =>
    unfold erasedEntries present
    rw [ih]
    cases hnull : e.2.isNull <;> simp [hnull, present]

@[simp] theorem isNull_erased (v : Json) : v.erased.isNull = v.isNull := by
  cases v <;> rfl

@[simp] theorem isMap_erased (v : Json) : v.erased.isMap = v.isMap := by
  cases v <;> rfl

theorem increasing_erasedEntries {es : Entries} (h : Increasing es) :
    Increasing (erasedEntries es) := by
  rw [erasedEntries_eq]
  exact List.pairwise_map.mpr (h.filter _)

theorem canonical_erased {v : Json} (h : v.Canonical) : v.erased.Canonical := by
  induction v using Json.induction with
  | null | bool | number | text => exact h
  | list xs ih =>
    have hxs := canonicalItems_iff.mp h
    refine canonicalItems_iff.mpr fun y hy => ?_
    rw [erasedItems_eq] at hy
    obtain ⟨x, hx, rfl⟩ := List.mem_map.mp hy
    exact ih x hx (hxs x hx)
  | map es ih =>
    have hes := canonicalEntries_iff.mp h.2
    refine ⟨increasing_erasedEntries h.1, canonicalEntries_iff.mpr fun b hb => ?_⟩
    rw [erasedEntries_eq] at hb
    obtain ⟨e, he, rfl⟩ := List.mem_map.mp hb
    have hmem : e ∈ es := List.mem_of_mem_filter he
    exact ih e hmem (hes e hmem)

theorem lookup_map_values {es : Entries} (f : Json → Json) (k : String) :
    (es.map fun e => (e.1, f e.2)).lookup k = (es.lookup k).map f := by
  induction es with
  | nil => rfl
  | cons e es ih =>
    obtain ⟨a, v⟩ := e
    rw [List.map_cons, List.lookup_cons, List.lookup_cons, ih]
    cases k == a <;> rfl

/-- **One key**: what is found is what was not `null` before. -/
theorem lookup_erasedEntries {es : Entries} (h : Increasing es) (k : String) :
    (erasedEntries es).lookup k = (presentValue es k).map erased := by
  have hpresent : (present es).lookup k = presentValue es k := by
    refine Option.ext fun v => ?_
    unfold present
    rw [(h.filter _).lookup_eq_some_iff, List.mem_filter, presentValue_eq_some_iff,
      h.lookup_eq_some_iff]
    simp
  rw [erasedEntries_eq, lookup_map_values, hpresent]

/-- Entries that are `null` do not matter to a walk, unless it ends at one. -/
theorem walk_erased {v : Json} (h : v.Canonical) (ks : List String) :
    (v.erased.walk ks).filter (!·.isNull) = ((v.walk ks).filter (!·.isNull)).map erased := by
  have hend : ∀ u : Json, (some u.erased).filter (!·.isNull) =
      ((some u).filter (!·.isNull)).map erased := by
    intro u
    cases hnull : u.isNull <;> simp [Option.filter, hnull]
  induction ks generalizing v with
  | nil => exact hend v
  | cons k ks ih =>
    cases v with
    | map es =>
      rw [erased, walk, walk, lookup_erasedEntries h.1]
      cases hl : es.lookup k with
      | none => simp [presentValue, hl]
      | some u =>
        have hu : u.Canonical := canonicalEntries_iff.mp h.2 _ (mem_of_lookup hl)
        by_cases hnull : u.isNull = true
        · obtain rfl : u = .null := isNull_iff.mp hnull
          have habsent : presentValue es k = none := by simp [presentValue, hl, isNull_iff]
          -- A walk that meets `null` finds nothing, however far it should go.
          rw [habsent]
          dsimp only
          rw [walk_of_not_isMap rfl]
          rfl
        · have hpresent : presentValue es k = some u := by
            simp [presentValue, hl, hnull]
          rw [hpresent]
          exact ih hu
    | null | bool | number | text | list => exact hend _

/-! ### Comparing with such entries -/

theorem holdsNullItems_eq_false_iff {xs : List Json} :
    holdsNullItems xs = false ↔ ∀ x ∈ xs, x.holdsNull = false := by
  induction xs with
  | nil => simp [holdsNullItems]
  | cons x xs ih => simp [holdsNullItems, ih]

theorem holdsNullEntries_eq_false_iff {es : Entries} :
    holdsNullEntries es = false ↔ ∀ e ∈ es, e.2.isNull = false ∧ e.2.holdsNull = false := by
  induction es with
  | nil => simp [holdsNullEntries]
  | cons e es ih => simp [holdsNullEntries, ih, and_assoc]

/-- **Comparing a value with what is left of it**: they are the same just if nothing was erased. -/
theorem same_erased_iff {v : Json} (h : v.Canonical) :
    v.same v.erased = true ↔ v.holdsNull = false := by
  induction v using Json.induction with
  | null | bool | number | text => exact iff_of_true (same_refl h) rfl
  | list xs ih =>
    have hxs := canonicalItems_iff.mp h
    rw [erased, same, sameItems_iff, erasedItems_eq, holdsNull, holdsNullItems_eq_false_iff]
    constructor
    · rintro ⟨-, hitems⟩ x hx
      obtain ⟨i, hi⟩ := List.mem_iff_getElem?.mp hx
      exact (ih x hx (hxs x hx)).mp (hitems i x x.erased hi (by simp [hi]))
    · intro hholds
      refine ⟨(List.length_map _).symm, fun i x y hx hy => ?_⟩
      have hmem : x ∈ xs := List.mem_of_getElem? hx
      obtain rfl : x.erased = y := by simpa [hx] using hy
      exact (ih x hmem (hxs x hmem)).mpr (hholds x hmem)
  | map es ih =>
    have hes := canonicalEntries_iff.mp h.2
    have hlength : es.length = (erasedEntries es).length ↔ ∀ e ∈ es, e.2.isNull = false := by
      rw [erasedEntries_eq, List.length_map, eq_comm, present, List.length_filter_eq_length_iff]
      simp
    rw [erased, same, Bool.and_eq_true, beq_iff_eq, hlength, sameEntries_iff, holdsNull,
      holdsNullEntries_eq_false_iff]
    constructor
    · rintro ⟨hnull, hsame⟩ e he
      obtain ⟨y, hy, hey⟩ := hsame e he
      rw [lookup_erasedEntries h.1, presentValue_of_mem h.1 he, hnull e he] at hy
      cases hy
      exact ⟨hnull e he, (ih e he (hes e he)).mp hey⟩
    · intro hholds
      refine ⟨fun e he => (hholds e he).1, fun e he => ⟨e.2.erased, ?_, ?_⟩⟩
      · rw [lookup_erasedEntries h.1, presentValue_of_mem h.1 he, (hholds e he).1]
        rfl
      · exact (ih e he (hes e he)).mpr (hholds e he).2

theorem same_erased {v : Json} (h : v.Canonical) : v.same v.erased = !v.holdsNull := by
  have hiff := same_erased_iff h
  cases hholds : v.holdsNull with
  | false => exact hiff.mpr hholds
  | true => exact Bool.eq_false_iff.mpr fun hsame => by simp [hiff.mp hsame] at hholds

end Json

/-! ### Documents without such entries -/

namespace Document

/-- A document without the map entries in it that are `null`. -/
def erased (d : Document) : Document :=
  ⟨Json.erasedEntries d.entries, Json.canonical_erased (v := .map d.entries) d.canonical⟩

variable (d : Document)

theorem lookup_erased (path : String) : d.erased.lookup path = (d.lookup path).map Json.erased :=
  Json.walk_erased (v := .map d.entries) d.canonical (pathKeys path)

/-- **Lookups do not see them.** -/
theorem resolve_erased (sectionName : Option String) (path : String) :
    d.erased.resolve sectionName path = (d.resolve sectionName path).map Json.erased := by
  cases sectionName with
  | none => exact d.lookup_erased path
  | some s =>
    rw [resolve_some, resolve_some, lookup_erased, lookup_erased, Option.map_or]

end Document

/-! ### What is watched -/

/-- The watched part of a document with other values. -/
def Sections.mapValues (f : Json → Json) (s : Sections) : Sections where
  global := s.global.map fun e => (e.1, f e.2)
  target := s.target.map fun e => (e.1, f e.2)

theorem Sections.mapValues_id (s : Sections) : s.mapValues id = s := by
  simp [mapValues]

theorem present_erasedEntries (es : Json.Entries) :
    present (Json.erasedEntries es) = (present es).map fun e => (e.1, e.2.erased) := by
  rw [Json.erasedEntries_eq, present, List.filter_map, present, List.filter_filter]
  congr 1
  exact List.filter_congr fun e _ => by simp

/-- **The same entries are watched**, with what is left of their values. -/
theorem Sections.of_erased (d : Document) (sectionName : Option String) :
    Sections.of d.erased sectionName = (Sections.of d sectionName).mapValues Json.erased := by
  have hglobal : (Sections.of d.erased sectionName).global =
      (Sections.of d sectionName).global.map fun e => (e.1, e.2.erased) := by
    unfold Sections.of Document.erased
    dsimp only
    rw [Json.erasedEntries_eq, List.filter_map, present, List.filter_filter]
    congr 1
    refine List.filter_congr fun e _ => ?_
    cases hnull : e.2.isNull <;> simp [hnull]
  have htarget : (Sections.of d.erased sectionName).target =
      (Sections.of d sectionName).target.map fun e => (e.1, e.2.erased) := by
    cases sectionName with
    | none => rfl
    | some s =>
      have hlookup : d.erased.entries.lookup s = (presentValue d.entries s).map Json.erased :=
        Json.lookup_erasedEntries d.increasing_entries s
      unfold Sections.of
      simp only [Option.bind_some]
      rw [hlookup]
      cases hl : d.entries.lookup s with
      | none => simp [presentValue, hl]
      | some v =>
        cases v with
        | map es =>
          have hpresent : presentValue d.entries s = some (.map es) := by
            simp [presentValue, hl, Json.isNull]
          rw [hpresent]
          exact present_erasedEntries es
        | null | bool | number | text | list =>
          simp [presentValue, hl, Json.isNull, Json.erased, Option.filter]
  exact congr (congrArg Sections.mk hglobal) htarget

/-- The watched values under the names of their changes. -/
def Sections.named (s : Sections) (sectionName : Option String) : List (String × Json) :=
  s.global ++
    match sectionName with
    | some name => s.target.map fun e => (name ++ "." ++ e.1, e.2)
    | none => []

/-- Every watched value is one of a document, and none is `null`. -/
theorem Sections.of_forall (d : Document) (sectionName : Option String) :
    (∀ e ∈ (Sections.of d sectionName).global, e.2.isNull = false ∧ e.2.Canonical) ∧
      ∀ e ∈ (Sections.of d sectionName).target, e.2.isNull = false ∧ e.2.Canonical := by
  have hentries := Json.canonicalEntries_iff.mp d.canonical.2
  constructor
  · intro e he
    obtain ⟨hmem, hwatched⟩ := List.mem_filter.mp he
    have hnull : e.2.isNull = false := by simp_all
    exact ⟨hnull, hentries e hmem⟩
  · intro e he
    unfold Sections.of at he
    dsimp only at he
    split at he
    · rename_i es hes
      obtain ⟨s, -, hs⟩ := Option.bind_eq_some_iff.mp hes
      have hcanonical : (Json.map es).Canonical := hentries _ (mem_of_lookup hs)
      obtain ⟨hmem, hpresent⟩ := List.mem_filter.mp he
      exact ⟨by simpa using hpresent, Json.canonicalEntries_iff.mp hcanonical.2 e hmem⟩
    · cases he

/-! ### Differences -/

section Diff

variable {f g : Json → Json} (hf : ∀ v, (f v).isNull = v.isNull)
  (hg : ∀ v, (g v).isNull = v.isNull)

include hf

theorem presentValue_map_values (es : Json.Entries) (k : String) :
    presentValue (es.map fun e => (e.1, f e.2)) k = (presentValue es k).map f := by
  unfold presentValue
  rw [Json.lookup_map_values]
  cases es.lookup k with
  | none => rfl
  | some v => cases hv : v.isNull <;> simp [Option.filter, hf, hv]

include hg

/-- **The same entries with other values** differ where the values do, and nothing else is told. -/
theorem diff_map_values {es : Json.Entries} (hes : Increasing es)
    (hnull : ∀ e ∈ es, e.2.isNull = false) (qualify : String → String) :
    diff (es.map fun e => (e.1, f e.2)) (es.map fun e => (e.1, g e.2)) qualify =
      es.filterMap fun e =>
        if (f e.2).same (g e.2) then none else some (.updated (qualify e.1) (g e.2)) := by
  have hvalue : ∀ e ∈ es, presentValue es e.1 = some e.2 := by
    intro e he
    rw [presentValue_of_mem hes he, hnull e he]
    rfl
  have hadded : (es.map fun e => (e.1, g e.2)).filterMap
      (additionOf? (es.map fun e => (e.1, f e.2)) qualify) = [] := by
    rw [List.filterMap_map, List.filterMap_eq_nil_iff]
    intro e he
    simp [additionOf?, hg, hnull e he, presentValue_map_values hf, hvalue e he]
  unfold diff
  rw [hadded, List.append_nil, List.filterMap_map]
  refine List.filterMap_congr fun e he => ?_
  simp [changeOf?, hf, hnull e he, presentValue_map_values hg, hvalue e he]

theorem diffSections_mapValues (d : Document) (sectionName : Option String) :
    let s := Sections.of d sectionName
    diffSections (s.mapValues f) (s.mapValues g) sectionName =
      (s.named sectionName).filterMap fun e =>
        if (f e.2).same (g e.2) then none else some (.updated e.1 (g e.2)) := by
  intro s
  obtain ⟨hglobal, htarget⟩ := Sections.of_forall d sectionName
  unfold diffSections Sections.named
  rw [List.filterMap_append]
  congr 1
  · exact diff_map_values hf hg (Sections.increasing_global d sectionName)
      (fun e he => (hglobal e he).1) id
  · cases sectionName with
    | none => rfl
    | some name =>
      rw [List.filterMap_map]
      exact diff_map_values hf hg (Sections.increasing_target d (some name))
        (fun e he => (htarget e he).1) _

end Diff

/-- **Entries that are `null` count as absent**, where they are looked for: without them a lookup
finds what is left of what it found before.  The difference between a document with and without
them, either way round, is one update for each watched value in which there was one, and nothing
else. -/
theorem null_counts_as_absent (d : Document) (sectionName : Option String) :
    let old := Sections.of d sectionName
    let new := Sections.of d.erased sectionName
    (∀ path, d.erased.resolve sectionName path = (d.resolve sectionName path).map Json.erased) ∧
    (diffSections old new sectionName = (old.named sectionName).filterMap fun e =>
      if e.2.holdsNull then some (.updated e.1 e.2.erased) else none) ∧
    diffSections new old sectionName = (old.named sectionName).filterMap fun e =>
      if e.2.holdsNull then some (.updated e.1 e.2) else none := by
  intro old new
  have hold : old = old.mapValues id := old.mapValues_id.symm
  have hnew : new = old.mapValues Json.erased := Sections.of_erased d sectionName
  have hcanonical : ∀ e ∈ old.named sectionName, e.2.Canonical := by
    obtain ⟨hglobal, htarget⟩ := Sections.of_forall d sectionName
    intro e he
    rcases List.mem_append.mp he with he | he
    · exact (hglobal e he).2
    · cases sectionName with
      | none => cases he
      | some name =>
        obtain ⟨e', he', rfl⟩ := List.mem_map.mp he
        exact (htarget e' he').2
  refine ⟨d.resolve_erased sectionName, ?_, ?_⟩
  · rw [hnew]
    nth_rewrite 1 [hold]
    refine (diffSections_mapValues (fun _ => rfl) Json.isNull_erased d sectionName).trans ?_
    refine List.filterMap_congr fun e he => ?_
    rw [Json.same_erased (hcanonical e he)]
    cases e.2.holdsNull <;> rfl
  · rw [hnew]
    nth_rewrite 2 [hold]
    refine (diffSections_mapValues Json.isNull_erased (fun _ => rfl) d sectionName).trans ?_
    refine List.filterMap_congr fun e he => ?_
    have hv := hcanonical e he
    rw [Json.same_comm (Json.canonical_erased hv) hv, Json.same_erased hv]
    cases e.2.holdsNull <;> rfl

/-- An entry that is `null` deeper inside of the active section does make a difference: the value
around it is told as updated. -/
theorem nested_null_is_told :
    ¬ ∀ (d : Document) (sectionName : Option String),
      diffSections (.of d sectionName) (.of d.erased sectionName) sectionName = [] := by
  intro h
  let d : Document := .ofEntries [("svc", .map [("limits", .map [("max", .null)])])]
  have htold : diffSections (.of d (some "svc")) (.of d.erased (some "svc")) (some "svc") =
      [.updated "svc.limits" (.map [])] := by rfl
  rw [h d (some "svc")] at htold
  cases htold

end LiveConfig
