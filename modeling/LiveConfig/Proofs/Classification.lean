import LiveConfig.Proofs.Maps
import Mathlib.Data.List.Basic

/-!
What a difference consists of.

`classification` is the list of changes by the keys of two maps, and `Classifies` says what a list
of changes tells about them.  Main statement: `diff_tells_each_key`, `diff` makes exactly this list,
and the difference of the watched parts of two documents is put together from two of them.
-/

namespace LiveConfig

open KeyOrder

/-! ### One key -/

/-- The change of a name from one value to another, where `none` is no value. -/
def Change.between? (name : String) : Option Json → Option Json → Option Change
  | none, none => none
  | none, some v => some (.added name v)
  | some _, none => some (.deleted name)
  | some u, some v => if u.same v then none else some (.updated name v)

/-- Whether one value, which may be none, is another than the second. -/
def Differs : Option Json → Option Json → Prop
  | none, none => False
  | some u, some v => u.same v = false
  | _, _ => True

theorem Change.isSome_between?_iff {name : String} {a b : Option Json} :
    (Change.between? name a b).isSome ↔ Differs a b := by
  rcases a with _ | u <;> rcases b with _ | v <;> simp [Change.between?, Differs]

/-! ### All keys -/

section Classification

variable (previous new : Json.Entries) (qualify : String → String)

/-- The change of a key that was there. -/
def changeOfKey? (k : String) : Option Change :=
  match presentValue previous k, presentValue new k with
  | some _, none => some (.deleted (qualify k))
  | some u, some v => if u.same v then none else some (.updated (qualify k) v)
  | none, _ => none

/-- The change of a key that was not there. -/
def additionOfKey? (k : String) : Option Change :=
  match presentValue previous k, presentValue new k with
  | none, some v => some (.added (qualify k) v)
  | _, _ => none

/-- **The changes by keys**: first of the keys that were there, in their order, then of the new ones
in theirs. -/
def classification : List Change :=
  (previous.map (·.1)).filterMap (changeOfKey? previous new qualify) ++
    (new.map (·.1)).filterMap (additionOfKey? previous new qualify)

/-- The change of a key from one map to another. -/
def changeAt? (k : String) : Option Change :=
  Change.between? (qualify k) (presentValue previous k) (presentValue new k)

/-- The keys in the order in which their changes are told. -/
def scanned : List String :=
  (previous.map (·.1)).filter (fun k => (presentValue previous k).isSome) ++
    (new.map (·.1)).filter (fun k => (presentValue previous k).isNone)

variable {previous new qualify}

theorem changeOfKey?_eq : changeOfKey? previous new qualify = fun k =>
    if (presentValue previous k).isSome then changeAt? previous new qualify k else none := by
  funext k
  unfold changeOfKey? changeAt? Change.between?
  cases presentValue previous k <;> cases presentValue new k <;> simp

theorem additionOfKey?_eq : additionOfKey? previous new qualify = fun k =>
    if (presentValue previous k).isNone then changeAt? previous new qualify k else none := by
  funext k
  unfold additionOfKey? changeAt? Change.between?
  cases presentValue previous k <;> cases presentValue new k <;> simp

theorem classification_eq_scanned : classification previous new qualify =
    (scanned previous new).filterMap (changeAt? previous new qualify) := by
  unfold classification scanned
  rw [List.filterMap_append, List.filterMap_filter, List.filterMap_filter, changeOfKey?_eq,
    additionOfKey?_eq]

theorem nodup_scanned (hp : Increasing previous) (hn : Increasing new) :
    (scanned previous new).Nodup := by
  refine List.nodup_append.mpr ⟨hp.nodup_keys.filter _, hn.nodup_keys.filter _, ?_⟩
  intro a ha b hb hab
  subst hab
  have h1 := (List.mem_filter.mp ha).2
  have h2 := (List.mem_filter.mp hb).2
  simp_all

/-- A key that differs is among the keys scanned. -/
theorem mem_scanned_of_differs {k : String}
    (h : Differs (presentValue previous k) (presentValue new k)) : k ∈ scanned previous new := by
  unfold scanned
  rw [List.mem_append, List.mem_filter, List.mem_filter]
  rcases hp : presentValue previous k with _ | u
  · rcases hn : presentValue new k with _ | v
    · rw [hp, hn] at h
      exact h.elim
    · exact .inr ⟨mem_keys_of_presentValue hn, by simp⟩
  · exact .inl ⟨mem_keys_of_presentValue hp, by simp⟩

/-- The difference of two maps is told by keys. -/
theorem diff_eq_classification (hp : Increasing previous) (hn : Increasing new) :
    diff previous new qualify = classification previous new qualify := by
  unfold diff classification
  rw [List.filterMap_map, List.filterMap_map]
  congr 1
  · refine List.filterMap_congr fun e he => ?_
    have h := presentValue_of_mem hp he
    simp only [changeOf?, Function.comp, changeOfKey?, h]
    cases e.2.isNull <;> simp
    cases presentValue new e.1 <;> simp
  · refine List.filterMap_congr fun e he => ?_
    have h := presentValue_of_mem hn he
    simp only [additionOf?, Function.comp, additionOfKey?, h]
    cases e.2.isNull <;> cases presentValue previous e.1 <;> simp

/-- Changes in a list of keys stand for the keys that have one, each of them once. -/
theorem forall₂_filterMap (f : String → Option Change) (ks : List String) :
    List.Forall₂ (fun k c => f k = some c) (ks.filter fun k => (f k).isSome) (ks.filterMap f) := by
  induction ks with
  | nil => exact .nil
  | cons k ks ih =>
    cases h : f k with
    | none => simpa [List.filterMap_cons, h] using ih
    | some c =>
      rw [List.filter_cons_of_pos (by simp [h]), List.filterMap_cons_some h]
      exact .cons h ih

end Classification

/-! ### What changes tell -/

/-- **What a list of changes tells**: of every key of both maps whether and how it differs. -/
structure Classifies (previous new : Json.Entries) (qualify : String → String)
    (changes : List Change) : Prop where
  /-- The list is the classification by keys. -/
  exact : changes = classification previous new qualify
  /-- Every key that differs is told of once, and no other key is. -/
  once : ∃ keys : List String, keys.Nodup ∧
    (∀ k, k ∈ keys ↔ Differs (presentValue previous k) (presentValue new k)) ∧
    List.Forall₂ (fun k c => changeAt? previous new qualify k = some c) keys changes
  /-- Just what is deleted has no value. -/
  value_eq_none_iff : ∀ c ∈ changes, c.value = none ↔ c.kind = .deleted
  /-- No value is `null`. -/
  value_ne_null : ∀ c ∈ changes, c.value ≠ some .null

theorem Change.value_of_between {name : String} {a b : Option Json} {c : Change}
    (h : Change.between? name a b = some c) : c.value = b ∧ (b = none ↔ c.kind = .deleted) := by
  rcases a with _ | u <;> rcases b with _ | v
  · simp [Change.between?] at h
  · obtain rfl : Change.added name v = c := by simpa [Change.between?] using h
    simp [Change.added]
  · obtain rfl : Change.deleted name = c := by simpa [Change.between?] using h
    simp [Change.deleted]
  · obtain ⟨-, rfl⟩ : u.same v = false ∧ Change.updated name v = c := by
      simpa [Change.between?] using h
    simp [Change.updated]

section

variable {previous new : Json.Entries} (hp : Increasing previous) (hn : Increasing new)
include hp hn

theorem classifies_classification (qualify : String → String) :
    Classifies previous new qualify (classification previous new qualify) := by
  have hval : ∀ c ∈ classification previous new qualify,
      ∃ k, c.value = presentValue new k ∧ (c.value = none ↔ c.kind = .deleted) := by
    intro c hc
    rw [classification_eq_scanned] at hc
    obtain ⟨k, -, hk⟩ := List.mem_filterMap.mp hc
    obtain ⟨h1, h2⟩ := Change.value_of_between hk
    exact ⟨k, h1, h1 ▸ h2⟩
  refine ⟨rfl, ?_, fun c hc => ?_, fun c hc hnull => ?_⟩
  · refine ⟨(scanned previous new).filter fun k => (changeAt? previous new qualify k).isSome,
      (nodup_scanned hp hn).filter _, fun k => ?_, ?_⟩
    · rw [List.mem_filter, changeAt?, Change.isSome_between?_iff]
      exact ⟨fun h => h.2, fun h => ⟨mem_scanned_of_differs h, h⟩⟩
    · rw [classification_eq_scanned]
      exact forall₂_filterMap _ _
  · obtain ⟨k, -, h⟩ := hval c hc
    exact h
  · obtain ⟨k, h, -⟩ := hval c hc
    have := (presentValue_eq_some_iff.mp (h.symm.trans hnull)).2
    simp [Json.isNull] at this

theorem classifies_diff (qualify : String → String) :
    Classifies previous new qualify (diff previous new qualify) := by
  rw [diff_eq_classification hp hn]
  exact classifies_classification hp hn qualify

end

/-- **Key by key**: the difference of two maps tells of each key what becomes of it, and that of two
documents does so of the top entries and then of the active section. -/
theorem diff_tells_each_key :
    (∀ (previous new : Json.Entries) (qualify : String → String),
      Increasing previous → Increasing new →
        Classifies previous new qualify (diff previous new qualify)) ∧
    ∀ (previous new : Document) (sectionName : Option String),
      let p := Sections.of previous sectionName
      let n := Sections.of new sectionName
      ∃ globals targets, diffSections p n sectionName = globals ++ targets ∧
        Classifies p.global n.global id globals ∧
        match sectionName with
        | none => targets = []
        | some s => Classifies p.target n.target (fun key => s ++ "." ++ key) targets := by
  refine ⟨fun previous new qualify hp hn => classifies_diff hp hn qualify, ?_⟩
  intro previous new sectionName p n
  have hglobal := classifies_diff (Sections.increasing_global previous sectionName)
    (Sections.increasing_global new sectionName) id
  cases sectionName with
  | none => exact ⟨_, [], rfl, hglobal, rfl⟩
  | some s =>
    exact ⟨_, _, rfl, hglobal, classifies_diff (Sections.increasing_target previous (some s))
      (Sections.increasing_target new (some s)) _⟩

/-- A name goes, another one comes, a third has another value, and one stays. -/
theorem diff_tells_each_key_of_four :
    let previous : Json.Entries :=
      [("a", .text "x"), ("b", .null), ("c", .bool true), ("d", .bool true)]
    let new : Json.Entries :=
      [("a", .null), ("b", .text "y"), ("c", .bool false), ("d", .bool true)]
    Increasing previous ∧ Increasing new ∧ Classifies previous new id (diff previous new id) ∧
      (diff previous new id).map (fun c => (c.name, c.kind)) =
        [("a", .deleted), ("c", .updated), ("b", .added)] := by
  intro previous new
  have hp : Increasing previous := by
    unfold Increasing
    decide
  have hn : Increasing new := by
    unfold Increasing
    decide
  exact ⟨hp, hn, diff_tells_each_key.1 previous new id hp hn, by decide +kernel⟩

end LiveConfig
