import LiveConfig.Proofs.Classification
import LiveConfig.Proofs.Paths
import Mathlib.Data.List.Nodup

/-!
The names of changes as paths.

A change is of an entry at the top or of one in the active section, and its name is made of the
keys that lead there.  Names without points in their keys are paths to the values that the changes
tell.  Main statement: `change_names_lead_to_values`, two changes have the same name only where a
key at the top reads like the path to a key of the section.
-/

namespace LiveConfig

open KeyOrder

/-! ### The changes of two maps -/

theorem Change.name_of_between {name : String} {a b : Option Json} {c : Change}
    (h : Change.between? name a b = some c) : c.name = name := by
  rcases a with _ | u <;> rcases b with _ | v
  · cases h
  · exact Option.some.inj h ▸ rfl
  · exact Option.some.inj h ▸ rfl
  · rw [Change.between?] at h
    split at h
    · cases h
    · exact Option.some.inj h ▸ rfl

/-- Whatever is not deleted is told with its new value. -/
theorem Change.value_of_not_deleted {name : String} {a b : Option Json} {c : Change}
    (h : Change.between? name a b = some c) (hc : c.kind ≠ .deleted) :
    ∃ v, b = some v ∧ c.value = some v := by
  obtain ⟨hvalue, hnone⟩ := Change.value_of_between h
  obtain ⟨v, hv⟩ := Option.ne_none_iff_exists'.mp fun hb => hc (hnone.mp hb)
  exact ⟨v, hv, hvalue.trans hv⟩

theorem map_name_eq_of_forall₂ {previous new : Json.Entries} {qualify : String → String}
    {keys : List String} {changes : List Change}
    (h : List.Forall₂ (fun k c => changeAt? previous new qualify k = some c) keys changes) :
    changes.map (·.name) = keys.map qualify := by
  induction h with
  | nil => rfl
  | cons hk _ ih => rw [List.map_cons, List.map_cons, ih, Change.name_of_between hk]

section Diff

variable {previous new : Json.Entries} {qualify : String → String}

/-- A key that differs has a change. -/
theorem exists_changeAt?_iff {k : String} : (∃ c, changeAt? previous new qualify k = some c) ↔
    Differs (presentValue previous k) (presentValue new k) :=
  Option.isSome_iff_exists.symm.trans Change.isSome_between?_iff

variable (hp : Increasing previous) (hn : Increasing new)
include hp hn

theorem mem_diff_iff {c : Change} :
    c ∈ diff previous new qualify ↔ ∃ k, changeAt? previous new qualify k = some c := by
  rw [diff_eq_classification hp hn, classification_eq_scanned, List.mem_filterMap]
  constructor
  · rintro ⟨k, -, hk⟩
    exact ⟨k, hk⟩
  · rintro ⟨k, hk⟩
    exact ⟨k, mem_scanned_of_differs (exists_changeAt?_iff.mp ⟨c, hk⟩), hk⟩

/-- The names of the changes are those of the keys that differ, each once. -/
theorem exists_keys_of_diff (qualify : String → String) : ∃ keys : List String, keys.Nodup ∧
    (∀ k, k ∈ keys ↔ Differs (presentValue previous k) (presentValue new k)) ∧
      (diff previous new qualify).map (·.name) = keys.map qualify := by
  obtain ⟨keys, hnodup, hkeys, hall⟩ := (classifies_diff hp hn qualify).once
  exact ⟨keys, hnodup, hkeys, map_name_eq_of_forall₂ hall⟩

end Diff

/-! ### Where a change is -/

/-- The keys that lead to the entry that a change is of: its own, and before it the section's if it
is in the section. -/
inductive Change.Under (previous new : Sections) (sectionName : Option String) (c : Change) :
    List String → Prop
  | top {k : String} (h : changeAt? previous.global new.global id k = some c) :
      Under previous new sectionName c [k]
  | inSection {s k : String} (active : sectionName = some s)
      (h : changeAt? previous.target new.target (fun key => s ++ "." ++ key) k = some c) :
      Under previous new sectionName c [s, k]

section Documents

variable {previous new : Document} {sectionName : Option String}

/-- **Every change is somewhere**, and what has changed is told. -/
theorem mem_diffSections_iff {c : Change} :
    c ∈ diffSections (.of previous sectionName) (.of new sectionName) sectionName ↔
      ∃ ks, c.Under (.of previous sectionName) (.of new sectionName) sectionName ks := by
  unfold diffSections
  rw [List.mem_append, mem_diff_iff (Sections.increasing_global previous sectionName)
    (Sections.increasing_global new sectionName)]
  constructor
  · rintro (⟨k, hk⟩ | hc)
    · exact ⟨[k], .top hk⟩
    · cases sectionName with
      | none => cases hc
      | some s =>
        obtain ⟨k, hk⟩ := (mem_diff_iff (Sections.increasing_target previous (some s))
          (Sections.increasing_target new (some s))).mp hc
        exact ⟨[s, k], .inSection rfl hk⟩
  · rintro ⟨ks, hks⟩
    cases hks with
    | top h => exact .inl ⟨_, h⟩
    | inSection active h =>
      subst active
      exact .inr ((mem_diff_iff (Sections.increasing_target previous _)
        (Sections.increasing_target new _)).mpr ⟨_, h⟩)

theorem Change.Under.name_eq {p n : Sections} {c : Change} {ks : List String}
    (h : c.Under p n sectionName ks) : c.name = ".".intercalate ks := by
  cases h with
  | top h => exact Change.name_of_between h
  | inSection active h => exact Change.name_of_between h

/-- What is watched in a section stands in its map. -/
theorem Sections.exists_map_of_target {d : Document} {s k : String} {v : Json}
    (h : presentValue (Sections.of d (some s)).target k = some v) :
    ∃ es, presentValue d.entries s = some (.map es) ∧ presentValue es k = some v := by
  by_cases hmap : ∃ es, presentValue d.entries s = some (.map es)
  · obtain ⟨es, hes⟩ := hmap
    rw [presentValue_target_of_map hes] at h
    exact ⟨es, hes, h⟩
  · rw [presentValue_target_of_not_map fun es hes => hmap ⟨es, hes⟩] at h
    cases h

/-- **A name of keys without points is a path** to the value that is told. -/
theorem Change.Under.lookup_eq {c : Change} {ks : List String}
    (h : c.Under (.of previous sectionName) (.of new sectionName) sectionName ks)
    (hsteps : ∀ k ∈ ks, IsStep k) (hc : c.kind ≠ .deleted) :
    ∃ v, c.value = some v ∧ new.lookup c.name = some v := by
  have hname := h.name_eq
  cases h with
  | @top k h =>
    obtain ⟨v, hv, hvalue⟩ := Change.value_of_not_deleted h hc
    rw [Sections.presentValue_global] at hv
    refine ⟨v, hvalue, ?_⟩
    rw [Change.name_of_between h, id, Document.lookup_of_isStep (hsteps k (by simp))]
    exact (Option.filter_eq_some_iff.mp hv).1
  | @inSection s k active h =>
    subst active
    obtain ⟨v, hv, hvalue⟩ := Change.value_of_not_deleted h hc
    obtain ⟨es, hes, hk⟩ := Sections.exists_map_of_target hv
    refine ⟨v, hvalue, ?_⟩
    rw [Change.name_of_between h,
      Document.lookup_join_of_map (hsteps s (by simp)) (hsteps k (by simp)) hes, hk]

end Documents

/-! ### Names that are the same -/

theorem qualify_injective (s : String) : Function.Injective fun key : String => s ++ "." ++ key :=
  fun _ _ h => (String.append_right_inj _).mp h

/-- A key at the top and a key of the section change together, under the same name. -/
def NamesClash (previous new : Sections) (sectionName : Option String) : Prop :=
  ∃ s k, sectionName = some s ∧
    Differs (presentValue previous.target k) (presentValue new.target k) ∧
    Differs (presentValue previous.global (s ++ "." ++ k)) (presentValue new.global (s ++ "." ++ k))

theorem nodup_names_iff (previous new : Document) (sectionName : Option String) :
    let p := Sections.of previous sectionName
    let n := Sections.of new sectionName
    ((diffSections p n sectionName).map (·.name)).Nodup ↔ ¬ NamesClash p n sectionName := by
  intro p n
  obtain ⟨tops, htops, hmemTops, hnames⟩ := exists_keys_of_diff
    (Sections.increasing_global previous sectionName) (Sections.increasing_global new sectionName)
    id
  cases sectionName with
  | none =>
    rw [diffSections, List.append_nil, hnames, List.map_id]
    exact iff_of_true htops fun ⟨s, _, hs, _⟩ => by cases hs
  | some s =>
    obtain ⟨keys, hkeys, hmemKeys, hnames'⟩ :=
      exists_keys_of_diff (Sections.increasing_target previous (some s))
        (Sections.increasing_target new (some s)) fun key => s ++ "." ++ key
    rw [diffSections, List.map_append, hnames, hnames', List.map_id, List.nodup_append]
    constructor
    · rintro ⟨-, -, hdisjoint⟩ ⟨s', k, hs, hk, htop⟩
      cases hs
      exact hdisjoint _ ((hmemTops _).mpr htop) _
        (List.mem_map_of_mem ((hmemKeys k).mpr hk)) rfl
    · refine fun hclash => ⟨htops, List.Nodup.map (qualify_injective s) hkeys, ?_⟩
      intro name hname name' hname' heq
      obtain ⟨k, hk, rfl⟩ := List.mem_map.mp hname'
      exact hclash ⟨s, k, rfl, (hmemKeys k).mp hk, (hmemTops _).mp (heq ▸ hname)⟩

/-- **Names of changes lead to their values.**  Two changes have the same name only where a key at
the top that reads like a path into the section changes together with what it reads like.  Every
change is named by the keys that lead to its entry, and if there are no points in these keys then
the name is a path to the value it tells, unless it is gone. -/
theorem change_names_lead_to_values (previous new : Document) (sectionName : Option String) :
    let p := Sections.of previous sectionName
    let n := Sections.of new sectionName
    let changes := diffSections p n sectionName
    ((changes.map (·.name)).Nodup ↔ ¬ NamesClash p n sectionName) ∧
    (∀ c : Change, c ∈ changes ↔ ∃ ks, c.Under p n sectionName ks) ∧
    ∀ (c : Change) (ks : List String), c.Under p n sectionName ks → c.name = ".".intercalate ks ∧
      ((∀ k ∈ ks, IsStep k) → c.kind ≠ .deleted →
        ∃ v, c.value = some v ∧ new.lookup c.name = some v) := by
  intro p n changes
  exact ⟨nodup_names_iff previous new sectionName, fun c => mem_diffSections_iff,
    fun c ks h => ⟨h.name_eq, h.lookup_eq⟩⟩

/-- A port at the top and a value in the section, both with new values. -/
theorem change_names_lead_to_values_in_section :
    let previous : Document :=
      .ofEntries [("port", .text "8080"), ("unit-test", .map [("val1", .bool true)])]
    let new : Document :=
      .ofEntries [("port", .text "1212"), ("unit-test", .map [("val1", .bool false)])]
    let p := Sections.of previous (some "unit-test")
    let n := Sections.of new (some "unit-test")
    let c : Change := .updated "unit-test.val1" (.bool false)
    c.Under p n (some "unit-test") ["unit-test", "val1"] ∧
      (∀ k ∈ ["unit-test", "val1"], IsStep k) ∧ c.kind ≠ .deleted ∧
      c ∈ diffSections p n (some "unit-test") ∧ new.lookup c.name = some (.bool false) := by
  intro previous new p n c
  have hunder : c.Under p n (some "unit-test") ["unit-test", "val1"] := .inSection rfl rfl
  have hsteps : ∀ k ∈ ["unit-test", "val1"], IsStep k := by decide
  have hkind : c.kind ≠ .deleted := by decide
  obtain ⟨-, hmem, hlookup⟩ := change_names_lead_to_values previous new (some "unit-test")
  obtain ⟨v, hv, hfound⟩ := (hlookup c _ hunder).2 hsteps hkind
  cases hv
  exact ⟨hunder, hsteps, hkind, (hmem c).mpr ⟨_, hunder⟩, hfound⟩

/-- **Keys with points**: one at the top that reads like a path into the section has the name of
what it reads like, and one that reads like any other path is not found under its name. -/
theorem change_names_with_points :
    let new : Document := .ofEntries
      [("a.b", .text "x"), ("s", .map [("k", .text "inner")]), ("s.k", .text "outer")]
    let changes := diffSections (.of .empty (some "s")) (.of new (some "s")) (some "s")
    ¬ (changes.map (·.name)).Nodup ∧
      ∃ c ∈ changes, c.kind = .added ∧ c.value = some (.text "x") ∧ new.lookup c.name = none := by
  intro new changes
  have hnames : changes.map (·.name) = ["a.b", "s.k", "s.k"] := by decide +kernel
  refine ⟨by rw [hnames]; decide, .added "a.b" (.text "x"), ?_, rfl, rfl, rfl⟩
  exact (mem_diffSections_iff).mpr ⟨["a.b"], .top rfl⟩

end LiveConfig
