import LiveConfig.Proofs.Watched
import Mathlib.Data.List.Nodup

/-!
Differences read backwards.

A `Reversal` is an entry with its change and the change the other way round, and `Mirrors` says
that two lists of changes consist of the same reversals.  A difference goes through the entries of
one side and then through the other ones of the second side, so the two lists differ in their order.
Main statement: `diff_reverses`, the difference from one side to the other mirrors the one back, and
from a side to itself there is none.
-/

namespace LiveConfig

open KeyOrder

/-! ### One entry -/

/-- What a kind of change is when it is read backwards. -/
def ChangeKind.reversed : ChangeKind → ChangeKind
  | added => deleted
  | updated => updated
  | deleted => added

/-- An entry with its change and the change the other way round. -/
structure Reversal (α : Type) where
  place : α
  change : Change
  backward : Change

/-- **What belongs together in a reversal**: both changes are of the values of the same entry, have
its name and opposite kinds, and each of them tells the value on its own new side. -/
structure Reversal.Fits {α : Type} (name : α → String) (old new : α → Option Json)
    (r : Reversal α) : Prop where
  change_eq : Change.between? (name r.place) (old r.place) (new r.place) = some r.change
  backward_eq : Change.between? (name r.place) (new r.place) (old r.place) = some r.backward
  names : r.change.name = name r.place ∧ r.backward.name = name r.place
  kinds : r.backward.kind = r.change.kind.reversed
  value : r.change.value = new r.place
  backward_value : r.backward.value = old r.place

/-- **Two lists of changes mirror each other**: they are made of the same reversals, one for each
entry that changes, but the second one in another order. -/
def Mirrors {α : Type} (name : α → String) (old new : α → Option Json)
    (changes backward : List Change) : Prop :=
  ∃ rs : List (Reversal α), (rs.map (·.place)).Nodup ∧ rs.map (·.change) = changes ∧
    (rs.map (·.backward)).Perm backward ∧ ∀ r ∈ rs, r.Fits name old new

section Swap

variable {name : String} {a b : Option Json}

/-- Values differ either way round. -/
theorem Differs.symm (hcomm : ∀ u v, a = some u → b = some v → u.same v = v.same u)
    (h : Differs a b) : Differs b a := by
  rcases a with _ | u <;> rcases b with _ | v
  · exact h
  · trivial
  · trivial
  · exact (hcomm u v rfl rfl).symm.trans h

/-- **The change the other way round** tells the value that was there before. -/
theorem Change.between?_swap (hcomm : ∀ u v, a = some u → b = some v → u.same v = v.same u) :
    Change.between? name b a =
      (Change.between? name a b).map fun c => ⟨c.name, a, c.kind.reversed⟩ := by
  rcases a with _ | u <;> rcases b with _ | v
  · rfl
  · rfl
  · rfl
  · rw [between?, between?, hcomm u v rfl rfl]
    cases v.same u <;> rfl

end Swap

/-! ### All entries -/

section Scan

variable {α β : Type}

/-- What is picked out of two lists without repetitions is the same if it is in both of them. -/
theorem perm_filterMap_of_nodup {f : α → Option β} {xs ys : List α} (hx : xs.Nodup)
    (hy : ys.Nodup) (h : ∀ a, (f a).isSome → (a ∈ xs ∧ a ∈ ys)) :
    (xs.filterMap f).Perm (ys.filterMap f) := by
  have hfilter : ∀ zs : List α, zs.filterMap f = (zs.filter fun a => (f a).isSome).filterMap f := by
    intro zs
    rw [List.filterMap_filter]
    refine List.filterMap_congr fun a _ => ?_
    cases f a <;> rfl
  rw [hfilter xs, hfilter ys]
  refine List.Perm.filterMap f ?_
  refine (List.perm_ext_iff_of_nodup (hx.filter _) (hy.filter _)).mpr fun a => ?_
  rw [List.mem_filter, List.mem_filter]
  exact and_congr_left fun ha => iff_of_true (h a ha).1 (h a ha).2

variable (name : α → String) (old new : α → Option Json)

/-- The reversal of an entry, if it changes. -/
def reversalAt? (a : α) : Option (Reversal α) :=
  (Change.between? (name a) (old a) (new a)).map fun c => ⟨a, c, c.name, old a, c.kind.reversed⟩

variable {name old new} (hcomm : ∀ a u v, old a = some u → new a = some v → u.same v = v.same u)

theorem map_change_reversalAt? (a : α) : (reversalAt? name old new a).map (·.change) =
    Change.between? (name a) (old a) (new a) := by
  rw [reversalAt?, Option.map_map]
  exact Option.map_id'

include hcomm

theorem map_backward_reversalAt? (a : α) : (reversalAt? name old new a).map (·.backward) =
    Change.between? (name a) (new a) (old a) := by
  rw [reversalAt?, Option.map_map, Change.between?_swap (hcomm a)]
  rfl

theorem fits_of_reversalAt? {a : α} {r : Reversal α} (h : reversalAt? name old new a = some r) :
    r.place = a ∧ r.Fits name old new := by
  obtain ⟨c, hc, rfl⟩ := Option.map_eq_some_iff.mp h
  have hback : Change.between? (name a) (new a) (old a) =
      some ⟨c.name, old a, c.kind.reversed⟩ := by
    rw [Change.between?_swap (hcomm a), hc, Option.map_some]
  exact ⟨rfl, hc, hback, ⟨Change.name_of_between hc, Change.name_of_between hback⟩, rfl,
    (Change.value_of_between hc).1, rfl⟩

/-- **Two ways through the same entries mirror each other**, whatever else they come across. -/
theorem mirrors_of_scans {xs ys : List α} (hx : xs.Nodup) (hy : ys.Nodup)
    (hmem : ∀ a, Differs (old a) (new a) → a ∈ xs ∧ a ∈ ys) :
    Mirrors name old new (xs.filterMap fun a => Change.between? (name a) (old a) (new a))
      (ys.filterMap fun a => Change.between? (name a) (new a) (old a)) := by
  refine ⟨xs.filterMap (reversalAt? name old new), ?_, ?_, ?_, ?_⟩
  · have hplaces : (xs.filterMap (reversalAt? name old new)).map (·.place) =
        xs.filter fun a => (reversalAt? name old new a).isSome := by
      rw [List.map_filterMap, ← List.filterMap_eq_filter]
      refine List.filterMap_congr fun a _ => ?_
      cases h : reversalAt? name old new a with
      | none => simp [Option.guard, h]
      | some r => simp [Option.guard, h, (fits_of_reversalAt? hcomm h).1]
    rw [hplaces]
    exact hx.filter _
  · rw [List.map_filterMap]
    exact List.filterMap_congr fun a _ => map_change_reversalAt? a
  · have hback : (fun a => (reversalAt? name old new a).map (·.backward)) =
        fun a => Change.between? (name a) (new a) (old a) :=
      funext fun a => map_backward_reversalAt? hcomm a
    rw [List.map_filterMap, hback]
    refine perm_filterMap_of_nodup hx hy fun a ha => hmem a ?_
    exact (Change.isSome_between?_iff.mp ha).symm fun u v hu hv => (hcomm a v u hv hu).symm
  · intro r hr
    obtain ⟨a, -, ha⟩ := List.mem_filterMap.mp hr
    exact (fits_of_reversalAt? hcomm ha).2

end Scan

/-! ### Maps -/

theorem diff_eq_scanned {previous new : Json.Entries} (hp : Increasing previous)
    (hn : Increasing new) (qualify : String → String) : diff previous new qualify =
      (scanned previous new).filterMap (changeAt? previous new qualify) :=
  (diff_eq_classification hp hn).trans classification_eq_scanned

section Maps

variable {previous new : Json.Entries} (hp : (Json.map previous).Canonical)
  (hn : (Json.map new).Canonical)
include hp hn

theorem presentValue_same_comm (k : String) (u v : Json) (hu : presentValue previous k = some u)
    (hv : presentValue new k = some v) : u.same v = v.same u :=
  Json.same_comm (canonical_of_presentValue hp hu) (canonical_of_presentValue hn hv)

theorem mem_scanned_both {k : String} (h : Differs (presentValue previous k) (presentValue new k)) :
    k ∈ scanned previous new ∧ k ∈ scanned new previous :=
  ⟨mem_scanned_of_differs h, mem_scanned_of_differs (h.symm (presentValue_same_comm hp hn k))⟩

/-- **The difference of two maps is mirrored** the other way round. -/
theorem mirrors_diff (qualify : String → String) :
    Mirrors qualify (presentValue previous) (presentValue new) (diff previous new qualify)
      (diff new previous qualify) := by
  rw [diff_eq_scanned hp.1 hn.1, diff_eq_scanned hn.1 hp.1]
  exact mirrors_of_scans (presentValue_same_comm hp hn) (nodup_scanned hp.1 hn.1)
    (nodup_scanned hn.1 hp.1) fun k => mem_scanned_both hp hn

end Maps

/-! ### Documents -/

/-- The name of the changes of an entry. -/
def Place.name (sectionName : Option String) : Place → String
  | top k => k
  | inSection k => sectionName.getD "" ++ "." ++ k

namespace Sections

/-- The entries in the order in which their changes are told. -/
def scannedPlaces (p n : Sections) : List Place :=
  (scanned p.global n.global).map .top ++ (scanned p.target n.target).map .inSection

end Sections

section Documents

variable (previous new : Document) (sectionName : Option String)

theorem diffSections_eq_scannedPlaces :
    let p := Sections.of previous sectionName
    let n := Sections.of new sectionName
    diffSections p n sectionName = (Sections.scannedPlaces p n).filterMap fun place =>
      Change.between? (place.name sectionName) (p.valueAt place) (n.valueAt place) := by
  intro p n
  have hglobal := diff_eq_scanned (Sections.increasing_global previous sectionName)
    (Sections.increasing_global new sectionName) id
  unfold diffSections Sections.scannedPlaces
  rw [List.filterMap_append, List.filterMap_map, List.filterMap_map, hglobal]
  congr 1
  cases sectionName with
  | none => rfl
  | some s =>
    exact diff_eq_scanned (Sections.increasing_target previous (some s))
      (Sections.increasing_target new (some s)) _

theorem nodup_scannedPlaces :
    (Sections.scannedPlaces (.of previous sectionName) (.of new sectionName)).Nodup := by
  refine List.nodup_append.mpr ⟨?_, ?_, ?_⟩
  · exact (nodup_scanned (Sections.increasing_global previous sectionName)
      (Sections.increasing_global new sectionName)).map fun _ _ h => Place.top.inj h
  · exact (nodup_scanned (Sections.increasing_target previous sectionName)
      (Sections.increasing_target new sectionName)).map fun _ _ h => Place.inSection.inj h
  · intro a ha b hb hab
    obtain ⟨k, -, rfl⟩ := List.mem_map.mp ha
    obtain ⟨k', -, rfl⟩ := List.mem_map.mp hb
    cases hab

/-- **The difference of two documents is mirrored** the other way round. -/
theorem mirrors_diffSections :
    let p := Sections.of previous sectionName
    let n := Sections.of new sectionName
    Mirrors (Place.name sectionName) p.valueAt n.valueAt (diffSections p n sectionName)
      (diffSections n p sectionName) := by
  intro p n
  obtain ⟨hpg, hpt⟩ := Sections.canonical_of previous sectionName
  obtain ⟨hng, hnt⟩ := Sections.canonical_of new sectionName
  rw [diffSections_eq_scannedPlaces, diffSections_eq_scannedPlaces]
  refine mirrors_of_scans ?_ (nodup_scannedPlaces previous new sectionName)
    (nodup_scannedPlaces new previous sectionName) ?_
  · rintro (k | k) u v hu hv
    · exact presentValue_same_comm hpg hng k u v hu hv
    · exact presentValue_same_comm hpt hnt k u v hu hv
  · rintro (k | k) hdiff
    · obtain ⟨h, h'⟩ := mem_scanned_both hpg hng hdiff
      exact ⟨List.mem_append_left _ (List.mem_map_of_mem h),
        List.mem_append_left _ (List.mem_map_of_mem h')⟩
    · obtain ⟨h, h'⟩ := mem_scanned_both hpt hnt hdiff
      exact ⟨List.mem_append_right _ (List.mem_map_of_mem h),
        List.mem_append_right _ (List.mem_map_of_mem h')⟩

end Documents

/-- **A difference reads backwards.**  The difference of two maps the other way round consists of
one change for each change, of the same key: what was added is deleted, what was deleted is added,
and what was updated is updated, each with the value of the side that it leads to.  So does that of
two documents, entry by entry at the top and in the section.  Sameness of values is reflexive and
symmetric, and nothing differs from itself. -/
theorem diff_reverses :
    (∀ previous new : Json.Entries, (Json.map previous).Canonical → (Json.map new).Canonical →
      ∀ qualify : String → String, Mirrors qualify (presentValue previous) (presentValue new)
        (diff previous new qualify) (diff new previous qualify)) ∧
    (∀ (previous new : Document) (sectionName : Option String),
      let p := Sections.of previous sectionName
      let n := Sections.of new sectionName
      Mirrors (Place.name sectionName) p.valueAt n.valueAt (diffSections p n sectionName)
        (diffSections n p sectionName)) ∧
    (∀ u v : Json, u.Canonical → v.Canonical → u.same u = true ∧ u.same v = v.same u) ∧
    (∀ es : Json.Entries, (Json.map es).Canonical →
      ∀ qualify : String → String, diff es es qualify = []) ∧
    ∀ (d : Document) (sectionName : Option String),
      diffSections (.of d sectionName) (.of d sectionName) sectionName = [] :=
  ⟨fun _ _ hp hn qualify => mirrors_diff hp hn qualify, mirrors_diffSections,
    fun _ _ hu hv => ⟨Json.same_refl hu, Json.same_comm hu hv⟩, fun _ h => diff_self h,
    diffSections_self⟩

/-- One key goes, one has another value, and two come: the way back begins with those. -/
theorem diff_reverses_in_another_order :
    let previous : Json.Entries := [("b", .text "x"), ("c", .bool true)]
    let new : Json.Entries := [("a", .text "y"), ("c", .bool false), ("d", .list [.null])]
    (Json.map previous).Canonical ∧ (Json.map new).Canonical ∧
      Mirrors id (presentValue previous) (presentValue new) (diff previous new id)
        (diff new previous id) ∧
      (diff previous new id).map (fun c => (c.name, c.kind)) =
        [("b", .deleted), ("c", .updated), ("a", .added), ("d", .added)] ∧
      (diff new previous id).map (fun c => (c.name, c.kind)) =
        [("a", .deleted), ("c", .updated), ("d", .deleted), ("b", .added)] := by
  intro previous new
  have hp : (Json.map previous).Canonical := by
    simp only [previous, Json.Canonical, Json.CanonicalEntries, Increasing, and_true]
    decide
  have hn : (Json.map new).Canonical := by
    simp only [new, Json.Canonical, Json.CanonicalEntries, Json.CanonicalItems, Increasing,
      and_true]
    decide
  exact ⟨hp, hn, diff_reverses.1 previous new hp hn id, by decide +kernel, by decide +kernel⟩

end LiveConfig
