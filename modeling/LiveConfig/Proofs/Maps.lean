import LiveConfig.Diff

/-!
Entries in the order of their keys as maps: looking a key up finds the one entry that has it.  The
parts of a document that are watched are maps again.
-/

namespace LiveConfig

namespace KeyOrder

variable {α : Type} {es : List (String × α)}

theorem Increasing.nodup_keys (h : Increasing es) : (es.map (·.1)).Nodup := by
  refine List.pairwise_map.mpr (h.imp fun {a b} hab heq => ?_)
  rw [heq] at hab
  exact String.lt_irrefl _ hab

theorem Increasing.filter (h : Increasing es) (p : String × α → Bool) : Increasing (es.filter p) :=
  h.sublist List.filter_sublist

/-- **Looking up is membership.** -/
theorem Increasing.lookup_eq_some_iff (h : Increasing es) {k : String} {v : α} :
    es.lookup k = some v ↔ (k, v) ∈ es := by
  induction es with
  | nil => simp
  | cons e es ih =>
    obtain ⟨a, u⟩ := e
    obtain ⟨ha, hes⟩ := List.pairwise_cons.mp h
    by_cases hk : k = a
    · subst hk
      have hnot : (k, v) ∉ es := fun hmem => String.lt_irrefl k (ha (k, v) hmem)
      simp [hnot, eq_comm]
    · rw [List.lookup_cons, show (k == a) = false by simpa using hk]
      simp [ih hes, hk]

theorem mem_of_lookup {k : String} {v : α} (h : es.lookup k = some v) : (k, v) ∈ es := by
  obtain ⟨l₁, l₂, rfl, -⟩ := List.lookup_eq_some_iff.mp h
  simp

theorem mem_keys_of_lookup {k : String} {v : α} (h : es.lookup k = some v) :
    k ∈ es.map (·.1) :=
  List.mem_map.mpr ⟨(k, v), mem_of_lookup h, rfl⟩

theorem Increasing.mem_keys_iff (h : Increasing es) {k : String} :
    k ∈ es.map (·.1) ↔ ∃ v, es.lookup k = some v := by
  simp [h.lookup_eq_some_iff]

theorem lookup_eq_none_of_lt {k : String} (h : ∀ e ∈ es, k < e.1) : es.lookup k = none := by
  refine List.lookup_eq_none_iff.mpr fun e he => ?_
  simpa using String.ne_of_lt (h e he)

theorem lookup_cons_ite (a : String) (u : α) (es : List (String × α)) (k : String) :
    ((a, u) :: es).lookup k = if k = a then some u else es.lookup k := by
  rw [List.lookup_cons]
  by_cases hk : k = a
  · simp [hk]
  · rw [show (k == a) = false by simpa using hk, if_neg hk]

/-- An added entry is found under its key, and every other key finds what it found before. -/
theorem lookup_insert (key : String) (value : α) (es : List (String × α)) (k : String) :
    (insert key value es).lookup k = if k = key then some value else es.lookup k := by
  induction es with
  | nil => exact lookup_cons_ite key value [] k
  | cons e es ih =>
    obtain ⟨a, u⟩ := e
    unfold insert
    split
    · exact lookup_cons_ite key value ((a, u) :: es) k
    · split
      · rename_i heq
        subst heq
        rw [lookup_cons_ite, lookup_cons_ite]
        split <;> rfl
      · rename_i hne
        rw [lookup_cons_ite, lookup_cons_ite, ih]
        by_cases hk : k = key
        · rw [if_pos hk, if_pos hk, if_neg (hk ▸ hne)]
        · rw [if_neg hk, if_neg hk]

theorem mem_insertAll {sofar : List (String × α)} {e : String × α} (h : e ∈ insertAll sofar es) :
    e ∈ sofar ∨ e ∈ es := by
  induction es generalizing sofar with
  | nil => exact .inl h
  | cons a es ih =>
    rcases ih h with hmem | hmem
    · rcases mem_insert hmem with rfl | hmem
      · exact .inr List.mem_cons_self
      · exact .inl hmem
    · exact .inr (List.mem_cons_of_mem _ hmem)

theorem insert_of_forall_lt {k : String} {v : α} (h : ∀ e ∈ es, e.1 < k) :
    insert k v es = es ++ [(k, v)] := by
  induction es with
  | nil => rfl
  | cons e es ih =>
    obtain ⟨he, hes⟩ := List.forall_mem_cons.mp h
    rw [insert, if_neg (String.lt_asymm he), if_neg (String.ne_of_lt he).symm, ih hes,
      List.cons_append]

/-- Entries in order stay where they are. -/
theorem insertAll_of_increasing {sofar : List (String × α)} (h : Increasing (sofar ++ es)) :
    insertAll sofar es = sofar ++ es := by
  induction es generalizing sofar with
  | nil => exact (List.append_nil _).symm
  | cons e es ih =>
    have hlt : ∀ a ∈ sofar, a.1 < e.1 := fun a ha =>
      (List.pairwise_append.mp h).2.2 a ha e List.mem_cons_self
    rw [insertAll, insert_of_forall_lt hlt, ih (List.append_cons .. ▸ h), ← List.append_cons]

end KeyOrder

open KeyOrder

/-! ### Values that are not `null` -/

theorem presentValue_of_mem {es : Json.Entries} (h : Increasing es) {e : String × Json}
    (he : e ∈ es) : presentValue es e.1 = if e.2.isNull then none else some e.2 := by
  have hl : es.lookup e.1 = some e.2 := h.lookup_eq_some_iff.mpr he
  unfold presentValue
  rw [hl]
  cases hn : e.2.isNull <;> simp [Option.filter, hn]

theorem presentValue_eq_some_iff {es : Json.Entries} {k : String} {v : Json} :
    presentValue es k = some v ↔ es.lookup k = some v ∧ v.isNull = false := by
  simp [presentValue, Option.filter_eq_some_iff]

theorem mem_keys_of_presentValue {es : Json.Entries} {k : String} {v : Json}
    (h : presentValue es k = some v) : k ∈ es.map (·.1) :=
  mem_keys_of_lookup (presentValue_eq_some_iff.mp h).1

/-- Looking up among some of the values. -/
theorem presentValue_filter {es : Json.Entries} (h : Increasing es) (p : Json → Bool) (k : String) :
    presentValue (es.filter fun e => p e.2) k = (presentValue es k).filter p := by
  refine Option.ext fun v => ?_
  rw [Option.filter_eq_some_iff, presentValue_eq_some_iff, presentValue_eq_some_iff,
    (h.filter _).lookup_eq_some_iff, h.lookup_eq_some_iff, List.mem_filter]
  exact and_right_comm

/-- Entries that are `null` make no difference. -/
theorem presentValue_present {es : Json.Entries} (h : Increasing es) (k : String) :
    presentValue (present es) k = presentValue es k := by
  refine (presentValue_filter h (!·.isNull) k).trans ?_
  unfold presentValue
  cases es.lookup k with
  | none => rfl
  | some v => cases hn : v.isNull <;> simp [Option.filter, hn]

/-! ### The watched part of a document -/

namespace Document

theorem increasing_entries (d : Document) : Increasing d.entries := d.canonical.1

/-- The maps inside of a document are maps, too. -/
theorem increasing_of_lookup {d : Document} {k : String} {es : Json.Entries}
    (h : d.entries.lookup k = some (.map es)) : Increasing es := by
  have hmem : (k, Json.map es) ∈ d.entries := d.increasing_entries.lookup_eq_some_iff.mp h
  exact (Json.canonicalEntries_iff.mp d.canonical.2 _ hmem).1

end Document

namespace Sections

/-- What is watched at the top: the values that are no maps. -/
theorem presentValue_global (d : Document) (sectionName : Option String) (k : String) :
    presentValue (Sections.of d sectionName).global k =
      (presentValue d.entries k).filter (!·.isMap) := by
  refine (presentValue_filter d.increasing_entries (fun v => !v.isNull && !v.isMap) k).trans ?_
  unfold presentValue
  cases d.entries.lookup k with
  | none => rfl
  | some v => cases hn : v.isNull <;> simp [Option.filter, hn]

/-- What is watched in a section: the values of its map, if it is one. -/
theorem presentValue_target_of_map {d : Document} {s : String} {es : Json.Entries}
    (h : presentValue d.entries s = some (.map es)) (k : String) :
    presentValue (Sections.of d (some s)).target k = presentValue es k := by
  have hl := (presentValue_eq_some_iff.mp h).1
  have htarget : (Sections.of d (some s)).target = present es := by
    unfold Sections.of
    rw [Option.bind_some, hl]
  rw [htarget, presentValue_present (Document.increasing_of_lookup hl)]

theorem presentValue_target_of_not_map {d : Document} {s : String}
    (h : ∀ es, presentValue d.entries s ≠ some (.map es)) (k : String) :
    presentValue (Sections.of d (some s)).target k = none := by
  have htarget : (Sections.of d (some s)).target = [] := by
    unfold Sections.of
    dsimp only
    split
    · rename_i es hes
      exact absurd (presentValue_eq_some_iff.mpr ⟨hes, rfl⟩) (h es)
    · rfl
  rw [htarget]
  rfl

end Sections

theorem Sections.increasing_global (d : Document) (sectionName : Option String) :
    Increasing (Sections.of d sectionName).global :=
  d.increasing_entries.filter _

theorem Sections.increasing_target (d : Document) (sectionName : Option String) :
    Increasing (Sections.of d sectionName).target := by
  unfold Sections.of
  dsimp only
  split
  · rename_i es hes
    obtain ⟨s, -, hs⟩ := Option.bind_eq_some_iff.mp hes
    exact (Document.increasing_of_lookup hs).filter _
  · exact List.Pairwise.nil

end LiveConfig
