import LiveConfig.Convert
import LiveConfig.Proofs.Maps
import LiveConfig.Proofs.Results

/-!
Maps of maps of texts.

`Json.IsLeafMap` says of a value that it is a map of leaves, and `IsTextMapOf` of the result that it
has the texts of the leaves under their keys.  `Offends` relates entries to what keeps them from
being read, with the keys that lead there.  Main statement:
`textMap_reads_or_names_first_offender`, either all of the leaves are read, or the error is about
the first of what offends, going down and in the order of the keys.
-/

namespace LiveConfig

namespace KeyOrder

variable {α β : Type} {f : String × α → Except ConfigError (String × β)} {es : List (String × α)}
  {bs : List (String × β)}

/-- In the order of the keys, the first item that fails has the least key of those that do. -/
theorem Increasing.exists_of_mapM_eq_error {e : ConfigError} (h : Increasing es)
    (hf : es.mapM f = .error e) :
    ∃ x ∈ es, f x = .error e ∧ ∀ y ∈ es, y.1 < x.1 → ∃ b, f y = .ok b := by
  obtain ⟨before, x, after, rfl, hbefore, hx⟩ := LiveConfig.exists_of_mapM_eq_error hf
  refine ⟨x, by simp, hx, fun y hy hlt => ?_⟩
  have hafter : ∀ z ∈ after, x.1 < z.1 :=
    (List.pairwise_cons.mp (List.pairwise_append.mp h).2.1).1
  rcases List.mem_append.mp hy with hy | hy
  · exact hbefore y hy
  · rcases List.mem_cons.mp hy with rfl | hy
    · exact absurd hlt (String.lt_irrefl _)
    · exact absurd hlt (String.lt_asymm (hafter y hy))

/-- Entries that are read one by one keep their keys. -/
theorem keys_of_forall₂ (hkey : ∀ a b, f a = .ok b → b.1 = a.1)
    (h : List.Forall₂ (fun a b => f a = .ok b) es bs) : bs.map (·.1) = es.map (·.1) := by
  induction h with
  | nil => rfl
  | cons hab _ ih => rw [List.map_cons, List.map_cons, ih, hkey _ _ hab]

/-- What is found under a key is what was read from the entry there. -/
theorem lookup_of_forall₂ (hkey : ∀ a b, f a = .ok b → b.1 = a.1)
    (h : List.Forall₂ (fun a b => f a = .ok b) es bs) (k : String) :
    (es.lookup k = none ∧ bs.lookup k = none) ∨
      ∃ a b, es.lookup k = some a ∧ bs.lookup k = some b ∧ f (k, a) = .ok (k, b) := by
  induction h with
  | nil => exact .inl ⟨rfl, rfl⟩
  | @cons a b es bs hab _ ih =>
    obtain ⟨name, v⟩ := a
    obtain ⟨name', u⟩ := b
    obtain rfl : name' = name := hkey _ _ hab
    rw [lookup_cons_ite, lookup_cons_ite]
    by_cases hk : k = name'
    · subst hk
      rw [if_pos rfl, if_pos rfl]
      exact .inr ⟨v, u, rfl, rfl, hab⟩
    · rw [if_neg hk, if_neg hk]
      exact ih

end KeyOrder

open KeyOrder

namespace Json

/-! ### Leaves -/

/-- A value with a text of its own. -/
inductive IsLeaf : Json → Prop
  | text (s : String) : IsLeaf (.text s)
  | number (n : Number) : IsLeaf (.number n)
  | bool (b : Bool) : IsLeaf (.bool b)

theorem isLeaf_iff {v : Json} : v.IsLeaf ↔ ∃ s, v.leafText = some s := by
  constructor
  · rintro (s | (i | x) | (b | b)) <;> exact ⟨_, rfl⟩
  · rintro ⟨s, hs⟩
    cases v with
    | text s => exact .text s
    | number n => exact .number n
    | bool b => exact .bool b
    | null | list | map => cases hs

/-- A map whose values are leaves. -/
inductive IsLeafMap : Json → Prop
  | map {leaves : Entries} (h : ∀ e ∈ leaves, e.2.IsLeaf) : IsLeafMap (.map leaves)

section LeafTexts

variable {path : String} {leaves : Entries} {texts : List (String × String)}

/-- The text of an entry of a map of leaves. -/
def entryText (path : String) (entry : String × Json) : Except ConfigError (String × String) :=
  match entry.2.leafText with
  | some s => .ok (entry.1, s)
  | none => .error (entry.2.mismatch (path ++ "." ++ entry.1) Wanted.leaf)

theorem leafTexts_eq_mapM (path : String) (leaves : Entries) :
    leafTexts path leaves = leaves.mapM (entryText path) := rfl

theorem entryText_eq_ok_iff {entry : String × Json} {t : String × String} :
    entryText path entry = .ok t ↔ t.1 = entry.1 ∧ entry.2.leafText = some t.2 := by
  obtain ⟨key, s⟩ := t
  unfold entryText
  cases entry.2.leafText with
  | none => simp
  | some s' => simp [eq_comm]

theorem exists_entryText_eq_ok_iff {entry : String × Json} :
    (∃ t, entryText path entry = .ok t) ↔ entry.2.IsLeaf := by
  simp only [entryText_eq_ok_iff, isLeaf_iff]
  exact ⟨fun ⟨t, _, ht⟩ => ⟨t.2, ht⟩, fun ⟨s, hs⟩ => ⟨(entry.1, s), rfl, hs⟩⟩

theorem entryText_eq_error {entry : String × Json} {e : ConfigError}
    (h : entryText path entry = .error e) :
    ¬ entry.2.IsLeaf ∧ e = entry.2.mismatch (path ++ "." ++ entry.1) Wanted.leaf := by
  rw [isLeaf_iff]
  unfold entryText at h
  cases htext : entry.2.leafText with
  | none =>
    rw [htext] at h
    exact ⟨by simp, (Except.error.inj h).symm⟩
  | some s =>
    rw [htext] at h
    cases h

theorem exists_leafTexts_eq_ok_iff :
    (∃ texts, leafTexts path leaves = .ok texts) ↔ ∀ e ∈ leaves, e.2.IsLeaf := by
  simp only [leafTexts_eq_mapM, exists_mapM_eq_ok_iff, exists_entryText_eq_ok_iff]

/-- The texts of leaves are under the keys of the leaves. -/
theorem lookup_leafTexts (h : leafTexts path leaves = .ok texts) :
    texts.map (·.1) = leaves.map (·.1) ∧
      ∀ key, texts.lookup key = (leaves.lookup key).bind leafText := by
  have hkey : ∀ a b, entryText path a = .ok b → b.1 = a.1 := fun a b hab =>
    (entryText_eq_ok_iff.mp hab).1
  have hall := mapM_eq_ok_iff.mp h
  refine ⟨keys_of_forall₂ hkey hall, fun key => ?_⟩
  rcases lookup_of_forall₂ hkey hall key with ⟨hl, ht⟩ | ⟨v, s, hl, ht, hvs⟩
  · rw [hl, ht, Option.bind_none]
  · rw [hl, ht, Option.bind_some, (entryText_eq_ok_iff.mp hvs).2]

/-- The error is about the first value that is no leaf. -/
theorem exists_of_leafTexts_eq_error {e : ConfigError} (hleaves : Increasing leaves)
    (h : leafTexts path leaves = .error e) :
    ∃ key v, leaves.lookup key = some v ∧ ¬ v.IsLeaf ∧
      (∀ key' v', leaves.lookup key' = some v' → ¬ v'.IsLeaf → ¬ key' < key) ∧
      e = v.mismatch (path ++ "." ++ key) Wanted.leaf := by
  rw [leafTexts_eq_mapM] at h
  obtain ⟨⟨key, v⟩, hmem, herr, hfirst⟩ := hleaves.exists_of_mapM_eq_error h
  obtain ⟨hleaf, he⟩ := entryText_eq_error herr
  refine ⟨key, v, hleaves.lookup_eq_some_iff.mpr hmem, hleaf, fun key' v' hl' hleaf' hlt => ?_, he⟩
  have hmem' := hleaves.lookup_eq_some_iff.mp hl'
  exact hleaf' (exists_entryText_eq_ok_iff.mp (hfirst _ hmem' hlt))

end LeafTexts

/-! ### Maps of maps of leaves -/

section TextMap

variable {path : String} {es : Entries} {m : List (String × List (String × String))}

/-- The texts of an entry that is a map of leaves. -/
def entryTexts (path : String) (entry : String × Json) :
    Except ConfigError (String × List (String × String)) :=
  match entry.2 with
  | .map leaves => (leafTexts (path ++ "." ++ entry.1) leaves).map fun texts => (entry.1, texts)
  | v => .error (v.mismatch (path ++ "." ++ entry.1) Wanted.textMap)

theorem textMap_eq_mapM (path : String) (es : Entries) :
    textMap path es = es.mapM (entryTexts path) := by
  refine congrArg (es.mapM ·) (funext fun ⟨name, v⟩ => ?_)
  cases v with
  | map leaves =>
    change (leafTexts (path ++ "." ++ name) leaves >>= fun texts => pure (name, texts)) =
      (leafTexts (path ++ "." ++ name) leaves).map fun texts => (name, texts)
    cases leafTexts (path ++ "." ++ name) leaves <;> rfl
  | null | bool | number | text | list => rfl

theorem entryTexts_eq_ok_iff {entry : String × Json} {t : String × List (String × String)} :
    entryTexts path entry = .ok t ↔ t.1 = entry.1 ∧
      ∃ leaves, entry.2 = .map leaves ∧ leafTexts (path ++ "." ++ entry.1) leaves = .ok t.2 := by
  obtain ⟨name, v⟩ := entry
  obtain ⟨name', texts⟩ := t
  cases v with
  | map leaves =>
    simp only [entryTexts, map.injEq, exists_eq_left']
    cases leafTexts (path ++ "." ++ name) leaves with
    | error e => simp [Except.map]
    | ok texts' => simp [Except.map, eq_comm]
  | null | bool | number | text | list => simp [entryTexts]

theorem exists_entryTexts_eq_ok_iff {entry : String × Json} :
    (∃ t, entryTexts path entry = .ok t) ↔ entry.2.IsLeafMap := by
  simp only [entryTexts_eq_ok_iff]
  constructor
  · rintro ⟨t, -, leaves, hv, ht⟩
    rw [hv]
    exact .map (exists_leafTexts_eq_ok_iff.mp ⟨_, ht⟩)
  · obtain ⟨name, v⟩ := entry
    rintro ⟨h⟩
    obtain ⟨texts, ht⟩ := exists_leafTexts_eq_ok_iff.mpr h
    exact ⟨(name, texts), rfl, _, rfl, ht⟩

/-- The error of an entry is about the entry if that is no map, and about a leaf of it otherwise. -/
theorem entryTexts_eq_error {entry : String × Json} {e : ConfigError}
    (h : entryTexts path entry = .error e) :
    (entry.2.isMap = false ∧
        e = entry.2.mismatch (path ++ "." ++ entry.1) Wanted.textMap) ∨
      ∃ leaves, entry.2 = .map leaves ∧
        leafTexts (path ++ "." ++ entry.1) leaves = .error e := by
  obtain ⟨name, v⟩ := entry
  cases v with
  | map leaves =>
    refine .inr ⟨leaves, rfl, ?_⟩
    simp only [entryTexts] at h
    cases htexts : leafTexts (path ++ "." ++ name) leaves with
    | ok texts =>
      rw [htexts] at h
      cases h
    | error e' =>
      rw [htexts] at h
      cases h
      rfl
  | null | bool | number | text | list => exact .inl ⟨rfl, (Except.error.inj h).symm⟩

theorem exists_textMap_eq_ok_iff :
    (∃ m, textMap path es = .ok m) ↔ ∀ e ∈ es, e.2.IsLeafMap := by
  simp only [textMap_eq_mapM, exists_mapM_eq_ok_iff, exists_entryTexts_eq_ok_iff]

/-- The texts of the leaves of the maps of some entries, all of them under the same keys. -/
structure IsTextMapOf (m : List (String × List (String × String))) (es : Entries) : Prop where
  keys : m.map (·.1) = es.map (·.1)
  leafKeys : ∀ name texts, m.lookup name = some texts →
    ∃ leaves, es.lookup name = some (.map leaves) ∧ texts.map (·.1) = leaves.map (·.1) ∧
      ∀ key, texts.lookup key = (leaves.lookup key).bind leafText

theorem isTextMapOf_of_textMap (h : textMap path es = .ok m) : IsTextMapOf m es := by
  have hkey : ∀ a b, entryTexts path a = .ok b → b.1 = a.1 := fun a b hab =>
    (entryTexts_eq_ok_iff.mp hab).1
  have hall := mapM_eq_ok_iff.mp (textMap_eq_mapM path es ▸ h)
  refine ⟨keys_of_forall₂ hkey hall, fun name texts ht => ?_⟩
  rcases lookup_of_forall₂ hkey hall name with ⟨-, hm⟩ | ⟨v, texts', hl, hm, hv⟩
  · cases hm.symm.trans ht
  · cases hm.symm.trans ht
    obtain ⟨-, leaves, rfl, hleaves⟩ := entryTexts_eq_ok_iff.mp hv
    exact ⟨leaves, hl, lookup_leafTexts hleaves⟩

/-! ### What offends -/

/-- What keeps entries from being read, and of what kind it should have been, with the keys that
lead there: a value that is no map, or a value inside of one that is no leaf. -/
inductive Offends (es : Entries) : List String → String → Json → Prop
  | child {name : String} {v : Json} (hv : es.lookup name = some v) (h : v.isMap = false) :
    Offends es [name] Wanted.textMap v
  | leaf {name key : String} {leaves : Entries} {v : Json}
    (hl : es.lookup name = some (.map leaves)) (hv : leaves.lookup key = some v)
    (h : ¬ v.IsLeaf) : Offends es [name, key] Wanted.leaf v

variable {place place' : List String} {wanted wanted' : String} {v v' : Json}

/-- What is at a place offends in one way. -/
theorem Offends.unique (h : Offends es place wanted v) (h' : Offends es place wanted' v') :
    wanted = wanted' ∧ v = v' := by
  cases h with
  | child hv _ =>
    cases h' with
    | child hv' _ => exact ⟨rfl, Option.some.inj (hv.symm.trans hv')⟩
  | leaf hl hv _ =>
    cases h' with
    | leaf hl' hv' _ =>
      cases hl.symm.trans hl'
      exact ⟨rfl, Option.some.inj (hv.symm.trans hv')⟩

/-- What offends is in an entry that is no map of leaves. -/
theorem Offends.exists_child (h : Offends es place wanted v) :
    ∃ name below child, place = name :: below ∧ es.lookup name = some child ∧
      ¬ child.IsLeafMap := by
  cases h with
  | child hv hmap =>
    refine ⟨_, [], v, rfl, hv, ?_⟩
    rintro ⟨-⟩
    cases hmap
  | leaf hl hv hleaf =>
    refine ⟨_, [_], _, rfl, hl, ?_⟩
    rintro ⟨hall⟩
    exact hleaf (hall _ (mem_of_lookup hv))

/-- The first of what offends: keys are compared one after another. -/
structure FirstOffends (es : Entries) (place : List String) (wanted : String) (v : Json) :
    Prop where
  offends : Offends es place wanted v
  none_before : ∀ place' wanted' v', Offends es place' wanted' v' →
    ¬ List.Lex (· < ·) place' place

theorem FirstOffends.unique (h : FirstOffends es place wanted v)
    (h' : FirstOffends es place' wanted' v') : place = place' ∧ wanted = wanted' ∧ v = v' := by
  have htrichotomous : ∀ s t : String, ¬ s < t → ¬ t < s → s = t := fun _ _ hst hts =>
    String.le_antisymm (String.not_lt.mp hts) (String.not_lt.mp hst)
  obtain rfl : place = place' := List.lex_trichotomous htrichotomous
    (h.none_before _ _ _ h'.offends) (h'.none_before _ _ _ h.offends)
  exact ⟨rfl, h.offends.unique h'.offends⟩

/-- What offends first in a child is first of all if the children before are maps of leaves. -/
theorem Offends.first {name : String} {below : List String}
    (h : Offends es (name :: below) wanted v)
    (hbefore : ∀ name' child, es.lookup name' = some child → name' < name → child.IsLeafMap)
    (hbelow : ∀ below' wanted' v', Offends es (name :: below') wanted' v' →
      ¬ List.Lex (· < ·) below' below) : FirstOffends es (name :: below) wanted v := by
  refine ⟨h, fun place' wanted' v' h' hlex => ?_⟩
  obtain ⟨name', below', child, rfl, hl, hchild⟩ := h'.exists_child
  cases hlex with
  | rel hlt => exact hchild (hbefore name' child hl hlt)
  | cons hlex => exact hbelow below' wanted' v' h' hlex

/-- The error about a child shows what offends first in it. -/
theorem exists_of_entryTexts_eq_error {name : String} {child : Json} {e : ConfigError}
    (hchild : child.Canonical) (hl : es.lookup name = some child)
    (h : entryTexts path (name, child) = .error e) :
    ∃ below wanted v, Offends es (name :: below) wanted v ∧
      (∀ below' wanted' v', Offends es (name :: below') wanted' v' →
        ¬ List.Lex (· < ·) below' below) ∧
      e = v.mismatch (".".intercalate (path :: name :: below)) wanted := by
  rcases entryTexts_eq_error h with ⟨hmap, rfl⟩ | ⟨leaves, rfl, hleaves⟩
  · refine ⟨[], Wanted.textMap, child, .child hl hmap, fun _ _ _ _ => nofun, ?_⟩
    rw [String.intercalate_cons_cons, String.intercalate_singleton]
  · obtain ⟨key, v, hv, hleaf, hfirst, he⟩ := exists_of_leafTexts_eq_error hchild.1 hleaves
    refine ⟨[key], Wanted.leaf, v, .leaf hl hv hleaf, fun below' wanted' v' h' hlex => ?_, ?_⟩
    · cases h' with
      | child hl' hmap' =>
        cases hl.symm.trans hl'
        cases hmap'
      | leaf hl' hv' hleaf' =>
        cases hl.symm.trans hl'
        cases hlex with
        | rel hlt => exact hfirst _ v' hv' hleaf' hlt
        | cons hlex => cases hlex
    · rw [String.intercalate_cons_cons, String.intercalate_cons_cons,
        String.intercalate_singleton, he]
      simp only [String.append_assoc]

theorem exists_firstOffends_of_textMap {e : ConfigError} (hes : (Json.map es).Canonical)
    (h : textMap path es = .error e) :
    ∃ place wanted v, FirstOffends es place wanted v ∧
      e = v.mismatch (".".intercalate (path :: place)) wanted := by
  rw [textMap_eq_mapM] at h
  obtain ⟨⟨name, child⟩, hmem, herr, hbefore⟩ := hes.1.exists_of_mapM_eq_error h
  have hcanonical : child.Canonical := canonicalEntries_iff.mp hes.2 _ hmem
  have hl : es.lookup name = some child := hes.1.lookup_eq_some_iff.mpr hmem
  obtain ⟨below, wanted, v, hoff, hbelow, he⟩ :=
    exists_of_entryTexts_eq_error hcanonical hl herr
  refine ⟨name :: below, wanted, v, hoff.first (fun name' child' hl' hlt => ?_) hbelow, he⟩
  have hmem' := hes.1.lookup_eq_some_iff.mp hl'
  exact exists_entryTexts_eq_ok_iff.mp (hbefore _ hmem' hlt)

theorem not_isLeafMap_of_offends (h : Offends es place wanted v) :
    ¬ ∀ e ∈ es, e.2.IsLeafMap := by
  intro hall
  obtain ⟨name, -, child, -, hl, hchild⟩ := h.exists_child
  exact hchild (hall _ (mem_of_lookup hl))

end TextMap

/-- **Reading a map of maps of texts.**  It succeeds just for entries that are maps of leaves, and
has then the texts of the leaves under the same keys.  Otherwise the error shows the first value
that offends, and the keys that lead there. -/
theorem textMap_reads_or_names_first_offender (path : String) (es : Entries)
    (hes : (Json.map es).Canonical) :
    ((∃ m, textMap path es = .ok m) ↔ ∀ e ∈ es, e.2.IsLeafMap) ∧
      (∀ m, textMap path es = .ok m → IsTextMapOf m es) ∧
      ∀ e, textMap path es = .error e ↔ ∃ place wanted v, FirstOffends es place wanted v ∧
        e = .conversion (".".intercalate (path :: place)) wanted v.compact := by
  refine ⟨exists_textMap_eq_ok_iff, fun m => isTextMapOf_of_textMap, fun e => ?_⟩
  refine ⟨exists_firstOffends_of_textMap hes, ?_⟩
  -- What offends first is unique, so the error of the reading has to be about it.
  rintro ⟨place, wanted, v, hfirst, rfl⟩
  cases h : textMap path es with
  | ok m =>
    exact absurd (exists_textMap_eq_ok_iff.mp ⟨m, h⟩) (not_isLeafMap_of_offends hfirst.offends)
  | error e =>
    obtain ⟨place', wanted', v', hfirst', rfl⟩ := exists_firstOffends_of_textMap hes h
    obtain ⟨rfl, rfl, rfl⟩ := hfirst.unique hfirst'
    rfl

/-- Entries of which two offend: a leaf that is `null`, and later a child that is no map. -/
def twoOffenders : Entries :=
  [("a", .map [("host", .text "h")]), ("b", .map [("host", .bool true), ("port", .null)]),
    ("c", .text "x")]

theorem firstOffends_twoOffenders :
    FirstOffends twoOffenders ["b", "port"] Wanted.leaf .null := by
  have hport : Offends twoOffenders ["b", "port"] Wanted.leaf .null :=
    .leaf rfl rfl (by rintro ⟨⟩)
  refine hport.first (fun name child hl hlt => ?_) fun below wanted v h => ?_
  · have hmem := mem_of_lookup hl
    simp only [twoOffenders, List.mem_cons, Prod.mk.injEq, List.not_mem_nil, or_false] at hmem
    rcases hmem with ⟨rfl, rfl⟩ | ⟨rfl, rfl⟩ | ⟨rfl, rfl⟩
    · exact .map (List.forall_mem_singleton.mpr (.text "h"))
    · exact absurd hlt (by decide)
    · exact absurd hlt (by decide)
  · cases h with
    | child hl hmap =>
      cases hl
      cases hmap
    | leaf hl hv hleaf =>
      cases hl
      have hmem := mem_of_lookup hv
      simp only [List.mem_cons, Prod.mk.injEq, List.not_mem_nil, or_false] at hmem
      rcases hmem with ⟨rfl, rfl⟩ | ⟨rfl, rfl⟩
      · exact absurd (.bool true) hleaf
      · exact List.lex_irrefl String.lt_irrefl _

theorem textMap_twoOffenders :
    (Json.map twoOffenders).Canonical ∧ textMap "servers" twoOffenders =
      .error (.conversion "servers.b.port" "a string, number or bool" "null") := by
  have hcanonical : (Json.map twoOffenders).Canonical := by
    simp only [twoOffenders, Canonical, CanonicalEntries, Increasing]
    decide
  refine ⟨hcanonical, ?_⟩
  have herror := (textMap_reads_or_names_first_offender "servers" twoOffenders hcanonical).2.2
  exact (herror _).mpr ⟨["b", "port"], Wanted.leaf, .null, firstOffends_twoOffenders, rfl⟩

end Json

end LiveConfig
