import LiveConfig.Proofs.Maps
import LiveConfig.Settings.Layer

/-!
Settings over settings.

`Setting.at?` follows keys through tables, and `Setting.Misses` says that it comes to a table that
does not have the next key.  A setting that misses some keys leaves alone what is under them in the
settings below it, and one that has something there decides what is there.  It is not enough that
`at?` finds nothing: a setting that is no table replaces the whole table below it.

`Setting.Highest` looks through settings that lie over one another for what is decided under some
keys, and `Setting.overlay` merges them.  Main statement: `Setting.gives_merge_overlay`, it makes no
difference if some of them are merged first.
-/

namespace LiveConfig.Setting

open KeyOrder

/-! ### What is under some keys -/

/-- What a table has under a key.  Anything else has nothing there. -/
def child? (k : String) : Setting → Option Setting
  | table _ es => es.lookup k
  | _ => none

/-- A setting that is a table. -/
def IsTable (s : Setting) : Prop := ∃ o es, s = table o es

/-- What a setting has under some keys, each of them in the table of the one before. -/
def at? : List String → Setting → Option Setting
  | [], s => some s
  | k :: ks, s => (s.child? k).bind (at? ks)

/-- A setting has nothing under some keys, and nothing but tables on the way there. -/
def Misses : List String → Setting → Prop
  | [], _ => False
  | k :: ks, s => s.IsTable ∧ ∀ t, s.child? k = some t → Misses ks t

/-- All tables that can be reached by keys have their own keys in order. -/
inductive Ordered : Setting → Prop
  | scalar (o : Origin) (v : Scalar) : Ordered (.scalar o v)
  | list (o : Origin) (items : List Setting) : Ordered (.list o items)
  | table (o : Origin) {es : List (String × Setting)} (h : Increasing es)
      (hvalues : ∀ e ∈ es, Ordered e.2) : Ordered (.table o es)

@[simp]
theorem ordered_scalar (o : Origin) (v : Scalar) : (scalar o v).Ordered := .scalar o v

@[simp]
theorem ordered_table_iff {o : Origin} {es : List (String × Setting)} :
    (table o es).Ordered ↔ Increasing es ∧ ∀ e ∈ es, e.2.Ordered := by
  constructor
  · intro h
    cases h with
    | table o hes hvalues => exact ⟨hes, hvalues⟩
  · rintro ⟨hes, hvalues⟩
    exact .table o hes hvalues

/-- The value that a setting stands for, if it stands for a single one.  A number may be given with
or without a sign. -/
def denoted? : Setting → Option Scalar
  | scalar _ (.text s) => some (.text s)
  | scalar _ (.unsigned n) => some (.unsigned n)
  | scalar _ (.signed (.ofNat n)) => some (.unsigned n)
  | _ => none

section At

variable {s : Setting} {k : String} {ks : List String}

theorem exists_table_of_child? {t : Setting} (h : s.child? k = some t) :
    ∃ o es, s = table o es ∧ es.lookup k = some t := by
  cases s with
  | scalar o v => cases h
  | list o items => cases h
  | table o es => exact ⟨o, es, rfl, h⟩

theorem Ordered.child {t : Setting} (hs : s.Ordered) (h : s.child? k = some t) : t.Ordered := by
  obtain ⟨o, es, rfl, ht⟩ := exists_table_of_child? h
  exact (ordered_table_iff.mp hs).2 _ (mem_of_lookup ht)

theorem at?_eq_none_of_misses (h : s.Misses ks) : s.at? ks = none := by
  induction ks generalizing s with
  | nil => exact h.elim
  | cons k ks ih => exact Option.bind_eq_none_iff.mpr fun t ht => ih (h.2 t ht)

theorem misses_empty (o : Origin) (h : ks ≠ []) : (table o []).Misses ks := by
  cases ks with
  | nil => exact absurd rfl h
  | cons k ks => exact ⟨⟨o, [], rfl⟩, fun t ht => nomatch ht⟩

/-- Keys that lead elsewhere do not lead into a nested setting. -/
theorem misses_nest (o : Origin) (x : Setting) {ks ks' : List String} (h : ¬ ks <+: ks')
    (h' : ¬ ks' <+: ks) : (nest o ks x).Misses ks' := by
  induction ks generalizing ks' with
  | nil => exact absurd List.nil_prefix h
  | cons k ks ih =>
    cases ks' with
    | nil => exact absurd List.nil_prefix h'
    | cons k' ks' =>
      refine ⟨⟨o, [(k, nest o ks x)], rfl⟩, fun t ht => ?_⟩
      change List.lookup k' [(k, nest o ks x)] = some t at ht
      rw [lookup_cons_ite] at ht
      split at ht
      · rename_i heq
        subst heq
        cases ht
        exact ih (fun hpre => h (List.cons_prefix_cons.mpr ⟨rfl, hpre⟩))
          fun hpre => h' (List.cons_prefix_cons.mpr ⟨rfl, hpre⟩)
      · cases ht

theorem Ordered.nest (o : Origin) (ks : List String) {x : Setting} (h : x.Ordered) :
    (nest o ks x).Ordered := by
  induction ks with
  | nil => exact h
  | cons k ks ih =>
    refine .table o (List.pairwise_singleton _ _) fun e he => ?_
    rw [List.mem_singleton.mp he]
    exact ih

end At

/-! ### One setting over another -/

section Merge

variable {under upper x : Setting} {us es : List (String × Setting)} {k : String} {ks : List String}

theorem mergeEntries_cons (us : List (String × Setting)) (k : String) (s : Setting)
    (es : List (String × Setting)) :
    mergeEntries us ((k, s) :: es) =
      mergeEntries (insert k ((us.lookup k).elim s (·.merge s)) us) es := by
  rw [mergeEntries]
  cases us.lookup k <;> rfl

theorem lookup_mergeEntries_of_none (h : es.lookup k = none) :
    (mergeEntries us es).lookup k = us.lookup k := by
  induction es generalizing us with
  | nil => rfl
  | cons e es ih =>
    obtain ⟨a, s⟩ := e
    rw [lookup_cons_ite] at h
    split at h
    · cases h
    · rename_i hne
      rw [mergeEntries_cons, ih h, lookup_insert, if_neg hne]

theorem lookup_mergeEntries_of_some (hes : Increasing es) {s : Setting}
    (h : es.lookup k = some s) :
    (mergeEntries us es).lookup k = some ((us.lookup k).elim s (·.merge s)) := by
  induction es generalizing us with
  | nil => cases h
  | cons e es ih =>
    obtain ⟨a, t⟩ := e
    obtain ⟨ha, hes⟩ := List.pairwise_cons.mp hes
    rw [lookup_cons_ite] at h
    rw [mergeEntries_cons]
    split at h
    · rename_i heq
      subst heq
      cases h
      -- The key does not come again.
      rw [lookup_mergeEntries_of_none (lookup_eq_none_of_lt ha), lookup_insert, if_pos rfl]
    · rename_i hne
      rw [ih hes h, lookup_insert, if_neg hne]

theorem ordered_mergeEntries (hus : Increasing us) (hvalues : ∀ e ∈ us, e.2.Ordered)
    (hupper : ∀ e ∈ es, e.2.Ordered)
    (hmerge : ∀ e ∈ es, ∀ {u : Setting}, u.Ordered → (u.merge e.2).Ordered) :
    Increasing (mergeEntries us es) ∧ ∀ e ∈ mergeEntries us es, e.2.Ordered := by
  induction es generalizing us with
  | nil => exact ⟨hus, hvalues⟩
  | cons e es ih =>
    obtain ⟨a, s⟩ := e
    rw [mergeEntries_cons]
    refine ih (increasing_insert hus) (fun e he => ?_)
      (fun e he => hupper e (List.mem_cons_of_mem _ he))
      fun e he => hmerge e (List.mem_cons_of_mem _ he)
    rcases mem_insert he with rfl | he
    · cases hu : us.lookup a with
      | none => exact hupper (a, s) List.mem_cons_self
      | some u => exact hmerge (a, s) List.mem_cons_self (hvalues _ (mem_of_lookup hu))
    · exact hvalues e he

theorem Ordered.merge (hupper : upper.Ordered) {under : Setting} (hunder : under.Ordered) :
    (under.merge upper).Ordered := by
  induction hupper generalizing under with
  | scalar o v => exact .scalar o v
  | list o items => exact .list o items
  | @table o es hes hvalues ih =>
    cases hunder with
    | scalar o' v => exact .table o hes hvalues
    | list o' items => exact .table o hes hvalues
    | table o' hus husvalues =>
      obtain ⟨h, h'⟩ := ordered_mergeEntries hus husvalues hvalues ih
      exact .table o h h'

theorem isTable_merge (under : Setting) (h : upper.IsTable) : (under.merge upper).IsTable := by
  obtain ⟨o, es, rfl⟩ := h
  cases under with
  | scalar o' v => exact ⟨o, es, rfl⟩
  | list o' items => exact ⟨o, es, rfl⟩
  | table o' us => exact ⟨o, mergeEntries us es, rfl⟩

theorem child?_merge_of_none (under : Setting) (htable : upper.IsTable)
    (h : upper.child? k = none) : (under.merge upper).child? k = under.child? k := by
  obtain ⟨o, es, rfl⟩ := htable
  cases under with
  | scalar o' v => exact h
  | list o' items => exact h
  | table o' us => exact lookup_mergeEntries_of_none h

theorem child?_merge_of_some (under : Setting) {t : Setting} (hupper : upper.Ordered)
    (h : upper.child? k = some t) :
    (under.merge upper).child? k = some ((under.child? k).elim t (·.merge t)) := by
  obtain ⟨o, es, rfl, ht⟩ := exists_table_of_child? h
  cases under with
  | scalar o' v => exact h
  | list o' items => exact h
  | table o' us => exact lookup_mergeEntries_of_some (ordered_table_iff.mp hupper).1 ht

/-- **What a setting has under some keys is there after it is put over another one.** -/
theorem at?_merge_of_eq_some (hupper : upper.Ordered) (h : upper.at? ks = some x) :
    (under.merge upper).at? ks = some ((under.at? ks).elim x (·.merge x)) := by
  induction ks generalizing under upper with
  | nil =>
    cases h
    rfl
  | cons k ks ih =>
    obtain ⟨t, ht, hx⟩ := Option.bind_eq_some_iff.mp h
    rw [at?, at?, child?_merge_of_some under hupper ht, Option.bind_some]
    cases under.child? k with
    | none => exact hx
    | some u => exact ih (hupper.child ht) hx

/-- **A setting leaves alone what it misses.** -/
theorem at?_merge_of_misses (hupper : upper.Ordered) (h : upper.Misses ks) :
    (under.merge upper).at? ks = under.at? ks := by
  induction ks generalizing under upper with
  | nil => exact h.elim
  | cons k ks ih =>
    obtain ⟨htable, hmiss⟩ := h
    rw [at?, at?]
    cases ht : upper.child? k with
    | none => rw [child?_merge_of_none under htable ht]
    | some t =>
      rw [child?_merge_of_some under hupper ht, Option.bind_some]
      cases under.child? k with
      | none => exact at?_eq_none_of_misses (hmiss t ht)
      | some u => exact ih (hupper.child ht) (hmiss t ht)

theorem misses_merge (hupper : upper.Ordered) (h : upper.Misses ks) (hunder : under.Misses ks) :
    (under.merge upper).Misses ks := by
  induction ks generalizing under upper with
  | nil => exact h.elim
  | cons k ks ih =>
    obtain ⟨htable, hmiss⟩ := h
    refine ⟨isTable_merge under htable, fun s hs => ?_⟩
    cases ht : upper.child? k with
    | none => exact hunder.2 s (child?_merge_of_none under htable ht ▸ hs)
    | some t =>
      rw [child?_merge_of_some under hupper ht] at hs
      cases hs
      cases hu : under.child? k with
      | none => exact hmiss t ht
      | some u => exact ih (hupper.child ht) (hmiss t ht) (hunder.2 u hu)

/-- A table stands for no single value, and anything else replaces what it is put over. -/
@[simp]
theorem denoted?_merge (under x : Setting) : (under.merge x).denoted? = x.denoted? := by
  cases x with
  | scalar o v => rfl
  | list o items => rfl
  | table o es => cases under <;> rfl

end Merge

/-! ### Many settings over one another -/

/-- Settings over one another and over a lowest one; the first of them is the highest. -/
def overlay (base : Setting) (layers : List Setting) : Setting :=
  layers.foldr (fun upper under => under.merge upper) base

/-- What the highest of some settings that has something under some keys has there, if the ones
above it have nothing but tables on the way.  The first setting is the highest. -/
inductive Highest (ks : List String) : List Setting → Option Setting → Prop
  | nowhere : Highest ks [] none
  | here {layer x} (lower : List Setting) (h : layer.at? ks = some x) :
      Highest ks (layer :: lower) (some x)
  | past {layer lower x} (hmiss : layer.Misses ks) (h : Highest ks lower x) :
      Highest ks (layer :: lower) x

/-- What a setting has under some keys stands for the same as something else, or it has nothing
there and something else is nothing, too. -/
inductive Gives (ks : List String) (s : Setting) : Option Setting → Prop
  | nothing (h : s.Misses ks) : Gives ks s none
  | something {x y} (h : s.at? ks = some y) (heq : y.denoted? = x.denoted?) :
      Gives ks s (some x)

section Overlay

variable {base under upper : Setting} {ks : List String} {layers lower : List Setting}
  {x : Option Setting}

theorem Ordered.overlay (hbase : base.Ordered) (hlayers : ∀ s ∈ layers, s.Ordered) :
    (base.overlay layers).Ordered := by
  induction layers with
  | nil => exact hbase
  | cons s layers ih =>
    have hlower := ih fun t ht => hlayers t (List.mem_cons_of_mem _ ht)
    exact (hlayers s List.mem_cons_self).merge hlower

theorem Gives.of_at? {y : Setting} (h : under.at? ks = some y) : under.Gives ks (some y) :=
  .something h rfl

theorem Gives.merge_of_misses (h : under.Gives ks x) (hupper : upper.Ordered)
    (hmiss : upper.Misses ks) : (under.merge upper).Gives ks x := by
  cases h with
  | nothing h => exact .nothing (misses_merge hupper hmiss h)
  | something h heq => exact .something ((at?_merge_of_misses hupper hmiss).trans h) heq

theorem Gives.merge_of_some {y : Setting} (h : upper.Gives ks (some y)) (hupper : upper.Ordered) :
    (under.merge upper).Gives ks (some y) := by
  cases h with
  | @something _ z h heq =>
    refine .something (at?_merge_of_eq_some hupper h) ?_
    cases under.at? ks with
    | none => exact heq
    | some u => exact (denoted?_merge u z).trans heq

theorem misses_of_highest_none (h : Highest ks layers none) : ∀ s ∈ layers, s.Misses ks := by
  induction layers with
  | nil => exact fun s hs => nomatch hs
  | cons layer layers ih =>
    cases h with
    | past hmiss h => exact List.forall_mem_cons.mpr ⟨hmiss, ih h⟩

/-- Looking through some settings and then through those below them. -/
theorem highest_append (h : Highest ks (layers ++ lower) x) :
    (∃ y, x = some y ∧ Highest ks layers (some y)) ∨
      (Highest ks layers none ∧ Highest ks lower x) := by
  induction layers with
  | nil => exact .inr ⟨.nowhere, h⟩
  | cons layer layers ih =>
    cases h with
    | @here _ y _ h => exact .inl ⟨y, rfl, .here layers h⟩
    | past hmiss h =>
      rcases ih h with ⟨y, rfl, hy⟩ | ⟨hnone, hlower⟩
      · exact .inl ⟨y, rfl, .past hmiss hy⟩
      · exact .inr ⟨.past hmiss hnone, hlower⟩

theorem gives_of_highest_single (h : Highest ks [under] x) : under.Gives ks x := by
  cases h with
  | here lower h => exact .of_at? h
  | past hmiss h =>
    cases h
    exact .nothing hmiss

theorem gives_overlay (hlayers : ∀ s ∈ layers, s.Ordered)
    (hbase : ∀ x, Highest ks lower x → base.Gives ks x) (h : Highest ks (layers ++ lower) x) :
    (base.overlay layers).Gives ks x := by
  induction layers with
  | nil => exact hbase x h
  | cons layer layers ih =>
    have hupper := hlayers layer List.mem_cons_self
    cases h with
    | here _ h => exact (Gives.of_at? h).merge_of_some hupper
    | past hmiss h =>
      have hbelow := ih (fun s hs => hlayers s (List.mem_cons_of_mem _ hs)) h
      exact hbelow.merge_of_misses hupper hmiss

/-- **Merging some settings first makes no difference** to what is decided under some keys, if they
are merged over a setting that has nothing there. -/
theorem gives_merge_overlay (hlayers : ∀ s ∈ layers, s.Ordered) (hbase : base.Ordered)
    (hmiss : base.Misses ks) (hlower : ∀ x, Highest ks lower x → under.Gives ks x)
    (h : Highest ks (layers ++ lower) x) : (under.merge (base.overlay layers)).Gives ks x := by
  have hupper := hbase.overlay hlayers
  have hown : ∀ {y}, Highest ks layers y → (base.overlay layers).Gives ks y := by
    intro y hy
    refine gives_overlay hlayers (fun z hz => ?_) (List.append_nil layers ▸ hy)
    cases hz
    exact .nothing hmiss
  rcases highest_append h with ⟨y, rfl, hy⟩ | ⟨hnone, hx⟩
  · exact (hown hy).merge_of_some hupper
  · cases hown hnone with
    | nothing h => exact (hlower x hx).merge_of_misses hupper h

end Overlay

end LiveConfig.Setting
