import LiveConfig.Proofs.Maps
import LiveConfig.Proofs.Numbers
import Mathlib.Data.List.Perm.Subperm

/-!
Which values count as the same.

`Alike` is the same structure with related numbers at the same places, and it inherits from the
relation of numbers that it is reflexive, symmetric or transitive.  `same` is `Alike` for numbers
that agree: integers exactly, all others up to rounding.  Main statement:
`same_is_exact_without_rounding`, equal values are the same, and values without an integer that
would be rounded are the same just if they are equal.
-/

namespace LiveConfig

open KeyOrder

namespace Json

/-! ### Values as trees -/

/-- A list has a property if its items do, and a map if its values do. -/
@[elab_as_elim]
theorem induction {motive : Json → Prop} (null : motive .null) (bool : ∀ b, motive (.bool b))
    (number : ∀ n, motive (.number n)) (text : ∀ s, motive (.text s))
    (list : ∀ xs : List Json, (∀ x ∈ xs, motive x) → motive (.list xs))
    (map : ∀ es : Entries, (∀ e ∈ es, motive e.2) → motive (.map es)) (v : Json) : motive v :=
  @Json.rec motive (fun xs => ∀ x ∈ xs, motive x) (fun es => ∀ e ∈ es, motive e.2)
    (fun e => motive e.2) null bool number text list map (List.forall_mem_nil _)
    (fun _ _ hx hxs => List.forall_mem_cons.mpr ⟨hx, hxs⟩) (List.forall_mem_nil _)
    (fun _ _ he hes => List.forall_mem_cons.mpr ⟨he, hes⟩) (fun _ _ hx => hx) v

theorem canonicalItems_iff {xs : List Json} : CanonicalItems xs ↔ ∀ x ∈ xs, x.Canonical := by
  induction xs with
  | nil => simp [CanonicalItems]
  | cons x xs ih => simp [CanonicalItems, ih]

/-- A number stands somewhere in a value. -/
inductive Contains : Json → Number → Prop
  | number (n : Number) : Contains (.number n) n
  | item {xs : List Json} {x : Json} {n : Number} (mem : x ∈ xs) (h : Contains x n) :
      Contains (.list xs) n
  | value {es : Entries} {e : String × Json} {n : Number} (mem : e ∈ es) (h : Contains e.2 n) :
      Contains (.map es) n

/-! ### The same structure -/

/-- **The same structure**: lists of the same length with alike items at the same places, maps of
the same keys with alike values, and else equal values, where numbers are related as given. -/
inductive Alike (R : Number → Number → Prop) : Json → Json → Prop
  | null : Alike R .null .null
  | bool (b : Bool) : Alike R (.bool b) (.bool b)
  | number {m n : Number} (related : R m n) : Alike R (.number m) (.number n)
  | text (s : String) : Alike R (.text s) (.text s)
  | list {xs ys : List Json} (length : xs.length = ys.length)
      (items : ∀ (i : Nat) (x y : Json), xs[i]? = some x → ys[i]? = some y → Alike R x y) :
      Alike R (.list xs) (.list ys)
  | map {xs ys : Entries} (keys : ∀ k, (∃ x, xs.lookup k = some x) ↔ ∃ y, ys.lookup k = some y)
      (values : ∀ (k : String) (x y : Json), xs.lookup k = some x → ys.lookup k = some y →
        Alike R x y) : Alike R (.map xs) (.map ys)

section Alike

variable {R S : Number → Number → Prop} {a b c : Json}

theorem alike_iff : Alike R a b ↔
    match a, b with
    | .null, .null => True
    | .bool x, .bool y => x = y
    | .number m, .number n => R m n
    | .text s, .text t => s = t
    | .list xs, .list ys => xs.length = ys.length ∧
        ∀ (i : Nat) (x y : Json), xs[i]? = some x → ys[i]? = some y → Alike R x y
    | .map xs, .map ys => (∀ k, (∃ x, xs.lookup k = some x) ↔ ∃ y, ys.lookup k = some y) ∧
        ∀ (k : String) (x y : Json), xs.lookup k = some x → ys.lookup k = some y → Alike R x y
    | _, _ => False := by
  constructor
  · intro h
    cases h with
    | null => trivial
    | bool | text => rfl
    | number related => exact related
    | list length items => exact ⟨length, items⟩
    | map keys values => exact ⟨keys, values⟩
  · intro h
    split at h
    · exact .null
    · exact h ▸ .bool _
    · exact .number h
    · exact h ▸ .text _
    · exact .list h.1 h.2
    · exact .map h.1 h.2
    · exact h.elim

theorem Alike.refl (hR : ∀ n, R n n) (a : Json) : Alike R a a := by
  induction a using Json.induction with
  | null => exact .null
  | bool b => exact .bool b
  | number n => exact .number (hR n)
  | text s => exact .text s
  | list xs ih =>
    refine .list rfl fun i x y hx hy => ?_
    obtain rfl : x = y := Option.some.inj (hx.symm.trans hy)
    exact ih x (List.mem_of_getElem? hx)
  | map es ih =>
    refine .map (fun k => .rfl) fun k x y hx hy => ?_
    obtain rfl : x = y := Option.some.inj (hx.symm.trans hy)
    exact ih _ (mem_of_lookup hx)

theorem Alike.symm (hR : ∀ m n, R m n → S n m) (h : Alike R a b) : Alike S b a := by
  induction h with
  | null => exact .null
  | bool b => exact .bool b
  | number related => exact .number (hR _ _ related)
  | text s => exact .text s
  | list length items ih => exact .list length.symm fun i x y hx hy => ih i y x hy hx
  | map keys values ih =>
    exact .map (fun k => (keys k).symm) fun k x y hx hy => ih k y x hy hx

/-- What is alike in two steps is alike. -/
theorem Alike.comp (hab : Alike R a b) (hbc : Alike S b c) :
    Alike (fun m n => ∃ l, R m l ∧ S l n) a c := by
  induction hab generalizing c with
  | null =>
    cases hbc
    exact .null
  | bool b =>
    cases hbc
    exact .bool b
  | number related =>
    cases hbc with
    | number related' => exact .number ⟨_, related, related'⟩
  | text s =>
    cases hbc
    exact .text s
  | list length items ih =>
    cases hbc with
    | list length' items' =>
      refine .list (length.trans length') fun i x z hx hz => ?_
      obtain ⟨hi, -⟩ := List.getElem?_eq_some_iff.mp hx
      have hy := List.getElem?_eq_getElem (length ▸ hi)
      exact ih i x _ hx hy (items' i _ z hy hz)
  | map keys values ih =>
    cases hbc with
    | map keys' values' =>
      refine .map (fun k => (keys k).trans (keys' k)) fun k x z hx hz => ?_
      obtain ⟨y, hy⟩ := (keys k).mp ⟨x, hx⟩
      exact ih k x y hx hy (values' k y z hy hz)

/-- Only the numbers that stand in the values have to be related. -/
theorem Alike.imp (h : Alike R a b)
    (hRS : ∀ m n, a.Contains m → b.Contains n → R m n → S m n) : Alike S a b := by
  induction h with
  | null => exact .null
  | bool b => exact .bool b
  | number related => exact .number (hRS _ _ (.number _) (.number _) related)
  | text s => exact .text s
  | list length items ih =>
    refine .list length fun i x y hx hy => ih i x y hx hy fun m n hm hn => ?_
    exact hRS m n (.item (List.mem_of_getElem? hx) hm) (.item (List.mem_of_getElem? hy) hn)
  | map keys values ih =>
    refine .map keys fun k x y hx hy => ih k x y hx hy fun m n hm hn => ?_
    exact hRS m n (.value (mem_of_lookup hx) hm) (.value (mem_of_lookup hy) hn)

end Alike

/-! ### The comparison of structures -/

theorem sameItems_iff {xs ys : List Json} : sameItems xs ys = true ↔ xs.length = ys.length ∧
    ∀ (i : Nat) (x y : Json), xs[i]? = some x → ys[i]? = some y → x.same y = true := by
  induction xs generalizing ys with
  | nil => cases ys <;> simp [sameItems]
  | cons x xs ih =>
    cases ys with
    | nil => simp [sameItems]
    | cons y ys =>
      rw [sameItems, Bool.and_eq_true, ih]
      constructor
      · rintro ⟨hxy, hlen, hitems⟩
        refine ⟨by simp [hlen], fun i u v hu hv => ?_⟩
        cases i with
        | zero => simp_all
        | succ i => exact hitems i u v (by simpa using hu) (by simpa using hv)
      · rintro ⟨hlen, hitems⟩
        refine ⟨hitems 0 x y rfl rfl, by simpa using hlen, fun i u v hu hv => ?_⟩
        exact hitems (i + 1) u v (by simpa using hu) (by simpa using hv)

theorem sameEntries_iff {xs ys : Entries} : sameEntries xs ys = true ↔
    ∀ e ∈ xs, ∃ y, ys.lookup e.1 = some y ∧ e.2.same y = true := by
  induction xs with
  | nil => simp [sameEntries]
  | cons e xs ih =>
    obtain ⟨k, x⟩ := e
    rw [sameEntries, Bool.and_eq_true, ih, List.forall_mem_cons]
    refine and_congr_left fun _ => ?_
    cases ys.lookup k <;> simp

/-- Of two maps with as many keys, one has all the keys of the other just if they have the same. -/
theorem forall_entries_iff {xs ys : Entries} (hx : Increasing xs) (hy : Increasing ys)
    {P : Json → Json → Prop} :
    (xs.length = ys.length ∧ ∀ e ∈ xs, ∃ y, ys.lookup e.1 = some y ∧ P e.2 y) ↔
      (∀ k, (∃ x, xs.lookup k = some x) ↔ ∃ y, ys.lookup k = some y) ∧
        ∀ (k : String) (x y : Json), xs.lookup k = some x → ys.lookup k = some y → P x y := by
  constructor
  · rintro ⟨hlen, h⟩
    have hsub : xs.map (·.1) ⊆ ys.map (·.1) := by
      intro k hk
      obtain ⟨e, he, rfl⟩ := List.mem_map.mp hk
      obtain ⟨y, hl, -⟩ := h e he
      exact mem_keys_of_lookup hl
    have hperm : (xs.map (·.1)).Perm (ys.map (·.1)) :=
      (hx.nodup_keys.subperm hsub).perm_of_length_le (by simp [hlen])
    refine ⟨fun k => ?_, fun k x y hkx hky => ?_⟩
    · rw [← hx.mem_keys_iff, ← hy.mem_keys_iff]
      exact hperm.mem_iff
    · obtain ⟨y', hl, hP⟩ := h (k, x) (mem_of_lookup hkx)
      obtain rfl : y' = y := Option.some.inj (hl.symm.trans hky)
      exact hP
  · rintro ⟨hkeys, h⟩
    have hperm : (xs.map (·.1)).Perm (ys.map (·.1)) := by
      refine (List.perm_ext_iff_of_nodup hx.nodup_keys hy.nodup_keys).mpr fun k => ?_
      rw [hx.mem_keys_iff, hy.mem_keys_iff]
      exact hkeys k
    refine ⟨by simpa using hperm.length_eq, fun e he => ?_⟩
    have hl : xs.lookup e.1 = some e.2 := hx.lookup_eq_some_iff.mpr he
    obtain ⟨y, hy⟩ := (hkeys e.1).mp ⟨e.2, hl⟩
    exact ⟨y, hy, h e.1 e.2 y hl hy⟩

/-- **The comparison is one of structures**, down to the numbers. -/
theorem same_iff_alike {a b : Json} (ha : a.Canonical) (hb : b.Canonical) :
    a.same b = true ↔ Alike (fun m n => m.sameValue n = true) a b := by
  induction a using Json.induction generalizing b with
  | null | bool | number | text => cases b <;> simp [same, alike_iff]
  | list xs ih =>
    cases b with
    | list ys =>
      rw [same, sameItems_iff, alike_iff]
      refine and_congr_right fun _ => forall_congr' fun i => forall_congr' fun x =>
        forall_congr' fun y => forall_congr' fun hx => forall_congr' fun hy => ?_
      have hmx := List.mem_of_getElem? hx
      have hmy := List.mem_of_getElem? hy
      exact ih x hmx (canonicalItems_iff.mp ha x hmx) (canonicalItems_iff.mp hb y hmy)
    | _ => simp [same, alike_iff]
  | map xs ih =>
    cases b with
    | map ys =>
      rw [same, Bool.and_eq_true, beq_iff_eq, sameEntries_iff, alike_iff,
        forall_entries_iff ha.1 hb.1 (P := fun x y => x.same y = true)]
      refine and_congr_right fun _ => forall_congr' fun k => forall_congr' fun x =>
        forall_congr' fun y => forall_congr' fun hx => forall_congr' fun hy => ?_
      have hmx := mem_of_lookup hx
      have hmy := mem_of_lookup hy
      exact ih _ hmx (canonicalEntries_iff.mp ha.2 _ hmx) (canonicalEntries_iff.mp hb.2 _ hmy)
    | _ => simp [same, alike_iff]

/-! ### Equal values -/

/-- **Equal values**: the same structure, and the same exact numbers at the same places. -/
def EqualValues : Json → Json → Prop := Alike fun m n => m.value = n.value

/-- No number of a value is rounded. -/
def Exact (v : Json) : Prop := ∀ n, v.Contains n → n.IsExact

theorem exact_number_iff {n : Number} : (Json.number n).Exact ↔ n.IsExact := by
  constructor
  · exact fun h => h n (.number n)
  · rintro h m ⟨⟩
    exact h

theorem exact_list_iff {xs : List Json} : (Json.list xs).Exact ↔ ∀ x ∈ xs, x.Exact := by
  constructor
  · exact fun h x hx n hn => h n (.item hx hn)
  · rintro h n ⟨⟩
    rename_i x hx hn
    exact h x hx n hn

theorem exact_map_iff {es : Entries} : (Json.map es).Exact ↔ ∀ e ∈ es, e.2.Exact := by
  constructor
  · exact fun h e he n hn => h n (.value he hn)
  · rintro h n ⟨⟩
    rename_i e he hn
    exact h e he n hn

section Same

variable {a b c : Json} (ha : a.Canonical) (hb : b.Canonical) (hc : c.Canonical)
include ha

theorem same_refl : a.same a = true := by
  rw [same_iff_alike ha ha]
  exact Alike.refl (fun n => Number.sameValue_iff.mpr (.refl n)) a

include hb

theorem same_iff_agree : a.same b = true ↔ Alike Number.Agree a b := by
  simpa only [Number.sameValue_iff] using same_iff_alike ha hb

theorem same_symm (h : a.same b = true) : b.same a = true := by
  rw [same_iff_agree hb ha]
  exact ((same_iff_agree ha hb).mp h).symm fun m n => Number.Agree.symm

theorem same_comm : a.same b = b.same a :=
  Bool.eq_iff_iff.mpr ⟨same_symm ha hb, same_symm hb ha⟩

/-- Equal values are the same. -/
theorem same_of_equalValues (h : EqualValues a b) : a.same b = true := by
  rw [same_iff_agree ha hb]
  exact h.imp fun m n _ _ => Number.Agree.of_value_eq

/-- Values in which nothing is rounded are the same only if they are equal. -/
theorem equalValues_of_same (hae : a.Exact) (hbe : b.Exact) (h : a.same b = true) :
    EqualValues a b := by
  refine ((same_iff_agree ha hb).mp h).imp fun m n hm hn hmn => ?_
  calc m.value = m.rounded := (hae m hm).symm
    _ = n.rounded := hmn.rounded_eq
    _ = n.value := hbe n hn

include hc

/-- A chain of values that are the same, each as the next one, ends with an equal value, whatever
is rounded in between. -/
theorem equalValues_of_same_of_same (hae : a.Exact) (hce : c.Exact) (hab : a.same b = true)
    (hbc : b.same c = true) : EqualValues a c := by
  have h := ((same_iff_agree ha hb).mp hab).comp ((same_iff_agree hb hc).mp hbc)
  refine h.imp fun m n hm hn hmn => ?_
  obtain ⟨l, hml, hln⟩ := hmn
  calc m.value = m.rounded := (hae m hm).symm
    _ = l.rounded := hml.rounded_eq
    _ = n.rounded := hln.rounded_eq
    _ = n.value := hce n hn

end Same

/-- **Sameness is exact where nothing is rounded.**  Two values are the same just if they have the
same structure with numbers that agree.  Equal values always do; values without an integer that has
to be rounded do only if they are equal.  Sameness is reflexive and symmetric, and transitive
between values that are not rounded. -/
theorem same_is_exact_without_rounding (a b c : Json) (ha : a.Canonical) (hb : b.Canonical)
    (hc : c.Canonical) :
    (a.same b = true ↔ Alike Number.Agree a b) ∧ (EqualValues a b → a.same b = true) ∧
      (a.Exact → b.Exact → (a.same b = true ↔ EqualValues a b)) ∧
      a.same a = true ∧ a.same b = b.same a ∧
      (a.Exact → c.Exact → a.same b = true → b.same c = true → a.same c = true) := by
  refine ⟨same_iff_agree ha hb, same_of_equalValues ha hb, ?_, same_refl ha, same_comm ha hb, ?_⟩
  · intro hae hbe
    exact ⟨equalValues_of_same ha hb hae hbe, same_of_equalValues ha hb⟩
  · intro hae hce hab hbc
    exact same_of_equalValues ha hc (equalValues_of_same_of_same ha hb hc hae hce hab hbc)

/-- A list and a map, with the integers of the one as reals in the other. -/
theorem same_is_exact_without_rounding_when_nested :
    let int1 : Number := .int 1 (by decide)
    let int2 : Number := .int 2 (by decide)
    let real1 : Number := .real ⟨false, 2 ^ 52, 1022, by decide, by decide, by decide⟩
    let real2 : Number := .real ⟨false, 2 ^ 52, 1023, by decide, by decide, by decide⟩
    let a : Json := .list [.number int1, .map [("a", .number real2)]]
    let b : Json := .list [.number real1, .map [("a", .number int2)]]
    (a.Canonical ∧ b.Canonical ∧ a.Exact ∧ b.Exact) ∧
      a.same b = true ∧ EqualValues a b ∧ b.same a = true ∧ a.same a = true := by
  intro int1 int2 real1 real2 a b
  have ha : a.Canonical := by simp [a, Canonical, CanonicalItems, CanonicalEntries, Increasing]
  have hb : b.Canonical := by simp [b, Canonical, CanonicalItems, CanonicalEntries, Increasing]
  have h1 : int1.IsExact := Number.isExact_of_natAbs_lt (by decide)
  have h2 : int2.IsExact := Number.isExact_of_natAbs_lt (by decide)
  have hae : a.Exact := by
    simp [a, exact_list_iff, exact_map_iff, exact_number_iff, h1, real2, Number.isExact_real]
  have hbe : b.Exact := by
    simp [b, exact_list_iff, exact_map_iff, exact_number_iff, h2, real1, Number.isExact_real]
  obtain ⟨-, -, hexact, -, hcomm, htrans⟩ := same_is_exact_without_rounding a b a ha hb ha
  have hab : a.same b = true := by decide +kernel
  have hba : b.same a = true := hcomm ▸ hab
  exact ⟨⟨ha, hb, hae, hbe⟩, hab, (hexact hae hbe).mp hab, hba, htrans hae hae hab hba⟩

/-- **An integer that has to be rounded** is the same as its neighbour written as a real, which is
the same as the neighbour written as an integer; but the integers are not the same. -/
theorem same_joins_neighbours :
    let a : Json := .number (.int (2 ^ 53 + 1) (by decide))
    let b : Json := .number (.real ⟨false, 2 ^ 52, 1075, by decide, by decide, by decide⟩)
    let c : Json := .number (.int (2 ^ 53) (by decide))
    (a.Canonical ∧ b.Canonical ∧ c.Canonical) ∧
      (a.same b = true ∧ ¬ EqualValues a b) ∧ b.same c = true ∧ a.same c = false := by
  intro a b c
  refine ⟨⟨trivial, trivial, trivial⟩, ⟨by decide +kernel, fun h => ?_⟩, by decide +kernel,
    by decide +kernel⟩
  have hunits := Number.value_int_eq_real_iff.mp (alike_iff.mp h)
  revert hunits
  decide +kernel

end Json

end LiveConfig
