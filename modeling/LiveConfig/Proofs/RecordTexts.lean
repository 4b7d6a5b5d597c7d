import LiveConfig.Json.Record
import LiveConfig.Proofs.PassedValues

/-!
Reading records.

`Json.Recognizes` says for which texts of values a reader yields what, and `Layout.Takes` what the
entries of a map make of a record, one after the other.  Main statement: `Layout.read_map`, a map is
read as the record that its entries make, in whatever order, with or without unknown ones.
-/

namespace LiveConfig.Json

variable {α : Type} {s r v w : Bytes}

/-! ### Values of given kinds -/

/-- Whether a reader takes the text of a value just for what it `means`, wherever it stands. -/
def Recognizes (reader : Bytes → Except Fault (α × Bytes)) (means : α → Bytes → Prop) : Prop :=
  ∀ ⦃w v r : Bytes⦄, AreBlanks w → IsValueText v → EndsNumber r →
    ∀ {x : α} {s : Bytes}, reader (w ++ (v ++ r)) = .ok (x, s) ↔ means x v ∧ s = r

variable {reader : Bytes → Except Fault (α × Bytes)} {means : α → Bytes → Prop}

theorem Recognizes.readsAs (h : Recognizes reader means) {x : α} (hv : IsValueText v)
    (hx : means x v) : ReadsAs reader x v :=
  fun _ _ hw hr => (h hw hv hr).mpr ⟨hx, rfl⟩

/-- What does not begin like a number is none. -/
theorem not_isNumberText {b : UInt8} {t : Bytes} (hminus : b ≠ Ascii.minus)
    (hdigit : Ascii.isDigit b = false) : ¬ IsNumberText (b :: t) := by
  generalize hs : b :: t = s
  rintro ⟨negative, hd, -, -⟩
  cases negative with
  | true => exact hminus (List.cons.inj hs).1
  | false =>
    obtain ⟨c, ds, rfl⟩ := List.exists_cons_of_ne_nil hd.ne_nil
    exact ne_of_isDigit (hd.digits c List.mem_cons_self) hdigit (List.cons.inj hs).1.symm

theorem recognizes_expectText (expected : String) :
    Recognizes (expectText expected) IsLiteral := by
  intro w v r hw hv hr t s
  rw [expectText, skipBlanks_word hw (hv.beginsWord.append r)]
  constructor
  · intro h
    split at h
    · cases h
    rename_i b u hfront
    split at h
    · rename_i hquote
      obtain ⟨body, hbody, rfl⟩ := readText_eq_ok_iff.mp h
      have hliteral : IsLiteral t (Ascii.quote :: (body ++ [Ascii.quote])) := ⟨body, hbody, rfl⟩
      have happend : v ++ r = Ascii.quote :: (body ++ [Ascii.quote]) ++ s := by
        rw [hfront, hquote]
        simp
      have hends : EndsBefore (Ascii.quote :: (body ++ [Ascii.quote])) s :=
        fun hnumber => absurd hnumber (not_isNumberText (by decide) rfl)
      obtain ⟨rfl, rfl⟩ := hv.unique (fun _ => hr) hliteral.isValueText hends happend
      exact ⟨hliteral, rfl⟩
    · cases h
  · rintro ⟨⟨body, hbody, rfl⟩, rfl⟩
    rw [List.cons_append]
    dsimp only
    rw [if_pos rfl]
    exact readText_eq_ok_iff.mpr ⟨body, hbody, by simp⟩

theorem recognizes_expectUnsigned :
    Recognizes expectUnsigned fun n v => IsNumeral n v ∧ n < 2 ^ 64 := by
  intro w v r hw hv hr n s
  rw [expectUnsigned_eq_ok_iff, skipBlanks_word hw (hv.beginsWord.append r)]
  constructor
  · rintro ⟨d, hd, hn, happend, hs⟩
    obtain ⟨rfl, rfl⟩ := hv.unique (fun _ => hr) hd.isValueText (fun _ => hs) happend
    exact ⟨⟨hd, hn⟩, rfl⟩
  · rintro ⟨⟨hd, hn⟩, rfl⟩
    exact ⟨v, hd, hn, rfl, hr⟩

theorem readName_eq_ok_iff {name : Bytes} {x : Unit} :
    readName name s = .ok (x, r) ↔ s = name ++ r := by
  induction name generalizing s with
  | nil =>
    rw [readName]
    exact ⟨fun h => (Prod.mk.inj (Except.ok.inj h)).2, fun h => h ▸ rfl⟩
  | cons e es ih =>
    rcases s with _ | ⟨b, s⟩
    · exact iff_of_false nofun nofun
    rw [readName, List.cons_append, List.cons.injEq]
    split
    · rename_i hb
      rw [ih, and_iff_right hb]
    · rename_i hb
      exact iff_of_false nofun fun h => hb h.1

/-- What a text means that may also be `null`. -/
def OrNull (means : α → Bytes → Prop) : Option α → Bytes → Prop
  | none, v => v = nullText
  | some x, v => means x v

theorem recognizes_optional (h : Recognizes reader means)
    (hmeans : ∀ x v, means x v → v.head? ≠ some 0x6E) :
    Recognizes (optional reader) (OrNull means) := by
  intro w v r hw hv hr x s
  obtain ⟨b, t, rfl, -⟩ := hv.front
  rw [optional, skipBlanks_word hw (hv.beginsWord.append r), List.cons_append]
  dsimp only
  split
  · rename_i hb
    subst hb
    constructor
    · intro hread
      obtain ⟨⟨_, s'⟩, hname, hx⟩ := bind_eq_ok_iff.mp hread
      obtain ⟨rfl, rfl⟩ := Prod.mk.inj (Except.ok.inj hx)
      have happend : 0x6E :: t ++ r = nullText ++ s' :=
        congrArg (0x6E :: ·) (readName_eq_ok_iff.mp hname)
      have hends : EndsBefore nullText s' :=
        fun hnumber => absurd hnumber (not_isNumberText (by decide) rfl)
      exact hv.unique (fun _ => hr) (.scalar .null) hends happend |>.imp id Eq.symm
    · rintro ⟨hx, rfl⟩
      cases x with
      | some x => exact absurd rfl (hmeans x _ hx)
      | none =>
        obtain rfl : t = afterN := (List.cons.inj hx).2
        exact bind_eq_ok_iff.mpr ⟨((), s), readName_eq_ok_iff.mpr rfl, rfl⟩
  · rename_i hb
    constructor
    · intro hread
      obtain ⟨⟨y, s'⟩, hy, hx⟩ := bind_eq_ok_iff.mp hread
      obtain ⟨rfl, rfl⟩ := Prod.mk.inj (Except.ok.inj hx)
      exact (h areBlanks_nil hv hr).mp hy
    · rintro ⟨hx, rfl⟩
      cases x with
      | none => exact absurd (List.cons.inj hx).1 hb
      | some x => exact bind_eq_ok_iff.mpr ⟨_, (h areBlanks_nil hv hr).mpr ⟨hx, rfl⟩, rfl⟩

theorem recognizes_optionalText (expected : String) :
    Recognizes (optional (expectText expected)) (OrNull IsLiteral) := by
  refine recognizes_optional (recognizes_expectText expected) ?_
  rintro t v ⟨body, -, rfl⟩ hfront
  exact absurd (Option.some.inj hfront) (by decide)

/-! ### Records -/

/-- A field is read by its reader and put in its place. -/
theorem recognizes_field {σ : Type} (h : Recognizes reader means) (name : String)
    (set : σ → α → σ) (optional atEnd : Bool) (x : σ) :
    Recognizes ((Field.of name reader set optional atEnd).read x)
      fun y v => ∃ a, means a v ∧ y = set x a := by
  intro w v r hw hv hr y s
  constructor
  · intro hread
    obtain ⟨⟨a, s'⟩, ha, hy⟩ := bind_eq_ok_iff.mp hread
    obtain ⟨rfl, rfl⟩ := Prod.mk.inj (Except.ok.inj hy)
    obtain ⟨hmeans, rfl⟩ := (h hw hv hr).mp ha
    exact ⟨⟨a, hmeans, rfl⟩, rfl⟩
  · rintro ⟨⟨a, ha, rfl⟩, rfl⟩
    exact bind_eq_ok_iff.mpr ⟨_, (h hw hv hr).mpr ⟨ha, rfl⟩, rfl⟩

/-- The text of a map with the given keys and, for each, the text of its value. -/
inductive IsMapText (es : List (String × Bytes)) : Bytes → Prop
  | mk {s : Bytes} (hvs : ∀ e ∈ es, IsValueText e.2)
    (hs : Items .map (fun e => IsEntryOf e.1 e.2) false es s) :
    IsMapText es (Ascii.openBrace :: s)

theorem IsMapText.isValueText {es : List (String × Bytes)} (h : IsMapText es s) :
    IsValueText s := by
  obtain ⟨hvs, hs⟩ := h
  have hitems : Items .map (ItemOf .map) false (es.map (·.2)) _ :=
    hs.imp fun _ _ _ h => h.itemOf
  exact .container .map (List.forall_mem_map.mpr hvs) hitems

namespace Layout

variable {σ : Type} {l : Layout σ} {sets : String → σ → σ → Bytes → Prop} {x y : σ}
  {es : List (String × Bytes)}

/-- The names of the fields. -/
def names (l : Layout σ) : List String := l.fields.map (·.name)

/-- Whether every field is read as `sets` says: what becomes of a record when a text stands for the
field. -/
def Recognizes (l : Layout σ) (sets : String → σ → σ → Bytes → Prop) : Prop :=
  ∀ f ∈ l.fields, ∀ x, Json.Recognizes (f.read x) (sets f.name x)

/-- What entries make of a record, one after the other, when the fields `given` have had theirs.
Unknown ones make nothing of it, and a field must not come twice. -/
def Takes (l : Layout σ) (sets : String → σ → σ → Bytes → Prop) :
    List String → σ → List (String × Bytes) → σ → Prop
  | given, x, [], y => x = y ∧ ∀ f ∈ l.fields, f.name ∈ given ∨ f.optional = true
  | given, x, (k, v) :: es, y =>
    if k ∈ l.names then k ∉ given ∧ ∃ z, sets k x z v ∧ l.Takes sets (k :: given) z es y
    else l.Takes sets given x es y

theorem find?_missing_eq_none_iff {given : List String} :
    (l.fields.find? fun f => !given.contains f.name && !f.optional) = none ↔
      ∀ f ∈ l.fields, f.name ∈ given ∨ f.optional = true := by
  rw [List.find?_eq_none]
  refine forall₂_congr fun f _ => ?_
  cases f.optional <;> simp

section ReadNamed

variable {given : List String} {first : Bool} {fuel : Nat} {s' : Bytes}

/-- At the end of a map the fields are counted. -/
theorem readNamed_stop (hnext : nextKey first s = .ok (.stop (Ascii.closeBrace :: r))) :
    l.readNamed (fuel + 1) given first x s = .ok (y, s') ↔
      (x = y ∧ ∀ f ∈ l.fields, f.name ∈ given ∨ f.optional = true) ∧ s' = r := by
  rw [readNamed, hnext]
  dsimp only [bind, Except.bind]
  split
  · rename_i f hf
    refine iff_of_false nofun fun hall => ?_
    rw [find?_missing_eq_none_iff.mpr hall.1.2] at hf
    cases hf
  · rename_i hf
    constructor
    · intro h
      obtain ⟨rfl, rfl⟩ := Prod.mk.inj (Except.ok.inj h)
      exact ⟨⟨rfl, find?_missing_eq_none_iff.mp hf⟩, rfl⟩
    · rintro ⟨⟨rfl, -⟩, rfl⟩
      rfl

/-- An entry is put into its field, if there is one of its name, and passed over if not. -/
theorem readNamed_entry (hl : l.Recognizes sets) {k : String} {t : Bytes}
    (hnext : nextKey first s = .ok (.more (t ++ r))) (ht : IsEntryOf k v t) (hv : IsValueText v)
    (hr : EndsNumber r) : l.readNamed (fuel + 1) given first x s = .ok (y, s') ↔
      if k ∈ l.names then
        k ∉ given ∧ ∃ z, sets k x z v ∧ l.readNamed fuel (k :: given) false z r = .ok (y, s')
      else l.readNamed fuel given false x r = .ok (y, s') := by
  obtain ⟨u, w, hw, hkey, hcolon⟩ := ht.read r
  rw [readNamed, hnext]
  dsimp only [bind, Except.bind]
  rw [hkey]
  dsimp only
  split
  · rename_i hf
    have hk : k ∉ l.names := by
      intro hk
      obtain ⟨f, hmem, rfl⟩ := List.mem_map.mp hk
      exact absurd (decide_eq_true rfl) (List.find?_eq_none.mp hf f hmem)
    rw [if_neg hk, hcolon]
    change (skipValue (w ++ (v ++ r)) >>= _) = _ ↔ _
    rw [skipValue_append hw hv fun _ => hr]
    rfl
  · rename_i f hf
    obtain rfl : f.name = k := of_decide_eq_true (List.find?_some hf :)
    have hmem := List.mem_of_find?_eq_some hf
    have hname : f.name ∈ l.names := List.mem_map_of_mem hmem
    rw [if_pos hname]
    split
    · rename_i hgiven
      exact iff_of_false nofun fun h => h.1 (List.contains_iff_mem.mp hgiven)
    · rename_i hgiven
      rw [and_iff_right fun hmem => hgiven (List.contains_iff_mem.mpr hmem), hcolon]
      change (f.read x (w ++ (v ++ r)) >>= _) = _ ↔ _
      rw [bind_eq_ok_iff]
      constructor
      · rintro ⟨⟨z, u'⟩, hread, hz⟩
        obtain ⟨hsets, rfl⟩ := (hl f hmem x hw hv hr).mp hread
        exact ⟨z, hsets, hz⟩
      · rintro ⟨z, hsets, hz⟩
        exact ⟨_, (hl f hmem x hw hv hr).mpr ⟨hsets, rfl⟩, hz⟩

/-- **The entries of a map** are put into the record one by one. -/
theorem readNamed_items (hl : l.Recognizes sets) {started : Bool}
    (h : Items .map (fun e => IsEntryOf e.1 e.2) started es s) (hvs : ∀ e ∈ es, IsValueText e.2)
    (hfuel : s.length < fuel) : l.readNamed fuel given (!started) x (s ++ r) = .ok (y, s') ↔
      l.Takes sets given x es y ∧ s' = r := by
  induction es generalizing given started s fuel x with
  | nil =>
    cases fuel with
    | zero => cases hfuel
    | succ fuel => exact readNamed_stop (nextKey_nil h r)
  | cons e es ih =>
    obtain ⟨k, v⟩ := e
    obtain ⟨hv, hvs⟩ := List.forall_mem_cons.mp hvs
    obtain ⟨t, rest, ht, hrest, hlen, hnext⟩ := nextKey_cons h (fun t ht => ht.front) r
    cases fuel with
    | zero => cases hfuel
    | succ fuel =>
      have ih {given : List String} {x : σ} :
          l.readNamed fuel given false x (rest ++ r) = .ok (y, s') ↔
            l.Takes sets given x es y ∧ s' = r := ih hrest hvs (by omega)
      rw [readNamed_entry hl hnext ht hv (hrest.endsNumber r), Takes]
      split
      · simp only [ih, ← and_assoc, exists_and_right]
      · exact ih

end ReadNamed

/-- **A map is read as the record that its entries make.** -/
theorem read_map (hl : l.Recognizes sets) (h : IsMapText es s) (hw : AreBlanks w) {s' : Bytes} :
    l.read x (w ++ (s ++ r)) = .ok (y, s') ↔ l.Takes sets [] x es y ∧ s' = r := by
  obtain @⟨s, hvs, hs⟩ := h
  rw [read, List.cons_append, skipBlanks_word hw (.cons rfl _)]
  dsimp only
  rw [if_pos rfl, mapError_eq_ok_iff]
  exact readNamed_items hl hs hvs (by rw [List.length_append]; omega)

end Layout

/-! ### Whole texts -/

theorem skipBlanks_eq_nil_iff : skipBlanks s = [] ↔ AreBlanks s := List.dropWhile_eq_nil_iff

theorem AreBlanks.endsNumber (h : AreBlanks s) : EndsNumber s := by
  have := h.endsNumber_append (s := []) nofun
  rwa [List.append_nil] at this

theorem readWhole_eq_ok_iff {x : α} :
    readWhole reader s = .ok x ↔ ∃ r, reader s = .ok (x, r) ∧ AreBlanks r := by
  rw [readWhole, bind_eq_ok_iff, Prod.exists]
  constructor
  · rintro ⟨y, r, hread, hfinish⟩
    unfold finish at hfinish
    split at hfinish
    · rename_i hr
      obtain rfl := Except.ok.inj hfinish
      exact ⟨r, hread, skipBlanks_eq_nil_iff.mp hr⟩
    · cases hfinish
  · rintro ⟨r, hread, hr⟩
    refine ⟨x, r, hread, ?_⟩
    rw [finish, skipBlanks_eq_nil_iff.mpr hr]

end LiveConfig.Json
