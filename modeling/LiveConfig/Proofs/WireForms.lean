import LiveConfig.Proofs.Base64Texts
import LiveConfig.Proofs.RecordTexts
import LiveConfig.Remote.Http

/-!
The JSON forms of the entries of a remote store.

`Pair.IsGivenBy` says which maps are a form of a pair: its parts stand under their names, in any
order and among entries of other names, and a part that is as in `Pair.bare` may be missing.  Main
statement: a map is read as a pair just if it is a form of the pair, so that reading undoes writing
and different pairs have different forms.
-/

namespace LiveConfig.Pair

open Json

variable {p x y : Pair} {es : List (String × Bytes)} {s v w w' : Bytes}

/-! ### Parts -/

/-- The parts of a pair. -/
inductive Part where
  | key
  | createIndex
  | modifyIndex
  | lockIndex
  | flags
  | value
  | session
deriving DecidableEq

namespace Part

/-- What a part is called. -/
def name : Part → String
  | key => "Key"
  | createIndex => "CreateIndex"
  | modifyIndex => "ModifyIndex"
  | lockIndex => "LockIndex"
  | flags => "Flags"
  | value => "Value"
  | session => "Session"

/-- What a part is. -/
def Content : Part → Type
  | key => String
  | createIndex | modifyIndex | lockIndex | flags => Nat
  | value => Bytes
  | session => Option String

/-- A part of a pair. -/
def get : (part : Part) → Pair → part.Content
  | key, p => p.key
  | createIndex, p => p.createIndex
  | modifyIndex, p => p.modifyIndex
  | lockIndex, p => p.lockIndex
  | flags, p => p.flags
  | value, p => p.value
  | session, p => p.session

/-- A pair with another part. -/
def put : (part : Part) → part.Content → Pair → Pair
  | key, a, p => { p with key := a }
  | createIndex, a, p => { p with createIndex := a }
  | modifyIndex, a, p => { p with modifyIndex := a }
  | lockIndex, a, p => { p with lockIndex := a }
  | flags, a, p => { p with flags := a }
  | value, a, p => { p with value := a }
  | session, a, p => { p with session := a }

/-- Whether a text stands for a counter: its digits, and it fits 64 bits. -/
def IsCounter (n : Nat) (v : Bytes) : Prop := IsNumeral n v ∧ n < 2 ^ 64

/-- Whether a text stands for some bytes: their form in base 64, or `null` for none. -/
def IsData (value v : Bytes) : Prop :=
  IsLiteral (Base64.text value) v ∨ value = [] ∧ v = nullText

/-- Whether a text stands for a part. -/
def Gives : (part : Part) → part.Content → Bytes → Prop
  | key => IsLiteral
  | createIndex | modifyIndex | lockIndex | flags => IsCounter
  | value => IsData
  | session => OrNull IsLiteral

theorem name_inj : ∀ {a b : Part}, a.name = b.name → a = b := by
  intro a b h
  cases a <;> cases b <;> first | rfl | exact absurd h (by decide)

theorem get_put (part : Part) (a : part.Content) (x : Pair) : part.get (part.put a x) = a := by
  cases part <;> rfl

theorem get_put_of_ne {part other : Part} (h : other ≠ part) (a : part.Content) (x : Pair) :
    other.get (part.put a x) = other.get x := by
  cases part <;> cases other <;> first | rfl | exact absurd rfl h

end Part

/-- Two pairs with the same parts are the same. -/
theorem eq_of_get_eq (h : ∀ part : Part, part.get x = part.get y) : x = y := by
  obtain ⟨⟩ := x
  obtain ⟨⟩ := y
  congr
  · exact h .key
  · exact h .createIndex
  · exact h .modifyIndex
  · exact h .lockIndex
  · exact h .flags
  · exact h .value
  · exact h .session

/-! ### Reading a part -/

theorem recognizes_readBase64 : Recognizes readBase64 Part.IsData := by
  intro w v r hw hv hr value s
  have hoptional {x : Option String} {s : Bytes} :
      optional (expectText "a string") (w ++ (v ++ r)) = .ok (x, s) ↔
        OrNull IsLiteral x v ∧ s = r := recognizes_optionalText "a string" hw hv hr
  constructor
  · intro hread
    obtain ⟨⟨x, s'⟩, hx, hvalue⟩ := bind_eq_ok_iff.mp hread
    obtain ⟨hmeans, rfl⟩ := hoptional.mp hx
    cases x with
    | none =>
      obtain ⟨rfl, rfl⟩ := Prod.mk.inj (Except.ok.inj hvalue)
      exact ⟨.inr ⟨rfl, hmeans⟩, rfl⟩
    | some t =>
      dsimp only at hvalue
      split at hvalue
      · rename_i bytes hdecode
        obtain ⟨rfl, rfl⟩ := Prod.mk.inj (Except.ok.inj hvalue)
        rw [Base64.decode_text_eq_ok_iff] at hdecode
        exact ⟨.inl (hdecode ▸ hmeans), rfl⟩
      · cases hvalue
  · rintro ⟨hliteral | ⟨rfl, rfl⟩, rfl⟩
    · have hx := (hoptional (x := some (Base64.text value)) (s := s)).mpr ⟨hliteral, rfl⟩
      refine bind_eq_ok_iff.mpr ⟨_, hx, ?_⟩
      dsimp only
      rw [Base64.decode_text_eq_ok_iff.mpr rfl]
      rfl
    · exact bind_eq_ok_iff.mpr ⟨(none, s), hoptional.mpr ⟨rfl, rfl⟩, rfl⟩

/-- What a text makes of a pair in the entry of some name. -/
def Sets (name : String) (x y : Pair) (v : Bytes) : Prop :=
  ∃ part : Part, part.name = name ∧ ∃ a, part.Gives a v ∧ y = part.put a x

theorem recognizes_part (part : Part) {reader : Bytes → Except Fault (part.Content × Bytes)}
    (h : Recognizes reader part.Gives) (optional atEnd : Bool) (x : Pair) :
    Recognizes ((Json.Field.of part.name reader (fun x a => part.put a x) optional atEnd).read x)
      (Sets part.name x) := by
  intro w v r hw hv hr y s
  rw [recognizes_field h part.name _ optional atEnd x hw hv hr]
  refine and_congr_left fun _ => ⟨fun hy => ⟨part, rfl, hy⟩, ?_⟩
  rintro ⟨other, hother, hy⟩
  obtain rfl := Part.name_inj hother
  exact hy

theorem layout_recognizes : layout.Recognizes Sets := by
  intro f hf x
  have hname : Recognizes readName IsLiteral := recognizes_expectText "a string"
  have hcounter : Recognizes expectUnsigned Part.IsCounter := recognizes_expectUnsigned
  have hsession : Recognizes (optional readName) (OrNull IsLiteral) :=
    recognizes_optionalText "a string"
  simp only [layout, List.mem_cons, List.not_mem_nil, or_false] at hf
  rcases hf with rfl | rfl | rfl | rfl | rfl | rfl | rfl
  · exact recognizes_part .key hname _ _ x
  · exact recognizes_part .createIndex hcounter _ _ x
  · exact recognizes_part .modifyIndex hcounter _ _ x
  · exact recognizes_part .lockIndex hcounter _ _ x
  · exact recognizes_part .flags hcounter _ _ x
  · exact recognizes_part .value recognizes_readBase64 _ _ x
  · exact recognizes_part .session hsession _ _ x

theorem mem_names_iff {k : String} : k ∈ layout.names ↔ ∃ part : Part, part.name = k := by
  constructor
  · intro hk
    simp only [Layout.names, layout, List.map_cons, List.map_nil, List.mem_cons, List.not_mem_nil,
      or_false] at hk
    rcases hk with rfl | rfl | rfl | rfl | rfl | rfl | rfl
    · exact ⟨.key, rfl⟩
    · exact ⟨.createIndex, rfl⟩
    · exact ⟨.modifyIndex, rfl⟩
    · exact ⟨.lockIndex, rfl⟩
    · exact ⟨.flags, rfl⟩
    · exact ⟨.value, rfl⟩
    · exact ⟨.session, rfl⟩
  · rintro ⟨part, rfl⟩
    cases part <;> decide

/-- No part but the key must be there. -/
theorem required_iff {given : List String} :
    (∀ f ∈ layout.fields, f.name ∈ given ∨ f.optional = true) ↔ Part.key.name ∈ given := by
  simp [layout, Json.Field.of, Part.name]

/-! ### Forms of a pair -/

/-- The texts of the values under a name. -/
def valuesOf (es : List (String × Bytes)) (name : String) : List Bytes :=
  (es.filter (·.1 = name)).map (·.2)

theorem valuesOf_cons_self (name : String) (v : Bytes) (es : List (String × Bytes)) :
    valuesOf ((name, v) :: es) name = v :: valuesOf es name := by
  simp [valuesOf]

theorem valuesOf_cons_of_ne {k name : String} (h : k ≠ name) (v : Bytes)
    (es : List (String × Bytes)) : valuesOf ((k, v) :: es) name = valuesOf es name := by
  simp [valuesOf, h]

/-- **Whether the entries of a map are a form of a pair.**  Each part stands once under its name, or
does not while it is as in `bare`; the key must be there. -/
def IsGivenBy (p : Pair) (es : List (String × Bytes)) : Prop :=
  ∀ part : Part,
    (∃ v, valuesOf es part.name = [v] ∧ part.Gives (part.get p) v) ∨
      (valuesOf es part.name = [] ∧ part ≠ .key ∧ part.get p = part.get (bare ""))

/-- Whether entries make `p` of `x` as far as a part is concerned, when those in `given` are there
already. -/
def Completes (given : List String) (x p : Pair) (es : List (String × Bytes)) (part : Part) :
    Prop :=
  (part.name ∉ given ∧ ∃ v, valuesOf es part.name = [v] ∧ part.Gives (part.get p) v) ∨
    (valuesOf es part.name = [] ∧ (part.name ∈ given ∨ part ≠ .key) ∧ part.get p = part.get x)

theorem completes_cons_of_ne {given : List String} {part other : Part} (h : other ≠ part)
    (a : part.Content) : Completes given x p ((part.name, v) :: es) other ↔
      Completes (part.name :: given) (part.put a x) p es other := by
  have hname : part.name ≠ other.name := fun hname => h (Part.name_inj hname).symm
  rw [Completes, Completes, valuesOf_cons_of_ne hname, Part.get_put_of_ne h,
    List.mem_cons, or_iff_right hname.symm]

/-- An entry of a part gives this part, and what is left to be done is the same for the others. -/
theorem forall_completes_cons {given : List String} {part : Part} :
    (∀ q, Completes given x p ((part.name, v) :: es) q) ↔ part.name ∉ given ∧
      ∃ a, part.Gives a v ∧ ∀ q, Completes (part.name :: given) (part.put a x) p es q := by
  constructor
  · intro h
    rcases h part with ⟨hgiven, u, hu, hgives⟩ | ⟨hnone, -⟩
    · rw [valuesOf_cons_self] at hu
      obtain ⟨rfl, hnone⟩ := List.cons.inj hu
      refine ⟨hgiven, part.get p, hgives, fun q => ?_⟩
      by_cases hq : q = part
      · subst hq
        exact .inr ⟨hnone, .inl List.mem_cons_self, (Part.get_put q _ x).symm⟩
      · exact (completes_cons_of_ne hq _).mp (h q)
    · rw [valuesOf_cons_self] at hnone
      cases hnone
  · rintro ⟨hgiven, a, ha, h⟩ q
    by_cases hq : q = part
    · subst hq
      rcases h q with ⟨hnot, -⟩ | ⟨hnone, -, hget⟩
      · exact absurd List.mem_cons_self hnot
      · rw [Part.get_put] at hget
        exact .inl ⟨hgiven, v, by rw [valuesOf_cons_self, hnone], hget ▸ ha⟩
    · exact (completes_cons_of_ne hq a).mpr (h q)

/-- The entries are put into the pair one by one. -/
theorem takes_iff {given : List String} :
    layout.Takes Sets given x es p ↔ ∀ part, Completes given x p es part := by
  -- `Completes` is what an entry keeps: it settles its own part and leaves the others alone.
  induction es generalizing given x with
  | nil =>
    rw [Layout.Takes, required_iff]
    constructor
    · rintro ⟨rfl, hkey⟩ part
      refine .inr ⟨rfl, ?_, rfl⟩
      by_cases h : part = .key
      · exact .inl (h ▸ hkey)
      · exact .inr h
    · intro h
      have hparts (part : Part) : (part.name ∈ given ∨ part ≠ .key) ∧ part.get p = part.get x := by
        rcases h part with ⟨-, v, hv, -⟩ | ⟨-, hpart⟩
        · cases hv
        · exact hpart
      exact ⟨(eq_of_get_eq fun part => (hparts part).2).symm,
        (hparts .key).1.resolve_right fun hkey => hkey rfl⟩
  | cons e es ih =>
    obtain ⟨k, v⟩ := e
    rw [Layout.Takes]
    by_cases hk : k ∈ layout.names
    · obtain ⟨part, rfl⟩ := mem_names_iff.mp hk
      rw [if_pos hk, forall_completes_cons]
      refine and_congr_right fun _ => ?_
      constructor
      · rintro ⟨_, ⟨other, hother, a, ha, rfl⟩, htakes⟩
        obtain rfl := Part.name_inj hother
        exact ⟨a, ha, ih.mp htakes⟩
      · rintro ⟨a, ha, h⟩
        exact ⟨_, ⟨part, rfl, a, ha, rfl⟩, ih.mpr h⟩
    · have hvalues (part : Part) : valuesOf ((k, v) :: es) part.name = valuesOf es part.name :=
        valuesOf_cons_of_ne (fun h => hk (mem_names_iff.mpr ⟨part, h.symm⟩)) v es
      rw [if_neg hk, ih]
      refine forall_congr' fun part => ?_
      rw [Completes, Completes, hvalues]

theorem takes_bare_iff : layout.Takes Sets [] (bare "") es p ↔ p.IsGivenBy es := by
  rw [takes_iff]
  refine forall_congr' fun part => ?_
  simp [Completes]

/-! ### Reading a form -/

theorem readFront_iff (h : IsMapText es s) (hw : AreBlanks w) {r s' : Bytes} :
    readFront (w ++ (s ++ r)) = .ok (p, s') ↔ p.IsGivenBy es ∧ s' = r := by
  rw [readFront, Layout.read_map layout_recognizes h hw, takes_bare_iff]

theorem read?_iff (h : IsMapText es s) (hw : AreBlanks w) (hw' : AreBlanks w') :
    read? (w ++ (s ++ w')) = .ok p ↔ p.IsGivenBy es := by
  rw [read?, readWhole_eq_ok_iff]
  constructor
  · rintro ⟨r, hread, -⟩
    exact ((readFront_iff h hw).mp hread).1
  · intro hp
    exact ⟨w', (readFront_iff h hw).mpr ⟨hp, rfl⟩, hw'⟩

/-- The text under a name is what the part says of it. -/
theorem IsGivenBy.gives (h : p.IsGivenBy es) {part : Part} (hv : (part.name, v) ∈ es) :
    part.Gives (part.get p) v := by
  have hmem : v ∈ valuesOf es part.name :=
    List.mem_map.mpr ⟨_, List.mem_filter.mpr ⟨hv, decide_eq_true rfl⟩, rfl⟩
  rcases h part with ⟨u, hu, hgives⟩ | ⟨hnone, -⟩
  · rw [hu, List.mem_singleton] at hmem
    exact hmem ▸ hgives
  · rw [hnone] at hmem
    cases hmem

/-- **A list of forms** is read as the pairs that they are forms of. -/
theorem readList?_forms {ps : List Pair} (hw : AreBlanks w) (hw' : AreBlanks w')
    (h : Items .list (fun p t => ∃ es, IsMapText es t ∧ p.IsGivenBy es) false ps s) :
    readList? (w ++ Ascii.openBracket :: (s ++ w')) = .ok ps := by
  have hitems : readItems readFront ((s ++ w').length + 1) true (s ++ w') = .ok (ps, w') := by
    refine readItems_items h ?_ (by rw [List.length_append]; omega) w'
    rintro p - t ⟨es, ht, hp⟩
    refine ⟨?_, fun u r hu hr => (readFront_iff ht hu).mpr ⟨hp, rfl⟩⟩
    obtain ⟨-, -⟩ := ht
    exact ⟨_, _, rfl, rfl, by decide⟩
  refine readWhole_eq_ok_iff.mpr ⟨w', ?_, hw'⟩
  rw [expectList, skipBlanks_word hw (.cons rfl _)]
  exact hitems

/-- Whether the counters of a pair fit 64 bits. -/
def CountersFit (p : Pair) : Prop :=
  p.createIndex < 2 ^ 64 ∧ p.modifyIndex < 2 ^ 64 ∧ p.lockIndex < 2 ^ 64 ∧ p.flags < 2 ^ 64

/-- For every part there is a text. -/
theorem exists_gives (h : p.CountersFit) (part : Part) :
    ∃ v, IsValueText v ∧ part.Gives (part.get p) v := by
  have hliteral (t : String) : ∃ v, IsValueText v ∧ IsLiteral t v :=
    ⟨_, (isLiteral_textLiteral t).isValueText, isLiteral_textLiteral t⟩
  have hcounter {n : Nat} (hn : n < 2 ^ 64) : ∃ v, IsValueText v ∧ Part.IsCounter n v :=
    ⟨_, (isNumeral_toDigits n).isValueText, isNumeral_toDigits n, hn⟩
  have hsession : ∀ t : Option String, ∃ v, IsValueText v ∧ OrNull IsLiteral t v
    | none => ⟨nullText, .scalar .null, rfl⟩
    | some t => hliteral t
  cases part with
  | key => exact hliteral p.key
  | createIndex => exact hcounter h.1
  | modifyIndex => exact hcounter h.2.1
  | lockIndex => exact hcounter h.2.2.1
  | flags => exact hcounter h.2.2.2
  | value =>
    obtain ⟨v, hv, hvalue⟩ := hliteral (Base64.text p.value)
    exact ⟨v, hv, .inl hvalue⟩
  | session => exact hsession p.session

/-- **Every pair has a form**, if its counters fit 64 bits. -/
theorem exists_form (h : p.CountersFit) : ∃ es s, IsMapText es s ∧ p.IsGivenBy es := by
  obtain ⟨v, hv⟩ := Classical.skolem.mp (exists_gives h)
  let parts : List Part := [.key, .createIndex, .modifyIndex, .lockIndex, .flags, .value, .session]
  let es := parts.map fun part => (part.name, v part)
  have hentries : ∀ e ∈ es, ∃ t, IsEntryOf e.1 e.2 t := fun e _ =>
    ⟨_, _, isLiteral_textLiteral e.1, .mk areBlanks_nil areBlanks_nil⟩
  obtain ⟨s, hs⟩ := exists_items (c := .map) hentries false
  refine ⟨es, _, .mk ?_ hs, fun part => .inl ⟨v part, ?_, (hv part).2⟩⟩
  · intro e he
    obtain ⟨part, -, rfl⟩ := List.mem_map.mp he
    exact (hv part).1
  · cases part <;> rfl

/-- Reading takes a form for the pair that it is one of and refuses any other map, so that forms of
different pairs are different and a value that is not in base 64 is no value.  The client takes a
form that comes in a list. -/
theorem read_form (h : IsMapText es s) (hw : AreBlanks w) (hw' : AreBlanks w') :
    (∀ p, read? (w ++ (s ++ w')) = .ok p ↔ p.IsGivenBy es) ∧
      (∀ p, p.IsGivenBy es → Client.firstPair
        (Ascii.openBracket :: (w ++ (s ++ (w' ++ [Ascii.closeBracket])))) = .ok (some p)) ∧
      (∀ (p q : Pair) es', p.IsGivenBy es → IsMapText es' s → q.IsGivenBy es' → p = q) ∧
      ∀ v t, (Part.value.name, v) ∈ es → IsLiteral t v → (∀ bytes, Base64.text bytes ≠ t) →
        ∃ f, read? (w ++ (s ++ w')) = .error f := by
  refine ⟨fun p => read?_iff h hw hw', fun p hp => ?_, fun p q es' hp h' hq => ?_,
    fun v t hv ht hbad => ?_⟩
  · have hlist : readList? (Ascii.openBracket :: (w ++ (s ++ (w' ++ [Ascii.closeBracket]))))
        = .ok [p] := by
      rw [← List.append_nil (w ++ _)]
      exact readList?_forms areBlanks_nil areBlanks_nil (.first hw ⟨es, h, hp⟩ (.stop hw'))
    rw [Client.firstPair, hlist]
    rfl
  · have hread := (read?_iff h hw hw').mpr hp
    rw [(read?_iff h' hw hw').mpr hq] at hread
    exact (Except.ok.inj hread).symm
  · cases hread : read? (w ++ (s ++ w')) with
    | error f => exact ⟨f, rfl⟩
    | ok p =>
      rcases ((read?_iff h hw hw').mp hread).gives hv with hliteral | ⟨-, rfl⟩
      · exact absurd (hliteral.unique ht) (hbad _)
      · obtain ⟨body, -, hnull⟩ := ht
        exact absurd (List.cons.inj hnull).1 (by decide)

/-- A form with an entry of another name, with blanks and without three counters. -/
theorem read_form_of_mixed_entries :
    read? (Utf8.encode
      " \x7b\"Flags\":7 , \"Extra\":\x7b\"a\":[]\x7d,\"Key\":\"a/b\",\"Value\":\"aGk=\"\x7d\n") =
      .ok ⟨"a/b", 0, 0, 0, 7, [0x68, 0x69], none⟩ := by
  have hspace : AreBlanks [Ascii.space] := List.forall_mem_singleton.mpr rfl
  have hline : AreBlanks [Ascii.lineFeed] := List.forall_mem_singleton.mpr rfl
  have hflags : IsNumeral 7 [0x37] := isNumeral_toDigits 7
  have hlist : IsValueText [Ascii.openBracket, Ascii.closeBracket] :=
    .container .list (List.forall_mem_nil _) (.stop areBlanks_nil)
  have hitem := ItemOf.entry (.byte (b := 0x61) (by decide) (by decide) (by decide) .nil)
    (.mk (v := [Ascii.openBracket, Ascii.closeBracket]) areBlanks_nil areBlanks_nil)
  have hextra := IsValueText.container .map (List.forall_mem_singleton.mpr hlist)
    (.first areBlanks_nil hitem (.stop areBlanks_nil))
  have hkey := isLiteral_textLiteral "a/b"
  have hvalue := isLiteral_textLiteral (Base64.text [0x68, 0x69])
  have hentry (name : String) {v : Bytes} (_ : IsValueText v) :
      IsEntryOf (name, v).1 (name, v).2 (Utf8.encode (textLiteral name) ++ Ascii.colon :: v) :=
    ⟨_, isLiteral_textLiteral name, .mk areBlanks_nil areBlanks_nil⟩
  have hentries := Items.first (c := .map) (R := fun (e : String × Bytes) => IsEntryOf e.1 e.2)
    areBlanks_nil (hentry "Flags" hflags.isValueText)
    (.next hspace hspace (hentry "Extra" hextra)
      (.next areBlanks_nil areBlanks_nil (hentry "Key" hkey.isValueText)
        (.next areBlanks_nil areBlanks_nil (hentry "Value" hvalue.isValueText)
          (.stop areBlanks_nil))))
  have hform := IsMapText.mk (List.forall_mem_cons.mpr ⟨hflags.isValueText,
    List.forall_mem_cons.mpr ⟨hextra, List.forall_mem_cons.mpr ⟨hkey.isValueText,
      List.forall_mem_singleton.mpr hvalue.isValueText⟩⟩⟩) hentries
  have hread := (read_form hform hspace hline).1 ⟨"a/b", 0, 0, 0, 7, [0x68, 0x69], none⟩
  refine Eq.trans (congrArg read? (by decide +kernel)) (hread.mpr fun
    | .key => .inl ⟨_, rfl, hkey⟩
    | .createIndex | .modifyIndex | .lockIndex => .inr ⟨rfl, nofun, rfl⟩
    | .flags => .inl ⟨_, rfl, hflags, (by decide : 7 < 2 ^ 64)⟩
    | .value => .inl ⟨_, rfl, .inl hvalue⟩
    | .session => .inr ⟨rfl, nofun, rfl⟩)

end LiveConfig.Pair
