import LiveConfig.Json.Printer
import LiveConfig.Json.Token
import LiveConfig.Proofs.Results
import LiveConfig.Proofs.Utf8Characters

/-!
Text values of JSON between their quotes.

`Json.Spells` says which bytes stand for which characters: a character stands for itself or is
escaped, in any of the ways there are.  Main statements: `readText_eq_ok_iff`, a text value is read
as the text that its bytes spell; `isLiteral_textLiteral`, what is printed spells the text.
-/

namespace LiveConfig.Json

variable {s r : Bytes}

/-! ### Escapes -/

/-- Four hexadecimal digits that stand for a number. -/
inductive Hex4 : Nat → Bytes → Prop
  | mk {a b c d : UInt8} {k l m n : Nat} (ha : Ascii.hexValue? a = some k)
    (hb : Ascii.hexValue? b = some l) (hc : Ascii.hexValue? c = some m)
    (hd : Ascii.hexValue? d = some n) : Hex4 (((k * 16 + l) * 16 + m) * 16 + n) [a, b, c, d]

/-- The character that a letter stands for after a backslash. -/
def shortEscape? (b : UInt8) : Option Char :=
  if b = Ascii.quote then some '"'
  else if b = Ascii.backslash then some '\\'
  else if b = Ascii.slash then some '/'
  else if b = 0x62 then some '\x08'
  else if b = 0x66 then some '\x0c'
  else if b = 0x6E then some '\n'
  else if b = 0x72 then some '\r'
  else if b = 0x74 then some '\t'
  else none

/-- Whether a number is the first of two that stand for one character. -/
def IsHighUnit (n : Nat) : Prop := 0xD800 ≤ n ∧ n ≤ 0xDBFF

/-- Whether a number is the second of two that stand for one character. -/
def IsLowUnit (n : Nat) : Prop := 0xDC00 ≤ n ∧ n ≤ 0xDFFF

theorem IsHighUnit.not_isLowUnit {n : Nat} (h : IsHighUnit n) : ¬ IsLowUnit n := by
  unfold IsHighUnit at h
  unfold IsLowUnit
  omega

/-- What may stand for a character after a backslash. -/
inductive Escape : Char → Bytes → Prop
  | short {b : UInt8} {c : Char} (h : shortEscape? b = some c) : Escape c [b]
  | unit {n : Nat} {t : Bytes} (h : Hex4 n t) (hhigh : ¬ IsHighUnit n) (hlow : ¬ IsLowUnit n) :
    Escape (Char.ofNat n) (0x75 :: t)
  | pair {m n : Nat} {t u : Bytes} (h : Hex4 m t) (h' : Hex4 n u) (hhigh : IsHighUnit m)
    (hlow : IsLowUnit n) :
    Escape (Char.ofNat (0x10000 + (m - 0xD800) * 0x400 + (n - 0xDC00)))
      (0x75 :: (t ++ Ascii.backslash :: 0x75 :: u))

theorem readHex4_eq_ok_iff {n : Nat} : readHex4 s = .ok (n, r) ↔ ∃ t, Hex4 n t ∧ s = t ++ r := by
  constructor
  · intro h
    unfold readHex4 at h
    split at h
    · rename_i a b c d s
      split at h
      · rename_i k l m n ha hb hc hd
        cases h
        exact ⟨_, .mk ha hb hc hd, rfl⟩
      · cases h
    · cases h
  · rintro ⟨-, ⟨ha, hb, hc, hd⟩, rfl⟩
    simp only [List.cons_append, List.nil_append, readHex4, ha, hb, hc, hd]

theorem readSecondUnit_eq_ok_iff {m : Nat} {x : Char} : readSecondUnit m s = .ok (x, r) ↔
    ∃ n t, Hex4 n t ∧ IsLowUnit n ∧ s = Ascii.backslash :: 0x75 :: (t ++ r) ∧
      x = Char.ofNat (0x10000 + (m - 0xD800) * 0x400 + (n - 0xDC00)) := by
  constructor
  · intro h
    unfold readSecondUnit at h
    rcases s with _ | ⟨b, s⟩
    · cases h
    dsimp only at h
    split at h
    · cases h
    rename_i hb
    rcases s with _ | ⟨c, s⟩
    · cases h
    dsimp only at h
    split at h
    · cases h
    rename_i hc
    obtain ⟨⟨n, s'⟩, hhex, hrest⟩ := bind_eq_ok_iff.mp h
    obtain ⟨t, ht, rfl⟩ := readHex4_eq_ok_iff.mp hhex
    split at hrest
    · rename_i hlow
      obtain ⟨rfl, rfl⟩ := Prod.mk.inj (Except.ok.inj hrest)
      exact ⟨n, t, ht, hlow, by rw [Decidable.not_not.mp hb, Decidable.not_not.mp hc], rfl⟩
    · cases hrest
  · rintro ⟨n, t, ht, hlow, hs, hx⟩
    have hhex : readHex4 (t ++ r) = .ok (n, r) := readHex4_eq_ok_iff.mpr ⟨t, ht, rfl⟩
    rw [hs, hx, readSecondUnit, if_neg (Decidable.not_not.mpr rfl)]
    dsimp only
    rw [if_neg (Decidable.not_not.mpr rfl), hhex]
    exact if_pos hlow

/-- An escape of one letter. -/
theorem readEscape_cons {b : UInt8} (hu : b ≠ 0x75) (s : Bytes) : readEscape (b :: s) =
    match shortEscape? b with
    | some c => .ok (c, s)
    | none => .error (.before .invalidEscape s) := by
  grind [readEscape, shortEscape?]

/-- An escape that gives the number of a character, or one half of it. -/
theorem readEscape_u (s : Bytes) : readEscape (0x75 :: s) = readHex4 s >>= fun p =>
    if 0xDC00 ≤ p.1 ∧ p.1 ≤ 0xDFFF then .error (.before .loneSurrogate p.2)
    else if 0xD800 ≤ p.1 ∧ p.1 ≤ 0xDBFF then readSecondUnit p.1 p.2
    else .ok (Char.ofNat p.1, p.2) := rfl

theorem readEscape_u_eq_ok_iff {x : Char} :
    readEscape (0x75 :: s) = .ok (x, r) ↔ ∃ e, Escape x (0x75 :: e) ∧ s = e ++ r := by
  rw [readEscape_u, bind_eq_ok_iff]
  constructor
  · rintro ⟨⟨n, s'⟩, hhex, hrest⟩
    obtain ⟨t, ht, rfl⟩ := readHex4_eq_ok_iff.mp hhex
    dsimp only at hrest
    split at hrest
    · cases hrest
    rename_i hlow
    split at hrest
    · rename_i hhigh
      have hsecond : readSecondUnit n s' = .ok (x, r) := hrest
      obtain ⟨m, u, hu, hm, rfl, hx⟩ := readSecondUnit_eq_ok_iff.mp hsecond
      rw [hx]
      exact ⟨_, .pair ht hu hhigh hm, by simp⟩
    · rename_i hhigh
      cases hrest
      exact ⟨t, .unit ht hhigh hlow, rfl⟩
  · rintro ⟨e, he, rfl⟩
    generalize hfront : 0x75 :: e = front at he
    cases he with
    | short h =>
      cases hfront
      cases h
    | unit ht hhigh hlow =>
      obtain ⟨-, rfl⟩ := List.cons.inj hfront
      refine ⟨_, readHex4_eq_ok_iff.mpr ⟨_, ht, rfl⟩, ?_⟩
      exact (if_neg hlow).trans (if_neg hhigh)
    | pair ht hu hhigh hlow =>
      obtain ⟨-, rfl⟩ := List.cons.inj hfront
      refine ⟨_, readHex4_eq_ok_iff.mpr ⟨_, ht, List.append_assoc ..⟩, ?_⟩
      have hnot : ¬ IsLowUnit _ := hhigh.not_isLowUnit
      exact (if_neg hnot).trans ((if_pos hhigh).trans
        (readSecondUnit_eq_ok_iff.mpr ⟨_, _, hu, hlow, rfl, rfl⟩))

/-- An escape is read as the character that it stands for. -/
theorem readEscape_eq_ok_iff {x : Char} :
    readEscape s = .ok (x, r) ↔ ∃ e, Escape x e ∧ s = e ++ r := by
  rcases s with _ | ⟨b, s⟩
  · refine iff_of_false nofun ?_
    rintro ⟨e, he, hs⟩
    cases he <;> cases hs
  by_cases hu : b = 0x75
  · subst hu
    rw [readEscape_u_eq_ok_iff]
    constructor
    · rintro ⟨e, he, rfl⟩
      exact ⟨_, he, rfl⟩
    · rintro ⟨_ | ⟨b, e⟩, he, hs⟩
      · cases he
      · obtain ⟨rfl, rfl⟩ := List.cons.inj hs
        exact ⟨e, he, rfl⟩
  · rw [readEscape_cons hu]
    constructor
    · intro h
      split at h
      · rename_i c hc
        cases h
        exact ⟨[b], .short hc, rfl⟩
      · cases h
    · rintro ⟨e, he, hs⟩
      cases he with
      | short hc =>
        obtain ⟨rfl, rfl⟩ := List.cons.inj hs
        rw [hc]
      | unit => exact absurd (List.cons.inj hs).1 hu
      | pair => exact absurd (List.cons.inj hs).1 hu

/-! ### Text values -/

/-- Whether a character may stand for itself. -/
def IsPlain (c : Char) : Prop := c ≠ '"' ∧ c ≠ '\\' ∧ 0x20 ≤ c.toNat

/-- The bytes that spell characters inside quotes. -/
inductive Spells : List Char → Bytes → Prop
  | nil : Spells [] []
  | plain {c : Char} {cs : List Char} {s : Bytes} (hc : IsPlain c) (hs : Spells cs s) :
    Spells (c :: cs) (String.utf8EncodeChar c ++ s)
  | escape {c : Char} {cs : List Char} {e s : Bytes} (he : Escape c e) (hs : Spells cs s) :
    Spells (c :: cs) (Ascii.backslash :: (e ++ s))

/-- The bytes of a text value: a text between quotes. -/
def IsLiteral (t : String) (s : Bytes) : Prop :=
  ∃ body, Spells t.toList body ∧ s = Ascii.quote :: (body ++ [Ascii.quote])

/-- Outside of ASCII every character may stand for itself; inside, it is its byte that tells. -/
theorem first_utf8EncodeChar {c : Char} : ∃ b t, String.utf8EncodeChar c = b :: t ∧
    (IsPlain c ↔ b ≠ Ascii.quote ∧ b ≠ Ascii.backslash ∧ ¬ b < 0x20) := by
  by_cases hc : c.toNat < 0x80
  · refine ⟨_, [], Ascii.utf8EncodeChar_eq hc, ?_⟩
    have hne (d : Char) (hd : d.toNat < 0x80) : c ≠ d ↔ Ascii.byte c ≠ Ascii.byte d :=
      not_congr ⟨fun h => h ▸ rfl, Ascii.eq_of_byte_eq hc hd⟩
    have hmin : 0x20 ≤ c.toNat ↔ ¬ Ascii.byte c < 0x20 := by
      have hbyte : (Ascii.byte c).toNat = c.toNat :=
        (UInt8.toNat_ofNat' ..).trans (Nat.mod_eq_of_lt (by omega))
      rw [UInt8.lt_iff_toNat_lt, hbyte]
      exact Nat.not_lt.symm
    exact and_congr (hne '"' (by decide)) (and_congr (hne '\\' (by decide)) hmin)
  · have hbytes := Utf8.forall_mem_utf8EncodeChar (x := c) (by omega)
    cases h : String.utf8EncodeChar c with
    | nil => exact absurd h String.utf8EncodeChar_ne_nil
    | cons b t =>
      rw [h, List.forall_mem_cons] at hbytes
      refine ⟨b, t, rfl, iff_of_true ⟨?_, ?_, by omega⟩ ⟨?_, ?_, ?_⟩⟩
      · rintro rfl
        exact hc (by decide)
      · rintro rfl
        exact hc (by decide)
      · rintro rfl
        exact absurd hbytes.1 (by decide)
      · rintro rfl
        exact absurd hbytes.1 (by decide)
      · rw [UInt8.lt_iff_toNat_lt]
        exact Nat.not_lt.mpr (Nat.le_trans (by decide) hbytes.1)

theorem readCharacters_spoilt (fuel : Nat) (s : Bytes) (sofar : List Char) (left : Nat)
    (p : String × Bytes) : readCharacters fuel s sofar (some left) ≠ .ok p := by
  induction fuel generalizing s sofar left with
  | zero => nofun
  | succ fuel ih =>
    intro h
    rcases s with _ | ⟨b, s⟩
    · cases h
    unfold readCharacters at h
    dsimp only at h
    split at h
    · cases h
    split at h
    · obtain ⟨⟨c, s'⟩, -, hrest⟩ := bind_eq_ok_iff.mp h
      exact ih _ _ _ hrest
    split at h
    · cases h
    split at h
    · exact ih _ _ _ h
    · exact ih _ _ _ h

/-- The characters are read one by one, each by what spells it. -/
theorem readCharacters_of_spells {cs : List Char} {body : Bytes} (h : Spells cs body)
    {fuel : Nat} (hfuel : body.length < fuel) (sofar : List Char) (r : Bytes) :
    readCharacters fuel (body ++ Ascii.quote :: r) sofar none =
      .ok (String.ofList (sofar.reverse ++ cs), r) := by
  induction h generalizing fuel sofar with
  | nil =>
    cases fuel with
    | zero => cases hfuel
    | succ fuel => simp [readCharacters]
  | @plain c cs s hc hs ih =>
    obtain ⟨b, t, hfirst, hplain⟩ := first_utf8EncodeChar (c := c)
    obtain ⟨hq, hb, hmin⟩ := hplain.mp hc
    have hnext : Utf8.next? (b :: (t ++ (s ++ Ascii.quote :: r))) =
        some (c, s ++ Ascii.quote :: r) := by
      rw [Utf8.next?_eq_some_iff, hfirst]
      rfl
    rw [hfirst, List.cons_append, List.cons_append, List.append_assoc]
    rw [hfirst, List.cons_append, List.length_cons, List.length_append] at hfuel
    cases fuel with
    | zero => omega
    | succ fuel =>
      rw [readCharacters, if_neg hq, if_neg hb, if_neg hmin, hnext]
      dsimp only
      rw [ih (by omega)]
      simp
  | @escape c cs e s he hs ih =>
    have hescape : readEscape (e ++ (s ++ Ascii.quote :: r)) = .ok (c, s ++ Ascii.quote :: r) :=
      readEscape_eq_ok_iff.mpr ⟨e, he, rfl⟩
    rw [List.cons_append, List.append_assoc]
    rw [List.length_cons, List.length_append] at hfuel
    cases fuel with
    | zero => omega
    | succ fuel =>
      rw [readCharacters, if_neg (by decide), if_pos rfl, hescape]
      change readCharacters fuel _ _ _ = _
      rw [ih (by omega)]
      simp

theorem spells_of_readCharacters {fuel : Nat} {sofar : List Char} {t : String}
    (h : readCharacters fuel s sofar none = .ok (t, r)) :
    ∃ cs body, Spells cs body ∧ s = body ++ Ascii.quote :: r ∧
      t = String.ofList (sofar.reverse ++ cs) := by
  induction fuel generalizing s sofar with
  | zero => cases h
  | succ fuel ih =>
    rcases s with _ | ⟨b, s⟩
    · cases h
    unfold readCharacters at h
    dsimp only at h
    split at h
    · rename_i hq
      cases h
      exact ⟨[], [], .nil, by rw [hq]; rfl, by rw [List.append_nil]⟩
    rename_i hq
    split at h
    · rename_i hb
      obtain ⟨⟨c, s'⟩, hescape, hrest⟩ := bind_eq_ok_iff.mp h
      obtain ⟨e, he, rfl⟩ := readEscape_eq_ok_iff.mp hescape
      obtain ⟨cs, body, hcs, rfl, rfl⟩ := ih hrest
      exact ⟨c :: cs, _, .escape he hcs, by simp [hb], by simp⟩
    rename_i hb
    split at h
    · cases h
    rename_i hmin
    split at h
    · rename_i c s' hnext
      obtain ⟨cs, body, hcs, rfl, rfl⟩ := ih h
      have hs := Utf8.next?_eq_some_iff.mp hnext
      obtain ⟨b', t, hfirst, hplain⟩ := first_utf8EncodeChar (c := c)
      have hfront := hs
      rw [hfirst] at hfront
      obtain rfl : b = b' := (List.cons.inj hfront).1
      exact ⟨c :: cs, _, .plain (hplain.mpr ⟨hq, hb, hmin⟩) hcs, by rw [hs, List.append_assoc],
        by simp⟩
    · exact absurd h (readCharacters_spoilt _ _ _ _ _)

/-- **A text value is read as what its bytes spell.** -/
theorem readText_eq_ok_iff {t : String} :
    readText s = .ok (t, r) ↔ ∃ body, Spells t.toList body ∧ s = body ++ Ascii.quote :: r := by
  constructor
  · intro h
    obtain ⟨cs, body, hcs, hs, rfl⟩ := spells_of_readCharacters h
    exact ⟨body, by simpa using hcs, hs⟩
  · rintro ⟨body, hbody, rfl⟩
    have hfuel : body.length < (body ++ Ascii.quote :: r).length + 1 := by
      rw [List.length_append]
      omega
    rw [readText, readCharacters_of_spells hbody hfuel]
    simp

theorem isLiteral_quote_iff {t : String} :
    IsLiteral t (Ascii.quote :: s) ↔ readText s = .ok (t, []) := by
  rw [readText_eq_ok_iff]
  exact exists_congr fun body => and_congr_right fun _ => ⟨fun h => (List.cons.inj h).2,
    congrArg (Ascii.quote :: ·)⟩

/-- The bytes of a text value stand for one text. -/
theorem IsLiteral.unique {t t' : String} (h : IsLiteral t s) (h' : IsLiteral t' s) : t = t' := by
  obtain ⟨body, -, rfl⟩ := id h
  rw [isLiteral_quote_iff] at h h'
  exact (Prod.mk.inj (Except.ok.inj (h.symm.trans h'))).1

/-! ### Printed texts -/

theorem hexDigit_ascii : ∀ n < 16, (hexDigit n).toNat < 0x80 := by decide

theorem hexValue?_hexDigit : ∀ n < 16, Ascii.hexValue? (Ascii.byte (hexDigit n)) = some n := by
  decide

theorem flatMap_ascii {cs : List Char} (h : ∀ c ∈ cs, c.toNat < 0x80) :
    cs.flatMap String.utf8EncodeChar = cs.map Ascii.byte := by
  rw [← Utf8.encode_ofList, Utf8.encode_ascii h]

/-- A control is escaped by its number. -/
theorem escape_of_control {c : Char} (h : c.toNat < 0x20) :
    Escape c [0x75, 0x30, 0x30, Ascii.byte (hexDigit (c.toNat / 16)),
      Ascii.byte (hexDigit (c.toNat % 16))] := by
  have hzero : Ascii.hexValue? 0x30 = some 0 := by decide
  have hhigh := hexValue?_hexDigit (c.toNat / 16) (by omega)
  have hlow := hexValue?_hexDigit (c.toNat % 16) (by omega)
  have hhex := Hex4.mk hzero hzero hhigh hlow
  rw [show ((0 * 16 + 0) * 16 + c.toNat / 16) * 16 + c.toNat % 16 = c.toNat by omega] at hhex
  have hescape := Escape.unit hhex (by unfold IsHighUnit; omega) (by unfold IsLowUnit; omega)
  rwa [Char.ofNat_toNat] at hescape

/-- What is printed for a character spells it. -/
theorem spells_escaped (c : Char) {cs : List Char} {s : Bytes} (hs : Spells cs s) :
    Spells (c :: cs) ((escaped c).flatMap String.utf8EncodeChar ++ s) := by
  have hshort {b : Char} (hb : b.toNat < 0x80) (h : shortEscape? (Ascii.byte b) = some c) :
      Spells (c :: cs) (['\\', b].flatMap String.utf8EncodeChar ++ s) := by
    rw [flatMap_ascii (by simp [hb])]
    exact .escape (.short h) hs
  unfold escaped
  split
  · subst c
    exact hshort (by decide) rfl
  rename_i hquote
  split
  · subst c
    exact hshort (by decide) rfl
  rename_i hbackslash
  iterate 5
    split
    · subst c
      exact hshort (by decide) rfl
  split
  · rename_i hcontrol
    have hhigh := hexDigit_ascii (c.toNat / 16) (by omega)
    have hlow := hexDigit_ascii (c.toNat % 16) (by omega)
    rw [flatMap_ascii (by simp [hhigh, hlow])]
    exact .escape (escape_of_control hcontrol) hs
  · rename_i hcontrol
    rw [List.flatMap_singleton]
    exact .plain ⟨hquote, hbackslash, Nat.not_lt.mp hcontrol⟩ hs

theorem spells_flatMap_escaped (cs : List Char) :
    Spells cs ((cs.flatMap escaped).flatMap String.utf8EncodeChar) := by
  induction cs with
  | nil => exact .nil
  | cons c cs ih =>
    rw [List.flatMap_cons, List.flatMap_append]
    exact spells_escaped c ih

/-- **A printed text value** spells the text. -/
theorem isLiteral_textLiteral (t : String) : IsLiteral t (Utf8.encode (textLiteral t)) := by
  refine ⟨_, spells_flatMap_escaped t.toList, ?_⟩
  rw [textLiteral, Utf8.encode_ofList, List.cons_append, List.flatMap_cons, List.flatMap_append]
  rfl

end LiveConfig.Json
