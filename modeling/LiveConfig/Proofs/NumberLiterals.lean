import LiveConfig.Json.Record
import LiveConfig.Proofs.NumberTexts
import LiveConfig.Proofs.TextLiterals

/-!
Integers of JSON as their digits.

`Json.IsNumeral` says which digits write a natural number.  Main statement:
`readUnsigned_eq_int_iff`, a number is read as an integer just if it is written so, without a point
and without an exponent, and fits 64 bits; so `expectUnsigned` takes the numerals below `2 ^ 64` and
nothing else, and the text of an integer is read as the integer.
-/

namespace LiveConfig.Json

variable {s r : Bytes} {n : Nat} {negative : Bool}

/-! ### Numerals -/

/-- Whether all bytes are digits. -/
def AreDigits (s : Bytes) : Prop := ∀ b ∈ s, Ascii.isDigit b = true

/-- The number that digits stand for when they follow those of another one. -/
def appended (n : Nat) (s : Bytes) : Nat := s.foldl (fun n b => n * 10 + digitValue b) n

/-- The digits of a natural number, without a needless zero in front. -/
structure IsNumeral (n : Nat) (s : Bytes) : Prop where
  digits : AreDigits s
  ne_nil : s ≠ []
  front : s.head? = some Ascii.zero → s = [Ascii.zero]
  value : appended 0 s = n

/-- Whether a number in front of the bytes has come to its end. -/
def EndsNumber (r : Bytes) : Prop :=
  ∀ b ∈ r.head?, Ascii.isDigit b = false ∧ b ≠ Ascii.point ∧ isExponentMark b = false

theorem le_appended (n : Nat) (s : Bytes) : n ≤ appended n s := by
  induction s generalizing n with
  | nil => exact Nat.le_refl n
  | cons b s ih => exact Nat.le_trans (by omega) (ih (n * 10 + digitValue b))

theorem EndsNumber.startsWithDigit (h : EndsNumber r) : startsWithDigit r = false := by
  cases r with
  | nil => rfl
  | cons b r => exact (h b rfl).1

theorem ne_of_isDigit {b c : UInt8} (hb : Ascii.isDigit b = true) (hc : Ascii.isDigit c = false) :
    b ≠ c := by
  rintro rfl
  exact Bool.false_ne_true (hc.symm.trans hb)

/-! ### Reading digits -/

theorem appendDigits_append {ds : Bytes} (hds : AreDigits ds) (hr : startsWithDigit r = false)
    {n : Nat} (hn : appended n ds < 2 ^ 64) (count : Nat) :
    appendDigits n count (ds ++ r) = (appended n ds, count + ds.length, r) := by
  induction ds generalizing n count with
  | nil =>
    cases r with
    | nil => rfl
    | cons b r =>
      have hb : Ascii.isDigit b = false := hr
      simp [appendDigits, hb, appended]
  | cons b ds ih =>
    obtain ⟨hb, hds⟩ := List.forall_mem_cons.mp hds
    have hle : n * 10 + digitValue b < 2 ^ 64 := Nat.lt_of_le_of_lt (le_appended _ ds) hn
    rw [List.cons_append, appendDigits, if_pos ⟨hb, hle⟩, ih hds hn, List.length_cons]
    rw [Nat.add_assoc, Nat.add_comm 1]
    rfl

theorem exists_of_appendDigits {n count m count' : Nat}
    (h : appendDigits n count s = (m, count', r)) :
    ∃ ds, s = ds ++ r ∧ AreDigits ds ∧ m = appended n ds ∧ (n < 2 ^ 64 → m < 2 ^ 64) := by
  induction s generalizing n count with
  | nil =>
    cases h
    exact ⟨[], rfl, nofun, rfl, id⟩
  | cons b s ih =>
    unfold appendDigits at h
    split at h
    · rename_i hb
      obtain ⟨ds, rfl, hds, hm, hlt⟩ := ih h
      exact ⟨b :: ds, rfl, List.forall_mem_cons.mpr ⟨hb.1, hds⟩, hm, fun _ => hlt hb.2⟩
    · cases h
      exact ⟨[], rfl, nofun, rfl, id⟩

/-! ### Numbers that are no integers -/

/-- Whether a reading ends with a real number, if it does not fail. -/
def YieldsReal (x : Except Fault (Number × Bytes)) : Prop :=
  ∀ n r, x = .ok (n, r) → ∃ y, n = .real y

theorem yieldsReal_ok (y : Binary64) (r : Bytes) : YieldsReal (.ok (.real y, r)) := by
  intro n r' h
  exact ⟨y, (Prod.mk.inj (Except.ok.inj h)).1.symm⟩

theorem yieldsReal_error (f : Fault) : YieldsReal (.error f) := fun _ _ h => nomatch h

theorem YieldsReal.ne_int {x : Except Fault (Number × Bytes)} (h : YieldsReal x) {i : Int}
    {hi : -(2 ^ 63) ≤ i ∧ i < 2 ^ 64} : x ≠ .ok (.int i hi, r) := by
  intro hx
  obtain ⟨y, hy⟩ := h _ _ hx
  exact nomatch hy

-- Stated without arguments: to unfold it at some numbers, the kernel would scale them.
theorem realOfParts_eq : realOfParts = fun (negative : Bool) (n : Nat) (e : Int) (s : Bytes) =>
    match (Binary64.ofInt? n).bind (scale · e 5) with
    | some x => .ok (.real (if negative then -x else x), s)
    | none => .error (.before .numberOutOfRange s) := rfl

theorem yieldsReal_realOfParts (negative : Bool) (n : Nat) (e : Int) (s : Bytes) :
    YieldsReal (realOfParts negative n e s) := by
  rw [realOfParts_eq]
  beta_reduce
  generalize (Binary64.ofInt? n).bind (scale · e 5) = result
  cases result with
  | some x => exact yieldsReal_ok _ _
  | none => exact yieldsReal_error _

theorem yieldsReal_readExponent (negative : Bool) (n : Nat) (e : Int) (s : Bytes) :
    YieldsReal (readExponent negative n e s) := by
  unfold readExponent
  dsimp only
  split
  · exact yieldsReal_error _
  split
  · split
    · exact yieldsReal_realOfParts _ _ _ _
    split
    · exact yieldsReal_error _
    · exact yieldsReal_ok _ _
  · exact yieldsReal_error _

theorem yieldsReal_afterFraction (negative : Bool) (n : Nat) (e : Int) (s : Bytes) :
    YieldsReal (afterFraction negative n e s) := by
  unfold afterFraction
  split
  · exact yieldsReal_realOfParts _ _ _ _
  split
  · exact yieldsReal_readExponent _ _ _ _
  · exact yieldsReal_realOfParts _ _ _ _

theorem yieldsReal_readFraction (negative : Bool) (n : Nat) (e : Int) (s : Bytes) :
    YieldsReal (readFraction negative n e s) := by
  unfold readFraction
  dsimp only
  split
  · exact yieldsReal_afterFraction _ _ _ _
  split
  · exact yieldsReal_error _
  · exact yieldsReal_afterFraction _ _ _ _

theorem yieldsReal_afterLongInteger (negative : Bool) (n : Nat) (e : Int) (s : Bytes) :
    YieldsReal (afterLongInteger negative n e s) := by
  unfold afterLongInteger
  split
  · exact yieldsReal_realOfParts _ _ _ _
  split
  · exact yieldsReal_readFraction _ _ _ _
  split
  · exact yieldsReal_readExponent _ _ _ _
  · exact yieldsReal_realOfParts _ _ _ _

/-! ### Integers -/

/-- The integer that a numeral with a sign stands for, if it is held exactly. -/
def IsIntOf (negative : Bool) (n : Nat) (i : Int) : Prop :=
  if negative then 0 < n ∧ n ≤ 2 ^ 63 ∧ i = -n else n < 2 ^ 64 ∧ i = n

theorem integer_eq_int_iff {i : Int} {hi : -(2 ^ 63) ≤ i ∧ i < 2 ^ 64} :
    integer negative n s = .ok (.int i hi, r) ↔ IsIntOf negative n i ∧ s = r := by
  unfold integer IsIntOf
  cases negative with
  | true =>
    rw [if_pos rfl, if_pos rfl]
    split
    · rename_i hn
      simp only [Except.ok.injEq, Prod.mk.injEq, Number.int.injEq]
      constructor
      · rintro ⟨rfl, rfl⟩
        exact ⟨⟨hn.1, hn.2, rfl⟩, rfl⟩
      · rintro ⟨⟨-, -, rfl⟩, rfl⟩
        exact ⟨rfl, rfl⟩
    · rename_i hn
      refine iff_of_false (yieldsReal_realOfParts _ _ _ _).ne_int ?_
      rintro ⟨⟨hpos, hle, -⟩, -⟩
      exact hn ⟨hpos, hle⟩
  | false =>
    rw [if_neg Bool.false_ne_true, if_neg Bool.false_ne_true]
    split
    · rename_i hn
      simp only [Except.ok.injEq, Prod.mk.injEq, Number.int.injEq]
      constructor
      · rintro ⟨rfl, rfl⟩
        exact ⟨⟨hn, rfl⟩, rfl⟩
      · rintro ⟨⟨-, rfl⟩, rfl⟩
        exact ⟨rfl, rfl⟩
    · rename_i hn
      refine iff_of_false (yieldsReal_realOfParts _ _ _ _).ne_int ?_
      rintro ⟨⟨hlt, -⟩, -⟩
      exact hn hlt

section Int

variable {i : Int} {hi : -(2 ^ 63) ≤ i ∧ i < 2 ^ 64}

theorem afterInteger_eq_int_iff (hs : startsWithDigit s = false) :
    afterInteger negative n s = .ok (.int i hi, r) ↔
      IsIntOf negative n i ∧ s = r ∧ EndsNumber r := by
  rcases s with _ | ⟨b, s⟩
  · rw [afterInteger, integer_eq_int_iff]
    refine and_congr_right fun _ => (and_iff_left_of_imp ?_).symm
    rintro rfl
    exact nofun
  unfold afterInteger
  dsimp only
  split
  · rename_i hb
    refine iff_of_false (yieldsReal_readFraction _ _ _ _).ne_int ?_
    rintro ⟨-, rfl, hends⟩
    exact (hends b rfl).2.1 hb
  split
  · rename_i hb
    refine iff_of_false (yieldsReal_readExponent _ _ _ _).ne_int ?_
    rintro ⟨-, rfl, hends⟩
    exact absurd ((hends b rfl).2.2.symm.trans hb) (by decide)
  · rename_i hpoint hmark
    rw [integer_eq_int_iff]
    refine and_congr_right fun _ => (and_iff_left_of_imp ?_).symm
    rintro rfl c hc
    cases hc
    exact ⟨hs, hpoint, Bool.eq_false_iff.mpr hmark⟩

theorem lt_of_isIntOf (h : IsIntOf negative n i) : n < 2 ^ 64 := by
  unfold IsIntOf at h
  split at h <;> omega

/-- **A number is an integer just if a numeral writes it**, and nothing behind belongs to it. -/
theorem readUnsigned_eq_int_iff : readUnsigned negative s = .ok (.int i hi, r) ↔
    ∃ n v, IsNumeral n v ∧ IsIntOf negative n i ∧ s = v ++ r ∧ EndsNumber r := by
  constructor
  · intro h
    rcases s with _ | ⟨b, s⟩
    · cases h
    unfold readUnsigned at h
    dsimp only at h
    split at h
    · rename_i hb
      split at h
      · cases h
      rename_i hs
      obtain ⟨hint, rfl, hends⟩ :=
        (afterInteger_eq_int_iff (Bool.eq_false_iff.mpr hs)).mp h
      subst hb
      refine ⟨0, [Ascii.zero], ⟨?_, List.cons_ne_nil _ _, fun _ => rfl, rfl⟩, hint, rfl, hends⟩
      exact List.forall_mem_singleton.mpr (by decide)
    rename_i hzero
    split at h
    · rename_i hb
      cases hdigits : appendDigits (digitValue b) 1 s with
      | mk m rest =>
        obtain ⟨count, s'⟩ := rest
        rw [hdigits] at h
        dsimp only at h
        obtain ⟨ds, rfl, hds, hm, -⟩ := exists_of_appendDigits hdigits
        split at h
        · exact absurd h (yieldsReal_afterLongInteger _ _ _ _).ne_int
        rename_i hs
        obtain ⟨hint, rfl, hends⟩ :=
          (afterInteger_eq_int_iff (Bool.eq_false_iff.mpr hs)).mp h
        refine ⟨m, b :: ds, ⟨List.forall_mem_cons.mpr ⟨hb, hds⟩, List.cons_ne_nil _ _,
          fun hfront => absurd (Option.some.inj hfront) hzero, ?_⟩, hint, rfl, hends⟩
        rw [hm, appended, List.foldl_cons, Nat.zero_mul, Nat.zero_add, appended]
    · cases h
  · rintro ⟨n, v, hv, hint, rfl, hends⟩
    have hr := hends.startsWithDigit
    obtain ⟨b, ds, rfl⟩ := List.exists_cons_of_ne_nil hv.ne_nil
    obtain ⟨hb, hds⟩ := List.forall_mem_cons.mp hv.digits
    have hafter : afterInteger negative n r = .ok (.int i hi, r) :=
      (afterInteger_eq_int_iff hr).mpr ⟨hint, rfl, hends⟩
    by_cases hzero : b = Ascii.zero
    · subst hzero
      obtain rfl : ds = [] := (List.cons.inj (hv.front rfl)).2
      obtain rfl : 0 = n := hv.value
      rw [List.cons_append, readUnsigned, if_pos rfl, List.nil_append, hr]
      exact hafter
    · have hvalue : appended (digitValue b) ds = n := by
        rw [← hv.value, appended, appended, List.foldl_cons, Nat.zero_mul, Nat.zero_add]
      have hlt : appended (digitValue b) ds < 2 ^ 64 := hvalue ▸ lt_of_isIntOf hint
      rw [List.cons_append, readUnsigned, if_neg hzero, if_pos hb,
        appendDigits_append hds hr hlt, hvalue]
      dsimp only
      rw [hr]
      exact hafter

end Int

/-- **An integer without a sign** is read from its numeral, and from nothing else. -/
theorem expectUnsigned_eq_ok_iff : expectUnsigned s = .ok (n, r) ↔
    ∃ v, IsNumeral n v ∧ n < 2 ^ 64 ∧ skipBlanks s = v ++ r ∧ EndsNumber r := by
  unfold expectUnsigned
  constructor
  · intro h
    split at h
    · cases h
    rename_i b s' hs
    split at h
    · obtain ⟨⟨x, s''⟩, hread, hrest⟩ := bind_eq_ok_iff.mp h
      cases x with
      | real y => cases hrest
      | int i hi =>
        dsimp only at hrest
        split at hrest
        · rename_i hsign
          cases hrest
          unfold readNumber at hread
          dsimp only at hread
          split at hread
          · obtain ⟨n, v, -, ⟨hpos, -, rfl⟩, -⟩ := readUnsigned_eq_int_iff.mp hread
            omega
          · obtain ⟨n, v, hv, ⟨hlt, rfl⟩, hs', hends⟩ := readUnsigned_eq_int_iff.mp hread
            exact ⟨v, hv, hlt, hs.trans hs', hends⟩
        · cases hrest
    · cases h
  · rintro ⟨v, hv, hlt, hs, hends⟩
    obtain ⟨b, ds, rfl⟩ := List.exists_cons_of_ne_nil hv.ne_nil
    have hb : Ascii.isDigit b = true := hv.digits b List.mem_cons_self
    have hminus : b ≠ Ascii.minus := ne_of_isDigit hb rfl
    have hread : readUnsigned false (b :: ds ++ r) = .ok (.int n (Number.inRange_natCast hlt), r) :=
      readUnsigned_eq_int_iff.mpr ⟨n, b :: ds, hv, ⟨hlt, rfl⟩, rfl, hends⟩
    rw [hs, List.cons_append]
    dsimp only
    rw [if_pos (.inr hb), readNumber, if_neg hminus, ← List.cons_append, hread]
    rfl

/-! ### Texts of integers -/

theorem toNat_byte_of_isDigit {c : Char} (h : c.isDigit = true) :
    (Ascii.byte c).toNat = c.toNat ∧ 0x30 ≤ c.toNat ∧ c.toNat ≤ 0x39 := by
  have hbounds : 0x30 ≤ c.toNat ∧ c.toNat ≤ 0x39 := Char.isDigit_iff_toNat.mp h
  obtain ⟨hmin, hmax⟩ := hbounds
  exact ⟨(UInt8.toNat_ofNat' ..).trans (Nat.mod_eq_of_lt (by omega)), hmin, hmax⟩

theorem isDigit_byte {c : Char} (h : c.isDigit = true) : Ascii.isDigit (Ascii.byte c) = true := by
  obtain ⟨hbyte, hmin, hmax⟩ := toNat_byte_of_isDigit h
  rw [Ascii.isDigit, Bool.and_eq_true, decide_eq_true_eq, decide_eq_true_eq,
    UInt8.le_iff_toNat_le, UInt8.le_iff_toNat_le, hbyte]
  exact ⟨hmin, hmax⟩

theorem appended_map_byte {ds : List Char} (hds : ∀ c ∈ ds, c.isDigit = true) (n : Nat) :
    appended n (ds.map Ascii.byte) = Nat.ofDigitChars 10 ds n := by
  rw [Nat.ofDigitChars_eq_foldl]
  induction ds generalizing n with
  | nil => rfl
  | cons c ds ih =>
    obtain ⟨hc, hds⟩ := List.forall_mem_cons.mp hds
    rw [List.map_cons, List.foldl_cons, ← ih hds, Nat.mul_comm 10, appended, List.foldl_cons,
      digitValue, (toNat_byte_of_isDigit hc).1]
    rfl

/-- The digits of a number that is not zero do not begin with a zero. -/
theorem head?_toDigits (n : Nat) (hn : 0 < n) : (Nat.toDigits 10 n).head? ≠ some '0' := by
  induction n using Nat.strongRecOn with
  | ind n ih =>
    by_cases hlt : n < 10
    · have hall : ∀ n < 10, 0 < n → (Nat.toDigits 10 n).head? ≠ some '0' := by decide
      exact hall n hlt hn
    · rw [Nat.toDigits_of_base_le (by decide) (Nat.le_of_not_lt hlt),
        List.head?_append_of_ne_nil _ Nat.toDigits_ne_nil]
      exact ih (n / 10) (by omega) (by omega)

/-- What is written for a natural number is its numeral. -/
theorem isNumeral_toDigits (n : Nat) : IsNumeral n ((Nat.toDigits 10 n).map Ascii.byte) := by
  have hdigits : ∀ c ∈ Nat.toDigits 10 n, c.isDigit = true := fun c hc =>
    Nat.isDigit_of_mem_toDigits (by decide) (by decide) hc
  refine ⟨?_, by simp [Nat.toDigits_ne_nil], fun hfront => ?_, ?_⟩
  · intro b hb
    obtain ⟨c, hc, rfl⟩ := List.mem_map.mp hb
    exact isDigit_byte (hdigits c hc)
  · rcases Nat.eq_zero_or_pos n with rfl | hn
    · rfl
    · obtain ⟨c, hc, hbyte⟩ := Option.map_eq_some_iff.mp (List.head?_map ▸ hfront)
      have hdigit := hdigits c (List.mem_of_mem_head? hc)
      obtain rfl : c = '0' := Ascii.eq_of_byte_eq
        (by have := (toNat_byte_of_isDigit hdigit).2.2; omega) (by decide) hbyte
      exact absurd hc (head?_toDigits n hn)
  · rw [appended_map_byte hdigits, Nat.ofDigitChars_ten_toDigits]

/-- The bytes of the sign of an integer. -/
def signBytes (negative : Bool) : Bytes := if negative then [Ascii.minus] else []

theorem encode_toString (i : Int) : Utf8.encode (toString i) =
    signBytes (decide (i < 0)) ++ (Nat.toDigits 10 i.natAbs).map Ascii.byte := by
  have hdigits : ∀ c ∈ Nat.toDigits 10 i.natAbs, c.toNat < 0x80 := fun c hc =>
    Nat.lt_of_le_of_lt
      (toNat_byte_of_isDigit (Nat.isDigit_of_mem_toDigits (by decide) (by decide) hc)).2.2
      (by decide)
  rw [toString_eq_zeroPadded, zeroPadded, List.replicate_zero, List.append_nil,
    Utf8.encode_append, Utf8.encode_ascii hdigits]
  cases decide (i < 0) <;> rfl

/-- **The text of an integer is read as the integer**, whatever follows that is no part of a
number. -/
theorem readNumber_toString (i : Int) (hi : -(2 ^ 63) ≤ i ∧ i < 2 ^ 64) (hr : EndsNumber r) :
    readNumber (Utf8.encode (toString i) ++ r) = .ok (.int i hi, r) := by
  have hnumeral := isNumeral_toDigits i.natAbs
  have hread (negative : Bool) (hint : IsIntOf negative i.natAbs i) :
      readUnsigned negative ((Nat.toDigits 10 i.natAbs).map Ascii.byte ++ r) = .ok (.int i hi, r) :=
    readUnsigned_eq_int_iff.mpr ⟨_, _, hnumeral, hint, rfl, hr⟩
  rw [encode_toString, List.append_assoc]
  by_cases hsign : i < 0
  · rw [decide_eq_true hsign]
    exact hread true ⟨by omega, by omega, by omega⟩
  · rw [decide_eq_false hsign, signBytes, if_neg Bool.false_ne_true, List.nil_append]
    have h := hread false ⟨by omega, by omega⟩
    obtain ⟨b, ds, hfront⟩ := List.exists_cons_of_ne_nil hnumeral.ne_nil
    have hb : Ascii.isDigit b = true := hnumeral.digits b (by rw [hfront]; exact List.mem_cons_self)
    rw [hfront, List.cons_append] at h ⊢
    rw [readNumber, if_neg (ne_of_isDigit hb rfl), h]

end LiveConfig.Json
