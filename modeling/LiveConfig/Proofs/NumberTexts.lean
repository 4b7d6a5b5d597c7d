import Mathlib.Data.List.TakeWhile
import LiveConfig.Proofs.Integers
import LiveConfig.Proofs.Paths
import LiveConfig.Proofs.ShortestNumerals
import LiveConfig.Proofs.TextMaps
import LiveConfig.Store.Access

/-!
Texts of numbers, read as integers again.

A whole number that is held rounded is written with the digits of its shortest numeral and zeros.
`Binary64.IsAbbreviated` says that this numeral is not the number, and `Json.Number.ReadsBack` what
its text is read as.  Main statement: `number_texts_read_back`, it is the same integer unless the
number is abbreviated, and one that is rounded to the number otherwise.
-/

namespace LiveConfig

/-! ### Reading digits -/

theorem takeDigits_of_digits {ds : List Char} (h : ∀ c ∈ ds, c.isDigit = true) :
    takeDigits ds = (ds, []) := by
  rw [takeDigits, List.takeWhile_eq_self_iff.mpr h, List.dropWhile_eq_nil_iff.mpr h]

theorem takeSign_of_digits {ds : List Char} (h : ∀ c ∈ ds, c.isDigit = true) :
    takeSign ds = (false, ds) := by
  unfold takeSign
  split
  · exact absurd (h '-' List.mem_cons_self) (by decide)
  · exact absurd (h '+' List.mem_cons_self) (by decide)
  · rfl

/-- The integer of a sign and a magnitude. -/
def ofSign (negative : Bool) (n : Nat) : Int := if negative then -n else n

theorem natAbs_ofSign (negative : Bool) (n : Nat) : (ofSign negative n).natAbs = n := by
  cases negative <;> simp [ofSign]

theorem ofSign_natAbs (i : Int) : ofSign (decide (i < 0)) i.natAbs = i := by
  unfold ofSign
  by_cases hi : i < 0
  · rw [if_pos (decide_eq_true hi)]
    omega
  · rw [if_neg (by simpa using hi)]
    omega

/-- The text of a sign. -/
def signText (negative : Bool) : String := if negative then "-" else ""

/-- **An integer is read from its digits**, if it is within 64 bits. -/
theorem readInt?_of_digits (negative : Bool) {ds : List Char} (hne : ds ≠ [])
    (hds : ∀ c ∈ ds, c.isDigit = true) :
    readInt? (signText negative ++ String.ofList ds) =
      if minInt64 ≤ ofSign negative (digitsValue ds) ∧ ofSign negative (digitsValue ds) ≤ maxInt64
      then some (ofSign negative (digitsValue ds)) else none := by
  have hsign : takeSign (signText negative ++ String.ofList ds).toList = (negative, ds) := by
    cases negative with
    | true => simp [signText, takeSign]
    | false => simpa [signText] using takeSign_of_digits hds
  obtain ⟨c, cs, rfl⟩ := List.exists_cons_of_ne_nil hne
  unfold readInt?
  rw [hsign]
  dsimp only
  rw [takeDigits_of_digits hds]
  rfl

theorem digitsValue_eq (ds : List Char) : digitsValue ds = Nat.ofDigitChars 10 ds 0 :=
  Nat.ofDigitChars_eq_foldl.symm

/-- The digits of a numeral followed by zeros. -/
def zeroPadded (c k : Nat) : List Char := Nat.toDigits 10 c ++ List.replicate k '0'

theorem digitsValue_zeroPadded (c k : Nat) : digitsValue (zeroPadded c k) = c * 10 ^ k := by
  rw [digitsValue_eq, zeroPadded, Nat.ofDigitChars_append, Nat.ofDigitChars_ten_toDigits,
    Nat.ofDigitChars_replicate_zero, Nat.mul_comm]

theorem readInt?_zeroPadded (negative : Bool) (c k : Nat) :
    readInt? (signText negative ++ String.ofList (zeroPadded c k)) =
      if minInt64 ≤ ofSign negative (c * 10 ^ k) ∧ ofSign negative (c * 10 ^ k) ≤ maxInt64
      then some (ofSign negative (c * 10 ^ k)) else none := by
  have hne : zeroPadded c k ≠ [] := List.append_ne_nil_of_left_ne_nil Nat.toDigits_ne_nil _
  have hds : ∀ d ∈ zeroPadded c k, d.isDigit = true := by
    intro d hd
    rcases List.mem_append.mp hd with hd | hd
    · exact Nat.isDigit_of_mem_toDigits (by decide) (by decide) hd
    · rw [List.eq_of_mem_replicate hd]
      rfl
  rw [readInt?_of_digits negative hne hds, digitsValue_zeroPadded]

theorem toString_eq_zeroPadded (i : Int) :
    toString i = signText (decide (i < 0)) ++ String.ofList (zeroPadded i.natAbs 0) := by
  rw [zeroPadded, List.replicate_zero, List.append_nil, ← Nat.repr_eq_ofList_toDigits,
    Int.toString_eq_repr, Int.repr_eq_if]
  by_cases hi : 0 ≤ i
  · rw [if_pos hi, signText, decide_eq_false (by omega), show i.toNat = i.natAbs by omega]
    rfl
  · rw [if_neg hi, signText, decide_eq_true (by omega), show (-i).toNat = i.natAbs by omega]
    rfl

/-- The text of an integer is read as the integer. -/
theorem readInt?_toString {i : Int} (hmin : minInt64 ≤ i) (hmax : i ≤ maxInt64) :
    readInt? (toString i) = some i := by
  rw [toString_eq_zeroPadded, readInt?_zeroPadded, Nat.pow_zero, Nat.mul_one, ofSign_natAbs,
    if_pos ⟨hmin, hmax⟩]

/-! ### Texts of whole numbers -/

/-- A plain decimal without a fraction: the digits, and zeros up to the point. -/
theorem positional_of_whole (c k : Nat) :
    plainReal.positional ⟨c, k⟩ = String.ofList (zeroPadded c k) := by
  have hlength := Decimal.length_pos c
  have hdigits : (Nat.toDigits 10 c).length = Decimal.length c := rfl
  have hzeros : ((k : Int) + Decimal.length c - 1 - Decimal.length c + 1).toNat = k := by omega
  have hle : (Decimal.length c : Int) - 1 ≤ (k : Int) + Decimal.length c - 1 := by omega
  unfold RealNotation.positional Decimal.leading
  dsimp only
  rw [hdigits, if_pos hle, hzeros]
  exact String.append_empty

namespace Binary64

variable {x : Binary64} {v m e k : Nat}

/-- The number is the one nearest to an integer. -/
def IsNearestTo (x : Binary64) (j : Int) : Prop :=
  ∃ z, ofInt? j = some z ∧ z.signedUnits = x.signedUnits

theorem isNumeralOf_of_isNearestTo (h : x.units = v * one) {j : Int} (hj : x.IsNearestTo j) :
    IsNumeralOf j.natAbs x := by
  obtain ⟨z, hz, hval⟩ := hj
  obtain ⟨y, hy, -⟩ := Option.map_eq_some_iff.mp hz
  have hunits : y.units = v * one := by
    obtain ⟨z', hz', hval'⟩ := signedUnits_of_ofInt? hy
    cases hz.symm.trans hz'
    have habs := congrArg Int.natAbs (hval'.symm.trans hval)
    rw [natAbs_signedUnits, h] at habs
    split at habs <;> simpa using habs
  have hsign : y.abs = y := eq_of_parts (negative_of_nearest? hy).symm rfl rfl
  have hself : nearest? v 1 = some y := hsign ▸ isNumeralOf_self hunits
  rw [IsNumeralOf, hy, ← hself]
  exact isNumeralOf_self h

theorem isNearestTo_of_isNumeralOf (hm : IsNumeralOf m x) (hpos : 0 < m) :
    x.IsNearestTo (ofSign x.negative m) := by
  obtain ⟨z, hz, hval⟩ := signedUnits_of_ofInt? (i := ofSign x.negative m) (y := x.abs)
    (by rw [natAbs_ofSign]; exact hm)
  refine ⟨z, hz, hval.trans ?_⟩
  cases hneg : x.negative with
  | true => rw [ofSign, if_pos rfl, if_pos (by omega), abs_units, signedUnits, if_pos hneg]
  | false => simp [ofSign, signedUnits, hneg]

/-! ### Integers that are not rounded -/

/-- An integer that is a number of the format. -/
def Holds (e : Nat) : Prop := ∃ y, nearest? e 1 = some y ∧ y.units = e * one

theorem IsNumeralOf.eq_of_holds (hm : IsNumeralOf m x) (h : x.units = v * one) (he : Holds m) :
    m = v := by
  obtain ⟨y, hy, hunits⟩ := he
  cases hm.symm.trans hy
  exact Nat.eq_of_mul_eq_mul_right one_pos (hunits.symm.trans h)

/-- An integer beyond one that is not rounded is not rounded to before it. -/
theorem IsNumeralOf.lt_of_holds (hm : IsNumeralOf m x) (h : x.units = v * one) (he : Holds e)
    (hlt : v < e) : m < e := by
  by_contra hle
  have hmid : IsNumeralOf e x :=
    nearest?_of_between Nat.one_pos (isNumeralOf_self h) hm hlt.le (Nat.le_of_not_lt hle)
  exact absurd (hmid.eq_of_holds h he) hlt.ne'

theorem holds_of_lt (hm : m < 2 ^ 53) : Holds m := by
  obtain ⟨z, hz, hval⟩ := exists_ofInt?_of_natAbs_lt (i := m) hm
  obtain ⟨y, hy, -⟩ := Option.map_eq_some_iff.mp hz
  obtain ⟨z', hz', hval'⟩ := signedUnits_of_ofInt? hy
  cases hz.symm.trans hz'
  rw [if_neg (by omega), hval] at hval'
  exact ⟨y, hy, by exact_mod_cast hval'.symm⟩

theorem IsNumeralOf.pos (hm : IsNumeralOf m x) (h : x.units = v * one) (hv : 0 < v) : 0 < m := by
  refine Nat.pos_of_ne_zero fun hzero => ?_
  subst hzero
  exact hv.ne (hm.eq_of_holds h (holds_of_lt (by decide)))

theorem holds_of_map_eq (h : (nearest? e 1).map units = some (e * one)) : Holds e :=
  Option.map_eq_some_iff.mp h

theorem holds_two_pow_53 : Holds (2 ^ 53) := holds_of_map_eq (by decide +kernel)

theorem holds_two_pow_63 : Holds (2 ^ 63) := holds_of_map_eq (by decide +kernel)

theorem holds_pow_ten (hk : k < 20) : Holds (10 ^ k) := by
  have hall : ∀ k < 20, (nearest? (10 ^ k) 1).map units = some (10 ^ k * one) := by decide +kernel
  exact holds_of_map_eq (hall k hk)

/-! ### Abbreviated integers -/

/-- Some integer that ends in zeros where `i` does not is rounded to the same number. -/
def IsAbbreviated (x : Binary64) (i : Int) : Prop :=
  ∃ (c : Int) (k : Nat), x.IsNearestTo (c * 10 ^ k) ∧ ¬ (10 ^ k : Int) ∣ i

theorem natAbs_mul_pow (c : Int) (k : Nat) : (c * 10 ^ k).natAbs = c.natAbs * 10 ^ k := by
  rw [Int.natAbs_mul, Int.natAbs_pow]
  rfl

theorem pow_dvd_natAbs_iff {i : Int} : 10 ^ k ∣ i.natAbs ↔ (10 ^ k : Int) ∣ i := by
  rw [← Int.natCast_dvd]
  norm_cast

/-- Integers of no more than 53 bits are not abbreviated. -/
theorem not_isAbbreviated_of_natAbs_lt {i : Int} (h : x.units = i.natAbs * one)
    (hi : i.natAbs < 2 ^ 53) : ¬ x.IsAbbreviated i := by
  rintro ⟨c, k, hnear, hdvd⟩
  have hm := isNumeralOf_of_isNearestTo h hnear
  have heq := hm.eq_of_holds h (holds_of_lt (hm.lt_of_holds h holds_two_pow_53 hi))
  rw [natAbs_mul_pow] at heq
  exact hdvd (pow_dvd_natAbs_iff.mp ⟨c.natAbs, by rw [← heq, Nat.mul_comm]⟩)

theorem length_lt_of_lt {v : Nat} (h : v < 10 ^ 19) : Decimal.length v < 20 :=
  Nat.lt_succ_of_le ((Decimal.length_le_iff (by decide)).mpr h)

/-- Zeros at the end of longer numerals are no matter. -/
theorem not_isAbbreviated_iff {i : Int} (h : x.units = i.natAbs * one)
    (hpos : 0 < i.natAbs) (hlt : i.natAbs < 10 ^ 19) :
    ¬ x.IsAbbreviated i ↔ ∀ c k, k < Decimal.length i.natAbs → IsNumeralOf (c * 10 ^ k) x →
      10 ^ k ∣ i.natAbs := by
  constructor
  · intro hnot c k _ hm
    by_contra hdvd
    refine hnot ⟨ofSign x.negative c, k, ?_, fun hd => hdvd (pow_dvd_natAbs_iff.mpr hd)⟩
    have hnear := isNearestTo_of_isNumeralOf hm (hm.pos h hpos)
    have hsign : ofSign x.negative c * 10 ^ k = ofSign x.negative (c * 10 ^ k) := by
      unfold ofSign
      split <;> simp
    exact hsign ▸ hnear
  · rintro hall ⟨c, k, hnear, hdvd⟩
    have hm := isNumeralOf_of_isNearestTo h hnear
    rw [natAbs_mul_pow] at hm
    have hshort : k < Decimal.length i.natAbs := by
      -- The power of ten above the number is not rounded, so nothing from there on is rounded to
      -- the number.
      by_contra hlong
      have hbelow := hm.lt_of_holds h (holds_pow_ten (length_lt_of_lt hlt))
        (Decimal.lt_pow_length i.natAbs)
      have hc : 0 < c.natAbs := Nat.pos_of_mul_pos_right (hm.pos h hpos)
      have hle : 10 ^ Decimal.length i.natAbs ≤ 10 ^ k :=
        Nat.pow_le_pow_right (by decide) (Nat.le_of_not_lt hlong)
      exact absurd (hle.trans (Nat.le_mul_of_pos_left _ hc)) (Nat.not_le_of_lt hbelow)
    exact hdvd (pow_dvd_natAbs_iff.mp (hall c.natAbs k hshort hm))

/-! ### The text of a whole number -/

theorem mantissa_eq_zero_iff (h : x.units = v * one) : x.mantissa = 0 ↔ v = 0 := by
  rw [units_eq] at h
  constructor
  · intro hm
    rw [hm, Nat.zero_mul] at h
    exact (Nat.mul_eq_zero.mp h.symm).resolve_right one_pos.ne'
  · intro hv
    rw [hv, Nat.zero_mul] at h
    exact (Nat.mul_eq_zero.mp h).resolve_right (Nat.two_pow_pos x.shift).ne'

/-- **The text of a whole number** has the digits of an integer that is rounded to the number.  It
is the number itself just if that is not abbreviated. -/
theorem exists_write_of_whole {i : Int} (h : x.units = i.natAbs * one) (hlt : i.natAbs < 10 ^ 19) :
    ∃ c k, plainReal.write x = signText x.negative ++ String.ofList (zeroPadded c k) ∧
      IsNumeralOf (c * 10 ^ k) x ∧ (c * 10 ^ k = i.natAbs ↔ ¬ x.IsAbbreviated i) ∧
      (0 < i.natAbs → x.shortest .up = ⟨c, k⟩) := by
  rcases Nat.eq_zero_or_pos i.natAbs with hzero | hpos
  · have hmantissa := (mantissa_eq_zero_iff h).mpr hzero
    have hself := isNumeralOf_self h
    rw [hzero] at hself
    refine ⟨0, 0, ?_, hself, iff_of_true (by rw [hzero, Nat.zero_mul]) ?_, by omega⟩
    · rw [RealNotation.write, RealNotation.magnitude, if_pos hmantissa]
      rfl
    · rintro ⟨c, k, -, hdvd⟩
      rw [Int.natAbs_eq_zero.mp hzero] at hdvd
      exact hdvd (dvd_zero _)
  · obtain ⟨c, k, hshort, hm, hiff⟩ := exists_shortest_of_whole h hpos .up
    have hmantissa := (mantissa_eq_zero_iff h).not.mpr hpos.ne'
    refine ⟨c, k, ?_, hm, hiff.trans (not_isAbbreviated_iff h hpos hlt).symm, fun _ => hshort⟩
    rw [RealNotation.write, RealNotation.magnitude, if_neg hmantissa, ← positional_of_whole,
      ← hshort]
    rfl

theorem ofSign_of_signedUnits {i : Int} (h : x.signedUnits = i * one) :
    x.units = i.natAbs * one ∧ ofSign x.negative i.natAbs = i := by
  have hone := one_pos
  have hunits : x.units = i.natAbs * one := by
    rw [← natAbs_signedUnits, h, Int.natAbs_mul, Int.natAbs_natCast]
  refine ⟨hunits, ?_⟩
  have hsigned : ofSign x.negative i.natAbs * one = i * one := by
    rw [← h, signedUnits, hunits, ofSign]
    split
    · rw [Int.natCast_mul, Int.neg_mul]
    · rw [Int.natCast_mul]
  exact Int.eq_of_mul_eq_mul_right (by omega) hsigned

/-- The text of the least integer of 64 bits has one that is less. -/
theorem shortest_of_minInt64 (h : x.units = 2 ^ 63 * one) :
    x.shortest .up = ⟨9223372036854776, 3⟩ := by
  have heq : (nearest? (2 ^ 63) 1).map (·.shortest .up) = some ⟨9223372036854776, 3⟩ := by
    decide +kernel
  rw [show nearest? (2 ^ 63) 1 = some x.abs from isNumeralOf_self h] at heq
  exact Option.some.inj heq

/-- **Reading the text of a whole number.**  It is read as an integer that is rounded to the number,
except for the least one of 64 bits, whose text is out of range. -/
theorem readInt?_write {i : Int} (h : x.signedUnits = i * one) (hmin : minInt64 ≤ i)
    (hmax : i ≤ maxInt64) :
    (i = minInt64 ∧ readInt? (plainReal.write x) = none ∧ x.IsAbbreviated i) ∨
      i ≠ minInt64 ∧ ∃ m, IsNumeralOf m x ∧
        readInt? (plainReal.write x) = some (ofSign x.negative m) ∧
        (m = i.natAbs ↔ ¬ x.IsAbbreviated i) := by
  have hlow : minInt64 = -(2 ^ 63) := rfl
  have hhigh : maxInt64 = 2 ^ 63 - 1 := rfl
  obtain ⟨hunits, hsign⟩ := ofSign_of_signedUnits h
  obtain ⟨c, k, htext, hm, hiff, hshort⟩ := exists_write_of_whole (i := i) hunits (by omega)
  rw [htext, readInt?_zeroPadded]
  by_cases hi : i = minInt64
  · have habs : i.natAbs = 2 ^ 63 := by omega
    have hdecimal := hshort (by omega)
    rw [shortest_of_minInt64 (habs ▸ hunits), Decimal.mk.injEq] at hdecimal
    obtain ⟨hc, hk⟩ := hdecimal
    obtain rfl : k = 3 := by omega
    subst hc
    refine .inl ⟨hi, if_neg ?_, ?_⟩
    · rintro ⟨hge, -⟩
      cases hneg : x.negative with
      | true =>
        rw [hneg, ofSign, if_pos rfl] at hge
        omega
      | false =>
        rw [hneg, ofSign, if_neg Bool.false_ne_true] at hsign
        omega
    · by_contra hnot
      exact absurd (hiff.mpr hnot) (by rw [habs]; decide)
  · -- The number is below `2 ^ 63`, which is not rounded: so is all that is rounded to it.
    have hbelow := hm.lt_of_holds hunits holds_two_pow_63 (by omega)
    refine .inr ⟨hi, _, hm, if_pos ?_, hiff⟩
    unfold ofSign
    split <;> omega

end Binary64

namespace Json

namespace Number

/-- The number is held rounded, and some integer that ends in zeros where `i` does not is rounded to
the same one. -/
def IsAbbreviated (n : Number) (i : Int) : Prop := ∃ x, n = .real x ∧ x.IsAbbreviated i

/-- What the text of a number that is the integer `i` is read as. -/
structure ReadsBack (n : Number) (i : Int) (t : String) : Prop where
  same : ∀ path, Variable.toInt path t = .ok i ↔ ¬ n.IsAbbreviated i
  near : ∀ path j, Variable.toInt path t = .ok j → j ≠ i → ∃ x, n = .real x ∧ x.IsNearestTo j
  refused : ∀ path, Variable.toInt path t = .error (.conversion path Wanted.int t) ↔
    i = minInt64 ∧ ∃ x, n = .real x
  exact : (∀ x, n ≠ .real x) ∨ i.natAbs < 2 ^ 53 → ∀ path, Variable.toInt path t = .ok i

theorem toInt_of_readInt? {t : String} {i : Int} (h : readInt? t = some i) (path : String) :
    Variable.toInt path t = .ok i := by
  rw [Variable.toInt, h]

theorem toInt_of_readInt?_eq_none {t : String} (h : readInt? t = none) (path : String) :
    Variable.toInt path t = .error (.conversion path Wanted.int t) := by
  rw [Variable.toInt, h]

theorem readsBack_int {i : Int} {hi : -(2 ^ 63) ≤ i ∧ i < 2 ^ 64} (hmax : i ≤ maxInt64) :
    (Number.int i hi).ReadsBack i (toString i) := by
  have hread := toInt_of_readInt? (readInt?_toString hi.1 hmax)
  constructor
  · intro path
    refine iff_of_true (hread path) ?_
    rintro ⟨x, ⟨⟩, -⟩
  · intro path j hj hne
    exact absurd (Except.ok.inj ((hread path).symm.trans hj)).symm hne
  · intro path
    rw [hread path]
    refine iff_of_false (by simp) ?_
    rintro ⟨-, x, ⟨⟩⟩
  · exact fun _ => hread

theorem readsBack_real {x : Binary64} {i : Int} (h : x.signedUnits = i * Binary64.one)
    (hmin : minInt64 ≤ i) (hmax : i ≤ maxInt64) :
    (Number.real x).ReadsBack i (plainReal.write x) := by
  obtain ⟨hunits, hsign⟩ := Binary64.ofSign_of_signedUnits h
  have habbreviated : (Number.real x).IsAbbreviated i ↔ x.IsAbbreviated i :=
    ⟨fun ⟨_, hx, habb⟩ => Number.real.inj hx ▸ habb, fun habb => ⟨x, rfl, habb⟩⟩
  rcases Binary64.readInt?_write h hmin hmax with ⟨rfl, hread, habb⟩ | ⟨hi, m, hm, hread, hiff⟩
  · have hrefused := toInt_of_readInt?_eq_none hread
    have hnever : ∀ path j, Variable.toInt path (plainReal.write x) ≠ .ok j := by
      intro path j hj
      cases (hrefused path).symm.trans hj
    constructor
    · intro path
      rw [habbreviated]
      exact iff_of_false (hnever path _) (not_not.mpr habb)
    · intro path j hj _
      exact absurd hj (hnever path j)
    · exact fun path => iff_of_true (hrefused path) ⟨rfl, x, rfl⟩
    · rintro (hint | hsmall) path
      · exact absurd rfl (hint x)
      · exact absurd habb (Binary64.not_isAbbreviated_of_natAbs_lt hunits hsmall)
  · have hread' := toInt_of_readInt? hread
    have hsame : ofSign x.negative m = i ↔ ¬ x.IsAbbreviated i := by
      refine Iff.trans ⟨fun heq => ?_, fun heq => ?_⟩ hiff
      · rw [← heq, natAbs_ofSign]
      · rw [heq, hsign]
    constructor
    · intro path
      rw [hread' path, Except.ok.injEq, habbreviated, hsame]
    · intro path j hj hne
      obtain rfl := Except.ok.inj ((hread' path).symm.trans hj)
      refine ⟨x, rfl, Binary64.isNearestTo_of_isNumeralOf hm (Nat.pos_of_ne_zero ?_)⟩
      rintro rfl
      have hzero := hm.eq_of_holds hunits (Binary64.holds_of_lt (by decide))
      exact hne (hsame.mpr (hiff.mp hzero))
    · intro path
      rw [hread' path]
      exact iff_of_false (by simp) fun ⟨heq, _⟩ => hi heq
    · rintro (hint | hsmall) path
      · exact absurd rfl (hint x)
      · rw [hread' path, hsame.mpr (Binary64.not_isAbbreviated_of_natAbs_lt hunits hsmall)]

theorem exists_leafText_of_toInt64? {n : Number} {i : Int} (h : n.toInt64? = some i) :
    ∃ t, (Json.number n).leafText = some t ∧ n.ReadsBack i t := by
  cases n with
  | int j hj =>
    by_cases hmax : j ≤ maxInt64
    · obtain rfl := Option.some.inj ((toInt64?_of_le hmax).symm.trans h)
      exact ⟨_, rfl, readsBack_int hmax⟩
    · cases (toInt64?_of_lt (lt_of_not_ge hmax)).symm.trans h
  | real x =>
    obtain ⟨hval, hmin, hmax⟩ := toInt64?_real_eq_some_iff.mp h
    exact ⟨_, rfl, readsBack_real hval hmin hmax⟩

end Number

end Json

/-! ### Texts in maps of maps -/

/-- A text in a map of maps is that of the value under the keys that lead to it. -/
theorem Store.exists_resolve_of_getTextMap {s : Store} {path name key t : String}
    {m : List (String × List (String × String))} {texts : List (String × String)}
    (hname : IsStep name) (hkey : IsStep key) (h : s.getTextMap path = .ok m)
    (hm : m.lookup name = some texts) (ht : texts.lookup key = some t) :
    ∃ v, v.leafText = some t ∧ s.resolve (path ++ "." ++ name ++ "." ++ key) = some v := by
  unfold getTextMap getNested at h
  cases hv : s.resolve path with
  | none =>
    rw [hv] at h
    cases h
  | some v =>
    rw [hv] at h
    cases v with
    | map es =>
      obtain ⟨leaves, hl, -, htexts⟩ := (Json.isTextMapOf_of_textMap h).leafKeys name texts hm
      rw [htexts, Option.bind_eq_some_iff] at ht
      obtain ⟨u, hu, hleaf⟩ := ht
      have hwalk : (Json.map es).walk (pathKeys (name ++ "." ++ key)) = some u := by
        rw [pathKeys_join, pathKeys_of_isStep hname, pathKeys_of_isStep hkey,
          List.singleton_append, Json.walk, hl]
        dsimp only
        rw [Json.walk, hu]
        cases u <;> rfl
      have hnull : u.isNull = false := by
        cases u with
        | null => cases hleaf
        | bool | number | text | list | map => rfl
      have hassoc : path ++ "." ++ name ++ "." ++ key = path ++ "." ++ (name ++ "." ++ key) := by
        simp only [String.append_assoc]
      rw [hassoc]
      exact ⟨u, hleaf, Document.resolve_join hv hwalk hnull⟩
    | null | bool | number | text | list => cases h

/-- **The text of a number is that of a nearest integer.**  If a number is an integer, then its text
is read as the same one, unless the number is held rounded and some integer that ends in more zeros
is rounded to it; then the text is read as an integer that is rounded to it, or, for the least one
of 64 bits, not at all.  It is so for the texts that a configuration gives in maps of maps, too. -/
theorem number_texts_read_back :
    (∀ path n i, (Json.number n).toInt path = .ok i →
      ∃ t, (Json.number n).leafText = some t ∧ n.ReadsBack i t) ∧
    ∀ (s : Store) env path name key m texts t i, IsStep name → IsStep key →
      s.getTextMap path = .ok m → m.lookup name = some texts → texts.lookup key = some t →
      s.getInt env (path ++ "." ++ name ++ "." ++ key) = .ok i →
      ∃ n : Json.Number, s.resolve (path ++ "." ++ name ++ "." ++ key) = some (.number n) ∧
        n.ReadsBack i t := by
  have hnumber : ∀ {path v i}, Json.toInt path v = .ok i →
      ∃ n, v = .number n ∧ ∃ t, v.leafText = some t ∧ n.ReadsBack i t := by
    intro path v i h
    rcases Json.toInt_cases path v with ⟨n, j, rfl, hn, hok⟩ | ⟨-, herror⟩
    · cases h.symm.trans hok
      exact ⟨n, rfl, Json.Number.exists_leafText_of_toInt64? hn⟩
    · cases h.symm.trans herror
  constructor
  · intro path n i h
    obtain ⟨_, ⟨⟩, hread⟩ := hnumber h
    exact hread
  · intro s env path name key m texts t i hname hkey hmap hm ht h
    obtain ⟨v, hleaf, hv⟩ := Store.exists_resolve_of_getTextMap hname hkey hmap hm ht
    rw [Store.getInt, Store.scalar, hv] at h
    obtain ⟨n, rfl, t', ht', hread⟩ := hnumber h
    obtain rfl := Option.some.inj (hleaf.symm.trans ht')
    exact ⟨n, hv, hread⟩

/-- The number `8080.0` in a section. -/
theorem number_texts_read_back_8080 :
    let port : Json.Number := .real ⟨false, 8080 * 2 ^ 40, 1034, by decide, by decide, by decide⟩
    let servers : Json := .map [("a", .map [("port", .number port)])]
    let s : Store := ⟨some "svc", ⟨.ofEntries [("svc", .map [("servers", servers)])], [], 1⟩⟩
    let path := "servers" ++ "." ++ "a" ++ "." ++ "port"
    (Json.number port).toInt path = .ok 8080 ∧
      (∃ t, (Json.number port).leafText = some t ∧ port.ReadsBack 8080 t) ∧
      s.getTextMap "servers" = .ok [("a", [("port", "8080")])] ∧
      s.getInt ⟨[]⟩ path = .ok 8080 ∧
      ∃ n, s.resolve path = some (.number n) ∧ n.ReadsBack 8080 "8080" := by
  intro port servers s path
  have hport : (Json.number port).toInt path = .ok 8080 := by decide +kernel
  have hmap : s.getTextMap "servers" = .ok [("a", [("port", "8080")])] := by decide +kernel
  have hint : s.getInt ⟨[]⟩ path = .ok 8080 := by decide +kernel
  exact ⟨hport, number_texts_read_back.1 path port 8080 hport, hmap, hint,
    number_texts_read_back.2 s ⟨[]⟩ "servers" "a" "port" _ _ "8080" 8080 (by decide) (by decide)
      hmap rfl rfl hint⟩

/-- The number `1152921504606846976.0` is written with fewer digits than it has. -/
theorem two_pow_60_text_is_rounded :
    let n : Json.Number := .real ⟨false, 2 ^ 52, 1082, by decide, by decide, by decide⟩
    (Json.number n).toInt "limit" = .ok 1152921504606846976 ∧
      (Json.number n).leafText = some "1152921504606847000" ∧
      Variable.toInt "limit" "1152921504606847000" = .ok 1152921504606847000 := by
  decide +kernel

end LiveConfig
