import LiveConfig.Json.Number
import Mathlib.Algebra.Order.Ring.Int

/-!
Which numbers are not rounded.

A quotient that is a number of the format is its own nearest number, so an integer keeps its value
just if some number has it.  Rounding an integer never changes its sign.
-/

namespace LiveConfig

namespace Binary64

/-- The exponent is kept apart, so that the power is never computed. -/
theorem exists_one_eq : ∃ k, k = 1074 ∧ one = 2 ^ k := ⟨1074, rfl, by rw [one]⟩

theorem one_pos : 0 < one := by
  obtain ⟨k, -, hk⟩ := exists_one_eq
  exact hk ▸ Nat.two_pow_pos k

/-! ### Values -/

theorem units_eq (x : Binary64) : x.units = x.mantissa * 2 ^ x.shift := Nat.shiftLeft_eq ..

theorem natAbs_signedUnits (x : Binary64) : x.signedUnits.natAbs = x.units := by
  unfold signedUnits
  split <;> simp

@[simp] theorem units_neg (x : Binary64) : (-x).units = x.units := rfl

theorem signedUnits_of_not_negative {x : Binary64} (h : x.negative = false) :
    x.signedUnits = x.units := by
  simp [signedUnits, h]

theorem signedUnits_neg_of_not_negative {x : Binary64} (h : x.negative = false) :
    (-x).signedUnits = -(x.units : Int) := by
  have hneg : (-x).negative = true := by
    show (!x.negative) = true
    rw [h, Bool.not_false]
  rw [signedUnits, if_pos hneg, units_neg]

/-! ### Quotients that are numbers -/

theorem roundHalfEven_mul {den : Nat} (hden : 0 < den) (q : Nat) :
    roundHalfEven (den * q) den = q := by
  have hr : den * q % den = 0 := Nat.mul_mod_right den q
  have hq : den * q / den = q := Nat.mul_div_cancel_left q hden
  simp [roundHalfEven, hr, hq, hden]

section Nearest

variable (num den : Nat)

/-- How far a quotient is shifted to leave 53 bits of it. -/
def quotientShift : Nat :=
  if num * one / den < 2 ^ 53 then 0 else (num * one / den).log2 - 52

/-- The bits that are left, rounded; there may be one too many. -/
def quotientMantissa : Nat := roundHalfEven (num * one) (den <<< quotientShift num den)

/-- The rounded bits make a number of the format. -/
def QuotientFits : Prop :=
  quotientMantissa num den < 2 ^ 53 ∧
    (2 ^ 52 ≤ quotientMantissa num den ∨ quotientShift num den = 0) ∧
      quotientShift num den ≤ 2045

variable {num den}

theorem nearest?_of_fits (h : QuotientFits num den) :
    ∃ y, nearest? num den = some y ∧ y.negative = false ∧
      y.units = quotientMantissa num den * 2 ^ quotientShift num den :=
  ⟨_, dif_pos h, rfl, units_eq _⟩

theorem nearest?_of_carries (h : ¬ QuotientFits num den) (hs : quotientShift num den + 1 ≤ 2045) :
    ∃ y, nearest? num den = some y ∧ y.negative = false ∧
      y.units = 2 ^ 52 * 2 ^ (quotientShift num den + 1) :=
  ⟨_, (dif_neg h).trans (dif_pos hs), rfl, units_eq _⟩

theorem nearest?_of_overflows (h : ¬ QuotientFits num den)
    (hs : ¬ quotientShift num den + 1 ≤ 2045) : nearest? num den = none :=
  (dif_neg h).trans (dif_neg hs)

theorem negative_of_nearest? {x : Binary64} (h : nearest? num den = some x) :
    x.negative = false := by
  by_cases hfits : QuotientFits num den
  · obtain ⟨y, hy, hsign, -⟩ := nearest?_of_fits hfits
    exact Option.some.inj (hy.symm.trans h) ▸ hsign
  · by_cases hs : quotientShift num den + 1 ≤ 2045
    · obtain ⟨y, hy, hsign, -⟩ := nearest?_of_carries hfits hs
      exact Option.some.inj (hy.symm.trans h) ▸ hsign
    · cases (nearest?_of_overflows hfits hs).symm.trans h

end Nearest

section Exact

variable {num den u : Nat} (hden : 0 < den) (h : num * one = den * u)
include hden h

theorem quotientShift_eq : quotientShift num den = if u < 2 ^ 53 then 0 else u.log2 - 52 := by
  rw [quotientShift, h, Nat.mul_div_cancel_left u hden]

/-- A quotient is not rounded if its last bits, those that are shifted away, are zeros. -/
theorem exists_nearest?_of_dvd (hdvd : 2 ^ quotientShift num den ∣ u)
    (hle : quotientShift num den ≤ 2045) :
    ∃ y, nearest? num den = some y ∧ y.negative = false ∧ y.units = u := by
  obtain ⟨q, hq⟩ := hdvd
  have hm : quotientMantissa num den = q := by
    rw [quotientMantissa, h, Nat.shiftLeft_eq]
    generalize quotientShift num den = s at hq
    rw [hq, ← Nat.mul_assoc, roundHalfEven_mul (Nat.mul_pos hden (Nat.two_pow_pos s))]
  have hfits : QuotientFits num den := by
    unfold QuotientFits
    rw [hm]
    have hs := quotientShift_eq hden h
    split at hs
    · have hqu : q = u := by rw [hq, hs, Nat.pow_zero, Nat.one_mul]
      exact ⟨by omega, .inr hs, hle⟩
    · have hne : u ≠ 0 := by omega
      have hlog : 53 ≤ u.log2 := (Nat.le_log2 hne).mpr (by omega)
      have hlow : 2 ^ u.log2 ≤ u := Nat.log2_self_le hne
      have hhigh : u < 2 ^ (u.log2 + 1) := Nat.lt_log2_self
      generalize quotientShift num den = s at hq hs hle ⊢
      rw [show u.log2 = s + 52 by omega, hq, Nat.pow_add] at hlow
      rw [show u.log2 + 1 = s + 53 by omega, hq, Nat.pow_add] at hhigh
      exact ⟨Nat.lt_of_mul_lt_mul_left hhigh,
        .inl (Nat.le_of_mul_le_mul_left hlow (Nat.two_pow_pos s)), hle⟩
  obtain ⟨y, hy, hsign, hunits⟩ := nearest?_of_fits hfits
  exact ⟨y, hy, hsign, by rw [hunits, hm, hq, Nat.mul_comm]⟩

end Exact

/-- **A number of the format is not rounded.** -/
theorem exists_nearest?_of_units {num den : Nat} {x : Binary64} (hden : 0 < den)
    (h : num * one = den * x.units) :
    ∃ y, nearest? num den = some y ∧ y.negative = false ∧ y.units = x.units := by
  have hshift : quotientShift num den ≤ x.shift := by
    rw [quotientShift_eq hden h]
    split
    · exact Nat.zero_le _
    · have hlt : x.units < 2 ^ (53 + x.shift) := by
        rw [units_eq, Nat.pow_add]
        exact Nat.mul_lt_mul_of_pos_right x.mantissa_lt (Nat.two_pow_pos _)
      have := (Nat.log2_lt (by omega)).mpr hlt
      omega
  have hdvd : 2 ^ quotientShift num den ∣ x.units := by
    rw [units_eq]
    exact Nat.dvd_mul_left_of_dvd (Nat.pow_dvd_pow 2 hshift) x.mantissa
  exact exists_nearest?_of_dvd hden h hdvd (hshift.trans x.shift_le)

/-! ### Integers -/

theorem signedUnits_of_ofInt? {i : Int} {y : Binary64} (h : nearest? i.natAbs 1 = some y) :
    ∃ z, ofInt? i = some z ∧ z.signedUnits = if i < 0 then -(y.units : Int) else y.units := by
  have hy := negative_of_nearest? h
  refine ⟨_, by rw [ofInt?, h, Option.map_some], ?_⟩
  split
  · exact signedUnits_neg_of_not_negative hy
  · exact signedUnits_of_not_negative hy

theorem signedUnits_of_ofInt?_of_units {i : Int} {y : Binary64}
    (h : nearest? i.natAbs 1 = some y) (hunits : y.units = i.natAbs * one) :
    ∃ z, ofInt? i = some z ∧ z.signedUnits = i * one := by
  obtain ⟨z, hz, hval⟩ := signedUnits_of_ofInt? h
  refine ⟨z, hz, ?_⟩
  rw [hval, hunits, Int.natCast_mul]
  split
  · rw [← Int.neg_mul, show -(i.natAbs : Int) = i by omega]
  · rw [show (i.natAbs : Int) = i by omega]

/-- **An integer that is a number of the format is not rounded.** -/
theorem exists_ofInt?_of_signedUnits {i : Int} {x : Binary64} (h : x.signedUnits = i * one) :
    ∃ z, ofInt? i = some z ∧ z.signedUnits = i * one := by
  have habs : i.natAbs * one = 1 * x.units := by
    rw [Nat.one_mul, ← natAbs_signedUnits, h, Int.natAbs_mul, Int.natAbs_natCast]
  obtain ⟨y, hy, -, hunits⟩ := exists_nearest?_of_units Nat.one_pos habs
  exact signedUnits_of_ofInt?_of_units hy (by rw [hunits, habs, Nat.one_mul])

/-- Nor is an integer of no more than 53 bits. -/
theorem exists_ofInt?_of_natAbs_lt {i : Int} (h : i.natAbs < 2 ^ 53) :
    ∃ z, ofInt? i = some z ∧ z.signedUnits = i * one := by
  have habs : i.natAbs * one = 1 * (i.natAbs * one) := (Nat.one_mul _).symm
  obtain ⟨k, hk, hone⟩ := exists_one_eq
  have hshift : quotientShift i.natAbs 1 ≤ k := by
    rw [quotientShift_eq Nat.one_pos habs]
    split
    · exact Nat.zero_le _
    · have hlt : i.natAbs * one < 2 ^ (53 + k) := by
        rw [hone, Nat.pow_add]
        exact Nat.mul_lt_mul_of_pos_right h (Nat.two_pow_pos k)
      have := (Nat.log2_lt (by omega)).mpr hlt
      omega
  have hdvd : 2 ^ quotientShift i.natAbs 1 ∣ i.natAbs * one := by
    rw [hone]
    exact Nat.dvd_mul_left_of_dvd (Nat.pow_dvd_pow 2 hshift) i.natAbs
  obtain ⟨y, hy, -, hunits⟩ := exists_nearest?_of_dvd Nat.one_pos habs hdvd (by omega)
  exact signedUnits_of_ofInt?_of_units hy hunits

/-- **Rounding does not go below a power of two**: what is not below one before is not below it
after. -/
theorem exists_nearest?_of_two_pow_le {n k : Nat} (hlow : 2 ^ k ≤ n) (hhigh : n < 2 ^ 64) :
    ∃ y, nearest? n 1 = some y ∧ 2 ^ k * one ≤ y.units := by
  obtain ⟨e, he, hone⟩ := exists_one_eq
  have hlow' : 2 ^ (k + e) ≤ n * one := by
    rw [hone, Nat.pow_add]
    exact Nat.mul_le_mul_right _ hlow
  have hhigh' : n * one < 2 ^ (64 + e) := by
    rw [hone, Nat.pow_add]
    exact Nat.mul_lt_mul_of_pos_right hhigh (Nat.two_pow_pos e)
  have h53 : 2 ^ 53 ≤ 2 ^ (k + e) := Nat.pow_le_pow_right (by decide) (by omega)
  have hne : n * one ≠ 0 := by omega
  have hlog : k + e ≤ (n * one).log2 := (Nat.le_log2 hne).mpr hlow'
  have hlog' : (n * one).log2 < 64 + e := (Nat.log2_lt hne).mpr hhigh'
  have hs : quotientShift n 1 = (n * one).log2 - 52 := by
    rw [quotientShift_eq Nat.one_pos (Nat.one_mul _).symm, if_neg (by omega)]
  -- The highest bit of the quotient keeps its place, or carries into the next one.
  have hbit : 2 ^ k * one ≤ 2 ^ 52 * 2 ^ quotientShift n 1 := by
    rw [hone, ← Nat.pow_add, ← Nat.pow_add]
    exact Nat.pow_le_pow_right (by decide) (by omega)
  by_cases hfits : QuotientFits n 1
  · obtain ⟨y, hy, -, hunits⟩ := nearest?_of_fits hfits
    have hm : 2 ^ 52 ≤ quotientMantissa n 1 := hfits.2.1.resolve_right (by omega)
    refine ⟨y, hy, ?_⟩
    rw [hunits]
    exact hbit.trans (Nat.mul_le_mul_right _ hm)
  · obtain ⟨y, hy, -, hunits⟩ := nearest?_of_carries hfits (by omega)
    refine ⟨y, hy, ?_⟩
    rw [hunits]
    exact hbit.trans (Nat.mul_le_mul_left _ (Nat.pow_le_pow_right (by decide) (Nat.le_succ _)))

/-- Nor does it for a positive integer. -/
theorem exists_ofInt?_of_two_pow_le {i : Int} {k : Nat} (hlow : 2 ^ k ≤ i) (hhigh : i < 2 ^ 64) :
    ∃ z, ofInt? i = some z ∧ 2 ^ k * (one : Int) ≤ z.signedUnits := by
  obtain ⟨n, rfl⟩ := Int.eq_ofNat_of_zero_le ((Int.pow_nonneg (by decide)).trans hlow)
  have hlow' : 2 ^ k ≤ n := by exact_mod_cast hlow
  obtain ⟨y, hy, hunits⟩ := exists_nearest?_of_two_pow_le hlow' (by omega)
  obtain ⟨z, hz, hval⟩ := signedUnits_of_ofInt? (i := n) hy
  rw [if_neg (by omega)] at hval
  refine ⟨z, hz, ?_⟩
  rw [hval]
  exact_mod_cast hunits

/-- The number nearest to a positive integer of 64 bits is positive. -/
theorem exists_ofInt?_of_pos {i : Int} (hpos : 0 < i) (hlt : i < 2 ^ 64) :
    ∃ z, ofInt? i = some z ∧ 0 < z.signedUnits := by
  obtain ⟨z, hz, hunits⟩ := exists_ofInt?_of_two_pow_le (k := 0) (by omega) hlt
  have hone := one_pos
  exact ⟨z, hz, by omega⟩

/-- The number nearest to a negative integer is not positive. -/
theorem signedUnits_nonpos_of_neg {i : Int} {z : Binary64} (hneg : i < 0)
    (h : ofInt? i = some z) : z.signedUnits ≤ 0 := by
  obtain ⟨y, hy, -⟩ := Option.map_eq_some_iff.mp h
  obtain ⟨z', hz', hval⟩ := signedUnits_of_ofInt? hy
  obtain rfl : z' = z := Option.some.inj (hz'.symm.trans h)
  rw [if_pos hneg] at hval
  omega

end Binary64

end LiveConfig
