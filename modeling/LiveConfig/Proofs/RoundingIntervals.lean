import LiveConfig.Number.Shortest
import LiveConfig.Proofs.Rounding

/-!
Which quotients are rounded to a number.

A rounding interval is meant to hold them all, with its ends just if the mantissa is even.
`RoundsHalf` says what a rounded count is without computing it, and `Inside` what the interval of a
number holds.  Main statement: `nearest?_eq_some_iff`, the number nearest to a quotient is the one
in whose interval the quotient lies.
-/

namespace LiveConfig

namespace Binary64

/-! ### Rounding halves to even -/

/-- `m` is nearest to `n / den`, and even if it is only one of two. -/
structure RoundsHalf (n den m : Nat) : Prop where
  below : 2 * (m * den) ≤ 2 * n + den
  above : 2 * n ≤ 2 * (m * den) + den
  odd : m % 2 = 1 → 2 * (m * den) < 2 * n + den ∧ 2 * n < 2 * (m * den) + den

theorem roundsHalf_roundHalfEven {n den : Nat} (hden : 0 < den) :
    RoundsHalf n den (roundHalfEven n den) := by
  have hr : n % den < den := Nat.mod_lt n hden
  have hn : n = n / den * den + n % den := (Nat.div_add_mod' n den).symm
  unfold roundHalfEven
  dsimp only
  generalize n / den = q at hn ⊢
  generalize n % den = r at hn hr ⊢
  have hsucc : (q + 1) * den = q * den + den := Nat.succ_mul q den
  split
  · exact ⟨by omega, by omega, fun _ => by omega⟩
  · split
    · exact ⟨by omega, by omega, fun _ => by omega⟩
    · split
      · exact ⟨by omega, by omega, fun _ => by omega⟩
      · exact ⟨by omega, by omega, fun _ => by omega⟩

theorem RoundsHalf.not_lt {n den m m' : Nat} (hden : 0 < den) (h : RoundsHalf n den m)
    (h' : RoundsHalf n den m') : ¬ m < m' := by
  intro hlt
  have habove := h.above
  have hbelow := h'.below
  rcases Nat.lt_or_ge (m + 1) m' with hfar | hnear
  · have hmul : (m + 2) * den ≤ m' * den := Nat.mul_le_mul_right den hfar
    have hsucc : (m + 2) * den = m * den + 2 * den := Nat.add_mul m 2 den
    omega
  · -- Both are as near, but one of them is odd.
    obtain rfl : m' = m + 1 := by omega
    have hsucc : (m + 1) * den = m * den + den := Nat.succ_mul m den
    rcases Nat.mod_two_eq_zero_or_one m with heven | hodd
    · have hstrict := (h'.odd (by omega)).1
      omega
    · have hstrict := (h.odd hodd).2
      omega

/-- **A rounded count** is the only one that is nearest, with ties to the even one. -/
theorem roundHalfEven_eq_iff {n den m : Nat} (hden : 0 < den) :
    roundHalfEven n den = m ↔ RoundsHalf n den m := by
  have hspec : RoundsHalf n den (roundHalfEven n den) := roundsHalf_roundHalfEven hden
  constructor
  · rintro rfl
    exact hspec
  · intro h
    exact Nat.le_antisymm (Nat.le_of_not_lt (h.not_lt hden hspec))
      (Nat.le_of_not_lt (hspec.not_lt hden h))

/-! ### Shifts and mantissas of quotients -/

section Quotient

variable {num den : Nat} {s : Nat}

/-- **The shift** leaves 53 bits of the quotient, or all of them where there are no more. -/
theorem quotientShift_eq_iff (hden : 0 < den) : quotientShift num den = s ↔
    num * one < 2 ^ 53 * (den * 2 ^ s) ∧ (s = 0 ∨ 2 ^ 52 * (den * 2 ^ s) ≤ num * one) := by
  have hlt : num * one < 2 ^ 53 * (den * 2 ^ s) ↔ num * one / den < 2 ^ (s + 53) := by
    rw [Nat.div_lt_iff_lt_mul hden, Nat.pow_add]
    exact iff_of_eq (by congr 1; ac_rfl)
  have hle : 2 ^ 52 * (den * 2 ^ s) ≤ num * one ↔ 2 ^ (s + 52) ≤ num * one / den := by
    rw [Nat.le_div_iff_mul_le hden, Nat.pow_add]
    exact iff_of_eq (by congr 1; ac_rfl)
  rw [hlt, hle]
  unfold quotientShift
  generalize num * one / den = t
  split
  · rename_i hsmall
    constructor
    · rintro rfl
      exact ⟨by simpa using hsmall, .inl rfl⟩
    · rintro ⟨-, rfl | hbits⟩
      · rfl
      · have hpow : 2 ^ 52 ≤ 2 ^ (s + 52) := Nat.pow_le_pow_right (by decide) (by omega)
        by_contra hs
        have hpow' : 2 ^ 53 ≤ 2 ^ (s + 52) := Nat.pow_le_pow_right (by decide) (by omega)
        omega
  · rename_i hlarge
    have hne : t ≠ 0 := by omega
    have hlog : 53 ≤ t.log2 := (Nat.le_log2 hne).mpr (by omega)
    rw [← Nat.log2_lt hne, ← Nat.le_log2 hne]
    omega

variable {x : Binary64}

theorem parts_of_fits (h : QuotientFits num den) (hx : nearest? num den = some x) :
    x.mantissa = quotientMantissa num den ∧ x.shift = quotientShift num den := by
  obtain rfl := Option.some.inj ((dif_pos h : nearest? num den = _).symm.trans hx)
  exact ⟨rfl, rfl⟩

theorem parts_of_carries (h : ¬ QuotientFits num den) (hx : nearest? num den = some x) :
    x.mantissa = 2 ^ 52 ∧ x.shift = quotientShift num den + 1 ∧
      quotientShift num den + 1 ≤ 2045 := by
  by_cases hs : quotientShift num den + 1 ≤ 2045
  · have hcarry := (dif_neg h : nearest? num den = _).trans (dif_pos hs)
    obtain rfl := Option.some.inj (hcarry.symm.trans hx)
    exact ⟨rfl, rfl, hs⟩
  · cases (nearest?_of_overflows h hs).symm.trans hx

end Quotient

/-! ### What an interval holds -/

/-- How far the interval of a number reaches below it, in quarters of the last place of the
mantissa.  Below a power of two the neighbour is only half as far. -/
def reachBelow (x : Binary64) : Nat := if x.mantissa = 2 ^ 52 ∧ 0 < x.shift then 1 else 2

theorem reachBelow_cases (x : Binary64) : x.reachBelow = 2 ∨
    x.reachBelow = 1 ∧ x.mantissa = 2 ^ 52 ∧ 0 < x.shift := by
  unfold reachBelow
  split
  · exact .inr ⟨rfl, ‹_›⟩
  · exact .inl rfl

theorem reachBelow_le (x : Binary64) : x.reachBelow ≤ 2 := by
  rcases x.reachBelow_cases with h | ⟨h, -⟩ <;> omega

/-- `n` quarters lie in the interval of `x` if the last place of its mantissa counts `e`. -/
structure Inside (x : Binary64) (n e : Nat) : Prop where
  below : 4 * (x.mantissa * e) ≤ n + x.reachBelow * e
  above : n ≤ 4 * (x.mantissa * e) + 2 * e
  odd : x.mantissa % 2 = 1 →
    4 * (x.mantissa * e) < n + x.reachBelow * e ∧ n < 4 * (x.mantissa * e) + 2 * e

end Binary64

open Binary64

theorem RoundingInterval.contains_ofBinary64 {x : Binary64} {n den : Nat} :
    (RoundingInterval.ofBinary64 x).contains n den = true ↔ x.Inside n (den * 2 ^ x.shift) := by
  have hreach : x.reachBelow * (den * 2 ^ x.shift) ≤ 2 * (den * 2 ^ x.shift) :=
    Nat.mul_le_mul_right _ x.reachBelow_le
  have hlow : (RoundingInterval.ofBinary64 x).low * den =
      4 * (x.mantissa * (den * 2 ^ x.shift)) - x.reachBelow * (den * 2 ^ x.shift) := by
    show (4 * x.mantissa - x.reachBelow) * 1 <<< x.shift * den = _
    rw [Nat.shiftLeft_eq, Nat.one_mul, Nat.sub_mul, Nat.sub_mul]
    congr 1 <;> ac_rfl
  have hhigh : (RoundingInterval.ofBinary64 x).high * den =
      4 * (x.mantissa * (den * 2 ^ x.shift)) + 2 * (den * 2 ^ x.shift) := by
    show (4 * x.mantissa + 2) * 1 <<< x.shift * den = _
    rw [Nat.shiftLeft_eq, Nat.one_mul, Nat.add_mul, Nat.add_mul]
    congr 1 <;> ac_rfl
  have hclosed : (RoundingInterval.ofBinary64 x).closed = decide (x.mantissa % 2 = 0) := rfl
  unfold RoundingInterval.contains
  rw [hlow, hhigh, hclosed]
  clear hlow hhigh hclosed
  generalize den * 2 ^ x.shift = e at hreach ⊢
  rcases Nat.mod_two_eq_zero_or_one x.mantissa with heven | hodd
  · simp only [heven, decide_true, if_true, Bool.and_eq_true, decide_eq_true_eq]
    constructor
    · rintro ⟨hbelow, habove⟩
      exact ⟨by omega, by omega, by omega⟩
    · rintro ⟨hbelow, habove, -⟩
      exact ⟨by omega, by omega⟩
  · -- An odd mantissa is not zero, so that the lower end is not cut off there.
    have hpos : e ≤ x.mantissa * e := Nat.le_mul_of_pos_left e (by omega)
    simp only [hodd, Nat.one_ne_zero, decide_false, Bool.false_eq_true, if_false, Bool.and_eq_true,
      decide_eq_true_eq]
    constructor
    · rintro ⟨hbelow, habove⟩
      exact ⟨by omega, by omega, fun _ => by omega⟩
    · rintro ⟨-, -, hstrict⟩
      obtain ⟨hbelow, habove⟩ := hstrict hodd
      exact ⟨by omega, by omega⟩

namespace Binary64

theorem roundsHalf_quotientMantissa (num : Nat) {den : Nat} (hden : 0 < den) :
    RoundsHalf (num * one) (den * 2 ^ quotientShift num den) (quotientMantissa num den) := by
  rw [← roundHalfEven_eq_iff (Nat.mul_pos hden (Nat.two_pow_pos _)), quotientMantissa,
    Nat.shiftLeft_eq]

section Nearest

variable {num den : Nat} {x : Binary64}

/-- If the rounded bits make no number, there is one too many of them. -/
theorem two_pow_le_of_not_fits (hden : 0 < den) (h : ¬ QuotientFits num den)
    (hs : quotientShift num den ≤ 2045) : 2 ^ 53 ≤ quotientMantissa num den := by
  obtain ⟨-, hbits⟩ := (quotientShift_eq_iff hden).mp (rfl : quotientShift num den = _)
  have habove := (roundsHalf_quotientMantissa num hden).above
  have he : 0 < den * 2 ^ quotientShift num den := Nat.mul_pos hden (Nat.two_pow_pos _)
  by_contra hsmall
  refine h ⟨by omega, ?_, hs⟩
  by_contra hmantissa
  obtain ⟨hfew, hshift⟩ := not_or.mp hmantissa
  have hbits := hbits.resolve_left hshift
  generalize quotientMantissa num den = m at *
  generalize den * 2 ^ quotientShift num den = e at *
  have hmul : (m + 1) * e ≤ 2 ^ 52 * e := Nat.mul_le_mul_right e (by omega)
  rw [Nat.add_mul] at hmul
  omega

/-- A quotient lies in the interval of the number that it is rounded to. -/
theorem inside_of_nearest? (hden : 0 < den) (h : nearest? num den = some x) :
    x.Inside (4 * (num * one)) (den * 2 ^ x.shift) := by
  obtain ⟨hlt, hbits⟩ := (quotientShift_eq_iff hden).mp (rfl : quotientShift num den = _)
  obtain ⟨hbelow, habove, hodd⟩ := roundsHalf_quotientMantissa num hden
  by_cases hfits : QuotientFits num den
  · obtain ⟨hm, hs⟩ := parts_of_fits hfits h
    rcases x.reachBelow_cases with hreach | ⟨hreach, hpower, hpos⟩
    · constructor <;> simp only [hreach, hm, hs] <;> omega
    · -- No quotient of this shift is below a power of two.
      rw [hm] at hpower
      have hbits := hbits.resolve_left (by omega)
      rw [← hpower] at hbits
      constructor <;> simp only [hreach, hm, hs] <;> omega
  · obtain ⟨hm, hs, hle⟩ := parts_of_carries hfits h
    have hmul := Nat.mul_le_mul_right (den * 2 ^ quotientShift num den)
      (two_pow_le_of_not_fits hden hfits (by omega))
    have htwice : den * 2 ^ x.shift = 2 * (den * 2 ^ quotientShift num den) := by
      rw [hs, Nat.pow_succ]
      ac_rfl
    have hreach : x.reachBelow = 1 := if_pos ⟨hm, by omega⟩
    constructor <;> simp only [hreach, hm, htwice] <;> omega

theorem eq_of_parts {y : Binary64} (hn : y.negative = x.negative) (hm : y.mantissa = x.mantissa)
    (hs : y.shift = x.shift) : y = x := by
  cases x
  cases y
  cases hn
  cases hm
  cases hs
  rfl

/-- A quotient in the interval of a number is rounded to it: here the quotient has as many bits. -/
theorem nearest?_of_inside_of_le (hden : 0 < den) (hx : x.negative = false)
    (h : x.Inside (4 * (num * one)) (den * 2 ^ x.shift))
    (hbits : x.shift = 0 ∨ 2 ^ 52 * (den * 2 ^ x.shift) ≤ num * one) :
    nearest? num den = some x := by
  obtain ⟨hbelow, habove, hodd⟩ := h
  have hmantissa := x.mantissa_lt
  have he : 0 < den * 2 ^ x.shift := Nat.mul_pos hden (Nat.two_pow_pos _)
  have hlt : num * one < 2 ^ 53 * (den * 2 ^ x.shift) := by
    have hmul : (x.mantissa + 1) * (den * 2 ^ x.shift) ≤ 2 ^ 53 * (den * 2 ^ x.shift) :=
      Nat.mul_le_mul_right _ hmantissa
    rw [Nat.add_mul] at hmul
    omega
  have hshift : quotientShift num den = x.shift := (quotientShift_eq_iff hden).mpr ⟨hlt, hbits⟩
  have hround : quotientMantissa num den = x.mantissa := by
    rw [quotientMantissa, Nat.shiftLeft_eq, hshift, roundHalfEven_eq_iff he]
    rcases x.reachBelow_cases with hreach | ⟨hreach, -, -⟩ <;> rw [hreach] at hbelow hodd
    · exact ⟨by omega, by omega, fun h => by omega⟩
    · exact ⟨by omega, by omega, fun h => by omega⟩
  have hfits : QuotientFits num den := by
    unfold QuotientFits
    rw [hround, hshift]
    exact ⟨hmantissa, x.normal, x.shift_le⟩
  obtain ⟨y, hy, hsign, -⟩ := nearest?_of_fits hfits
  obtain ⟨hm, hs⟩ := parts_of_fits hfits hy
  rw [hy, eq_of_parts (hsign.trans hx.symm) (hm.trans hround) (hs.trans hshift)]

/-- A number is a power of two if its interval holds a quotient that has one bit less. -/
theorem mantissa_of_inside_of_lt (h : x.Inside (4 * (num * one)) (den * 2 ^ x.shift))
    (hpos : x.shift ≠ 0) (hfew : num * one < 2 ^ 52 * (den * 2 ^ x.shift)) :
    x.mantissa = 2 ^ 52 := by
  have hbelow := h.below
  have hreach : x.reachBelow * (den * 2 ^ x.shift) ≤ 2 * (den * 2 ^ x.shift) :=
    Nat.mul_le_mul_right _ x.reachBelow_le
  have hnormal := x.normal.resolve_right hpos
  by_contra hne
  have hmul : (2 ^ 52 + 1) * (den * 2 ^ x.shift) ≤ x.mantissa * (den * 2 ^ x.shift) :=
    Nat.mul_le_mul_right _ (by omega)
  rw [Nat.add_mul] at hmul
  omega

/-- Here it has one bit less: the number is the power of two above the quotient. -/
theorem nearest?_of_inside_of_lt (hden : 0 < den) (hx : x.negative = false)
    (h : x.Inside (4 * (num * one)) (den * 2 ^ x.shift)) (hpos : x.shift ≠ 0)
    (hfew : num * one < 2 ^ 52 * (den * 2 ^ x.shift)) : nearest? num den = some x := by
  have hbelow := h.below
  have hpower := mantissa_of_inside_of_lt h hpos hfew
  have hreach : x.reachBelow = 1 := if_pos ⟨hpower, Nat.pos_of_ne_zero hpos⟩
  -- The quotient is counted in halves of the last place of the number.
  obtain ⟨s, hs⟩ := Nat.exists_eq_succ_of_ne_zero hpos
  have hle := x.shift_le
  have htwice : den * 2 ^ x.shift = 2 * (den * 2 ^ s) := by
    rw [hs, Nat.pow_succ]
    ac_rfl
  rw [hreach, hpower, htwice] at hbelow
  rw [htwice] at hfew
  have hshift : quotientShift num den = s :=
    (quotientShift_eq_iff hden).mpr ⟨by omega, .inr (by omega)⟩
  have hround : quotientMantissa num den = 2 ^ 53 := by
    rw [quotientMantissa, Nat.shiftLeft_eq, hshift,
      roundHalfEven_eq_iff (Nat.mul_pos hden (Nat.two_pow_pos s))]
    exact ⟨by omega, by omega, fun h => by omega⟩
  have hcarries : ¬ QuotientFits num den := by
    unfold QuotientFits
    rw [hround]
    exact fun hfits => Nat.lt_irrefl _ hfits.1
  obtain ⟨y, hy, hsign, -⟩ := nearest?_of_carries hcarries (by omega)
  obtain ⟨hm', hs', -⟩ := parts_of_carries hcarries hy
  rw [hy, eq_of_parts (hsign.trans hx.symm) (hm'.trans hpower.symm) (by omega)]

theorem nearest?_of_inside (hden : 0 < den) (hx : x.negative = false)
    (h : x.Inside (4 * (num * one)) (den * 2 ^ x.shift)) : nearest? num den = some x := by
  by_cases hbits : x.shift = 0 ∨ 2 ^ 52 * (den * 2 ^ x.shift) ≤ num * one
  · exact nearest?_of_inside_of_le hden hx h hbits
  · obtain ⟨hpos, hfew⟩ := not_or.mp hbits
    exact nearest?_of_inside_of_lt hden hx h hpos (Nat.lt_of_not_le hfew)

/-- **Rounding intervals are exact**: the number nearest to a quotient is the one in whose interval
the quotient lies. -/
theorem nearest?_eq_some_iff (hden : 0 < den) (hx : x.negative = false) :
    nearest? num den = some x ↔
      (RoundingInterval.ofBinary64 x).contains (4 * (num * one)) den = true := by
  rw [RoundingInterval.contains_ofBinary64]
  exact ⟨inside_of_nearest? hden, nearest?_of_inside hden hx⟩

/-- What lies between two quotients that are rounded to a number is rounded to it, too. -/
theorem nearest?_of_between {low mid high : Nat} (hden : 0 < den) (hlow : nearest? low den = some x)
    (hhigh : nearest? high den = some x) (hle : low ≤ mid) (hle' : mid ≤ high) :
    nearest? mid den = some x := by
  have hmul : low * one ≤ mid * one := Nat.mul_le_mul_right one hle
  have hmul' : mid * one ≤ high * one := Nat.mul_le_mul_right one hle'
  obtain ⟨hbelow, -, hodd⟩ := inside_of_nearest? hden hlow
  obtain ⟨-, habove', hodd'⟩ := inside_of_nearest? hden hhigh
  refine nearest?_of_inside hden (negative_of_nearest? hlow) ⟨by omega, by omega, fun h => ?_⟩
  have hstrict := hodd h
  have hstrict' := hodd' h
  omega

end Nearest

end Binary64

end LiveConfig
