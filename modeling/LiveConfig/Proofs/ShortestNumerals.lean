import LiveConfig.Proofs.RoundingIntervals
import Mathlib.Data.Nat.Digits.Defs

/-!
The shortest numeral of a whole number.

A numeral of so many digits is followed by as many zeros as the number is longer.  The search tries
one digit, two digits and so on, each time the two numerals around the number, and takes one that is
rounded to the number.  `IsNumeralOf` says which integers are.  Main statement:
`exists_shortest_of_whole`, the result is such an integer, and it is the number itself unless one of
them ends in more zeros.
-/

namespace LiveConfig

/-! ### Lengths -/

theorem Decimal.length_le_iff {n k : Nat} (hk : 0 < k) : length n ≤ k ↔ n < 10 ^ k :=
  Nat.length_toDigits_le_iff (by decide) hk

theorem Decimal.length_pos (n : Nat) : 0 < length n := Nat.length_toDigits_pos

theorem Decimal.lt_pow_length (n : Nat) : n < 10 ^ length n :=
  (length_le_iff (length_pos n)).mp le_rfl

theorem Decimal.pow_le_of_lt_length {n k : Nat} (hn : 0 < n) (h : k < length n) : 10 ^ k ≤ n := by
  cases k with
  | zero => exact hn
  | succ k =>
    by_contra hlt
    have hle := (length_le_iff (Nat.succ_pos k)).mpr (Nat.lt_of_not_le hlt)
    omega

theorem Decimal.length_mul_pow {n : Nat} (hn : 0 < n) (k : Nat) :
    length (n * 10 ^ k) = length n + k := by
  have hpow : 0 < 10 ^ k := Nat.pow_pos (by decide)
  have hlen := length_pos n
  refine Nat.le_antisymm ?_ ?_
  · rw [length_le_iff (by omega), Nat.pow_add]
    exact Nat.mul_lt_mul_of_pos_right (lt_pow_length n) hpow
  · by_contra hlt
    have hlt' : n * 10 ^ k < 10 ^ (length n - 1 + k) := by
      rcases Nat.eq_zero_or_pos (length n - 1 + k) with hzero | hpos
      · have := length_pos (n * 10 ^ k)
        omega
      · exact (length_le_iff hpos).mp (by omega)
    rw [Nat.pow_add] at hlt'
    exact absurd (Nat.mul_le_mul_right (10 ^ k) (pow_le_of_lt_length hn (by omega)))
      (Nat.not_le_of_lt hlt')

namespace Binary64

/-- The number without its sign. -/
def abs (x : Binary64) : Binary64 := { x with negative := false }

@[simp] theorem abs_mantissa (x : Binary64) : x.abs.mantissa = x.mantissa := rfl

@[simp] theorem abs_shift (x : Binary64) : x.abs.shift = x.shift := rfl

@[simp] theorem abs_units (x : Binary64) : x.abs.units = x.units := rfl

/-- An integer that is rounded to a number of either sign. -/
def IsNumeralOf (n : Nat) (x : Binary64) : Prop := nearest? n 1 = some x.abs

section Whole

variable {x : Binary64} {v : Nat}

theorem isNumeralOf_iff {n : Nat} : IsNumeralOf n x ↔
    (RoundingInterval.ofBinary64 x).contains (4 * (n * one)) 1 = true :=
  nearest?_eq_some_iff Nat.one_pos rfl

/-- A whole number is rounded to itself. -/
theorem isNumeralOf_self (h : x.units = v * one) : IsNumeralOf v x := by
  have hpos := Nat.two_pow_pos x.shift
  refine nearest?_of_inside Nat.one_pos rfl ?_
  rw [← h, units_eq, abs_shift, Nat.one_mul]
  constructor <;> rw [abs_mantissa]
  · exact Nat.le_add_right ..
  · exact Nat.le_add_right ..
  · intro _
    have hreach : 0 < x.abs.reachBelow * 2 ^ x.shift := by
      rcases x.abs.reachBelow_cases with hr | ⟨hr, -, -⟩ <;> rw [hr] <;> omega
    exact ⟨Nat.lt_add_of_pos_right hreach, by omega⟩

theorem point_of_whole (h : x.units = v * one) :
    (RoundingInterval.ofBinary64 x).point = 4 * (v * one) := by
  rw [← h, units, Nat.shiftLeft_eq]
  show 4 * x.mantissa * 1 <<< x.shift = _
  rw [Nat.shiftLeft_eq]
  ring

theorem leading_of_whole (h : x.units = v * one) (hv : 0 < v) :
    (RoundingInterval.ofBinary64 x).leading = (Decimal.length v : Int) - 1 := by
  unfold RoundingInterval.leading RoundingInterval.one
  have hdiv : ∀ k, 4 * (v * one) * 10 ^ k / (4 * one) = v * 10 ^ k := by
    intro k
    rw [show 4 * (v * one) * 10 ^ k = v * 10 ^ k * (4 * one) by ring]
    exact Nat.mul_div_cancel _ (Nat.mul_pos (by decide) one_pos)
  -- The exponent is kept apart, so that the power is never computed.
  rw [point_of_whole h, show (401 : Int) = (400 : Nat) + 1 from rfl]
  generalize 400 = k
  rw [hdiv, Decimal.length_mul_pow hv]
  omega

section Search

variable {tie : Tie} {n k : Nat} {d : Decimal}

theorem contains_mul_iff {c : Nat} :
    (RoundingInterval.ofBinary64 x).contains (c * (RoundingInterval.one * Nat.pow 10 k)) 1 = true ↔
      IsNumeralOf (c * 10 ^ k) x := by
  rw [isNumeralOf_iff, RoundingInterval.one, Nat.pow_eq,
    show c * (4 * one * 10 ^ k) = 4 * (c * 10 ^ k * one) by ring]

/-- **One length of the search**: of the two numerals around the number one that is rounded to it is
taken, and of both the lower one if it is the number. -/
theorem numeral?_cases (h : x.units = v * one) (hv : 0 < v) (tie : Tie)
    (hn : n + 1 + k = Decimal.length v) :
    ((RoundingInterval.ofBinary64 x).numeral? tie (n + 1) = none ∧
        ¬ IsNumeralOf (v / 10 ^ k * 10 ^ k) x ∧ ¬ IsNumeralOf ((v / 10 ^ k + 1) * 10 ^ k) x) ∨
      ((RoundingInterval.ofBinary64 x).numeral? tie (n + 1) = some ⟨v / 10 ^ k, k⟩ ∧
        IsNumeralOf (v / 10 ^ k * 10 ^ k) x) ∨
      (RoundingInterval.ofBinary64 x).numeral? tie (n + 1) = some ⟨v / 10 ^ k + 1, k⟩ ∧
        IsNumeralOf ((v / 10 ^ k + 1) * 10 ^ k) x ∧
        (10 ^ k ∣ v → ¬ IsNumeralOf (v / 10 ^ k * 10 ^ k) x) := by
  have hk : (RoundingInterval.ofBinary64 x).leading - (n + 1 : Nat) + 1 = k := by
    rw [leading_of_whole h hv]
    omega
  have hone : 0 < RoundingInterval.one := Nat.mul_pos (by decide) one_pos
  have hpoint : (RoundingInterval.ofBinary64 x).point = RoundingInterval.one * v := by
    rw [point_of_whole h, RoundingInterval.one]
    ring
  have hone' : Nat.pow 10 (-(k : Int)).toNat = 1 := by
    rw [show (-(k : Int)).toNat = 0 by omega, Nat.pow_eq, Nat.pow_zero]
  have hdiv : RoundingInterval.one * v / (RoundingInterval.one * Nat.pow 10 k) = v / 10 ^ k :=
    Nat.mul_div_mul_left v _ hone
  have hmod : RoundingInterval.one * v % (RoundingInterval.one * Nat.pow 10 k) =
      RoundingInterval.one * (v % 10 ^ k) := Nat.mul_mod_mul_left ..
  unfold RoundingInterval.numeral?
  simp only [hk, hpoint, hone', Nat.mul_one, hdiv, hmod, Int.toNat_natCast, ← contains_mul_iff]
  cases hlow : (RoundingInterval.ofBinary64 x).contains
      (v / 10 ^ k * (RoundingInterval.one * Nat.pow 10 k)) 1 <;>
    cases hhigh : (RoundingInterval.ofBinary64 x).contains
      ((v / 10 ^ k + 1) * (RoundingInterval.one * Nat.pow 10 k)) 1
  · exact .inl ⟨rfl, by simp, by simp⟩
  · exact .inr (.inr ⟨rfl, rfl, by simp⟩)
  · exact .inr (.inl ⟨rfl, rfl⟩)
  · -- Both are rounded to it: the lower one is taken without comparing if nothing is left over.
    by_cases hdvd : 10 ^ k ∣ v
    · have hden : 0 < RoundingInterval.one * Nat.pow 10 k :=
        Nat.mul_pos hone (Nat.pow_pos (by decide))
      refine .inr (.inl ⟨?_, rfl⟩)
      dsimp only
      rw [Nat.mod_eq_zero_of_dvd hdvd, Nat.mul_zero, Nat.mul_zero, if_pos hden]
    · dsimp only
      split
      · exact .inr (.inl ⟨rfl, rfl⟩)
      · split
        · exact .inr (.inr ⟨rfl, rfl, fun hd => absurd hd hdvd⟩)
        · split
          · exact .inr (.inr ⟨rfl, rfl, fun hd => absurd hd hdvd⟩)
          · split
            · exact .inr (.inl ⟨rfl, rfl⟩)
            · exact .inr (.inr ⟨rfl, rfl, fun hd => absurd hd hdvd⟩)

/-- A length at which some numeral is rounded to the number is a hit. -/
theorem isSome_numeral?_of_isNumeralOf (h : x.units = v * one) (hv : 0 < v) (tie : Tie)
    (hn : n + 1 + k = Decimal.length v) {c : Nat} (hc : IsNumeralOf (c * 10 ^ k) x) :
    ((RoundingInterval.ofBinary64 x).numeral? tie (n + 1)).isSome := by
  rcases numeral?_cases h hv tie hn with ⟨-, hlow, hhigh⟩ | ⟨heq, -⟩ | ⟨heq, -⟩
  · have hself := isNumeralOf_self h
    rcases Nat.lt_or_ge (v / 10 ^ k) c with hlt | hge
    · refine absurd (nearest?_of_between Nat.one_pos hself hc ?_ ?_) hhigh
      · exact (Nat.lt_mul_of_div_lt (Nat.lt_succ_self _) (Nat.pow_pos (by decide))).le
      · exact Nat.mul_le_mul_right _ hlt
    · refine absurd (nearest?_of_between Nat.one_pos hc hself ?_ ?_) hlow
      · exact Nat.mul_le_mul_right _ hge
      · exact Nat.div_mul_le_self v _
  · rw [heq, Option.isSome_some]
  · rw [heq, Option.isSome_some]

end Search

/-- **Seventeen digits are enough**: of the two numerals around the number the nearer one is rounded
to it. -/
theorem exists_isNumeralOf_of_seventeen (h : x.units = v * one) {k : Nat}
    (hk : 10 ^ 16 * 10 ^ k ≤ v) : ∃ c, IsNumeralOf (c * 10 ^ k) x := by
  have hpow : 0 < 10 ^ k := Nat.pow_pos (by decide)
  have hmod : v % 10 ^ k * one ≤ 10 ^ k * one := Nat.mul_le_mul_right one (Nat.mod_lt v hpow).le
  have hplace : 0 < 10 ^ k * one := Nat.mul_pos hpow one_pos
  -- The number, a place of the numerals and the distances to them, counted in units.
  have hunits : x.mantissa * 2 ^ x.shift = v / 10 ^ k * 10 ^ k * one + v % 10 ^ k * one := by
    rw [← units_eq, h, ← Nat.add_mul, Nat.div_add_mod']
  have hfar : 10 ^ 16 * (10 ^ k * one) ≤ x.mantissa * 2 ^ x.shift := by
    rw [← units_eq, h, ← Nat.mul_assoc]
    exact Nat.mul_le_mul_right one hk
  have hsucc : (v / 10 ^ k + 1) * 10 ^ k * one =
      v / 10 ^ k * 10 ^ k * one + 10 ^ k * one := by
    rw [Nat.succ_mul, Nat.add_mul]
  have hbound : x.mantissa * 2 ^ x.shift + 2 ^ x.shift ≤ 2 ^ 53 * 2 ^ x.shift := by
    rw [← Nat.succ_mul]
    exact Nat.mul_le_mul_right _ x.mantissa_lt
  have hreach : 2 * (10 ^ k * one) < x.abs.reachBelow * 2 ^ x.shift := by
    rcases x.abs.reachBelow_cases with hr | ⟨hr, hm, -⟩
    · rw [hr]
      omega
    · rw [hr]
      rw [show x.mantissa = 2 ^ 52 from hm] at hfar
      omega
  have hreach' : x.abs.reachBelow * 2 ^ x.shift ≤ 2 * 2 ^ x.shift :=
    Nat.mul_le_mul_right _ x.abs.reachBelow_le
  rcases Nat.lt_or_ge (10 ^ k) (2 * (v % 10 ^ k)) with hhigh | hlow
  · have hrest : 10 ^ k * one < 2 * (v % 10 ^ k * one) := by
      rw [← Nat.mul_assoc]
      exact Nat.mul_lt_mul_of_pos_right hhigh one_pos
    refine ⟨v / 10 ^ k + 1, nearest?_of_inside Nat.one_pos rfl ?_⟩
    rw [abs_shift, Nat.one_mul, hsucc]
    constructor <;> simp only [abs_mantissa] <;> omega
  · have hrest : 2 * (v % 10 ^ k * one) ≤ 10 ^ k * one := by
      rw [← Nat.mul_assoc]
      exact Nat.mul_le_mul_right one hlow
    refine ⟨v / 10 ^ k, nearest?_of_inside Nat.one_pos rfl ?_⟩
    rw [abs_shift, Nat.one_mul]
    constructor <;> simp only [abs_mantissa] <;> omega

/-- The first hit of a search. -/
theorem exists_first_of_findSome? {α : Type} {f : Nat → Option α} {a : α} :
    ∀ {m : Nat}, (List.range m).findSome? f = some a →
      ∃ n < m, f n = some a ∧ ∀ i < n, f i = none
  | 0, h => by cases h
  | m + 1, h => by
    rw [List.range_succ, List.findSome?_append] at h
    cases hm : (List.range m).findSome? f with
    | some b =>
      rw [hm] at h
      obtain rfl : b = a := Option.some.inj h
      obtain ⟨n, hn, hfirst⟩ := exists_first_of_findSome? hm
      exact ⟨n, Nat.lt_succ_of_lt hn, hfirst⟩
    | none =>
      rw [hm, Option.none_or] at h
      refine ⟨m, Nat.lt_succ_self m, by simpa using h, fun i hi => ?_⟩
      exact List.findSome?_eq_none_iff.mp hm i (List.mem_range.mpr hi)

/-- Some length, which is not longer than the number, is a hit. -/
theorem exists_isSome_numeral? (h : x.units = v * one) (hv : 0 < v) (tie : Tie) :
    ∃ n < 17, n < Decimal.length v ∧
      ((RoundingInterval.ofBinary64 x).numeral? tie (n + 1)).isSome := by
  have hpos := Decimal.length_pos v
  by_cases hlong : 17 < Decimal.length v
  · have hk : 10 ^ 16 * 10 ^ (Decimal.length v - 17) ≤ v := by
      rw [← Nat.pow_add]
      exact Decimal.pow_le_of_lt_length hv (by omega)
    obtain ⟨c, hc⟩ := exists_isNumeralOf_of_seventeen h hk
    exact ⟨16, by decide, by omega, isSome_numeral?_of_isNumeralOf h hv tie (by omega) hc⟩
  · have hself : IsNumeralOf (v * 10 ^ 0) x := by
      rw [Nat.pow_zero, Nat.mul_one]
      exact isNumeralOf_self h
    exact ⟨Decimal.length v - 1, by omega, by omega,
      isSome_numeral?_of_isNumeralOf h hv tie (by omega) hself⟩

/-- **The hit of the search** is a numeral that is rounded to the number.  No other one that is not
longer than the number ends in more zeros, and if the number itself ends in so many, it is the
number. -/
theorem exists_hit_of_whole (h : x.units = v * one) (hv : 0 < v) (tie : Tie) :
    ∃ c k : Nat, ((List.range 17).findSome? fun n =>
        (RoundingInterval.ofBinary64 x).numeral? tie (n + 1)) = some ⟨c, k⟩ ∧
      k < Decimal.length v ∧ IsNumeralOf (c * 10 ^ k) x ∧ (10 ^ k ∣ v → c * 10 ^ k = v) ∧
      ∀ c' k', k' < Decimal.length v → IsNumeralOf (c' * 10 ^ k') x → k' ≤ k := by
  obtain ⟨n, hn, hlength, hsome⟩ := exists_isSome_numeral? h hv tie
  obtain ⟨d, hd⟩ : ∃ d, ((List.range 17).findSome? fun n =>
      (RoundingInterval.ofBinary64 x).numeral? tie (n + 1)) = some d :=
    Option.isSome_iff_exists.mp (List.findSome?_isSome_iff.mpr ⟨n, List.mem_range.mpr hn, hsome⟩)
  obtain ⟨m, hm, hfirst, hnone⟩ := exists_first_of_findSome? hd
  have hle : ∀ i, ((RoundingInterval.ofBinary64 x).numeral? tie (i + 1)).isSome → m ≤ i := by
    intro i hi
    by_contra hlt
    rw [hnone i (Nat.lt_of_not_le hlt)] at hi
    cases hi
  obtain ⟨k, hk⟩ : ∃ k, m + 1 + k = Decimal.length v :=
    ⟨Decimal.length v - (m + 1), by have := hle n hsome; omega⟩
  have hfewest : ∀ c' k', k' < Decimal.length v → IsNumeralOf (c' * 10 ^ k') x → k' ≤ k := by
    intro c' k' hk' hc'
    have := hle (Decimal.length v - k' - 1)
      (isSome_numeral?_of_isNumeralOf h hv tie (by omega) hc')
    omega
  rcases numeral?_cases h hv tie hk with ⟨heq, -⟩ | ⟨heq, hlow⟩ | ⟨heq, hhigh, hself⟩
  · cases hfirst.symm.trans heq
  · obtain rfl := Option.some.inj (hfirst.symm.trans heq)
    exact ⟨_, k, hd, by omega, hlow, Nat.div_mul_cancel, hfewest⟩
  · obtain rfl := Option.some.inj (hfirst.symm.trans heq)
    refine ⟨_, k, hd, by omega, hhigh, fun hdvd => absurd ?_ (hself hdvd), hfewest⟩
    rw [Nat.div_mul_cancel hdvd]
    exact isNumeralOf_self h

end Whole

end Binary64

/-! ### Zeros at the end -/

theorem Decimal.stripZeros_spec (fuel c k : Nat) :
    ∃ c' k' : Nat, stripZeros fuel ⟨c, k⟩ = ⟨c', k'⟩ ∧ c' * 10 ^ k' = c * 10 ^ k := by
  induction fuel generalizing c k with
  | zero => exact ⟨c, k, rfl, rfl⟩
  | succ fuel ih =>
    unfold stripZeros
    split
    · rename_i hzero
      obtain ⟨c', k', heq, hvalue⟩ := ih (c / 10) (k + 1)
      refine ⟨c', k', heq, ?_⟩
      rw [hvalue, Nat.pow_succ, Nat.mul_comm (10 ^ k), ← Nat.mul_assoc,
        Nat.div_mul_cancel (Nat.dvd_of_mod_eq_zero hzero.2)]
    · exact ⟨c, k, rfl, rfl⟩

/-- **The shortest numeral of a whole number** is whole and is rounded to the number.  It is the
number itself just if no other one, as far as it is not longer, ends in more zeros than the number.
-/
theorem Binary64.exists_shortest_of_whole {x : Binary64} {v : Nat} (h : x.units = v * one)
    (hv : 0 < v) (tie : Tie) :
    ∃ c k : Nat, x.shortest tie = ⟨c, k⟩ ∧ IsNumeralOf (c * 10 ^ k) x ∧
      (c * 10 ^ k = v ↔
        ∀ c' k', k' < Decimal.length v → IsNumeralOf (c' * 10 ^ k') x → 10 ^ k' ∣ v) := by
  obtain ⟨c, k, hhit, hk, hc, hself, hfewest⟩ := exists_hit_of_whole h hv tie
  obtain ⟨c', k', hstrip, hvalue⟩ := Decimal.stripZeros_spec 20 c k
  refine ⟨c', k', ?_, hvalue ▸ hc, ?_⟩
  · unfold shortest
    dsimp only
    rw [hhit, Option.getD_some, hstrip]
  · rw [hvalue]
    constructor
    · intro heq e l hl he
      exact heq ▸ Dvd.dvd.mul_left (Nat.pow_dvd_pow 10 (hfewest e l hl he)) c
    · intro hdvd
      exact hself (hdvd c k hk hc)

end LiveConfig
