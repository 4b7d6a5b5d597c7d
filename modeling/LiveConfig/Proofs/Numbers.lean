import LiveConfig.Proofs.Rounding
import Mathlib.Data.Rat.Cast.Order

/-!
Numbers of JSON as exact values, and which of them agree.

Two integers agree just if they are equal; a number that is no integer of 64 bits is compared with
others by the nearest binary64 numbers.  So numbers of the same value always agree, and numbers that
agree have the same value unless one of them has to be rounded.
-/

namespace LiveConfig.Json.Number

/-- The exact value. -/
def value : Number → ℚ
  | .int i _ => i
  | .real x => x.signedUnits / Binary64.one

/-- The value of the nearest binary64 number. -/
def rounded (n : Number) : ℚ := (Number.real n.toBinary64).value

/-- The number is not rounded. -/
def IsExact (n : Number) : Prop := n.rounded = n.value

/-- How numbers are compared: two integers exactly, all others after rounding. -/
def Agree : Number → Number → Prop
  | .int i _, .int j _ => i = j
  | m, n => m.rounded = n.rounded

section Exact

variable {i : Int} {h : -(2 ^ 63) ≤ i ∧ i < 2 ^ 64} {x y : Binary64}

theorem value_real_eq_iff :
    (Number.real x).value = (Number.real y).value ↔ x.signedUnits = y.signedUnits := by
  have hone : (Binary64.one : ℚ) ≠ 0 := by exact_mod_cast Binary64.one_pos.ne'
  simp only [value]
  rw [div_left_inj' hone, Int.cast_inj]

theorem value_int_eq_real_iff :
    (Number.int i h).value = (Number.real x).value ↔ x.signedUnits = i * Binary64.one := by
  have hone : (Binary64.one : ℚ) ≠ 0 := by exact_mod_cast Binary64.one_pos.ne'
  simp only [value]
  rw [eq_div_iff hone, eq_comm]
  exact_mod_cast Iff.rfl

theorem isExact_real (x : Binary64) : (Number.real x).IsExact := rfl

theorem toBinary64_int : (Number.int i h).toBinary64 = (Binary64.ofInt? i).getD .zero := rfl

theorem isExact_of_ofInt? (hx : Binary64.ofInt? i = some x)
    (hval : x.signedUnits = i * Binary64.one) : (Number.int i h).IsExact := by
  unfold IsExact rounded
  rw [eq_comm, value_int_eq_real_iff, toBinary64_int, hx, Option.getD_some, hval]

/-- Integers of no more than 53 bits are exact. -/
theorem isExact_of_natAbs_lt (hi : i.natAbs < 2 ^ 53) : (Number.int i h).IsExact := by
  obtain ⟨z, hz, hval⟩ := Binary64.exists_ofInt?_of_natAbs_lt hi
  exact isExact_of_ofInt? hz hval

/-- An integer that some number of the format has as its value is exact. -/
theorem isExact_of_value_eq (hx : (Number.int i h).value = (Number.real x).value) :
    (Number.int i h).IsExact := by
  obtain ⟨z, hz, hval⟩ := Binary64.exists_ofInt?_of_signedUnits (value_int_eq_real_iff.mp hx)
  exact isExact_of_ofInt? hz hval

end Exact

/-! ### Comparing numbers -/

section Compare

variable {i j : Int} {hi : -(2 ^ 63) ≤ i ∧ i < 2 ^ 64} {hj : -(2 ^ 63) ≤ j ∧ j < 2 ^ 64}
  {m n : Number}

/-- Integers of different signs have different values even if they are rounded. -/
theorem signedUnits_toBinary64_lt (hneg : i < 0) (hpos : 0 < j) :
    (Number.int i hi).toBinary64.signedUnits < (Number.int j hj).toBinary64.signedUnits := by
  obtain ⟨z, hz, hzpos⟩ := Binary64.exists_ofInt?_of_pos hpos hj.2
  rw [toBinary64_int, toBinary64_int, hz, Option.getD_some]
  cases hy : Binary64.ofInt? i with
  | none => exact hzpos
  | some y => exact (Binary64.signedUnits_nonpos_of_neg hneg hy).trans_lt hzpos

theorem sameValue_int : (Number.int i hi).sameValue (Number.int j hj) =
      if i ≤ maxInt64 ∧ j ≤ maxInt64 ∨ 0 ≤ i ∧ 0 ≤ j then i == j
      else (Number.int i hi).toBinary64.sameValue (Number.int j hj).toBinary64 := by
  unfold sameValue asSigned? asUnsigned?
  by_cases h1 : i ≤ maxInt64 <;> by_cases h2 : j ≤ maxInt64 <;>
    by_cases h3 : 0 ≤ i <;> by_cases h4 : 0 ≤ j <;> simp [h1, h2, h3, h4]

theorem sameValue_int_iff : (Number.int i hi).sameValue (Number.int j hj) = true ↔ i = j := by
  rw [sameValue_int]
  split
  · exact beq_iff_eq
  · -- One of them is negative and the other one beyond the signed range.
    have hmax : maxInt64 = 2 ^ 63 - 1 := rfl
    rw [Binary64.sameValue, beq_iff_eq]
    rcases (by omega : i < 0 ∧ 0 < j ∨ j < 0 ∧ 0 < i) with ⟨hneg, hpos⟩ | ⟨hneg, hpos⟩
    · exact iff_of_false (signedUnits_toBinary64_lt hneg hpos).ne (by omega)
    · exact iff_of_false (signedUnits_toBinary64_lt hneg hpos).ne' (by omega)

theorem sameValue_iff : m.sameValue n = true ↔ m.Agree n := by
  have hround : m.toBinary64.sameValue n.toBinary64 = true ↔ m.rounded = n.rounded := by
    rw [Binary64.sameValue, beq_iff_eq, rounded, rounded, value_real_eq_iff]
  rcases m with ⟨i, hi⟩ | x <;> rcases n with ⟨j, hj⟩ | y
  · exact sameValue_int_iff
  all_goals exact Iff.trans (by simp [sameValue, asSigned?, asUnsigned?]) hround

theorem Agree.refl (n : Number) : n.Agree n := by
  cases n <;> rfl

theorem Agree.symm (h : m.Agree n) : n.Agree m := by
  rcases m with ⟨i, hi⟩ | x <;> rcases n with ⟨j, hj⟩ | y <;> exact Eq.symm h

theorem Agree.rounded_eq (h : m.Agree n) : m.rounded = n.rounded := by
  rcases m with ⟨i, hi⟩ | x <;> rcases n with ⟨j, hj⟩ | y
  · obtain rfl : i = j := h
    rfl
  all_goals exact h

/-- Numbers with the same value agree, whatever is rounded. -/
theorem Agree.of_value_eq (h : m.value = n.value) : m.Agree n := by
  rcases m with ⟨i, hi⟩ | x <;> rcases n with ⟨j, hj⟩ | y
  · exact Int.cast_inj.mp h
  · exact (isExact_of_value_eq h).trans h
  · exact h.trans (isExact_of_value_eq h.symm).symm
  · exact h

end Compare

end LiveConfig.Json.Number
