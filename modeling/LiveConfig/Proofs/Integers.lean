import LiveConfig.Convert
import LiveConfig.Proofs.Numbers

/-!
Numbers of documents as integers.

An integer of 64 bits with a sign is taken as it stands; every other number goes by way of its
nearest binary64 number, which has to be whole and between the limits as they are rounded.  Rounding
moves the upper limit, and numbers beyond it, but none of them across it.  Main statement:
`toInt_is_exact`, a value is an integer just if it is a number with the exact value of one.
-/

namespace LiveConfig

/-! ### Whole numbers of the format -/

/-- **A number is whole** just if its units make whole ones. -/
theorem Binary64.toInt?_eq_some_iff {x : Binary64} {i : Int} :
    x.toInt? = some i ↔ x.signedUnits = i * one := by
  have hone : (0 : Int) < one := by exact_mod_cast one_pos
  unfold toInt?
  by_cases hwhole : x.units % one = 0
  · have hunits : (x.units : Int) = (x.units / one : Nat) * one := by
      exact_mod_cast (Nat.div_mul_cancel (Nat.dvd_of_mod_eq_zero hwhole)).symm
    have hsigned : x.signedUnits =
        (if x.negative then -(x.units / one : Nat) else (x.units / one : Nat) : Int) * one := by
      unfold signedUnits
      split
      · rw [hunits, Int.neg_mul]
      · exact hunits
    rw [if_pos hwhole, Option.some.injEq, hsigned]
    exact (Int.mul_eq_mul_right_iff hone.ne').symm
  · rw [if_neg hwhole]
    refine iff_of_false (by simp) fun h => hwhole ?_
    rw [← natAbs_signedUnits, h, Int.natAbs_mul, Int.natAbs_natCast, Nat.mul_mod_left]

namespace Json

namespace Number

theorem value_real_eq_intCast_iff {x : Binary64} {i : Int} :
    (Number.real x).value = i ↔ x.signedUnits = i * Binary64.one := by
  have hone : (Binary64.one : ℚ) ≠ 0 := by exact_mod_cast Binary64.one_pos.ne'
  simp only [value]
  rw [div_eq_iff hone]
  exact_mod_cast Iff.rfl

/-! ### The limits -/

/-- The lower limit is a number of the format. -/
theorem signedUnits_limit_min : (limit minInt64).signedUnits = minInt64 * Binary64.one := by
  decide +kernel

/-- **The upper limit is none**, and is rounded to the integer after it. -/
theorem signedUnits_limit_max : (limit maxInt64).signedUnits = (maxInt64 + 1) * Binary64.one := by
  decide +kernel

/-- Nothing beyond the upper limit is rounded to below of where that is rounded to. -/
theorem signedUnits_limit_max_le {i : Int} {h : -(2 ^ 63) ≤ i ∧ i < 2 ^ 64} (hi : maxInt64 < i) :
    (limit maxInt64).signedUnits ≤ (Number.int i h).toBinary64.signedUnits := by
  have hmax : maxInt64 + 1 = 2 ^ 63 := rfl
  obtain ⟨z, hz, hunits⟩ := Binary64.exists_ofInt?_of_two_pow_le (k := 63) (by omega) h.2
  rw [signedUnits_limit_max, hmax, toBinary64_int, hz]
  exact hunits

section Convert

variable {i j : Int} {h : -(2 ^ 63) ≤ j ∧ j < 2 ^ 64} {x : Binary64} {n : Number}

theorem toInt64?_of_le (hj : j ≤ maxInt64) : (Number.int j h).toInt64? = some j := by
  unfold toInt64? asSigned?
  dsimp only
  rw [if_pos hj]

/-- An integer beyond the upper limit stays beyond it. -/
theorem toInt64?_of_lt (hj : maxInt64 < j) : (Number.int j h).toInt64? = none := by
  unfold toInt64? asSigned?
  dsimp only
  rw [if_neg (not_le.mpr hj), Option.filter_eq_none_iff]
  intro i _ hlimits
  exact absurd (of_decide_eq_true hlimits).2 (not_lt.mpr (signedUnits_limit_max_le hj))

theorem toInt64?_real_eq_some_iff : (Number.real x).toInt64? = some i ↔
    x.signedUnits = i * Binary64.one ∧ minInt64 ≤ i ∧ i ≤ maxInt64 := by
  have hone : (0 : Int) < Binary64.one := by exact_mod_cast Binary64.one_pos
  unfold toInt64? asSigned? toBinary64
  rw [Option.filter_eq_some_iff, decide_eq_true_eq, Binary64.toInt?_eq_some_iff,
    signedUnits_limit_min, signedUnits_limit_max]
  refine and_congr_right fun hunits => ?_
  rw [hunits, Int.mul_le_mul_iff_of_pos_right hone, Int.mul_lt_mul_right hone, Int.lt_add_one_iff]

/-- **The integers among the numbers** are those whose exact value is one of 64 bits. -/
theorem toInt64?_eq_some_iff :
    n.toInt64? = some i ↔ n.value = i ∧ minInt64 ≤ i ∧ i ≤ maxInt64 := by
  cases n with
  | int j h =>
    have hmin : minInt64 ≤ j := h.1
    rw [value, Int.cast_inj]
    by_cases hj : j ≤ maxInt64
    · rw [toInt64?_of_le hj, Option.some.injEq, iff_self_and]
      rintro rfl
      exact ⟨hmin, hj⟩
    · rw [toInt64?_of_lt (not_le.mp hj)]
      exact iff_of_false (by simp) (by omega)
  | real x => rw [toInt64?_real_eq_some_iff, value_real_eq_intCast_iff]

end Convert

end Number

/-- What a document holds as an integer: a number that is one, or the error that tells the value. -/
theorem toInt_cases (path : String) (v : Json) :
    (∃ n i, v = .number n ∧ n.toInt64? = some i ∧ v.toInt path = .ok i) ∨
      (∀ n, v = .number n → n.toInt64? = none) ∧
        v.toInt path = .error (.conversion path Wanted.int v.compact) := by
  cases v with
  | number n =>
    rw [toInt]
    cases hn : n.toInt64? with
    | some i => exact .inl ⟨n, i, rfl, hn, rfl⟩
    | none => exact .inr ⟨by rintro _ ⟨⟩; exact hn, rfl⟩
  | null | bool | text | list | map => exact .inr ⟨by rintro _ ⟨⟩, rfl⟩

/-- **The view as an integer is exact.**  A value is an integer just if it is a number whose exact
value is an integer within 64 bits, and then it is that one; every other value is an error that
tells the value. -/
theorem toInt_is_exact (path : String) (v : Json) :
    (∀ i, v.toInt path = .ok i ↔
      ∃ n, v = .number n ∧ n.value = i ∧ minInt64 ≤ i ∧ i ≤ maxInt64) ∧
    (v.toInt path = .error (.conversion path Wanted.int v.compact) ↔
      ¬ ∃ n, ∃ i : Int, v = .number n ∧ n.value = i ∧ minInt64 ≤ i ∧ i ≤ maxInt64) := by
  simp only [← Number.toInt64?_eq_some_iff]
  rcases toInt_cases path v with ⟨n, i, rfl, hn, hok⟩ | ⟨hnone, herror⟩
  · rw [hok]
    exact ⟨fun j => by simp [hn], by simp [hn]⟩
  · rw [herror]
    refine ⟨fun j => iff_of_false (by simp) ?_, iff_of_true rfl ?_⟩
    · rintro ⟨n, rfl, hn⟩
      simp [hnone n rfl] at hn
    · rintro ⟨n, i, rfl, hn⟩
      simp [hnone n rfl] at hn

end Json

end LiveConfig
