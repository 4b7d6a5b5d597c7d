/-!
Finite numbers of the binary64 format, held exactly.

A number is a sign and a count of units, the unit being `2 ^ (-1074)`, the smallest positive
number of the format.  All arithmetic is on natural numbers: a result is the exact quotient of two
of them, and `nearest?` is the one place where it is rounded.
-/

-- A power is that of core, whatever other powers a library brings along.
attribute [default_instance 20000] instPowNat

namespace LiveConfig

/-- A finite binary64 number: `mantissa * 2 ^ shift` units of `2 ^ (-1074)`, with a sign.  Every
number has one such form, except that zero has two signs. -/
structure Binary64 where
  negative : Bool
  mantissa : Nat
  shift : Nat
  mantissa_lt : mantissa < 2 ^ 53
  normal : 2 ^ 52 ≤ mantissa ∨ shift = 0
  shift_le : shift ≤ 2045
deriving DecidableEq

namespace Binary64

/-- How many units make one. -/
def one : Nat := 2 ^ 1074

/-- The magnitude, in units. -/
def units (x : Binary64) : Nat := x.mantissa <<< x.shift

/-- The exact value, in units. -/
def signedUnits (x : Binary64) : Int := if x.negative then -(x.units : Int) else x.units

/-- Zero, without a sign. -/
def zero : Binary64 := ⟨false, 0, 0, by decide, .inr rfl, by decide⟩

/-- The number of the other sign. -/
def neg (x : Binary64) : Binary64 := { x with negative := !x.negative }

instance : Neg Binary64 := ⟨neg⟩

/-- Equality of values: the two zeros are equal. -/
def sameValue (x y : Binary64) : Bool := x.signedUnits == y.signedUnits

/-! ### Rounding -/

/-- The natural number nearest to `num / den`; of two nearest ones the even one. -/
def roundHalfEven (num den : Nat) : Nat :=
  let q := num / den
  let r := num % den
  if 2 * r < den then q
  else if den < 2 * r then q + 1
  else if q % 2 = 0 then q else q + 1

/-- The non-negative number of the format nearest to `num / den`, ties to the even mantissa;
`none` if it is beyond the largest finite number. -/
def nearest? (num den : Nat) : Option Binary64 :=
  let n := num * one
  let t := n / den
  let s := if t < 2 ^ 53 then 0 else t.log2 - 52
  let m := roundHalfEven n (den <<< s)
  if h : m < 2 ^ 53 ∧ (2 ^ 52 ≤ m ∨ s = 0) ∧ s ≤ 2045 then
    some ⟨false, m, s, h.1, h.2.1, h.2.2⟩
  else if h : s + 1 ≤ 2045 then
    some ⟨false, 2 ^ 52, s + 1, by decide, .inl (Nat.le_refl _), h⟩
  else none

/-- The number nearest to an integer. -/
def ofInt? (i : Int) : Option Binary64 :=
  (nearest? i.natAbs 1).map fun x => if i < 0 then -x else x

/-- The rounded product of the magnitudes. -/
def mul? (x y : Binary64) : Option Binary64 := nearest? (x.units * y.units) (one * one)

/-- The rounded quotient of the magnitudes. -/
def div? (x y : Binary64) : Option Binary64 := nearest? x.units y.units

/-- The number nearest to `10 ^ k`. -/
def powerOfTen? (k : Nat) : Option Binary64 := nearest? (Nat.pow 10 k) 1

/-! ### Integers among the numbers -/

/-- The number as an integer, if it is one. -/
def toInt? (x : Binary64) : Option Int :=
  if x.units % one = 0 then
    let n : Int := (x.units / one : Nat)
    some (if x.negative then -n else n)
  else none

end Binary64

/-- A binary64 result that may also be an infinity or not a number. -/
inductive Binary64Result where
  | finite (x : Binary64)
  | infinite (negative : Bool)
  | notANumber
deriving DecidableEq

end LiveConfig
