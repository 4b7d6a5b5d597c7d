import LiveConfig.Number.Reading

/-!
Numbers of JSON: integers that fit 64 bits, with or without sign, are held as such, every other
number as the nearest binary64 number.
-/

namespace LiveConfig

namespace Json

/-- A JSON number. -/
inductive Number where
  /-- An integer of 64 bits, signed or unsigned. -/
  | int (value : Int) (inRange : -(2 ^ 63) ≤ value ∧ value < 2 ^ 64)
  /-- Any other number. -/
  | real (value : Binary64)
deriving DecidableEq

namespace Number

theorem inRange_natCast {n : Nat} (h : n < 2 ^ 64) :
    -(2 ^ 63) ≤ (n : Int) ∧ (n : Int) < 2 ^ 64 := by
  omega

theorem inRange_neg_natCast {n : Nat} (h : n ≤ 2 ^ 63) :
    -(2 ^ 63) ≤ -(n : Int) ∧ -(n : Int) < 2 ^ 64 := by
  omega

/-- The integer, if it fits 64 bits with a sign. -/
def asSigned? : Number → Option Int
  | .int i _ => if i ≤ maxInt64 then some i else none
  | .real _ => none

/-- The integer, if it fits 64 bits without a sign. -/
def asUnsigned? : Number → Option Int
  | .int i _ => if 0 ≤ i then some i else none
  | .real _ => none

/-- The nearest binary64 number. -/
def toBinary64 : Number → Binary64
  | .int i _ => (Binary64.ofInt? i).getD .zero
  | .real x => x

/-- Equality of numbers: of integers exactly where both fit the same 64 bits, of the nearest
binary64 numbers otherwise. -/
def sameValue (a b : Number) : Bool :=
  match a.asSigned?, b.asSigned? with
  | some i, some j => i == j
  | _, _ =>
    match a.asUnsigned?, b.asUnsigned? with
    | some i, some j => i == j
    | _, _ => a.toBinary64.sameValue b.toBinary64

/-- How JSON writes a number that is not an integer of 64 bits: without an exponent between
`1e-5` and `1e16`, and always with a point or an exponent. -/
def realNotation : RealNotation := ⟨.toEven, some (-5, 15), true⟩

/-- The JSON text. -/
def write : Number → String
  | .int i _ => toString i
  | .real x => realNotation.write x

end Number

end Json

end LiveConfig
