import LiveConfig.Number.Binary64

/-!
The shortest decimal numeral that rounds to a given binary64 number.

A number is read back from every decimal inside its rounding interval: the points nearer to it than
to its neighbours, the ends included when its mantissa is even.  `shortest` tries numerals of one,
two, … digits; at each length only the two numerals around the number can be inside, and the first
length with a hit wins.
-/

namespace LiveConfig

/-- Which of two equally near numerals is taken. -/
inductive Tie where
  | toEven
  | up
deriving DecidableEq

/-- A positive decimal numeral, `digits * 10 ^ exponent`. -/
structure Decimal where
  digits : Nat
  exponent : Int
deriving DecidableEq

namespace Decimal

/-- How many digits a natural number is written with. -/
def length (n : Nat) : Nat := (Nat.toDigits 10 n).length

/-- The numeral without zeros at its end, looking at no more than `fuel` of them. -/
def stripZeros : Nat → Decimal → Decimal
  | 0, d => d
  | fuel + 1, d =>
    if d.digits ≠ 0 ∧ d.digits % 10 = 0 then stripZeros fuel ⟨d.digits / 10, d.exponent + 1⟩ else d

/-- The exponent of the first digit. -/
def leading (d : Decimal) : Int := d.exponent + (length d.digits : Int) - 1

end Decimal

/-- The rounding interval of a positive number, all three points in quarters of a unit. -/
structure RoundingInterval where
  low : Nat
  point : Nat
  high : Nat
  /-- Whether the ends belong to it. -/
  closed : Bool

namespace RoundingInterval

/-- The interval of a number.  Below a power of two the neighbour is only half as far. -/
def ofBinary64 (x : Binary64) : RoundingInterval :=
  let w := 1 <<< x.shift
  let below := if x.mantissa = 2 ^ 52 ∧ 0 < x.shift then 1 else 2
  { low := (4 * x.mantissa - below) * w
    point := 4 * x.mantissa * w
    high := (4 * x.mantissa + 2) * w
    closed := x.mantissa % 2 = 0 }

/-- Quarters of a unit in one. -/
def one : Nat := 4 * Binary64.one

/-- Whether `num / den` quarters lie inside. -/
def contains (i : RoundingInterval) (num den : Nat) : Bool :=
  if i.closed then i.low * den ≤ num && num ≤ i.high * den
  else i.low * den < num && num < i.high * den

/-- The exponent of the first decimal digit of the point. -/
def leading (i : RoundingInterval) : Int :=
  (Decimal.length (i.point * 10 ^ 400 / one) : Int) - 401

/-- The numeral with `n` digits in the interval that is nearest to the point, if there is one. -/
def numeral? (i : RoundingInterval) (tie : Tie) (n : Nat) : Option Decimal :=
  let k : Int := i.leading - n + 1
  let num := i.point * Nat.pow 10 (-k).toNat
  let den := one * Nat.pow 10 k.toNat
  let q := num / den
  let r := num % den
  let inside := fun c => i.contains (c * den) (Nat.pow 10 (-k).toNat)
  match inside q, inside (q + 1) with
  | true, true =>
    if 2 * r < den then some ⟨q, k⟩
    else if den < 2 * r then some ⟨q + 1, k⟩
    else match tie with
      | .up => some ⟨q + 1, k⟩
      | .toEven => if q % 2 = 0 then some ⟨q, k⟩ else some ⟨q + 1, k⟩
  | true, false => some ⟨q, k⟩
  | false, true => some ⟨q + 1, k⟩
  | false, false => none

end RoundingInterval

/-- The shortest numeral that rounds to the magnitude of `x`, which is not zero.  Seventeen digits
are always enough. -/
def Binary64.shortest (x : Binary64) (tie : Tie) : Decimal :=
  let i := RoundingInterval.ofBinary64 x
  let hit := (List.range 17).findSome? fun n => i.numeral? tie (n + 1)
  (hit.getD ⟨0, 0⟩).stripZeros 20

/-! ### Writing a number -/

/-- How numbers are written. -/
structure RealNotation where
  /-- The numeral taken of two equally near ones. -/
  tie : Tie
  /-- The exponents of the first digit between which no exponent is written; `none` if none ever is.
  -/
  plain : Option (Int × Int)
  /-- Whether a number without a fraction ends in `.0` where no exponent is written. -/
  pointZero : Bool

namespace RealNotation

/-- The digits with a point and without an exponent. -/
def positional (f : RealNotation) (d : Decimal) : String :=
  let ds := Nat.toDigits 10 d.digits
  let e := d.leading
  let n : Int := ds.length
  if n - 1 ≤ e then
    String.ofList (ds ++ List.replicate (e - n + 1).toNat '0') ++ (if f.pointZero then ".0" else "")
  else if 0 ≤ e then
    let k := (e + 1).toNat
    String.ofList (ds.take k ++ '.' :: ds.drop k)
  else
    "0." ++ String.ofList (List.replicate (-e - 1).toNat '0' ++ ds)

/-- The digits with a point after the first one and the exponent, which has a sign. -/
def scientific (d : Decimal) : String :=
  let ds := Nat.toDigits 10 d.digits
  let e := d.leading
  let fraction := if ds.length ≤ 1 then "" else "." ++ String.ofList (ds.drop 1)
  let sign := if e < 0 then "-" else "+"
  String.ofList (ds.take 1) ++ fraction ++ "e" ++ sign ++ toString e.natAbs

/-- The magnitude of a number. -/
def magnitude (f : RealNotation) (x : Binary64) : String :=
  if x.mantissa = 0 then (if f.pointZero then "0.0" else "0")
  else
    let d := x.shortest f.tie
    match f.plain with
    | none => f.positional d
    | some (lo, hi) => if lo ≤ d.leading ∧ d.leading ≤ hi then f.positional d else scientific d

/-- The text of a number; zero keeps its sign. -/
def write (f : RealNotation) (x : Binary64) : String :=
  (if x.negative then "-" else "") ++ f.magnitude x

end RealNotation

/-- Plain decimals: never an exponent, no point unless there is a fraction. -/
def plainReal : RealNotation := ⟨.up, none, false⟩

/-- The text of a result as a plain decimal. -/
def Binary64Result.text : Binary64Result → String
  | .finite x => plainReal.write x
  | .infinite true => "-inf"
  | .infinite false => "inf"
  | .notANumber => "NaN"

end LiveConfig
