import LiveConfig.Number.Shortest

/-!
Numbers written as plain text: integers of 64 bits, and decimals rounded to the nearest binary64
number.  Neither allows blanks.
-/

namespace LiveConfig

/-- The digits at the front of a text and what follows them. -/
def takeDigits (cs : List Char) : List Char × List Char :=
  (cs.takeWhile Char.isDigit, cs.dropWhile Char.isDigit)

/-- The number that decimal digits stand for. -/
def digitsValue (ds : List Char) : Nat := ds.foldl (fun n c => 10 * n + (c.toNat - '0'.toNat)) 0

/-- An optional sign (`true` for minus) and what follows it. -/
def takeSign : List Char → Bool × List Char
  | '-' :: r => (true, r)
  | '+' :: r => (false, r)
  | r => (false, r)

/-- The least integer of 64 bits. -/
def minInt64 : Int := -(2 ^ 63)

/-- The greatest integer of 64 bits. -/
def maxInt64 : Int := 2 ^ 63 - 1

/-- An optional sign and at least one digit, within 64 bits. -/
def readInt? (text : String) : Option Int :=
  let (minus, r) := takeSign text.toList
  match takeDigits r with
  | ([], _) => none
  | (ds, []) =>
    let n : Int := digitsValue ds
    let i := if minus then -n else n
    if minInt64 ≤ i ∧ i ≤ maxInt64 then some i else none
  | (_, _ :: _) => none

namespace Binary64Result

/-- The result nearest to `± digits * 10 ^ exponent`.  Far out of range the power is not formed. -/
def ofDecimal (negative : Bool) (digits : Nat) (exponent : Int) : Binary64Result :=
  let signed := fun x : Binary64 => finite (if negative then -x else x)
  let leading := (Decimal.length digits : Int) + exponent
  if digits = 0 ∨ leading < -330 then signed .zero
  else if 310 < leading then infinite negative
  else
    match Binary64.nearest? (digits * Nat.pow 10 exponent.toNat) (Nat.pow 10 (-exponent).toNat) with
    | some x => signed x
    | none => infinite negative

/-- The names of the results that are no numbers, in small letters. -/
def named? (negative : Bool) (name : String) : Option Binary64Result :=
  if name = "inf" ∨ name = "infinity" then some (infinite negative)
  else if name = "nan" then some notANumber
  else none

/-- An exponent: a sign, which may be missing, and digits to the end; no text at all stands for
zero. -/
def readExponent? : List Char → Option Int
  | [] => some 0
  | e :: r =>
    if e = 'e' ∨ e = 'E' then
      let (minus, r) := takeSign r
      match takeDigits r with
      | ([], _) => none
      | (ds, []) => some (if minus then -(digitsValue ds : Int) else digitsValue ds)
      | (_, _ :: _) => none
    else none

/-- A decimal with optional sign, point and exponent and at least one digit before the exponent, or
one of the names `inf`, `infinity` and `nan` in any case. -/
def read? (text : String) : Option Binary64Result :=
  let (negative, r) := takeSign text.toList
  match named? negative (String.ofList (r.map Char.toLower)) with
  | some x => some x
  | none =>
    let (whole, r) := takeDigits r
    let (fraction, r) := match r with
      | '.' :: r => takeDigits r
      | r => ([], r)
    if whole.isEmpty && fraction.isEmpty then none
    else do
      let e ← readExponent? r
      return ofDecimal negative (digitsValue (whole ++ fraction)) (e - fraction.length)

end Binary64Result

end LiveConfig
