import LiveConfig.Toml.Word

/-!
Numbers, dates and times of TOML.
-/

namespace LiveConfig.Toml

/-! ### Numbers -/

/-- Digits, between which there may be single underscores; they come out without these. -/
def takeGrouped (isDigit : Char → Bool) : List Char → List Char × List Char
  | [] => ([], [])
  | c :: r =>
    if isDigit c then
      match r with
      | '_' :: d :: r' =>
        if isDigit d then
          let (ds, r) := takeGrouped isDigit (d :: r')
          (c :: ds, r)
        else ([c], r)
      | r =>
        let (ds, r) := takeGrouped isDigit r
        (c :: ds, r)
    else ([], c :: r)

/-- At least one digit. -/
def takeSomeGrouped (isDigit : Char → Bool) (cs : List Char) : Option (List Char × List Char) :=
  match takeGrouped isDigit cs with
  | ([], _) => none
  | (ds, r) => some (ds, r)

/-- The digits of a decimal integer: none but zero begins with a zero. -/
def takeDecimal (cs : List Char) : Option (List Char × List Char) :=
  match cs with
  | '0' :: r => some (['0'], r)
  | cs => takeSomeGrouped Char.isDigit cs

/-- An exponent after its letter. -/
def takeExponent (cs : List Char) : Option (Int × List Char) := do
  let (minus, r) := takeSign cs
  let (ds, r) ← takeSomeGrouped Char.isDigit r
  return (if minus then -(digitsValue ds : Int) else digitsValue ds, r)

/-- An exponent, if there is one. -/
def takeOptionalExponent : List Char → Option (Option Int × List Char)
  | c :: r =>
    if c = 'e' ∨ c = 'E' then (takeExponent r).map fun (e, r) => (some e, r)
    else some (none, c :: r)
  | [] => some (none, [])

/-- The value of a real number.  One that is too great is none. -/
def real? (negative : Bool) (digits : List Char) (exponent : Int) : Option Toml :=
  match Binary64Result.ofDecimal negative (digitsValue digits) exponent with
  | .infinite false => none
  | x => some (.real x)

/-- An integer of 64 bits. -/
def int? (negative : Bool) (n : Nat) : Option Toml :=
  let i : Int := if negative then -n else n
  if minInt64 ≤ i ∧ i ≤ maxInt64 then some (.int i) else none

/-- What follows the digits in front of the point. -/
def afterWhole (negative : Bool) (whole : List Char) (cs : List Char) : Option (Toml × List Char) :=
  match cs with
  | '.' :: r => do
    let (fraction, r) ← takeSomeGrouped Char.isDigit r
    let (e, r) ← takeOptionalExponent r
    let x ← real? negative (whole ++ fraction) (e.getD 0 - fraction.length)
    return (x, r)
  | cs => do
    let (e, r) ← takeOptionalExponent cs
    match e with
    | some e => return (← real? negative whole e, r)
    | none => return (← int? negative (digitsValue whole), r)

/-- An integer in another base, after its mark. -/
def takeInBase (base : Nat) (cs : List Char) : Option (Toml × List Char) := do
  let isDigit := fun (c : Char) => (hexValue? [c]).any (· < base)
  let (ds, r) ← takeSomeGrouped isDigit cs
  let n := ds.foldl (fun n c => n * base + (hexValue? [c]).getD 0) 0
  return (← int? false n, r)

/-- A number. -/
def takeNumber (cs : List Char) : Option (Toml × List Char) :=
  match cs with
  | '0' :: 'x' :: r => takeInBase 16 r
  | '0' :: 'o' :: r => takeInBase 8 r
  | '0' :: 'b' :: r => takeInBase 2 r
  | cs =>
    let (minus, r) := takeSign cs
    match r with
    | 'i' :: 'n' :: 'f' :: r => some (.real (.infinite minus), r)
    | 'n' :: 'a' :: 'n' :: r => some (.real .notANumber, r)
    | r => do
      let (whole, r) ← takeDecimal r
      afterWhole minus whole r

/-! ### Dates and times -/

/-- A number of exactly `count` digits. -/
def takeExactly (count : Nat) (cs : List Char) : Option (Nat × List Char) :=
  let ds := cs.take count
  if ds.length = count ∧ ds.all Char.isDigit then some (digitsValue ds, cs.drop count) else none

/-- Pass over a character. -/
def expectChar (c : Char) : List Char → Option (List Char)
  | d :: r => if c = d then some r else none
  | [] => none

/-- The number of days in a month. -/
def daysInMonth (year month : Nat) : Nat :=
  if month = 2 then
    if year % 4 = 0 ∧ (year % 100 ≠ 0 ∨ year % 400 = 0) then 29 else 28
  else if [4, 6, 9, 11].contains month then 30
  else 31

/-- Pass over a date. -/
def skipDate (cs : List Char) : Option (List Char) := do
  let (year, r) ← takeExactly 4 cs
  let (month, r) ← takeExactly 2 (← expectChar '-' r)
  let (day, r) ← takeExactly 2 (← expectChar '-' r)
  if 1 ≤ month ∧ month ≤ 12 ∧ 1 ≤ day ∧ day ≤ daysInMonth year month then return r else none

/-- Pass over a time of day. -/
def skipTime (cs : List Char) : Option (List Char) := do
  let (hour, r) ← takeExactly 2 cs
  let (minute, r) ← takeExactly 2 (← expectChar ':' r)
  let (second, r) ← takeExactly 2 (← expectChar ':' r)
  if hour < 24 ∧ minute < 60 ∧ second ≤ 60 then
    match r with
    | '.' :: r => if (takeDigits r).1.isEmpty then none else return (takeDigits r).2
    | r => return r
  else none

/-- Pass over the distance from universal time, if it is given. -/
def skipOffset (cs : List Char) : Option (List Char) :=
  match cs with
  | [] => some []
  | c :: r =>
    if c = 'Z' ∨ c = 'z' then some r
    else if c = '+' ∨ c = '-' then do
      let (hour, r) ← takeExactly 2 r
      let (minute, r) ← takeExactly 2 (← expectChar ':' r)
      if hour < 24 ∧ minute < 60 then return r else none
    else some (c :: r)

/-- Whether a text begins like a date. -/
def startsDate (cs : List Char) : Bool := ((takeExactly 4 cs).bind (expectChar '-' ·.2)).isSome

/-- Whether a text begins like a time of day. -/
def startsTime (cs : List Char) : Bool := ((takeExactly 2 cs).bind (expectChar ':' ·.2)).isSome

/-- A date with or without a time of day. -/
def takeDate (cs : List Char) : Option (Toml × List Char) := do
  let r ← skipDate cs
  match r with
  | c :: t =>
    if (c = 'T' ∨ c = 't' ∨ c = ' ') ∧ startsTime t then
      return (.moment, ← skipOffset (← skipTime t))
    else return (.moment, r)
  | [] => return (.moment, [])

/-- A number, a date or a time of day. -/
def takeNumberOrDate (cs : List Char) : Option (Toml × List Char) :=
  if startsDate cs then takeDate cs
  else if startsTime cs then (skipTime cs).map fun r => (.moment, r)
  else takeNumber cs

end LiveConfig.Toml
