/-!
Punycode: text in ASCII letters, digits and hyphens.

The ASCII characters come first, then a hyphen if there are any, and then one number for each other
character, in increasing order of the characters.  The number says how far to go on, counting places
within each round through the text, until the character is put in.  Its numeral has digits `a` to
`z` and `0` to `9`, of which those below a threshold end it; the thresholds adapt to the numbers so
far.
-/

namespace LiveConfig.Text.Punycode

/-- How many digits there are. -/
def base : Nat := 36

/-- The least threshold. -/
def tMin : Nat := 1

/-- The greatest threshold. -/
def tMax : Nat := 26

/-- The bias before the first number. -/
def firstBias : Nat := 72

/-- The first character that is not ASCII. -/
def firstPoint : Nat := 0x80

/-- The threshold of a digit; `k` is the base times the number of the digit. -/
def threshold (k bias : Nat) : Nat := max tMin (min tMax (k - bias))

/-- Divide until a number is small; the base is added to `k` each time. -/
def settleBias (k delta : Nat) : Nat :=
  if (base - tMin) * tMax / 2 < delta then settleBias (k + base) (delta / (base - tMin))
  else k + base * delta / (delta + 38)
termination_by delta
decreasing_by exact Nat.div_lt_self (by omega) (by decide)

/-- The bias after a number, which was put into a text that has `count` characters now. -/
def adapt (delta count : Nat) (isFirst : Bool) : Nat :=
  let delta := if isFirst then delta / 700 else delta / 2
  settleBias 0 (delta + delta / count)

/-! ### Writing -/

/-- The digit with a value. -/
def digit (n : Nat) : Char :=
  if n < 26 then Char.ofNat ('a'.toNat + n) else Char.ofNat ('0'.toNat + (n - 26))

theorem threshold_pos (k bias : Nat) : 0 < threshold k bias := by
  unfold threshold tMin tMax
  omega

/-- The numeral of a number from the digit of `k` on. -/
def numeral (bias k q : Nat) : List Char :=
  let t := threshold k bias
  if _h : q < t then [digit q]
  else digit (t + (q - t) % (base - t)) :: numeral bias (k + base) ((q - t) / (base - t))
termination_by q
decreasing_by
  have h1 := threshold_pos k bias
  have h2 : (q - threshold k bias) / (base - threshold k bias) ≤ q - threshold k bias :=
    Nat.div_le_self _ _
  omega

/-- Where the writing stands: the next character, the distance since the last one put in, the bias,
and how many characters are in the text. -/
structure Pen where
  point : Nat
  delta : Nat
  bias : Nat
  count : Nat

/-- Write the numbers of a character in a round through the text, in which `ascii` characters came
first. -/
def writeRound (ascii : Nat) : List Char → Pen → List Char × Pen
  | [], p => ([], { p with delta := p.delta + 1, point := p.point + 1 })
  | c :: cs, p =>
    if c.toNat < p.point then writeRound ascii cs { p with delta := p.delta + 1 }
    else if c.toNat = p.point then
      let bias := adapt p.delta (p.count + 1) (p.count = ascii)
      let (rest, p') := writeRound ascii cs { p with delta := 0, bias, count := p.count + 1 }
      (numeral p.bias base p.delta ++ rest, p')
    else writeRound ascii cs p

/-- Write the numbers of all given characters. -/
def writePoints (ascii : Nat) (cs : List Char) : List Nat → Pen → List Char
  | [], _ => []
  | m :: ms, p =>
    let (digits, p) :=
      writeRound ascii cs
        { p with delta := p.delta + (m - p.point) * (p.count + 1), point := m }
    digits ++ writePoints ascii cs ms p

/-- Write a text. -/
def encode (cs : List Char) : List Char :=
  let ascii := cs.filter (·.toNat < firstPoint)
  let others := (cs.map (·.toNat)).filter (firstPoint ≤ ·)
  let points := (others.mergeSort (· ≤ ·)).eraseDups
  ascii ++ (if ascii.isEmpty then [] else ['-'])
    ++ writePoints ascii.length cs points ⟨firstPoint, 0, firstBias, ascii.length⟩

/-! ### Reading -/

/-- The value of a digit. -/
def digitValue? (c : Char) : Option Nat :=
  if 'a' ≤ c ∧ c ≤ 'z' then some (c.toNat - 'a'.toNat)
  else if 'A' ≤ c ∧ c ≤ 'Z' then some (c.toNat - 'A'.toNat)
  else if c.isDigit then some (c.toNat - '0'.toNat + 26)
  else none

/-- Numbers stay below this one. -/
def limit : Nat := 0x100000000

/-- Read a numeral from the digit of `k` on, which has a weight, on top of what has been read; the
value comes with the rest. -/
def readNumeral (bias : Nat) : Nat → Nat → Nat → List Char → Option (Nat × List Char)
  | _, _, _, [] => none
  | k, weight, value, c :: cs =>
    match digitValue? c with
    | none => none
    | some d =>
      let t := threshold k bias
      let value := value + d * weight
      if limit ≤ value then none
      else if d < t then some (value, cs)
      else readNumeral bias (k + base) (weight * (base - t)) value cs

theorem length_of_readNumeral {bias k weight value n : Nat} {cs rest : List Char}
    (h : readNumeral bias k weight value cs = some (n, rest)) : rest.length < cs.length := by
  induction cs generalizing k weight value with
  | nil => simp [readNumeral] at h
  | cons c cs ih =>
    unfold readNumeral at h
    split at h
    · simp at h
    · dsimp only at h
      split at h
      · simp at h
      · split at h
        · simp only [Option.some.injEq, Prod.mk.injEq] at h
          simp [← h.2]
        · have := ih h
          simp only [List.length_cons]
          omega

/-- Whether a number is the code point of a character. -/
def isPoint (n : Nat) : Bool := n < 0xD800 || (0xDFFF < n && n < 0x110000)

/-- Put characters into a text as the numbers say. -/
def putPoints (point place bias : Nat) (isFirst : Bool) (text digits : List Char) :
    Option (List Char) :=
  if digits.isEmpty then some text
  else
    match _h : readNumeral bias base 1 0 digits with
    | none => none
    | some (delta, rest) =>
      let count := text.length + 1
      let place := place + delta
      let point := point + place / count
      if isPoint point then
        putPoints point (place % count + 1) (adapt delta count isFirst) false
          (text.insertIdx (place % count) (Char.ofNat point)) rest
      else none
termination_by digits.length
decreasing_by exact length_of_readNumeral _h

/-- Read a text. -/
def decode? (s : List Char) : Option (List Char) :=
  let digits := (s.reverse.takeWhile (· ≠ '-')).reverse
  let ascii := s.take (s.length - digits.length - 1)
  if s.length = digits.length then putPoints firstPoint 0 firstBias true [] s
  else if ascii.isEmpty then none
  else if ascii.all (·.toNat < firstPoint) then putPoints firstPoint 0 firstBias true ascii digits
  else none

end LiveConfig.Text.Punycode
