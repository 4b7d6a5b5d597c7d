import LiveConfig.Text.Composition.Table

/-!
Composed characters: a letter with the marks on it written as one character as far as there is one.

`normalize` takes all characters apart, puts the marks on each letter into the order of their
classes, and composes each letter with the marks that nothing keeps away from it.  Syllables of
Hangul compose by arithmetic.
-/

namespace LiveConfig.Text.Composition

/-- The class of a mark; zero for everything that is no mark. -/
def markClass (c : Char) : Nat := ((markClasses.find? c).bind (·.numbers.head?)).getD 0

/-! ### Syllables of Hangul -/

/-- The first syllable, and the first one of its leading, vowel and trailing signs.  The trailing
signs begin after one that stands for none. -/
def syllableBase : Nat := 0xAC00

@[inherit_doc syllableBase]
def leadingBase : Nat := 0x1100

@[inherit_doc syllableBase]
def vowelBase : Nat := 0x1161

@[inherit_doc syllableBase]
def trailingBase : Nat := 0x11A7

/-- How many leading signs, vowels and trailing signs there are. -/
def leadingCount : Nat := 19

@[inherit_doc leadingCount]
def vowelCount : Nat := 21

@[inherit_doc leadingCount]
def trailingCount : Nat := 28

/-- How many syllables there are. -/
def syllableCount : Nat := leadingCount * vowelCount * trailingCount

/-- The parts of a syllable. -/
def syllableParts? (c : Char) : Option (Char × Char) :=
  let i := c.toNat - syllableBase
  if c.toNat < syllableBase ∨ syllableCount ≤ i then none
  else if i % trailingCount = 0 then
    let i := i / trailingCount
    some (Char.ofNat (leadingBase + i / vowelCount), Char.ofNat (vowelBase + i % vowelCount))
  else
    some (Char.ofNat (c.toNat - i % trailingCount), Char.ofNat (trailingBase + i % trailingCount))

/-- The syllable with the given parts. -/
def syllable? (a b : Char) : Option Char :=
  let l := a.toNat - leadingBase
  let v := b.toNat - vowelBase
  let s := a.toNat - syllableBase
  let t := b.toNat - trailingBase
  if leadingBase ≤ a.toNat ∧ l < leadingCount ∧ vowelBase ≤ b.toNat ∧ v < vowelCount then
    some (Char.ofNat (syllableBase + (l * vowelCount + v) * trailingCount))
  else if syllableBase ≤ a.toNat ∧ s < syllableCount ∧ s % trailingCount = 0
      ∧ trailingBase < b.toNat ∧ t < trailingCount then
    some (Char.ofNat (a.toNat + t))
  else none

/-! ### Taking apart -/

/-- The two parts of a composed character. -/
def parts? (c : Char) : Option (Char × Char) :=
  match (parts.find? c).map (·.numbers) with
  | some [a, b] => some (Char.ofNat a, Char.ofNat b)
  | _ => syllableParts? c

/-- Take a character apart, and its first part again, at most `fuel` times. -/
def takeApartWithin : Nat → Char → List Char
  | 0, c => [c]
  | fuel + 1, c =>
    match parts? c with
    | some (a, b) => takeApartWithin fuel a ++ [b]
    | none => [c]

/-- How many marks a character has at most. -/
def mostMarks : Nat := 4

/-- Put a character in front of marks, behind those of lower classes. -/
def putMark (c : Char) : List Char → List Char
  | [] => [c]
  | d :: ds =>
    if 0 < markClass d ∧ markClass d < markClass c then d :: putMark c ds else c :: d :: ds

/-- Take all characters apart, and put marks into the order of their classes. -/
def decompose (cs : List Char) : List Char :=
  (cs.flatMap (takeApartWithin mostMarks)).foldr putMark []

/-! ### Composing -/

/-- The character that two others compose to. -/
def compose? (a b : Char) : Option Char :=
  match parts.rows.find? fun r => r.numbers = [a.toNat, b.toNat] with
  | some r => some (Char.ofNat r.first)
  | none => syllable? a b

/-- Compose a letter with what follows, with the marks on it so far in reverse. -/
def composeFrom (s : Char) (ms : List Char) : List Char → List Char
  | [] => s :: ms.reverse
  | c :: cs =>
    let open_ := ms.head?.all fun m => markClass m < markClass c
    match if open_ then compose? s c else none with
    | some k => composeFrom k ms cs
    | none =>
      if markClass c = 0 then s :: (ms.reverse ++ composeFrom c [] cs)
      else composeFrom s (c :: ms) cs

/-- Compose all letters with their marks. -/
def compose : List Char → List Char
  | [] => []
  | c :: cs => if markClass c = 0 then composeFrom c [] cs else c :: compose cs

/-- The composed form of a text. -/
def normalize (cs : List Char) : List Char := compose (decompose cs)

end LiveConfig.Text.Composition
