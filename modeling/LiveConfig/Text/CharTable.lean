import LiveConfig.Text.CharRanges

/-!
Tables over code points: ranges that numbers belong to.
-/

namespace LiveConfig.Text

/-- A range of code points, both ends included, and the numbers that belong to it. -/
structure CharRow where
  first : Nat
  last : Nat
  numbers : List Nat

/-- Ranges of code points in increasing order. -/
structure CharTable where
  rows : Array CharRow

namespace CharTable

/-- The words of a text, which points separate. -/
def numerals : List Char → List Char → List (List Char)
  | [], w => if w.isEmpty then [] else [w.reverse]
  | '.' :: r, w => w.reverse :: numerals r []
  | c :: r, w => numerals r (c :: w)

/-- A row written `a-b>m.n` in hexadecimal, or `a>m.n` for a single code point. -/
def rowOf (w : List Char) : CharRow :=
  let (first, last) := CharRanges.rangeOf (w.takeWhile (· ≠ '>'))
  let numbers := (numerals ((w.dropWhile (· ≠ '>')).drop 1) []).map CharRanges.hexValue
  ⟨first, last, numbers⟩

/-- Rows on several lines, with spaces between them. -/
def ofLines (lines : List String) : CharTable :=
  ⟨(lines.flatMap fun s => (CharRanges.words s.toList []).map rowOf).toArray⟩

/-- The row of a code point from the `lo`-th up to, but without, the `hi`-th. -/
def search (t : CharTable) (n : Nat) : Nat → Nat → Nat → Option CharRow
  | 0, _, _ => none
  | fuel + 1, lo, hi =>
    if hi ≤ lo then none
    else
      let mid := (lo + hi) / 2
      match t.rows[mid]? with
      | none => none
      | some r =>
        if n < r.first then search t n fuel lo mid
        else if r.last < n then search t n fuel (mid + 1) hi
        else some r

/-- The row of a character. -/
def find? (t : CharTable) (c : Char) : Option CharRow := t.search c.toNat 32 0 t.rows.size

end CharTable

end LiveConfig.Text
