/-!
Sets of characters given by ranges of code points, and white space.
-/

namespace LiveConfig.Text

/-- Ranges of code points, both ends included, in increasing order. -/
structure CharRanges where
  ranges : Array (Nat × Nat)

namespace CharRanges

/-- The value of a hexadecimal numeral in small letters. -/
def hexValue (cs : List Char) : Nat :=
  cs.foldl (fun n c =>
    16 * n + (if c.isDigit then c.toNat - '0'.toNat else c.toNat - 'a'.toNat + 10)) 0

/-- A range written `a-b`, or `a` for a single code point. -/
def rangeOf (w : List Char) : Nat × Nat :=
  let lo := w.takeWhile (· ≠ '-')
  match w.dropWhile (· ≠ '-') with
  | _ :: hi => (hexValue lo, hexValue hi)
  | [] => (hexValue lo, hexValue lo)

/-- The words of a text, which single spaces separate. -/
def words : List Char → List Char → List (List Char)
  | [], w => [w.reverse]
  | ' ' :: r, w => w.reverse :: words r []
  | c :: r, w => words r (c :: w)

/-- Ranges written in hexadecimal on several lines, with spaces between them. -/
def ofLines (lines : List String) : CharRanges :=
  ⟨(lines.flatMap fun s => (words s.toList []).map rangeOf).toArray⟩

/-- The range of a code point, from the `lo`-th up to, but without, the `hi`-th. -/
def search (r : CharRanges) (n : Nat) : Nat → Nat → Nat → Option (Nat × Nat)
  | 0, _, _ => none
  | fuel + 1, lo, hi =>
    if hi ≤ lo then none
    else
      let mid := (lo + hi) / 2
      match r.ranges[mid]? with
      | none => none
      | some (a, b) =>
        if n < a then search r n fuel lo mid
        else if b < n then search r n fuel (mid + 1) hi
        else some (a, b)

/-- The range of a character. -/
def find? (r : CharRanges) (c : Char) : Option (Nat × Nat) := r.search c.toNat 32 0 r.ranges.size

/-- Whether a character is in the set. -/
def contains (r : CharRanges) (c : Char) : Bool := (r.find? c).isSome

end CharRanges

/-- White space of Unicode (`White_Space`). -/
def isBlank (c : Char) : Bool :=
  let n := c.toNat
  (9 ≤ n && n ≤ 13) || n == 32 || n == 0x85 || n == 0xA0 || n == 0x1680
    || (0x2000 ≤ n && n ≤ 0x200A) || n == 0x2028 || n == 0x2029 || n == 0x202F || n == 0x205F
    || n == 0x3000

/-- Drop the characters at both ends that `p` holds of. -/
def stripBy (p : Char → Bool) (s : String) : String :=
  String.ofList (((s.toList.dropWhile p).reverse.dropWhile p).reverse)

/-- Drop white space at both ends. -/
def strip (s : String) : String := stripBy isBlank s

end LiveConfig.Text
