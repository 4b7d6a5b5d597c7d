import LiveConfig.Text.Pieces
import LiveConfig.Text.Utf8
import LiveConfig.Number.Reading
import LiveConfig.Url.Fault

/-!
Numeric addresses of hosts.

An IPv4 address has up to four parts, in decimal, octal or hexadecimal, of which the last one fills
all bytes that are left.  An IPv6 address has eight pieces of 16 bits; one run of zero pieces may be
left out, and the last two pieces may be written as an IPv4 address.
-/

namespace LiveConfig.Url

/-- The value of a hexadecimal digit. -/
def hexDigit? (c : Char) : Option Nat :=
  if c.toNat < 0x80 then Ascii.hexValue? (Ascii.byte c) else none

/-! ### Four bytes -/

/-- The value of digits in a base. -/
def digitsIn? (base : Nat) (cs : List Char) : Option Nat :=
  cs.foldl (fun n c => do
    let n ← n
    let d ← hexDigit? c
    if d < base then some (n * base + d) else none) (some 0)

/-- A part of an IPv4 address: `0x` marks hexadecimal and `0` octal digits. -/
def ipv4Part? : List Char → Option Nat
  | [] => none
  | '0' :: x :: r => if x = 'x' ∨ x = 'X' then digitsIn? 16 r else digitsIn? 8 (x :: r)
  | cs => digitsIn? 10 cs

/-- The parts of a name between its points; one point at the end does not count. -/
def ipv4Parts (cs : List Char) : List (List Char) :=
  let parts := Text.cut '.' cs
  if 1 < parts.length ∧ parts.getLast? = some [] then parts.dropLast else parts

/-- Whether the last part of a name is a number. -/
def endsInNumber (cs : List Char) : Bool :=
  match (ipv4Parts cs).getLast? with
  | none => false
  | some p => (!p.isEmpty && p.all Char.isDigit) || (ipv4Part? p).isSome

/-- The 32 bits of an IPv4 address. -/
def readIpv4 (cs : List Char) : Except Fault Nat :=
  let parts := ipv4Parts cs
  match parts.mapM ipv4Part? with
  | none => .error .ipv4
  | some ns =>
    let front := ns.dropLast
    let last := (ns.getLast?).getD 0
    let bound := 1 <<< (8 * (4 - front.length))
    if 4 < ns.length ∨ front.any (255 < ·) ∨ bound ≤ last then .error .ipv4
    else .ok (front.foldr (fun n (r : Nat × Nat) => (r.1 + n * r.2, r.2 * 256))
      (last, bound)).1

/-- The text of an IPv4 address. -/
def writeIpv4 (n : Nat) : String :=
  ".".intercalate ([24, 16, 8, 0].map fun s => toString ((n >>> s) % 256))

/-! ### Eight pieces -/

/-- An IPv6 address that has been read up to some place: the pieces so far, in reverse, and how many
of them stand in front of the run of zeros. -/
structure PartialIpv6 where
  pieces : List Nat
  gap : Option Nat

/-- Up to four hexadecimal digits at the front. -/
def takeHex : Nat → Nat → List Char → Nat × List Char
  | 0, n, cs => (n, cs)
  | _ + 1, n, [] => (n, [])
  | fuel + 1, n, c :: cs =>
    match hexDigit? c with
    | some d => takeHex fuel (n * 16 + d) cs
    | none => (n, c :: cs)

/-- A decimal number below 256 without zeros in front. -/
def ipv4Byte? (cs : List Char) : Option Nat :=
  match cs with
  | [] => none
  | ['0'] => some 0
  | '0' :: _ => none
  | cs =>
    if cs.all Char.isDigit then
      let n := digitsValue cs
      if n < 256 then some n else none
    else none

/-- The two pieces of an IPv4 address at the end. -/
def ipv4Tail? (cs : List Char) : Option (Nat × Nat) :=
  match (Text.cut '.' cs).mapM ipv4Byte? with
  | some [a, b, c, d] => some (a * 256 + b, c * 256 + d)
  | _ => none

/-- Read pieces up to the end of an address. -/
def readPieces : Nat → PartialIpv6 → List Char → Option PartialIpv6
  | 0, _, _ => none
  | _ + 1, p, [] => some p
  | fuel + 1, p, cs =>
    if p.pieces.length = 8 then none
    else
      match cs with
      | ':' :: r =>
        if p.gap.isSome then none
        else readPieces fuel ⟨0 :: p.pieces, some (p.pieces.length + 1)⟩ r
      | cs =>
        let (n, r) := takeHex 4 0 cs
        match r with
        | [] => readPieces fuel { p with pieces := n :: p.pieces } []
        | ':' :: r =>
          if r.isEmpty then none else readPieces fuel { p with pieces := n :: p.pieces } r
        | '.' :: _ =>
          if 6 < p.pieces.length then none
          else do
            let (a, b) ← ipv4Tail? cs
            some { p with pieces := b :: a :: p.pieces }
        | _ => none

/-- The eight pieces of an IPv6 address. -/
def readIpv6 (cs : List Char) : Except Fault (List Nat) :=
  let start : Option PartialIpv6 :=
    match cs with
    | ':' :: ':' :: r => readPieces (cs.length + 1) ⟨[0], some 1⟩ r
    | ':' :: _ => none
    | cs => if cs.length < 2 then none else readPieces (cs.length + 1) ⟨[], none⟩ cs
  match start with
  | none => .error .ipv6
  | some ⟨pieces, none⟩ => if pieces.length = 8 then .ok pieces.reverse else .error .ipv6
  | some ⟨pieces, some gap⟩ =>
    let ps := pieces.reverse
    if 8 < ps.length then .error .ipv6
    else .ok (ps.take gap ++ List.replicate (8 - ps.length) 0 ++ ps.drop gap)

/-- The longest of the runs of zeros, and of equal ones the first: where it starts and how long it
is. -/
def longestZeros (ps : List Nat) : Nat × Nat :=
  let runs := (List.range ps.length).map fun i => (i, ((ps.drop i).takeWhile (· = 0)).length)
  runs.foldl (fun best run => if best.2 < run.2 then run else best) (0, 0)

/-- Pieces in hexadecimal with colons between them. -/
def writePieces (ps : List Nat) : String :=
  ":".intercalate (ps.map fun n => String.ofList (Nat.toDigits 16 n))

/-- The text of an IPv6 address.  The longest run of at least two zero pieces is left out. -/
def writeIpv6 (ps : List Nat) : String :=
  let (start, count) := longestZeros ps
  if count < 2 then writePieces ps
  else writePieces (ps.take start) ++ "::" ++ writePieces (ps.drop (start + count))

end LiveConfig.Url
