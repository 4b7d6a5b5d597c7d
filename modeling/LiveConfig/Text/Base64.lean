import LiveConfig.Text.Utf8

/-!
Base 64 with the standard alphabet.  Three bytes are four digits, and what is left at the end is
filled up.  When a text is read, the padding is required, and the bits that the last digit has too
many must be zero, so that every byte string has one written form.
-/

namespace LiveConfig.Base64

/-- The sign that fills up the last group. -/
def pad : UInt8 := 0x3D

/-! ### Writing -/

/-- The sign of a digit. -/
def symbol (n : Nat) : UInt8 :=
  if n < 26 then (n + 0x41).toUInt8
  else if n < 52 then (n - 26 + 0x61).toUInt8
  else if n < 62 then (n - 52 + 0x30).toUInt8
  else if n = 62 then 0x2B
  else 0x2F

/-- The bits of three bytes as four digits.  Of one or two bytes at the end the digits are filled up
with zero bits, and the group with padding. -/
def encode : Bytes → Bytes
  | [] => []
  | [a] => [symbol (a.toNat / 4), symbol (a.toNat % 4 * 16), pad, pad]
  | [a, b] =>
    [symbol (a.toNat / 4), symbol (a.toNat % 4 * 16 + b.toNat / 16), symbol (b.toNat % 16 * 4), pad]
  | a :: b :: c :: s =>
    symbol (a.toNat / 4) :: symbol (a.toNat % 4 * 16 + b.toNat / 16) ::
      symbol (b.toNat % 16 * 4 + c.toNat / 64) :: symbol (c.toNat % 64) :: encode s

/-- The text of a byte string. -/
def text (s : Bytes) : String := String.ofList ((encode s).map fun b => Char.ofNat b.toNat)

/-! ### Reading -/

/-- Why a text is no base 64. -/
inductive Fault where
  | symbol (offset : Nat) (byte : UInt8)
  | lastSymbol (offset : Nat) (byte : UInt8)
  | length (count : Nat)
  | padding
deriving DecidableEq

/-- The message of a fault. -/
def Fault.message : Fault → String
  | symbol offset byte =>
    "Invalid symbol " ++ toString byte.toNat ++ ", offset " ++ toString offset ++ "."
  | lastSymbol offset byte =>
    "Invalid last symbol " ++ toString byte.toNat ++ ", offset " ++ toString offset ++ "."
  | length count => "Invalid input length: " ++ toString count
  | padding => "Invalid padding"

/-- The value of a digit. -/
def digit? (b : UInt8) : Option Nat :=
  let n := b.toNat
  if 0x41 ≤ n ∧ n ≤ 0x5A then some (n - 0x41)
  else if 0x61 ≤ n ∧ n ≤ 0x7A then some (n - 0x61 + 26)
  else if 0x30 ≤ n ∧ n ≤ 0x39 then some (n - 0x30 + 52)
  else if n = 0x2B then some 62
  else if n = 0x2F then some 63
  else none

/-- The value of the digit at an offset. -/
def digitAt (offset : Nat) (b : UInt8) : Except Fault Nat :=
  match digit? b with
  | some n => .ok n
  | none => .error (.symbol offset b)

/-- The three bytes of four digits. -/
def join (a b c d : Nat) : Bytes :=
  let n := ((a * 64 + b) * 64 + c) * 64 + d
  [(n / 65536).toUInt8, (n / 256).toUInt8, n.toUInt8]

/-- The digits of the last group, up to its padding. -/
def lastDigits (offset : Nat) : Bytes → Except Fault (List Nat)
  | [] => .ok []
  | b :: s =>
    if b = pad then .ok []
    else do
      let n ← digitAt offset b
      let ns ← lastDigits (offset + 1) s
      return n :: ns

/-- Decode the last group, of at most four signs, at an offset. -/
def decodeLast (offset : Nat) (s : Bytes) : Except Fault Bytes := do
  let ns ← lastDigits offset s
  let k := ns.length
  let pads := s.drop k
  if !pads.isEmpty && k < 2 then throw (.symbol (offset + k) pad)
  else if pads.any (· ≠ pad) then throw (.symbol (offset + k) pad)
  else if k < 2 then throw (.length (offset + k))
  else if s.length ≠ 4 then throw .padding
  else
    match ns with
    | [a, b] =>
      if b % 16 = 0 then return (join a b 0 0).take 1
      else throw (.lastSymbol (offset + 1) ((s.drop 1).headD pad))
    | [a, b, c] =>
      if c % 4 = 0 then return (join a b c 0).take 2
      else throw (.lastSymbol (offset + 2) ((s.drop 2).headD pad))
    | [a, b, c, d] => return join a b c d
    | _ => throw .padding

/-- Decode from an offset.  Only the last group may hold padding. -/
def decodeFrom (offset : Nat) : Bytes → Except Fault Bytes
  | [] => .ok []
  | a :: b :: c :: d :: e :: s => do
    let a ← digitAt offset a
    let b ← digitAt (offset + 1) b
    let c ← digitAt (offset + 2) c
    let d ← digitAt (offset + 3) d
    let r ← decodeFrom (offset + 4) (e :: s)
    return join a b c d ++ r
  | s => decodeLast offset s

/-- The bytes that a text stands for.  A spoilt sign that is left over at the end, such as a line
feed, is noticed first. -/
def decode (s : Bytes) : Except Fault Bytes :=
  match s.getLast? with
  | some b =>
    if s.length % 4 = 1 ∧ b ≠ pad ∧ (digit? b).isNone then .error (.symbol (s.length - 1) b)
    else decodeFrom 0 s
  | none => .ok []

end LiveConfig.Base64
