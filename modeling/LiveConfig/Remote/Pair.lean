import LiveConfig.Json.Record
import LiveConfig.Text.Base64

/-!
Entries of a remote store, and their JSON form.

The value of an entry is written in base 64.  Every field but the key may be missing.
-/

namespace LiveConfig

/-- A key of a remote store with its value. -/
structure Pair where
  key : String
  /-- The index of the write that created the entry. -/
  createIndex : Nat
  /-- The index of the last write to the entry. -/
  modifyIndex : Nat
  lockIndex : Nat
  flags : Nat
  value : Bytes
  session : Option String
deriving DecidableEq

namespace Pair

/-- The pair of a key in which everything else is zero or empty. -/
def bare (key : String) : Pair := ⟨key, 0, 0, 0, 0, [], none⟩

/-- A value in base 64; `null` stands for the empty one. -/
def readBase64 (s : Bytes) : Except Json.Fault (Bytes × Bytes) := do
  let (x, r) ← Json.optional (Json.expectText "a string") s
  match x with
  | none => return ([], r)
  | some text =>
    match Base64.decode (Utf8.encode text) with
    | .ok bytes => return (bytes, r)
    | .error f => .error (.ofRecord (.badEncoding f.message) r)

/-- A text. -/
def readName : Bytes → Except Json.Fault (String × Bytes) := Json.expectText "a string"

/-- The fields of a pair. -/
def layout : Json.Layout Pair where
  title := "struct KeyValuePair"
  fields := [
    .of "Key" readName (fun p key => { p with key }) false false,
    .of "CreateIndex" Json.expectUnsigned (fun p n => { p with createIndex := n }) true true,
    .of "ModifyIndex" Json.expectUnsigned (fun p n => { p with modifyIndex := n }) true true,
    .of "LockIndex" Json.expectUnsigned (fun p n => { p with lockIndex := n }) true true,
    .of "Flags" Json.expectUnsigned (fun p n => { p with flags := n }) true true,
    .of "Value" readBase64 (fun p value => { p with value }) true true,
    .of "Session" (Json.optional readName) (fun p session => { p with session }) true true]

/-- A pair at the front of a text. -/
def readFront (s : Bytes) : Except Json.Fault (Pair × Bytes) := layout.read (.bare "") s

/-- Read a pair. -/
def read? (s : Bytes) : Except Json.Fault Pair := Json.readWhole readFront s

/-- Read a list of pairs. -/
def readList? (s : Bytes) : Except Json.Fault (List Pair) :=
  Json.readWhole (Json.expectList readFront) s

end Pair

end LiveConfig
