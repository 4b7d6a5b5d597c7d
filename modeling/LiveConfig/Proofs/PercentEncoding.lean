import LiveConfig.Proofs.Paths
import LiveConfig.Url.IpAddress
import LiveConfig.Url.Percent

/-!
Percent encoding, and back.

A percent sign is not encoded itself, so that an escape which is in a text already looks like one
that the encoding makes.  Main statement: `percentDecode_percentEncode`, the encoding of a text
without escapes is decoded to its bytes; so of such texts no two are encoded alike.
-/

namespace LiveConfig

/-! ### Bytes of a text -/

theorem Utf8.encode_ofList (cs : List Char) :
    Utf8.encode (String.ofList cs) = cs.flatMap String.utf8EncodeChar := by
  rw [Utf8.encode, String.toUTF8_eq_toByteArray, String.toByteArray_ofList, List.utf8Encode]
  simp

theorem Utf8.encode_injective : Function.Injective Utf8.encode := by
  intro s t h
  have hdata : s.toUTF8.data = t.toUTF8.data := Array.toList_inj.mp h
  exact String.toByteArray_inj.mp (ByteArray.ext hdata)

theorem Ascii.utf8EncodeChar_eq {c : Char} (h : c.toNat < 0x80) :
    String.utf8EncodeChar c = [byte c] := by
  have hle : c.val.toNat ≤ 127 := Nat.le_of_lt_succ h
  rw [String.utf8EncodeChar, if_pos hle]
  rfl

theorem Utf8.encode_ascii {cs : List Char} (h : ∀ c ∈ cs, c.toNat < 0x80) :
    Utf8.encode (String.ofList cs) = cs.map Ascii.byte := by
  rw [encode_ofList]
  induction cs with
  | nil => rfl
  | cons c cs ih =>
    rw [List.flatMap_cons, Ascii.utf8EncodeChar_eq (h c List.mem_cons_self),
      ih fun d hd => h d (List.mem_cons_of_mem _ hd), List.map_cons, List.singleton_append]

theorem Ascii.eq_of_byte_eq {c d : Char} (hc : c.toNat < 0x80) (hd : d.toNat < 0x80)
    (h : byte c = byte d) : c = d := by
  have hnat : c.toNat % 256 = d.toNat % 256 := congrArg UInt8.toNat h
  exact Char.toNat_inj.mp (by omega)

namespace Url

variable {p : Char → Bool} {c : Char} {cs : List Char}

/-- Whether a text begins with two hexadecimal digits. -/
def beginsWithByte : List Char → Bool
  | a :: b :: _ => (hexDigit? a).isSome && (hexDigit? b).isSome
  | _ => false

/-- Whether somewhere in a text two hexadecimal digits follow a percent sign. -/
def hasEscape : List Char → Bool
  | [] => false
  | c :: cs => (c == '%' && beginsWithByte cs) || hasEscape cs

/-! ### What the encoding writes -/

theorem toList_percentEncode_cons (p : Char → Bool) (c : Char) (cs : List Char) :
    (percentEncode p (c :: cs)).toList =
      (if p c then (String.utf8EncodeChar c).flatMap encodeByte else [c])
        ++ (percentEncode p cs).toList := by
  have hc : Utf8.encode (String.singleton c) = String.utf8EncodeChar c := by
    rw [show String.singleton c = String.ofList [c] from rfl, Utf8.encode_ofList,
      List.flatMap_singleton]
  simp [percentEncode, hc]

theorem percentEncode_append (p : Char → Bool) (as bs : List Char) :
    percentEncode p (as ++ bs) = percentEncode p as ++ percentEncode p bs := by
  simp [percentEncode]

theorem percentEncode_cons_of_not (h : p c = false) (cs : List Char) :
    percentEncode p (c :: cs) = String.singleton c ++ percentEncode p cs := by
  simp [percentEncode, h]

/-- The segments of a text are encoded one by one. -/
theorem intercalate_percentEncode_cut (h : p '/' = false) (cs : List Char) :
    "/".intercalate ((Text.cut '/' cs).map (percentEncode p)) = percentEncode p cs := by
  induction cs with
  | nil => rfl
  | cons c cs ih =>
    obtain ⟨s, ss, hcut⟩ := List.exists_cons_of_ne_nil (Text.cut_ne_nil '/' cs)
    rw [hcut, List.map_cons] at ih
    by_cases hc : c = '/'
    · subst hc
      rw [Text.cut, if_pos rfl, hcut, List.map_cons, List.map_cons, String.intercalate_cons_cons,
        ih, percentEncode_cons_of_not h]
      rfl
    · have hfront (s : List Char) : percentEncode p (c :: s) = percentEncode p [c] ++
          percentEncode p s := percentEncode_append p [c] s
      rw [Text.cut, if_neg hc, hcut, List.map_cons, hfront, String.intercalate_cons_append, ih,
        ← hfront]

theorem upperHexDigit_ascii : ∀ n < 16, (upperHexDigit n).toNat < 0x80 := by decide

theorem hexValue_upperHexDigit :
    ∀ n < 16, Ascii.hexValue? (Ascii.byte (upperHexDigit n)) = some n := by decide

theorem encodeByte_ascii (b : UInt8) : ∀ c ∈ encodeByte b, c.toNat < 0x80 := by
  have hb : b.toNat < 256 := b.toNat_lt
  have hhigh := upperHexDigit_ascii (b.toNat / 16) (by omega)
  have hlow := upperHexDigit_ascii (b.toNat % 16) (by omega)
  intro c hc
  simp only [encodeByte, List.mem_cons, List.not_mem_nil, or_false] at hc
  rcases hc with rfl | rfl | rfl
  · decide
  · exact hhigh
  · exact hlow

/-- The bytes that a character is written with. -/
def encodedBytes (p : Char → Bool) (c : Char) : Bytes :=
  (if p c then (String.utf8EncodeChar c).flatMap encodeByte else [c]).map Ascii.byte

/-- What a character is written with begins with a hexadecimal digit only if the character is one
and written as it is. -/
def KeepsDigit (c : Char) (bs : Bytes) : Prop :=
  ((hexDigit? c).isSome = true ∧ bs = [Ascii.byte c]) ∨
    ∃ b rest, bs = b :: rest ∧ (Ascii.hexValue? b).isSome = false

/-- A way to write characters in which hexadecimal digits stand for themselves. -/
def KeepsDigits (w : Char → Bytes) : Prop := ∀ c, KeepsDigit c (w c)

theorem keepsDigit_byte (h : c.toNat < 0x80) : KeepsDigit c [Ascii.byte c] := by
  cases hc : (Ascii.hexValue? (Ascii.byte c)).isSome with
  | true => exact .inl ⟨by rwa [hexDigit?, if_pos h], rfl⟩
  | false => exact .inr ⟨_, [], rfl, hc⟩

section

variable (hp : ∀ c, alwaysEncoded c = true → p c = true)
include hp

theorem ascii_of_not_encoded (h : ¬p c = true) : c.toNat < 0x80 := by
  have halways : ¬alwaysEncoded c = true := fun hc => h (hp c hc)
  simp only [alwaysEncoded, Bool.or_eq_true, decide_eq_true_eq] at halways
  omega

theorem percentEncode_ascii (cs : List Char) :
    ∀ c ∈ (percentEncode p cs).toList, c.toNat < 0x80 := by
  induction cs with
  | nil => simp [percentEncode]
  | cons d ds ih =>
    intro c hc
    rw [toList_percentEncode_cons, List.mem_append] at hc
    rcases hc with hc | hc
    · split at hc
      · obtain ⟨b, -, hb⟩ := List.mem_flatMap.mp hc
        exact encodeByte_ascii b c hb
      · rename_i hd
        obtain rfl : c = d := by simpa using hc
        exact ascii_of_not_encoded hp hd
    · exact ih c hc

theorem encode_percentEncode (cs : List Char) :
    Utf8.encode (percentEncode p cs) = cs.flatMap (encodedBytes p) := by
  rw [← String.ofList_toList (s := percentEncode p cs),
    Utf8.encode_ascii (percentEncode_ascii hp cs)]
  induction cs with
  | nil => rfl
  | cons c cs ih =>
    rw [toList_percentEncode_cons, List.map_append, ih, List.flatMap_cons, encodedBytes]

theorem keepsDigits_encodedBytes : KeepsDigits (encodedBytes p) := by
  intro c
  by_cases hc : p c = true
  · -- what is encoded begins with a percent sign
    obtain ⟨b, bs, hbytes⟩ := List.exists_cons_of_ne_nil (String.utf8EncodeChar_ne_nil (c := c))
    rw [encodedBytes, if_pos hc, hbytes]
    exact .inr ⟨_, _, rfl, by decide⟩
  · rw [encodedBytes, if_neg hc]
    exact keepsDigit_byte (ascii_of_not_encoded hp hc)

end

/-! ### Decoding -/

theorem percentDecode_cons_of_ne {a : UInt8} (h : a ≠ percentSign) (s : Bytes) :
    percentDecode (a :: s) = a :: percentDecode s := by
  match s with
  | [] => rfl
  | [_] => rfl
  | b :: c :: s =>
    rw [percentDecode]
    split
    · rw [if_neg h]
    · rfl

theorem percentDecode_encodeByte (b : UInt8) (s : Bytes) :
    percentDecode ((encodeByte b).map Ascii.byte ++ s) = b :: percentDecode s := by
  have hb : b.toNat < 256 := b.toNat_lt
  have hhigh := hexValue_upperHexDigit (b.toNat / 16) (by omega)
  have hlow := hexValue_upperHexDigit (b.toNat % 16) (by omega)
  have hvalue : (b.toNat / 16 * 16 + b.toNat % 16).toUInt8 = b := by
    rw [show b.toNat / 16 * 16 + b.toNat % 16 = b.toNat by omega]
    exact UInt8.ofNat_toNat
  simp only [encodeByte, List.map_cons, List.map_nil, List.cons_append, List.nil_append]
  rw [percentDecode, hhigh, hlow]
  simp only [if_pos (show Ascii.byte '%' = percentSign from rfl), hvalue]

theorem percentDecode_encodeBytes (bs s : Bytes) :
    percentDecode ((bs.flatMap encodeByte).map Ascii.byte ++ s) = bs ++ percentDecode s := by
  induction bs with
  | nil => rfl
  | cons b bs ih =>
    rw [List.flatMap_cons, List.map_append, List.append_assoc, percentDecode_encodeByte, ih,
      List.cons_append]

/-- A percent sign that is no escape stays. -/
theorem percentDecode_percentSign {s : Bytes}
    (h : ∀ a b r, s = a :: b :: r → (Ascii.hexValue? a).isSome = true →
      (Ascii.hexValue? b).isSome = false) :
    percentDecode (percentSign :: s) = percentSign :: percentDecode s := by
  match s with
  | [] => rfl
  | [_] => rfl
  | a :: b :: r =>
    rw [percentDecode]
    split
    · rename_i ha hb
      simpa [ha, hb] using h a b r rfl
    · rfl

section

variable {w : Char → Bytes} (hw : KeepsDigits w)
include hw

theorem hexDigit_of_flatMap {b : UInt8} {s : Bytes} (h : cs.flatMap w = b :: s)
    (hb : (Ascii.hexValue? b).isSome = true) :
    ∃ d ds, cs = d :: ds ∧ (hexDigit? d).isSome = true ∧ ds.flatMap w = s := by
  cases cs with
  | nil => cases h
  | cons d ds =>
    rw [List.flatMap_cons] at h
    obtain ⟨hd, hbytes⟩ | ⟨e, es, hbytes, he⟩ := hw d
    · rw [hbytes] at h
      exact ⟨d, ds, rfl, hd, (List.cons.inj h).2⟩
    · rw [hbytes] at h
      obtain rfl : e = b := (List.cons.inj h).1
      rw [he] at hb
      cases hb

/-- What is no escape before characters are written is none afterwards. -/
theorem percentDecode_sign (h : beginsWithByte cs = false) :
    percentDecode (percentSign :: cs.flatMap w) = percentSign :: percentDecode (cs.flatMap w) := by
  refine percentDecode_percentSign fun a b r hr ha => Bool.eq_false_iff.mpr fun hb => ?_
  obtain ⟨c, ds, rfl, hc, hds⟩ := hexDigit_of_flatMap hw hr ha
  obtain ⟨d, es, rfl, hd, -⟩ := hexDigit_of_flatMap hw hds hb
  simp [beginsWithByte, hc, hd] at h

end

/-- **Encoding and decoding**: the encoding of a text without escapes is decoded to its bytes. -/
theorem percentDecode_percentEncode (hp : ∀ c, alwaysEncoded c = true → p c = true)
    (h : hasEscape cs = false) :
    percentDecode (Utf8.encode (percentEncode p cs)) = Utf8.encode (String.ofList cs) := by
  rw [encode_percentEncode hp, Utf8.encode_ofList]
  induction cs with
  | nil => rfl
  | cons c cs ih =>
    rw [hasEscape, Bool.or_eq_false_iff] at h
    rw [List.flatMap_cons, List.flatMap_cons, encodedBytes]
    by_cases hc : p c = true
    · rw [if_pos hc, percentDecode_encodeBytes, ih h.2]
    · have hlt : c.toNat < 0x80 := ascii_of_not_encoded hp hc
      rw [if_neg hc, Ascii.utf8EncodeChar_eq hlt, ← ih h.2]
      by_cases hpercent : c = '%'
      · subst hpercent
        exact percentDecode_sign (keepsDigits_encodedBytes hp) (by simpa using h.1)
      · refine percentDecode_cons_of_ne (fun hsign => hpercent ?_) _
        exact Ascii.eq_of_byte_eq (d := '%') hlt (by decide) hsign

/-- Texts without escapes that are encoded alike are equal. -/
theorem percentEncode_inj (hp : ∀ c, alwaysEncoded c = true → p c = true) {as bs : List Char}
    (ha : hasEscape as = false) (hb : hasEscape bs = false) :
    percentEncode p as = percentEncode p bs ↔ as = bs := by
  refine ⟨fun h => ?_, fun h => by rw [h]⟩
  have hbytes : Utf8.encode (String.ofList as) = Utf8.encode (String.ofList bs) := by
    rw [← percentDecode_percentEncode hp ha, ← percentDecode_percentEncode hp hb, h]
  exact String.ofList_injective (Utf8.encode_injective hbytes)

end Url

end LiveConfig
