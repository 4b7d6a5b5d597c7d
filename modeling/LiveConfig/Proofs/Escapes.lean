import LiveConfig.Proofs.Utf8Characters

/-!
Escapes in a part of a URL.

A part of a URL may have escapes already when it is encoded.  `KeepsEscapes` says of a way to write
characters that it leaves them as they are.  Main statement: `percentDecode_encoded`, the part stands
for the same bytes before and after, as long as neither percent signs nor hexadecimal digits are
encoded.
-/

namespace LiveConfig.Url

variable {p : Char → Bool} {v w : Char → Bytes} {cs : List Char}

/-! ### Ways to write characters -/

theorem percentDecode_append {bs : Bytes} (h : percentSign ∉ bs) (s : Bytes) :
    percentDecode (bs ++ s) = bs ++ percentDecode s := by
  induction bs with
  | nil => rfl
  | cons b bs ih =>
    rw [List.mem_cons, not_or] at h
    rw [List.cons_append, percentDecode_cons_of_ne (Ne.symm h.1), ih h.2, List.cons_append]

theorem hexValue_of_hexDigit {c : Char} {x : Nat} (h : hexDigit? c = some x) :
    Ascii.hexValue? (Ascii.byte c) = some x := by
  unfold hexDigit? at h
  split at h
  · exact h
  · cases h

theorem percentDecode_escape {a b : Char} {x y : Nat} (ha : hexDigit? a = some x)
    (hb : hexDigit? b = some y) (s : Bytes) :
    percentDecode (percentSign :: Ascii.byte a :: Ascii.byte b :: s) =
      (x * 16 + y).toUInt8 :: percentDecode s := by
  rw [percentDecode, hexValue_of_hexDigit ha, hexValue_of_hexDigit hb]
  exact if_pos rfl

theorem exists_of_beginsWithByte (h : beginsWithByte cs = true) :
    ∃ a b ds x y, cs = a :: b :: ds ∧ hexDigit? a = some x ∧ hexDigit? b = some y := by
  match cs with
  | [] => cases h
  | [_] => cases h
  | a :: b :: ds =>
    simp only [beginsWithByte, Bool.and_eq_true, Option.isSome_iff_exists] at h
    obtain ⟨⟨x, ha⟩, y, hb⟩ := h
    exact ⟨a, b, ds, x, y, rfl, ha, hb⟩

/-- A way to write characters that makes no escapes and spoils none, apart from those which stand
for the character. -/
structure KeepsEscapes (w : Char → Bytes) : Prop where
  sign : w '%' = [percentSign]
  digit : ∀ c, (hexDigit? c).isSome = true → w c = [Ascii.byte c]
  digits : KeepsDigits w
  decoded : ∀ c, c ≠ '%' → ∀ s,
    percentDecode (w c ++ s) = String.utf8EncodeChar c ++ percentDecode s

namespace KeepsEscapes

theorem percentDecode_sign_escape (hw : KeepsEscapes w) {a b : Char} {x y : Nat}
    (ha : hexDigit? a = some x) (hb : hexDigit? b = some y) (cs : List Char) :
    percentDecode (percentSign :: (a :: b :: cs).flatMap w) =
      (x * 16 + y).toUInt8 :: percentDecode (cs.flatMap w) := by
  rw [List.flatMap_cons, List.flatMap_cons, hw.digit a (by simp [ha]), hw.digit b (by simp [hb])]
  exact percentDecode_escape ha hb _

/-- What is written in two such ways is decoded to the same bytes. -/
theorem percentDecode_eq (hv : KeepsEscapes v) (hw : KeepsEscapes w) (cs : List Char) :
    percentDecode (cs.flatMap v) = percentDecode (cs.flatMap w) := by
  match cs with
  | [] => rfl
  | c :: cs =>
    rw [List.flatMap_cons, List.flatMap_cons]
    by_cases hc : c = '%'
    · rw [hc, hv.sign, hw.sign, List.singleton_append, List.singleton_append]
      cases hbegins : beginsWithByte cs with
      | false =>
        rw [percentDecode_sign hv.digits hbegins, percentDecode_sign hw.digits hbegins,
          percentDecode_eq hv hw cs]
      | true =>
        obtain ⟨a, b, ds, x, y, rfl, ha, hb⟩ := exists_of_beginsWithByte hbegins
        rw [hv.percentDecode_sign_escape ha hb, hw.percentDecode_sign_escape ha hb,
          percentDecode_eq hv hw ds]
    · rw [hv.decoded c hc, hw.decoded c hc, percentDecode_eq hv hw cs]

end KeepsEscapes

/-! ### Two such ways -/

theorem percentSign_not_mem {c : Char} (h : c ≠ '%') :
    percentSign ∉ String.utf8EncodeChar c := by
  by_cases hc : c.toNat < 0x80
  · rw [Ascii.utf8EncodeChar_eq hc, List.mem_singleton]
    exact fun hsign => h (Ascii.eq_of_byte_eq (d := '%') hc (by decide) hsign.symm)
  · intro hmem
    exact absurd (Utf8.forall_mem_utf8EncodeChar (Nat.le_of_not_lt hc) _ hmem) (by decide)

theorem ascii_of_hexDigit {c : Char} (h : (hexDigit? c).isSome = true) : c.toNat < 0x80 := by
  unfold hexDigit? at h
  split at h
  · assumption
  · cases h

theorem hexValue_eq_none {b : UInt8} (h : 0x80 ≤ b.toNat) :
    (Ascii.hexValue? b).isSome = false := by
  have hdigit : Ascii.isDigit b = false := by
    simp [Ascii.isDigit, UInt8.le_iff_toNat_le]
    omega
  have hupper : ¬b ≤ 0x46 := by simp [UInt8.le_iff_toNat_le]; omega
  have hlower : ¬b ≤ 0x66 := by simp [UInt8.le_iff_toNat_le]; omega
  simp [Ascii.hexValue?, hdigit, hupper, hlower]

theorem keepsEscapes_utf8 : KeepsEscapes String.utf8EncodeChar where
  sign := rfl
  digit c h := Ascii.utf8EncodeChar_eq (ascii_of_hexDigit h)
  digits c := by
    by_cases hc : c.toNat < 0x80
    · rw [Ascii.utf8EncodeChar_eq hc]
      exact keepsDigit_byte hc
    · obtain ⟨b, bs, hbytes⟩ := List.exists_cons_of_ne_nil (String.utf8EncodeChar_ne_nil (c := c))
      have hb := Utf8.forall_mem_utf8EncodeChar (Nat.le_of_not_lt hc) b (by simp [hbytes])
      exact .inr ⟨b, bs, hbytes, hexValue_eq_none hb⟩
  decoded c h := percentDecode_append (percentSign_not_mem h)

theorem keepsEscapes_encodedBytes (hp : ∀ c, alwaysEncoded c = true → p c = true)
    (hsign : p '%' = false) (hdigit : ∀ c, (hexDigit? c).isSome = true → p c = false) :
    KeepsEscapes (encodedBytes p) where
  sign := by
    rw [encodedBytes, if_neg (by simp [hsign])]
    rfl
  digit c h := by simp [encodedBytes, hdigit c h]
  digits := keepsDigits_encodedBytes hp
  decoded c h s := by
    rw [encodedBytes]
    by_cases hc : p c = true
    · rw [if_pos hc, percentDecode_encodeBytes]
    · rw [if_neg hc, ← percentDecode_append (percentSign_not_mem h),
        Ascii.utf8EncodeChar_eq (ascii_of_not_encoded hp hc)]
      rfl

/-- **Encoding a part of a URL** changes nothing of what the part stands for. -/
theorem percentDecode_encoded (hp : ∀ c, alwaysEncoded c = true → p c = true)
    (hsign : p '%' = false) (hdigit : ∀ c, (hexDigit? c).isSome = true → p c = false)
    (cs : List Char) :
    percentDecode (Utf8.encode (percentEncode p cs)) =
      percentDecode (Utf8.encode (String.ofList cs)) := by
  rw [encode_percentEncode hp, Utf8.encode_ofList]
  exact (keepsEscapes_encodedBytes hp hsign hdigit).percentDecode_eq keepsEscapes_utf8 cs

end LiveConfig.Url
