import LiveConfig.Proofs.PercentEncoding

/-!
Characters of a byte string.

`Utf8.Encodes` lists the byte strings that stand for one character, by their lengths.  Main
statements: `next?_eq_some_iff`, a character is split off just if the bytes in front are the ones
that encode it; so no bytes are read as a character that is written otherwise, and by
`decode?_eq_some_iff` a byte string is read as a text just if it is the one that encodes it.
-/

namespace LiveConfig

theorem toNat_charOfNat {n : Nat} (h : n.isValidChar) : (Char.ofNat n).toNat = n := by
  unfold Char.ofNat
  rw [dif_pos h]
  rfl

/-- What holds of each of the 256 bytes holds of a byte. -/
@[elab_as_elim]
theorem forall_byte {motive : UInt8 → Prop} (h : ∀ m : Fin 256, motive (UInt8.ofNat m))
    (b : UInt8) : motive b := by
  have hb := h ⟨b.toNat, b.toNat_lt⟩
  rwa [UInt8.ofNat_toNat] at hb

namespace Utf8

theorem encode_append (s t : String) : encode (s ++ t) = encode s ++ encode t := by
  rw [← String.ofList_toList (s := s), ← String.ofList_toList (s := t), ← String.ofList_append,
    encode_ofList, encode_ofList, encode_ofList, List.flatMap_append]

/-! ### First bytes -/

/-- The least byte that may follow a first byte. -/
def secondLow (m : Nat) : Nat := if m = 0xE0 then 0xA0 else if m = 0xF0 then 0x90 else 0x80

/-- The greatest byte that may follow a first byte. -/
def secondHigh (m : Nat) : Nat := if m = 0xED then 0x9F else if m = 0xF4 then 0x8F else 0xBF

theorem lead?_eq (a : UInt8) : lead? a =
    if a.toNat < 0x80 then some (0, 0x80, 0xBF)
    else if a.toNat < 0xC2 ∨ 0xF5 ≤ a.toNat then none
    else
      some (if a.toNat < 0xE0 then 1 else if a.toNat < 0xF0 then 2 else 3,
        (secondLow a.toNat).toUInt8, (secondHigh a.toNat).toUInt8) := by
  exact forall_byte (by decide +kernel) a

theorem secondLow_bounds (m : Nat) : 0x80 ≤ secondLow m ∧ secondLow m < 256 := by
  grind [secondLow]

theorem secondHigh_le (m : Nat) : secondHigh m ≤ 0xBF := by
  grind [secondHigh]

theorem lead?_cases {a lo hi : UInt8} {k : Nat} (h : lead? a = some (k, lo, hi)) :
    k = 0 ∧ a.toNat < 0x80 ∨
      0xC2 ≤ a.toNat ∧ a.toNat < 0xF5 ∧ lo = (secondLow a.toNat).toUInt8 ∧
        hi = (secondHigh a.toNat).toUInt8 ∧
        k = if a.toNat < 0xE0 then 1 else if a.toNat < 0xF0 then 2 else 3 := by
  rw [lead?_eq] at h
  split at h
  · cases h
    exact .inl ⟨rfl, ‹_›⟩
  split at h
  · cases h
  · cases h
    exact .inr ⟨by omega, by omega, rfl, rfl, rfl⟩

/-- Whether a byte may follow a first byte. -/
def IsSecond (a b : UInt8) : Prop :=
  secondLow a.toNat ≤ b.toNat ∧ b.toNat ≤ secondHigh a.toNat

theorem isSecond_iff {a b : UInt8} : (secondLow a.toNat).toUInt8 ≤ b ∧
    b ≤ (secondHigh a.toNat).toUInt8 ↔ IsSecond a b := by
  have hlow := (secondLow_bounds a.toNat).2
  have hhigh : secondHigh a.toNat < 256 := Nat.lt_of_le_of_lt (secondHigh_le _) (by decide)
  have htoNat {n : Nat} (hn : n < 256) : n.toUInt8.toNat = n :=
    (UInt8.toNat_ofNat' ..).trans (Nat.mod_eq_of_lt hn)
  rw [UInt8.le_iff_toNat_le, UInt8.le_iff_toNat_le, htoNat hlow, htoNat hhigh, IsSecond]

/-- Whether a byte goes on with a character. -/
def IsNext (b : UInt8) : Prop := 0x80 ≤ b.toNat ∧ b.toNat < 0xC0

theorem isTail_iff {b : UInt8} : isTail b = true ↔ IsNext b := by
  rw [isTail, Bool.and_eq_true, decide_eq_true_eq, decide_eq_true_eq, UInt8.le_iff_toNat_le,
    UInt8.le_iff_toNat_le, IsNext]
  exact and_congr_right fun _ => Nat.lt_succ_iff.symm

/-! ### The bytes of a character -/

/-- The bytes of a character: one, or a first byte that tells how many follow. -/
inductive Encodes : Char → Bytes → Prop
  | one {a : UInt8} (ha : a.toNat < 0x80) : Encodes (Char.ofNat a.toNat) [a]
  | two {a b : UInt8} (ha : 0xC2 ≤ a.toNat) (ha' : a.toNat < 0xE0) (hb : IsSecond a b) :
    Encodes (Char.ofNat (a.toNat % 32 * 64 + b.toNat % 64)) [a, b]
  | three {a b c : UInt8} (ha : 0xE0 ≤ a.toNat) (ha' : a.toNat < 0xF0) (hb : IsSecond a b)
    (hc : IsNext c) :
    Encodes (Char.ofNat ((a.toNat % 16 * 64 + b.toNat % 64) * 64 + c.toNat % 64)) [a, b, c]
  | four {a b c d : UInt8} (ha : 0xF0 ≤ a.toNat) (ha' : a.toNat < 0xF5) (hb : IsSecond a b)
    (hc : IsNext c) (hd : IsNext d) :
    Encodes (Char.ofNat
      (((a.toNat % 8 * 64 + b.toNat % 64) * 64 + c.toNat % 64) * 64 + d.toNat % 64)) [a, b, c, d]

variable {x : Char} {r s t : Bytes}

/-- A character is split off the bytes that encode it. -/
theorem next?_of_encodes (h : Encodes x t) (r : Bytes) : next? (t ++ r) = some (x, r) := by
  cases h with
  | one ha => simp [next?, lead?_eq, ha]
  | two ha ha' hb =>
    rename_i a b
    have hlead : lead? a = some (1, (secondLow a.toNat).toUInt8, (secondHigh a.toNat).toUInt8) := by
      rw [lead?_eq, if_neg (by omega), if_neg (by omega), if_pos ha']
    simp only [List.cons_append, List.nil_append, next?, hlead, if_pos (isSecond_iff.mpr hb),
      tailBits]
  | three ha ha' hb hc =>
    rename_i a b c
    have hlead : lead? a = some (2, (secondLow a.toNat).toUInt8, (secondHigh a.toNat).toUInt8) := by
      rw [lead?_eq, if_neg (by omega), if_neg (by omega), if_neg (by omega), if_pos ha']
    simp only [List.cons_append, List.nil_append, next?, hlead, ← and_assoc, isSecond_iff,
      isTail_iff, hb, hc, true_and, if_true, tailBits]
  | four ha ha' hb hc hd =>
    rename_i a b c d
    have hlead : lead? a = some (3, (secondLow a.toNat).toUInt8, (secondHigh a.toNat).toUInt8) := by
      rw [lead?_eq, if_neg (by omega), if_neg (by omega), if_neg (by omega), if_neg (by omega)]
    simp only [List.cons_append, List.nil_append, next?, hlead, ← and_assoc, isSecond_iff,
      isTail_iff, hb, hc, hd, true_and, if_true, tailBits]

/-- What is split off is encoded by the bytes that are gone. -/
theorem exists_encodes_of_next? (h : next? s = some (x, r)) : ∃ t, Encodes x t ∧ s = t ++ r := by
  rcases s with _ | ⟨a, s⟩
  · cases h
  cases hlead : lead? a with
  | none =>
    simp only [next?, hlead] at h
    cases h
  | some l =>
    obtain ⟨k, lo, hi⟩ := l
    rcases lead?_cases hlead with ⟨rfl, ha⟩ | ⟨hmin, hmax, rfl, rfl, hk⟩
    · simp only [next?, hlead] at h
      cases h
      exact ⟨[a], .one ha, rfl⟩
    split at hk
    · rename_i ha
      subst hk
      simp only [next?, hlead] at h
      rcases s with _ | ⟨b, s⟩
      · cases h
      dsimp only at h
      split at h
      · rename_i hb
        cases h
        exact ⟨[a, b], .two hmin ha (isSecond_iff.mp hb), rfl⟩
      · cases h
    split at hk
    · rename_i hmin ha
      subst hk
      simp only [next?, hlead] at h
      rcases s with _ | ⟨b, _ | ⟨c, s⟩⟩
      · cases h
      · cases h
      dsimp only at h
      split at h
      · rename_i hb
        cases h
        rw [← and_assoc, isSecond_iff, isTail_iff] at hb
        exact ⟨[a, b, c], .three (by omega) ha hb.1 hb.2, rfl⟩
      · cases h
    · subst hk
      simp only [next?, hlead] at h
      rcases s with _ | ⟨b, _ | ⟨c, _ | ⟨d, s⟩⟩⟩
      · cases h
      · cases h
      · cases h
      dsimp only at h
      split at h
      · rename_i hb
        cases h
        rw [← and_assoc, isSecond_iff, isTail_iff, isTail_iff] at hb
        exact ⟨[a, b, c, d], .four (by omega) hmax hb.1 hb.2.1 hb.2.2, rfl⟩
      · cases h

/-! ### The encoding of a character -/

/-- The bytes of the character of a number. -/
def encoding (n : Nat) : Bytes :=
  if n ≤ 0x7F then [UInt8.ofNat n]
  else if n ≤ 0x7FF then [UInt8.ofNat (n / 64 % 0x20 + 0xC0), UInt8.ofNat (n % 0x40 + 0x80)]
  else if n ≤ 0xFFFF then
    [UInt8.ofNat (n / 4096 % 0x10 + 0xE0), UInt8.ofNat (n / 64 % 0x40 + 0x80),
      UInt8.ofNat (n % 0x40 + 0x80)]
  else
    [UInt8.ofNat (n / 262144 % 0x08 + 0xF0), UInt8.ofNat (n / 4096 % 0x40 + 0x80),
      UInt8.ofNat (n / 64 % 0x40 + 0x80), UInt8.ofNat (n % 0x40 + 0x80)]

theorem utf8EncodeChar_eq (x : Char) : String.utf8EncodeChar x = encoding x.toNat := rfl

theorem ofNat_eq {b : UInt8} {n : Nat} (h : n = b.toNat) : UInt8.ofNat n = b := by
  rw [h, UInt8.ofNat_toNat]

theorem isSecond_iff_bounds {a b : UInt8} : IsSecond a b ↔ IsNext b ∧
    (a.toNat = 0xE0 → 0xA0 ≤ b.toNat) ∧ (a.toNat = 0xED → b.toNat ≤ 0x9F) ∧
    (a.toNat = 0xF0 → 0x90 ≤ b.toNat) ∧ (a.toNat = 0xF4 → b.toNat ≤ 0x8F) := by
  grind [IsSecond, IsNext, secondLow, secondHigh]

theorem eq_encoding_of_encodes (h : Encodes x t) : t = encoding x.toNat := by
  cases h with
  | one ha =>
    rename_i a
    rw [toNat_charOfNat (.inl (by omega)), encoding, if_pos (by omega), ofNat_eq rfl]
  | two ha ha' hb =>
    rename_i a b
    obtain ⟨⟨hb, hb'⟩, -⟩ := isSecond_iff_bounds.mp hb
    rw [toNat_charOfNat (.inl (by omega)), encoding, if_neg (by omega), if_pos (by omega),
      ofNat_eq (b := a) (by omega), ofNat_eq (b := b) (by omega)]
  | three ha ha' hb hc =>
    rename_i a b c
    obtain ⟨⟨hb, hb'⟩, hE0, hED, -⟩ := isSecond_iff_bounds.mp hb
    obtain ⟨hc, hc'⟩ := hc
    have hvalid : ((a.toNat % 16 * 64 + b.toNat % 64) * 64 + c.toNat % 64).isValidChar := by
      unfold Nat.isValidChar
      omega
    rw [toNat_charOfNat hvalid, encoding, if_neg (by omega), if_neg (by omega), if_pos (by omega),
      ofNat_eq (b := a) (by omega), ofNat_eq (b := b) (by omega), ofNat_eq (b := c) (by omega)]
  | four ha ha' hb hc hd =>
    rename_i a b c d
    obtain ⟨⟨hb, hb'⟩, -, -, hF0, hF4⟩ := isSecond_iff_bounds.mp hb
    obtain ⟨hc, hc'⟩ := hc
    obtain ⟨hd, hd'⟩ := hd
    have hvalid : (((a.toNat % 8 * 64 + b.toNat % 64) * 64 + c.toNat % 64) * 64
        + d.toNat % 64).isValidChar := by
      unfold Nat.isValidChar
      omega
    rw [toNat_charOfNat hvalid, encoding, if_neg (by omega), if_neg (by omega), if_neg (by omega),
      ofNat_eq (b := a) (by omega), ofNat_eq (b := b) (by omega), ofNat_eq (b := c) (by omega),
      ofNat_eq (b := d) (by omega)]

theorem encodes_encoding (x : Char) : Encodes x (encoding x.toNat) := by
  have hvalid : x.toNat < 0xD800 ∨ 0xDFFF < x.toNat ∧ x.toNat < 0x110000 := x.valid
  have htoNat {m : Nat} (hm : m < 256) : (UInt8.ofNat m).toNat = m :=
    (UInt8.toNat_ofNat' ..).trans (Nat.mod_eq_of_lt hm)
  have hx : Char.ofNat x.toNat = x := Char.ofNat_toNat x
  generalize x.toNat = n at *
  subst hx
  -- Each of the four forms encodes the number that its bits make up, which is the given one.
  have hself {m : Nat} {t : Bytes} (h : Encodes (Char.ofNat m) t) (hm : m = n) :
      Encodes (Char.ofNat n) t := hm ▸ h
  have htail := @htoNat (n % 0x40 + 0x80) (by omega)
  have htail' := @htoNat (n / 64 % 0x40 + 0x80) (by omega)
  have htail'' := @htoNat (n / 4096 % 0x40 + 0x80) (by omega)
  unfold encoding
  split
  · have ha := @htoNat n (by omega)
    exact hself (.one (by omega)) ha
  split
  · have ha := @htoNat (n / 64 % 0x20 + 0xC0) (by omega)
    refine hself (.two (by omega) (by omega) (isSecond_iff_bounds.mpr ?_)) (by omega)
    unfold IsNext
    omega
  split
  · have ha := @htoNat (n / 4096 % 0x10 + 0xE0) (by omega)
    refine hself (.three (by omega) (by omega) (isSecond_iff_bounds.mpr ?_) ?_) (by omega)
    · unfold IsNext
      omega
    · unfold IsNext
      omega
  · have ha := @htoNat (n / 262144 % 0x08 + 0xF0) (by omega)
    refine hself (.four (by omega) (by omega) (isSecond_iff_bounds.mpr ?_) ?_ ?_) (by omega)
    · unfold IsNext
      omega
    · unfold IsNext
      omega
    · unfold IsNext
      omega

/-- The bytes of a character are the ones that encode it. -/
theorem encodes_iff : Encodes x t ↔ t = String.utf8EncodeChar x :=
  ⟨eq_encoding_of_encodes, fun h => h ▸ encodes_encoding x⟩

/-- Beyond ASCII no byte of a character is the byte of another one. -/
theorem forall_mem_utf8EncodeChar (h : 0x80 ≤ x.toNat) :
    ∀ b ∈ String.utf8EncodeChar x, 0x80 ≤ b.toNat := by
  have hx := encodes_encoding x
  rw [← utf8EncodeChar_eq] at hx
  generalize String.utf8EncodeChar x = t at hx
  cases hx with
  | one ha => rw [toNat_charOfNat (.inl (by omega))] at h; omega
  | two ha ha' hb =>
    simp only [List.forall_mem_cons]
    exact ⟨by omega, (isSecond_iff_bounds.mp hb).1.1, nofun⟩
  | three ha ha' hb hc =>
    simp only [List.forall_mem_cons]
    exact ⟨by omega, (isSecond_iff_bounds.mp hb).1.1, hc.1, nofun⟩
  | four ha ha' hb hc hd =>
    simp only [List.forall_mem_cons]
    exact ⟨by omega, (isSecond_iff_bounds.mp hb).1.1, hc.1, hd.1, nofun⟩

/-- **Splitting off a character** undoes writing it in front, and only that. -/
theorem next?_eq_some_iff : next? s = some (x, r) ↔ s = String.utf8EncodeChar x ++ r := by
  constructor
  · intro h
    obtain ⟨t, ht, rfl⟩ := exists_encodes_of_next? h
    rw [encodes_iff.mp ht]
  · rintro rfl
    exact next?_of_encodes (encodes_encoding x) r

/-! ### Whole texts -/

@[simp] theorem pieces_nil (n : Nat) : pieces n [] = [] := by cases n <;> rfl

theorem mapM_pieces_cons (n : Nat) (a : UInt8) (t : Bytes) :
    (pieces (n + 1) (a :: t)).mapM id =
      (next? (a :: t)).bind fun first => ((pieces n first.2).mapM id).map (first.1 :: ·) := by
  cases hnext : next? (a :: t) with
  | none => simp [pieces, hnext]
  | some first =>
    obtain ⟨x, r⟩ := first
    have hpieces : pieces (n + 1) (a :: t) = some x :: pieces n r := by simp [pieces, hnext]
    rw [hpieces, List.mapM_cons, Option.bind_some]
    cases (pieces n r).mapM id <;> rfl

/-- All pieces of a byte string are characters just if these are encoded in it. -/
theorem mapM_pieces_eq_some_iff {n : Nat} {s : Bytes} {cs : List Char} (hs : s.length ≤ n) :
    (pieces n s).mapM id = some cs ↔ s = cs.flatMap String.utf8EncodeChar := by
  induction n generalizing s cs with
  | zero =>
    obtain rfl : s = [] := List.eq_nil_of_length_eq_zero (Nat.le_zero.mp hs)
    cases cs <;> simp
  | succ n ih =>
    cases s with
    | nil => cases cs <;> simp
    | cons a t =>
      rw [mapM_pieces_cons]
      cases cs with
      | nil => simp [Option.bind_eq_some_iff]
      | cons y ds =>
        rw [List.flatMap_cons, ← next?_eq_some_iff]
        cases hnext : next? (a :: t) with
        | none => simp
        | some first =>
          obtain ⟨x, r⟩ := first
          have hr : r.length ≤ n := by
            have hlen := congrArg List.length (next?_eq_some_iff.mp hnext)
            have hpos := Char.utf8Size_pos x
            simp only [List.length_append, List.length_cons, String.length_utf8EncodeChar]
              at hlen hs
            omega
          simpa [ih hr] using and_comm

/-- **Reading a text** undoes encoding it, and only that. -/
theorem decode?_eq_some_iff {s : Bytes} {t : String} : decode? s = some t ↔ s = encode t := by
  rw [decode?, Option.map_eq_some_iff]
  constructor
  · rintro ⟨cs, hcs, rfl⟩
    rwa [encode_ofList, ← mapM_pieces_eq_some_iff (Nat.le_refl _)]
  · rintro rfl
    refine ⟨t.toList, ?_, t.ofList_toList⟩
    rw [mapM_pieces_eq_some_iff (Nat.le_refl _), ← encode_ofList, String.ofList_toList]

end Utf8

end LiveConfig
