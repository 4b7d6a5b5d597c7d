import LiveConfig.Proofs.Utf8Characters
import LiveConfig.Text.Base64

/-!
Writing base 64, and reading it back.

Main statement: `decode_eq_ok_iff`, a text is read as some bytes just if it is what `Base64.encode`
writes for them; so a text that is cut short or spoilt is not read at all.
-/

namespace LiveConfig.Base64

/-! ### Digits -/

section Digits

variable {n a b c d : Nat}

theorem digit?_symbol (h : n < 64) : digit? (symbol n) = some n := by
  have hall : ∀ n < 64, digit? (symbol n) = some n := by decide
  exact hall n h

theorem symbol_ne_pad (h : n < 64) : symbol n ≠ pad := by
  have hall : ∀ n < 64, symbol n ≠ pad := by decide
  exact hall n h

theorem symbol_lt (h : n < 64) : (symbol n).toNat < 0x80 := by
  have hall : ∀ n < 64, (symbol n).toNat < 0x80 := by decide
  exact hall n h

/-- Only the sign of a digit is read as the digit. -/
theorem eq_symbol_of_digit? {x : UInt8} (h : digit? x = some n) : n < 64 ∧ x = symbol n := by
  have hall : ∀ k ∈ digit? x, k < 64 ∧ x = symbol k := forall_byte (by decide +kernel) x
  exact hall n h

theorem digitAt_symbol (offset : Nat) (h : n < 64) : digitAt offset (symbol n) = .ok n := by
  rw [digitAt, digit?_symbol h]

theorem eq_symbol_of_digitAt {offset : Nat} {x : UInt8} (h : digitAt offset x = .ok n) :
    n < 64 ∧ x = symbol n := by
  unfold digitAt at h
  split at h
  · rename_i m hm
    cases h
    exact eq_symbol_of_digit? hm
  · cases h

/-- Four digits are the bits of their three bytes. -/
theorem exists_join_eq (ha : a < 64) (hb : b < 64) (hc : c < 64) (hd : d < 64) :
    ∃ x y z : UInt8, join a b c d = [x, y, z] ∧ x.toNat / 4 = a ∧
      x.toNat % 4 * 16 + y.toNat / 16 = b ∧ y.toNat % 16 * 4 + z.toNat / 64 = c ∧
      z.toNat % 64 = d := by
  refine ⟨_, _, _, rfl, ?_⟩
  simp only [Nat.toUInt8, UInt8.toNat_ofNat']
  omega

/-- The bits of three bytes make up the bytes. -/
theorem join_of_bytes (x y z : UInt8) :
    join (x.toNat / 4) (x.toNat % 4 * 16 + y.toNat / 16) (y.toNat % 16 * 4 + z.toNat / 64)
      (z.toNat % 64) = [x, y, z] := by
  have hx := x.toNat_lt
  have hy := y.toNat_lt
  have hz := z.toNat_lt
  unfold join
  dsimp only
  congr 1
  · refine UInt8.toNat_inj.mp ?_
    simp only [Nat.toUInt8, UInt8.toNat_ofNat']
    omega
  congr 1
  · refine UInt8.toNat_inj.mp ?_
    simp only [Nat.toUInt8, UInt8.toNat_ofNat']
    omega
  congr 1
  refine UInt8.toNat_inj.mp ?_
  simp only [Nat.toUInt8, UInt8.toNat_ofNat']
  omega

end Digits

/-! ### Reading what is written -/

theorem lastDigits_append (ns : List Nat) {t : Bytes} (hns : ∀ n ∈ ns, n < 64)
    (ht : ∀ b ∈ t.head?, b = pad) (offset : Nat) :
    lastDigits offset (ns.map symbol ++ t) = .ok ns := by
  induction ns generalizing offset with
  | nil =>
    cases t with
    | nil => rfl
    | cons b t =>
      obtain rfl : b = pad := ht b rfl
      rfl
  | cons n ns ih =>
    rw [List.forall_mem_cons] at hns
    rw [List.map_cons, List.cons_append, lastDigits, if_neg (symbol_ne_pad hns.1),
      digitAt_symbol offset hns.1, ih hns.2]
    rfl

/-- The groups that are not the last one are read one by one. -/
theorem decodeFrom_group {a b c d : Nat} (ha : a < 64) (hb : b < 64) (hc : c < 64) (hd : d < 64)
    {s : Bytes} (hs : s ≠ []) (offset : Nat) :
    decodeFrom offset (symbol a :: symbol b :: symbol c :: symbol d :: s) =
      (decodeFrom (offset + 4) s).map (join a b c d ++ ·) := by
  obtain ⟨e, s, rfl⟩ := List.exists_cons_of_ne_nil hs
  rw [decodeFrom, digitAt_symbol _ ha, digitAt_symbol _ hb, digitAt_symbol _ hc,
    digitAt_symbol _ hd]
  cases decodeFrom (offset + 4) (e :: s) <;> rfl

theorem encode_ne_nil {s : Bytes} (h : s ≠ []) : encode s ≠ [] := by
  unfold encode
  split <;> first | exact absurd rfl h | exact List.cons_ne_nil _ _

section LastGroup

variable {a b c d : Nat}

theorem decodeLast_two (ha : a < 64) (hb : b < 64) (hzero : b % 16 = 0) (offset : Nat) :
    decodeLast offset [symbol a, symbol b, pad, pad] = .ok ((join a b 0 0).take 1) := by
  have hdigits : lastDigits offset [symbol a, symbol b, pad, pad] = .ok [a, b] :=
    lastDigits_append [a, b] (t := [pad, pad]) (by simp [ha, hb]) (by simp) offset
  rw [decodeLast, hdigits]
  simp [bind, Except.bind, pure, Except.pure, hzero]

theorem decodeLast_three (ha : a < 64) (hb : b < 64) (hc : c < 64) (hzero : c % 4 = 0)
    (offset : Nat) :
    decodeLast offset [symbol a, symbol b, symbol c, pad] = .ok ((join a b c 0).take 2) := by
  have hdigits : lastDigits offset [symbol a, symbol b, symbol c, pad] = .ok [a, b, c] :=
    lastDigits_append [a, b, c] (t := [pad]) (by simp [ha, hb, hc]) (by simp) offset
  rw [decodeLast, hdigits]
  simp [bind, Except.bind, pure, Except.pure, hzero]

theorem decodeLast_four (ha : a < 64) (hb : b < 64) (hc : c < 64) (hd : d < 64) (offset : Nat) :
    decodeLast offset [symbol a, symbol b, symbol c, symbol d] = .ok (join a b c d) := by
  have hdigits : lastDigits offset [symbol a, symbol b, symbol c, symbol d] = .ok [a, b, c, d] :=
    lastDigits_append [a, b, c, d] (t := []) (by simp [ha, hb, hc, hd]) (by simp) offset
  rw [decodeLast, hdigits]
  simp [bind, Except.bind, pure, Except.pure]

end LastGroup

/-- What is written is read back. -/
theorem decodeFrom_encode (offset : Nat) (s : Bytes) : decodeFrom offset (encode s) = .ok s := by
  induction s using encode.induct generalizing offset with
  | case1 => rfl
  | case2 x =>
    have hx := x.toNat_lt
    have hlast := decodeLast_two (a := x.toNat / 4) (b := x.toNat % 4 * 16) (by omega) (by omega)
      (by omega) offset
    have hjoin := join_of_bytes x 0 0
    simp only [UInt8.toNat_zero, Nat.zero_div, Nat.zero_mod, Nat.zero_mul, Nat.add_zero] at hjoin
    rw [hjoin] at hlast
    exact hlast
  | case3 x y =>
    have hx := x.toNat_lt
    have hy := y.toNat_lt
    have hlast := decodeLast_three (a := x.toNat / 4) (b := x.toNat % 4 * 16 + y.toNat / 16)
      (c := y.toNat % 16 * 4) (by omega) (by omega) (by omega) (by omega) offset
    have hjoin := join_of_bytes x y 0
    simp only [UInt8.toNat_zero, Nat.zero_div, Nat.zero_mod, Nat.add_zero] at hjoin
    rw [hjoin] at hlast
    exact hlast
  | case4 x y z s ih =>
    have hx := x.toNat_lt
    have hy := y.toNat_lt
    have hz := z.toNat_lt
    have ha : x.toNat / 4 < 64 := by omega
    have hb : x.toNat % 4 * 16 + y.toNat / 16 < 64 := by omega
    have hc : y.toNat % 16 * 4 + z.toNat / 64 < 64 := by omega
    have hd : z.toNat % 64 < 64 := by omega
    by_cases hs : s = []
    · subst hs
      have hlast := decodeLast_four ha hb hc hd offset
      rw [join_of_bytes] at hlast
      exact hlast
    · rw [encode, decodeFrom_group ha hb hc hd (encode_ne_nil hs), ih, join_of_bytes]
      rfl

/-! ### What is read has been written -/

theorem eq_append_of_lastDigits {offset : Nat} {s : Bytes} {ns : List Nat}
    (h : lastDigits offset s = .ok ns) : (∀ n ∈ ns, n < 64) ∧ ∃ t, s = ns.map symbol ++ t := by
  induction s generalizing offset ns with
  | nil =>
    cases h
    exact ⟨nofun, [], rfl⟩
  | cons x s ih =>
    unfold lastDigits at h
    split at h
    · cases h
      exact ⟨nofun, _, rfl⟩
    · cases hx : digitAt offset x with
      | error e => rw [hx] at h; cases h
      | ok n =>
        cases hs : lastDigits (offset + 1) s with
        | error e => rw [hx, hs] at h; cases h
        | ok ms =>
          rw [hx, hs] at h
          cases h
          obtain ⟨hn, rfl⟩ := eq_symbol_of_digitAt hx
          obtain ⟨hms, t, rfl⟩ := ih hs
          exact ⟨List.forall_mem_cons.mpr ⟨hn, hms⟩, t, rfl⟩

section LastGroup

variable {a b c d : Nat}

/-- The zero bits that fill up the digits of one byte are dropped. -/
theorem encode_one (ha : a < 64) (hb : b < 64) (hzero : b % 16 = 0) :
    encode ((join a b 0 0).take 1) = [symbol a, symbol b, pad, pad] := by
  obtain ⟨x, y, z, hjoin, hxa, hxb, -, -⟩ := exists_join_eq ha hb (c := 0) (d := 0) (by omega)
    (by omega)
  have hy := y.toNat_lt
  rw [hjoin, List.take_succ_cons, List.take_zero, encode, hxa,
    show x.toNat % 4 * 16 = b by omega]

theorem encode_two (ha : a < 64) (hb : b < 64) (hc : c < 64) (hzero : c % 4 = 0) :
    encode ((join a b c 0).take 2) = [symbol a, symbol b, symbol c, pad] := by
  obtain ⟨x, y, z, hjoin, hxa, hxb, hyc, -⟩ := exists_join_eq ha hb hc (d := 0) (by omega)
  have hz := z.toNat_lt
  rw [hjoin, List.take_succ_cons, List.take_succ_cons, List.take_zero, encode, hxa, hxb,
    show y.toNat % 16 * 4 = c by omega]

/-- Four digits hold the bits of their bytes. -/
theorem encode_join_append (ha : a < 64) (hb : b < 64) (hc : c < 64) (hd : d < 64) (s : Bytes) :
    encode (join a b c d ++ s) = symbol a :: symbol b :: symbol c :: symbol d :: encode s := by
  obtain ⟨x, y, z, hjoin, hxa, hxb, hyc, hzd⟩ := exists_join_eq ha hb hc hd
  rw [hjoin, List.cons_append, List.cons_append, List.cons_append, List.nil_append, encode, hxa,
    hxb, hyc, hzd]

end LastGroup

theorem eq_encode_of_decodeLast {offset : Nat} {s r : Bytes} (h : decodeLast offset s = .ok r) :
    s = encode r := by
  unfold decodeLast at h
  cases hdigits : lastDigits offset s with
  | error e => rw [hdigits] at h; cases h
  | ok ns =>
    obtain ⟨hns, t, rfl⟩ := eq_append_of_lastDigits hdigits
    rw [hdigits] at h
    have hdrop : (ns.map symbol ++ t).drop ns.length = t := by
      have hlength : (ns.map symbol).length = ns.length := List.length_map symbol
      rw [← hlength]
      exact List.drop_left
    simp only [bind, Except.bind, hdrop] at h
    split at h
    · cases h
    split at h
    · cases h
    rename_i hpads
    split at h
    · cases h
    split at h
    · cases h
    rename_i hlength
    -- Two to four digits are left, and padding up to four signs.
    have ht : t = List.replicate t.length pad :=
      List.eq_replicate_of_mem fun b hb => Decidable.byContradiction fun hne =>
        hpads (List.any_eq_true.mpr ⟨b, hb, decide_eq_true hne⟩)
    have hcount : ns.length + t.length = 4 := by simpa using hlength
    rcases ns with _ | ⟨a, _ | ⟨b, _ | ⟨c, _ | ⟨d, _ | ⟨e, ns⟩⟩⟩⟩⟩
    · cases h
    · cases h
    · obtain ⟨ha, hb⟩ : a < 64 ∧ b < 64 := by simpa using hns
      rw [ht, show t.length = 2 by simp at hcount; omega]
      dsimp only at h
      split at h
      · rename_i hzero
        cases h
        exact (encode_one ha hb hzero).symm
      · cases h
    · obtain ⟨ha, hb, hc⟩ : a < 64 ∧ b < 64 ∧ c < 64 := by simpa using hns
      rw [ht, show t.length = 1 by simp at hcount; omega]
      dsimp only at h
      split at h
      · rename_i hzero
        cases h
        exact (encode_two ha hb hc hzero).symm
      · cases h
    · obtain ⟨ha, hb, hc, hd⟩ : a < 64 ∧ b < 64 ∧ c < 64 ∧ d < 64 := by simpa using hns
      rw [ht, show t.length = 0 by simpa using hcount]
      cases h
      rw [← List.append_nil (join a b c d), encode_join_append ha hb hc hd]
      rfl
    · cases h

theorem eq_encode_of_decodeFrom {offset : Nat} {s r : Bytes} (h : decodeFrom offset s = .ok r) :
    s = encode r := by
  induction offset, s using decodeFrom.induct generalizing r with
  | case1 =>
    cases h
    rfl
  | case2 offset x y z w e s ih =>
    rw [decodeFrom] at h
    cases hx : digitAt offset x with
    | error f => rw [hx] at h; cases h
    | ok a =>
    cases hy : digitAt (offset + 1) y with
    | error f => rw [hx, hy] at h; cases h
    | ok b =>
    cases hz : digitAt (offset + 2) z with
    | error f => rw [hx, hy, hz] at h; cases h
    | ok c =>
    cases hw : digitAt (offset + 3) w with
    | error f => rw [hx, hy, hz, hw] at h; cases h
    | ok d =>
    cases hs : decodeFrom (offset + 4) (e :: s) with
    | error f => rw [hx, hy, hz, hw, hs] at h; cases h
    | ok t =>
    rw [hx, hy, hz, hw, hs] at h
    cases h
    obtain ⟨ha, rfl⟩ := eq_symbol_of_digitAt hx
    obtain ⟨hb, rfl⟩ := eq_symbol_of_digitAt hy
    obtain ⟨hc, rfl⟩ := eq_symbol_of_digitAt hz
    obtain ⟨hd, rfl⟩ := eq_symbol_of_digitAt hw
    rw [encode_join_append ha hb hc hd, ← ih hs]
  | case3 offset s hne hgroup =>
    unfold decodeFrom at h
    split at h
    · exact absurd rfl hne
    · exact (hgroup _ _ _ _ _ _ rfl).elim
    · exact eq_encode_of_decodeLast h

theorem length_encode (s : Bytes) : (encode s).length % 4 = 0 := by
  induction s using encode.induct with
  | case1 | case2 | case3 => simp [encode]
  | case4 x y z s ih =>
    rw [encode, List.length_cons, List.length_cons, List.length_cons, List.length_cons]
    omega

/-- **Reading is undone by writing, and the other way round**: a text is read as some bytes just if
they are written as it. -/
theorem decode_eq_ok_iff {s r : Bytes} : decode s = .ok r ↔ s = encode r := by
  unfold decode
  cases hlast : s.getLast? with
  | none =>
    obtain rfl := List.getLast?_eq_none_iff.mp hlast
    refine ⟨fun h => ?_, fun h => ?_⟩
    · cases h
      rfl
    · by_cases hr : r = []
      · rw [hr]
      · exact absurd h.symm (encode_ne_nil hr)
  | some b =>
    dsimp only
    split
    · rename_i hspoilt
      refine iff_of_false nofun fun h => ?_
      rw [h, length_encode] at hspoilt
      exact absurd hspoilt.1 (by decide)
    · exact ⟨eq_encode_of_decodeFrom, fun h => h ▸ decodeFrom_encode 0 r⟩

/-! ### Texts -/

theorem encode_ascii (s : Bytes) : ∀ b ∈ encode s, b.toNat < 0x80 := by
  have hpad : pad.toNat < 0x80 := by decide
  induction s using encode.induct with
  | case1 => nofun
  | case2 x =>
    have hx := x.toNat_lt
    simp only [encode, List.forall_mem_cons]
    exact ⟨symbol_lt (by omega), symbol_lt (by omega), hpad, hpad, nofun⟩
  | case3 x y =>
    have hx := x.toNat_lt
    have hy := y.toNat_lt
    simp only [encode, List.forall_mem_cons]
    exact ⟨symbol_lt (by omega), symbol_lt (by omega), symbol_lt (by omega), hpad, nofun⟩
  | case4 x y z s ih =>
    have hx := x.toNat_lt
    have hy := y.toNat_lt
    have hz := z.toNat_lt
    simp only [encode, List.forall_mem_cons]
    exact ⟨symbol_lt (by omega), symbol_lt (by omega), symbol_lt (by omega), symbol_lt (by omega),
      ih⟩

theorem encode_text (s : Bytes) : Utf8.encode (text s) = encode s := by
  have hchar (b : UInt8) (hb : b.toNat < 0x80) : (Char.ofNat b.toNat).toNat = b.toNat :=
    toNat_charOfNat (.inl (by omega))
  rw [text, Utf8.encode_ascii]
  · rw [List.map_map]
    refine (List.map_congr_left fun b hb => ?_).trans (List.map_id _)
    rw [Function.comp_apply, Ascii.byte, hchar b (encode_ascii s b hb)]
    exact UInt8.ofNat_toNat
  · intro c hc
    obtain ⟨b, hb, rfl⟩ := List.mem_map.mp hc
    rw [hchar b (encode_ascii s b hb)]
    exact encode_ascii s b hb

/-- A text is read as the bytes whose text it is. -/
theorem decode_text_eq_ok_iff {t : String} {r : Bytes} :
    decode (Utf8.encode t) = .ok r ↔ t = text r := by
  rw [decode_eq_ok_iff, ← encode_text, Utf8.encode_injective.eq_iff]

end LiveConfig.Base64
