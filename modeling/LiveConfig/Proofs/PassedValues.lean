import LiveConfig.Json.Skip
import LiveConfig.Proofs.ContainerTexts

/-!
Passing over values.

Main statements: `skipValue_append`, a value that nobody asked for is passed over, however deep it
is nested, and no byte behind it; `IsValueText.unique`, so no value text is the front of another
one.
-/

namespace LiveConfig.Json

variable {s r v w d f e body : Bytes} {n fuel : Nat}

/-! ### Numbers -/

theorem skipDigits_append {ds : Bytes} (hds : AreDigits ds) (hr : startsWithDigit r = false)
    (n : Nat) : skipDigits n (ds ++ r) = (n + ds.length, r) := by
  induction ds generalizing n with
  | nil =>
    cases r with
    | nil => rfl
    | cons b r => exact if_neg (Bool.eq_false_iff.mp hr)
  | cons b ds ih =>
    obtain ⟨hb, hds⟩ := List.forall_mem_cons.mp hds
    rw [List.cons_append, skipDigits, if_pos hb, ih hds, List.length_cons, Nat.add_assoc,
      Nat.add_comm 1]

theorem IsExponent.startsWithDigit (he : IsExponent e) (hr : EndsNumber r) :
    startsWithDigit (e ++ r) = false := by
  cases he with
  | none => exact hr.startsWithDigit
  | @digits e _ _ he =>
    have hmark : ∀ b : UInt8, isExponentMark b = true → Ascii.isDigit b = false := by
      intro b hb
      rcases Bool.or_eq_true_iff.mp hb with hb | hb <;> rw [eq_of_beq hb] <;> rfl
    exact hmark e he

theorem takeByteSign_append {sign : Bytes} (hsign : IsExponentSign sign) {b : UInt8}
    (hb : Ascii.isDigit b = true) : (takeByteSign (sign ++ b :: s)).2 = b :: s := by
  rcases hsign with rfl | rfl | rfl
  · rw [List.nil_append, takeByteSign, if_neg (ne_of_isDigit hb rfl),
      if_neg (ne_of_isDigit hb rfl)]
  · rfl
  · rfl

theorem skipOptionalExponent_append (he : IsExponent e) (hr : EndsNumber r) :
    skipOptionalExponent (e ++ r) = .ok r := by
  cases he with
  | none =>
    cases r with
    | nil => rfl
    | cons b r => exact if_neg (Bool.eq_false_iff.mp (hr b rfl).2.2)
  | @digits e sign ds he hsign hds hne =>
    obtain ⟨b, ds, rfl⟩ := List.exists_cons_of_ne_nil hne
    obtain ⟨hb, hds⟩ := List.forall_mem_cons.mp hds
    rw [List.cons_append, skipOptionalExponent, if_pos he, skipExponent, List.append_assoc,
      List.cons_append, takeByteSign_append hsign hb]
    dsimp only
    rw [if_pos hb, skipDigits_append hds hr.startsWithDigit]

theorem skipAfterInteger_append (hf : IsFraction f) (he : IsExponent e) (hr : EndsNumber r) :
    skipAfterInteger (f ++ (e ++ r)) = .ok r := by
  have hexponent := skipOptionalExponent_append he hr
  cases hf with
  | none =>
    rw [List.nil_append]
    cases hs : e ++ r with
    | nil => rwa [hs] at hexponent
    | cons b s =>
      have hb : b ≠ Ascii.point := by
        rintro rfl
        cases he with
        | none => exact (hr _ (congrArg List.head? hs)).2.1 rfl
        | digits hmark =>
          rw [(List.cons.inj hs).1] at hmark
          exact absurd hmark (by decide)
      rw [skipAfterInteger, if_neg hb, ← hs, hexponent]
  | @digits ds hds hne =>
    have hcount : 0 + ds.length ≠ 0 := by
      rw [Nat.zero_add]
      exact fun h => hne (List.length_eq_zero_iff.mp h)
    rw [List.cons_append, skipAfterInteger, if_pos rfl,
      skipDigits_append hds (he.startsWithDigit hr)]
    dsimp only
    rw [if_neg hcount, hexponent]

theorem IsFraction.startsWithDigit (hf : IsFraction f) (he : IsExponent e) (hr : EndsNumber r) :
    startsWithDigit (f ++ (e ++ r)) = false := by
  cases hf with
  | none => exact he.startsWithDigit hr
  | digits => rfl

theorem skipNumber_append (hd : IsNumeral n d) (hf : IsFraction f) (he : IsExponent e)
    (hr : EndsNumber r) : skipNumber (d ++ (f ++ (e ++ r))) = .ok r := by
  have hstart := hf.startsWithDigit he hr
  have hafter := skipAfterInteger_append hf he hr
  obtain ⟨b, ds, rfl⟩ := List.exists_cons_of_ne_nil hd.ne_nil
  obtain ⟨hb, hds⟩ := List.forall_mem_cons.mp hd.digits
  by_cases hzero : b = Ascii.zero
  · subst hzero
    obtain rfl : ds = [] := (List.cons.inj (hd.front rfl)).2
    rw [List.cons_append, skipNumber, if_pos rfl, List.nil_append, hstart]
    exact hafter
  · rw [List.cons_append, skipNumber, if_neg hzero, if_pos hb, skipDigits_append hds hstart]
    exact hafter

/-! ### Text values -/

theorem skipEscape_of_letter {b : UInt8} (hb : (shortEscape? b).isSome) :
    skipEscape (b :: s) = .ok s := by
  have hb : [0x22, 0x5C, 0x2F, 0x62, 0x66, 0x6E, 0x72, 0x74].contains b = true := by
    simp only [List.contains_cons, List.contains_nil, Bool.or_eq_true, beq_iff_eq]
    grind [shortEscape?]
  exact if_pos hb

theorem skipEscape_of_unit {t : Bytes} (ht : Hex4 n t) : skipEscape (0x75 :: (t ++ s)) = .ok s := by
  have hread : readHex4 (t ++ s) = .ok (n, s) := readHex4_eq_ok_iff.mpr ⟨t, ht, rfl⟩
  rw [skipEscape, if_neg (by decide), if_pos rfl, hread]
  rfl

theorem skipText_append (h : IsTextBody body) (hfuel : body.length < fuel) (r : Bytes) :
    skipText fuel (body ++ Ascii.quote :: r) = .ok r := by
  induction h generalizing fuel with
  | nil =>
    cases fuel with
    | zero => cases hfuel
    | succ fuel => rw [List.nil_append, skipText, if_pos rfl]
  | byte hquote hbackslash hmin _ ih =>
    rw [List.length_cons] at hfuel
    cases fuel with
    | zero => cases hfuel
    | succ fuel =>
      rw [List.cons_append, skipText, if_neg hquote, if_neg hbackslash, if_neg hmin,
        ih (by omega)]
  | letter hb _ ih =>
    rw [List.length_cons, List.length_cons] at hfuel
    cases fuel with
    | zero => cases hfuel
    | succ fuel =>
      rw [List.cons_append, List.cons_append, skipText, if_neg (by decide), if_pos rfl,
        skipEscape_of_letter hb]
      exact ih (by omega)
  | unit ht _ ih =>
    rw [List.length_cons, List.length_cons, List.length_append] at hfuel
    cases fuel with
    | zero => cases hfuel
    | succ fuel =>
      rw [List.cons_append, List.cons_append, List.append_assoc, skipText, if_neg (by decide),
        if_pos rfl, skipEscape_of_unit ht]
      exact ih (by omega)

/-- A text value is passed over up to its closing quote. -/
theorem skipText_literal (h : IsTextBody body) (r : Bytes) :
    skipText ((body ++ Ascii.quote :: r).length + 1) (body ++ Ascii.quote :: r) = .ok r := by
  refine skipText_append h ?_ r
  rw [List.length_append]
  omega

/-! ### Scalars -/

/-- Whether a byte begins a value that is no container. -/
def beginsScalar (b : UInt8) : Bool :=
  [0x6E, 0x74, 0x66, Ascii.minus, Ascii.quote].contains b || Ascii.isDigit b

theorem of_beginsScalar {b : UInt8} : beginsScalar b = true →
    isJsonBlank b = false ∧ b ≠ Ascii.openBracket ∧ b ≠ Ascii.openBrace ∧
      b ≠ Ascii.closeBracket ∧ b ≠ Ascii.closeBrace :=
  forall_byte (by decide +kernel) b

/-- Whether a value text comes to its end where the bytes `r` follow: a number could go on. -/
def EndsBefore (v r : Bytes) : Prop := IsNumberText v → EndsNumber r

theorem skipScalar_of_isDigit {b : UInt8} (hb : Ascii.isDigit b = true) (s : Bytes) :
    skipScalar b s = skipNumber (b :: s) := by
  rw [skipScalar, if_neg (ne_of_isDigit hb rfl), if_neg (ne_of_isDigit hb rfl),
    if_neg (ne_of_isDigit hb rfl), if_neg (ne_of_isDigit hb rfl), if_pos hb]

theorem skipScalar_append (h : IsScalarText v) (hr : EndsBefore v r) :
    ∃ b t, v = b :: t ∧ beginsScalar b = true ∧ skipScalar b (t ++ r) = .ok r := by
  cases h with
  | null => exact ⟨_, _, rfl, rfl, rfl⟩
  | true => exact ⟨_, _, rfl, rfl, rfl⟩
  | false => exact ⟨_, _, rfl, rfl, rfl⟩
  | number h =>
    have hends := hr h
    obtain @⟨negative, n, d, f, e, hd, hf, he⟩ := h
    have hskip := skipNumber_append hd hf he hends
    cases negative with
    | true =>
      refine ⟨Ascii.minus, _, rfl, rfl, ?_⟩
      rw [← List.append_assoc f, ← List.append_assoc d] at hskip
      exact hskip
    | false =>
      obtain ⟨b, ds, rfl⟩ := List.exists_cons_of_ne_nil hd.ne_nil
      have hb : Ascii.isDigit b = true := hd.digits b List.mem_cons_self
      refine ⟨b, _, rfl, Bool.or_eq_true_iff.mpr (.inr hb), ?_⟩
      rw [← List.append_assoc f, ← List.append_assoc (b :: ds)] at hskip
      rw [skipScalar_of_isDigit hb]
      exact hskip
  | text h =>
    refine ⟨Ascii.quote, _, rfl, rfl, ?_⟩
    rw [List.append_assoc]
    exact skipText_literal h r

/-! ### Values -/

/-- A value begins with no blank and with no closing bracket. -/
theorem IsValueText.front (h : IsValueText v) :
    ∃ b t, v = b :: t ∧ isJsonBlank b = false ∧ b ≠ Ascii.closeBracket ∧ b ≠ Ascii.closeBrace := by
  cases h with
  | scalar h =>
    obtain ⟨b, t, hv, hb, -⟩ := skipScalar_append (r := []) h fun _ => nofun
    obtain ⟨hblank, -, -, hbracket, hbrace⟩ := of_beginsScalar hb
    exact ⟨b, t, hv, hblank, hbracket, hbrace⟩
  | container c => cases c <;> exact ⟨_, _, rfl, by decide, by decide, by decide⟩

theorem IsValueText.beginsWord (h : IsValueText v) : BeginsWord v := by
  obtain ⟨b, t, rfl, hb, -⟩ := h.front
  exact .cons hb t

/-- An item begins with no blank, and with no bracket that would close its container. -/
theorem ItemOf.front {c : Container} {t : Bytes} (h : ItemOf c v t) (hv : IsValueText v) :
    ∃ b u, t = b :: u ∧ isJsonBlank b = false ∧ b ≠ c.closing := by
  cases h with
  | item =>
    obtain ⟨b, u, hfront, hb, hclosing, -⟩ := hv.front
    exact ⟨b, u, hfront, hb, hclosing⟩
  | entry _ ht =>
    obtain ⟨-, -⟩ := ht
    exact ⟨_, _, rfl, rfl, by decide⟩

/-- The key of an item is passed over, up to the blanks in front of its value. -/
theorem skipKey_item {c : Container} {t : Bytes} (h : ItemOf c v t) (hw : AreBlanks w)
    (r : Bytes) : ∃ w', AreBlanks w' ∧ w'.length + v.length ≤ w.length + t.length ∧
      skipKey c (w ++ (t ++ r)) = .ok (w' ++ (v ++ r)) := by
  cases h with
  | item => exact ⟨w, hw, Nat.le_refl _, rfl⟩
  | @entry body _ _ hbody ht =>
    obtain @⟨u, u', hu, hu'⟩ := ht
    refine ⟨u', hu', by simp only [List.length_append, List.length_cons]; omega, ?_⟩
    have hskip := skipText_literal hbody (u ++ Ascii.colon :: (u' ++ (v ++ r)))
    have hcolon := readColon_append hu (u' ++ (v ++ r))
    simp only [List.cons_append, List.append_assoc, List.nil_append]
    rw [skipKey, skipBlanks_word hw (.cons rfl _)]
    dsimp only
    rw [if_pos rfl, hskip]
    change (readColon _ >>= fun p => Except.ok p.2) = _
    rw [hcolon]
    rfl

/-- What is done when a value inside the containers `open_` has been passed over. -/
def goOn (fuel : Nat) (open_ : List Container) (s : Bytes) : Except Fault Bytes :=
  match open_ with
  | [] => .ok s
  | c :: open_ => skipInside fuel true c open_ s

/-- Whether a value is passed over, wherever it stands: what is left of the fuel is enough for the
bytes behind it. -/
def IsPassed (v : Bytes) : Prop :=
  ∀ ⦃w r⦄ (open_ : List Container) ⦃fuel : Nat⦄, AreBlanks w → EndsBefore v r →
    2 * (w ++ (v ++ r)).length + 2 ≤ fuel →
    ∃ left, 2 * r.length + 1 ≤ left ∧ skipWithin fuel open_ (w ++ (v ++ r)) = goOn left open_ r

theorem isPassed_of_isScalarText (h : IsScalarText v) : IsPassed v := by
  intro w r open_ fuel hw hr hfuel
  obtain ⟨b, t, rfl, hb, hskip⟩ := skipScalar_append h hr
  obtain ⟨hblank, hbracket, hbrace, -⟩ := of_beginsScalar hb
  simp only [List.length_append, List.length_cons] at hfuel
  cases fuel with
  | zero => omega
  | succ fuel =>
    refine ⟨fuel, by omega, ?_⟩
    rw [skipWithin, skipBlanks_word hw ((BeginsWord.cons hblank t).append r)]
    dsimp only [List.cons_append]
    rw [if_neg hbracket, if_neg hbrace, hskip]
    cases open_ <;> rfl

/-- An item is passed over if its value is. -/
theorem skipItem {c : Container} {t : Bytes} (open_ : List Container) (hitem : ItemOf c v t)
    (hv : IsPassed v) (hw : AreBlanks w) (hr : EndsNumber r)
    (hfuel : 2 * (w ++ (t ++ r)).length + 2 ≤ fuel) : ∃ left, 2 * r.length + 1 ≤ left ∧
      (skipKey c (w ++ (t ++ r)) >>= skipWithin fuel (c :: open_)) =
        skipInside left true c open_ r := by
  obtain ⟨w', hw', hlen, hkey⟩ := skipKey_item hitem hw r
  rw [hkey]
  refine hv (c :: open_) hw' (fun _ => hr) ?_
  simp only [List.length_append] at hfuel ⊢
  omega

/-- What is left of a container is passed over if its values are. -/
theorem skipInside_items {c : Container} {vs : List Bytes} {started : Bool}
    (h : Items c (ItemOf c) started vs s) (hvs : ∀ v ∈ vs, IsValueText v ∧ IsPassed v)
    (open_ : List Container) (hfuel : 2 * (s ++ r).length + (if started then 1 else 3) ≤ fuel) :
    ∃ left, 2 * r.length + 1 ≤ left ∧
      skipInside fuel started c open_ (s ++ r) = goOn left open_ r := by
  -- By induction on what is left of the items: each byte that is passed pays for two steps.
  induction h generalizing fuel with
  | @stop started w hw =>
    simp only [List.length_append, List.length_cons, List.length_nil] at hfuel
    cases fuel with
    | zero => split at hfuel <;> omega
    | succ fuel =>
      refine ⟨fuel, by split at hfuel <;> omega, ?_⟩
      have hclosing : isJsonBlank c.closing = false := by cases c <;> rfl
      rw [List.append_assoc, List.singleton_append, skipInside,
        skipBlanks_word hw (.cons hclosing r)]
      dsimp only
      rw [if_pos rfl]
      cases open_ <;> rfl
  | @first w t s v vs hw hitem hs ih =>
    obtain ⟨⟨hv, hpassed⟩, hvs⟩ := List.forall_mem_cons.mp hvs
    obtain ⟨b, u, rfl, hblank, hclosing⟩ := hitem.front hv
    rw [if_neg Bool.false_ne_true, List.append_assoc, List.append_assoc, List.length_append]
      at hfuel
    cases fuel with
    | zero => omega
    | succ fuel =>
      have hfuel : 2 * ([] ++ (b :: u ++ (s ++ r))).length + 2 ≤ fuel := by
        rw [List.nil_append]
        omega
      obtain ⟨left, hleft, hskip⟩ :=
        skipItem open_ hitem hpassed areBlanks_nil (hs.endsNumber r) hfuel
      obtain ⟨left', hleft', hinside⟩ := ih hvs hleft
      refine ⟨left', hleft', ?_⟩
      rw [List.append_assoc, List.append_assoc, skipInside,
        skipBlanks_word hw ((BeginsWord.cons hblank u).append _)]
      dsimp only [List.cons_append]
      rw [if_neg hclosing, if_neg Bool.false_ne_true]
      exact hskip.trans hinside
  | @next w w' t s v vs hw hw' hitem hs ih =>
    obtain ⟨⟨hv, hpassed⟩, hvs⟩ := List.forall_mem_cons.mp hvs
    rw [if_pos rfl, List.append_assoc, List.cons_append, List.append_assoc, List.append_assoc,
      List.length_append, List.length_cons] at hfuel
    cases fuel with
    | zero => omega
    | succ fuel =>
      have hfuel : 2 * (w' ++ (t ++ (s ++ r))).length + 2 ≤ fuel := by omega
      obtain ⟨left, hleft, hskip⟩ := skipItem open_ hitem hpassed hw' (hs.endsNumber r) hfuel
      obtain ⟨left', hleft', hinside⟩ := ih hvs hleft
      refine ⟨left', hleft', ?_⟩
      have hcomma : Ascii.comma ≠ c.closing := by cases c <;> decide
      rw [List.append_assoc, List.cons_append, List.append_assoc, List.append_assoc, skipInside,
        skipBlanks_word hw (.cons rfl _)]
      dsimp only
      rw [if_neg hcomma, if_pos rfl, if_pos rfl]
      exact hskip.trans hinside

theorem isPassed_of_isValueText (h : IsValueText v) : IsPassed v := by
  induction h with
  | scalar h => exact isPassed_of_isScalarText h
  | @container c vs s hvs h ih =>
    intro w r open_ fuel hw _ hfuel
    simp only [List.length_append, List.length_cons] at hfuel
    cases fuel with
    | zero => omega
    | succ fuel =>
      have hopening : isJsonBlank c.opening = false := by cases c <;> rfl
      have hfuel : 2 * (s ++ r).length + (if false then 1 else 3) ≤ fuel := by
        rw [if_neg Bool.false_ne_true, List.length_append]
        omega
      have hinside := skipInside_items h (fun v hv => ⟨hvs v hv, ih v hv⟩) open_ hfuel
      rw [skipWithin, skipBlanks_word hw ((BeginsWord.cons hopening s).append r)]
      cases c <;> exact hinside

/-- **A value is passed over**, and the blanks in front of it, and no byte behind it. -/
theorem skipValue_append (hw : AreBlanks w) (hv : IsValueText v) (hr : EndsBefore v r) :
    skipValue (w ++ (v ++ r)) = .ok r := by
  obtain ⟨left, -, h⟩ := isPassed_of_isValueText hv [] hw hr (Nat.le_refl _)
  exact h

/-- **No value text is the front of another one.** -/
theorem IsValueText.unique {v' r' : Bytes} (hv : IsValueText v) (hr : EndsBefore v r)
    (hv' : IsValueText v') (hr' : EndsBefore v' r') (h : v ++ r = v' ++ r') : v = v' ∧ r = r' := by
  have hskip := skipValue_append areBlanks_nil hv hr
  rw [h, skipValue_append areBlanks_nil hv' hr'] at hskip
  obtain rfl := Except.ok.inj hskip
  exact ⟨List.append_cancel_right h, rfl⟩

end LiveConfig.Json
