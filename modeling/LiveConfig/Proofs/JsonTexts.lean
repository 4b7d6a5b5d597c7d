import LiveConfig.Proofs.NumberLiterals

/-!
Which bytes are a JSON value.

`Json.IsValueText` is the grammar of values, nested as deep as they like and with blanks wherever
they may stand; text values need not be valid.  What is
printed and what readers take is described by these words.
-/

namespace LiveConfig.Json

variable {s r v w : Bytes}

/-! ### Blanks -/

/-- Whether all bytes are blanks. -/
def AreBlanks (w : Bytes) : Prop := ∀ b ∈ w, isJsonBlank b = true

theorem areBlanks_nil : AreBlanks [] := List.forall_mem_nil _

/-- Whether a text begins with something other than a blank. -/
def BeginsWord (s : Bytes) : Prop := ∃ b ∈ s.head?, isJsonBlank b = false

theorem BeginsWord.cons {b : UInt8} (hb : isJsonBlank b = false) (s : Bytes) :
    BeginsWord (b :: s) := ⟨b, rfl, hb⟩

theorem BeginsWord.append (h : BeginsWord v) (r : Bytes) : BeginsWord (v ++ r) := by
  obtain ⟨b, hfront, hb⟩ := h
  exact ⟨b, List.mem_head?_append_of_mem_head? hfront, hb⟩

theorem skipBlanks_of_beginsWord (h : BeginsWord s) : skipBlanks s = s := by
  obtain ⟨b, hfront, hb⟩ := h
  obtain ⟨t, rfl⟩ := List.head?_eq_some_iff.mp hfront
  rw [skipBlanks, List.dropWhile_cons, if_neg (Bool.eq_false_iff.mp hb)]

theorem skipBlanks_append (hw : AreBlanks w) (s : Bytes) : skipBlanks (w ++ s) = skipBlanks s :=
  List.dropWhile_append_of_pos hw

theorem skipBlanks_word (hw : AreBlanks w) (hs : BeginsWord s) : skipBlanks (w ++ s) = s :=
  (skipBlanks_append hw s).trans (skipBlanks_of_beginsWord hs)

theorem endsNumber_cons {b : UInt8}
    (hb : Ascii.isDigit b = false ∧ b ≠ Ascii.point ∧ isExponentMark b = false) :
    EndsNumber (b :: s) := by
  rintro c hc
  obtain rfl : b = c := Option.some.inj hc
  exact hb

/-- Blanks end a number. -/
theorem AreBlanks.endsNumber_append (hw : AreBlanks w) (hs : EndsNumber s) :
    EndsNumber (w ++ s) := by
  cases w with
  | nil => exact hs
  | cons b w =>
    have hblank : isJsonBlank b = true →
        Ascii.isDigit b = false ∧ b ≠ Ascii.point ∧ isExponentMark b = false :=
      forall_byte (by decide +kernel) b
    exact endsNumber_cons (hblank (hw b List.mem_cons_self))

/-! ### Numbers -/

/-- What may stand behind the digits of an integer: a point and digits, or nothing. -/
inductive IsFraction : Bytes → Prop
  | none : IsFraction []
  | digits {ds : Bytes} (h : AreDigits ds) (hne : ds ≠ []) : IsFraction (Ascii.point :: ds)

/-- The sign of an exponent, which may be missing. -/
def IsExponentSign (s : Bytes) : Prop := s = [] ∨ s = [Ascii.plus] ∨ s = [Ascii.minus]

/-- What may stand at the end of a number: an exponent, or nothing. -/
inductive IsExponent : Bytes → Prop
  | none : IsExponent []
  | digits {e : UInt8} {sign ds : Bytes} (he : isExponentMark e = true)
    (hsign : IsExponentSign sign) (h : AreDigits ds) (hne : ds ≠ []) :
    IsExponent (e :: (sign ++ ds))

/-- The text of a number. -/
inductive IsNumberText : Bytes → Prop
  | mk (negative : Bool) {n : Nat} {d f e : Bytes} (hd : IsNumeral n d) (hf : IsFraction f)
    (he : IsExponent e) : IsNumberText (signBytes negative ++ (d ++ (f ++ e)))

theorem IsNumeral.isNumberText {n : Nat} {d : Bytes} (h : IsNumeral n d) : IsNumberText d := by
  have := IsNumberText.mk false h .none .none
  rwa [List.append_nil, List.append_nil] at this

/-! ### Text values -/

/-- Whatever may stand between the quotes of a text value: bytes that need not be characters, and
escapes that need not be either. -/
inductive IsTextBody : Bytes → Prop
  | nil : IsTextBody []
  | byte {b : UInt8} {s : Bytes} (hquote : b ≠ Ascii.quote) (hbackslash : b ≠ Ascii.backslash)
    (hmin : ¬ b < 0x20) (hs : IsTextBody s) : IsTextBody (b :: s)
  | letter {b : UInt8} {s : Bytes} (hb : (shortEscape? b).isSome) (hs : IsTextBody s) :
    IsTextBody (Ascii.backslash :: b :: s)
  | unit {n : Nat} {t s : Bytes} (ht : Hex4 n t) (hs : IsTextBody s) :
    IsTextBody (Ascii.backslash :: 0x75 :: (t ++ s))

theorem IsTextBody.append_of_plain {c : Char} (hc : IsPlain c) (hs : IsTextBody s) :
    IsTextBody (String.utf8EncodeChar c ++ s) := by
  obtain ⟨b, t, hfirst, hplain⟩ := first_utf8EncodeChar (c := c)
  obtain ⟨hquote, hbackslash, hmin⟩ := hplain.mp hc
  have htail : ∀ x ∈ t, 0x80 ≤ x.toNat := by
    by_cases hascii : c.toNat < 0x80
    · rw [Ascii.utf8EncodeChar_eq hascii] at hfirst
      obtain ⟨-, rfl⟩ := List.cons.inj hfirst
      nofun
    · have hbytes := Utf8.forall_mem_utf8EncodeChar (x := c) (by omega)
      rw [hfirst] at hbytes
      exact (List.forall_mem_cons.mp hbytes).2
  rw [hfirst]
  refine .byte hquote hbackslash hmin ?_
  clear hfirst
  induction t with
  | nil => exact hs
  | cons x t ih =>
    obtain ⟨hx, ht⟩ := List.forall_mem_cons.mp htail
    refine .byte ?_ ?_ ?_ (ih ht)
    · rintro rfl
      exact absurd hx (by decide)
    · rintro rfl
      exact absurd hx (by decide)
    · rw [UInt8.lt_iff_toNat_lt]
      exact Nat.not_lt.mpr (Nat.le_trans (by decide) hx)

theorem Spells.isTextBody {cs : List Char} (h : Spells cs s) : IsTextBody s := by
  induction h with
  | nil => exact .nil
  | plain hc _ ih => exact .append_of_plain hc ih
  | escape he _ ih =>
    cases he with
    | short hb => exact .letter (hb ▸ rfl) ih
    | unit ht => exact .unit ht ih
    | pair ht hu =>
      rw [List.cons_append, List.append_assoc]
      exact .unit ht (.unit hu ih)

/-! ### Values -/

/-- The bracket that begins a container. -/
def Container.opening : Container → UInt8
  | list => Ascii.openBracket
  | map => Ascii.openBrace

/-- The items of a container and its closing bracket, with commas and blanks between them.  What
stands for an item is up to `R`; some items have been `started` if a comma has to come first. -/
inductive Items {α : Type} (c : Container) (R : α → Bytes → Prop) : Bool → List α → Bytes → Prop
  | stop {started : Bool} {w : Bytes} (hw : AreBlanks w) : Items c R started [] (w ++ [c.closing])
  | first {w t s : Bytes} {x : α} {xs : List α} (hw : AreBlanks w) (hx : R x t)
    (hs : Items c R true xs s) : Items c R false (x :: xs) (w ++ (t ++ s))
  | next {w w' t s : Bytes} {x : α} {xs : List α} (hw : AreBlanks w) (hw' : AreBlanks w')
    (hx : R x t) (hs : Items c R true xs s) :
    Items c R true (x :: xs) (w ++ Ascii.comma :: (w' ++ (t ++ s)))

/-- An entry of a map: a key, a colon and a value. -/
inductive IsEntry (key v : Bytes) : Bytes → Prop
  | mk {w w' : Bytes} (hw : AreBlanks w) (hw' : AreBlanks w') :
    IsEntry key v (key ++ (w ++ Ascii.colon :: (w' ++ v)))

/-- An entry of a map whose key is the text `k`. -/
def IsEntryOf (k : String) (v t : Bytes) : Prop := ∃ key, IsLiteral k key ∧ IsEntry key v t

/-- What a container may hold for a value: in a map there is a key in front. -/
inductive ItemOf : Container → Bytes → Bytes → Prop
  | item (v : Bytes) : ItemOf .list v v
  | entry {body v t : Bytes} (hkey : IsTextBody body)
    (ht : IsEntry (Ascii.quote :: (body ++ [Ascii.quote])) v t) : ItemOf .map v t

/-- The text of `null`. -/
def nullText : Bytes := 0x6E :: afterN

/-- The text of `true`. -/
def trueText : Bytes := 0x74 :: afterT

/-- The text of `false`. -/
def falseText : Bytes := 0x66 :: afterF

/-- The text of a value that is no container. -/
inductive IsScalarText : Bytes → Prop
  | null : IsScalarText nullText
  | true : IsScalarText trueText
  | false : IsScalarText falseText
  | number {s : Bytes} (h : IsNumberText s) : IsScalarText s
  | text {body : Bytes} (h : IsTextBody body) :
    IsScalarText (Ascii.quote :: (body ++ [Ascii.quote]))

/-- **The text of a value.** -/
inductive IsValueText : Bytes → Prop
  | scalar {s : Bytes} (h : IsScalarText s) : IsValueText s
  | container (c : Container) {vs : List Bytes} {s : Bytes} (hvs : ∀ v ∈ vs, IsValueText v)
    (h : Items c (ItemOf c) false vs s) : IsValueText (c.opening :: s)

section Items

variable {α : Type} {c : Container} {R : α → Bytes → Prop} {started : Bool} {xs : List α}

theorem Items.imp {β : Type} {Q : β → Bytes → Prop} {f : α → β} (h : Items c R started xs s)
    (himp : ∀ x ∈ xs, ∀ t, R x t → Q (f x) t) : Items c Q started (xs.map f) s := by
  induction h with
  | stop hw => exact .stop hw
  | first hw hx _ ih =>
    obtain ⟨hf, hfs⟩ := List.forall_mem_cons.mp himp
    exact .first hw (hf _ hx) (ih hfs)
  | next hw hw' hx _ ih =>
    obtain ⟨hf, hfs⟩ := List.forall_mem_cons.mp himp
    exact .next hw hw' (hf _ hx) (ih hfs)

/-- Whatever can be written one by one can be written together. -/
theorem exists_items (h : ∀ x ∈ xs, ∃ t, R x t) (started : Bool) :
    ∃ s, Items c R started xs s := by
  induction xs generalizing started with
  | nil => exact ⟨_, .stop areBlanks_nil⟩
  | cons x xs ih =>
    obtain ⟨⟨t, ht⟩, hxs⟩ := List.forall_mem_cons.mp h
    obtain ⟨s, hs⟩ := ih hxs true
    cases started with
    | false => exact ⟨_, .first areBlanks_nil ht hs⟩
    | true => exact ⟨_, .next areBlanks_nil areBlanks_nil ht hs⟩

/-- What follows an item ends a number. -/
theorem Items.endsNumber (h : Items c R true xs s) (r : Bytes) : EndsNumber (s ++ r) := by
  cases h with
  | stop hw =>
    rw [List.append_assoc]
    refine hw.endsNumber_append (endsNumber_cons ?_)
    cases c <;> decide
  | next hw =>
    rw [List.append_assoc]
    exact hw.endsNumber_append (endsNumber_cons (by decide))

end Items

theorem IsEntryOf.itemOf {k : String} {t : Bytes} (h : IsEntryOf k v t) : ItemOf .map v t := by
  obtain ⟨key, ⟨body, hbody, rfl⟩, ht⟩ := h
  exact .entry hbody.isTextBody ht

/-- The text of a text value is one of a value. -/
theorem IsLiteral.isValueText {t : String} (h : IsLiteral t s) : IsValueText s := by
  obtain ⟨body, hbody, rfl⟩ := h
  exact .scalar (.text hbody.isTextBody)

theorem IsNumeral.isValueText {n : Nat} (h : IsNumeral n s) : IsValueText s :=
  .scalar (.number h.isNumberText)

end LiveConfig.Json
