import LiveConfig.Json.Printer
import LiveConfig.Proofs.ContainerTexts
import LiveConfig.Proofs.Equality

/-!
Written values and their reading.

`Json.IsTextOf` says which bytes are a value, and takes count of the containers that stand one
inside the other.  Main statements: `IsTextOf.readsAs`, what is written is read; `isTextOf_compact`
and `isTextOf_prettyAt`, what is printed is written.  Reals are left out: they may be rounded.
-/

namespace LiveConfig.Json

variable {s r u w : Bytes} {n : Nat} {v : Json}

/-! ### Written values -/

/-- Whether at most some number of containers stand one inside the other. -/
def FitsIn : Nat → Json → Prop
  | 0, .list _ => False
  | 0, .map _ => False
  | n + 1, .list xs => ∀ x ∈ xs, FitsIn n x
  | n + 1, .map es => ∀ e ∈ es, FitsIn n e.2
  | _, _ => True

/-- Whether every number in a value is an integer. -/
def IsIntegral (v : Json) : Prop := ∀ n, v.Contains n → ∃ i hi, n = .int i hi

/-- Whether a text is a value without reals that fits in some number of containers. -/
def IsTextOf : Nat → Json → Bytes → Prop
  | _, .null, s => s = nullText
  | _, .bool true, s => s = trueText
  | _, .bool false, s => s = falseText
  | _, .number n, s => ∃ i hi, n = .int i hi ∧ s = Utf8.encode (toString i)
  | _, .text t, s => IsLiteral t s
  | n + 1, .list xs, s => ∃ u, s = Ascii.openBracket :: u ∧ Items .list (IsTextOf n) false xs u
  | n + 1, .map es, s => ∃ u, s = Ascii.openBrace :: u ∧
      Items .map (fun e t => ∃ v, IsEntryOf e.1 v t ∧ IsTextOf n e.2 v) false es u
  | 0, .list _, _ => False
  | 0, .map _, _ => False

/-! ### Reading what is written -/

/-- A value that is no container is read by its first byte. -/
theorem readsAs_scalar {b : UInt8} {t : Bytes} (hblank : isJsonBlank b = false)
    (hcontainer : b ≠ Ascii.openBracket ∧ b ≠ Ascii.openBrace) (hclosing : b ≠ Ascii.closeBracket)
    (h : ∀ r, EndsNumber r → readScalar b (t ++ r) = .ok (v, r)) (levels : Nat) :
    BeginsItem (b :: t) ∧ ReadsAs (readValue levels) v (b :: t) := by
  refine ⟨⟨b, t, rfl, hblank, hclosing⟩, fun w r hw hr => ?_⟩
  unfold readValue
  rw [List.cons_append, skipBlanks_word hw (.cons hblank _)]
  exact ((if_neg hcontainer.1).trans (if_neg hcontainer.2)).trans (h r hr)

/-- An integer is read by its sign or first digit. -/
theorem readsAs_integer (i : Int) (hi : -(2 ^ 63) ≤ i ∧ i < 2 ^ 64) (levels : Nat) :
    BeginsItem (Utf8.encode (toString i)) ∧
      ReadsAs (readValue levels) (.number (.int i hi)) (Utf8.encode (toString i)) := by
  have hfront : ∃ b t, Utf8.encode (toString i) = b :: t ∧
      (b = Ascii.minus ∨ Ascii.isDigit b = true) := by
    rw [encode_toString]
    cases decide (i < 0) with
    | true => exact ⟨_, _, rfl, .inl rfl⟩
    | false =>
      have hnumeral := isNumeral_toDigits i.natAbs
      obtain ⟨b, ds, hfront⟩ := List.exists_cons_of_ne_nil hnumeral.ne_nil
      exact ⟨b, ds, hfront, .inr (hnumeral.digits b (hfront ▸ List.mem_cons_self))⟩
  obtain ⟨b, t, hfront, hb⟩ := hfront
  have hne (c : UInt8) (hc : c ≠ Ascii.minus ∧ Ascii.isDigit c = false) : b ≠ c := by
    rcases hb with rfl | hb
    · exact hc.1.symm
    · exact ne_of_isDigit hb hc.2
  have hblank : isJsonBlank b = false := by
    simp only [isJsonBlank, Bool.or_eq_false_iff, beq_eq_false_iff_ne]
    exact ⟨⟨⟨hne _ (by decide), hne _ (by decide)⟩, hne _ (by decide)⟩, hne _ (by decide)⟩
  rw [hfront]
  refine readsAs_scalar hblank ⟨hne _ (by decide), hne _ (by decide)⟩ (hne _ (by decide))
    (fun r hr => ?_) levels
  have hread := readNumber_toString i hi hr
  rw [hfront, List.cons_append] at hread
  rw [readScalar, if_neg (hne _ (by decide)), if_neg (hne _ (by decide)),
    if_neg (hne _ (by decide)), if_pos hb, hread]
  rfl

/-- **What is written is read**, wherever it stands. -/
theorem IsTextOf.readsAs (h : IsTextOf n v s) : BeginsItem s ∧ ReadsAs (readValue n) v s := by
  induction v using Json.induction generalizing n s with
  | null =>
    obtain rfl : s = nullText := by rwa [IsTextOf] at h
    exact readsAs_scalar rfl (by decide) (by decide) (fun _ _ => rfl) n
  | bool b =>
    cases b with
    | true =>
      obtain rfl : s = trueText := by rwa [IsTextOf] at h
      exact readsAs_scalar rfl (by decide) (by decide) (fun _ _ => rfl) n
    | false =>
      obtain rfl : s = falseText := by rwa [IsTextOf] at h
      exact readsAs_scalar rfl (by decide) (by decide) (fun _ _ => rfl) n
  | number x =>
    rw [IsTextOf] at h
    obtain ⟨i, hi, rfl, rfl⟩ := h
    exact readsAs_integer i hi n
  | text t =>
    rw [IsTextOf] at h
    obtain ⟨body, hbody, rfl⟩ := h
    refine readsAs_scalar rfl (by decide) (by decide) (fun r _ => ?_) n
    have hread : readText (body ++ [Ascii.quote] ++ r) = .ok (t, r) :=
      readText_eq_ok_iff.mpr ⟨body, hbody, by simp⟩
    change (readText (body ++ [Ascii.quote] ++ r) >>= _) = _
    rw [hread]
    rfl
  | list xs ih =>
    cases n with
    | zero => rw [IsTextOf] at h; cases h
    | succ n =>
      rw [IsTextOf] at h
      obtain ⟨u, rfl, hu⟩ := h
      refine ⟨⟨_, _, rfl, rfl, by decide⟩, fun w r hw _ => ?_⟩
      have hitems : readItems (readValue n) ((u ++ r).length + 1) true (u ++ r) = .ok (xs, r) :=
        readItems_items hu (fun x hx t ht => ih x hx ht) (by rw [List.length_append]; omega) r
      unfold readValue
      rw [List.cons_append, skipBlanks_word hw (.cons rfl _)]
      change (readItems (readValue n) ((u ++ r).length + 1) true (u ++ r) >>= _) = _
      rw [hitems]
      rfl
  | map es ih =>
    cases n with
    | zero => rw [IsTextOf] at h; cases h
    | succ n =>
      rw [IsTextOf] at h
      obtain ⟨u, rfl, hu⟩ := h
      refine ⟨⟨_, _, rfl, rfl, by decide⟩, fun w r hw _ => ?_⟩
      have hentries : readEntries (readValue n) ((u ++ r).length + 1) true (u ++ r) =
          .ok (es, r) := by
        refine readEntries_items hu ?_ (by rw [List.length_append]; omega) r
        rintro e he t ⟨v, hentry, hv⟩
        exact ⟨v, hentry, (ih e he hv).2⟩
      unfold readValue
      rw [List.cons_append, skipBlanks_word hw (.cons rfl _)]
      change (readEntries (readValue n) ((u ++ r).length + 1) true (u ++ r) >>= _) = _
      rw [hentries]
      rfl

/-! ### What is printed -/

/-- Texts of items, each with `front` before it, and commas between them. -/
def joined {α : Type} (front : String) (item : α → String) : List α → String
  | [] => ""
  | [x] => front ++ item x
  | x :: y :: xs => front ++ item x ++ "," ++ joined front item (y :: xs)

theorem compactItems_eq : ∀ xs, compactItems xs = joined "" compact xs
  | [] => rfl
  | [x] => by rw [compactItems, joined, String.empty_append]
  | x :: y :: xs => by
    rw [compactItems, joined, String.empty_append, compactItems_eq (y :: xs)]

theorem compactEntries_eq : ∀ es, compactEntries es =
    joined "" (fun e => textLiteral e.1 ++ ":" ++ compact e.2) es
  | [] => rfl
  | [(k, x)] => by rw [compactEntries, joined, String.empty_append]
  | (k, x) :: e :: es => by
    rw [compactEntries, joined, String.empty_append, compactEntries_eq (e :: es)]

theorem prettyItems_eq (depth : Nat) : ∀ xs, prettyItems depth xs =
    joined (lineBreak depth) (prettyAt depth) xs
  | [] => rfl
  | [x] => by rw [prettyItems, joined]
  | x :: y :: xs => by rw [prettyItems, joined, prettyItems_eq depth (y :: xs)]

theorem prettyEntries_eq (depth : Nat) : ∀ es, prettyEntries depth es =
    joined (lineBreak depth) (fun e => textLiteral e.1 ++ ": " ++ prettyAt depth e.2) es
  | [] => rfl
  | [(k, x)] => by simp only [prettyEntries, joined, String.append_assoc]
  | (k, x) :: e :: es => by
    rw [prettyEntries, joined, prettyEntries_eq depth (e :: es)]
    simp only [String.append_assoc]

section Joined

variable {α : Type} {c : Container} {R : α → Bytes → Prop} {front back colon : String}
  {item : α → String} {xs : List α}

theorem exists_rest (hfront : AreBlanks (Utf8.encode front)) (hw : AreBlanks w)
    (h : ∀ y ∈ xs, R y (Utf8.encode (item y))) (x : α) : ∃ s, Items c R true xs s ∧
      Utf8.encode (joined front item (x :: xs)) ++ (w ++ [c.closing]) =
        Utf8.encode front ++ (Utf8.encode (item x) ++ s) := by
  induction xs generalizing x with
  | nil => exact ⟨_, .stop hw, by rw [joined, Utf8.encode_append, List.append_assoc]⟩
  | cons y ys ih =>
    obtain ⟨hy, hys⟩ := List.forall_mem_cons.mp h
    obtain ⟨s, hs, hjoined⟩ := ih hys y
    refine ⟨_, .next areBlanks_nil hfront hy hs, ?_⟩
    have hcomma : Utf8.encode "," = [Ascii.comma] := by decide +kernel
    rw [joined, Utf8.encode_append, Utf8.encode_append, Utf8.encode_append, hcomma,
      List.append_assoc, hjoined]
    simp

/-- Printed items are items. -/
theorem items_joined (hfront : AreBlanks (Utf8.encode front)) (hw : AreBlanks w)
    (h : ∀ x ∈ xs, R x (Utf8.encode (item x))) :
    Items c R false xs (Utf8.encode (joined front item xs) ++ (w ++ [c.closing])) := by
  cases xs with
  | nil => exact .stop hw
  | cons x xs =>
    obtain ⟨hx, hxs⟩ := List.forall_mem_cons.mp h
    obtain ⟨s, hs, hjoined⟩ := exists_rest (c := c) hfront hw hxs x
    rw [hjoined]
    exact .first hfront hx hs

end Joined

section Containers

variable {front back colon : String}

theorem isTextOf_list {item : Json → String} {xs : List Json}
    (hfront : AreBlanks (Utf8.encode front)) (hback : AreBlanks (Utf8.encode back))
    (h : ∀ x ∈ xs, IsTextOf n x (Utf8.encode (item x))) :
    IsTextOf (n + 1) (.list xs) (Utf8.encode ("[" ++ joined front item xs ++ back ++ "]")) := by
  have hopening : Utf8.encode "[" = [Ascii.openBracket] := by decide +kernel
  have hclosing : Utf8.encode "]" = [Ascii.closeBracket] := by decide +kernel
  rw [IsTextOf]
  refine ⟨_, ?_, items_joined hfront hback h⟩
  rw [Utf8.encode_append, Utf8.encode_append, Utf8.encode_append, hopening, hclosing]
  simp [Container.closing]

theorem isTextOf_map {item : Json → String} {es : Entries} {gap : Bytes}
    (hfront : AreBlanks (Utf8.encode front)) (hback : AreBlanks (Utf8.encode back))
    (hcolon : Utf8.encode colon = Ascii.colon :: gap) (hgap : AreBlanks gap)
    (h : ∀ e ∈ es, IsTextOf n e.2 (Utf8.encode (item e.2))) :
    IsTextOf (n + 1) (.map es) (Utf8.encode ("\x7b" ++
      joined front (fun e => textLiteral e.1 ++ colon ++ item e.2) es ++ back ++ "\x7d")) := by
  have hopening : Utf8.encode "\x7b" = [Ascii.openBrace] := by decide +kernel
  have hclosing : Utf8.encode "\x7d" = [Ascii.closeBrace] := by decide +kernel
  have hentries : ∀ e ∈ es, ∃ v, IsEntryOf e.1 v
      (Utf8.encode (textLiteral e.1 ++ colon ++ item e.2)) ∧ IsTextOf n e.2 v := by
    intro e he
    refine ⟨_, ⟨_, isLiteral_textLiteral e.1, ?_⟩, h e he⟩
    rw [Utf8.encode_append, Utf8.encode_append, hcolon, List.append_assoc]
    exact .mk areBlanks_nil hgap
  rw [IsTextOf]
  refine ⟨_, ?_, items_joined hfront hback hentries⟩
  rw [Utf8.encode_append, Utf8.encode_append, Utf8.encode_append, hopening, hclosing]
  simp [Container.closing]

end Containers

theorem IsIntegral.item {xs : List Json} (h : IsIntegral (.list xs)) {x : Json} (hx : x ∈ xs) :
    IsIntegral x := fun n hn => h n (.item hx hn)

theorem IsIntegral.value {es : Entries} (h : IsIntegral (.map es)) {e : String × Json}
    (he : e ∈ es) : IsIntegral e.2 := fun n hn => h n (.value he hn)

theorem isTextOf_number {x : Number} (h : IsIntegral (.number x)) (n : Nat) :
    IsTextOf n (.number x) (Utf8.encode x.write) := by
  obtain ⟨i, hi, rfl⟩ := h x (.number x)
  rw [IsTextOf]
  exact ⟨i, hi, rfl, rfl⟩

/-- What is printed for a value that is no container is written. -/
theorem isTextOf_scalar (hfits : FitsIn 0 v) (hint : IsIntegral v) (n : Nat) :
    IsTextOf n v (Utf8.encode v.compact) := by
  cases v with
  | null =>
    rw [IsTextOf, compact]
    decide +kernel
  | bool b =>
    cases b
    · rw [IsTextOf, compact]
      decide +kernel
    · rw [IsTextOf, compact]
      decide +kernel
  | number x => exact isTextOf_number hint n
  | text t =>
    rw [IsTextOf, compact]
    exact isLiteral_textLiteral t
  | list => cases hfits
  | map => cases hfits

theorem prettyAt_scalar (hfits : FitsIn 0 v) (depth : Nat) : prettyAt depth v = compact v := by
  cases v with
  | bool b => cases b <;> rfl
  | list => cases hfits
  | map => cases hfits
  | _ => rfl

/-- **What is printed on one line** is written. -/
theorem isTextOf_compact (hfits : FitsIn n v) (hint : IsIntegral v) :
    IsTextOf n v (Utf8.encode v.compact) := by
  have hempty : AreBlanks (Utf8.encode "") := areBlanks_nil
  induction v using Json.induction generalizing n with
  | list xs ih =>
    cases n with
    | zero => cases hfits
    | succ n =>
      have htext := isTextOf_list hempty hempty fun x hx => ih x hx (hfits x hx) (hint.item hx)
      rwa [← compactItems_eq, String.append_empty] at htext
  | map es ih =>
    cases n with
    | zero => cases hfits
    | succ n =>
      have hcolon : Utf8.encode ":" = [Ascii.colon] := by decide +kernel
      have htext := isTextOf_map hempty hempty hcolon areBlanks_nil fun e he =>
        ih e he (hfits e he) (hint.value he)
      rwa [← compactEntries_eq, String.append_empty] at htext
  | _ => exact isTextOf_scalar (by trivial) hint n

theorem areBlanks_lineBreak (depth : Nat) : AreBlanks (Utf8.encode (lineBreak depth)) := by
  have hchars : ∀ c ∈ '\n' :: List.replicate (2 * depth) ' ', c = '\n' ∨ c = ' ' := by
    intro c hc
    exact (List.mem_cons.mp hc).imp id List.eq_of_mem_replicate
  have hascii : ∀ c ∈ '\n' :: List.replicate (2 * depth) ' ', c.toNat < 0x80 := by
    intro c hc
    rcases hchars c hc with rfl | rfl <;> decide
  rw [lineBreak, Utf8.encode_ascii hascii]
  intro b hb
  obtain ⟨c, hc, rfl⟩ := List.mem_map.mp hb
  rcases hchars c hc with rfl | rfl <;> rfl

/-- **What is printed on several lines** is written. -/
theorem isTextOf_prettyAt (hfits : FitsIn n v) (hint : IsIntegral v) (depth : Nat) :
    IsTextOf n v (Utf8.encode (prettyAt depth v)) := by
  induction v using Json.induction generalizing n depth with
  | list xs ih =>
    cases n with
    | zero => cases hfits
    | succ n =>
      have htext (back : String) (hback : AreBlanks (Utf8.encode back)) :=
        isTextOf_list (areBlanks_lineBreak (depth + 1)) hback fun x hx =>
          ih x hx (hfits x hx) (hint.item hx) (depth + 1)
      cases xs with
      | nil => exact htext "" areBlanks_nil
      | cons x xs =>
        have := htext (lineBreak depth) (areBlanks_lineBreak depth)
        rwa [← prettyItems_eq] at this
  | map es ih =>
    cases n with
    | zero => cases hfits
    | succ n =>
      have hcolon : Utf8.encode ": " = [Ascii.colon, Ascii.space] := by decide +kernel
      have htext (back : String) (hback : AreBlanks (Utf8.encode back)) :=
        isTextOf_map (areBlanks_lineBreak (depth + 1)) hback hcolon
          (List.forall_mem_singleton.mpr rfl) fun e he =>
            ih e he (hfits e he) (hint.value he) (depth + 1)
      cases es with
      | nil => exact htext "" areBlanks_nil
      | cons e es =>
        have := htext (lineBreak depth) (areBlanks_lineBreak depth)
        rwa [← prettyEntries_eq] at this
  | _ =>
    rw [prettyAt_scalar]
    · exact isTextOf_scalar (by trivial) hint n
    · trivial

end LiveConfig.Json
