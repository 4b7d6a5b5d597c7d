import LiveConfig.Proofs.JsonTexts

/-!
Reading the items of lists and the entries of maps.

Main statements: `readItems_items` and `readEntries_items`, what a container holds is read one by
one, each by what reads it alone.
-/

namespace LiveConfig.Json

variable {α : Type} {s t v w : Bytes}

/-- Whether a reader takes a value text for `x`, whatever blanks stand in front of it and whatever
follows. -/
def ReadsAs (reader : Bytes → Except Fault (α × Bytes)) (x : α) (v : Bytes) : Prop :=
  ∀ ⦃w r : Bytes⦄, AreBlanks w → EndsNumber r → reader (w ++ (v ++ r)) = .ok (x, r)

/-- Whether a text can be told from blanks and from the end of a list. -/
def BeginsItem (t : Bytes) : Prop :=
  ∃ b u, t = b :: u ∧ isJsonBlank b = false ∧ b ≠ Ascii.closeBracket

/-! ### What comes next -/

section Next

variable {c : Container} {R : α → Bytes → Prop} {started : Bool} {x : α} {xs : List α}

theorem nextItem_nil (h : Items .list R started [] s) (r : Bytes) :
    nextItem (!started) (s ++ r) = .ok (.stop (Ascii.closeBracket :: r)) := by
  cases h with
  | stop hw =>
    rw [List.append_assoc, nextItem, List.singleton_append, skipBlanks_word hw (.cons rfl r)]
    exact if_pos rfl

theorem nextItem_cons (h : Items .list R started (x :: xs) s)
    (hfront : ∀ t, R x t → BeginsItem t) (r : Bytes) :
    ∃ t s', R x t ∧ Items .list R true xs s' ∧ s'.length < s.length ∧
      nextItem (!started) (s ++ r) = .ok (.more (t ++ (s' ++ r))) := by
  cases h with
  | first hw hx hs =>
    obtain ⟨b, u, rfl, hblank, hclosing⟩ := hfront _ hx
    refine ⟨_, _, hx, hs, by simp only [List.length_append, List.length_cons]; omega, ?_⟩
    rw [List.append_assoc, List.append_assoc, nextItem,
      skipBlanks_word hw ((BeginsWord.cons hblank u).append _)]
    exact (if_neg hclosing).trans (if_pos rfl)
  | next hw hw' hx hs =>
    obtain ⟨b, u, rfl, hblank, hclosing⟩ := hfront _ hx
    refine ⟨_, _, hx, hs, by simp only [List.length_append, List.length_cons]; omega, ?_⟩
    rw [List.append_assoc, List.cons_append, List.append_assoc, List.append_assoc, nextItem,
      skipBlanks_word hw (.cons rfl _)]
    dsimp only
    rw [if_neg (by decide), Bool.not_true, if_neg Bool.false_ne_true, if_pos rfl,
      skipBlanks_word hw' ((BeginsWord.cons hblank u).append _)]
    exact if_neg hclosing

theorem nextKey_nil (h : Items .map R started [] s) (r : Bytes) :
    nextKey (!started) (s ++ r) = .ok (.stop (Ascii.closeBrace :: r)) := by
  cases h with
  | stop hw =>
    rw [List.append_assoc, nextKey, List.singleton_append, skipBlanks_word hw (.cons rfl r)]
    exact if_pos rfl

theorem nextKey_cons (h : Items .map R started (x :: xs) s)
    (hfront : ∀ t, R x t → ∃ u, t = Ascii.quote :: u) (r : Bytes) :
    ∃ t s', R x t ∧ Items .map R true xs s' ∧ s'.length < s.length ∧
      nextKey (!started) (s ++ r) = .ok (.more (t ++ (s' ++ r))) := by
  cases h with
  | first hw hx hs =>
    obtain ⟨u, rfl⟩ := hfront _ hx
    refine ⟨_, _, hx, hs, by simp only [List.length_append, List.length_cons]; omega, ?_⟩
    rw [List.append_assoc, List.append_assoc, nextKey, List.cons_append,
      skipBlanks_word hw (.cons rfl _)]
    rfl
  | next hw hw' hx hs =>
    obtain ⟨u, rfl⟩ := hfront _ hx
    refine ⟨_, _, hx, hs, by simp only [List.length_append, List.length_cons]; omega, ?_⟩
    rw [List.append_assoc, List.cons_append, List.append_assoc, List.append_assoc, nextKey,
      skipBlanks_word hw (.cons rfl _)]
    dsimp only
    rw [if_neg (by decide), Bool.not_true, if_neg Bool.false_ne_true, if_pos rfl,
      List.cons_append, skipBlanks_word hw' (.cons rfl _)]
    rfl

end Next

/-! ### Items and entries -/

/-- **The items of a list** are read one by one. -/
theorem readItems_items {item : Bytes → Except Fault (α × Bytes)} {R : α → Bytes → Prop}
    {started : Bool} {xs : List α} {fuel : Nat} (h : Items .list R started xs s)
    (hR : ∀ x ∈ xs, ∀ t, R x t → BeginsItem t ∧ ReadsAs item x t) (hfuel : s.length < fuel)
    (r : Bytes) : readItems item fuel (!started) (s ++ r) = .ok (xs, r) := by
  induction xs generalizing started s fuel with
  | nil =>
    cases fuel with
    | zero => cases hfuel
    | succ fuel =>
      rw [readItems, nextItem_nil h]
      rfl
  | cons x xs ih =>
    obtain ⟨hx, hxs⟩ := List.forall_mem_cons.mp hR
    obtain ⟨t, s', ht, hs', hlen, hnext⟩ := nextItem_cons h (fun t ht => (hx t ht).1) r
    cases fuel with
    | zero => cases hfuel
    | succ fuel =>
      have hread := (hx t ht).2 areBlanks_nil (hs'.endsNumber r)
      have hrest := ih hs' hxs (Nat.lt_of_lt_of_le hlen (Nat.le_of_lt_succ hfuel))
      rw [readItems, hnext]
      change (item ([] ++ (t ++ (s' ++ r))) >>= _) = _
      rw [hread]
      change (readItems item fuel (!true) (s' ++ r) >>= _) = _
      rw [hrest]
      rfl

/-- The colon in front of a value is passed over. -/
theorem readColon_append (hw : AreBlanks w) (s : Bytes) :
    readColon (w ++ Ascii.colon :: s) = .ok ((), s) := by
  rw [readColon, skipBlanks_word hw (.cons rfl s)]
  rfl

theorem IsEntryOf.front {k : String} (h : IsEntryOf k v t) : ∃ u, t = Ascii.quote :: u := by
  obtain ⟨-, ⟨body, -, rfl⟩, -, -⟩ := h
  exact ⟨_, rfl⟩

/-- In front of the value of an entry its key is read, and the colon. -/
theorem IsEntryOf.read {k : String} (h : IsEntryOf k v t) (r : Bytes) : ∃ s w, AreBlanks w ∧
    readText ((t ++ r).drop 1) = .ok (k, s) ∧ readColon s = .ok ((), w ++ (v ++ r)) := by
  obtain @⟨-, ⟨body, hbody, rfl⟩, u, u', hu, hu'⟩ := h
  refine ⟨u ++ Ascii.colon :: (u' ++ (v ++ r)), u', hu', readText_eq_ok_iff.mpr ⟨body, hbody, ?_⟩,
    readColon_append hu _⟩
  simp

/-- **The entries of a map** are read one by one. -/
theorem readEntries_items {value : Bytes → Except Fault (α × Bytes)}
    {R : String × α → Bytes → Prop} {started : Bool} {es : List (String × α)} {fuel : Nat}
    (h : Items .map R started es s)
    (hR : ∀ e ∈ es, ∀ t, R e t → ∃ v, IsEntryOf e.1 v t ∧ ReadsAs value e.2 v)
    (hfuel : s.length < fuel) (r : Bytes) :
    readEntries value fuel (!started) (s ++ r) = .ok (es, r) := by
  induction es generalizing started s fuel with
  | nil =>
    cases fuel with
    | zero => cases hfuel
    | succ fuel =>
      rw [readEntries, nextKey_nil h]
      rfl
  | cons e es ih =>
    obtain ⟨he, hes⟩ := List.forall_mem_cons.mp hR
    obtain ⟨t, s', ht, hs', hlen, hnext⟩ := nextKey_cons h
      (fun t ht => (he t ht).elim fun v hv => hv.1.front) r
    cases fuel with
    | zero => cases hfuel
    | succ fuel =>
      obtain ⟨v, hentry, hvalue⟩ := he t ht
      obtain ⟨s'', w, hw, hkey, hcolon⟩ := hentry.read (s' ++ r)
      have hread := hvalue hw (hs'.endsNumber r)
      have hrest := ih hs' hes (Nat.lt_of_lt_of_le hlen (Nat.le_of_lt_succ hfuel))
      rw [readEntries, hnext]
      change (readText ((t ++ (s' ++ r)).drop 1) >>= _) = _
      rw [hkey]
      change (readColon s'' >>= _) = _
      rw [hcolon]
      change (value (w ++ (v ++ (s' ++ r))) >>= _) = _
      rw [hread]
      change (readEntries value fuel (!true) (s' ++ r) >>= _) = _
      rw [hrest]
      rfl

end LiveConfig.Json
