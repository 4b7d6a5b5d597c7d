import Mathlib.Data.List.TakeWhile
import LiveConfig.Convert
import LiveConfig.Proofs.Paths

/-!
Lists of texts in environment variables.

`IsListItem` says which texts an item of a list can be, and `Writes` how items are written: with
commas between them, any number of spaces around each, and with or without brackets around the
whole.  Main statement: `toTextList_undoes_writing`, reading gives back the items of every list that
is so written, and one item more than there are commas, without spaces at its ends, of every text.
-/

namespace LiveConfig

namespace Text

/-! ### Pieces -/

theorem length_cut (sep : Char) (cs : List Char) : (cut sep cs).length = cs.count sep + 1 := by
  induction cs with
  | nil => rfl
  | cons c cs ih =>
    unfold cut
    split
    · rename_i hc
      rw [hc, List.count_cons_self, List.length_cons, ih]
    · rename_i hc
      rw [List.count_cons_of_ne hc, ← ih]
      cases hcs : cut sep cs with
      | nil => exact absurd hcs (cut_ne_nil sep cs)
      | cons p ps => rfl

/-! ### Ends of a text -/

section Ends

variable {p : Char → Bool} {cs : List Char}

/-- Neither the first character nor the last one is one that `p` holds of. -/
structure Stripped (p : Char → Bool) (cs : List Char) : Prop where
  head : ∀ c ∈ cs.head?, p c = false
  last : ∀ c ∈ cs.getLast?, p c = false

theorem stripped_iff :
    Stripped p cs ↔ cs.head?.any p = false ∧ cs.getLast?.any p = false := by
  rw [Option.any_eq_false, Option.any_eq_false]
  exact ⟨fun ⟨h, h'⟩ => ⟨h, h'⟩, fun ⟨h, h'⟩ => ⟨h, h'⟩⟩

instance : Decidable (Stripped p cs) := decidable_of_iff _ stripped_iff.symm

theorem Stripped.reverse (h : Stripped p cs) : Stripped p cs.reverse where
  head c hc := h.last c (List.head?_reverse ▸ hc)
  last c hc := h.head c (List.getLast?_reverse ▸ hc)

theorem dropWhile_of_head (h : ∀ c ∈ cs.head?, p c = false) : cs.dropWhile p = cs := by
  cases cs with
  | nil => rfl
  | cons c cs => rw [List.dropWhile_cons_of_neg (by simp [h c rfl])]

theorem getLast?_of_dropWhile {c : Char} (h : (cs.dropWhile p).getLast? = some c) :
    cs.getLast? = some c := by
  rw [← List.takeWhile_append_dropWhile (p := p) (l := cs), List.getLast?_append, h]
  rfl

/-- **What is stripped** has none of the characters at its ends that are dropped. -/
theorem stripped_stripBy (p : Char → Bool) (s : String) : Stripped p (stripBy p s).toList := by
  have hfirst : ∀ (l : List Char) (c : Char), (l.dropWhile p).head? = some c → p c = false := by
    intro l c hc
    have hnot := List.head?_dropWhile_not p l
    rw [hc] at hnot
    simpa using hnot
  have hreverse : Stripped p ((s.toList.dropWhile p).reverse.dropWhile p) := by
    refine ⟨hfirst _, fun c hc => hfirst s.toList c ?_⟩
    rw [← List.getLast?_reverse]
    exact getLast?_of_dropWhile hc
  rw [stripBy, String.toList_ofList]
  exact hreverse.reverse

/-- Stripping drops just what is put around a text. -/
theorem stripBy_append {as bs : List Char} (has : ∀ a ∈ as, p a = true)
    (hbs : ∀ b ∈ bs, p b = true) (h : Stripped p cs) :
    stripBy p (String.ofList (as ++ cs ++ bs)) = String.ofList cs := by
  have hbs' : ∀ b ∈ bs.reverse, p b = true := fun b hb => hbs b (List.mem_reverse.mp hb)
  rw [stripBy, String.toList_ofList, List.append_assoc, List.dropWhile_append_of_pos has]
  cases cs with
  | nil =>
    rw [List.nil_append, List.dropWhile_eq_nil_iff.mpr hbs]
    rfl
  | cons c cs =>
    have hhead : ∀ d ∈ (c :: cs ++ bs).head?, p d = false := fun d hd => h.head d hd
    rw [dropWhile_of_head hhead, List.reverse_append, List.dropWhile_append_of_pos hbs',
      dropWhile_of_head h.reverse.head, List.reverse_reverse]

end Ends

end Text

/-! ### Written lists -/

/-- A text that can be an item of a list. -/
structure IsListItem (s : String) : Prop where
  plain : ∀ c ∈ s.toList, c ≠ ',' ∧ c ≠ '[' ∧ c ≠ ']'
  stripped : Text.Stripped (· = ' ') s.toList

theorem isListItem_iff {s : String} :
    IsListItem s ↔ (s.toList.all fun c => c ≠ ',' ∧ c ≠ '[' ∧ c ≠ ']') = true ∧
      Text.Stripped (· = ' ') s.toList := by
  rw [List.all_eq_true]
  exact ⟨fun ⟨h, h'⟩ => ⟨fun c hc => decide_eq_true (h c hc), h'⟩,
    fun ⟨h, h'⟩ => ⟨fun c hc => of_decide_eq_true (h c hc), h'⟩⟩

instance : DecidablePred IsListItem := fun _ => decidable_of_iff _ isListItem_iff.symm

/-- So many spaces. -/
def spaces (n : Nat) : String := String.ofList (List.replicate n ' ')

/-- A text with so many spaces before and after it. -/
structure Padded where
  before : Nat
  item : String
  after : Nat

namespace Padded

/-- The item with the spaces around it. -/
def text (q : Padded) : String := spaces q.before ++ q.item ++ spaces q.after

theorem toList_text (q : Padded) :
    q.text.toList = List.replicate q.before ' ' ++ q.item.toList ++ List.replicate q.after ' ' := by
  simp [text, spaces]

end Padded

/-- How a list is written. -/
inductive Writes (qs : List Padded) : String → Prop
  | bare : Writes qs (",".intercalate (qs.map Padded.text))
  | bracketed (before after : Nat) :
    Writes qs (spaces before ++ "[" ++ ",".intercalate (qs.map Padded.text) ++ "]" ++ spaces after)

namespace Variable

/-- The items between commas. -/
def items (cs : List Char) : List String :=
  (Text.cut ',' cs).map fun item => Text.stripBy (· = ' ') (String.ofList item)

theorem toTextList_eq (raw : String) :
    toTextList raw = items ((raw.toList.erase '[').erase ']') := rfl

theorem items_append (as bs : List Char) : items (as ++ ',' :: bs) = items as ++ items bs := by
  rw [items, Text.cut_append, List.map_append]
  rfl

theorem items_of_text {q : Padded} (h : IsListItem q.item) (before after : Nat) :
    items (List.replicate before ' ' ++ q.text.toList ++ List.replicate after ' ') = [q.item] := by
  have hspaces : ∀ {n m : Nat}, ∀ c ∈ List.replicate n ' ' ++ List.replicate m ' ',
      decide (c = ' ') = true := by
    intro n m c hc
    rcases List.mem_append.mp hc with hc | hc <;> exact decide_eq_true (List.eq_of_mem_replicate hc)
  have hregroup : List.replicate before ' ' ++ q.text.toList ++ List.replicate after ' ' =
      List.replicate before ' ' ++ List.replicate q.before ' ' ++ q.item.toList ++
        (List.replicate q.after ' ' ++ List.replicate after ' ') := by
    rw [Padded.toList_text]
    simp only [List.append_assoc]
  have hcomma : ',' ∉ List.replicate before ' ' ++ List.replicate q.before ' ' ++ q.item.toList ++
        (List.replicate q.after ' ' ++ List.replicate after ' ') := by
    intro hmem
    rcases List.mem_append.mp hmem with hmem | hmem
    · rcases List.mem_append.mp hmem with hmem | hmem
      · exact absurd (hspaces ',' hmem) (by decide)
      · exact (h.plain ',' hmem).1 rfl
    · exact absurd (hspaces ',' hmem) (by decide)
  rw [hregroup, items, Text.cut_of_notMem hcomma, List.map_singleton,
    Text.stripBy_append hspaces hspaces h.stripped, String.ofList_toList]

/-- Commas separate items, and spaces around them are dropped. -/
theorem items_of_padded {qs : List Padded} (hne : qs ≠ []) (h : ∀ q ∈ qs, IsListItem q.item)
    (before after : Nat) :
    items (List.replicate before ' ' ++ (",".intercalate (qs.map Padded.text)).toList ++
      List.replicate after ' ') = qs.map Padded.item := by
  induction qs generalizing before with
  | nil => exact absurd rfl hne
  | cons q qs ih =>
    have hq := items_of_text (h q List.mem_cons_self) before
    cases qs with
    | nil => exact hq after
    | cons r rs =>
      have hrest := ih (List.cons_ne_nil r rs) (fun p hp => h p (List.mem_cons_of_mem q hp)) 0
      rw [List.replicate_zero, List.nil_append] at hrest
      have hfirst := hq 0
      rw [List.replicate_zero, List.append_nil] at hfirst
      have hregroup : List.replicate before ' ' ++
          (",".intercalate ((q :: r :: rs).map Padded.text)).toList ++ List.replicate after ' ' =
          List.replicate before ' ' ++ q.text.toList ++ ',' ::
            ((",".intercalate ((r :: rs).map Padded.text)).toList ++ List.replicate after ' ') := by
        rw [List.map_cons, List.map_cons, String.intercalate_cons_cons]
        simp
      rw [hregroup, items_append, hfirst, hrest]
      rfl

/-- There are only commas and spaces outside of the items. -/
theorem mem_of_padded {qs : List Padded} {c : Char}
    (h : c ∈ (",".intercalate (qs.map Padded.text)).toList) :
    c = ',' ∨ c = ' ' ∨ ∃ q ∈ qs, c ∈ q.item.toList := by
  have htext : ∀ q : Padded, c ∈ q.text.toList → c = ' ' ∨ c ∈ q.item.toList := by
    intro q hq
    rw [Padded.toList_text, List.mem_append, List.mem_append] at hq
    rcases hq with (hq | hq) | hq
    · exact .inl (List.eq_of_mem_replicate hq)
    · exact .inr hq
    · exact .inl (List.eq_of_mem_replicate hq)
  induction qs with
  | nil => exact absurd h List.not_mem_nil
  | cons q qs ih =>
    cases qs with
    | nil => exact .inr ((htext q h).imp_right fun hq => ⟨q, List.mem_cons_self, hq⟩)
    | cons r rs =>
      rw [List.map_cons, List.map_cons, String.intercalate_cons_cons, String.toList_append,
        String.toList_append, List.mem_append, List.mem_append] at h
      rcases h with (h | h) | h
      · exact .inr ((htext q h).imp_right fun hq => ⟨q, List.mem_cons_self, hq⟩)
      · exact .inl (by simpa using h)
      · exact (ih h).imp_right (.imp_right fun ⟨p, hp, hc⟩ => ⟨p, List.mem_cons_of_mem q hp, hc⟩)

theorem toTextList_of_writes {qs : List Padded} {raw : String} (hne : qs ≠ [])
    (h : ∀ q ∈ qs, IsListItem q.item) (hraw : Writes qs raw) :
    toTextList raw = qs.map Padded.item := by
  have hplain : ∀ {c : Char}, c = '[' ∨ c = ']' →
      c ∉ (",".intercalate (qs.map Padded.text)).toList := by
    intro c hc hmem
    rcases mem_of_padded hmem with rfl | rfl | ⟨q, hq, hitem⟩
    · exact absurd hc (by decide)
    · exact absurd hc (by decide)
    · obtain ⟨-, hopen, hclose⟩ := (h q hq).plain c hitem
      exact hc.elim hopen hclose
  have hclose := hplain (.inr rfl)
  -- The brackets around a list are the first ones in its text, as no item has any.
  rw [toTextList_eq]
  cases hraw with
  | bare =>
    rw [List.erase_of_not_mem (hplain (.inl rfl)), List.erase_of_not_mem hclose]
    have hall := items_of_padded hne h 0 0
    rwa [List.replicate_zero, List.nil_append, List.append_nil] at hall
  | bracketed before after =>
    have hlist : (spaces before ++ "[" ++ ",".intercalate (qs.map Padded.text) ++ "]" ++
        spaces after).toList = List.replicate before ' ' ++ '[' ::
          ((",".intercalate (qs.map Padded.text)).toList ++ ']' :: List.replicate after ' ') := by
      simp [spaces]
    have hspaces : ∀ {c : Char}, c ≠ ' ' → c ∉ List.replicate before ' ' := fun hc hmem =>
      hc (List.eq_of_mem_replicate hmem)
    rw [hlist, List.erase_append_right _ (hspaces (by decide)), List.erase_cons_head,
      List.erase_append_right _ (hspaces (by decide)), List.erase_append_right _ hclose,
      List.erase_cons_head, ← List.append_assoc]
    exact items_of_padded hne h before after

theorem length_toTextList (raw : String) :
    (toTextList raw).length = raw.toList.count ',' + 1 := by
  rw [toTextList_eq, items, List.length_map, Text.length_cut, List.count_erase_of_ne (by decide),
    List.count_erase_of_ne (by decide)]

/-- **Reading undoes writing.**  The items of a list are read as they were written, whatever spaces
and brackets are around them.  Every text is read as one item more than it has commas, and no item
has a space at its ends. -/
theorem toTextList_undoes_writing :
    (∀ (qs : List Padded) raw, qs ≠ [] → (∀ q ∈ qs, IsListItem q.item) → Writes qs raw →
      toTextList raw = qs.map Padded.item) ∧
    ∀ raw : String, (toTextList raw).length = raw.toList.count ',' + 1 ∧
      ∀ item ∈ toTextList raw, item.toList.head? ≠ some ' ' ∧ item.toList.getLast? ≠ some ' ' := by
  refine ⟨fun qs raw hne h => toTextList_of_writes hne h,
    fun raw => ⟨length_toTextList raw, fun item hitem => ?_⟩⟩
  obtain ⟨cs, -, rfl⟩ := List.mem_map.mp hitem
  have hstripped := Text.stripped_stripBy (· = ' ') (String.ofList cs)
  exact ⟨fun hhead => absurd (hstripped.head ' ' hhead) (by decide),
    fun hlast => absurd (hstripped.last ' ' hlast) (by decide)⟩

/-- An empty item, one with spaces and a tab inside, and two brackets with spaces around them. -/
theorem toTextList_undoes_writing_of_three :
    let qs : List Padded := [⟨0, "a\t b", 2⟩, ⟨1, "", 0⟩, ⟨3, "é", 0⟩]
    qs ≠ [] ∧ (∀ q ∈ qs, IsListItem q.item) ∧ Writes qs "  [a\t b  , ,   é] " ∧
      toTextList "  [a\t b  , ,   é] " = ["a\t b", "", "é"] := by
  intro qs
  have hne : qs ≠ [] := List.cons_ne_nil _ _
  have hitems : ∀ q ∈ qs, IsListItem q.item := by decide
  have hwrites : Writes qs "  [a\t b  , ,   é] " := by
    rw [show "  [a\t b  , ,   é] " =
      spaces 2 ++ "[" ++ ",".intercalate (qs.map Padded.text) ++ "]" ++ spaces 1 by decide]
    exact .bracketed 2 1
  exact ⟨hne, hitems, hwrites, toTextList_undoes_writing.1 qs _ hne hitems hwrites⟩

end Variable

end LiveConfig
