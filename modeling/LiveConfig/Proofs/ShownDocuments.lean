import LiveConfig.CommandLine.Commands
import LiveConfig.Document
import LiveConfig.Proofs.RecordTexts
import LiveConfig.Proofs.WrittenValues

/-!
Documents that are shown and read again.

What has been read is not nested too deep to be read again, and a value in canonical form stays as
it is.  Main statement: `shown_document_is_read_back`, the text of a document without reals is read
as the document, whether it stands on one line or on several.
-/

namespace LiveConfig

namespace Json

variable {α : Type} {s r w w' : Bytes} {n : Nat} {v : Json}

/-! ### How deep a read value is nested -/

section Read

variable {P : α → Prop} {fuel : Nat} {first : Bool}

theorem forall_of_readItems {item : Bytes → Except Fault (α × Bytes)}
    (hitem : ∀ s x r, item s = .ok (x, r) → P x) {xs : List α}
    (h : readItems item fuel first s = .ok (xs, r)) : ∀ x ∈ xs, P x := by
  induction fuel generalizing first s xs r with
  | zero => cases h
  | succ fuel ih =>
    obtain ⟨next, -, hnext⟩ := bind_eq_ok_iff.mp h
    cases next with
    | stop =>
      obtain ⟨rfl, -⟩ := Prod.mk.inj (Except.ok.inj hnext)
      exact List.forall_mem_nil _
    | more =>
      obtain ⟨⟨x, r'⟩, hx, hrest⟩ := bind_eq_ok_iff.mp hnext
      obtain ⟨⟨xs', r''⟩, hxs, hlist⟩ := bind_eq_ok_iff.mp hrest
      obtain ⟨rfl, -⟩ := Prod.mk.inj (Except.ok.inj hlist)
      exact List.forall_mem_cons.mpr ⟨hitem _ _ _ hx, ih hxs⟩

theorem forall_of_readEntries {value : Bytes → Except Fault (α × Bytes)}
    (hvalue : ∀ s x r, value s = .ok (x, r) → P x) {es : List (String × α)}
    (h : readEntries value fuel first s = .ok (es, r)) : ∀ e ∈ es, P e.2 := by
  induction fuel generalizing first s es r with
  | zero => cases h
  | succ fuel ih =>
    obtain ⟨next, -, hnext⟩ := bind_eq_ok_iff.mp h
    cases next with
    | stop =>
      obtain ⟨rfl, -⟩ := Prod.mk.inj (Except.ok.inj hnext)
      exact List.forall_mem_nil _
    | more =>
      obtain ⟨⟨k, _⟩, -, hkey⟩ := bind_eq_ok_iff.mp hnext
      obtain ⟨⟨_, _⟩, -, hcolon⟩ := bind_eq_ok_iff.mp hkey
      obtain ⟨⟨x, _⟩, hx, hrest⟩ := bind_eq_ok_iff.mp hcolon
      obtain ⟨⟨es', _⟩, hes, hlist⟩ := bind_eq_ok_iff.mp hrest
      obtain ⟨rfl, -⟩ := Prod.mk.inj (Except.ok.inj hlist)
      exact List.forall_mem_cons.mpr ⟨hvalue _ _ _ hx, ih hes⟩

end Read

theorem fitsIn_of_scalar (h : FitsIn 0 v) (n : Nat) : FitsIn n v := by
  cases v with
  | list => cases h
  | map => cases h
  | _ => cases n <;> trivial

theorem fitsIn_of_readScalar {b : UInt8} (h : readScalar b s = .ok (v, r)) : FitsIn 0 v := by
  have hfits {β : Type} {x : Except Fault (β × Bytes)} (f : β → Json) (hf : ∀ y, FitsIn 0 (f y))
      (h : (x >>= fun p => Except.ok (f p.1, p.2)) = .ok (v, r)) : FitsIn 0 v := by
    obtain ⟨p, -, hv⟩ := bind_eq_ok_iff.mp h
    obtain ⟨rfl, -⟩ := Prod.mk.inj (Except.ok.inj hv)
    exact hf p.1
  unfold readScalar at h
  split at h
  · exact hfits (fun _ => .null) (fun _ => trivial) h
  split at h
  · exact hfits (fun _ => .bool true) (fun _ => trivial) h
  split at h
  · exact hfits (fun _ => .bool false) (fun _ => trivial) h
  split at h
  · exact hfits .number (fun _ => trivial) h
  split at h
  · exact hfits .text (fun _ => trivial) h
  · cases h

/-- **A value that has been read fits in the containers that it was read in.** -/
theorem fitsIn_of_readValue (h : readValue n s = .ok (v, r)) : FitsIn n v := by
  induction n generalizing s v r with
  | zero =>
    unfold readValue at h
    split at h
    · cases h
    split at h
    · cases h
    split at h
    · cases h
    · exact fitsIn_of_readScalar h
  | succ n ih =>
    unfold readValue at h
    split at h
    · cases h
    split at h
    · obtain ⟨⟨xs, _⟩, hxs, hv⟩ := bind_eq_ok_iff.mp h
      obtain ⟨rfl, -⟩ := Prod.mk.inj (Except.ok.inj hv)
      exact forall_of_readItems (fun _ _ _ => ih) hxs
    split at h
    · obtain ⟨⟨es, _⟩, hes, hv⟩ := bind_eq_ok_iff.mp h
      obtain ⟨rfl, -⟩ := Prod.mk.inj (Except.ok.inj hv)
      exact forall_of_readEntries (fun _ _ _ => ih) hes
    · exact fitsIn_of_scalar (fitsIn_of_readScalar h) _

/-- What is read as a map is read as its entries. -/
theorem readMap_of_readValue {es : Entries} (h : readValue maxLevels s = .ok (.map es, r)) :
    readMap s = .ok (es, r) := by
  unfold readValue at h
  unfold readMap
  split at h
  · cases h
  split at h
  · obtain ⟨_, -, hv⟩ := bind_eq_ok_iff.mp h
    cases hv
  split at h
  · rename_i hbrace
    obtain ⟨⟨es', r'⟩, hes, hv⟩ := bind_eq_ok_iff.mp h
    cases hv
    rw [if_pos hbrace]
    exact hes
  · cases fitsIn_of_readScalar h

/-! ### Canonical values -/

theorem sortedItems_eq_map (xs : List Json) : sortedItems xs = xs.map sorted := by
  induction xs with
  | nil => rfl
  | cons x xs ih => rw [sortedItems, List.map_cons, ih]

theorem sortedEntries_eq_map (es : Entries) :
    sortedEntries es = es.map fun e => (e.1, sorted e.2) := by
  induction es with
  | nil => rfl
  | cons e es ih => rw [sortedEntries, List.map_cons, ih]

theorem fitsIn_sorted (h : FitsIn n v) : FitsIn n v.sorted := by
  induction v using Json.induction generalizing n with
  | list xs ih =>
    cases n with
    | zero => cases h
    | succ n =>
      rw [sorted, sortedItems_eq_map]
      exact List.forall_mem_map.mpr fun x hx => ih x hx (h x hx)
  | map es ih =>
    cases n with
    | zero => cases h
    | succ n =>
      rw [sorted, sortedEntries_eq_map]
      intro e he
      rcases KeyOrder.mem_insertAll he with he | he
      · cases he
      · obtain ⟨e, hmem, rfl⟩ := List.mem_map.mp he
        exact ih e hmem (h e hmem)
  | _ => exact h

/-- **A canonical value is its own canonical form.** -/
theorem sorted_of_canonical {v : Json} (h : v.Canonical) : v.sorted = v := by
  induction v using Json.induction with
  | list xs ih =>
    have hitems : xs.map sorted = xs :=
      (List.map_congr_left fun x hx => ih x hx (canonicalItems_iff.mp h x hx)).trans xs.map_id
    rw [sorted, sortedItems_eq_map, hitems]
  | map es ih =>
    have hvalues : (es.map fun e => (e.1, sorted e.2)) = es := by
      refine (List.map_congr_left fun e he => ?_).trans es.map_id
      rw [ih e he (canonicalEntries_iff.mp h.2 e he)]
      rfl
    have horder : KeyOrder.insertAll [] es = es := KeyOrder.insertAll_of_increasing h.1
    rw [sorted, sortedEntries_eq_map, hvalues, horder]
  | _ => rfl

end Json

/-! ### Documents -/

namespace Document

open Json

variable {raw s w w' : Bytes} {d : Document}

theorem parse_eq_ok_iff : parse raw = .ok d ↔ read? raw = .ok d := mapError_eq_ok_iff

/-- A document that has been read can be read again. -/
theorem fitsIn_of_read? (h : read? raw = .ok d) : FitsIn maxLevels d.toJson := by
  obtain ⟨es, hes, hd⟩ := bind_eq_ok_iff.mp h
  obtain rfl := Except.ok.inj hd
  obtain ⟨r, hread, -⟩ := readWhole_eq_ok_iff.mp hes
  have hfits : FitsIn maxLevels (.map es) := by
    unfold readMap at hread
    split at hread
    · cases hread
    split at hread
    · exact forall_of_readEntries (fun _ _ _ => fitsIn_of_readValue) hread
    · cases hread
  exact fitsIn_sorted hfits

/-- A document is its own canonical form. -/
theorem ofEntries_entries (d : Document) : ofEntries d.entries = d := by
  obtain ⟨es, h⟩ := d
  have hsorted := sorted_of_canonical h
  rw [sorted, Json.map.injEq] at hsorted
  simp only [ofEntries, hsorted]

/-- **What is written is read as the document.** -/
theorem read?_of_isTextOf (h : IsTextOf maxLevels d.toJson s) (hw : AreBlanks w)
    (hw' : AreBlanks w') : read? (w ++ (s ++ w')) = .ok d := by
  have hmap : readMap (w ++ (s ++ w')) = .ok (d.entries, w') :=
    readMap_of_readValue (h.readsAs.2 hw hw'.endsNumber)
  refine bind_eq_ok_iff.mpr ⟨d.entries, readWhole_eq_ok_iff.mpr ⟨w', hmap, hw'⟩, ?_⟩
  rw [ofEntries_entries]
  rfl

/-- The text of a document, on one line or on several. -/
def text (d : Document) (pretty : Bool) : String :=
  if pretty then d.toJson.pretty else d.toJson.compact

/-- Standard output is the text of the document and the end of its line. -/
theorem out_printDocument (store : Store) (pretty : Bool) :
    (store.printDocument pretty).out = store.current.document.text pretty ++ "\n" := by
  have hvalue (o : Output) (line : String) : (o.value line).out = o.out ++ line ++ "\n" := rfl
  have hwarning (o : Output) (message : String) : (o.warning message).out = o.out := rfl
  have hinfo (o : Output) (message : String) : (o.info message).out = o.out := rfl
  have hempty : Output.empty.out = "" := rfl
  unfold Store.printDocument text
  dsimp only
  split <;> simp only [hinfo, hvalue, apply_ite Output.out, hwarning, hempty, ite_self,
    String.empty_append]

/-- The text that is shown of a document is read as the document, and so is all that is printed with
it. -/
theorem shown_document_is_read_back (h : parse raw = .ok d) (hint : d.toJson.IsIntegral)
    (pretty : Bool) : parse (Utf8.encode (d.text pretty)) = .ok d ∧
      ∀ store : Store, store.current.document = d →
        parse (Utf8.encode (store.printDocument pretty).out) = .ok d := by
  have hfits := fitsIn_of_read? (parse_eq_ok_iff.mp h)
  have htext : IsTextOf maxLevels d.toJson (Utf8.encode (d.text pretty)) := by
    cases pretty with
    | true => exact isTextOf_prettyAt hfits hint 0
    | false => exact isTextOf_compact hfits hint
  have hread {w' : Bytes} (hw' : AreBlanks w') :
      parse (Utf8.encode (d.text pretty) ++ w') = .ok d :=
    parse_eq_ok_iff.mpr (read?_of_isTextOf htext areBlanks_nil hw')
  constructor
  · have hread := hread areBlanks_nil
    rwa [List.append_nil] at hread
  · rintro store rfl
    have hline : Utf8.encode "\n" = [Ascii.lineFeed] := by decide +kernel
    rw [out_printDocument, Utf8.encode_append, hline]
    exact hread (List.forall_mem_singleton.mpr rfl)

/-- A document of a text with a key that comes twice, escapes and empty containers. -/
theorem shown_document_is_read_back_of_repeated_key :
    let raw := Utf8.encode "\x7b\"b\":1, \"a\":[\"\\u00e9\\n\", \x7b\x7d], \"b\":-2\x7d"
    let d := ofEntries [("a", .list [.text "é\n", .map []]), ("b", .number (.int (-2) (by decide)))]
    parse raw = .ok d ∧ d.toJson.IsIntegral ∧
      ∀ pretty, parse (Utf8.encode (d.text pretty)) = .ok d := by
  intro raw d
  have hparse : parse raw = .ok d := by rfl
  have hint : d.toJson.IsIntegral := by
    intro n hn
    have hn : Contains (.map [("a", .list [.text "é\n", .map []]),
      ("b", .number (.int (-2) (by decide)))]) n := hn
    obtain - | - | ⟨hmem, hn⟩ := hn
    rcases List.mem_cons.mp hmem with rfl | hmem
    · obtain - | ⟨hmem, hn⟩ | - := hn
      rcases List.mem_cons.mp hmem with rfl | hmem
      · cases hn
      · obtain rfl := List.mem_singleton.mp hmem
        obtain - | - | ⟨hmem, -⟩ := hn
        cases hmem
    · obtain rfl := List.mem_singleton.mp hmem
      obtain ⟨⟩ | - | - := hn
      exact ⟨-2, by decide, rfl⟩
  exact ⟨hparse, hint, fun pretty => (shown_document_is_read_back hparse hint pretty).1⟩

end Document

end LiveConfig
