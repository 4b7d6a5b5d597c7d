import LiveConfig.Proofs.Paths

/-!
Where a path ends in a document.

The keys of a path lead from map to map.  `Json.Leads` says where they lead if all of them are
followed, and `Document.EndsAt` after how many of them a lookup stops: at the end of the path, or
before that at a value that is no map.  Main statement: `lookup_follows_keys`, a lookup finds what
stands at the one place where its path ends.
-/

namespace LiveConfig

/-! ### Keys between points -/

namespace Text

variable {sep : Char}

theorem notMem_of_mem_cut {cs p : List Char} (h : p ∈ cut sep cs) : sep ∉ p := by
  induction cs generalizing p with
  | nil =>
    obtain rfl := List.mem_singleton.mp h
    exact List.not_mem_nil
  | cons c cs ih =>
    unfold cut at h
    split at h
    · rcases List.mem_cons.mp h with rfl | h
      · exact List.not_mem_nil
      · exact ih h
    · rename_i hc
      cases hcs : cut sep cs with
      | nil => exact absurd hcs (cut_ne_nil sep cs)
      | cons q qs =>
        rw [hcs] at h ih
        rcases List.mem_cons.mp h with rfl | h
        · have hq : sep ∉ q := ih List.mem_cons_self
          simp [hq, Ne.symm hc]
        · exact ih (List.mem_cons_of_mem q h)

theorem intercalate_cut (sep : Char) (cs : List Char) : [sep].intercalate (cut sep cs) = cs := by
  induction cs with
  | nil => rfl
  | cons c cs ih =>
    unfold cut
    cases hcs : cut sep cs with
    | nil => exact absurd hcs (cut_ne_nil sep cs)
    | cons q qs =>
      rw [hcs] at ih
      split
      · rename_i hc
        rw [List.intercalate_cons_cons, ih, hc]
        rfl
      · rw [← ih]
        cases qs with
        | nil => rfl
        | cons r rs => rw [List.intercalate_cons_cons, List.intercalate_cons_cons]; rfl

end Text

theorem pathKeys_intercalate {ks : List String} (hne : ks ≠ []) (hsteps : ∀ k ∈ ks, IsStep k) :
    pathKeys (".".intercalate ks) = ks := by
  induction ks with
  | nil => exact absurd rfl hne
  | cons k ks ih =>
    have hk := pathKeys_of_isStep (hsteps k List.mem_cons_self)
    cases ks with
    | nil => rw [String.intercalate_singleton, hk]
    | cons l ls =>
      have hrest := ih (List.cons_ne_nil l ls) fun m hm => hsteps m (List.mem_cons_of_mem k hm)
      rw [String.intercalate_cons_cons, pathKeys_join, hk, hrest, List.singleton_append]

/-- **The keys of a path** are what stands between its points, be it empty. -/
theorem pathKeys_eq_iff {path : String} {ks : List String} :
    pathKeys path = ks ↔ ks ≠ [] ∧ (∀ k ∈ ks, IsStep k) ∧ ".".intercalate ks = path := by
  constructor
  · rintro rfl
    refine ⟨?_, fun k hk => ?_, ?_⟩
    · simpa [pathKeys, Text.pieces] using Text.cut_ne_nil '.' path.toList
    · obtain ⟨p, hp, rfl⟩ := List.mem_map.mp hk
      rw [IsStep, String.toList_ofList]
      exact Text.notMem_of_mem_cut hp
    · have htexts : (pathKeys path).map String.toList = Text.cut '.' path.toList := by
        rw [pathKeys, Text.pieces, List.map_map]
        exact (List.map_congr_left fun p _ => String.toList_ofList).trans (List.map_id _)
      rw [← String.toList_inj, String.toList_intercalate, htexts]
      exact Text.intercalate_cut '.' path.toList
  · rintro ⟨hne, hsteps, rfl⟩
    exact pathKeys_intercalate hne hsteps

/-! ### Following keys -/

namespace Json

/-- All of the keys are followed, from one map to the next. -/
inductive Leads : Json → List String → Json → Prop
  | here (v : Json) : Leads v [] v
  | down {es : Entries} {k : String} {v u : Json} {ks : List String} (h : es.lookup k = some v)
      (rest : Leads v ks u) : Leads (.map es) (k :: ks) u

variable {v u w : Json} {ks ls : List String} {k : String}

theorem Leads.unique (hu : v.Leads ks u) (hw : v.Leads ks w) : u = w := by
  induction hu with
  | here v =>
    cases hw
    rfl
  | down h _ ih =>
    cases hw with
    | down h' rest' =>
      cases h.symm.trans h'
      exact ih rest'

theorem Leads.cut (h : v.Leads (ks ++ ls) w) : ∃ u, v.Leads ks u ∧ u.Leads ls w := by
  induction ks generalizing v with
  | nil => exact ⟨v, .here v, h⟩
  | cons k ks ih =>
    cases h with
    | down hk rest =>
      obtain ⟨u, hu, hw⟩ := ih rest
      exact ⟨u, .down hk hu, hw⟩

/-- There are maps on the way only. -/
theorem Leads.isMap_of_append (hu : v.Leads ks u) (hw : v.Leads (ks ++ k :: ls) w) :
    u.isMap = true := by
  obtain ⟨u', hu', hrest⟩ := hw.cut
  cases hu.unique hu'
  cases hrest with
  | down => rfl

/-- A walk goes where its first keys lead, and on from there. -/
theorem Leads.walk_append (h : v.Leads ks u) (ls : List String) :
    v.walk (ks ++ ls) = u.walk ls := by
  induction h with
  | here v => rfl
  | down hk _ ih =>
    rw [List.cons_append, walk, hk]
    exact ih

/-- A walk ends where all keys lead, or before that at a value that is no map. -/
theorem exists_leads_of_walk (h : v.walk ks = some u) :
    ∃ front back, ks = front ++ back ∧ v.Leads front u ∧ (back = [] ∨ u.isMap = false) := by
  induction ks generalizing v with
  | nil =>
    cases h
    exact ⟨[], [], rfl, .here u, .inl rfl⟩
  | cons k ks ih =>
    by_cases hv : v.isMap = true
    · cases v with
      | map es =>
        rw [walk] at h
        split at h
        · cases h
        · rename_i w hw
          obtain ⟨front, back, rfl, hleads, hend⟩ := ih h
          exact ⟨k :: front, back, rfl, .down hw hleads, hend⟩
      | null | bool | number | text | list => cases hv
    · rw [walk_of_not_isMap (by simpa using hv)] at h
      cases h
      exact ⟨[], k :: ks, rfl, .here u, .inr (by simpa using hv)⟩

end Json

/-! ### Where a lookup stops -/

namespace Document

/-- A path ends after `j` of its keys, at `v`: they lead there, and either there are no more of them
or `v` is no map. -/
structure EndsAt (d : Document) (path : String) (j : Nat) (v : Json) : Prop where
  pos : 1 ≤ j
  le : j ≤ (pathKeys path).length
  leads : d.toJson.Leads ((pathKeys path).take j) v
  last : j = (pathKeys path).length ∨ v.isMap = false

variable {d : Document} {path : String} {i j : Nat} {u v : Json}

theorem EndsAt.walk_append (h : d.EndsAt path j v) {ls : List String}
    (hls : v.isMap = true → ls = []) : d.toJson.walk (pathKeys path ++ ls) = some v := by
  rw [← List.take_append_drop j (pathKeys path), List.append_assoc, h.leads.walk_append]
  by_cases hv : v.isMap = true
  · have hj : j = (pathKeys path).length := h.last.resolve_right (by simp [hv])
    rw [hls hv, hj, List.drop_length]
    rfl
  · exact Json.walk_of_not_isMap (by simpa using hv) _

theorem exists_endsAt_of_walk (h : d.toJson.walk (pathKeys path) = some v) :
    ∃ j, d.EndsAt path j v := by
  obtain ⟨front, back, hkeys, hleads, hend⟩ := Json.exists_leads_of_walk h
  have hpos : 1 ≤ front.length := by
    cases front with
    | cons k ks => exact Nat.le_add_left ..
    | nil =>
      -- The document itself is a map, and a path has a key.
      cases hleads
      rcases hend with rfl | hmap
      · exact absurd hkeys (pathKeys_eq_iff.mp rfl).1
      · cases hmap
  refine ⟨front.length, hpos, ?_, ?_, ?_⟩
  · simp [hkeys]
  · rw [hkeys, List.take_left]
    exact hleads
  · rcases hend with rfl | hmap
    · exact .inl (by simp [hkeys])
    · exact .inr hmap

theorem EndsAt.not_lt (hi : d.EndsAt path i u) (hj : d.EndsAt path j v) : ¬ i < j := by
  intro hlt
  have hi' : i < (pathKeys path).length := Nat.lt_of_lt_of_le hlt hj.le
  obtain ⟨k, ls, hsplit⟩ : ∃ k ls, (pathKeys path).take j = (pathKeys path).take i ++ k :: ls := by
    obtain ⟨n, rfl⟩ := Nat.exists_eq_add_of_lt hlt
    refine ⟨(pathKeys path)[i], ((pathKeys path).drop (i + 1)).take n, ?_⟩
    rw [Nat.add_assoc, List.take_add, List.drop_eq_getElem_cons hi', List.take_succ_cons]
  have hleads := hj.leads
  rw [hsplit] at hleads
  have hmap := hi.leads.isMap_of_append hleads
  rcases hi.last with hend | hnot
  · omega
  · rw [hmap] at hnot
    cases hnot

/-- **A path ends at one place.** -/
theorem EndsAt.unique (hi : d.EndsAt path i u) (hj : d.EndsAt path j v) : i = j ∧ u = v := by
  obtain rfl : i = j := Nat.le_antisymm (Nat.le_of_not_lt (hj.not_lt hi))
    (Nat.le_of_not_lt (hi.not_lt hj))
  exact ⟨rfl, hi.leads.unique hj.leads⟩

theorem lookup_eq_some_iff :
    d.lookup path = some v ↔ v.isNull = false ∧ ∃ j, d.EndsAt path j v := by
  rw [lookup, Option.filter_eq_some_iff]
  constructor
  · rintro ⟨hwalk, hnull⟩
    exact ⟨by simpa using hnull, exists_endsAt_of_walk hwalk⟩
  · rintro ⟨hnull, j, hends⟩
    have hwalk : d.toJson.walk (pathKeys path ++ []) = some v := hends.walk_append fun _ => rfl
    rw [List.append_nil] at hwalk
    exact ⟨hwalk, by simpa using hnull⟩

/-- Behind a value that is no map a path may go on as it likes. -/
theorem lookup_join_of_leaf_found (h : d.lookup path = some v) (hv : v.isMap = false)
    (more : String) : d.lookup (path ++ "." ++ more) = some v := by
  obtain ⟨hnull, j, hends⟩ := lookup_eq_some_iff.mp h
  rw [lookup, pathKeys_join, hends.walk_append (by simp [hv])]
  simp [hnull]

/-- A key that is missing, or `null`, on the way of a path leaves nothing to be found. -/
theorem lookup_of_missing {es : Json.Entries} {front back : List String} {k : String}
    (hkeys : pathKeys path = front ++ k :: back) (hleads : d.toJson.Leads front (.map es))
    (hmissing : presentValue es k = none) : d.lookup path = none := by
  rw [lookup, hkeys, hleads.walk_append, Json.walk]
  cases hk : es.lookup k with
  | none => rfl
  | some w =>
    obtain rfl : w = .null := Json.isNull_iff.mp (by simpa [presentValue, hk] using hmissing)
    dsimp only
    rw [Json.walk_of_not_isMap rfl]
    rfl

end Document

/-- **A lookup follows the keys of its path**, which are the texts between its points.  It finds a
value just if that is not `null` and stands where the path ends: after some of the keys, which lead
through maps only, at the end of the path or at a value that is no map.  There is one such place at
most.  A path that is continued behind a value that is no map finds the same, and one that meets a
missing key or `null` on its way finds nothing. -/
theorem lookup_follows_keys (d : Document) (path : String) :
    (∀ ks, pathKeys path = ks ↔ ks ≠ [] ∧ (∀ k ∈ ks, IsStep k) ∧ ".".intercalate ks = path) ∧
    (∀ v, d.lookup path = some v ↔ v ≠ .null ∧ ∃ j, d.EndsAt path j v) ∧
    (∀ i j u v, d.EndsAt path i u → d.EndsAt path j v → i = j ∧ u = v) ∧
    (∀ v more, d.lookup path = some v → v.isMap = false →
      d.lookup (path ++ "." ++ more) = some v) ∧
    ∀ front k back es, pathKeys path = front ++ k :: back → d.toJson.Leads front (.map es) →
      (es.lookup k = none ∨ es.lookup k = some .null) → d.lookup path = none := by
  refine ⟨fun ks => pathKeys_eq_iff, fun v => ?_, fun i j u v => Document.EndsAt.unique,
    fun v more h hv => Document.lookup_join_of_leaf_found h hv more,
    fun front k back es hkeys hleads hk => Document.lookup_of_missing hkeys hleads ?_⟩
  · rw [Document.lookup_eq_some_iff, ← Bool.not_eq_true, Json.isNull_iff]
  · rcases hk with hk | hk <;> simp [presentValue, hk, Json.isNull]

/-- A path that ends at a number, with an empty key behind it, and one that meets `null`. -/
theorem lookup_follows_keys_to_number :
    let five : Json := .number (.int 5 (by decide))
    let limits : Json.Entries := [("max", five), ("off", .null)]
    let d : Document := .ofEntries [("limits", .map limits)]
    d.EndsAt "limits.max" 2 five ∧ d.lookup "limits.max" = some five ∧
      (∀ j v, d.EndsAt "limits.max" j v → 2 = j ∧ five = v) ∧
      d.lookup ("limits.max" ++ "." ++ ".deeper") = some five ∧
      pathKeys "limits.off.deeper" = ["limits"] ++ "off" :: ["deeper"] ∧
      d.lookup "limits.off.deeper" = none := by
  intro five limits d
  have hlimits : d.toJson.Leads ["limits"] (.map limits) := .down rfl (.here _)
  have hmax : pathKeys "limits.max" = ["limits", "max"] := by decide
  have hends : d.EndsAt "limits.max" 2 five := by
    refine ⟨by decide, by rw [hmax]; decide, ?_, .inr rfl⟩
    rw [hmax]
    exact .down rfl (.down rfl (.here _))
  obtain ⟨-, hfound, hunique, hmore, -⟩ := lookup_follows_keys d "limits.max"
  obtain ⟨-, -, -, -, hmissing⟩ := lookup_follows_keys d "limits.off.deeper"
  have hoff : pathKeys "limits.off.deeper" = ["limits"] ++ "off" :: ["deeper"] := by decide
  have hfive : d.lookup "limits.max" = some five := (hfound five).mpr ⟨nofun, 2, hends⟩
  exact ⟨hends, hfive, fun j v => hunique 2 j five v hends, hmore five ".deeper" hfive rfl, hoff,
    hmissing ["limits"] "off" ["deeper"] limits hoff hlimits (.inr rfl)⟩

end LiveConfig
