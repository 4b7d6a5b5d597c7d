import LiveConfig.Proofs.Paths
import LiveConfig.Proofs.TextMaps
import LiveConfig.Store.Access

/-!
The layers in which a value is looked for.

`Provides` says which of the layers a path is answered from: the active section, the whole document,
the environment, or none of them.  Main statement: `accessors_follow_layers`, every accessor reads
what the first layer provides, and is blind to what the later ones hold.
-/

namespace LiveConfig

/-- Where the value under a path comes from. -/
inductive Source where
  | ofSection (v : Json)
  | ofDocument (v : Json)
  | ofVariable (raw : String)
  | nowhere

namespace Source

/-- The value, if the document has it. -/
def value? : Source → Option Json
  | ofSection v | ofDocument v => some v
  | ofVariable _ | nowhere => none

/-- What an accessor makes of a source: values of the document are converted, texts of variables
are read. -/
def read {α : Type} (path : String) (ofJson : String → Json → Except ConfigError α)
    (ofText : String → String → Except ConfigError α) : Source → Except ConfigError α
  | ofSection v | ofDocument v => ofJson path v
  | ofVariable raw => ofText path raw
  | nowhere => .error (.notFound path)

/-- What an accessor makes of a source if it leaves the environment alone. -/
def readDocument {α : Type} (path : String) (ofJson : String → Json → Except ConfigError α)
    (src : Source) : Except ConfigError α :=
  src.read path ofJson fun path _ => .error (.notFound path)

end Source

/-- The active section, if there is one, has nothing under the path. -/
def Store.MissesInSection (s : Store) (path : String) : Prop :=
  ∀ name, s.sectionName = some name → s.current.document.lookup (name ++ "." ++ path) = none

/-- **The layers**, the first one first. -/
inductive Provides (s : Store) (env : Environment) (path : String) : Source → Prop
  | ofSection {name : String} {v : Json} (active : s.sectionName = some name)
      (found : s.current.document.lookup (name ++ "." ++ path) = some v) :
      Provides s env path (.ofSection v)
  | ofDocument {v : Json} (missed : s.MissesInSection path)
      (found : s.current.document.lookup path = some v) : Provides s env path (.ofDocument v)
  | ofVariable {bytes : Bytes} {raw : String} (missed : s.MissesInSection path)
      (absent : s.current.document.lookup path = none) (set : env.find? path = some bytes)
      (isText : Utf8.decode? bytes = some raw) : Provides s env path (.ofVariable raw)
  | nowhere (missed : s.MissesInSection path) (absent : s.current.document.lookup path = none)
      (unset : ∀ bytes, env.find? path = some bytes → Utf8.decode? bytes = none) :
      Provides s env path .nowhere

section Layers

variable {s : Store} {env : Environment} {path : String}

/-! ### One source -/

theorem Store.resolve_of_missesInSection (h : s.MissesInSection path) :
    s.resolve path = s.current.document.lookup path := by
  unfold Store.resolve
  cases hs : s.sectionName with
  | none => exact Document.resolve_none path
  | some name => rw [Document.resolve_some, h name hs, Option.none_or]

theorem Store.resolve_of_section {name : String} {v : Json} (hs : s.sectionName = some name)
    (hv : s.current.document.lookup (name ++ "." ++ path) = some v) : s.resolve path = some v := by
  rw [Store.resolve, hs, Document.resolve_some, hv, Option.some_or]

theorem Environment.text?_eq_none (h : ∀ bytes, env.find? path = some bytes →
    Utf8.decode? bytes = none) : env.text? path = none := by
  unfold Environment.text?
  cases hb : env.find? path with
  | none => rfl
  | some bytes => exact h bytes hb

theorem Provides.resolve_eq {src : Source} (h : Provides s env path src) :
    s.resolve path = src.value? := by
  cases h with
  | ofSection active found => exact Store.resolve_of_section active found
  | ofDocument missed found => exact (Store.resolve_of_missesInSection missed).trans found
  | ofVariable missed absent | nowhere missed absent =>
    exact (Store.resolve_of_missesInSection missed).trans absent

/-- Some layer provides, if only the answer that there is nothing. -/
theorem exists_provides (s : Store) (env : Environment) (path : String) :
    ∃ src, Provides s env path src := by
  by_cases hmiss : s.MissesInSection path
  · cases hv : s.current.document.lookup path with
    | some v => exact ⟨_, .ofDocument hmiss hv⟩
    | none =>
      by_cases hunset : ∀ bytes, env.find? path = some bytes → Utf8.decode? bytes = none
      · exact ⟨_, .nowhere hmiss hv hunset⟩
      · simp only [Classical.not_forall] at hunset
        obtain ⟨bytes, hbytes, hraw⟩ := hunset
        obtain ⟨raw, hraw⟩ := Option.ne_none_iff_exists'.mp hraw
        exact ⟨_, .ofVariable hmiss hv hbytes hraw⟩
  · simp only [Store.MissesInSection, Classical.not_forall] at hmiss
    obtain ⟨name, hname, hv⟩ := hmiss
    obtain ⟨v, hv⟩ := Option.ne_none_iff_exists'.mp hv
    exact ⟨_, .ofSection hname hv⟩

/-- No two layers provide at once. -/
theorem Provides.unique {src src' : Source} (h : Provides s env path src)
    (h' : Provides s env path src') : src = src' := by
  have hvalue : src.value? = src'.value? := h.resolve_eq.symm.trans h'.resolve_eq
  cases h <;> cases h' <;> simp_all [Source.value?, Store.MissesInSection]

/-! ### Accessors -/

/-- An accessor for scalars reads what is provided. -/
theorem Provides.scalar_eq {α : Type} {src : Source} (h : Provides s env path src)
    (ofJson : String → Json → Except ConfigError α)
    (ofText : String → String → Except ConfigError α) :
    s.scalar env path ofJson ofText = src.read path ofJson ofText := by
  unfold Store.scalar
  rw [h.resolve_eq]
  cases h with
  | ofSection | ofDocument => rfl
  | @ofVariable bytes raw missed absent set isText =>
    have htext : env.text? path = some raw := by
      rw [Environment.text?, set, Option.bind_some, isText]
    simp only [Source.value?, htext, Source.read]
  | nowhere missed absent unset =>
    simp only [Source.value?, Environment.text?_eq_none unset, Source.read]

/-- An accessor for maps reads what the document provides. -/
theorem Provides.getNested_eq {src : Source} (h : Provides s env path src) :
    s.getNested path = src.readDocument path Json.toNested := by
  unfold Store.getNested
  rw [h.resolve_eq]
  cases src <;> rfl

end Layers

/-- A map of maps of leaves, from any value. -/
def Json.toTextMap (path : String) (v : Json) :
    Except ConfigError (List (String × List (String × String))) := do
  Json.textMap path (← v.toNested path)

theorem Provides.getTextMap_eq {s : Store} {env : Environment} {path : String} {src : Source}
    (h : Provides s env path src) :
    s.getTextMap path = src.readDocument path Json.toTextMap := by
  unfold Store.getTextMap
  rw [h.getNested_eq]
  cases src <;> rfl

/-! ### Values that are not as wanted -/

/-- The error that the value at a path is not of the wanted kind. -/
def ConfigError.IsMismatchAt (e : ConfigError) (path : String) : Prop :=
  ∃ expected shown, e = .conversion path expected shown

theorem exists_mem_of_mapM_eq_error {α β : Type} {f : α → Except ConfigError β} {e : ConfigError}
    {xs : List α} (h : xs.mapM f = .error e) : ∃ x ∈ xs, f x = .error e := by
  obtain ⟨as, x, bs, rfl, -, hx⟩ := exists_of_mapM_eq_error h
  exact ⟨x, List.mem_append_right as List.mem_cons_self, hx⟩

/-- **Conversions fail for one reason only**: every error of theirs is a mismatch at the path or,
for maps of maps, below it. -/
structure FailsByKind (path : String) (v : Json) : Prop where
  text : ∀ e, v.toText path = .error e → e.IsMismatchAt path
  int : ∀ e, v.toInt path = .error e → e.IsMismatchAt path
  float : ∀ e, v.toFloat path = .error e → e.IsMismatchAt path
  bool : ∀ e, v.toBool path = .error e → e.IsMismatchAt path
  textList : ∀ e, v.toTextList path = .error e → e.IsMismatchAt path
  nested : ∀ e, v.toNested path = .error e → e.IsMismatchAt path
  textMap : ∀ e, v.toTextMap path = .error e → ∃ below, e.IsMismatchAt (path ++ below)

theorem isMismatchAt_of_mismatch {path expected : String} {v : Json} {e : ConfigError} {α : Type}
    (h : (Except.error (v.mismatch path expected) : Except ConfigError α) = .error e) :
    e.IsMismatchAt path :=
  ⟨expected, v.compact, (Except.error.inj h).symm⟩

theorem isMismatchAt_of_toInt {path : String} {v : Json} {e : ConfigError}
    (h : v.toInt path = .error e) : e.IsMismatchAt path := by
  unfold Json.toInt at h
  split at h
  · split at h
    · cases h
    · exact isMismatchAt_of_mismatch h
  · exact isMismatchAt_of_mismatch h

theorem isMismatchAt_of_toListItem {path : String} {v : Json} {e : ConfigError}
    (h : v.toListItem path = .error e) : e.IsMismatchAt path := by
  unfold Json.toListItem at h
  split at h
  · cases h
  · exact isMismatchAt_of_mismatch h

theorem isMismatchAt_of_toTextList {path : String} {v : Json} {e : ConfigError}
    (h : v.toTextList path = .error e) : e.IsMismatchAt path := by
  unfold Json.toTextList at h
  split at h
  · obtain ⟨x, -, hx⟩ := exists_mem_of_mapM_eq_error h
    exact isMismatchAt_of_toListItem hx
  · exact isMismatchAt_of_mismatch h

theorem isMismatchAt_of_toNested {path : String} {v : Json} {e : ConfigError}
    (h : v.toNested path = .error e) : e.IsMismatchAt path := by
  unfold Json.toNested at h
  split at h
  · cases h
  · exact isMismatchAt_of_mismatch h

theorem isMismatchAt_of_leafTexts {path : String} {es : Json.Entries} {e : ConfigError}
    (h : Json.leafTexts path es = .error e) : ∃ below, e.IsMismatchAt (path ++ below) := by
  rw [Json.leafTexts_eq_mapM] at h
  obtain ⟨⟨key, v⟩, -, hv⟩ := exists_mem_of_mapM_eq_error h
  obtain ⟨-, rfl⟩ := Json.entryText_eq_error hv
  exact ⟨"." ++ key, Wanted.leaf, v.compact, by rw [Json.mismatch, String.append_assoc]⟩

theorem isMismatchAt_of_textMap {path : String} {es : Json.Entries} {e : ConfigError}
    (h : Json.textMap path es = .error e) : ∃ below, e.IsMismatchAt (path ++ below) := by
  rw [Json.textMap_eq_mapM] at h
  obtain ⟨⟨name, v⟩, -, hv⟩ := exists_mem_of_mapM_eq_error h
  rcases Json.entryTexts_eq_error hv with ⟨-, rfl⟩ | ⟨leaves, -, hleaves⟩
  · exact ⟨"." ++ name, Wanted.textMap, v.compact, by rw [Json.mismatch, String.append_assoc]⟩
  · obtain ⟨below, hbelow⟩ := isMismatchAt_of_leafTexts hleaves
    exact ⟨"." ++ name ++ below, by simpa [String.append_assoc] using hbelow⟩

theorem failsByKind (path : String) (v : Json) : FailsByKind path v where
  text e h := by
    unfold Json.toText at h
    split at h
    · cases h
    · exact isMismatchAt_of_mismatch h
  int e h := isMismatchAt_of_toInt h
  float e h := by
    unfold Json.toFloat at h
    split at h
    · cases h
    · exact isMismatchAt_of_mismatch h
  bool e h := by
    unfold Json.toBool at h
    split at h
    · cases h
    · exact isMismatchAt_of_mismatch h
  textList e h := isMismatchAt_of_toTextList h
  nested e h := isMismatchAt_of_toNested h
  textMap e h := by
    unfold Json.toTextMap at h
    cases hn : v.toNested path with
    | ok es =>
      rw [hn] at h
      exact isMismatchAt_of_textMap h
    | error e' =>
      obtain rfl : e' = e := by simpa [hn, bind, Except.bind] using h
      exact ⟨"", by simpa using isMismatchAt_of_toNested hn⟩

/-! ### All accessors -/

/-- What all accessors answer if a path has this source. -/
structure ReadsFrom (s : Store) (env : Environment) (path : String) (src : Source) : Prop where
  text : s.getText env path = src.read path Json.toText fun _ raw => .ok raw
  int : s.getInt env path = src.read path Json.toInt Variable.toInt
  float : s.getFloat env path = src.read path Json.toFloat Variable.toFloat
  bool : s.getBool env path = src.read path Json.toBool Variable.toBool
  textList : s.getTextList env path =
    src.read path Json.toTextList fun _ raw => .ok (Variable.toTextList raw)
  nested : s.getNested path = src.readDocument path Json.toNested
  textMap : s.getTextMap path = src.readDocument path Json.toTextMap

theorem Provides.readsFrom {s : Store} {env : Environment} {path : String} {src : Source}
    (h : Provides s env path src) : ReadsFrom s env path src where
  text := h.scalar_eq _ _
  int := h.scalar_eq _ _
  float := h.scalar_eq _ _
  bool := h.scalar_eq _ _
  textList := h.scalar_eq _ _
  nested := h.getNested_eq
  textMap := h.getTextMap_eq

/-! ### What does not matter -/

/-- Two stores in two environments answer the same at a path. -/
structure SameAnswers (s : Store) (env : Environment) (s' : Store) (env' : Environment)
    (path : String) : Prop where
  text : s.getText env path = s'.getText env' path
  int : s.getInt env path = s'.getInt env' path
  float : s.getFloat env path = s'.getFloat env' path
  bool : s.getBool env path = s'.getBool env' path
  textList : s.getTextList env path = s'.getTextList env' path
  nested : s.getNested path = s'.getNested path
  textMap : s.getTextMap path = s'.getTextMap path

/-- Answers depend on nothing but the source. -/
theorem ReadsFrom.same {s s' : Store} {env env' : Environment} {path : String} {src : Source}
    (h : ReadsFrom s env path src) (h' : ReadsFrom s' env' path src) :
    SameAnswers s env s' env' path where
  text := h.text.trans h'.text.symm
  int := h.int.trans h'.int.symm
  float := h.float.trans h'.float.symm
  bool := h.bool.trans h'.bool.symm
  textList := h.textList.trans h'.textList.symm
  nested := h.nested.trans h'.nested.symm
  textMap := h.textMap.trans h'.textMap.symm

/-- A source in the document is one under every environment. -/
theorem Provides.of_isSome_value? {s : Store} {env : Environment} {path : String} {src : Source}
    (h : Provides s env path src) (hv : src.value?.isSome) (env' : Environment) :
    Provides s env' path src := by
  cases h with
  | ofSection active found => exact .ofSection active found
  | ofDocument missed found => exact .ofDocument missed found
  | ofVariable | nowhere => cases hv

/-- **Accessors follow the layers.**  A path has one source: the active section, else the document,
else a variable whose bytes are a text, else nothing.  Every accessor reads it from there, those for
maps without the environment, and a value that does not convert is an error of its kind.  What the
document has is the same in every environment, and what the section has is the same in every
document with the same entry under the first key of the section's name. -/
theorem accessors_follow_layers (s : Store) (env : Environment) (path : String) :
    (∃ src, Provides s env path src ∧ (∀ src', Provides s env path src' → src' = src) ∧
      ReadsFrom s env path src) ∧
    (∀ v : Json, FailsByKind path v) ∧
    (∀ env', (s.resolve path).isSome → SameAnswers s env s env' path) ∧
    ∀ (s' : Store) (env' : Environment) (name : String), s.sectionName = some name →
      s'.sectionName = some name → (s.current.document.lookup (name ++ "." ++ path)).isSome →
      s'.current.document.entries.lookup (firstKey name) =
        s.current.document.entries.lookup (firstKey name) →
      SameAnswers s env s' env' path := by
  obtain ⟨src, hsrc⟩ := exists_provides s env path
  refine ⟨⟨src, hsrc, fun src' h => h.unique hsrc, hsrc.readsFrom⟩, failsByKind path, ?_, ?_⟩
  · intro env' hv
    rw [hsrc.resolve_eq] at hv
    exact hsrc.readsFrom.same (hsrc.of_isSome_value? hv env').readsFrom
  · intro s' env' name hs hs' hv hentry
    obtain ⟨v, hv⟩ := Option.isSome_iff_exists.mp hv
    have hv' : s'.current.document.lookup (name ++ "." ++ path) = some v := by
      rw [← hv]
      exact Document.lookup_congr (by rw [firstKey_join, hentry])
    have h : Provides s env path (.ofSection v) := .ofSection hs hv
    have h' : Provides s' env' path (.ofSection v) := .ofSection hs' hv'
    exact h.readsFrom.same h'.readsFrom

/-- A text in the section where an integer is wanted: neither a number in the document nor one in
the environment takes its place. -/
theorem accessors_follow_layers_past_text :
    let entry : String × Json := ("svc", .map [("port", .text "high")])
    let port (n : Nat) : String × Json := ("port", .ofNat n)
    let d : Document := .ofEntries [port 80, entry]
    let d' : Document := .ofEntries [port 81, entry]
    let s : Store := ⟨some "svc", ⟨d, [], 1⟩⟩
    let s' : Store := ⟨some "svc", ⟨d', [], 2⟩⟩
    let env : Environment := .ofVariables [(Utf8.encode "port", Utf8.encode "9")]
    (s.resolve "port").isSome ∧ (d.lookup "svc.port").isSome ∧
      SameAnswers s env s ⟨[]⟩ "port" ∧ SameAnswers s env s' ⟨[]⟩ "port" ∧
      s.getInt env "port" = .error (.conversion "port" "an int" "\"high\"") := by
  intro entry port d d' s s' env
  have hresolve : (s.resolve "port").isSome := by decide +kernel
  have hlookup : (d.lookup "svc.port").isSome := by decide +kernel
  have hentry : d'.entries.lookup (firstKey "svc") = d.entries.lookup (firstKey "svc") := by rfl
  obtain ⟨-, -, henv, hdoc⟩ := accessors_follow_layers s env "port"
  exact ⟨hresolve, hlookup, henv ⟨[]⟩ hresolve,
    hdoc s' ⟨[]⟩ "svc" rfl rfl hlookup hentry, by rfl⟩

end LiveConfig
