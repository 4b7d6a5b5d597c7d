import LiveConfig.Proofs.Merging
import LiveConfig.Proofs.ValidSettings

/-!
Where the values of settings come from.

A `Leaf` is a single value among the settings, and `Setting.ReadsAt` says that a reader finds it
under its keys.  `Settings.layers` are all settings that lie over one another: the variables with
names of their own, the program's own variables, the file and the usual settings.  Main statement:
`leaves_follow_layers`, a leaf has the value that the highest of them gives it, and setting one leaf
does not reset another one.  It takes layers that have nothing but tables where the leaf has its
table, as `replaced_table_loses_leaf` shows.
-/

namespace LiveConfig

/-! ### Leaves -/

/-- A single value among the settings. -/
inductive Leaf where
  | sectionName
  | localPath
  | runtimePath
  | secretsPath
  | url
  | key
  | token
  | requestTimeout
  | wait
  | rest
deriving DecidableEq

namespace Leaf

/-- The keys that lead to a leaf. -/
def path : Leaf → List String
  | sectionName => ["section"]
  | localPath => ["local_path"]
  | runtimePath => ["runtime_config_path"]
  | secretsPath => ["secrets_path"]
  | url => ["remote", "url"]
  | key => ["remote", "key"]
  | token => ["remote", "token"]
  | requestTimeout => ["remote", "request_timeout_secs"]
  | wait => ["watch", "wait_secs"]
  | rest => ["watch", "retry_backoff_secs"]

/-- The value of a leaf, if it has one. -/
def value : Leaf → Settings → Option Scalar
  | sectionName, s => s.sectionName.map .text
  | localPath, s => some (.text s.localPath)
  | runtimePath, s => s.runtimePath.map .text
  | secretsPath, s => some (.text s.secretsPath)
  | url, s => s.remote.url.map .text
  | key, s => s.remote.key.map .text
  | token, s => s.remote.token.map .text
  | requestTimeout, s => some (.unsigned s.remote.requestTimeout)
  | wait, s => some (.unsigned s.watch.wait)
  | rest, s => some (.unsigned s.watch.rest)

theorem path_ne_nil (leaf : Leaf) : leaf.path ≠ [] := by cases leaf <;> decide

/-- No leaf is inside of another one. -/
theorem eq_of_path_prefix {a b : Leaf} (h : a.path <+: b.path) : a = b := by
  revert h
  cases a <;> cases b <;> decide

end Leaf

namespace Setting

open KeyOrder

/-! ### Reading records -/

/-- What comes out of a reader at some keys: what the setting there stands for, or else, if the
setting misses the keys, a value of its own. -/
structure ReadsAt {σ : Type} (read : Setting → Except SettingFault σ) (ks : List String)
    (get : σ → Option Scalar) (missing : Option Scalar) : Prop where
  found : ∀ {s y x}, s.Ordered → read s = .ok y → s.at? ks = some x →
    ∃ v, x.denoted? = some v ∧ get y = some v
  missed : ∀ {s y}, s.Ordered → read s = .ok y → s.Misses ks → get y = missing

theorem readsAt_text (expected : String) (missing : Option Scalar) :
    ReadsAt (toText expected) [] (fun s => some (.text s)) missing where
  found {s y x} _ hread hat := by
    cases hat
    unfold toText at hread
    split at hread
    · cases hread
      exact ⟨_, rfl, rfl⟩
    · cases hread
  missed _ _ hmiss := hmiss.elim

theorem readsAt_unsigned (missing : Option Scalar) :
    ReadsAt toUnsigned [] (fun n => some (.unsigned n)) missing where
  found {s y x} _ hread hat := by
    cases hat
    unfold toUnsigned at hread
    split at hread
    · cases hread
      exact ⟨_, rfl, rfl⟩
    · rename_i o i
      split at hread
      · rename_i hi
        cases hread
        obtain ⟨n, rfl⟩ := Int.eq_ofNat_of_zero_le hi
        exact ⟨_, rfl, rfl⟩
      · cases hread
    · cases hread
  missed _ _ hmiss := hmiss.elim

section Record

variable {σ α : Type} {fields : List (Field σ)} {get : σ → Option Scalar} {k : String}
  {es : List (String × Setting)} {s : Setting} {x y : σ}

/-- Putting a field into a record keeps something else of it. -/
def Field.Keeps (f : Field σ) (get : σ → Option Scalar) : Prop :=
  ∀ x s y, f.set x s = .ok y → get y = get x

theorem Field.set_of_eq_ok {read : Setting → Except SettingFault α} {put : σ → α → σ}
    (h : (Field.of k read put).set x s = .ok y) : ∃ a, read s = .ok a ∧ put x a = y := by
  change (read s).bind (fun a => .ok (put x a)) = .ok y at h
  cases hread : read s with
  | error e =>
    rw [hread] at h
    cases h
  | ok a =>
    rw [hread] at h
    exact ⟨a, rfl, Except.ok.inj h⟩

@[simp]
theorem Field.key_of (read : Setting → Except SettingFault α) (put : σ → α → σ) :
    (Field.of k read put).key = k := rfl

@[simp]
theorem Field.keeps_of {read : Setting → Except SettingFault α} {put : σ → α → σ}
    (h : ∀ x a, get (put x a) = get x) : (Field.of k read put).Keeps get := by
  intro x s y hset
  obtain ⟨a, -, rfl⟩ := set_of_eq_ok hset
  exact h x a

/-- What putting the first of some entries into a record comes to. -/
theorem setEntries_cons (h : setEntries fields ((k, s) :: es) x = .ok y) :
    (fields.find? (·.key = k) = none ∧ setEntries fields es x = .ok y) ∨
      ∃ f z, fields.find? (·.key = k) = some f ∧ f.set x s = .ok z ∧
        setEntries fields es z = .ok y := by
  rw [setEntries] at h
  split at h
  · rename_i hnone
    exact .inl ⟨hnone, h⟩
  · rename_i f hfind
    cases hset : f.set x s with
    | error e =>
      rw [hset] at h
      cases h
    | ok z =>
      rw [hset] at h
      exact .inr ⟨f, z, hfind, hset, h⟩

variable (hkeep : ∀ f ∈ fields, f.key ≠ k → f.Keeps get)

include hkeep

theorem get_setEntries_of_none (hnone : es.lookup k = none)
    (h : setEntries fields es x = .ok y) : get y = get x := by
  induction es generalizing x with
  | nil =>
    cases h
    rfl
  | cons e es ih =>
    obtain ⟨a, t⟩ := e
    rw [lookup_cons_ite] at hnone
    split at hnone
    · cases hnone
    · rename_i hne
      rcases setEntries_cons h with ⟨-, h⟩ | ⟨f, z, hfind, hset, h⟩
      · exact ih hnone h
      · have hkey : f.key = a := by simpa using List.find?_some hfind
        have hf := hkeep f (List.mem_of_find?_eq_some hfind) (hkey ▸ Ne.symm hne)
        exact (ih hnone h).trans (hf x t z hset)

theorem get_setEntries_of_some {read : Setting → Except SettingFault α} {put : σ → α → σ}
    {inner : α → Option Scalar} (hfind : fields.find? (·.key = k) = some (.of k read put))
    (hput : ∀ x a, get (put x a) = inner a) (hes : Increasing es) (hs : es.lookup k = some s)
    (h : setEntries fields es x = .ok y) : ∃ a, read s = .ok a ∧ get y = inner a := by
  induction es generalizing x with
  | nil => cases hs
  | cons e es ih =>
    obtain ⟨b, t⟩ := e
    obtain ⟨hb, hes⟩ := List.pairwise_cons.mp hes
    rw [lookup_cons_ite] at hs
    split at hs
    · rename_i heq
      subst heq
      cases hs
      -- No later entry touches what this one has put into the record.
      have hnone : es.lookup k = none := lookup_eq_none_of_lt hb
      rcases setEntries_cons h with ⟨hnofind, -⟩ | ⟨g, z, hg, hset, h⟩
      · rw [hfind] at hnofind
        cases hnofind
      · cases hfind.symm.trans hg
        obtain ⟨a, ha, rfl⟩ := Field.set_of_eq_ok hset
        exact ⟨a, ha, (get_setEntries_of_none hkeep hnone h).trans (hput x a)⟩
    · rcases setEntries_cons h with ⟨-, h⟩ | ⟨g, z, -, -, h⟩
      · exact ih hes hs h
      · exact ih hes hs h

/-- **A field of a record is read at its key.** -/
theorem ReadsAt.field {read : Setting → Except SettingFault α} {put : σ → α → σ} {init : σ}
    {inner : α → Option Scalar} {ks : List String} (title : String)
    (hread : ReadsAt read ks inner (get init))
    (hfind : fields.find? (·.key = k) = some (.of k read put))
    (hput : ∀ x a, get (put x a) = inner a) :
    ReadsAt (toRecord title fields init) (k :: ks) get (get init) where
  found {s y x} hs hrecord hat := by
    obtain ⟨t, hchild, hx⟩ := Option.bind_eq_some_iff.mp hat
    obtain ⟨o, es, rfl, ht⟩ := exists_table_of_child? hchild
    obtain ⟨a, ha, hget⟩ :=
      get_setEntries_of_some hkeep hfind hput (ordered_table_iff.mp hs).1 ht hrecord
    obtain ⟨v, hv, hinner⟩ := hread.found (hs.child hchild) ha hx
    exact ⟨v, hv, hget.trans hinner⟩
  missed {s y} hs hrecord hmiss := by
    obtain ⟨⟨o, es, rfl⟩, hmiss⟩ := hmiss
    cases ht : es.lookup k with
    | none => exact get_setEntries_of_none hkeep ht hrecord
    | some t =>
      obtain ⟨a, ha, hget⟩ :=
        get_setEntries_of_some hkeep hfind hput (ordered_table_iff.mp hs).1 ht hrecord
      exact hget.trans (hread.missed (hs.child ht) ha (hmiss t ht))

end Record

end Setting

/-! ### Reading leaves -/

open Setting

theorem Settings.readsAt_remote {ks : List String} {inner : RemoteSettings → Option Scalar}
    (h : ReadsAt RemoteSettings.ofLayer ks inner (inner .usual)) :
    ReadsAt Settings.ofLayer ("remote" :: ks) (fun s => inner s.remote) (inner .usual) :=
  .field (by simp) _ h rfl fun _ _ => rfl

theorem Settings.readsAt_watch {ks : List String} {inner : WatchSettings → Option Scalar}
    (h : ReadsAt WatchSettings.ofLayer ks inner (inner .usual)) :
    ReadsAt Settings.ofLayer ("watch" :: ks) (fun s => inner s.watch) (inner .usual) :=
  .field (by simp) _ h rfl fun _ _ => rfl

/-- **Leaves are read at their keys.** -/
theorem Leaf.readsAt (leaf : Leaf) :
    ReadsAt Settings.ofLayer leaf.path leaf.value (leaf.value .usual) := by
  cases leaf with
  | sectionName =>
    have h : ReadsAt Settings.ofLayer ["section"] (fun s => s.sectionName.map .text) none :=
      .field (by simp) _ (readsAt_text _ _) rfl fun _ _ => rfl
    exact h
  | localPath =>
    have h : ReadsAt Settings.ofLayer ["local_path"] (fun s => some (.text s.localPath)) _ :=
      .field (by simp) _ (readsAt_text _ _) rfl fun _ _ => rfl
    exact h
  | runtimePath =>
    have h : ReadsAt Settings.ofLayer ["runtime_config_path"]
        (fun s => s.runtimePath.map .text) none :=
      .field (by simp) _ (readsAt_text _ _) rfl fun _ _ => rfl
    exact h
  | secretsPath =>
    have h : ReadsAt Settings.ofLayer ["secrets_path"] (fun s => some (.text s.secretsPath)) _ :=
      .field (by simp) _ (readsAt_text _ _) rfl fun _ _ => rfl
    exact h
  | url =>
    have h : ReadsAt RemoteSettings.ofLayer ["url"] (fun r => r.url.map .text) none :=
      .field (by simp) _ (readsAt_text _ _) rfl fun _ _ => rfl
    exact Settings.readsAt_remote h
  | key =>
    have h : ReadsAt RemoteSettings.ofLayer ["key"] (fun r => r.key.map .text) none :=
      .field (by simp) _ (readsAt_text _ _) rfl fun _ _ => rfl
    exact Settings.readsAt_remote h
  | token =>
    have h : ReadsAt RemoteSettings.ofLayer ["token"] (fun r => r.token.map .text) none :=
      .field (by simp) _ (readsAt_text _ _) rfl fun _ _ => rfl
    exact Settings.readsAt_remote h
  | requestTimeout =>
    have h : ReadsAt RemoteSettings.ofLayer ["request_timeout_secs"]
        (fun r => some (.unsigned r.requestTimeout)) (some (.unsigned 1800)) :=
      .field (by simp) _ (readsAt_unsigned _) rfl fun _ _ => rfl
    exact Settings.readsAt_remote h
  | wait =>
    have h : ReadsAt WatchSettings.ofLayer ["wait_secs"] (fun w => some (.unsigned w.wait))
        (some (.unsigned 600)) := .field (by simp) _ (readsAt_unsigned _) rfl fun _ _ => rfl
    exact Settings.readsAt_watch h
  | rest =>
    have h : ReadsAt WatchSettings.ofLayer ["retry_backoff_secs"]
        (fun w => some (.unsigned w.rest)) (some (.unsigned 10)) :=
      .field (by simp) _ (readsAt_unsigned _) rfl fun _ _ => rfl
    exact Settings.readsAt_watch h

/-! ### Layers -/

namespace Setting

/-- The keys and the values of the variables whose names `key?` knows.  The last variable comes
first. -/
def assignments (key? : String → Option (List Char)) (env : Environment) :
    List (List String × String) :=
  env.entries.reverse.filterMap fun (name, value) =>
    ((key? (Text.strip (Utf8.lossy name))).bind keysOf?).map fun keys => (keys, Utf8.lossy value)

/-- What each of these variables stands for on its own. -/
def ofVariables (o : Origin) (key? : String → Option (List Char)) (env : Environment) :
    List Setting :=
  (assignments key? env).map fun (keys, raw) => nest o keys (ofVariable o raw)

theorem ofEnvironment_eq_overlay (o : Origin) (key? : String → Option (List Char))
    (env : Environment) :
    ofEnvironment o key? env = overlay (table o []) (ofVariables o key? env) := by
  unfold ofEnvironment overlay ofVariables assignments
  rw [List.foldr_map, List.foldr_filterMap, List.foldr_reverse]
  congr 1
  funext layer ⟨name, value⟩
  dsimp only
  cases (key? (Text.strip (Utf8.lossy name))).bind keysOf? <;> rfl

/-! What is read from a file or from a variable has its keys in order. -/

mutual

theorem ordered_ofToml (o : Origin) : ∀ t : Toml, (ofToml o t).Ordered
  | .text s => .scalar o (.text s)
  | .bool b => .scalar o (.bool b)
  | .int i => .scalar o (.signed i)
  | .real x => .scalar o (.real x)
  | .moment => by
    refine .table o (List.pairwise_singleton _ _) fun e he => ?_
    rw [List.mem_singleton.mp he]
    exact .scalar o (.text "")
  | .list xs => .list o (ofTomls o xs)
  | .table _ es => by
    refine .table o (KeyOrder.increasing_insertAll .nil) fun e he => ?_
    rcases KeyOrder.mem_insertAll he with he | he
    · cases he
    · exact ordered_ofTomlEntries o es e he
  | .tables rows => .list o (ofTomlRows o rows)

theorem ordered_ofTomlEntries (o : Origin) :
    ∀ (es : List (String × Toml)), ∀ e ∈ ofTomlEntries o es, e.2.Ordered
  | [], _, he => nomatch he
  | (_, t) :: es, e, he => by
    rcases List.mem_cons.mp he with rfl | he
    · exact ordered_ofToml o t
    · exact ordered_ofTomlEntries o es e he

end

theorem of_takeEntries {item : List Char → Option (Setting × List Char)} {P : Setting → Prop}
    (hitem : ∀ cs x r, item cs = some (x, r) → P x) {fuel : Nat} {cs r : List Char}
    {es : List (String × Setting)} (h : takeEntries item fuel cs = some (es, r)) :
    ∀ e ∈ es, P e.2 := by
  induction fuel generalizing cs es r with
  | zero => cases h
  | succ fuel ih =>
    unfold takeEntries at h
    split at h
    · cases h
      intro e he
      cases he
    · obtain ⟨⟨k, r₁⟩, -, h⟩ := Option.bind_eq_some_iff.mp h
      dsimp only at h
      split at h
      · obtain ⟨⟨x, r₂⟩, hx, h⟩ := Option.bind_eq_some_iff.mp h
        dsimp only at h
        split at h
        · obtain ⟨⟨es', r₃⟩, hes, h⟩ := Option.bind_eq_some_iff.mp h
          cases h
          exact List.forall_mem_cons.mpr ⟨hitem _ _ _ hx, ih hes⟩
        · cases h
          exact List.forall_mem_cons.mpr ⟨hitem _ _ _ hx, fun e he => nomatch he⟩
        · cases h
      · cases h

theorem ordered_of_takeValue {o : Origin} {fuel : Nat} {cs r : List Char} {x : Setting}
    (h : takeValue o fuel cs = some (x, r)) : x.Ordered := by
  induction fuel generalizing cs x r with
  | zero => cases h
  | succ fuel ih =>
    rw [takeValue] at h
    obtain ⟨⟨y, r'⟩, hy, heq⟩ := Option.map_eq_some_iff.mp h
    cases heq
    split at hy
    · cases hy
      exact .scalar _ _
    · cases hy
      exact .scalar _ _
    · obtain ⟨⟨es, r''⟩, hes, heq⟩ := Option.map_eq_some_iff.mp hy
      cases heq
      refine .table o (KeyOrder.increasing_insertAll .nil) fun e he => ?_
      rcases KeyOrder.mem_insertAll he with he | he
      · cases he
      · exact of_takeEntries (fun _ _ _ => ih) hes e he
    · obtain ⟨⟨xs, r''⟩, -, heq⟩ := Option.map_eq_some_iff.mp hy
      cases heq
      exact .list _ _
    · obtain ⟨⟨t, r''⟩, -, heq⟩ := Option.map_eq_some_iff.mp hy
      cases heq
      exact .scalar _ _
    · cases hy
      exact .scalar _ _
    · cases hy
    · cases hy
      exact .scalar _ _

theorem ordered_ofVariable (o : Origin) (raw : String) : (ofVariable o raw).Ordered := by
  unfold ofVariable
  split
  · rename_i x hx
    exact ordered_of_takeValue hx
  · exact .scalar o _

theorem ordered_of_mem_ofVariables {o : Origin} {key? : String → Option (List Char)}
    {env : Environment} : ∀ s ∈ ofVariables o key? env, s.Ordered := by
  intro s hs
  obtain ⟨⟨keys, raw⟩, -, rfl⟩ := List.mem_map.mp hs
  exact (ordered_ofVariable o raw).nest o keys

theorem ordered_ofEnvironment (o : Origin) (key? : String → Option (List Char))
    (env : Environment) : (ofEnvironment o key? env).Ordered := by
  rw [ofEnvironment_eq_overlay]
  exact .overlay (.table o .nil fun e he => nomatch he) ordered_of_mem_ofVariables

theorem ordered_usual : usual.Ordered := by
  have htable : ∀ {es : List (String × Setting)}, (es.map (·.1)).Pairwise (· < ·) →
      (∀ e ∈ es, e.2.Ordered) → (table .usual es).Ordered :=
    fun hkeys => .table .usual (List.pairwise_map.mp hkeys)
  refine htable (by decide) ?_
  simp only [List.forall_mem_cons]
  exact ⟨.scalar _ _, htable (by decide) (by simp), .scalar _ _, htable (by decide) (by simp),
    nofun⟩

end Setting

theorem ordered_of_fileLayer {source : String} {content : Except FileFault Bytes}
    {fromFile : Setting} (h : fileLayer source content = .ok fromFile) : fromFile.Ordered := by
  unfold fileLayer at h
  dsimp only at h
  split at h
  · cases h
  · split at h
    · cases h
    · split at h
      · cases h
      · cases h
        exact ordered_ofToml _ _

theorem ordered_of_settingsLayer {files : Files} {path : String} {fromFile : Setting}
    (h : files.settingsLayer path = .ok fromFile) : fromFile.Ordered := by
  unfold Files.settingsLayer at h
  split at h
  · exact ordered_of_fileLayer h
  · cases h
    exact .table _ .nil fun e he => by cases he

theorem Location.exists_candidates_eq_cons (here : List String) (path : String) :
    ∃ whole rest, candidates here path = ⟨path, whole⟩ :: rest := by
  unfold candidates
  split
  · exact ⟨path, [], rfl⟩
  · rw [List.range_succ_eq_map, List.map_cons]
    exact ⟨_, _, by rw [List.replicate_zero, String.join_nil, String.empty_append]⟩

/-- **A settings file that is there counts**, also if it cannot be read: then no settings are
loaded. -/
theorem Settings.load_of_hasFile {files : Files} {path : String} (h : files.hasFile path)
    (env : Environment) :
    ∃ source, Settings.load (some path) files env =
      (fileLayer source (files.read path)).bind (Settings.extract · env) := by
  have hcontains : files.contains path = true := by
    unfold Files.contains
    split
    · rfl
    · exact h
  obtain ⟨whole, rest, hcandidates⟩ := Location.exists_candidates_eq_cons files.here path
  have hlocation : files.settingsLocation? path = some ⟨path, whole⟩ := by
    rw [Files.settingsLocation?, if_pos hcontains, hcandidates]
    exact List.find?_cons_of_pos h
  refine ⟨(Location.mk path whole).describe files.here, ?_⟩
  rw [Settings.load, if_pos hcontains, Files.settingsLayer, hlocation]
  rfl

/-- All settings that lie over one another when settings are loaded.  The highest comes first. -/
def Settings.layers (fromFile : Setting) (env : Environment) : List Setting :=
  ofVariables .bootstrap bootstrapKey? env ++
    (ofVariables .ownVariables ownKey? env ++ [fromFile, .usual])

theorem Settings.ordered_of_mem_layers {fromFile : Setting} (hfile : fromFile.Ordered)
    {env : Environment} : ∀ s ∈ layers fromFile env, s.Ordered := by
  intro s hs
  rcases List.mem_append.mp hs with hs | hs
  · exact ordered_of_mem_ofVariables s hs
  · rcases List.mem_append.mp hs with hs | hs
    · exact ordered_of_mem_ofVariables s hs
    · rcases List.mem_pair.mp hs with rfl | rfl
      · exact hfile
      · exact ordered_usual

theorem Settings.ordered_merged {fromFile : Setting} (hfile : fromFile.Ordered)
    (env : Environment) : (merged fromFile env).Ordered :=
  (ordered_ofEnvironment _ _ env).merge
    ((ordered_ofEnvironment _ _ env).merge (hfile.merge ordered_usual))

/-- The usual settings leave out those leaves only that usually have no value. -/
theorem Leaf.value_usual_of_misses {leaf : Leaf} (h : Setting.usual.Misses leaf.path) :
    leaf.value .usual = none := by
  cases leaf with
  | sectionName | runtimePath | url | key | token => rfl
  | localPath | secretsPath => exact (h.2 _ rfl).elim
  | requestTimeout | wait | rest => exact ((h.2 _ rfl).2 _ rfl).elim

/-- **What is under some keys of the merged layers** is what the highest of them has there. -/
theorem Settings.gives_layers {fromFile : Setting} (hfile : fromFile.Ordered) {env : Environment}
    {ks : List String} (hks : ks ≠ []) {x : Option Setting}
    (h : Highest ks (layers fromFile env) x) : (merged fromFile env).Gives ks x := by
  have hempty : ∀ o, (Setting.table o []).Ordered := fun o => by simp [KeyOrder.Increasing]
  rw [merged, ofEnvironment_eq_overlay, ofEnvironment_eq_overlay]
  refine gives_merge_overlay ordered_of_mem_ofVariables (hempty _) (misses_empty _ hks)
    (fun y hy => ?_) h
  refine gives_merge_overlay ordered_of_mem_ofVariables (hempty _) (misses_empty _ hks)
    (fun z hz => ?_) hy
  have hlayers : ∀ s ∈ [fromFile], s.Ordered := by simpa using hfile
  exact gives_overlay hlayers (fun _ => gives_of_highest_single) hz

/-- **A leaf has the value that the highest layer gives it**, and no value if none does, as long as
the layers above that one have nothing but tables on the way to the leaf.  A layer that misses a
leaf leaves alone what is there, and what sets one leaf misses every other. -/
theorem leaves_follow_layers {file : Option String} {files : Files} {env : Environment}
    {s : Settings} (hload : Settings.load file files env = .ok s) :
    ∃ fromFile,
      files.settingsLayer (file.getD settingsFile) = .ok fromFile ∧
      (∀ (leaf : Leaf) (x : Option Setting),
        Highest leaf.path (Settings.layers fromFile env) x →
        Option.Rel (fun y v => y.denoted? = some v) x (leaf.value s)) ∧
      (∀ layer ∈ Settings.layers fromFile env, ∀ (leaf : Leaf) (under : Setting),
        layer.Misses leaf.path → (under.merge layer).at? leaf.path = under.at? leaf.path) ∧
      ∀ (leaf leaf' : Leaf) (o : Origin) (x : Setting), leaf ≠ leaf' →
        (nest o leaf.path x).Misses leaf'.path := by
  obtain ⟨fromFile, hfile, hextract⟩ := Settings.exists_extract_of_load hload
  have hordered := ordered_of_settingsLayer hfile
  have hlayers : ∀ layer ∈ Settings.layers fromFile env, layer.Ordered :=
    Settings.ordered_of_mem_layers hordered
  have hread := (Settings.of_extract hextract).1
  refine ⟨fromFile, hfile, fun leaf x hx => ?_, ?_, ?_⟩
  · have hmerged := Settings.ordered_merged hordered env
    cases Settings.gives_layers hordered leaf.path_ne_nil hx with
    | nothing hmiss =>
      have husual := misses_of_highest_none hx .usual (by simp [Settings.layers])
      rw [leaf.readsAt.missed hmerged hread hmiss, Leaf.value_usual_of_misses husual]
      exact .none
    | something hat heq =>
      obtain ⟨v, hv, hvalue⟩ := leaf.readsAt.found hmerged hread hat
      rw [hvalue]
      exact .some (heq.symm.trans hv)
  · intro layer hlayer leaf under hmiss
    exact at?_merge_of_misses (hlayers layer hlayer) hmiss
  · intro leaf leaf' o x hne
    exact misses_nest o x (fun h => hne (Leaf.eq_of_path_prefix h))
      fun h => hne (Leaf.eq_of_path_prefix h).symm

/-- A file, a variable of the program's own and one of its own name, each for a leaf that the usual
settings or the layers below set, too. -/
theorem leaves_follow_layers_of_each :
    let files : Files := .ofList [(settingsFile,
      .ok (Utf8.encode "[remote]\nkey = \"a\"\n[watch]\nwait_secs = 30\nretry_backoff_secs = 3\n"))]
    let env : Environment := .ofVariables
      [(Utf8.encode "CFGSYNC_WATCH__WAIT_SECS", Utf8.encode "40"),
        (Utf8.encode "consulConfigKey", Utf8.encode "k")]
    let s : Settings := { Settings.usual with
      remote := { RemoteSettings.usual with key := some "k" }, watch := ⟨40, 3⟩ }
    Settings.load none files env = .ok s ∧
      ∃ fromFile,
        files.settingsLayer settingsFile = .ok fromFile ∧
        Option.Rel (fun y v => y.denoted? = some v)
          (some (ofVariable .bootstrap "k")) (Leaf.key.value s) ∧
        Option.Rel (fun y v => y.denoted? = some v)
          (some (ofVariable .ownVariables "40")) (Leaf.wait.value s) := by
  intro files env s
  have hresult : (Settings.load none files env).toOption = some s := by decide +kernel
  have hload : Settings.load none files env = .ok s := by
    cases h : Settings.load none files env with
    | error e =>
      rw [h] at hresult
      cases hresult
    | ok s' =>
      rw [h] at hresult
      cases hresult
      rfl
  obtain ⟨fromFile, hfile, hleaf, -, hapart⟩ := leaves_follow_layers hload
  have hbootstrap : assignments bootstrapKey? env = [(Leaf.key.path, "k")] := by decide +kernel
  have hown : assignments ownKey? env = [(Leaf.wait.path, "40")] := by decide +kernel
  have hlayers : Settings.layers fromFile env =
      [nest .bootstrap Leaf.key.path (ofVariable .bootstrap "k"),
        nest .ownVariables Leaf.wait.path (ofVariable .ownVariables "40"), fromFile, .usual] := by
    rw [Settings.layers, ofVariables, ofVariables, hbootstrap, hown]
    rfl
  refine ⟨hload, fromFile, hfile, hleaf .key _ ?_, hleaf .wait _ ?_⟩
  · rw [hlayers]
    exact .here _ rfl
  · rw [hlayers]
    exact .past (hapart .key .wait .bootstrap _ nofun) (.here _ rfl)

/-- A single value in place of the table of the remote store, with a file below it that sets the
token and a variable above it that sets the key.  Nobody else sets the token, and yet it is lost. -/
theorem replaced_table_loses_leaf :
    let files : Files :=
      .ofList [(settingsFile, .ok (Utf8.encode "[remote]\ntoken = \"t\"\n"))]
    let env : Environment := .ofVariables
      [(Utf8.encode "CFGSYNC_REMOTE", Utf8.encode "5"),
        (Utf8.encode "consulConfigKey", Utf8.encode "k")]
    (files.settingsLayer settingsFile).toOption.any (fun fromFile =>
        (fromFile.at? Leaf.token.path).bind denoted? = some (.text "t")) ∧
      assignments bootstrapKey? env = [(Leaf.key.path, "k")] ∧
      assignments ownKey? env = [(["remote"], "5")] ∧
      (∀ x ∈ ofVariables .bootstrap bootstrapKey? env ++ ofVariables .ownVariables ownKey? env,
        x.at? Leaf.token.path = none) ∧
      (Settings.load none files env).toOption.map Leaf.token.value = some none := by
  decide +kernel

end LiveConfig
