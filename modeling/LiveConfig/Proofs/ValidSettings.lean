import LiveConfig.Proofs.Endings
import LiveConfig.Proofs.Pacing
import LiveConfig.Settings.Loader
import LiveConfig.Store.Opening

/-!
What valid settings are good for.

Settings are looked at once, and then the client, the watch and its polls rely on them.
`Settings.IsValid` says what has been looked at.  Main statement: `valid_settings_suffice`, with
valid settings a remote store is opened, every poll waits for a time that is shorter than a request
may take, and every rest takes time; and settings that have been loaded are valid.
-/

namespace LiveConfig

/-! ### What is looked at -/

theorem checkWebUrl_eq_ok_iff {url : String} {x : Unit} :
    checkWebUrl url = .ok x ↔ ∃ u, Url.read url = .ok (.web u) := by
  unfold checkWebUrl
  split <;> simp [*]

namespace Settings

/-- Settings that have been looked at and found to be good. -/
structure IsValid (s : Settings) : Prop where
  url : ∀ url, s.remote.url = some url → ∃ u, Url.read url = .ok (.web u)
  key : ∀ key, s.remote.key = some key → (Text.strip key).isEmpty = false
  wait : 0 < s.watch.wait
  rest : 0 < s.watch.rest
  timeout : s.isRemote = true → s.watch.wait < s.remote.requestTimeout

theorem require_eq_ok_iff {condition : Bool} {message : String} {x : Unit} :
    require condition message = .ok x ↔ condition = true := by
  unfold require
  cases condition <;> simp

/-- **What validation looks at.** -/
theorem validate_eq_ok_iff (s : Settings) : s.validate = .ok () ↔ s.IsValid := by
  have hkey : (s.remote.key.all fun k => !(Text.strip k).isEmpty) = true ↔
      ∀ key, s.remote.key = some key → (Text.strip key).isEmpty = false := by
    simp [Option.all_eq_true]
  have htimeout : (!s.isRemote || decide (s.watch.wait < s.remote.requestTimeout)) = true ↔
      (s.isRemote = true → s.watch.wait < s.remote.requestTimeout) := by
    cases s.isRemote <;> simp
  have hrest : s.validate = .ok () ↔
      (∀ url, s.remote.url = some url → ∃ u, Url.read url = .ok (.web u)) ∧
        (∀ key, s.remote.key = some key → (Text.strip key).isEmpty = false) ∧
        0 < s.watch.wait ∧ 0 < s.watch.rest ∧
        (s.isRemote = true → s.watch.wait < s.remote.requestTimeout) := by
    unfold validate
    cases hurl : s.remote.url with
    | none =>
      simp only [bind_eq_ok_iff, require_eq_ok_iff, hkey, htimeout, exists_const, decide_eq_true_eq]
      simp
    | some url =>
      simp only [bind_eq_ok_iff, require_eq_ok_iff, checkWebUrl_eq_ok_iff, hkey, htimeout,
        exists_const, decide_eq_true_eq]
      simp
  rw [hrest]
  constructor
  · rintro ⟨hurl, hkey, hwait, hrest, htimeout⟩
    exact ⟨hurl, hkey, hwait, hrest, htimeout⟩
  · intro h
    exact ⟨h.url, h.key, h.wait, h.rest, h.timeout⟩

/-- Loading settings is making them from the layer of a file, which may be the usual one. -/
theorem exists_extract_of_load {file : Option String} {files : Files} {env : Environment}
    {s : Settings} (h : load file files env = .ok s) :
    ∃ layer, files.settingsLayer (file.getD settingsFile) = .ok layer ∧
      extract layer env = .ok s := by
  unfold load at h
  split at h
  · split at h
    · exact bind_eq_ok_iff.mp h
    · cases h
  · exact bind_eq_ok_iff.mp h

/-- The layer of a file over the usual settings, with the variables over both. -/
def merged (layer : Setting) (env : Environment) : Setting :=
  ((Setting.usual.merge layer).merge
    (.ofEnvironment .ownVariables Setting.ownKey? env)).merge
    (.ofEnvironment .bootstrap Setting.bootstrapKey? env)

/-- What is made of a layer has been read from all of them and is valid. -/
theorem of_extract {layer : Setting} {env : Environment} {s : Settings}
    (h : extract layer env = .ok s) : ofLayer (merged layer env) = .ok s ∧ s.validate = .ok () := by
  unfold extract at h
  dsimp only at h
  split at h
  · cases h
  · rename_i hread
    obtain ⟨_, hvalid, h⟩ := bind_eq_ok_iff.mp h
    cases h
    exact ⟨hread, hvalid⟩

/-- **Settings that have been loaded are valid.** -/
theorem validate_of_load {file : Option String} {files : Files} {env : Environment} {s : Settings}
    (h : load file files env = .ok s) : s.validate = .ok () := by
  obtain ⟨layer, -, h⟩ := exists_extract_of_load h
  exact (of_extract h).2

theorem validate_of_loadFor {file sectionName : Option String} {files : Files} {env : Environment}
    {s : Settings} (h : loadFor file sectionName files env = .ok s) : s.validate = .ok () := by
  obtain ⟨s', hload, h⟩ := bind_eq_ok_iff.mp h
  have hvalid : s'.validate = .ok () := validate_of_load hload
  cases h
  -- No check looks at the section.
  exact hvalid

end Settings

/-! ### The client -/

theorem Client.exists_ofSettings {r : RemoteSettings} {url : String} (hurl : r.url = some url)
    (hread : ∃ u, Url.read url = .ok (.web u)) :
    ∃ c, Client.ofSettings r = .ok c ∧ c.timeout = r.timeout := by
  obtain ⟨u, hu⟩ := hread
  unfold Client.ofSettings Client.ofAddress
  rw [hurl]
  dsimp only
  rw [hu]
  exact ⟨_, rfl, rfl⟩

/-! ### The loop of a watch -/

namespace LoopTask

variable {p : Poll} {t t' : LoopTask} {es log : List LoopEvent}

theorem next_of_run (hrun : Recorded Step t es t') :
    t'.next = { t.next with lastIndex := t.next.indexAfter (answers es) } := by
  induction hrun with
  | refl => rfl
  | @tail u v es es' _ hstep ih =>
    rw [hstep.next, ih, answers_append]
    simp only [Poll.indexAfter, List.foldl_append]

/-- **What a loop asks for** is said by the poll that it has begun with. -/
theorem request_of_run {k : String} {q : Query} (hrun : Recorded Step (.start p) log t)
    (hmem : .request k q ∈ log) : k = p.key ∧ q.wait = p.options.wait := by
  obtain ⟨before, after, rfl⟩ := List.append_of_mem hmem
  obtain ⟨y, y', hto, hask, -⟩ := hrun.cut Step.length_le
  cases hask with
  | act hact =>
    cases hact with
    | @ask p' s =>
      have hp : p' = { p with lastIndex := p.indexAfter (answers before) } := next_of_run hto
      rw [hp]
      exact ⟨rfl, rfl⟩

/-- **How long a loop rests** is said by the options of that poll. -/
theorem rest_of_run {ticks : Nat} (hrun : Recorded Step (.start p) log t)
    (hmem : .rest ticks ∈ log) : ticks = p.options.rest.ticks := by
  obtain ⟨before, after, rfl⟩ := List.append_of_mem hmem
  obtain ⟨y, y', hto, hrest, -⟩ := hrun.cut Step.length_le
  have hnext := next_of_run hto
  cases hrest with
  | act hact =>
    cases hact with
    | rest hreceive =>
      rw [next_holding hreceive] at hnext
      exact congrArg (fun poll => poll.options.rest.ticks) hnext

end LoopTask

/-! ### Times on the wire -/

theorem Span.millis_ofSeconds (n : Nat) : (Span.ofSeconds n).millis = n * 1000 := by
  unfold millis ofSeconds
  dsimp only
  omega

theorem Span.ticks_ofSeconds (n : Nat) : (Span.ofSeconds n).ticks = n * 1000 := by
  unfold ticks ofSeconds
  dsimp only
  omega

/-- **A wait of whole seconds** is always sent, in milliseconds. -/
theorem Query.lookup_wait {q : Query} {n : Nat} (hwait : q.wait = .ofSeconds n) (hpos : 0 < n) :
    q.parameters.lookup "wait" = some (toString (n * 1000) ++ "ms") := by
  have hzero : q.wait.isZero = false := by
    rw [hwait]
    unfold Span.isZero Span.ofSeconds
    simp only [beq_eq_false_iff_ne, ne_eq]
    omega
  have htext : Query.waitText q.wait = toString (n * 1000) ++ "ms" := by
    have hmax : max (n * 1000) 1 = n * 1000 := by omega
    rw [Query.waitText, hwait, Span.millis_ofSeconds, hmax]
  unfold Query.parameters
  rw [hzero, htext]
  by_cases hindex : q.index = 0
  · simp [hindex]
  · simp [hindex, List.lookup_cons]

/-! ### Valid settings -/

/-- **Valid settings suffice.**  If the address and the key of a remote store are set, the client
and the watch are made, and whatever the store answers, every poll of the watch sends its wait in
milliseconds, which is shorter than a request may take, and every rest takes time.  Settings that
have been loaded are valid, also with another section. -/
theorem valid_settings_suffice :
    (∀ (s : Settings) (files : Files) (url key : String), s.remote.url = some url →
      s.remote.key = some key → s.validate = .ok () →
      ∃ c conversation, Client.ofSettings s.remote = .ok c ∧ checkKey key = .ok () ∧
        conversation = Exchange.connect Client.storeName key s.activeSection (s.localSource files)
          files s.watch.options ∧
        s.opening files = .ok (.remote c conversation) ∧
        ∀ rs connected, Recorded Exchange.Step conversation rs (.done (.ok connected)) →
          ∀ log t, Recorded LoopTask.Step (.start connected.poll) log t →
            (∀ k q, .request k q ∈ log → k = key ∧
              q.parameters.lookup "wait" = some (toString (s.watch.wait * 1000) ++ "ms") ∧
              q.wait.millis = s.watch.wait * 1000 ∧ 0 < q.wait.millis ∧
              (s.watch.wait < UInt64.size → q.wait.millis < UInt64.size * UInt64.size) ∧
              q.wait.nanoseconds < c.timeout.nanoseconds) ∧
            ∀ ticks, .rest ticks ∈ log → ticks = s.watch.rest * 1000 ∧ 0 < ticks) ∧
    (∀ file files env s, Settings.load file files env = .ok s → s.validate = .ok ()) ∧
    ∀ file sectionName files env s, Settings.loadFor file sectionName files env = .ok s →
      s.validate = .ok () := by
  refine ⟨fun s files url key hurl hkey hvalidate => ?_,
    fun _ _ _ _ => Settings.validate_of_load, fun _ _ _ _ _ => Settings.validate_of_loadFor⟩
  have hvalid : s.IsValid := s.validate_eq_ok_iff.mp hvalidate
  obtain ⟨c, hc, htimeout⟩ := Client.exists_ofSettings hurl (hvalid.url url hurl)
  have hopening : s.opening files = .ok (.remote c (Exchange.connect Client.storeName key
      s.activeSection (s.localSource files) files s.watch.options)) := by
    unfold Settings.opening
    rw [hvalidate, hurl, hkey, hc]
    rfl
  refine ⟨c, _, hc, checkKey_eq_ok_iff.mpr (hvalid.key key hkey), rfl, hopening, ?_⟩
  intro rs connected hrun log t hloop
  obtain ⟨hpollKey, hpollOptions⟩ :=
    ((Exchange.endsIn_connect _ _ _ _ _ _).of_recorded hrun).of_ok rfl
  constructor
  · intro k q hq
    obtain ⟨hk, hwait⟩ := LoopTask.request_of_run hloop hq
    rw [hpollOptions] at hwait
    have hmillis : q.wait.millis = s.watch.wait * 1000 := by
      rw [hwait]
      exact Span.millis_ofSeconds _
    have hpos := hvalid.wait
    have hlookup := Query.lookup_wait hwait hpos
    refine ⟨hk.trans hpollKey, hlookup, hmillis, by omega, fun hlt => ?_, ?_⟩
    · rw [hmillis]
      unfold UInt64.size at hlt ⊢
      omega
    · have hpatient := hvalid.timeout (by rw [Settings.isRemote, hurl, hkey]; rfl)
      rw [hwait, htimeout]
      show s.watch.wait * 1000000000 < s.remote.requestTimeout * 1000000000
      omega
  · intro ticks hticks
    have hrest := LoopTask.rest_of_run hloop hticks
    rw [hpollOptions] at hrest
    have heq : ticks = s.watch.rest * 1000 := hrest.trans (Span.ticks_ofSeconds _)
    have hpos := hvalid.rest
    exact ⟨heq, by omega⟩

open LoopTask in
/-- The usual times and a remote store on the same machine, whose key is gone when it is polled; and
settings that are loaded without a file, for a section that is named apart from them. -/
theorem valid_settings_suffice_on_loopback :
    let s : Settings := { Settings.usual with
      remote := ⟨some "http://[::1]:8500/v1/kv", some "app", none, 1800⟩ }
    let e : Pair := ⟨"app", 1, 7, 0, 0, [0x7B, 0x7D], none⟩
    let p : Poll := ⟨"app", s.watch.options, 7⟩
    let log : List LoopEvent :=
      [.request "app" p.query, .answer (.ok none), .rest p.options.rest.ticks]
    let named : Settings := { Settings.usual with sectionName := some "app" }
    s.validate = .ok () ∧ Settings.load none (.ofList []) ⟨[]⟩ = .ok .usual ∧
      Settings.usual.validate = .ok () ∧
      Settings.loadFor none (some "app") (.ofList []) ⟨[]⟩ = .ok named ∧ named.validate = .ok () ∧
      ∃ c, Client.ofSettings s.remote = .ok c ∧
        Recorded Exchange.Step
          (Exchange.connect Client.storeName "app" none none (.ofList []) s.watch.options)
          [.read "app" (.ok (some e)), .read "app" (.ok (some e))]
          (.done (.ok ⟨⟨none, ⟨.empty, [0x7B, 0x7D], 1⟩⟩, p⟩)) ∧
        (∃ t, Recorded Step (.start p) log t) ∧
        p.query.parameters.lookup "wait" = some "600000ms" ∧
        p.query.wait.nanoseconds < c.timeout.nanoseconds := by
  intro s e p log named
  have hvalid : s.validate = .ok () := by rfl
  have hload : Settings.load none (.ofList []) ⟨[]⟩ = .ok .usual := by rfl
  have hnamed : Settings.loadFor none (some "app") (.ofList []) ⟨[]⟩ = .ok named := by
    rw [Settings.loadFor, hload]
    rfl
  obtain ⟨hopens, hloaded, hloadedFor⟩ := valid_settings_suffice
  obtain ⟨c, conversation, hc, -, hconversation, -, hruns⟩ :=
    hopens s (.ofList []) "http://[::1]:8500/v1/kv" "app" rfl rfl hvalid
  have hconnect : Recorded Exchange.Step conversation
      [.read "app" (.ok (some e)), .read "app" (.ok (some e))]
      (.done (.ok ⟨⟨none, ⟨.empty, [0x7B, 0x7D], 1⟩⟩, p⟩)) := by
    rw [hconversation]
    exact (Recorded.single (Exchange.Step.read (.ok (some e)))).tail
      (Exchange.Step.read (.ok (some e)))
  have hlog : Recorded Step (.start p) log ⟨p, .resting, false⟩ :=
    ((recorded_ask p).tail (.act (.take (.ok none)))).tail (.act (.rest rfl))
  obtain ⟨-, hwait, -, -, -, hpatient⟩ :=
    (hruns _ _ hconnect log _ hlog).1 "app" p.query List.mem_cons_self
  rw [hconversation] at hconnect
  have htext : toString (600 * 1000) ++ "ms" = "600000ms" := by decide +kernel
  exact ⟨hvalid, hload, hloaded _ _ _ _ hload, hnamed, hloadedFor _ _ _ _ _ hnamed, c, hc, hconnect,
    ⟨_, hlog⟩, hwait.trans (congrArg some htext), hpatient⟩

end LiveConfig
