import LiveConfig.Proofs.Layers
import LiveConfig.Proofs.Seeding
import LiveConfig.Proofs.Stopping
import LiveConfig.Proofs.ValidSettings

/-!
Which errors come from where.

An error that keeps a configuration from being opened is final.  One that an accessor reports names
the path that was asked for, and every error of a client may pass: so a seeding tries again after
it, and a watch rests and polls again.  Main statement: `errors_tell_their_origin`.
-/

namespace LiveConfig

namespace ConfigError

/-- Why a configuration cannot be opened. -/
inductive OfOpening : ConfigError → Prop
  | settings (message : String) : OfOpening (.settings message)
  | connecting {e : ConfigError} (h : OfConnecting e) : OfOpening e

/-- Why an accessor does not find a value under a path. -/
inductive OfAccess (path : String) : ConfigError → Prop
  | notFound : OfAccess path (.notFound path)
  | mismatch {e : ConfigError} (h : e.IsMismatchAt path) : OfAccess path e

/-- An error after which there is nothing to go on with. -/
def IsFinal (e : ConfigError) : Prop := e.isRecoverable = false ∧ e.isTransient = false

theorem OfConnecting.isFinal {e : ConfigError} (h : e.OfConnecting) : e.IsFinal := by
  cases h with
  | seeding h => cases h <;> exact ⟨rfl, rfl⟩
  | watchStart key message => exact ⟨rfl, rfl⟩

theorem OfOpening.isFinal {e : ConfigError} (h : e.OfOpening) : e.IsFinal := by
  cases h with
  | settings message => exact ⟨rfl, rfl⟩
  | connecting h => exact h.isFinal

end ConfigError

open ConfigError

/-! ### Opening -/

theorem yields_checkWebUrl (url : String) :
    Yields (fun _ => True) OfOpening (checkWebUrl url) := by
  unfold checkWebUrl
  split
  · exact .error (.settings _)
  · exact .error (.settings _)
  · exact .ok trivial

namespace Settings

theorem yields_require (condition : Bool) (message : String) :
    Yields (fun _ => True) OfOpening (require condition message) := by
  unfold require
  cases condition
  · exact .error (.settings _)
  · exact .ok trivial

theorem yields_validate (s : Settings) : Yields (fun _ => True) OfOpening s.validate := by
  unfold validate
  -- The checks after the address are the same whether there is one or not.
  cases s.remote.url with
  | none =>
    exact (yields_require _ _).bind fun _ _ => (yields_require _ _).bind fun _ _ =>
      (yields_require _ _).bind fun _ _ => yields_require _ _
  | some url =>
    exact (yields_checkWebUrl url).bind fun _ _ => (yields_require _ _).bind fun _ _ =>
      (yields_require _ _).bind fun _ _ => (yields_require _ _).bind fun _ _ => yields_require _ _

theorem yields_openLocal (s : Settings) (files : Files) :
    Yields (fun _ => True) OfOpening (s.openLocal files) := by
  unfold openLocal Store.loadFile
  split
  · rename_i path _
    split
    · cases hload : (Store.empty s.activeSection).load path _ with
      | ok store => exact .ok trivial
      | error e => exact .error (.connecting (.seeding ((yields_load _ _ _).of_error hload)))
    · exact .error (.connecting (.seeding (.load _ _)))
  · exact .ok trivial

end Settings

theorem Client.yields_ofSettings (r : RemoteSettings) :
    Yields (fun _ => True) OfOpening (Client.ofSettings r) := by
  have haddress : ∀ url token, Yields (fun _ => True) OfOpening (Client.ofAddress url token) := by
    intro url token
    unfold Client.ofAddress
    split
    · exact .ok trivial
    · split
      · rename_i e he
        exact .error ((yields_checkWebUrl url).of_error he)
      · exact .error (.settings _)
  unfold Client.ofSettings
  split
  · exact .error (.settings _)
  · rename_i url _
    cases hclient : Client.ofAddress url r.token with
    | ok c => exact .ok trivial
    | error e => exact .error ((haddress url r.token).of_error hclient)

/-- The ways in which the configuration of some settings can be opened, whatever a remote store
answers. -/
inductive Settings.Opens (s : Settings) (files : Files) :
    List Answered → Except ConfigError Store → Prop
  | refused {e} (h : s.opening files = .error e) : Opens s files [] (.error e)
  | here {store} (h : s.opening files = .ok (.here store)) : Opens s files [] (.ok store)
  | failed {c conversation rs e} (h : s.opening files = .ok (.remote c conversation))
      (hrun : Recorded Exchange.Step conversation rs (.done (.error e))) :
      Opens s files rs (.error e)
  | connected {c conversation rs connected} (h : s.opening files = .ok (.remote c conversation))
      (hrun : Recorded Exchange.Step conversation rs (.done (.ok connected))) :
      Opens s files rs (.ok connected.store)

/-- **How a configuration is opened**: a conversation with a remote store is a connection. -/
theorem Settings.yields_opening (s : Settings) (files : Files) :
    Yields (fun o => ∀ c conversation, o = .remote c conversation →
      ∃ key, conversation = Exchange.connect Client.storeName key s.activeSection
        (s.localSource files) files s.watch.options) OfOpening (s.opening files) := by
  unfold Settings.opening
  refine s.yields_validate.bind fun _ _ => ?_
  split
  · rename_i key _ _
    refine (Client.yields_ofSettings s.remote).bind fun client _ => .ok ?_
    intro c conversation h
    cases h
    exact ⟨key, rfl⟩
  · refine (s.yields_openLocal files).bind fun store _ => .ok ?_
    intro c conversation h
    cases h

theorem ofConnecting_of_connect {storeName key : String} {sectionName localPath : Option String}
    {files : Files} {options : WatchOptions} {rs : List Answered} {e : ConfigError}
    (hrun : Recorded Exchange.Step
      (Exchange.connect storeName key sectionName localPath files options) rs (.done (.error e))) :
    e.OfConnecting :=
  ((Exchange.endsIn_connect _ _ _ _ _ _).of_recorded hrun).of_error rfl

theorem Settings.ofOpening_of_opens {s : Settings} {files : Files} {rs : List Answered}
    {e : ConfigError} (h : s.Opens files rs (.error e)) : e.OfOpening := by
  cases h with
  | refused h => exact (s.yields_opening files).of_error h
  | failed h hrun =>
    obtain ⟨key, rfl⟩ := (s.yields_opening files).of_ok h _ _ rfl
    exact .connecting (ofConnecting_of_connect hrun)

/-! ### Accessors -/

/-- All errors of the accessors of a store at a path. -/
structure AccessErrors (s : Store) (env : Environment) (path : String) : Prop where
  text : ∀ e, s.getText env path = .error e → e.OfAccess path
  int : ∀ e, s.getInt env path = .error e → e.OfAccess path
  float : ∀ e, s.getFloat env path = .error e → e.OfAccess path
  bool : ∀ e, s.getBool env path = .error e → e.OfAccess path
  textList : ∀ e, s.getTextList env path = .error e → e.OfAccess path
  nested : ∀ e, s.getNested path = .error e → e.OfAccess path
  textMap : ∀ e, s.getTextMap path = .error e →
    e = .notFound path ∨ ∃ below, e.IsMismatchAt (path ++ below)

theorem Source.ofAccess_of_read {α : Type} {path : String}
    {ofJson : String → Json → Except ConfigError α}
    {ofText : String → String → Except ConfigError α}
    (hjson : ∀ v e, ofJson path v = .error e → e.IsMismatchAt path)
    (htext : ∀ raw e, ofText path raw = .error e → e.OfAccess path) (src : Source)
    {e : ConfigError} (h : src.read path ofJson ofText = .error e) : e.OfAccess path := by
  cases src with
  | ofSection v | ofDocument v => exact .mismatch (hjson v e h)
  | ofVariable raw => exact htext raw e h
  | nowhere =>
    cases h
    exact .notFound

theorem Variable.isMismatchAt_of_toInt {path raw : String} {e : ConfigError}
    (h : Variable.toInt path raw = .error e) : e.IsMismatchAt path := by
  unfold Variable.toInt at h
  split at h <;> cases h
  exact ⟨_, _, rfl⟩

theorem Variable.isMismatchAt_of_toFloat {path raw : String} {e : ConfigError}
    (h : Variable.toFloat path raw = .error e) : e.IsMismatchAt path := by
  unfold Variable.toFloat at h
  split at h <;> cases h
  exact ⟨_, _, rfl⟩

theorem Variable.isMismatchAt_of_toBool {path raw : String} {e : ConfigError}
    (h : Variable.toBool path raw = .error e) : e.IsMismatchAt path := by
  unfold Variable.toBool at h
  split at h
  · cases h
  · split at h <;> cases h
    exact ⟨_, _, rfl⟩

/-- **Accessors blame the path** that they are asked for. -/
theorem accessErrors (s : Store) (env : Environment) (path : String) :
    AccessErrors s env path := by
  obtain ⟨src, hsrc⟩ := exists_provides s env path
  have hreads := hsrc.readsFrom
  have hfails := failsByKind path
  constructor
  · intro e h
    rw [hreads.text] at h
    exact src.ofAccess_of_read (fun v => (hfails v).text) (fun _ _ h => by cases h) h
  · intro e h
    rw [hreads.int] at h
    exact src.ofAccess_of_read (fun v => (hfails v).int)
      (fun _ _ h => .mismatch (Variable.isMismatchAt_of_toInt h)) h
  · intro e h
    rw [hreads.float] at h
    exact src.ofAccess_of_read (fun v => (hfails v).float)
      (fun _ _ h => .mismatch (Variable.isMismatchAt_of_toFloat h)) h
  · intro e h
    rw [hreads.bool] at h
    exact src.ofAccess_of_read (fun v => (hfails v).bool)
      (fun _ _ h => .mismatch (Variable.isMismatchAt_of_toBool h)) h
  · intro e h
    rw [hreads.textList] at h
    exact src.ofAccess_of_read (fun v => (hfails v).textList) (fun _ _ h => by cases h) h
  · intro e h
    rw [hreads.nested] at h
    refine src.ofAccess_of_read (fun v => (hfails v).nested) (fun _ _ h => ?_) h
    cases h
    exact .notFound
  · intro e h
    rw [hreads.textMap] at h
    cases src with
    | ofSection v | ofDocument v => exact .inr ((hfails v).textMap e h)
    | ofVariable raw | nowhere =>
      cases h
      exact .inl rfl

/-! ### Clients -/

/-- An error of a remote store. -/
def ConfigError.OfTransport (e : ConfigError) : Prop := ∃ message, e = .transport message

theorem ConfigError.OfTransport.isTransient {e : ConfigError} (h : e.OfTransport) :
    e.isTransient = true := by
  obtain ⟨message, rfl⟩ := h
  rfl

namespace Client

variable (c : Client) (send : Request → Reply) (key : String)

theorem ofTransport_sendError (r : Request) (reply : Reply) :
    (c.sendError r reply).OfTransport := by
  cases reply <;> exact ⟨_, rfl⟩

theorem yields_readAnswer (r : Request) (reply : Reply) :
    Yields (fun _ => True) OfTransport (c.readAnswer r reply) := by
  cases reply with
  | answered status body =>
    rw [readAnswer, firstPair]
    split
    · split
      · exact .ok trivial
      · exact .error ⟨_, rfl⟩
    · split
      · exact .ok trivial
      · exact .error ⟨_, rfl⟩
  | refused | late | lost => exact .error (c.ofTransport_sendError r _)

theorem yields_writeAnswer (r : Request) (reply : Reply) :
    Yields (fun _ => True) OfTransport (c.writeAnswer r reply) := by
  cases reply with
  | answered status body =>
    rw [writeAnswer]
    split
    · exact .ok trivial
    · exact .error ⟨_, rfl⟩
  | refused | late | lost => exact .error (c.ofTransport_sendError r _)

/-- **Errors of a client** are errors of the remote store, whatever it replies. -/
theorem yields_read (query : Option Query) :
    Yields (fun _ => True) OfTransport (c.read send key query) := by
  unfold read
  split
  · exact c.yields_readAnswer _ _
  · exact .error ⟨_, rfl⟩

theorem yields_put (value : Bytes) : Yields (fun _ => True) OfTransport (c.put send key value) := by
  unfold put
  split
  · exact c.yields_writeAnswer _ _
  · exact .error ⟨_, rfl⟩

theorem yields_delete : Yields (fun _ => True) OfTransport (c.delete send key) := by
  unfold delete
  split
  · exact c.yields_writeAnswer _ _
  · exact .error ⟨_, rfl⟩

end Client

/-! ### Seeding again -/

namespace Exchange

variable {α : Type} {key : String} {value : Bytes} {errors : List ConfigError}

/-- As long as there are pauses left, a write that has failed in passing is repeated. -/
theorem exists_write_of_writeRepeating {f : WriteAnswer → Exchange α} {pauses : List Span}
    {e : Exchange α} (hlength : errors.length ≤ pauses.length)
    (htransient : ∀ x ∈ errors, x.isTransient = true)
    (h : Recorded Step ((writeRepeating key value pauses).bind f)
      (errors.map fun x => .write key value (.error x)) e) :
    ∃ next, Recorded Step e [] (.write key value next) := by
  have hfirst : ∀ ps, ∃ next, (writeRepeating key value ps).bind f = .write key value next := by
    intro ps
    cases ps <;> exact ⟨_, rfl⟩
  induction errors generalizing pauses with
  | nil =>
    obtain ⟨next, hnext⟩ := hfirst pauses
    rw [hnext] at h
    rcases of_write h with ⟨-, rfl⟩ | ⟨a, rest, hrest, -⟩
    · exact ⟨next, .refl⟩
    · cases hrest
  | cons x errors ih =>
    cases pauses with
    | nil => simp at hlength
    | cons p pauses =>
      have hx : x.isTransient = true := htransient x List.mem_cons_self
      rcases of_write h with ⟨hnil, -⟩ | ⟨a, rest, hrest, hrun⟩
      · cases hnil
      obtain ⟨ha, rfl⟩ := List.cons.inj hrest
      cases ha
      dsimp only at hrun
      rw [if_pos hx] at hrun
      rcases of_pause hrun with ⟨-, rfl⟩ | hrun
      · -- Behind the pause stands the next write.
        obtain ⟨next, hnext⟩ := hfirst pauses
        exact ⟨next, hnext ▸ .single .pause⟩
      · refine ih ?_ (fun y hy => htransient y (List.mem_cons_of_mem x hy)) hrun
        simpa using hlength

/-- **A seeding tries again** after every error that may pass, as often as it may. -/
theorem exists_write_of_fetchOrSeed {storeName : String} {localPath : Option String} {files : Files}
    {e : Exchange (Except ConfigError Bytes)}
    (hdefault : localDefault key localPath files = .ok value)
    (hlength : errors.length ≤ seedRepetitions)
    (htransient : ∀ x ∈ errors, x.isTransient = true)
    (h : Recorded Step (fetchOrSeed storeName key localPath files)
      (.read key (.ok none) :: errors.map fun x => .write key value (.error x)) e) :
    ∃ next, Recorded Step e [] (.write key value next) := by
  rcases of_read h with ⟨hnil, -⟩ | ⟨a, rest, hrest, hrun⟩
  · cases hnil
  · obtain ⟨ha, rfl⟩ := List.cons.inj hrest
    cases ha
    simp only [hdefault] at hrun
    exact exists_write_of_writeRepeating (by simpa [seedPauses] using hlength) htransient hrun

end Exchange

/-! ### Watching on -/

namespace LoopTask

variable {p : Poll} {e : ConfigError} {t t' : LoopTask} {log es : List LoopEvent}

/-- A loop ends for no other reason than that it has been told to stop. -/
theorem goes_of_run (hrun : Recorded Step t log t') (hstop : .stop ∉ log)
    (hgoes : t.stopping = false) (halive : t.place ≠ .ended) :
    t'.stopping = false ∧ t'.place ≠ .ended := by
  induction hrun with
  | refl => exact ⟨hgoes, halive⟩
  | @tail u v es es' _ hstep ih =>
    obtain ⟨hu, -⟩ := ih fun h => hstop (List.mem_append_left es' h)
    cases hstep with
    | stop => exact absurd (List.mem_append_right es List.mem_cons_self) hstop
    | act hact =>
      refine ⟨hact.stopping_eq.trans hu, ?_⟩
      cases hact with
      | leave | heed => cases hu
      | _ => exact nofun

/-- What is seen of a loop after an error: a rest, and then the same poll again. -/
def againAfterRest (p : Poll) : List LoopEvent :=
  [.rest p.options.rest.ticks, .request p.key p.query]

/-- A loop that goes on after an error, with what has been seen of it since. -/
inductive Recovers (p : Poll) (e : ConfigError) : List LoopEvent → LoopTask → Prop
  | holding : Recovers p e [] ⟨p, .holding (.error e), false⟩
  | resting : Recovers p e [.rest p.options.rest.ticks] ⟨p, .resting, false⟩
  | top : Recovers p e [.rest p.options.rest.ticks] ⟨p, .top, false⟩
  | cleared : Recovers p e [.rest p.options.rest.ticks] ⟨p, .cleared, false⟩
  | asked (es : List LoopEvent) (t : LoopTask) : Recovers p e (againAfterRest p ++ es) t

namespace Recovers

theorem step (h : Recovers p e log t) (hstep : Step t es t') (hstop : .stop ∉ es) :
    Recovers p e (log ++ es) t' := by
  cases hstep with
  | stop => exact absurd List.mem_cons_self hstop
  | act hact =>
    cases h with
    | holding =>
      cases hact with
      | rest hreceive =>
        cases hreceive
        exact .resting
      | again hreceive | call hreceive => cases hreceive
    | resting =>
      cases hact with
      | rise => exact .top
    | top =>
      cases hact with
      | pass => exact .cleared
    | cleared =>
      cases hact with
      | ask => exact .asked [] _
    | asked es₀ =>
      rw [List.append_assoc]
      exact .asked (es₀ ++ es) t'

theorem run (h : Recovers p e log t) (hrun : Recorded Step t es t') (hstop : .stop ∉ es) :
    Recovers p e (log ++ es) t' := by
  induction hrun with
  | refl => rwa [List.append_nil]
  | tail _ hstep ih =>
    rw [← List.append_assoc]
    exact (ih fun h => hstop (List.mem_append_left _ h)).step hstep
      fun h => hstop (List.mem_append_right _ h)

/-- The next poll can always come, and nothing else can come before it. -/
theorem exists_poll (h : Recovers p e log t) :
    ∃ es t' rest, Recorded Step t es t' ∧ log ++ es = againAfterRest p ++ rest := by
  have hcleared : Recorded Step ⟨p, .cleared, false⟩ [.request p.key p.query]
      ⟨p, .asking, false⟩ := .single (.act .ask)
  have htop : Recorded Step ⟨p, .top, false⟩ [.request p.key p.query] ⟨p, .asking, false⟩ :=
    hcleared.head (.act .pass)
  have hresting : Recorded Step ⟨p, .resting, false⟩ [.request p.key p.query]
      ⟨p, .asking, false⟩ := htop.head (.act .rise)
  cases h with
  | holding => exact ⟨againAfterRest p, _, [], hresting.head (.act (.rest rfl)), rfl⟩
  | resting => exact ⟨_, _, [], hresting, rfl⟩
  | top => exact ⟨_, _, [], htop, rfl⟩
  | cleared => exact ⟨_, _, [], hcleared, rfl⟩
  | asked es t => exact ⟨[], t, es, .refl, List.append_nil _⟩

end Recovers

/-- **A watch survives every error** of its store: it does not end, and what is seen of it goes on
to a rest and the same poll again. -/
theorem survives_error {before after : List LoopEvent}
    (hrun : Recorded Step (.start p) (before ++ .answer (.error e) :: after) t)
    (hbefore : .stop ∉ before) (hafter : .stop ∉ after) :
    t.place ≠ .ended ∧ ∃ es t' rest, Recorded Step t es t' ∧
      after ++ es =
        againAfterRest { p with lastIndex := p.indexAfter (answers before) } ++ rest := by
  obtain ⟨y, y', hto, htake, hfrom⟩ := hrun.cut Step.length_le
  obtain ⟨hgoes, halive⟩ := goes_of_run hto hbefore rfl nofun
  cases htake with
  | act hact =>
    cases hact with
    | @take p' s =>
      cases hgoes
      have hnext : p' = { p with lastIndex := p.indexAfter (answers before) } := next_of_run hto
      subst hnext
      refine ⟨(goes_of_run hfrom hafter rfl nofun).2, ?_⟩
      exact (Recovers.holding.run hfrom hafter).exists_poll

end LoopTask

/-! ### All errors -/

/-- **Errors tell where they come from.**  Opening fails, whatever a remote store answers, with an
error of the settings or of connecting, and connecting never with one of the settings; after either
there is nothing to go on with.  Accessors fail with the path that they are asked for, and clients
with errors that may pass: a seeding writes again after them, as often as it may, and a watch that
is not told to stop rests and polls again. -/
theorem errors_tell_their_origin :
    (∀ (s : Settings) (files : Files) (rs : List Answered) (e : ConfigError),
      s.Opens files rs (.error e) → e.OfOpening ∧ e.IsFinal) ∧
    (∀ (storeName key : String) (sectionName localPath : Option String) (files : Files)
      (options : WatchOptions) (rs : List Answered) (e : ConfigError),
      Recorded Exchange.Step (Exchange.connect storeName key sectionName localPath files options) rs
        (.done (.error e)) → e.OfConnecting ∧ e.IsFinal) ∧
    (∀ (s : Store) (env : Environment) (path : String), AccessErrors s env path) ∧
    (∀ (c : Client) (send : Request → Reply) (key : String),
      (∀ query e, c.read send key query = .error e → e.OfTransport) ∧
      (∀ value e, c.put send key value = .error e → e.OfTransport) ∧
      ∀ e, c.delete send key = .error e → e.OfTransport) ∧
    (∀ (c : Client) (storeName key : String) (localPath : Option String) (files : Files)
      (value : Bytes) (errors : List ConfigError) (x : Exchange (Except ConfigError Bytes)),
      Exchange.localDefault key localPath files = .ok value →
      errors.length ≤ seedRepetitions →
      (∀ e ∈ errors, ∃ send, c.put send key value = .error e) →
      Recorded Exchange.Step (Exchange.fetchOrSeed storeName key localPath files)
        (.read key (.ok none) :: errors.map fun e => .write key value (.error e)) x →
      ∃ next, Recorded Exchange.Step x [] (.write key value next)) ∧
    ∀ (p : Poll) (e : ConfigError) (before after : List LoopEvent) (t : LoopTask),
      Recorded LoopTask.Step (.start p) (before ++ .answer (.error e) :: after) t →
      .stop ∉ before → .stop ∉ after →
      t.place ≠ .ended ∧ ∃ es t' rest, Recorded LoopTask.Step t es t' ∧
        after ++ es = LoopTask.againAfterRest
          { p with lastIndex := p.indexAfter (answers before) } ++ rest := by
  refine ⟨?_, ?_, accessErrors, fun c send key => ⟨?_, ?_, ?_⟩, ?_, ?_⟩
  · intro s files rs e h
    have hopening := Settings.ofOpening_of_opens h
    exact ⟨hopening, hopening.isFinal⟩
  · intro storeName key sectionName localPath files options rs e h
    have hconnecting := ofConnecting_of_connect h
    exact ⟨hconnecting, hconnecting.isFinal⟩
  · intro query e h
    exact (c.yields_read send key query).of_error h
  · intro value e h
    exact (c.yields_put send key value).of_error h
  · intro e h
    exact (c.yields_delete send key).of_error h
  · intro c storeName key localPath files value errors x hdefault hlength hput hrun
    refine Exchange.exists_write_of_fetchOrSeed hdefault hlength (fun e he => ?_) hrun
    obtain ⟨send, hsend⟩ := hput e he
    exact ((c.yields_put send key value).of_error hsend).isTransient
  · intro p e before after t hrun hbefore hafter
    exact LoopTask.survives_error hrun hbefore hafter

/-- A remote store that does not answer in time: opening fails for good, a seeding writes for the
second time, and a watch polls again. -/
theorem errors_tell_their_origin_of_timeout :
    let s : Settings := { Settings.usual with
      remote := ⟨some "http://[::1]:8500/v1/kv", some "app", none, 1800⟩ }
    let files := Files.ofList [("default", .ok [0x7B, 0x7D])]
    let c : Client := ⟨"http://[::1]:8500/v1/kv", none, .ofSeconds 1800⟩
    let late : ConfigError := .transport ("request to " ++ c.address ++ " timed out")
    let failed : ConfigError := .bootstrap "app" ("unable to read from consul: " ++ late.message)
    let p : Poll := ⟨"app", .usual, 7⟩
    s.Opens files [.read "app" (.error late)] (.error failed) ∧
    failed.OfOpening ∧ failed.IsFinal ∧ failed.OfConnecting ∧
    c.put (fun _ => .late) "app" [0x7B, 0x7D] = .error late ∧ late.OfTransport ∧
    (∃ x next, Recorded Exchange.Step (Exchange.fetchOrSeed "consul" "app" (some "default") files)
      [.read "app" (.ok none), .write "app" [0x7B, 0x7D] (.error late)] x ∧
      Recorded Exchange.Step x [] (.write "app" [0x7B, 0x7D] next)) ∧
    ∃ t es t' rest, Recorded LoopTask.Step (.start p)
      [.request "app" p.query, .answer (.error late)] t ∧ t.place ≠ .ended ∧
      Recorded LoopTask.Step t es t' ∧ es = LoopTask.againAfterRest p ++ rest := by
  have hput : let c : Client := ⟨"http://[::1]:8500/v1/kv", none, .ofSeconds 1800⟩
      c.put (fun _ => .late) "app" [0x7B, 0x7D] =
        .error (.transport ("request to " ++ c.address ++ " timed out")) := by rfl
  intro s files c late failed p
  obtain ⟨hopens, hconnects, -, hclients, hseeds, hwatches⟩ := errors_tell_their_origin
  have hopening : s.opening files = .ok (.remote c
      (Exchange.connect Client.storeName "app" none none files s.watch.options)) := by rfl
  have hconnect : Recorded Exchange.Step
      (Exchange.connect Client.storeName "app" none none files s.watch.options)
      [.read "app" (.error late)] (.done (.error failed)) :=
    .single (Exchange.Step.read (.error late))
  have hopen : s.Opens files [.read "app" (.error late)] (.error failed) :=
    .failed hopening hconnect
  have hseed : Recorded Exchange.Step (Exchange.fetchOrSeed "consul" "app" (some "default") files)
      [.read "app" (.ok none), .write "app" [0x7B, 0x7D] (.error late)] _ :=
    (Recorded.single (Exchange.Step.read (.ok none))).tail (Exchange.Step.write (.error late))
  have hputs : ∀ e ∈ [late], ∃ send, c.put send "app" [0x7B, 0x7D] = .error e := by
    intro e he
    rw [List.mem_singleton.mp he]
    exact ⟨_, hput⟩
  obtain ⟨next, hnext⟩ :=
    hseeds c "consul" "app" (some "default") files _ [late] _ rfl (by decide) hputs hseed
  have hpoll : Recorded LoopTask.Step (.start p) [.request "app" p.query, .answer (.error late)]
      ⟨p, .holding (.error late), false⟩ :=
    (LoopTask.recorded_ask p).tail (.act (.take (.error late)))
  obtain ⟨halive, es, t', rest, hgoes, hagain⟩ :=
    hwatches p late [.request "app" p.query] [] _ hpoll (by simp) (by simp)
  obtain ⟨hopening, hfinal⟩ := hopens s files _ failed hopen
  exact ⟨hopen, hopening, hfinal, (hconnects _ _ _ _ _ _ _ _ hconnect).1, hput,
    (hclients c _ "app").2.1 _ _ hput, ⟨_, next, hseed, hnext⟩, _, es, t', rest, hpoll, halive,
    hgoes, hagain⟩

end LiveConfig
