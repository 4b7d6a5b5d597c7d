import LiveConfig.CommandLine.Run
import LiveConfig.Proofs.Endings
import LiveConfig.Proofs.Generations
import LiveConfig.Proofs.SeedOutcomes

/-!
Pushing a document, and what becomes of it.

`Client.sent` lists the requests of a conversation with a server, and `Command.sent` those of a
command.  `AcceptedEverywhere` says of bytes that every way into a store takes them, and
`ConnectsWith` how a connection ends that has fetched them.  Main statement:
`pushes_are_safe_and_faithful`, a push sends at most one request, which writes the bytes of a
document, and the bytes are taken wherever they are read.
-/

namespace LiveConfig

/-! ### Requests of a conversation -/

namespace Client

variable {α : Type} {c : Client} {send send' : Request → Reply}

/-- The requests that a conversation sends to a server, in their order. -/
def sent (c : Client) (send : Request → Reply) : Exchange α → List Request
  | .done _ => []
  | .read key next =>
    (c.request .get key none []).toList ++ c.sent send (next (c.read send key none))
  | .write key value next =>
    (c.request .put key none value).toList ++ c.sent send (next (c.put send key value))
  | .pause _ next => c.sent send next

theorem read_congr {key : String} {q : Option Query}
    (h : ∀ r ∈ c.request .get key q [], send' r = send r) :
    c.read send' key q = c.read send key q := by
  unfold read
  cases hr : c.request .get key q [] with
  | none => rfl
  | some r =>
    dsimp only
    rw [h r hr]

theorem put_congr {key : String} {value : Bytes}
    (h : ∀ r ∈ c.request .put key none value, send' r = send r) :
    c.put send' key value = c.put send key value := by
  unfold put
  cases hr : c.request .put key none value with
  | none => rfl
  | some r =>
    dsimp only
    rw [h r hr]

/-- **A conversation is told by the replies to its requests**: what a server says to others has no
say in the result. -/
theorem converse_congr {e : Exchange α} (h : ∀ r ∈ c.sent send e, send' r = send r) :
    c.converse send' e = c.converse send e := by
  induction e with
  | done x => rfl
  | read key next ih =>
    rw [sent, List.forall_mem_append] at h
    rw [converse, converse, read_congr fun r hr => h.1 r (Option.mem_toList.mpr hr)]
    exact ih _ h.2
  | write key value next ih =>
    rw [sent, List.forall_mem_append] at h
    rw [converse, converse, put_congr fun r hr => h.1 r (Option.mem_toList.mpr hr)]
    exact ih _ h.2
  | pause time next ih => exact ih h

/-- A request goes to the address of its key, with user name and password apart from it. -/
theorem exists_url_of_request {method : Method} {key : String} {body : Bytes} {r : Request}
    (h : c.request method key none body = some r) :
    ∃ u, Url.read (c.address ++ "/" ++ Memory.normalKey key) = .ok (.web u) ∧
      r = ⟨method, u.withoutLogin, u.login?, c.token, body⟩ := by
  unfold request endpoint at h
  split at h
  · rename_i u hu
    dsimp only at h
    split at h
    · exact ⟨u, hu, (Option.some.inj h).symm⟩
    · cases h
  · cases h

theorem writeAnswer_eq_ok_iff {r : Request} {reply : Reply} :
    c.writeAnswer r reply = .ok () ↔
      ∃ status body, reply = .answered status body ∧ 200 ≤ status ∧ status < 300 := by
  unfold writeAnswer
  cases reply with
  | answered status body =>
    dsimp only
    split
    · rename_i hs
      exact iff_of_true rfl ⟨status, body, rfl, hs⟩
    · rename_i hs
      refine iff_of_false (by simp) ?_
      rintro ⟨_, _, ⟨⟩, hstatus⟩
      exact hs hstatus
  | refused | late | lost => simp

/-- A write takes effect if it can be asked for and the server says so. -/
theorem put_eq_ok_iff {key : String} {value : Bytes} :
    c.put send key value = .ok () ↔ ∃ r status body, c.request .put key none value = some r ∧
      send r = .answered status body ∧ 200 ≤ status ∧ status < 300 := by
  unfold put
  cases c.request .put key none value with
  | none => simp
  | some r =>
    rw [writeAnswer_eq_ok_iff]
    simp

theorem exists_url_of_ofSettings {r : RemoteSettings} (h : ofSettings r = .ok c) :
    ∃ url, r.url = some url := by
  unfold ofSettings at h
  cases hurl : r.url with
  | none =>
    rw [hurl] at h
    cases h
  | some url => exact ⟨url, rfl⟩

end Client

/-! ### Requests of a command -/

/-- The requests of a job. -/
def Job.sent (send : Request → Reply) : Job → List Request
  | .print _ => []
  | .ask client conversation => client.sent send conversation
  | .follow client conversation => client.sent send conversation

/-- What a job ends with. -/
def Job.result (send : Request → Reply) : Job → Except ConfigError Output
  | .print o => .ok o
  | .ask client conversation => client.converse send conversation
  | .follow client conversation =>
    (client.converse send conversation).map fun _ => Output.empty.watchStarted.watchStopped

namespace Command

variable (c : Command) (s : Settings) (files : Files) (env : Environment)
  (send : Request → Reply)

/-- The requests that a command sends. -/
def sent : List Request :=
  match c.job s files env with
  | .ok j => j.sent send
  | .error _ => []

/-- What a command ends with. -/
def result : Except ConfigError Output := (c.job s files env).bind (Job.result send)

/-- What a command ends with is told by the replies to its requests. -/
theorem result_congr {send' : Request → Reply}
    (h : ∀ r ∈ c.sent s files env send, send' r = send r) :
    c.result s files env send' = c.result s files env send := by
  unfold sent at h
  unfold result
  cases hjob : c.job s files env with
  | error e => rfl
  | ok j =>
    rw [hjob] at h
    cases j with
    | print o => rfl
    | ask client conversation => exact Client.converse_congr h
    | follow client conversation =>
      exact congrArg (Except.map _) (Client.converse_congr h)

end Command

/-- What a run leaves behind is what its command ends with. -/
theorem Invocation.run_eq {i : Invocation} {files : Files} {env : Environment} {s : Settings}
    (h : Settings.loadFor i.settings i.sectionName files env = .ok s) (send : Request → Reply) :
    i.run files env send = .ofResult (i.command.result s files env send) := by
  unfold run job Command.result
  rw [h]
  rfl

/-! ### Pushing -/

namespace Push

variable {s : Settings} {file : String} {files : Files} {env : Environment}
  {send : Request → Reply} {p : Push}

theorem readDocument_eq_ok_iff {bytes : Bytes} :
    readDocument file files = .ok bytes ↔
      files.read file = .ok bytes ∧ ∃ d, Document.parse bytes = .ok d := by
  unfold readDocument
  split
  · rename_i f hread
    simp [hread]
  · rename_i raw hread
    rw [hread, Except.ok.injEq]
    split
    · rename_i m hparse
      refine iff_of_false (by simp) ?_
      rintro ⟨rfl, d, hd⟩
      cases hparse.symm.trans hd
    · rename_i d hparse
      rw [Except.ok.injEq]
      refine (and_iff_left_of_imp ?_).symm
      rintro rfl
      exact ⟨d, hparse⟩

/-- **What is needed for pushing a file**: a key, a document in the file, and an address. -/
theorem of_prepare (h : prepare s file files = .ok p) :
    s.remote.key = some p.key ∧ readDocument file files = .ok p.document ∧
      Client.ofSettings s.remote = .ok p.client := by
  unfold prepare at h
  cases hkey : s.remote.key with
  | none =>
    rw [hkey] at h
    cases h
  | some key =>
    rw [hkey] at h
    cases hdocument : readDocument file files with
    | error e =>
      rw [hdocument] at h
      cases h
    | ok document =>
      rw [hdocument] at h
      cases hclient : Client.ofSettings s.remote with
      | error e =>
        rw [hclient] at h
        cases h
      | ok client =>
        rw [hclient] at h
        cases h
        exact ⟨rfl, rfl, rfl⟩

theorem job_push (s : Settings) (file : String) (files : Files) (env : Environment) :
    (Command.push file).job s files env =
      (prepare s file files).map fun p => .ask p.client p.conversation := by
  change (prepare s file files).bind _ = _
  cases prepare s file files <;> rfl

theorem sent_of_prepare (h : prepare s file files = .ok p) :
    (Command.push file).sent s files env send =
      (p.client.request .put p.key none p.document).toList := by
  rw [Command.sent, job_push, h]
  exact List.append_nil _

theorem result_of_prepare (h : prepare s file files = .ok p) :
    (Command.push file).result s files env send =
      p.print (p.client.put send p.key p.document) := by
  rw [Command.result, job_push, h]
  rfl

theorem of_prepare_eq_error {e : ConfigError} (h : prepare s file files = .error e)
    (env : Environment) (send : Request → Reply) :
    (Command.push file).sent s files env send = [] ∧
      (Command.push file).result s files env send = .error e := by
  rw [Command.sent, Command.result, job_push, h]
  exact ⟨rfl, rfl⟩

theorem exists_print_eq_ok_iff {a : WriteAnswer} : (∃ o, p.print a = .ok o) ↔ a = .ok () := by
  unfold print
  cases a <;> simp

/-- A request that writes the document in a file to the remote key. -/
structure Writes (s : Settings) (file : String) (files : Files) (r : Request) : Prop where
  settings : ∃ key url c u, s.remote.key = some key ∧ s.remote.url = some url ∧
    Client.ofSettings s.remote = .ok c ∧
    Url.read (c.address ++ "/" ++ Memory.normalKey key) = .ok (.web u) ∧
    r.url = u.withoutLogin ∧ r.login = u.login? ∧ r.token = c.token
  method : r.method = .put
  content : files.read file = .ok r.body
  document : ∃ d, Document.parse r.body = .ok d

theorem writes_of_mem_sent {r : Request} (h : r ∈ (Command.push file).sent s files env send) :
    Writes s file files r := by
  cases hp : prepare s file files with
  | error e =>
    rw [(of_prepare_eq_error hp env send).1] at h
    cases h
  | ok p =>
    rw [sent_of_prepare hp, Option.mem_toList] at h
    obtain ⟨hkey, hdocument, hclient⟩ := of_prepare hp
    obtain ⟨url, hurl⟩ := Client.exists_url_of_ofSettings hclient
    obtain ⟨u, hu, rfl⟩ := Client.exists_url_of_request h
    obtain ⟨hread, hparse⟩ := readDocument_eq_ok_iff.mp hdocument
    refine ⟨⟨p.key, url, p.client, u, hkey, hurl, hclient, hu, ?_⟩, rfl, hread, hparse⟩
    -- The fields are taken out first, so that nobody begins to decode the user name.
    dsimp only
    exact ⟨rfl, rfl, rfl⟩

/-- A push succeeds just if the server has taken its one request. -/
theorem exists_result_eq_ok_iff :
    (∃ o, (Command.push file).result s files env send = .ok o) ↔
      ∃ r status body, (Command.push file).sent s files env send = [r] ∧
        send r = .answered status body ∧ 200 ≤ status ∧ status < 300 := by
  cases hp : prepare s file files with
  | error e =>
    obtain ⟨hsent, hresult⟩ := of_prepare_eq_error hp env send
    simp [hsent, hresult]
  | ok p =>
    rw [result_of_prepare hp, sent_of_prepare hp, exists_print_eq_ok_iff, Client.put_eq_ok_iff]
    cases p.client.request .put p.key none p.document <;> simp

end Push

/-! ### Taking bytes in -/

/-- A store as the first read of its watch leaves it: a value that differs from its bytes is taken
over. -/
def Store.watched (s : Store) (key : String) (options : WatchOptions) :
    ReadAnswer → Except ConfigError Connected
  | .error e => .error (.watchStart key e.message)
  | .ok none => .error (.watchStart key "key does not exist")
  | .ok (some q) =>
    .ok ⟨if q.value = s.current.raw then s else (s.applyRemote q.value).1,
      ⟨key, options, q.modifyIndex⟩⟩

/-- How a connection ends that has fetched the bytes of a store, and what it asks before that. -/
inductive ConnectsWith (key : String) (options : WatchOptions) (s : Store) :
    List Answered → Except ConfigError Connected → Prop
  | blank (hkey : (Text.strip key).isEmpty = true) :
    ConnectsWith key options s [] (.error (.watchStart key "key must not be empty"))
  | watched (hkey : (Text.strip key).isEmpty = false) (a : ReadAnswer) :
    ConnectsWith key options s [.read key a] (s.watched key options a)

namespace Exchange

variable {raw : Bytes} {d : Document} {storeName key : String}
  {sectionName localPath : Option String} {files : Files} {options : WatchOptions}

/-- What is left of a connection that has fetched some bytes. -/
def connectFetched (sectionName : Option String) (key : String) (options : WatchOptions)
    (raw : Bytes) : Exchange (Except ConfigError Connected) :=
  match installFetched sectionName key raw with
  | .error e => .done (.error e)
  | .ok s =>
    (startWatch key (some raw) options).bind fun
    | .error e => .done (.error e)
    | .ok w =>
      match w.news with
      | none => .done (.ok ⟨s, w.poll⟩)
      | some v => .done (.ok ⟨(s.applyRemote v).1, w.poll⟩)

theorem connect_eq : connect storeName key sectionName localPath files options =
    (fetchOrSeed storeName key localPath files).bind fun
    | .error e => .done (.error e)
    | .ok raw => connectFetched sectionName key options raw := rfl

theorem installFetched_of_parse (h : Document.parse raw = .ok d) (sectionName : Option String)
    (key : String) :
    installFetched sectionName key raw =
      (checkKey key).map fun _ => (Store.empty sectionName).install d raw := by
  unfold installFetched Store.load
  rw [h]
  cases checkKey key <;> rfl

/-- The key of a connection is read again when its bytes have been installed. -/
theorem connectFetched_of_parse (h : Document.parse raw = .ok d)
    (hkey : (Text.strip key).isEmpty = false) :
    connectFetched sectionName key options raw = .read key fun a =>
      .done (((Store.empty sectionName).install d raw).watched key options a) := by
  unfold connectFetched
  rw [installFetched_of_parse h, checkKey_eq_ok_iff.mpr hkey]
  refine congrArg (Exchange.read key) (funext fun a => ?_)
  rcases a with e | _ | q
  · rfl
  · rfl
  · -- The watch has news if the key has been written since it was fetched.
    have hraw : ((Store.empty sectionName).install d raw).current.raw = raw := rfl
    by_cases hq : q.value = raw
    · simp [bind, Store.watched, hraw, hq]
    · simp [bind, Store.watched, hraw, hq, Ne.symm hq]

/-- **A document that has been fetched is installed**, and the connection ends by what the watch is
answered. -/
theorem recorded_connectFetched_iff (h : Document.parse raw = .ok d) {rest : List Answered}
    {r : Except ConfigError Connected} :
    Recorded Step (connectFetched sectionName key options raw) rest (.done r) ↔
      ConnectsWith key options ((Store.empty sectionName).install d raw) rest r := by
  cases hkey : (Text.strip key).isEmpty with
  | true =>
    have hblank : connectFetched sectionName key options raw =
        .done (.error (.watchStart key "key must not be empty")) := by
      unfold connectFetched
      rw [installFetched_of_parse h, checkKey, if_pos hkey]
      rfl
    rw [hblank]
    constructor
    · intro hrun
      obtain ⟨rfl, rfl⟩ := ended_of_done hrun
      exact .blank hkey
    · rintro (_ | hkey')
      · exact .refl
      · cases hkey.symm.trans hkey'
  | false =>
    rw [connectFetched_of_parse h hkey]
    constructor
    · intro hrun
      obtain ⟨a, rest, rfl, hrest⟩ := ended_of_read hrun
      obtain ⟨rfl, rfl⟩ := ended_of_done hrest
      exact .watched hkey a
    · rintro (hkey' | ⟨-, a⟩)
      · cases hkey.symm.trans hkey'
      · exact .single (.read a)

/-- A connection whose first read finds some bytes has fetched them. -/
theorem recorded_connect_iff {p : Pair} {rest : List Answered}
    {r : Except ConfigError Connected} :
    Recorded Step (connect storeName key sectionName localPath files options)
        (.read key (.ok (some p)) :: rest) (.done r) ↔
      Recorded Step (connectFetched sectionName key options p.value) rest (.done r) := by
  constructor
  · intro hrun
    rw [connect_eq] at hrun
    obtain ⟨a, rest', heq, hrest⟩ := ended_of_read hrun
    cases heq
    exact hrest
  · intro hrest
    have hstep : Step (connect storeName key sectionName localPath files options)
        [.read key (.ok (some p))] (connectFetched sectionName key options p.value) :=
      connect_eq ▸ .read (.ok (some p))
    exact Recorded.head hstep hrest

end Exchange

/-- **Bytes that are taken wherever they are read**, as a document: a store loads them, a seeding
takes them as its default, a connection that fetches them installs them, and a value of a watch is
never turned away, whoever else works on the store. -/
structure AcceptedEverywhere (raw : Bytes) (d : Document) : Prop where
  loaded : ∀ (s : Store) source, s.load source raw = .ok (s.install d raw)
  seeded : ∀ key path (files : Files), files.read path = .ok raw →
    Exchange.localDefault key (some path) files = .ok raw
  connected : ∀ storeName key sectionName localPath files options (p : Pair) rest r,
    p.value = raw →
    (Recorded Exchange.Step (Exchange.connect storeName key sectionName localPath files options)
        (.read key (.ok (some p)) :: rest) (.done r) ↔
      ConnectsWith key options ((Store.empty sectionName).install d raw) rest r)
  applied : ∀ s : Store, (s.applyRemote raw).1 = s.install d raw ∧
    ∀ m, (s.applyRemote raw).2 ≠ some (.rejected m)
  delivered : ∀ (s : Store) callback ms (id : Nat) stage,
    ((Traffic.start s callback).run ms).writers[id]? = some (.remote raw stage) →
    (∀ m, stage ≠ .rejected m) ∧ ((Writer.remote raw stage).isOver = true →
      ∃ g ∈ (Traffic.start s callback).accepted ms,
        (Writer.remote raw stage).generation? = some g ∧ g.raw = raw ∧ g.document = d)

section Accept

variable {raw : Bytes} {d : Document} (h : Document.parse raw = .ok d)
include h

theorem load_of_parse (s : Store) (source : String) :
    s.load source raw = .ok (s.install d raw) := by
  rw [Store.load, h]

theorem localDefault_of_parse {path : String} {files : Files} (hread : files.read path = .ok raw)
    (key : String) : Exchange.localDefault key (some path) files = .ok raw := by
  simp [Exchange.localDefault, hread, h]

theorem applyRemote_of_parse (s : Store) :
    (s.applyRemote raw).1 = s.install d raw ∧ ∀ m, (s.applyRemote raw).2 ≠ some (.rejected m) := by
  unfold Store.applyRemote
  rw [h]
  refine ⟨rfl, fun m hm => ?_⟩
  dsimp only at hm
  split at hm <;> cases hm

theorem delivered_of_parse {s : Store} {callback : Option String} {ms : List Move} {id : Nat}
    {stage : Taking}
    (hw : ((Traffic.start s callback).run ms).writers[id]? = some (.remote raw stage)) :
    (∀ m, stage ≠ .rejected m) ∧ ((Writer.remote raw stage).isOver = true →
      ∃ g ∈ (Traffic.start s callback).accepted ms,
        (Writer.remote raw stage).generation? = some g ∧ g.raw = raw ∧ g.document = d) := by
  have hconsistent := (Traffic.consistent_start s callback).run ms
  rw [List.nil_append] at hconsistent
  -- A writer that has been turned away holds the reason that its bytes are no document.
  have hmem := List.mem_of_getElem? hw
  have hsound := hconsistent.sound _ hmem
  have hnever : ∀ m, stage ≠ .rejected m := by
    rintro m rfl
    cases h.symm.trans hsound
  refine ⟨hnever, fun hover => ?_⟩
  cases stage with
  | begun | parsed | installed | called => cases hover
  | rejected m => exact absurd rfl (hnever m)
  | finished g changes =>
    obtain ⟨hraw, hparse⟩ := hsound
    have haccepted : g ∈ (Traffic.start s callback).accepted ms :=
      hconsistent.writers.mem_iff.mp (List.mem_filterMap.mpr ⟨_, hmem, rfl⟩)
    exact ⟨g, haccepted, rfl, hraw, Except.ok.inj (hparse.symm.trans h)⟩

theorem acceptedEverywhere_of_parse : AcceptedEverywhere raw d where
  loaded := load_of_parse h
  seeded key _ _ hread := localDefault_of_parse h hread key
  connected _ _ _ _ _ _ p _ _ hp := by
    rw [Exchange.recorded_connect_iff, hp]
    exact Exchange.recorded_connectFetched_iff h
  applied := applyRemote_of_parse h
  delivered _ _ _ _ _ := delivered_of_parse h

end Accept

/-- **A push is safe and faithful.**  It sends at most one request, and that one writes the bytes of
a document to the remote key of the settings; it succeeds just if the server answers that it has
done so, and nothing else that a server says has a say.  The bytes that it takes for a document are
taken wherever they are read. -/
theorem pushes_are_safe_and_faithful (s : Settings) (file : String) (files : Files)
    (env : Environment) (send : Request → Reply) :
    let c := Command.push file
    let sent := c.sent s files env send
    (sent.length ≤ 1 ∧ ∀ r ∈ sent, Push.Writes s file files r) ∧
    ((∃ o, c.result s files env send = .ok o) ↔ ∃ r status body, sent = [r] ∧
      send r = .answered status body ∧ 200 ≤ status ∧ status < 300) ∧
    (∀ send', (∀ r ∈ sent, send' r = send r) →
      c.result s files env send' = c.result s files env send) ∧
    ∀ raw, Push.readDocument file files = .ok raw →
      ∃ d, Document.parse raw = .ok d ∧ AcceptedEverywhere raw d := by
  intro c sent
  refine ⟨⟨?_, fun r => Push.writes_of_mem_sent⟩, Push.exists_result_eq_ok_iff, ?_, ?_⟩
  · cases hp : Push.prepare s file files with
    | error e => simp [sent, c, (Push.of_prepare_eq_error hp env send).1]
    | ok p =>
      rw [show sent = _ from Push.sent_of_prepare hp]
      cases p.client.request .put p.key none p.document <;> simp
  · exact fun send' => c.result_congr s files env send
  · intro raw hraw
    obtain ⟨-, d, hd⟩ := Push.readDocument_eq_ok_iff.mp hraw
    exact ⟨d, hd, acceptedEverywhere_of_parse hd⟩

/-- A key of a server on the same machine. -/
def localRemote : RemoteSettings := ⟨some "http://[::1]:8500/v1/kv/", some "/app", none, 1800⟩

/-- The client of `localRemote`. -/
def localClient : Client := ⟨"http://[::1]:8500/v1/kv", none, localRemote.timeout⟩

/-- The address of the key of `localRemote`. -/
def localKeyUrl : WebUrl :=
  ⟨false, "", .ipv6 [0, 0, 0, 0, 0, 0, 0, 1], some 8500, ["v1", "kv", "app"], none, none⟩

/-- The empty document, and a server that takes it. -/
theorem pushes_are_safe_and_faithful_on_loopback :
    let raw : Bytes := [0x7B, 0x7D]
    let files := Files.ofList [("app.json", .ok raw)]
    let s : Settings := { Settings.usual with remote := localRemote }
    let put : Request := ⟨.put, localKeyUrl, none, none, raw⟩
    let send : Request → Reply := fun _ => .answered 204 []
    (Command.push "app.json").sent s files ⟨[]⟩ send = [put] ∧
      Push.Writes s "app.json" files put ∧
      (∃ o, (Command.push "app.json").result s files ⟨[]⟩ send = .ok o) ∧
      Push.readDocument "app.json" files = .ok raw ∧
      ∃ d, Document.parse raw = .ok d ∧ AcceptedEverywhere raw d := by
  intro raw files s put send
  have hread : Push.readDocument "app.json" files = .ok raw := by rfl
  have hclient : Client.ofSettings localRemote = .ok localClient := by rfl
  have hprepare : Push.prepare s "app.json" files =
      .ok ⟨"app.json", localClient, "/app", raw⟩ := by
    unfold Push.prepare
    rw [hread, show s.remote = localRemote from rfl, hclient]
    rfl
  have hrequest : localClient.request .put "/app" none [0x7B, 0x7D] =
      some ⟨.put, localKeyUrl, none, none, [0x7B, 0x7D]⟩ := by rfl
  have hsent : (Command.push "app.json").sent s files ⟨[]⟩ send = [put] := by
    rw [Push.sent_of_prepare hprepare, hrequest]
    rfl
  obtain ⟨⟨-, hwrites⟩, hok, -, haccepted⟩ :=
    pushes_are_safe_and_faithful s "app.json" files ⟨[]⟩ send
  exact ⟨hsent, hwrites _ (hsent ▸ List.mem_singleton_self _),
    hok.mpr ⟨_, 204, [], hsent, rfl, by decide, by decide⟩, hread, haccepted raw hread⟩

end LiveConfig
