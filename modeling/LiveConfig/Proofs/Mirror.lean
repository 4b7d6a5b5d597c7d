import LiveConfig.Proofs.RemoteStores
import LiveConfig.Store.Connect

/-!
A store that follows a remote key, while others work on the remote store.

`Mirror` is such a store with the poll that is under way: its answer may be made long before it is
received, and the remote store may change in between.  `Follows` says what holds at any time, in
terms of the values that have come so far.  Main statements: `Follows.runs`, every run keeps it, and
`Converse.follows`, it holds when a store has been connected.
-/

namespace LiveConfig

/-! ### The newest document -/

/-- Whether bytes are a document. -/
def isDocument (raw : Bytes) : Bool := (Document.parse raw).isOk

/-- The newest value that is a document, if there is one; the oldest value comes first. -/
def newest? (values : List Bytes) : Option Bytes := (values.filter isDocument).getLast?

/-- A generation is that of the newest document. -/
def Generation.IsNewest (g : Generation) (values : List Bytes) : Prop :=
  newest? values = some g.raw ∧ Document.parse g.raw = .ok g.document

theorem isDocument_iff {raw : Bytes} : isDocument raw ↔ ∃ d, Document.parse raw = .ok d := by
  unfold isDocument
  cases Document.parse raw <;> simp [Except.isOk, Except.toBool]

theorem newest?_append_of_isDocument (values : List Bytes) {v : Bytes} (h : isDocument v) :
    newest? (values ++ [v]) = some v := by
  simp [newest?, h]

theorem newest?_append_of_not (values : List Bytes) {v : Bytes} (h : ¬ isDocument v) :
    newest? (values ++ [v]) = newest? values := by
  simp [newest?, h]

/-- Taking a value over makes it the document, if it is one. -/
theorem Store.raw_applyRemote (s : Store) {v : Bytes} (h : isDocument v) :
    (s.applyRemote v).1.current.raw = v := by
  obtain ⟨d, hd⟩ := isDocument_iff.mp h
  unfold Store.applyRemote
  rw [hd]
  rfl

theorem Generation.IsNewest.applyRemote {s : Store} {values : List Bytes}
    (h : s.current.IsNewest values) (v : Bytes) :
    (s.applyRemote v).1.current.IsNewest (values ++ [v]) := by
  cases hv : Document.parse v with
  | ok d =>
    have hdoc : isDocument v := isDocument_iff.mpr ⟨d, hv⟩
    constructor
    · rw [s.raw_applyRemote hdoc, newest?_append_of_isDocument values hdoc]
    · rw [s.raw_applyRemote hdoc, hv]
      unfold Store.applyRemote
      rw [hv]
      rfl
  | error m =>
    have hdoc : ¬ isDocument v := by simp [isDocument_iff, hv]
    have hsame : (s.applyRemote v).1 = s := by
      unfold Store.applyRemote
      rw [hv]
    rw [hsame]
    exact ⟨(newest?_append_of_not values hdoc).trans h.1, h.2⟩

/-! ### Runs -/

section Runs

variable {σ τ : Type} {step : σ → Option Bytes → σ → Prop} {step' : τ → Option Bytes → τ → Prop}

/-- Steps one after another, with the values that they deliver. -/
inductive Runs (step : σ → Option Bytes → σ → Prop) (x : σ) : List Bytes → σ → Prop
  | refl : Runs step x [] x
  | tail {y z values v} (hruns : Runs step x values y) (hstep : step y v z) :
      Runs step x (values ++ v.toList) z

theorem Runs.single {x y : σ} {v : Option Bytes} (h : step x v y) : Runs step x v.toList y :=
  .tail .refl h

theorem Runs.trans {x y z : σ} {values values' : List Bytes} (hxy : Runs step x values y)
    (hyz : Runs step y values' z) : Runs step x (values ++ values') z := by
  induction hyz with
  | refl => rwa [List.append_nil]
  | tail _ hstep ih =>
    rw [← List.append_assoc]
    exact ih.tail hstep

/-- **Runs are matched as soon as steps are.** -/
theorem Runs.matched {R : σ → τ → Prop}
    (hstep : ∀ {x y f v}, R x f → step x v y → ∃ g, Runs step' f v.toList g ∧ R y g)
    {x y : σ} {f : τ} {values : List Bytes} (h : R x f) (hruns : Runs step x values y) :
    ∃ g, Runs step' f values g ∧ R y g := by
  induction hruns with
  | refl => exact ⟨f, .refl, h⟩
  | tail _ hs ih =>
    obtain ⟨g, hg, hmatches⟩ := ih
    obtain ⟨g', hg', hmatches'⟩ := hstep hmatches hs
    exact ⟨g', hg.trans hg', hmatches'⟩

end Runs

/-! ### Steps -/

/-- A store that follows a key, the remote store, and the answer that is on its way to the poll. -/
structure Mirror (R : RemoteStore) where
  world : R.World
  store : Store
  poll : Poll
  pending : Option ReadAnswer

namespace Mirror

variable {R : RemoteStore}

/-- One step, with the value that it delivers. -/
inductive Step : Mirror R → Option Bytes → Mirror R → Prop
  /-- Somebody else does something. -/
  | move {w w' s p a} (h : R.Moves w w') : Step ⟨w, s, p, a⟩ none ⟨w', s, p, a⟩
  /-- The remote store makes an answer, in place of an earlier one. -/
  | ask {w s p a b} (h : R.Reads w p.key (some p.query) a) :
      Step ⟨w, s, p, b⟩ none ⟨w, s, p, some a⟩
  /-- The answer is received, and it delivers nothing. -/
  | receive {w s p p' a r} (h : p.receive a = (r, p')) (hr : ∀ v, r ≠ .deliver v) :
      Step ⟨w, s, p, some a⟩ none ⟨w, s, p', none⟩
  /-- The answer is received, and its value is taken over. -/
  | deliver {w s p p' a v} (h : p.receive a = (.deliver v, p')) :
      Step ⟨w, s, p, some a⟩ (some v) ⟨w, (s.applyRemote v).1, p', none⟩

/-- **What holds at any time**, after some values have come. -/
structure Follows (w₀ : R.World) (key : String) (values : List Bytes) (f : Mirror R) : Prop where
  watched : f.poll.key = key
  newest : f.store.current.IsNewest values
  reaches : R.Reaches w₀ f.world
  /-- The last index belongs to an entry whose value has come to the store. -/
  last : ∃ w p, R.Reaches w₀ w ∧ R.Reaches w f.world ∧ R.entry w key = some p ∧
    p.modifyIndex = f.poll.lastIndex ∧ (isDocument p.value → f.store.current.raw = p.value)
  /-- An answer on its way tells of an entry that there has been. -/
  pending : ∀ p, f.pending = some (.ok (some p)) →
    ∃ w, R.Reaches w₀ w ∧ R.Reaches w f.world ∧ R.entry w key = some p

theorem receive_entry (p : Poll) (e : Pair) : p.receive (.ok (some e)) =
    if e.modifyIndex = p.lastIndex then (.again, p)
    else (.deliver e.value, { p with lastIndex := e.modifyIndex }) := rfl

theorem receive_of_deliver {p p' : Poll} {a : ReadAnswer} {v : Bytes}
    (h : p.receive a = (.deliver v, p')) :
    ∃ e, a = .ok (some e) ∧ v = e.value ∧ p' = { p with lastIndex := e.modifyIndex } := by
  rcases a with e | _ | e
  · cases h
  · cases h
  · rw [receive_entry] at h
    split at h <;> cases h
    exact ⟨e, rfl, rfl, rfl⟩

theorem receive_of_not_deliver {p p' : Poll} {a : ReadAnswer} {r : Reaction}
    (h : p.receive a = (r, p')) (hr : ∀ v, r ≠ .deliver v) : p' = p := by
  rcases a with e | _ | e
  · cases h
    rfl
  · cases h
    rfl
  · rw [receive_entry] at h
    split at h <;> cases h
    · rfl
    · exact absurd rfl (hr e.value)

theorem Follows.step {w₀ : R.World} {key : String} {values : List Bytes} {f g : Mirror R}
    {v : Option Bytes} (h : Follows w₀ key values f) (hstep : Step f v g) :
    Follows w₀ key (values ++ v.toList) g := by
  cases hstep with
  | move hm =>
    have hw := RemoteStore.Reaches.of_moves hm
    obtain ⟨u, p, hu, hu', hrest⟩ := h.last
    rw [Option.toList_none, List.append_nil]
    refine ⟨h.watched, h.newest, h.reaches.trans hw, ⟨u, p, hu, hu'.trans hw, hrest⟩, ?_⟩
    intro q hq
    obtain ⟨u, hu, hu', he⟩ := h.pending q hq
    exact ⟨u, hu, hu'.trans hw, he⟩
  | ask ha =>
    rw [Option.toList_none, List.append_nil]
    refine ⟨h.watched, h.newest, h.reaches, h.last, ?_⟩
    intro q hq
    cases hq
    have he := R.entry_of_reads ha
    exact ⟨_, h.reaches, .refl _, h.watched ▸ he.symm⟩
  | receive hrec hr =>
    obtain rfl := receive_of_not_deliver hrec hr
    rw [Option.toList_none, List.append_nil]
    exact ⟨h.watched, h.newest, h.reaches, h.last, by simp⟩
  | deliver hrec =>
    obtain ⟨e, rfl, rfl, rfl⟩ := receive_of_deliver hrec
    obtain ⟨u, hu, hu', he⟩ := h.pending e rfl
    exact ⟨h.watched, h.newest.applyRemote _, h.reaches,
      ⟨u, e, hu, hu', he, rfl, fun hdoc => Store.raw_applyRemote _ hdoc⟩, by simp⟩

/-- **What every run keeps.** -/
theorem Follows.runs {w₀ : R.World} {key : String} {values delivered : List Bytes}
    {f g : Mirror R} (h : Follows w₀ key values f) (hruns : Runs Step f delivered g) :
    Follows w₀ key (values ++ delivered) g := by
  induction hruns with
  | refl => rwa [List.append_nil]
  | tail _ hstep ih =>
    rw [← List.append_assoc]
    exact ih.step hstep

/-- **The value of the key**: if the poll has seen the index of the entry that there is, the store
has its value, unless that is no document. -/
theorem Follows.raw_eq {w₀ : R.World} {key : String} {values : List Bytes} {f : Mirror R}
    (h : Follows w₀ key values f) (hc : R.Coherent w₀ key) {q : Pair}
    (hq : R.entry f.world key = some q) (hindex : q.modifyIndex = f.poll.lastIndex)
    (hdoc : isDocument q.value) : f.store.current.raw = q.value := by
  obtain ⟨u, p, hu, hu', hp, hlast, hraw⟩ := h.last
  have hvalue : p.value = q.value := hc u f.world p q hu hu' hp hq (hlast.trans hindex.symm)
  rw [← hvalue] at hdoc ⊢
  exact hraw hdoc

end Mirror

/-! ### Connecting -/

section Connect

variable {R : RemoteStore} {w w' : R.World} {key : String} {options : WatchOptions}

/-- The index of a watch is that of the entry that it reads first, whose value is news if it is not
the one that is known. -/
theorem Converse.of_startWatch {known : Option Bytes} {ws : WatchStart}
    (h : Converse R w (Exchange.startWatch key known options) (.ok ws) w') :
    ∃ u p, R.Reaches w u ∧ R.Reaches u w' ∧ R.entry u key = some p ∧
      ws.poll = ⟨key, options, p.modifyIndex⟩ ∧
      ws.news = if known.isSome && known ≠ some p.value then some p.value else none := by
  obtain ⟨u, a, hu, ha, hrest⟩ := h.of_read
  rcases a with e | _ | p
  · obtain ⟨hr, -⟩ := hrest.of_done
    cases hr
  · obtain ⟨hr, -⟩ := hrest.of_done
    cases hr
  · obtain ⟨hr, hu'⟩ := hrest.of_done
    cases hr
    exact ⟨u, p, hu.reaches, hu'.reaches, (R.entry_of_reads ha).symm, rfl, rfl⟩

/-- **The parts of a conversation that connects a store**: the value is fetched or seeded and
installed, and then the watch is started. -/
theorem Converse.of_connect {storeName : String} {sectionName localPath : Option String}
    {files : Files} {c : Connected}
    (h : Converse R w (Exchange.connect storeName key sectionName localPath files options) (.ok c)
      w') :
    ∃ fetched s news u u',
      Converse R w (Exchange.fetchOrSeed storeName key localPath files) (.ok fetched) u ∧
      Exchange.installFetched sectionName key fetched = .ok s ∧
      Converse R u (Exchange.startWatch key (some fetched) options) (.ok ⟨c.poll, news⟩) u' ∧
      R.Drifts u' w' ∧ c.store = news.elim s fun v => (s.applyRemote v).1 := by
  unfold Exchange.connect at h
  obtain ⟨r, u, hfetch, h⟩ := Converse.of_bind h
  rcases r with e | fetched
  · obtain ⟨hr, -⟩ := h.of_done
    cases hr
  · dsimp only at h
    split at h
    · obtain ⟨hr, -⟩ := h.of_done
      cases hr
    · rename_i s hs
      obtain ⟨r, u', hwatch, h⟩ := Converse.of_bind h
      rcases r with e | ws
      · obtain ⟨hr, -⟩ := h.of_done
        cases hr
      · obtain ⟨poll, _ | v⟩ := ws
        · obtain ⟨hr, hu'⟩ := h.of_done
          cases hr
          exact ⟨fetched, s, none, u, u', hfetch, hs, hwatch, hu', rfl⟩
        · obtain ⟨hr, hu'⟩ := h.of_done
          cases hr
          exact ⟨fetched, s, some v, u, u', hfetch, hs, hwatch, hu', rfl⟩

theorem current_of_installFetched {sectionName : Option String} {raw : Bytes} {s : Store}
    (h : Exchange.installFetched sectionName key raw = .ok s) :
    s.current.raw = raw ∧ Document.parse raw = .ok s.current.document := by
  unfold Exchange.installFetched Store.load at h
  cases hp : Document.parse raw with
  | error m =>
    rw [hp] at h
    cases h
  | ok d =>
    rw [hp] at h
    dsimp only at h
    split at h <;> cases h
    exact ⟨rfl, rfl⟩

/-- A store that has just been connected follows its key. -/
theorem Converse.follows {storeName : String} {sectionName localPath : Option String}
    {files : Files} {c : Connected}
    (h : Converse R w (Exchange.connect storeName key sectionName localPath files options) (.ok c)
      w') :
    ∃ fetched news u u',
      Converse R w (Exchange.fetchOrSeed storeName key localPath files) (.ok fetched) u ∧
      Converse R u (Exchange.startWatch key (some fetched) options) (.ok ⟨c.poll, news⟩) u' ∧
      R.Drifts u' w' ∧
      Mirror.Follows w key (fetched :: news.toList) ⟨w', c.store, c.poll, none⟩ := by
  obtain ⟨fetched, s, news, u, u', hfetch, hs, hwatch, hu', hstore⟩ := h.of_connect
  refine ⟨fetched, news, u, u', hfetch, hwatch, hu', ?_⟩
  obtain ⟨hraw, hparse⟩ := current_of_installFetched hs
  obtain ⟨x, p, hx, hx', hp, hpoll, hnews⟩ := hwatch.of_startWatch
  have hstart : s.current.IsNewest [fetched] := by
    refine ⟨?_, hraw.symm ▸ hparse⟩
    rw [hraw]
    exact newest?_append_of_isDocument [] (isDocument_iff.mpr ⟨_, hparse⟩)
  have hlast : isDocument p.value → c.store.current.raw = p.value := by
    intro hdoc
    by_cases hsame : fetched = p.value
    · have hnone : news = none := by simpa [hsame] using hnews
      rw [hstore, hnone, ← hsame]
      exact hraw
    · have hsome : news = some p.value := by simpa [hsame] using hnews
      rw [hstore, hsome]
      exact s.raw_applyRemote hdoc
  have hwx : R.Reaches w x := hfetch.reaches.trans hx
  have hxw : R.Reaches x w' := hx'.trans hu'.reaches
  refine ⟨congrArg Poll.key hpoll, ?_, h.reaches,
    ⟨x, p, hwx, hxw, hp, (congrArg Poll.lastIndex hpoll).symm, hlast⟩, by simp⟩
  show c.store.current.IsNewest _
  rw [hstore]
  cases news with
  | none => exact hstart
  | some v => exact hstart.applyRemote v

end Connect

end LiveConfig
