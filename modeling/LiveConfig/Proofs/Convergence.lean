import LiveConfig.Proofs.MemoryWatch

/-!
Where a store comes to that is connected to a remote key.

Main statement: `connect_converges`, whatever others do to the remote store, the document is that of
the newest value that has come and is one, and it is the value of the key once the watch has seen
the index of the entry.
-/

namespace LiveConfig

/-- A store is connected with the bytes that were fetched or seeded, and with a value that has come
in the meantime if there is one. -/
def ConnectedWith (R : RemoteStore) (w w' : R.World) (storeName key : String)
    (localPath : Option String) (files : Files) (options : WatchOptions) (poll : Poll)
    (fetched : Bytes) (news : Option Bytes) : Prop :=
  ∃ u u', Converse R w (Exchange.fetchOrSeed storeName key localPath files) (.ok fetched) u ∧
    Converse R u (Exchange.startWatch key (some fetched) options) (.ok ⟨poll, news⟩) u' ∧
    R.Drifts u' w'

/-- **What has come of some values**: the newest document among them is in use, and if the last
index is that of the entry that there is, it is the value of the entry, if that is a document. -/
structure Converged (values : List Bytes) (entry : Option Pair) (lastIndex : Nat) (g : Generation) :
    Prop where
  newest : newest? values = some g.raw
  document : Document.parse g.raw = .ok g.document
  current : ∀ p, entry = some p → p.modifyIndex = lastIndex → isDocument p.value → g.raw = p.value

theorem Mirror.Follows.converged {R : RemoteStore} {w₀ : R.World} {key : String}
    {values : List Bytes} {f : Mirror R} (h : Follows w₀ key values f) (hc : R.Coherent w₀ key) :
    Converged values (R.entry f.world key) f.poll.lastIndex f.store.current :=
  ⟨h.newest.1, h.newest.2, fun _ hp hindex hdoc => h.raw_eq hc hp hindex hdoc⟩

/-- **A connected store converges.**  The store in memory is coherent in every key.  A store that is
connected to a coherent remote store converges, whatever others do to that while the store is
connected and from then on.  So does one that follows a key of the store in memory by a loop. -/
theorem connect_converges :
    (∀ m key, Memory.remote.Reaches .empty m → Memory.remote.Coherent m key) ∧
    (∀ (R : RemoteStore) (w w' : R.World) (storeName key : String)
      (sectionName localPath : Option String) (files : Files) (options : WatchOptions)
      (c : Connected), R.Coherent w key →
      Converse R w (Exchange.connect storeName key sectionName localPath files options) (.ok c) w' →
      ∃ fetched news,
        ConnectedWith R w w' storeName key localPath files options c.poll fetched news ∧
        ∀ delivered f, Runs Mirror.Step ⟨w', c.store, c.poll, none⟩ delivered f →
          Converged (fetched :: news.toList ++ delivered) (R.entry f.world key) f.poll.lastIndex
            f.store.current) ∧
    ∀ (m m' : Memory) (storeName key : String) (sectionName localPath : Option String)
      (files : Files) (options : WatchOptions) (c : Connected), Memory.remote.Reaches .empty m →
      Converse Memory.remote m
        (Exchange.connect storeName key sectionName localPath files options) (.ok c) m' →
      ∃ fetched news,
        ConnectedWith Memory.remote m m' storeName key localPath files options c.poll fetched news ∧
        ∀ delivered x, Runs Watched.Step ⟨m', c.store, .start c.poll⟩ delivered x →
          Converged (fetched :: news.toList ++ delivered) (x.memory.current key)
            x.loop.poll.lastIndex x.store.current := by
  refine ⟨fun m key hm => Memory.coherent hm key, ?_, ?_⟩
  · intro R w w' storeName key sectionName localPath files options c hcoherent h
    obtain ⟨fetched, news, u, u', hfetch, hwatch, hu', hfollows⟩ := h.follows
    refine ⟨fetched, news, ⟨u, u', hfetch, hwatch, hu'⟩, fun delivered f hruns => ?_⟩
    exact (hfollows.runs hruns).converged hcoherent
  · intro m m' storeName key sectionName localPath files options c hm h
    obtain ⟨fetched, news, u, u', hfetch, hwatch, hu', hfollows⟩ := h.follows
    refine ⟨fetched, news, ⟨u, u', hfetch, hwatch, hu'⟩, fun delivered x hruns => ?_⟩
    obtain ⟨f, hf, hmatches⟩ := (Watched.matches_start m' c.store c.poll).exists_runs hruns
    have hconverged := (hfollows.runs hf).converged (Memory.coherent hm key)
    rwa [hmatches.world, hmatches.poll, hmatches.store] at hconverged

/-- Another client writes after the first read, and its value is the one in use when the store is
connected.  Then it writes once more, and the next poll delivers that value. -/
theorem connect_converges_after_race :
    let raced : Bytes := [0x7B, 0x22, 0x61, 0x22, 0x3A, 0x31, 0x7D]
    let polled : Bytes := [0x7B, 0x22, 0x61, 0x22, 0x3A, 0x32, 0x7D]
    let m := Memory.empty.act (.put "k" [0x7B, 0x7D])
    let s : Session := { Session.start (.ofList []) ⟨[]⟩ with memory := m }
    let conversation := Exchange.connect "race" "k" none none (.ofList []) .usual
    let r := s.converse conversation (some (.put raced))
    Memory.remote.Reaches .empty m ∧ Memory.remote.Coherent m "k" ∧
      ∃ c, Converse Memory.remote m conversation (.ok c) r.2.memory ∧
        c.store.current.raw = raced ∧
        ∃ x, Runs Watched.Step ⟨r.2.memory, c.store, .start c.poll⟩ [polled] x ∧
          x.store.current.raw = polled := by
  intro raced polled m s conversation r
  have hm : Memory.remote.Reaches .empty m := .of_moves ⟨.put "k" [0x7B, 0x7D], rfl⟩
  obtain ⟨hcoherences, hremote, hloop⟩ := connect_converges
  have hcoherent : Memory.remote.Coherent m "k" := hcoherences m "k" hm
  have hconverse : Converse Memory.remote m conversation r.1 r.2.memory :=
    s.converse_memory _ conversation
  have hpolls : r.1.toOption.map (·.poll) = some ⟨"k", .usual, 2⟩ := by decide +kernel
  obtain ⟨c, hc, hpoll⟩ := Option.map_eq_some_iff.mp hpolls
  have hok : r.1 = .ok c := by
    cases h : r.1 with
    | error e =>
      rw [h] at hc
      cases hc
    | ok c' =>
      rw [h] at hc
      cases hc
      rfl
  rw [hok] at hconverse
  refine ⟨hm, hcoherent, c, hconverse, ?_, ?_⟩
  · have hentry : (r.2.memory.current "k").map (fun p => (p.modifyIndex, p.value)) =
        some (2, raced) := by decide +kernel
    obtain ⟨p, hp, hvalue⟩ := Option.map_eq_some_iff.mp hentry
    obtain ⟨hindex, hraced⟩ := Prod.mk.inj hvalue
    have hdoc : isDocument p.value := by
      rw [hraced]
      decide +kernel
    obtain ⟨fetched, news, -, hruns⟩ :=
      hremote Memory.remote m r.2.memory "race" "k" none none (.ofList []) .usual c hcoherent
        hconverse
    exact ((hruns [] _ .refl).current p hp (by rw [hindex, hpoll]) hdoc).trans hraced
  · let m' := r.2.memory.act (.put "k" polled)
    have hentry : (m'.current "k").map (fun p => (p.modifyIndex, p.value)) = some (3, polled) := by
      decide +kernel
    have hdelivers : ((WatchLoop.start ⟨"k", .usual, 2⟩).step m' 0).map
        (fun y => (y.1.poll.lastIndex, y.2)) = some (3, some polled) := by decide +kernel
    obtain ⟨p, hp, hvalue⟩ := Option.map_eq_some_iff.mp hentry
    obtain ⟨⟨l, v⟩, hstep, hlast⟩ := Option.map_eq_some_iff.mp hdelivers
    obtain ⟨hindex, hpolled⟩ := Prod.mk.inj hvalue
    obtain ⟨hseen, rfl⟩ := Prod.mk.inj hlast
    rw [← hpoll] at hstep
    have hdoc : isDocument p.value := by
      rw [hpolled]
      decide +kernel
    have hwrite : Watched.Step ⟨r.2.memory, c.store, .start c.poll⟩ none
        ⟨m', c.store, .start c.poll⟩ := .act (.put "k" polled) (.inl rfl)
    let x : Watched := ⟨m', Watched.takeOver c.store (some polled), l⟩
    have hgo : Watched.Step ⟨m', c.store, .start c.poll⟩ (some polled) x := .go hstep
    have hrun : Runs Watched.Step ⟨r.2.memory, c.store, .start c.poll⟩ [polled] x :=
      (Runs.single hwrite).tail hgo
    obtain ⟨fetched, news, -, hruns⟩ :=
      hloop m r.2.memory "race" "k" none none (.ofList []) .usual c hm hconverse
    exact ⟨x, hrun,
      ((hruns [polled] x hrun).current p hp (hindex.trans hseen.symm) hdoc).trans hpolled⟩

end LiveConfig
