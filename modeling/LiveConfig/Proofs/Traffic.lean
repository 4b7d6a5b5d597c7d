import LiveConfig.Session.Tasks
import LiveConfig.Store.Opening

/-!
Writers that work on one store side by side.

A writer takes one step after another, and between two of them others may take theirs.  What it
reads and parses is its own affair.  To install a document, and to compare it with the one that it
replaces, is a single step, for the time of which the writer holds a lock; the callback and then the
subscribers are told in steps of their own.

`Traffic.step` makes one step of one writer, and a run is a fold over moves.  `acts_of_act` says
once what a step can be.  Main statements: `run_load_alone` and `run_remote_alone`, a writer whom
nobody interrupts does what the store does at once.
-/

namespace LiveConfig

/-! ### Local sources -/

/-- Where a local load takes its bytes from. -/
inductive LoadSource where
  | bytes (raw : Bytes)
  | file (path : String) (files : Files)

namespace LoadSource

/-- What stands for the source in errors. -/
def title : LoadSource → String
  | bytes _ => "bytes"
  | file path _ => path

/-- The bytes of a source. -/
def read : LoadSource → Except ConfigError Bytes
  | bytes raw => .ok raw
  | file path files =>
    match files.read path with
    | .ok raw => .ok raw
    | .error f => .error (.load path f.message)

/-- The document of a source, with the bytes that it was read from. -/
def parse (src : LoadSource) : Except ConfigError (Document × Bytes) :=
  match src.read with
  | .error e => .error e
  | .ok raw =>
    match Document.parse raw with
    | .ok d => .ok (d, raw)
    | .error m => .error (.load src.title m)

/-- Load a source at once. -/
def load (s : Store) : LoadSource → Except ConfigError Store
  | bytes raw => s.loadBytes raw
  | file path files => s.loadFile path files

theorem load_eq_parse (s : Store) (src : LoadSource) :
    src.load s = src.parse.map fun p => s.install p.1 p.2 := by
  cases src with
  | bytes raw =>
    unfold load parse Store.loadBytes Store.load read
    cases h : Document.parse raw <;> simp [h, Except.map, title]
  | file path files =>
    unfold load parse Store.loadFile Store.load read
    cases hf : files.read path with
    | error f => simp [hf, Except.map]
    | ok raw => cases h : Document.parse raw <;> simp [hf, h, Except.map, title]

theorem parse_eq_ok {src : LoadSource} {d : Document} {raw : Bytes}
    (h : src.parse = .ok (d, raw)) : src.read = .ok raw ∧ Document.parse raw = .ok d := by
  unfold parse at h
  split at h
  · cases h
  · rename_i b hread
    split at h
    · rename_i e hparse
      cases h
      exact ⟨hread, hparse⟩
    · cases h

end LoadSource

/-! ### Writers -/

/-- How far a local load has come. -/
inductive Loading where
  | begun
  | parsed (document : Document) (raw : Bytes)
  | accepted (generation : Generation)
  | refused (error : ConfigError)

/-- How far the taking over of a remote value has come. -/
inductive Taking where
  | begun
  | parsed (document : Document)
  /-- The callback is to be told. -/
  | installed (generation : Generation) (changes : List Change)
  /-- The subscribers are to be told. -/
  | called (generation : Generation) (changes : List Change)
  | finished (generation : Generation) (changes : List Change)
  | rejected (reason : String)

/-- Somebody who wants to replace the document. -/
inductive Writer where
  | load (source : LoadSource) (stage : Loading)
  | remote (raw : Bytes) (stage : Taking)

namespace Writer

/-- Whether a writer brings a remote value. -/
def isRemote : Writer → Bool
  | load _ _ => false
  | remote _ _ => true

/-- Whether a writer has nothing more to do. -/
def isOver : Writer → Bool
  | load _ (.accepted _) | load _ (.refused _) => true
  | remote _ (.finished _ _) | remote _ (.rejected _) => true
  | _ => false

/-- Whether a writer has been turned away. -/
def hasFailed : Writer → Bool
  | load _ (.refused _) | remote _ (.rejected _) => true
  | _ => false

/-- The generation that a writer has installed. -/
def generation? : Writer → Option Generation
  | load _ (.accepted g) => some g
  | remote _ (.installed g _) | remote _ (.called g _) | remote _ (.finished g _) => some g
  | _ => none

end Writer

/-! ### Steps -/

/-- A store and those who work on it. -/
structure Traffic where
  live : LiveStore
  /-- What callbacks have been handed. -/
  calls : List Call
  /-- All who have begun so far. -/
  writers : List Writer

/-- What can happen next. -/
inductive Move where
  | load (source : LoadSource)
  | remote (raw : Bytes)
  /-- A writer goes on. -/
  | proceed (id : Nat)
  /-- A callback takes the place of the one before. -/
  | register (callback : String)

namespace Traffic

/-- A store on which nobody works yet. -/
def start (s : Store) (callback : Option String) : Traffic := ⟨⟨s, callback, .open_, none⟩, [], []⟩

/-- The generation in use. -/
def current (t : Traffic) : Generation := t.live.store.current

/-- The events sent so far. -/
def events (t : Traffic) : List Event := t.live.channel.sent.toList

/-- Replace the document. -/
def install (t : Traffic) (d : Document) (raw : Bytes) : Traffic :=
  { t with live := { t.live with store := t.live.store.install d raw } }

/-- Tell the callback. -/
def call (t : Traffic) (changes : List Change) : Traffic :=
  match t.live.callback with
  | some callback => { t with calls := t.calls ++ [⟨callback, changes⟩] }
  | none => t

/-- Tell the subscribers. -/
def send (t : Traffic) (e : Event) : Traffic :=
  { t with live := { t.live with channel := t.live.channel.send e } }

/-- The next step of a writer, and how far it has come then; `none` if there is nothing to do. -/
def act (t : Traffic) : Writer → Option (Traffic × Writer)
  | .load src .begun =>
    match src.parse with
    | .ok (d, raw) => some (t, .load src (.parsed d raw))
    | .error e => some (t, .load src (.refused e))
  | .load src (.parsed d raw) =>
    some (t.install d raw, .load src (.accepted (t.install d raw).current))
  | .remote raw .begun =>
    match Document.parse raw with
    | .ok d => some (t, .remote raw (.parsed d))
    | .error m => some (t.send (.rejected m), .remote raw (.rejected m))
  | .remote raw (.parsed d) =>
    let changes := t.live.store.changesTo d
    let next := t.install d raw
    some (next, .remote raw
      (if changes.isEmpty then .finished next.current [] else .installed next.current changes))
  | .remote raw (.installed g changes) => some (t.call changes, .remote raw (.called g changes))
  | .remote raw (.called g changes) =>
    some (t.send (.changed g.number changes), .remote raw (.finished g changes))
  | _ => none

/-- Make a move. -/
def step (t : Traffic) : Move → Traffic
  | .load src => { t with writers := t.writers ++ [.load src .begun] }
  | .remote raw => { t with writers := t.writers ++ [.remote raw .begun] }
  | .proceed id =>
    match t.writers[id]? with
    | none => t
    | some w =>
      match t.act w with
      | none => t
      | some (next, v) => { next with writers := t.writers.set id v }
  | .register callback => { t with live := { t.live with callback := some callback } }

/-- Make moves one after another. -/
def run (t : Traffic) (ms : List Move) : Traffic := ms.foldl step t

section Run

variable (t : Traffic) (m : Move) (ms ms' : List Move)

@[simp] theorem run_nil : t.run [] = t := rfl

@[simp] theorem run_cons : t.run (m :: ms) = (t.step m).run ms := rfl

@[simp] theorem run_append : t.run (ms ++ ms') = (t.run ms).run ms' := List.foldl_append

end Run

/-! ### What a step can be -/

/-- The steps of a writer: what it has come to, what it does, and what it comes to. -/
inductive Acts (t : Traffic) : Writer → Traffic → Writer → Prop
  | read {src d raw} (h : src.parse = .ok (d, raw)) :
      Acts t (.load src .begun) t (.load src (.parsed d raw))
  | refuse {src e} (h : src.parse = .error e) :
      Acts t (.load src .begun) t (.load src (.refused e))
  | accept {src d raw} :
      Acts t (.load src (.parsed d raw)) (t.install d raw)
        (.load src (.accepted (t.install d raw).current))
  | parse {raw d} (h : Document.parse raw = .ok d) :
      Acts t (.remote raw .begun) t (.remote raw (.parsed d))
  | reject {raw m} (h : Document.parse raw = .error m) :
      Acts t (.remote raw .begun) (t.send (.rejected m)) (.remote raw (.rejected m))
  | replace {raw d} (h : t.live.store.changesTo d = []) :
      Acts t (.remote raw (.parsed d)) (t.install d raw)
        (.remote raw (.finished (t.install d raw).current []))
  | install {raw d} (h : t.live.store.changesTo d ≠ []) :
      Acts t (.remote raw (.parsed d)) (t.install d raw)
        (.remote raw (.installed (t.install d raw).current (t.live.store.changesTo d)))
  | call {raw g changes} :
      Acts t (.remote raw (.installed g changes)) (t.call changes) (.remote raw (.called g changes))
  | send {raw g changes} :
      Acts t (.remote raw (.called g changes)) (t.send (.changed g.number changes))
        (.remote raw (.finished g changes))

theorem acts_of_act {t next : Traffic} {w v : Writer} (h : t.act w = some (next, v)) :
    Acts t w next v := by
  rcases w with ⟨src, stage⟩ | ⟨raw, stage⟩ <;> cases stage <;> simp only [act] at h
  case load.begun =>
    split at h
    · rename_i hp
      cases h
      exact .read hp
    · rename_i hp
      cases h
      exact .refuse hp
  case load.parsed => cases h; exact .accept
  case remote.begun =>
    split at h
    · rename_i hp
      cases h
      exact .parse hp
    · rename_i hp
      cases h
      exact .reject hp
  case remote.parsed d =>
    by_cases hc : t.live.store.changesTo d = []
    · rw [if_pos (List.isEmpty_iff.mpr hc)] at h
      cases h
      exact .replace hc
    · rw [if_neg (mt List.isEmpty_iff.mp hc)] at h
      cases h
      exact .install hc
  case remote.installed => cases h; exact .call
  case remote.called => cases h; exact .send
  all_goals cases h

/-- A writer that goes on has its own place in the list, where nobody else writes. -/
theorem step_proceed (t : Traffic) (id : Nat) :
    (t.step (.proceed id) = t ∧ ∀ w, t.writers[id]? = some w → t.act w = none) ∨
    ∃ l₁ w l₂ next v, t.writers = l₁ ++ w :: l₂ ∧ l₁.length = id ∧
      Acts t w next v ∧ t.step (.proceed id) = { next with writers := l₁ ++ v :: l₂ } := by
  cases hw : t.writers[id]? with
  | none => exact .inl ⟨by simp [step, hw], by simp⟩
  | some w =>
    cases ha : t.act w with
    | none => exact .inl ⟨by simp [step, hw, ha], by simp [ha]⟩
    | some r =>
      obtain ⟨next, v⟩ := r
      obtain ⟨hid, hget⟩ := List.getElem?_eq_some_iff.mp hw
      refine .inr ⟨t.writers.take id, w, t.writers.drop (id + 1), next, v, ?_, ?_, acts_of_act ha,
        ?_⟩
      · rw [← hget, List.getElem_cons_drop, List.take_append_drop]
      · simp only [List.length_take]
        omega
      · simp only [step, hw, ha]
        rw [List.set_eq_take_append_cons_drop, if_pos hid]

/-! ### A writer whom nobody interrupts -/

/-- **A local load that is not interrupted is the load at once.** -/
theorem run_load_alone (t : Traffic) (src : LoadSource) :
    (t.run [.load src, .proceed t.writers.length, .proceed t.writers.length]).live =
      { t.live with store := match src.load t.live.store with
        | .ok s => s
        | .error _ => t.live.store } := by
  rw [src.load_eq_parse, run_cons, run_cons, run_cons, run_nil]
  cases hp : src.parse with
  | error e =>
    simp [step, act, hp, Except.map]
  | ok p =>
    simp [step, act, hp, Except.map, install]

theorem getElem?_modifyStore {s : Session} {id : Nat} {l : LiveStore} (h : s.stores[id]? = some l)
    (f : LiveStore → LiveStore) : (s.modifyStore id f).stores[id]? = some (f l) := by
  simp [Session.modifyStore, Array.getElem?_modify, h]

theorem calls_modifyStore (s : Session) (id : Nat) (f : LiveStore → LiveStore) :
    (s.modifyStore id f).calls = s.calls := rfl

/-- **A remote value that is taken over without interruption**: what a session does with it. -/
theorem run_remote_alone {s : Session} {id : Nat} {l : LiveStore} (hl : s.stores[id]? = some l)
    (hheld : s.isHeld id) (raw : Bytes) :
    let u := (Traffic.mk l s.calls []).run
      [.remote raw, .proceed 0, .proceed 0, .proceed 0, .proceed 0]
    (s.applyRemote id raw).stores[id]? = some u.live ∧ (s.applyRemote id raw).calls = u.calls := by
  unfold Session.applyRemote Store.applyRemote
  cases hp : Document.parse raw with
  | error m => simp [hl, hheld, step, act, hp, send, getElem?_modifyStore hl, calls_modifyStore]
  | ok d =>
    by_cases hc : l.store.changesTo d = []
    · simp [hl, hheld, step, act, hp, hc, install, getElem?_modifyStore hl, calls_modifyStore]
    · cases hb : l.callback <;>
        simp [hl, hheld, step, act, hp, hc, hb, install, send, call, current,
          getElem?_modifyStore hl, calls_modifyStore]

end Traffic

end LiveConfig
