import LiveConfig.Proofs.MemoryIndexes
import LiveConfig.Proofs.MemoryWatch

/-!
Records of what happens around a store in memory.

A run of any kind of steps has a record of what happens in it.  Around a store in memory these are
actions of others, requests with their answers, and values that a watch delivers.  The record alone
says what has become of the store, and it is truthful if every answer in it is the one that the
store gives at that moment.  Main statements: `Dialogue.truthful`, so is the record of a
conversation that others interrupt, and `Dialogue.recorded_rest`, its requests depend on nothing but
the answers.
-/

namespace LiveConfig

/-! ### Runs with a record -/

section Recorded

variable {σ τ ε : Type} {step : σ → List ε → σ → Prop}

/-- Steps one after another, with what is recorded of them. -/
inductive Recorded (step : σ → List ε → σ → Prop) (x : σ) : List ε → σ → Prop
  | refl : Recorded step x [] x
  | tail {y z es es'} (hrun : Recorded step x es y) (hstep : step y es' z) :
      Recorded step x (es ++ es') z

theorem Recorded.single {x y : σ} {es : List ε} (h : step x es y) : Recorded step x es y :=
  .tail .refl h

theorem Recorded.trans {x y z : σ} {es es' : List ε} (hxy : Recorded step x es y)
    (hyz : Recorded step y es' z) : Recorded step x (es ++ es') z := by
  induction hyz with
  | refl => rwa [List.append_nil]
  | tail _ hstep ih =>
    rw [← List.append_assoc]
    exact ih.tail hstep

theorem Recorded.head {x y z : σ} {es es' : List ε} (hstep : step x es y)
    (hrun : Recorded step y es' z) : Recorded step x (es ++ es') z :=
  (Recorded.single hstep).trans hrun

theorem Recorded.cases_head {x z : σ} {es : List ε} (h : Recorded step x es z) :
    (es = [] ∧ z = x) ∨
      ∃ y fst rest, step x fst y ∧ Recorded step y rest z ∧ es = fst ++ rest := by
  induction h with
  | refl => exact .inl ⟨rfl, rfl⟩
  | @tail y z es es' hrun hstep ih =>
    rcases ih with ⟨rfl, rfl⟩ | ⟨u, fst, rest, hfst, hrest, rfl⟩
    · exact .inr ⟨z, es', [], hstep, .refl, by simp⟩
    · exact .inr ⟨u, fst, rest ++ es', hfst, hrest.tail hstep, List.append_assoc ..⟩

/-- If a step has at most one item of the record, a run can be cut at each item. -/
theorem Recorded.cut (hone : ∀ {x y es}, step x es y → es.length ≤ 1) {x z : σ} {e : ε}
    {before after : List ε} (h : Recorded step x (before ++ e :: after) z) :
    ∃ y y', Recorded step x before y ∧ step y [e] y' ∧ Recorded step y' after z := by
  generalize hlog : before ++ e :: after = log at h
  induction h generalizing after with
  | refl => simp at hlog
  | @tail u z es es' hrun hstep ih =>
    match es', hone hstep with
    | [], _ =>
      obtain ⟨y, y', hbefore, hcut, hafter⟩ := ih (hlog.trans (List.append_nil es))
      exact ⟨y, y', hbefore, hcut, List.append_nil after ▸ hafter.tail hstep⟩
    | [f], _ =>
      rcases List.eq_nil_or_concat after with rfl | ⟨rest, g, rfl⟩
      · obtain ⟨rfl, hlast⟩ := List.append_inj' hlog rfl
        cases hlast
        exact ⟨u, z, hrun, hstep, .refl⟩
      · have hsplit : (before ++ e :: rest) ++ [g] = es ++ [f] := by simpa using hlog
        obtain ⟨rfl, hlast⟩ := List.append_inj' hsplit rfl
        cases hlast
        obtain ⟨y, y', hbefore, hcut, hafter⟩ := ih rfl
        exact ⟨y, y', hbefore, hcut, by simpa using hafter.tail hstep⟩

end Recorded

/-! ### Lists with their past -/

section Past

variable {α : Type}

/-- Every item of a list with those before it. -/
def withPast (xs : List α) : List (List α × α) := xs.zipIdx.map fun (x, i) => (xs.take i, x)

theorem withPast_concat (xs : List α) (x : α) :
    withPast (xs ++ [x]) = withPast xs ++ [(xs, x)] := by
  unfold withPast
  rw [List.zipIdx_append, List.map_append]
  congr 1
  · refine List.map_congr_left fun ⟨y, i⟩ hy => ?_
    have hi : i ≤ xs.length := by
      have hlt := (List.mem_zipIdx hy).2.1
      omega
    dsimp only
    rw [List.take_append_of_le_length hi]
  · simp

end Past

/-! ### What is recorded -/

/-- A request to a remote store that has been answered. -/
inductive Answered where
  | read (key : String) (answer : ReadAnswer)
  | write (key : String) (value : Bytes) (answer : WriteAnswer)

/-- Whether an answer is the one that a store in memory gives. -/
def Answered.Holds (m : Memory) : Answered → Prop
  | read key answer => answer = m.read key
  | write key value answer => answer = (m.put key value).1

/-- Something that happens around a store in memory. -/
inductive Happening where
  /-- Somebody else acts on the store. -/
  | act (a : Memory.Action)
  | answer (r : Answered)
  /-- A watch delivers a value, after which it knows an index. -/
  | deliver (index : Nat) (value : Bytes)

namespace Happening

def action? : Happening → Option Memory.Action
  | act a => some a
  | answer (.write key value _) => some (.put key value)
  | _ => none

def answered? : Happening → Option Answered
  | answer r => some r
  | _ => none

end Happening

/-- All that is done to the store, in order. -/
def history (hs : List Happening) : List Memory.Action := hs.filterMap Happening.action?

/-- All requests that are answered, in order. -/
def requests (hs : List Happening) : List Answered := hs.filterMap Happening.answered?

section Lists

variable (hs hs' : List Happening)

@[simp] theorem history_nil : history [] = [] := rfl

@[simp] theorem history_append : history (hs ++ hs') = history hs ++ history hs' :=
  List.filterMap_append

@[simp] theorem requests_append : requests (hs ++ hs') = requests hs ++ requests hs' :=
  List.filterMap_append

@[simp] theorem history_read (key : String) (a : ReadAnswer) :
    history (.answer (.read key a) :: hs) = history hs := rfl

end Lists

/-- A request in the middle of all requests is a request in the middle of the record. -/
theorem exists_of_requests_eq {hs : List Happening} {rs rs' : List Answered} {r : Answered}
    (h : requests hs = rs ++ r :: rs') :
    ∃ before after, hs = before ++ .answer r :: after ∧ requests before = rs ∧
      requests after = rs' := by
  obtain ⟨l₁, l₂, rfl, hl₁, hl₂⟩ := List.filterMap_eq_append_iff.mp h
  obtain ⟨l, x, after, rfl, hl, hx, hafter⟩ := List.filterMap_eq_cons_iff.mp hl₂
  refine ⟨l₁ ++ l, after, ?_, ?_, hafter⟩
  · cases x with
    | answer q =>
      cases hx
      rw [List.append_assoc]
    | act a => cases hx
    | deliver n v => cases hx
  · rw [requests_append, show requests l = [] from List.filterMap_eq_nil_iff.mpr hl,
      List.append_nil]
    exact hl₁

/-- An action in the middle of the history happens in the middle of the record. -/
theorem exists_of_history_eq {hs : List Happening} {as as' : List Memory.Action}
    {a : Memory.Action} (h : history hs = as ++ a :: as') :
    ∃ before x after, hs = before ++ x :: after ∧ x.action? = some a ∧ history before = as := by
  obtain ⟨l₁, l₂, rfl, hl₁, hl₂⟩ := List.filterMap_eq_append_iff.mp h
  obtain ⟨l, x, after, rfl, hl, hx, -⟩ := List.filterMap_eq_cons_iff.mp hl₂
  refine ⟨l₁ ++ l, x, after, by rw [List.append_assoc], hx, ?_⟩
  rw [history_append, show history l = [] from List.filterMap_eq_nil_iff.mpr hl, List.append_nil]
  exact hl₁

namespace Memory

/-- The store after what is recorded. -/
def after (m : Memory) (hs : List Happening) : Memory := m.acts (history hs)

@[simp] theorem after_append (m : Memory) (hs hs' : List Happening) :
    m.after (hs ++ hs') = (m.after hs).after hs' := by
  unfold after
  rw [history_append, acts_append]

end Memory

/-- Every answer in a record is the one that the store gives at that moment. -/
def Truthful (m : Memory) : List Happening → Prop
  | [] => True
  | h :: hs => (∀ r, h = .answer r → r.Holds m) ∧ Truthful (m.after [h]) hs

theorem truthful_append {m : Memory} {hs hs' : List Happening} :
    Truthful m (hs ++ hs') ↔ Truthful m hs ∧ Truthful (m.after hs) hs' := by
  induction hs generalizing m with
  | nil => exact ⟨fun h => ⟨trivial, h⟩, fun h => h.2⟩
  | cons h hs ih =>
    have hafter : m.after (h :: hs) = (m.after [h]).after hs := m.after_append [h] hs
    rw [List.cons_append, Truthful, Truthful, ih, hafter, and_assoc]

@[simp] theorem truthful_answer {m : Memory} {r : Answered} :
    Truthful m [.answer r] ↔ r.Holds m := by
  simp [Truthful]

theorem Truthful.holds {m : Memory} {before after : List Happening} {r : Answered}
    (h : Truthful m (before ++ .answer r :: after)) : r.Holds (m.after before) :=
  (truthful_append.mp h).2.1 r rfl

/-- A run has a truthful record, and the store is what the record says, as soon as this is so for
every step that starts from an invariant and keeps it. -/
theorem Recorded.truthful {σ : Type} {step : σ → List Happening → σ → Prop} (memory : σ → Memory)
    (Inv : σ → Prop)
    (hsteps : ∀ {x y hs}, Inv x → step x hs y →
      Inv y ∧ memory y = (memory x).after hs ∧ Truthful (memory x) hs)
    {x y : σ} {hs : List Happening} (h : Recorded step x hs y) (hx : Inv x) :
    Inv y ∧ memory y = (memory x).after hs ∧ Truthful (memory x) hs := by
  induction h with
  | refl => exact ⟨hx, rfl, trivial⟩
  | tail _ hstep ih =>
    obtain ⟨hinv, hmemory, htruthful⟩ := ih
    obtain ⟨hinv', hmemory', htruthful'⟩ := hsteps hinv hstep
    rw [hmemory] at hmemory' htruthful'
    exact ⟨hinv', by rw [hmemory', Memory.after_append],
      truthful_append.mpr ⟨htruthful, htruthful'⟩⟩

/-! ### Conversations under way -/

section Exchange

variable {α β : Type}

/-- One step of a conversation, with the request in it. -/
inductive Exchange.Step : Exchange α → List Answered → Exchange α → Prop
  | read {key next} (a : ReadAnswer) : Step (.read key next) [.read key a] (next a)
  | write {key value next} (a : WriteAnswer) :
      Step (.write key value next) [.write key value a] (next a)
  | pause {time next} : Step (.pause time next) [] next

namespace Exchange

theorem of_done {x : α} {e : Exchange α} {rs : List Answered}
    (h : Recorded Step (.done x) rs e) : rs = [] ∧ e = .done x := by
  rcases h.cases_head with hend | ⟨_, _, _, hstep, -⟩
  · exact hend
  · cases hstep

theorem of_read {key : String} {next : ReadAnswer → Exchange α} {e : Exchange α}
    {rs : List Answered} (h : Recorded Step (.read key next) rs e) :
    (rs = [] ∧ e = .read key next) ∨
      ∃ a rest, rs = .read key a :: rest ∧ Recorded Step (next a) rest e := by
  rcases h.cases_head with hend | ⟨_, _, rest, hstep, hrest, rfl⟩
  · exact .inl hend
  · cases hstep
    exact .inr ⟨_, rest, rfl, hrest⟩

theorem of_write {key : String} {value : Bytes} {next : WriteAnswer → Exchange α} {e : Exchange α}
    {rs : List Answered} (h : Recorded Step (.write key value next) rs e) :
    (rs = [] ∧ e = .write key value next) ∨
      ∃ a rest, rs = .write key value a :: rest ∧ Recorded Step (next a) rest e := by
  rcases h.cases_head with hend | ⟨_, _, rest, hstep, hrest, rfl⟩
  · exact .inl hend
  · cases hstep
    exact .inr ⟨_, rest, rfl, hrest⟩

theorem of_pause {time : Span} {next : Exchange α} {e : Exchange α} {rs : List Answered}
    (h : Recorded Step (.pause time next) rs e) :
    (rs = [] ∧ e = .pause time next) ∨ Recorded Step next rs e := by
  rcases h.cases_head with hend | ⟨_, _, rest, hstep, hrest, rfl⟩
  · exact .inl hend
  · cases hstep
    exact .inr hrest

end Exchange

/-- A conversation with the store in memory that is under way. -/
structure Dialogue (α : Type) where
  memory : Memory
  rest : Exchange α

namespace Dialogue

/-- One step of a conversation with the store in memory, or of somebody else. -/
inductive Step : Dialogue α → List Happening → Dialogue α → Prop
  | act {m e} (a : Memory.Action) : Step ⟨m, e⟩ [.act a] ⟨m.act a, e⟩
  | read {m key next} :
      Step ⟨m, .read key next⟩ [.answer (.read key (m.read key))] ⟨m, next (m.read key)⟩
  | write {m key value next a m'} (h : m.put key value = (a, m')) :
      Step ⟨m, .write key value next⟩ [.answer (.write key value a)] ⟨m', next a⟩
  | pause {m time next} : Step ⟨m, .pause time next⟩ [] ⟨m, next⟩

/-- **The record of a conversation is truthful**, and the store is what it says. -/
theorem truthful {d d' : Dialogue α} {hs : List Happening} (h : Recorded Step d hs d') :
    d'.memory = d.memory.after hs ∧ Truthful d.memory hs := by
  refine (Recorded.truthful Dialogue.memory (fun _ => True) ?_ h trivial).2
  intro x y hs _ hstep
  refine ⟨trivial, ?_⟩
  cases hstep with
  | act a => exact ⟨rfl, by simp [Truthful]⟩
  | read => exact ⟨rfl, truthful_answer.mpr rfl⟩
  | write h => simp [Answered.Holds, Memory.after, history, Happening.action?, Memory.act, h]
  | pause => exact ⟨rfl, trivial⟩

/-- **The requests of a conversation** are those of the conversation by itself, with some answers.
-/
theorem recorded_rest {d d' : Dialogue α} {hs : List Happening} (h : Recorded Step d hs d') :
    Recorded Exchange.Step d.rest (requests hs) d'.rest := by
  induction h with
  | refl => exact .refl
  | tail _ hstep ih =>
    rw [requests_append]
    cases hstep with
    | act a =>
      rw [show requests [.act a] = [] from rfl, List.append_nil]
      exact ih
    | read => exact ih.tail (.read _)
    | write h => exact ih.tail (.write _)
    | pause => exact ih.tail .pause

/-- A conversation that is held from beginning to end has a record. -/
theorem exists_recorded {m m' : Memory.remote.World} {e : Exchange α} {x : α}
    (h : Converse Memory.remote m e x m') :
    ∃ hs, Recorded Step ⟨m, e⟩ hs ⟨m', .done x⟩ := by
  induction h with
  | done => exact ⟨[], .refl⟩
  | move hmove _ ih =>
    obtain ⟨a, rfl⟩ := hmove
    obtain ⟨hs, hrest⟩ := ih
    exact ⟨_, hrest.head (.act a)⟩
  | read hread _ ih =>
    obtain rfl := hread
    obtain ⟨hs, hrest⟩ := ih
    exact ⟨_, hrest.head .read⟩
  | write hwrite _ ih =>
    obtain ⟨hs, hrest⟩ := ih
    exact ⟨_, hrest.head (.write hwrite)⟩
  | pause _ ih =>
    obtain ⟨hs, hrest⟩ := ih
    exact ⟨_, hrest.head .pause⟩

/-- **What a session says to the store in memory** has a record. -/
theorem exists_recorded_converse (s : Session) (e : Exchange α) (foreign : Option Session.Foreign) :
    ∃ hs, Recorded Step ⟨s.memory, e⟩ hs
      ⟨(s.converse e foreign).2.memory, .done (s.converse e foreign).1⟩ :=
  exists_recorded (s.converse_memory foreign e)

end Dialogue

end Exchange

end LiveConfig
