import LiveConfig.Proofs.Mirror
import LiveConfig.Session.Clock

/-!
The loop of a watch over the store in memory, as a poll whose answers are under way.

A loop that waits keeps the entry that it has seen.  Nothing has happened to the store since then
unless the loop has been woken, so what it has seen is an answer that has been made and not yet been
received.  Main statements: `Watched.exists_runs`, every run of the loop is a run of the poll, and
`converse_memory`, what a session says to the store in memory is a conversation with it.
-/

namespace LiveConfig

/-! ### Waiting reads -/

section Reads

variable {m : Memory} {s : Store} {p : Poll} {b : Option ReadAnswer}

/-- How far a waiting read has come is how far the answer to a poll has come. -/
def Answers (m : Memory) (s : Store) (p : Poll) (b : Option ReadAnswer) : Waiting → Prop
  | .answered a => Runs (Mirror.Step (R := Memory.remote)) ⟨m, s, p, b⟩ [] ⟨m, s, p, some a⟩
  | .parked w => w.key = p.key ∧
      Runs (Mirror.Step (R := Memory.remote)) ⟨m, s, p, b⟩ []
        ⟨m, s, p, some (.ok w.seen)⟩

theorem runs_ask {a : ReadAnswer} (h : a = m.read p.key) :
    Runs (Mirror.Step (R := Memory.remote)) ⟨m, s, p, b⟩ [] ⟨m, s, p, some a⟩ :=
  .single (Mirror.Step.ask h)

theorem answers_look {w : Waiter} (hkey : w.key = p.key) : Answers m s p b (w.look m) := by
  unfold Waiter.look
  cases ha : m.available with
  | false => exact runs_ask (by simp [Memory.read, ha])
  | true =>
    have hread : m.read p.key = .ok (m.current w.key) := by simp [Memory.read, ha, hkey]
    simp only [Bool.not_true, Bool.false_eq_true, if_false]
    split
    · exact runs_ask hread.symm
    · exact ⟨hkey, runs_ask hread.symm⟩

theorem answers_resume {w : Waiter} (hkey : w.key = p.key)
    (hseen : w.woken = false → b = some (.ok w.seen)) (now : Nat) :
    Answers m s p b (w.resume m now) := by
  have hfirst : Answers m s p b (if w.woken then w.look m else .parked w) := by
    cases hw : w.woken with
    | true => exact answers_look hkey
    | false => exact ⟨hkey, hseen hw ▸ .refl⟩
  unfold Waiter.resume
  dsimp only
  split
  · rename_i a h
    rwa [h] at hfirst
  · rename_i u h
    rw [h] at hfirst
    split
    · exact hfirst.2
    · exact hfirst

theorem answers_ask (now : Nat) : Answers m s p b (m.ask p.key (some p.query) now) := by
  unfold Memory.ask
  split
  · exact runs_ask rfl
  · exact answers_resume rfl (by simp) now

end Reads

/-! ### The loop -/

/-- **What a step of a loop can be**: its end, the end of a rest, a poll, or another look of one. -/
theorem WatchLoop.step_cases {l l' : WatchLoop} {m : Memory} {now : Nat} {v : Option Bytes}
    (h : l.step m now = some (l', v)) :
    (l.stopping = true ∧ l' = { l with state := .ended } ∧ v = none) ∨
    (l.stopping = false ∧ ∃ t, l.state = .resting t ∧ t ≤ now ∧
      l' = { l with state := .ready } ∧ v = none) ∨
    (l.stopping = false ∧ l.state = .ready ∧
      l.waiting now (m.ask l.poll.key (some l.poll.query) now) = (l', v)) ∨
    (l.stopping = false ∧ ∃ w, l.state = .asking w ∧ (w.woken ∨ w.deadline ≤ now) ∧
      l.waiting now (w.resume m now) = (l', v)) := by
  unfold step at h
  cases hs : l.stopping with
  | true =>
    refine .inl ⟨rfl, ?_⟩
    split at h
    · cases h
    all_goals
      rw [if_pos hs] at h
      cases h
      exact ⟨by rw [hs], rfl⟩
  | false =>
    rw [hs] at h
    simp only [Bool.false_eq_true, if_false] at h
    split at h
    · cases h
    · rename_i hstate
      exact .inr (.inr (.inl ⟨rfl, hstate, Option.some_inj.mp h⟩))
    · rename_i w hstate
      split at h
      · rename_i hwake
        exact .inr (.inr (.inr ⟨rfl, w, hstate, hwake, Option.some_inj.mp h⟩))
      · cases h
    · rename_i t hstate
      split at h
      · rename_i hrest
        cases h
        exact .inr (.inl ⟨rfl, t, hstate, hrest, rfl, rfl⟩)
      · cases h

/-- A store that follows a key of the store in memory by a loop. -/
structure Watched where
  memory : Memory
  store : Store
  loop : WatchLoop

namespace Watched

/-- The store after a step of its loop. -/
def takeOver (s : Store) (v : Option Bytes) : Store := v.elim s fun v => (s.applyRemote v).1

/-- One step, with the value that it delivers. -/
inductive Step (x : Watched) : Option Bytes → Watched → Prop
  /-- Somebody else acts on the store in memory, which may wake the loop. -/
  | act {l} (a : Memory.Action) (hl : l = x.loop ∨ l = x.loop.wake) :
      Step x none { x with memory := x.memory.act a, loop := l }
  | stop : Step x none { x with loop := x.loop.stop }
  /-- The loop goes on at some time. -/
  | go {now l v} (h : x.loop.step x.memory now = some (l, v)) :
      Step x v { x with loop := l, store := takeOver x.store v }

/-- A loop stands where a poll does, and what it has seen while it waits is the answer to that. -/
structure Matches (x : Watched) (f : Mirror Memory.remote) : Prop where
  world : f.world = x.memory
  store : f.store = x.store
  poll : f.poll = x.loop.poll
  asking : ∀ w, x.loop.state = .asking w →
    w.key = x.loop.poll.key ∧ (w.woken = false → f.pending = some (.ok w.seen))

section Loop

variable {m : Memory} {s : Store} {b : Option ReadAnswer}

/-- An answer that the loop receives is one that the poll receives. -/
theorem matches_receive (l : WatchLoop) (now : Nat) (a : ReadAnswer) :
    ∃ f, Mirror.Step (R := Memory.remote) ⟨m, s, l.poll, some a⟩ (l.receive now a).2 f ∧
      Matches ⟨m, takeOver s (l.receive now a).2, (l.receive now a).1⟩ f := by
  unfold WatchLoop.receive
  split
  · rename_i p h
    exact ⟨_, .receive h (by simp), ⟨rfl, rfl, rfl, by simp⟩⟩
  · rename_i v p h
    exact ⟨_, .deliver h, ⟨rfl, rfl, rfl, by simp⟩⟩
  · rename_i p h
    exact ⟨_, .receive h (by simp), ⟨rfl, rfl, rfl, by simp⟩⟩

theorem matches_waiting {l : WatchLoop} {x : Waiting} (h : Answers m s l.poll b x) (now : Nat) :
    ∃ f, Runs Mirror.Step ⟨m, s, l.poll, b⟩ (l.waiting now x).2.toList f ∧
      Matches ⟨m, takeOver s (l.waiting now x).2, (l.waiting now x).1⟩ f := by
  cases x with
  | answered a =>
    obtain ⟨f, hstep, hf⟩ := matches_receive (m := m) (s := s) l now a
    exact ⟨f, .tail h hstep, hf⟩
  | parked w =>
    refine ⟨_, h.2, rfl, rfl, rfl, ?_⟩
    intro w' hw'
    cases hw'
    exact ⟨h.1, fun _ => rfl⟩

end Loop

/-- **Every step of the loop** is matched by steps of the poll that deliver the same. -/
theorem Matches.step {x y : Watched} {f : Mirror Memory.remote} {v : Option Bytes}
    (h : Matches x f) (hstep : Step x v y) : ∃ g, Runs Mirror.Step f v.toList g ∧ Matches y g := by
  obtain ⟨m₀, s₀, l⟩ := x
  obtain ⟨m, s, p, b⟩ := f
  obtain ⟨hworld, hstore, hpoll, hasking⟩ := h
  dsimp only at hworld hstore hpoll hasking
  subst hworld hstore hpoll
  cases hstep with
  | act a hl =>
    have hmove : Memory.remote.Moves m (m.act a) := ⟨a, rfl⟩
    refine ⟨_, .single (Mirror.Step.move hmove), ?_⟩
    rcases hl with rfl | rfl
    · exact ⟨rfl, rfl, rfl, hasking⟩
    · refine ⟨rfl, rfl, ?_, ?_⟩
      · dsimp only
        unfold WatchLoop.wake
        split <;> rfl
      · intro w hw
        dsimp only [WatchLoop.wake] at hw ⊢
        split at hw
        · rename_i u hu
          cases hw
          exact ⟨(hasking u hu).1, by simp [Waiter.wake]⟩
        · rename_i hnot
          exact absurd hw (hnot w)
  | stop => exact ⟨_, .refl, rfl, rfl, rfl, hasking⟩
  | @go now l' v hgo =>
    rcases l.step_cases hgo with ⟨-, rfl, rfl⟩ | ⟨-, _, -, -, rfl, rfl⟩ | ⟨-, -, hwaiting⟩ |
      ⟨-, w, hw, -, hwaiting⟩
    · exact ⟨_, .refl, rfl, rfl, rfl, by simp⟩
    · exact ⟨_, .refl, rfl, rfl, rfl, by simp⟩
    · have ha : Answers m s l.poll b (m.ask l.poll.key (some l.poll.query) now) := answers_ask now
      obtain ⟨g, hg⟩ := matches_waiting ha now
      rw [hwaiting] at hg
      exact ⟨g, hg⟩
    · obtain ⟨hkey, hseen⟩ := hasking w hw
      have ha : Answers m s l.poll b (w.resume m now) := answers_resume hkey hseen now
      obtain ⟨g, hg⟩ := matches_waiting ha now
      rw [hwaiting] at hg
      exact ⟨g, hg⟩

/-- **Every run of the loop is a run of the poll** that delivers the same. -/
theorem Matches.exists_runs {x y : Watched} {f : Mirror Memory.remote} {values : List Bytes}
    (h : Matches x f) (hruns : Runs Step x values y) :
    ∃ g, Runs Mirror.Step f values g ∧ Matches y g :=
  Runs.matched (R := Matches) Matches.step h hruns

theorem matches_start (m : Memory) (s : Store) (p : Poll) :
    Matches ⟨m, s, .start p⟩ ⟨m, s, p, none⟩ :=
  ⟨rfl, rfl, rfl, by simp [WatchLoop.start]⟩

end Watched

/-! ### Conversations of a session -/

namespace Session

section Memory

variable (s : Session)

theorem memory_release : s.release.memory = s.memory := by
  unfold release
  generalize List.range s.stores.size = ids
  induction ids generalizing s with
  | nil => rfl
  | cons id ids ih =>
    rw [List.foldl_cons, ih]
    split
    · rfl
    · split
      · rfl
      · dsimp only
        split <;> rfl

theorem memory_applyRemote (id : Nat) (v : Bytes) : (s.applyRemote id v).memory = s.memory := by
  unfold applyRemote
  split
  · rfl
  · split
    · rfl
    · dsimp only
      split
      · rfl
      · split <;> rfl

theorem memory_deliver (t : Target) (v : Bytes) : (s.deliver t v).memory = s.memory := by
  cases t with
  | store id => exact s.memory_applyRemote id v
  | watcher id => rfl

theorem memory_stepTask {s' : Session} {id : Nat} (h : s.stepTask id = some s') :
    s'.memory = s.memory := by
  unfold stepTask at h
  split at h
  · cases h
  · split at h
    · cases h
    · dsimp only at h
      rw [Option.some_inj] at h
      rw [← h]
      split
      · rw [memory_deliver]
        rfl
      · rfl
  · obtain ⟨r, -, rfl⟩ := Option.map_eq_some_iff.mp h
    rfl
  · obtain ⟨f, -, rfl⟩ := Option.map_eq_some_iff.mp h
    rw [memory_release]
    rfl

theorem memory_runTask (id fuel : Nat) : (runTask id fuel s).memory = s.memory := by
  induction fuel generalizing s with
  | zero => rfl
  | succ fuel ih =>
    unfold runTask
    split
    · rfl
    · rename_i s' h
      rw [ih, s.memory_stepTask h]

theorem memory_runAll : s.runAll.memory = s.memory := by
  unfold runAll
  generalize List.range s.tasks.size = ids
  induction ids generalizing s with
  | nil => rfl
  | cons id ids ih => rw [List.foldl_cons, ih, memory_runTask]

theorem memory_settle : s.settle.memory = s.memory := by
  unfold settle
  generalize 64 = fuel
  induction fuel generalizing s with
  | zero => rfl
  | succ fuel ih =>
    unfold settleWithin
    split
    · rfl
    · rw [ih, memory_runAll]

/-- What goes on in the background leaves the store in memory alone. -/
theorem memory_sleep (time : Span) : (s.sleep time).memory = s.memory := by
  unfold sleep advanceTo
  generalize s.now + time.ticks = target
  generalize target - s.now + 1 = fuel
  induction fuel generalizing s with
  | zero => exact s.memory_settle
  | succ fuel ih =>
    unfold advanceWithin
    dsimp only
    split
    · rw [ih]
      exact s.memory_settle
    · split
      · rw [memory_settle]
        exact s.memory_settle
      · exact s.memory_settle

theorem exists_act_interfere (key : String) (foreign : Option Foreign) :
    (s.interfere key foreign).memory = s.memory ∨
      ∃ a, (s.interfere key foreign).memory = s.memory.act a := by
  rcases foreign with _ | v | _ | _
  · exact .inl rfl
  · exact .inr ⟨.put key v, rfl⟩
  · exact .inr ⟨.delete key, rfl⟩
  · exact .inr ⟨.setAvailable false, rfl⟩

end Memory

section Converse

variable {α : Type} (foreign : Option Foreign) (s : Session)

theorem converse_read (key : String) (next : ReadAnswer → Exchange α) :
    s.converse (.read key next) foreign =
      (s.interfere key foreign).converse (next (s.memory.read key)) none := rfl

theorem converse_write (key : String) (value : Bytes) (next : WriteAnswer → Exchange α) :
    s.converse (.write key value next) foreign =
      let r := s.memory.put key value
      (s.change r.2).converse (next r.1) foreign := rfl

-- Just `converse` is unfolded, so that nobody begins to compute what happens in the meantime.
theorem converse_pause (time : Span) (next : Exchange α) :
    s.converse (.pause time next) foreign = (s.sleep time).converse next foreign := by
  delta converse
  rfl

/-- **What a session says to the store in memory** is a conversation with it. -/
theorem converse_memory (e : Exchange α) :
    Converse Memory.remote s.memory e (s.converse e foreign).1 (s.converse e foreign).2.memory := by
  induction e generalizing foreign s with
  | done x => exact .done
  | read key next ih =>
    have hrest := ih (s.memory.read key) none (s.interfere key foreign)
    rw [converse_read]
    refine .read rfl ?_
    rcases s.exists_act_interfere key foreign with hsame | ⟨a, ha⟩
    · rwa [hsame] at hrest
    · rw [ha] at hrest
      exact .move ⟨a, rfl⟩ hrest
  | write key value next ih =>
    have hwrite : Memory.remote.Writes s.memory key value (s.memory.put key value).1
        (s.memory.put key value).2 := rfl
    rw [converse_write]
    exact .write hwrite (ih _ foreign (s.change _))
  | pause time next ih =>
    have hrest := ih foreign (s.sleep time)
    rw [s.memory_sleep] at hrest
    rw [converse_pause]
    exact .pause hrest

end Converse

end Session

end LiveConfig
