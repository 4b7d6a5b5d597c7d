import LiveConfig.Proofs.MemoryWatch
import LiveConfig.Proofs.Records
import Mathlib.Data.List.Basic

/-!
The rounds of the loop of a watch, over any store.

A `Turn` is a step of a loop whose store answers as it likes and lets it wait as long as it likes.
What can be seen of it are its requests, the answers, the values that it delivers and its rests.
Main statement: `loop_goes_in_rounds`, what can be seen of a run is made of one round for each
answer, and no answer is the last one.
-/

namespace LiveConfig

/-! ### What can be seen of a loop -/

/-- Something that can be seen of the loop of a watch. -/
inductive LoopEvent where
  | request (key : String) (query : Query)
  | answer (a : ReadAnswer)
  /-- A value is delivered. -/
  | call (value : Bytes)
  /-- A rest begins, of some milliseconds. -/
  | rest (ticks : Nat)
  /-- The loop is told to stop. -/
  | stop

namespace LoopEvent

def answer? : LoopEvent → Option ReadAnswer
  | answer a => some a
  | _ => none

def call? : LoopEvent → Option Bytes
  | call v => some v
  | _ => none

end LoopEvent

def answers (es : List LoopEvent) : List ReadAnswer := es.filterMap LoopEvent.answer?

def calls (es : List LoopEvent) : List Bytes := es.filterMap LoopEvent.call?

@[simp] theorem answers_append (es es' : List LoopEvent) :
    answers (es ++ es') = answers es ++ answers es' := List.filterMap_append

namespace WatchLoop

/-- The rest that a loop has just begun. -/
def resting (l : WatchLoop) (now : Nat) : List LoopEvent :=
  match l.state with
  | .resting t => [.rest (t - now)]
  | _ => []

/-- What can be seen of a poll under way at a time: nothing as long as it waits. -/
def shown (l : WatchLoop) (now : Nat) : Waiting → List LoopEvent
  | .answered a =>
    let r := l.receive now a
    .answer a :: (r.2.toList.map .call ++ r.1.resting now)
  | .parked _ => []

/-- One step of a loop over some store, at some time, with what can be seen of it. -/
inductive Turn : WatchLoop → List LoopEvent → WatchLoop → Prop
  | poll {l} (now : Nat) (x : Waiting) (hgoes : l.stopping = false) (hstate : l.state = .ready) :
      Turn l (.request l.poll.key l.poll.query :: l.shown now x) (l.waiting now x).1
  | look {l w} (now : Nat) (x : Waiting) (hgoes : l.stopping = false)
      (hstate : l.state = .asking w) : Turn l (l.shown now x) (l.waiting now x).1
  | wake {l} : Turn l [] l.wake
  | rise {l t now} (hgoes : l.stopping = false) (hstate : l.state = .resting t) (ht : t ≤ now) :
      Turn l [] { l with state := .ready }
  | stop {l} : Turn l [.stop] l.stop
  | finish {l} (hstopping : l.stopping = true) : Turn l [] { l with state := .ended }

end WatchLoop

/-! ### Rounds -/

/-- The index of an answer with an entry. -/
def answeredIndex? : ReadAnswer → Option Nat
  | .ok (some e) => some e.modifyIndex
  | _ => none

namespace Poll

/-- The index of the last entry among answers, or the one that is known before them. -/
def indexAfter (p : Poll) (as : List ReadAnswer) : Nat :=
  as.foldl (fun n a => (answeredIndex? a).getD n) p.lastIndex

/-- What follows an answer while an index is known: an entry with another index is delivered, and
without an entry there is a rest. -/
def consequence (p : Poll) (known : Nat) : ReadAnswer → List LoopEvent
  | .ok (some e) => if e.modifyIndex = known then [] else [.call e.value]
  | .ok none | .error _ => [.rest p.options.rest.ticks]

/-- A request with a known index, its answer and what follows. -/
def round (p : Poll) (known : Nat) (a : ReadAnswer) : List LoopEvent :=
  .request p.key ⟨known, p.options.wait⟩ :: .answer a :: p.consequence known a

/-- A round for each answer, with the index of the last entry before it. -/
def rounds (p : Poll) (as : List ReadAnswer) : List LoopEvent :=
  as.zipIdx.flatMap fun (a, k) => p.round (p.indexAfter (as.take k)) a

section Concat

variable (p : Poll) (as : List ReadAnswer) (a : ReadAnswer)

theorem indexAfter_concat :
    p.indexAfter (as ++ [a]) = (answeredIndex? a).getD (p.indexAfter as) := List.foldl_append

theorem rounds_eq_withPast :
    p.rounds as = (withPast as).flatMap fun (past, a) => p.round (p.indexAfter past) a := by
  unfold rounds withPast
  rw [List.flatMap_map]

theorem rounds_concat : p.rounds (as ++ [a]) = p.rounds as ++ p.round (p.indexAfter as) a := by
  rw [rounds_eq_withPast, rounds_eq_withPast, withPast_concat, List.flatMap_append,
    List.flatMap_singleton]

theorem answers_consequence (known : Nat) : answers (p.consequence known a) = [] := by
  rcases a with e | _ | e
  · rfl
  · rfl
  · by_cases h : e.modifyIndex = known <;> simp [consequence, answers, h, LoopEvent.answer?]

theorem stop_notMem_consequence (known : Nat) : .stop ∉ p.consequence known a := by
  rcases a with e | _ | e
  · simp [consequence]
  · simp [consequence]
  · by_cases h : e.modifyIndex = known <;> simp [consequence, h]

end Concat

end Poll

/-! ### What a loop does with an answer -/

namespace WatchLoop

section Receive

variable (l : WatchLoop) (now : Nat) (a : ReadAnswer)

/-- **An answer that is received** is followed by what it has to be followed by. -/
theorem shown_answered :
    l.shown now (.answered a) = .answer a :: l.poll.consequence l.poll.lastIndex a := by
  unfold shown receive resting Poll.consequence
  rcases a with e | _ | e
  · simp [Poll.receive]
  · simp [Poll.receive]
  · by_cases h : e.modifyIndex = l.poll.lastIndex <;> simp [Poll.receive, h]

theorem answers_shown : answers (l.shown now (.answered a)) = [a] := by
  rw [shown_answered]
  exact congrArg (a :: ·) (l.poll.answers_consequence a _)

theorem stop_notMem_shown : .stop ∉ l.shown now (.answered a) := by
  rw [shown_answered]
  simp [l.poll.stop_notMem_consequence a]

/-- After an answer a loop goes on or rests, and knows the index of the entry in it. -/
theorem receive_cases : ∃ s, (s = .ready ∨ ∃ t, s = .resting t) ∧
    (l.receive now a).1 =
      ⟨{ l.poll with lastIndex := (answeredIndex? a).getD l.poll.lastIndex }, s, l.stopping⟩ := by
  unfold receive
  rcases a with e | _ | e
  · exact ⟨_, .inr ⟨_, rfl⟩, rfl⟩
  · exact ⟨_, .inr ⟨_, rfl⟩, rfl⟩
  · by_cases h : e.modifyIndex = l.poll.lastIndex
    · exact ⟨.ready, .inl rfl, by simp [Poll.receive, answeredIndex?, h]⟩
    · exact ⟨.ready, .inl rfl, by simp [Poll.receive, answeredIndex?, h]⟩

/-- What is delivered is the value of an entry with a new index, which is known from then on. -/
theorem receive_news :
    (∃ e, a = .ok (some e) ∧ e.modifyIndex ≠ l.poll.lastIndex ∧
      (l.receive now a).2 = some e.value ∧
      (l.receive now a).1.poll = { l.poll with lastIndex := e.modifyIndex }) ∨
    ((l.receive now a).2 = none ∧ (l.receive now a).1.poll = l.poll) := by
  unfold receive
  rcases a with e | _ | e
  · exact .inr ⟨rfl, rfl⟩
  · exact .inr ⟨rfl, rfl⟩
  · by_cases h : e.modifyIndex = l.poll.lastIndex
    · exact .inr (by simp [Poll.receive, h])
    · exact .inl ⟨e, rfl, h, by simp [Poll.receive, h]⟩

end Receive

/-! ### Runs -/

/-- The request that a loop waits to be answered. -/
def pending (l : WatchLoop) : List LoopEvent :=
  match l.state with
  | .asking _ => [.request l.poll.key l.poll.query]
  | _ => []

/-- A loop that began with a poll and has not been told to stop: what has been seen of it are rounds
and the request under way. -/
structure InRounds (p : Poll) (log : List LoopEvent) (l : WatchLoop) : Prop where
  goes : l.stopping = false
  alive : l.isEnded = false
  poll : l.poll = { p with lastIndex := p.indexAfter (answers log) }
  log : log = p.rounds (answers log) ++ l.pending

namespace InRounds

variable {p : Poll} {log es : List LoopEvent} {l l' : WatchLoop}

theorem start (p : Poll) : InRounds p [] (.start p) := ⟨rfl, rfl, rfl, rfl⟩

/-- Without an answer, rounds go on with the request that begins to wait for one. -/
theorem quiet (h : InRounds p log l) (hgoes : l'.stopping = false) (halive : l'.isEnded = false)
    (hpoll : l'.poll = l.poll) (hpending : l'.pending = l.pending ++ es)
    (hnone : answers es = []) : InRounds p (log ++ es) l' := by
  have hanswers : answers (log ++ es) = answers log := by
    rw [answers_append, hnone, List.append_nil]
  refine ⟨hgoes, halive, ?_, ?_⟩
  · rw [hanswers, hpoll]
    exact h.poll
  · rw [hanswers, hpending, ← List.append_assoc, ← h.log]

theorem receive (h : InRounds p log l) (asked : List LoopEvent)
    (hasked : l.pending ++ asked = [.request l.poll.key l.poll.query]) (now : Nat)
    (a : ReadAnswer) :
    InRounds p (log ++ (asked ++ l.shown now (.answered a))) (l.receive now a).1 := by
  obtain ⟨hgoes, -, hpoll, hlog⟩ := h
  obtain ⟨s, hs, hreceive⟩ := l.receive_cases now a
  -- What is asked now is at most a request.
  have hnone : answers asked = [] := by
    have h : answers (l.pending ++ asked) = [] := by rw [hasked]; rfl
    rw [answers_append] at h
    exact (List.append_eq_nil_iff.mp h).2
  have hanswers : answers (log ++ (asked ++ l.shown now (.answered a))) = answers log ++ [a] := by
    rw [answers_append, answers_append, hnone, answers_shown, List.nil_append]
  have hpending : (l.receive now a).1.pending = [] := by
    rw [hreceive]
    rcases hs with rfl | ⟨t, rfl⟩ <;> rfl
  refine ⟨?_, ?_, ?_, ?_⟩
  · rw [hreceive]
    exact hgoes
  · rw [hreceive]
    rcases hs with rfl | ⟨t, rfl⟩ <;> rfl
  · rw [hanswers, Poll.indexAfter_concat, hreceive, hpoll]
  · rw [hanswers, Poll.rounds_concat, hpending, List.append_nil]
    calc log ++ (asked ++ l.shown now (.answered a))
        = (p.rounds (answers log) ++ l.pending) ++ (asked ++ l.shown now (.answered a)) := by
          rw [← hlog]
      _ = p.rounds (answers log) ++ ((l.pending ++ asked) ++ l.shown now (.answered a)) := by
          simp only [List.append_assoc]
      _ = p.rounds (answers log) ++ p.round (p.indexAfter (answers log)) a := by
          rw [hasked, shown_answered, hpoll]
          rfl

/-- **A turn goes on with the rounds.** -/
theorem turn (h : InRounds p log l) (hturn : Turn l es l') (hstop : .stop ∉ es) :
    InRounds p (log ++ es) l' := by
  cases hturn with
  | poll now x hgoes hstate =>
    have hpending : l.pending = [] := by simp [pending, hstate]
    cases x with
    | answered a => exact h.receive [_] (by rw [hpending]; rfl) now a
    | parked w => exact h.quiet hgoes rfl rfl (by rw [hpending]; rfl) rfl
  | look now x hgoes hstate =>
    have hpending : l.pending = [.request l.poll.key l.poll.query] := by simp [pending, hstate]
    cases x with
    | answered a => exact h.receive [] (by rw [hpending]; rfl) now a
    | parked w => exact h.quiet hgoes rfl rfl (by rw [hpending]; rfl) rfl
  | wake =>
    cases hstate : l.state with
    | asking w =>
      exact h.quiet (by simpa [wake, hstate] using h.goes) (by simp [wake, hstate, isEnded])
        (by simp [wake, hstate]) (by simp [wake, hstate, pending]) rfl
    | ready | resting | ended =>
      have hsame : l.wake = l := by simp [wake, hstate]
      rwa [hsame, List.append_nil]
  | rise hgoes hstate _ =>
    have hpending : l.pending = [] := by simp [pending, hstate]
    exact h.quiet hgoes rfl rfl (by rw [hpending]; rfl) rfl
  | stop => exact absurd (List.mem_singleton_self _) hstop
  | finish hstopping =>
    rw [h.goes] at hstopping
    cases hstopping

theorem run (h : InRounds p log l) (hrun : Recorded Turn l es l') (hstop : .stop ∉ es) :
    InRounds p (log ++ es) l' := by
  induction hrun with
  | refl => rwa [List.append_nil]
  | tail _ hstep ih =>
    rw [List.mem_append, not_or] at hstop
    rw [← List.append_assoc]
    exact (ih hstop.1).turn hstep hstop.2

theorem exists_turns (h : InRounds p log l) (a : ReadAnswer) :
    ∃ es l', Recorded Turn l es l' ∧ .stop ∉ es ∧ answers es = [a] := by
  have hanswers := l.answers_shown 0 a
  have hstop := l.stop_notMem_shown 0 a
  cases hstate : l.state with
  | ready =>
    exact ⟨_, _, .single (.poll 0 (.answered a) h.goes hstate), by simp [hstop], hanswers⟩
  | asking w => exact ⟨_, _, .single (.look 0 (.answered a) h.goes hstate), hstop, hanswers⟩
  | resting t =>
    -- The rest has to end before the next poll.
    have hrisen : Recorded Turn l [] { l with state := .ready } :=
      .single (.rise h.goes hstate (Nat.le_refl t))
    exact ⟨_, _, hrisen.tail (.poll 0 (.answered a) h.goes rfl),
      by simp [stop_notMem_shown], answers_shown _ 0 a⟩
  | ended =>
    have halive := h.alive
    simp [isEnded, hstate] at halive

/-- **No answers end a loop**, however many there are. -/
theorem exists_run (h : InRounds p log l) (as : List ReadAnswer) :
    ∃ es l', Recorded Turn l es l' ∧ .stop ∉ es ∧ answers es = as := by
  induction as generalizing log l with
  | nil => exact ⟨[], l, .refl, by simp, rfl⟩
  | cons a as ih =>
    obtain ⟨es, l', hrun, hstop, hanswers⟩ := h.exists_turns a
    obtain ⟨es', l'', hrun', hstop', hanswers'⟩ := ih (h.run hrun hstop)
    exact ⟨es ++ es', l'', hrun.trans hrun', by simp [hstop, hstop'], by
      rw [answers_append, hanswers, hanswers', List.singleton_append]⟩

end InRounds

/-! ### Turns over the store in memory -/

/-- What can be seen of a step of a loop over the store in memory. -/
def seen (l : WatchLoop) (m : Memory) (now : Nat) : List LoopEvent :=
  match l.state, l.stopping with
  | .ready, false =>
    .request l.poll.key l.poll.query ::
      l.shown now (m.ask l.poll.key (some l.poll.query) now)
  | .asking w, false => l.shown now (w.resume m now)
  | _, _ => []

theorem calls_shown (l : WatchLoop) (now : Nat) (x : Waiting) :
    calls (l.shown now x) = (l.waiting now x).2.toList := by
  cases x with
  | answered a =>
    have hresting : calls ((l.receive now a).1.resting now) = [] := by
      unfold resting
      split <;> rfl
    have hcalls : calls ((l.receive now a).2.toList.map .call) = (l.receive now a).2.toList := by
      cases (l.receive now a).2 <;> rfl
    calc calls (l.shown now (.answered a))
        = calls ((l.receive now a).2.toList.map .call) ++
            calls ((l.receive now a).1.resting now) := List.filterMap_append
      _ = (l.waiting now (.answered a)).2.toList := by
          rw [hresting, hcalls, List.append_nil]
          rfl
  | parked w => rfl

/-- **A step over the store in memory is a turn** that delivers the same. -/
theorem turn_of_step {l l' : WatchLoop} {m : Memory} {now : Nat} {v : Option Bytes}
    (h : l.step m now = some (l', v)) :
    Turn l (l.seen m now) l' ∧ calls (l.seen m now) = v.toList := by
  rcases l.step_cases h with ⟨hstopping, rfl, rfl⟩ | ⟨hgoes, t, hstate, ht, rfl, rfl⟩ |
    ⟨hgoes, hstate, hwaiting⟩ | ⟨hgoes, w, hstate, -, hwaiting⟩
  · have hseen : l.seen m now = [] := by
      unfold seen
      rw [hstopping]
      split <;> simp_all
    rw [hseen]
    exact ⟨.finish hstopping, rfl⟩
  · have hseen : l.seen m now = [] := by simp [seen, hstate]
    rw [hseen]
    exact ⟨.rise hgoes hstate ht, rfl⟩
  · have hturn := Turn.poll now (m.ask l.poll.key (some l.poll.query) now) hgoes hstate
    have hcalls := l.calls_shown now (m.ask l.poll.key (some l.poll.query) now)
    rw [hwaiting] at hturn hcalls
    simp only [seen, hstate, hgoes]
    exact ⟨hturn, hcalls⟩
  · have hturn := Turn.look now (w.resume m now) hgoes hstate
    have hcalls := l.calls_shown now (w.resume m now)
    rw [hwaiting] at hturn hcalls
    simp only [seen, hstate, hgoes]
    exact ⟨hturn, hcalls⟩

end WatchLoop

/-! ### No step is idle -/

/-- A read that goes on waiting has not been woken, and its deadline is still to come. -/
def Waiting.IsQuiet (now : Nat) : Waiting → Prop
  | .answered _ => True
  | .parked w => w.woken = false ∧ now < w.deadline

theorem Waiter.woken_of_look {w u : Waiter} {m : Memory} (h : w.look m = .parked u) :
    u.woken = false := by
  unfold look at h
  split at h
  · cases h
  · split at h <;> cases h
    rfl

theorem Waiter.isQuiet_resume (w : Waiter) (m : Memory) (now : Nat) :
    (w.resume m now).IsQuiet now := by
  have hwoken : ∀ u, (if w.woken then w.look m else .parked w) = .parked u → u.woken = false := by
    intro u hu
    split at hu
    · exact woken_of_look hu
    · rename_i hw
      cases hu
      exact Bool.eq_false_iff.mpr hw
  unfold resume
  dsimp only
  split
  · trivial
  · rename_i u hu
    split
    · trivial
    · rename_i hlate
      exact ⟨hwoken u hu, Nat.lt_of_not_le hlate⟩

theorem Memory.isQuiet_ask (m : Memory) (key : String) (q : Option Query) (now : Nat) :
    (m.ask key q now).IsQuiet now := by
  unfold ask
  split
  · trivial
  · exact Waiter.isQuiet_resume _ m now

namespace WatchLoop

/-- Whether a loop has something to do at a time: nothing holds it back, it has been woken, or the
time that it waits for has come. -/
def IsDue (l : WatchLoop) (now : Nat) : Prop :=
  match l.state with
  | .ready => True
  | .asking w => w.woken = true ∨ w.deadline ≤ now
  | .resting t => t ≤ now
  | .ended => False

section Due

variable {l l' : WatchLoop} {m : Memory} {now : Nat} {v : Option Bytes}

/-- A loop stands still just if it has ended, or if it has nothing to do and is not told to stop. -/
theorem step_eq_none_iff :
    l.step m now = none ↔ l.isEnded = true ∨ l.stopping = false ∧ ¬l.IsDue now := by
  unfold step isEnded IsDue
  cases l.state <;> cases l.stopping <;> simp

/-- Going on with a poll brings an answer or leaves nothing to do. -/
theorem answers_or_not_isDue_waiting (l : WatchLoop) {x : Waiting} (hx : x.IsQuiet now) :
    answers (l.shown now x) ≠ [] ∨ ¬(l.waiting now x).1.IsDue now := by
  cases x with
  | answered a =>
    left
    rw [answers_shown]
    exact List.cons_ne_nil a []
  | parked w =>
    obtain ⟨hwoken, hdeadline⟩ := hx
    right
    simp only [waiting, IsDue, hwoken, Bool.false_eq_true, false_or]
    omega

/-- **No step is idle**: it brings an answer, it leaves nothing to do at that time, or it ends a
rest. -/
theorem step_not_idle (h : l.step m now = some (l', v)) :
    answers (l.seen m now) ≠ [] ∨ ¬l'.IsDue now ∨
      (∃ t, l.state = .resting t) ∧ l'.state = .ready := by
  rcases l.step_cases h with ⟨-, rfl, -⟩ | ⟨-, t, hstate, -, rfl, -⟩ |
    ⟨hgoes, hstate, hwaiting⟩ | ⟨hgoes, w, hstate, -, hwaiting⟩
  · exact .inr (.inl id)
  · exact .inr (.inr ⟨⟨t, hstate⟩, rfl⟩)
  · have hprogress := l.answers_or_not_isDue_waiting
      (m.isQuiet_ask l.poll.key (some l.poll.query) now)
    rw [hwaiting] at hprogress
    simp only [seen, hstate, hgoes]
    exact hprogress.imp id .inl
  · have hprogress := l.answers_or_not_isDue_waiting (w.isQuiet_resume m now)
    rw [hwaiting] at hprogress
    simp only [seen, hstate, hgoes]
    exact hprogress.imp id .inl

end Due

end WatchLoop

/-- **The loop of a watch goes in rounds**, whatever a store answers and however long it takes.  As
long as it is not told to stop it does not end, and what can be seen of it is a round for each
answer so far and the request under way.  Each request has the index of the last entry before it; a
new index is delivered once, with its value, and only an answer without an entry is followed by a
rest, of the time that the options say.  Any answers may come next and are received.  Over the store
in memory a loop stands still only if it has nothing to do, and a step is a turn of this kind that
gets on: it brings an answer, it leaves nothing to do at that time, or it ends a rest. -/
theorem loop_goes_in_rounds :
    (∀ (p : Poll) (log : List LoopEvent) (l : WatchLoop),
      Recorded WatchLoop.Turn (.start p) log l → .stop ∉ log →
      l.isEnded = false ∧ log = p.rounds (answers log) ++ l.pending ∧
        l.poll = { p with lastIndex := p.indexAfter (answers log) } ∧
        ∀ as, ∃ log' l', Recorded WatchLoop.Turn l log' l' ∧ .stop ∉ log' ∧ answers log' = as) ∧
    (∀ (l : WatchLoop) (m : Memory) (now : Nat),
      l.step m now = none ↔ l.isEnded = true ∨ l.stopping = false ∧ ¬l.IsDue now) ∧
    ∀ (l l' : WatchLoop) (m : Memory) (now : Nat) (v : Option Bytes),
      l.step m now = some (l', v) →
      l.Turn (l.seen m now) l' ∧ calls (l.seen m now) = v.toList ∧
        (answers (l.seen m now) ≠ [] ∨ ¬l'.IsDue now ∨
          (∃ t, l.state = .resting t) ∧ l'.state = .ready) := by
  refine ⟨fun p log l hrun hstop => ?_, fun l m now => WatchLoop.step_eq_none_iff,
    fun l l' m now v h => ?_⟩
  · have h : WatchLoop.InRounds p log l := (WatchLoop.InRounds.start p).run hrun hstop
    exact ⟨h.alive, h.log, h.poll, h.exists_run⟩
  · obtain ⟨hturn, hcalls⟩ := WatchLoop.turn_of_step h
    exact ⟨hturn, hcalls, WatchLoop.step_not_idle h⟩

/-- Five answers: a new entry, none, an error, the same entry again and an older one; and over the
store in memory a first step, which has something to do and delivers what is there. -/
theorem loop_goes_in_rounds_of_five_answers :
    let p : Poll := ⟨"k", .usual, 2⟩
    let e (n : Nat) (v : Bytes) : ReadAnswer := .ok (some ⟨"k", 1, n, 0, 0, v, none⟩)
    let down : ReadAnswer := .error (.transport "down")
    let m := Memory.empty.act (.put "k" [7])
    (∃ log l, Recorded WatchLoop.Turn (.start p) log l ∧ .stop ∉ log ∧
      log = [.request "k" ⟨2, .ofSeconds 600⟩, .answer (e 3 [7]), .call [7],
        .request "k" ⟨3, .ofSeconds 600⟩, .answer (.ok none), .rest (Span.ofSeconds 10).ticks,
        .request "k" ⟨3, .ofSeconds 600⟩, .answer down, .rest (Span.ofSeconds 10).ticks,
        .request "k" ⟨3, .ofSeconds 600⟩, .answer (e 3 [7]),
        .request "k" ⟨3, .ofSeconds 600⟩, .answer (e 1 [8]), .call [8]] ++ l.pending) ∧
    ∃ l', (WatchLoop.start p).step m 0 = some (l', some [7]) ∧
      (WatchLoop.start p).Turn ((WatchLoop.start p).seen m 0) l' ∧
      calls ((WatchLoop.start p).seen m 0) = [[7]] := by
  intro p e down m
  obtain ⟨hrounds, hstill, hsteps⟩ := loop_goes_in_rounds
  constructor
  · obtain ⟨-, -, -, hany⟩ := hrounds p [] (.start p) .refl (by simp)
    obtain ⟨log, l, hrun, hstop, hanswers⟩ := hany [e 3 [7], .ok none, down, e 3 [7], e 1 [8]]
    obtain ⟨-, hlog, -⟩ := hrounds p log l hrun hstop
    rw [hanswers] at hlog
    exact ⟨log, l, hrun, hstop, hlog⟩
  · have hnone : (WatchLoop.start p).step m 0 ≠ none := by
      rw [Ne, hstill]
      simp [WatchLoop.start, WatchLoop.isEnded, WatchLoop.IsDue]
    obtain ⟨⟨l', v⟩, hstep⟩ := Option.ne_none_iff_exists'.mp hnone
    obtain ⟨hturn, hcalls, -⟩ := hsteps _ _ _ _ _ hstep
    have hv : v = some [7] := by
      have hnews : ((WatchLoop.start p).step m 0).map (·.2) = some (some [7]) := by decide +kernel
      rw [hstep] at hnews
      exact Option.some.inj hnews
    subst hv
    exact ⟨l', hstep, hturn, hcalls⟩

end LiveConfig
