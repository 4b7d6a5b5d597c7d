import LiveConfig.Proofs.LoopActions
import LiveConfig.Proofs.StoppedTasks

/-!
Stopping a watch.

Whoever holds a watch may tell it to stop, let it go, or shut it down and wait for its end, and the
loop may be anywhere then.  From that moment on it has few actions left: it asks once more at most,
it delivers one more value at most, and every action brings it nearer to its end.  Main statement:
`stop_ends_loop`.
-/

namespace LiveConfig

def LoopEvent.query? : LoopEvent → Option Query
  | request _ q => some q
  | _ => none

def polls (es : List LoopEvent) : List Query := es.filterMap LoopEvent.query?

section Lists

variable (es es' : List LoopEvent) (e : LoopEvent)

@[simp] theorem calls_append : calls (es ++ es') = calls es ++ calls es' := List.filterMap_append

@[simp] theorem polls_append : polls (es ++ es') = polls es ++ polls es' := List.filterMap_append

@[simp] theorem calls_singleton : calls [e] = e.call?.toList := by
  cases h : e.call? <;> simp [calls, h]

@[simp] theorem polls_singleton : polls [e] = e.query?.toList := by
  cases h : e.query? <;> simp [polls, h]

end Lists

/-! ### What is left to a loop that stops -/

namespace LoopPlace

/-- How many values a loop that stops may still deliver. -/
def callsLeft : LoopPlace → Nat
  | cleared | asking | holding _ => 1
  | _ => 0

/-- How many requests a loop that stops may still issue. -/
def pollsLeft : LoopPlace → Nat
  | cleared => 1
  | _ => 0

/-- How many actions a loop that stops may still take. -/
def actionsLeft : LoopPlace → Nat
  | cleared => 5
  | asking => 4
  | holding _ => 3
  | calling _ | resting => 2
  | top => 1
  | ended => 0

theorem callsLeft_le (x : LoopPlace) : x.callsLeft ≤ 1 := by
  unfold callsLeft
  split <;> decide

theorem pollsLeft_le (x : LoopPlace) : x.pollsLeft ≤ 1 := by
  unfold pollsLeft
  split <;> decide

end LoopPlace

namespace LoopTask

variable {t t' : LoopTask} {es : List LoopEvent}

/-- What is seen of a loop that stops is taken from what is left to it. -/
structure Spends (t : LoopTask) (es : List LoopEvent) (t' : LoopTask) : Prop where
  stopping : t'.stopping = true
  calls : (calls es).length + t'.place.callsLeft ≤ t.place.callsLeft
  polls : (polls es).length + t'.place.pollsLeft ≤ t.place.pollsLeft

/-- **An action of a loop that stops** is taken from what is left to it. -/
theorem Acts.spends (h : Acts t es t') (hs : t.stopping = true) :
    Spends t es t' ∧ t'.place.actionsLeft < t.place.actionsLeft := by
  cases h with
  | pass => cases hs
  | @heed p place h =>
    cases place with
    | cleared | asking | resting =>
      exact ⟨⟨rfl, Nat.zero_le _, Nat.zero_le _⟩, by simp [LoopPlace.actionsLeft]⟩
    | top | holding | calling | ended => cases h
  | leave | again | called | rise =>
    exact ⟨⟨hs, Nat.zero_le _, Nat.zero_le _⟩, by simp [LoopPlace.actionsLeft]⟩
  | ask | take | call | rest =>
    refine ⟨⟨hs, ?_, ?_⟩, ?_⟩
    · simp [LoopEvent.call?, LoopPlace.callsLeft]
    · simp [LoopEvent.query?, LoopPlace.pollsLeft]
    · simp [LoopPlace.actionsLeft]

theorem Step.spends (h : Step t es t') (hs : t.stopping = true) : Spends t es t' := by
  cases h with
  | act h => exact (h.spends hs).1
  | stop =>
    refine ⟨rfl, ?_, ?_⟩
    · rw [calls_singleton]
      exact Nat.le_of_eq (Nat.zero_add _)
    · rw [polls_singleton]
      exact Nat.le_of_eq (Nat.zero_add _)

theorem Spends.trans {t'' : LoopTask} {es' : List LoopEvent} (h : Spends t es t')
    (h' : Spends t' es' t'') : Spends t (es ++ es') t'' := by
  have hcalls := h.calls
  have hcalls' := h'.calls
  have hpolls := h.polls
  have hpolls' := h'.polls
  refine ⟨h'.stopping, ?_, ?_⟩
  · rw [calls_append, List.length_append]
    omega
  · rw [polls_append, List.length_append]
    omega

/-- **A loop that stops** never has more than is left to it. -/
theorem spends_of_run (hrun : Recorded Step t es t') (hs : t.stopping = true) : Spends t es t' := by
  induction hrun with
  | refl => exact ⟨hs, Nat.le_of_eq (Nat.zero_add _), Nat.le_of_eq (Nat.zero_add _)⟩
  | tail _ hstep ih => exact ih.trans (hstep.spends ih.stopping)

/-- After the signal there is at most one more value and at most one more request. -/
theorem few_after_stop {log before after : List LoopEvent} (hrun : Recorded Step t log t')
    (hlog : log = before ++ .stop :: after) :
    t'.stopping = true ∧ (calls after).length ≤ 1 ∧ (polls after).length ≤ 1 := by
  rw [hlog] at hrun
  obtain ⟨y, y', -, hstop, hafter⟩ := hrun.cut Step.length_le
  have hs : y'.stopping = true := by
    cases hstop with
    | stop => rfl
    | act h => cases h
  have hspends := spends_of_run hafter hs
  have hcalls := hspends.calls
  have hpolls := hspends.polls
  have hcallsLeft := y'.place.callsLeft_le
  have hpollsLeft := y'.place.pollsLeft_le
  exact ⟨hspends.stopping, by omega, by omega⟩

/-- **Until its end, a loop that stops can always act**, and without an answer of the store. -/
theorem exists_act_of_stopping (hs : t.stopping = true) (halive : t.place ≠ .ended) :
    ∃ es t', Acts t es t' ∧ answers es = [] := by
  obtain ⟨p, place, stopping⟩ := t
  cases hs
  cases place with
  | top => exact ⟨_, _, .leave, rfl⟩
  | cleared | asking | resting => exact ⟨_, _, .heed rfl, rfl⟩
  | calling next => exact ⟨_, _, .called, rfl⟩
  | ended => exact absurd rfl halive
  | holding a =>
    cases hreceive : p.receive a with
    | mk reaction next =>
      cases reaction with
      | again => exact ⟨_, _, .again hreceive, rfl⟩
      | deliver v => exact ⟨_, _, .call hreceive, rfl⟩
      | rest => exact ⟨_, _, .rest hreceive, rfl⟩

/-- **A loop that stops gets to its end**, and needs no answer of the store for that. -/
theorem exists_end_of_stopping (hs : t.stopping = true) :
    ∃ es t', Recorded Acts t es t' ∧ t'.place = .ended ∧ answers es = [] := by
  generalize hleft : t.place.actionsLeft = n
  induction n using Nat.strongRecOn generalizing t with
  | _ n ih =>
    by_cases hended : t.place = .ended
    · exact ⟨[], t, .refl, hended, rfl⟩
    · obtain ⟨es, u, hact, hnone⟩ := exists_act_of_stopping hs hended
      obtain ⟨hspends, hless⟩ := hact.spends hs
      obtain ⟨es', v, hrun, hplace, hnone'⟩ := ih _ (hleft ▸ hless) hspends.stopping rfl
      refine ⟨es ++ es', v, .head hact hrun, hplace, ?_⟩
      rw [answers_append, hnone, hnone']
      rfl

theorem Acts.stopping_eq (h : Acts t es t') : t'.stopping = t.stopping := by
  cases h <;> rfl

theorem not_acts_of_ended (h : t.place = .ended) : ¬ Acts t es t' := by
  rintro (_ | _ | _ | _ | _ | _ | _ | _ | _ | hlistens) <;> cases h
  cases hlistens

end LoopTask

/-! ### Those who hold a watch -/

/-- What has become of the handle of a watch. -/
inductive HandlePlace where
  | held
  | gone
  /-- In a shutdown that waits for the end of the loop. -/
  | awaiting
  /-- The shutdown has returned. -/
  | returned

/-- The loop of a watch with its handle. -/
structure Handled where
  task : LoopTask
  handle : HandlePlace

namespace Handled

def start (p : Poll) : Handled := ⟨.start p, .held⟩

/-- An action of the loop, or something that is done with the handle.  A handle that goes tells the
loop to stop, also at the end of a shutdown. -/
inductive Step : Handled → List LoopEvent → Handled → Prop
  | act {t es t' h} (hact : LoopTask.Acts t es t') : Step ⟨t, h⟩ es ⟨t', h⟩
  | stop {t} : Step ⟨t, .held⟩ [.stop] ⟨t.stop, .held⟩
  | drop {t} : Step ⟨t, .held⟩ [.stop] ⟨t.stop, .gone⟩
  | shutdown {t} : Step ⟨t, .held⟩ [.stop] ⟨t.stop, .awaiting⟩
  | cancel {t} : Step ⟨t, .awaiting⟩ [.stop] ⟨t.stop, .gone⟩
  | finish {t} (h : t.place = .ended) : Step ⟨t, .awaiting⟩ [.stop] ⟨t.stop, .returned⟩

variable {x y : Handled} {es : List LoopEvent}

theorem Step.task (h : Step x es y) : LoopTask.Step x.task es y.task := by
  cases h with
  | act hact => exact .act hact
  | stop | drop | shutdown | cancel | finish => exact .stop

theorem recorded_task (h : Recorded Step x es y) :
    Recorded LoopTask.Step x.task es y.task := by
  induction h with
  | refl => exact .refl
  | tail _ hstep ih => exact ih.tail hstep.task

theorem recorded_acts {t t' : LoopTask} (h : Recorded LoopTask.Acts t es t')
    (handle : HandlePlace) : Recorded Step ⟨t, handle⟩ es ⟨t', handle⟩ := by
  induction h with
  | refl => exact .refl
  | tail _ hact ih => exact ih.tail (.act hact)

/-- A shutdown has told the loop to stop, and has waited for its end when it returns. -/
structure Awaited (x : Handled) : Prop where
  told : x.handle = .awaiting → x.task.stopping = true
  ended : x.handle = .returned → x.task.place = .ended

theorem Awaited.step (h : x.Awaited) (hstep : Step x es y) : y.Awaited := by
  cases hstep with
  | act hact =>
    refine ⟨fun hawaiting => hact.stopping_eq.trans (h.told hawaiting), fun hreturned => ?_⟩
    exact absurd hact (LoopTask.not_acts_of_ended (h.ended hreturned))
  | finish hended => exact ⟨nofun, fun _ => hended⟩
  | shutdown => exact ⟨fun _ => rfl, nofun⟩
  | stop | drop | cancel => exact ⟨nofun, nofun⟩

theorem Awaited.run (h : x.Awaited) (hrun : Recorded Step x es y) : y.Awaited := by
  induction hrun with
  | refl => exact h
  | tail _ hstep ih => exact ih.step hstep

/-- A shutdown that waits gets to its return, and needs no answer of the store for that. -/
theorem exists_return (h : x.Awaited) (hawaiting : x.handle = .awaiting) :
    ∃ es y, Recorded Step x es y ∧ y.handle = .returned ∧ answers es = [] := by
  obtain ⟨es, t, hrun, hended, hnone⟩ := LoopTask.exists_end_of_stopping (h.told hawaiting)
  have hacts : Recorded Step x es ⟨t, .awaiting⟩ := hawaiting ▸ recorded_acts hrun x.handle
  refine ⟨es ++ [.stop], _, hacts.tail (.finish hended), rfl, ?_⟩
  rw [answers_append, hnone]
  rfl

theorem not_step_of_returned (h : x.Awaited) (hreturned : x.handle = .returned) :
    ¬ Step x es y := by
  intro hstep
  cases hstep with
  | act hact => exact LoopTask.not_acts_of_ended (h.ended hreturned) hact
  | stop | drop | shutdown | cancel | finish => cases hreturned

theorem eq_of_returned (h : x.Awaited) (hreturned : x.handle = .returned)
    (hrun : Recorded Step x es y) : es = [] ∧ y = x := by
  rcases hrun.cases_head with hend | ⟨_, _, _, hstep, -⟩
  · exact hend
  · exact absurd hstep (not_step_of_returned h hreturned)

end Handled

/-! ### The end of a session's watch -/

/-- A watch of a session that somebody waits for has ended after that. -/
theorem Session.halted_awaitWatcher {s : Session} {id : Nat} {w : Watcher} {l : WatchLoop}
    {target : Target} (hw : s.watchers[id]? = some w) (hheld : w.held = true)
    (hl : s.tasks[w.task]? = some (.watch l target)) :
    (s.awaitWatcher id).Halted w.task target := by
  have hrelease : (s.releaseWatcher id).Stopping w.task target := by
    unfold releaseWatcher stopWatcher
    rw [hw]
    dsimp only
    rw [if_pos hheld]
    exact stopping_stopTask hl
  unfold awaitWatcher
  rw [hw]
  dsimp only
  rw [if_pos hheld]
  exact hrelease.settle

/-! ### Every point in time -/

/-- **A signal to stop ends the loop of a watch**, wherever the loop is and whatever the store does.
After it at most one more value is delivered and at most one more request is issued, and every
action of the loop leaves it fewer.  A shutdown that waits gets to its return without any answer;
when it has returned the loop has ended, and nothing comes after that.  A step over the store in
memory is made of these actions; a watch of a session that somebody waits for has ended, and does
nothing more in whatever session it is found so. -/
theorem stop_ends_loop :
    (∀ (p : Poll) (log : List LoopEvent) (x : Handled), Recorded Handled.Step (.start p) log x →
      (∀ before after, log = before ++ .stop :: after →
        (calls after).length ≤ 1 ∧ (polls after).length ≤ 1 ∧
        ∀ es t, x.task.Acts es t → t.place.actionsLeft < x.task.place.actionsLeft) ∧
      (x.handle = .awaiting →
        ∃ es y, Recorded Handled.Step x es y ∧ y.handle = .returned ∧ answers es = []) ∧
      (x.handle = .returned →
        x.task.place = .ended ∧ ∀ log' y, Recorded Handled.Step x log' y → log' = [] ∧ y = x)) ∧
    (∀ (l l' : WatchLoop) (m : Memory) (now : Nat) (v : Option Bytes),
      l.step m now = some (l', v) → Recorded LoopTask.Step l.task (l.seen m now) l'.task) ∧
    (∀ (s : Session) (id : Nat) (w : Watcher) (l : WatchLoop) (target : Target),
      s.watchers[id]? = some w → w.held = true → s.tasks[w.task]? = some (.watch l target) →
      (s.awaitWatcher id).Halted w.task target) ∧
    ∀ (s : Session) (task : Nat) (target : Target), s.Halted task target →
      s.stepTask task = none := by
  refine ⟨fun p log x hrun => ?_, fun l l' m now v => WatchLoop.recorded_of_step,
    fun s id w l target => Session.halted_awaitWatcher, fun s task target h => h.stepTask⟩
  have hawaited : x.Awaited := Handled.Awaited.run (x := .start p) ⟨nofun, nofun⟩ hrun
  refine ⟨fun before after hlog => ?_, Handled.exists_return hawaited, fun hreturned =>
    ⟨hawaited.ended hreturned, fun log' y => Handled.eq_of_returned hawaited hreturned⟩⟩
  obtain ⟨hs, hcalls, hpolls⟩ := LoopTask.few_after_stop (Handled.recorded_task hrun) hlog
  exact ⟨hcalls, hpolls, fun es t hact => (hact.spends hs).2⟩

/-- A shutdown that begins while the loop has an answer in hand: the value is still delivered, and
then the loop ends.  So does the watch of a session that somebody waits for before its first poll.
-/
theorem stop_ends_loop_with_answer_in_hand :
    let p : Poll := ⟨"k", .usual, 1⟩
    let e : Pair := ⟨"k", 1, 2, 0, 0, [7], none⟩
    let s : Session := { Session.start (.ofList []) ⟨[]⟩ with
      tasks := #[.watch (.start p) (.watcher 0)], watchers := #[⟨0, [], true⟩] }
    (∃ x, Recorded Handled.Step (.start p)
        [.request "k" p.query, .answer (.ok (some e)), .stop, .call [7], .stop] x ∧
      x.handle = .returned ∧ x.task.place = .ended ∧
      (∀ log' y, Recorded Handled.Step x log' y → log' = [] ∧ y = x) ∧
      (calls [LoopEvent.call [7], .stop]).length ≤ 1) ∧
    (s.awaitWatcher 0).Halted 0 (.watcher 0) ∧ (s.awaitWatcher 0).stepTask 0 = none := by
  intro p e s
  have hreceive : p.receive (.ok (some e)) = (.deliver [7], { p with lastIndex := 2 }) := by decide
  have hasks :
      Recorded Handled.Step (.start p) [.request "k" p.query] ⟨⟨p, .asking, false⟩, .held⟩ :=
    (Recorded.single (Handled.Step.act .pass)).tail (.act .ask)
  have hstops := (hasks.tail (.act (.take (.ok (some e))))).tail .shutdown
  have hends := ((hstops.tail (.act (.call hreceive))).tail (.act .called)).tail (.act .leave)
  rw [List.append_nil, List.append_nil] at hends
  have hreturns := hends.tail (.finish rfl)
  obtain ⟨hruns, -, hawait, hhalted⟩ := stop_ends_loop
  obtain ⟨hfew, -, hfinal⟩ := hruns p _ _ hreturns
  obtain ⟨hended, hnothing⟩ := hfinal rfl
  have hsession := hawait s 0 ⟨0, [], true⟩ (.start p) (.watcher 0) rfl rfl rfl
  exact ⟨⟨_, hreturns, rfl, hended, hnothing,
    (hfew [.request "k" p.query, .answer (.ok (some e))] [.call [7], .stop] rfl).1⟩,
    hsession, hhalted _ _ _ hsession⟩

end LiveConfig
