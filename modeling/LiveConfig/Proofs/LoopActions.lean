import LiveConfig.Proofs.PollRounds

/-!
The loop of a watch, action by action.

A turn of a loop is one thing for the loop, but not for those who tell it to stop: their signal may
come between any two of its actions, also while it has an answer in hand or a callback runs.
`LoopTask.Acts` says what a loop may do next, over any store.  When an answer and the signal are
both there it may go on with either of them.  Main statement: `WatchLoop.Turn.recorded`, a turn is
made of such actions.
-/

namespace LiveConfig

/-- Where the loop of a watch stands between two actions. -/
inductive LoopPlace where
  /-- In front of its look at the stop signal. -/
  | top
  /-- Past that look. -/
  | cleared
  /-- Waiting for the answer to a poll. -/
  | asking
  /-- With an answer in hand. -/
  | holding (a : ReadAnswer)
  /-- While the callback runs, with the polling after it. -/
  | calling (next : Poll)
  | resting
  | ended

/-- Whether the loop waits there for the stop signal, too. -/
def LoopPlace.listens : LoopPlace → Bool
  | cleared | asking | resting => true
  | _ => false

/-- The loop of a watch between two actions. -/
structure LoopTask where
  poll : Poll
  place : LoopPlace
  /-- Whether the loop has been told to stop. -/
  stopping : Bool

namespace LoopTask

/-- A loop in front of its first poll. -/
def start (p : Poll) : LoopTask := ⟨p, .top, false⟩

def stop (t : LoopTask) : LoopTask := { t with stopping := true }

/-- An action of the loop, with what can be seen of it. -/
inductive Acts : LoopTask → List LoopEvent → LoopTask → Prop
  | leave {p} : Acts ⟨p, .top, true⟩ [] ⟨p, .ended, true⟩
  | pass {p} : Acts ⟨p, .top, false⟩ [] ⟨p, .cleared, false⟩
  | ask {p s} : Acts ⟨p, .cleared, s⟩ [.request p.key p.query] ⟨p, .asking, s⟩
  | take {p s} (a : ReadAnswer) : Acts ⟨p, .asking, s⟩ [.answer a] ⟨p, .holding a, s⟩
  | again {p p' s a} (h : p.receive a = (.again, p')) :
      Acts ⟨p, .holding a, s⟩ [] ⟨p', .top, s⟩
  | call {p p' s a v} (h : p.receive a = (.deliver v, p')) :
      Acts ⟨p, .holding a, s⟩ [.call v] ⟨p, .calling p', s⟩
  | called {p p' s} : Acts ⟨p, .calling p', s⟩ [] ⟨p', .top, s⟩
  | rest {p p' s a} (h : p.receive a = (.rest, p')) :
      Acts ⟨p, .holding a, s⟩ [.rest p'.options.rest.ticks] ⟨p', .resting, s⟩
  | rise {p s} : Acts ⟨p, .resting, s⟩ [] ⟨p, .top, s⟩
  | heed {p place} (h : place.listens = true) : Acts ⟨p, place, true⟩ [] ⟨p, .ended, true⟩

/-- An action of the loop, or a signal for it to stop. -/
inductive Step : LoopTask → List LoopEvent → LoopTask → Prop
  | act {t es t'} (h : Acts t es t') : Step t es t'
  | stop {t} : Step t [.stop] t.stop

theorem Acts.length_le {t t' : LoopTask} {es : List LoopEvent} (h : Acts t es t') :
    es.length ≤ 1 := by
  cases h <;> simp only [List.length_nil, List.length_singleton, Nat.zero_le, Nat.le_refl]

theorem Step.length_le {t t' : LoopTask} {es : List LoopEvent} (h : Step t es t') :
    es.length ≤ 1 := by
  cases h with
  | act h => exact h.length_le
  | stop => exact Nat.le_refl 1

theorem recorded_ask (p : Poll) :
    Recorded Step (.start p) [.request p.key p.query] ⟨p, .asking, false⟩ :=
  (Recorded.single (Step.act .pass)).tail (.act .ask)

end LoopTask

/-! ### Turns are made of actions -/

namespace WatchLoop

def place (l : WatchLoop) : LoopPlace :=
  match l.state with
  | .ready => .top
  | .asking _ => .asking
  | .resting _ => .resting
  | .ended => .ended

def task (l : WatchLoop) : LoopTask := ⟨l.poll, l.place, l.stopping⟩

open LoopTask in
theorem recorded_receive (l : WatchLoop) (now : Nat) (a : ReadAnswer) :
    Recorded Step ⟨l.poll, .asking, l.stopping⟩ (l.shown now (.answered a))
      (l.receive now a).1.task := by
  have htake : Recorded Step ⟨l.poll, .asking, l.stopping⟩ [.answer a]
      ⟨l.poll, .holding a, l.stopping⟩ := .single (.act (.take a))
  cases hreceive : l.poll.receive a with
  | mk reaction p =>
    cases reaction with
    | again =>
      have hshown : l.shown now (.answered a) = [.answer a] ++ [] := by
        simp [shown, receive, hreceive, resting]
      rw [hshown, receive, hreceive]
      exact htake.tail (.act (.again hreceive))
    | deliver v =>
      have hshown : l.shown now (.answered a) = [.answer a] ++ [.call v] ++ [] := by
        simp [shown, receive, hreceive, resting]
      rw [hshown, receive, hreceive]
      exact (htake.tail (.act (.call hreceive))).tail (.act .called)
    | rest =>
      have hshown : l.shown now (.answered a) = [.answer a] ++ [.rest p.options.rest.ticks] := by
        simp [shown, receive, hreceive, resting]
      rw [hshown, receive, hreceive]
      exact htake.tail (.act (.rest hreceive))

open LoopTask in
/-- **A turn is made of actions**, of which the same can be seen. -/
theorem Turn.recorded {l l' : WatchLoop} {es : List LoopEvent} (h : Turn l es l') :
    Recorded Step l.task es l'.task := by
  cases h with
  | poll now x hgoes hstate =>
    have hasks : Recorded Step l.task [.request l.poll.key l.poll.query]
        ⟨l.poll, .asking, l.stopping⟩ := by
      unfold task place
      rw [hstate, hgoes]
      exact recorded_ask l.poll
    cases x with
    | answered a => exact hasks.trans (l.recorded_receive now a)
    | parked w => exact hasks
  | look now x hgoes hstate =>
    have htask : l.task = ⟨l.poll, .asking, l.stopping⟩ := by
      unfold task place
      rw [hstate]
    rw [htask]
    cases x with
    | answered a => exact l.recorded_receive now a
    | parked w => exact .refl
  | wake =>
    -- Only the waiter knows of it.
    have htask : l.wake.task = l.task := by
      unfold WatchLoop.wake
      split <;> simp [task, place, *]
    rw [htask]
    exact .refl
  | rise hgoes hstate _ =>
    unfold task place
    rw [hstate]
    exact .single (.act .rise)
  | stop => exact .single .stop
  | finish hstopping =>
    unfold task place
    rw [hstopping]
    cases hstate : l.state with
    | ready => exact .single (.act .leave)
    | asking w => exact .single (.act (.heed rfl))
    | resting t => exact .single (.act (.heed rfl))
    | ended => exact .refl

theorem recorded_of_step {l l' : WatchLoop} {m : Memory} {now : Nat} {v : Option Bytes}
    (h : l.step m now = some (l', v)) :
    Recorded LoopTask.Step l.task (l.seen m now) l'.task := (turn_of_step h).1.recorded

end WatchLoop

end LiveConfig
