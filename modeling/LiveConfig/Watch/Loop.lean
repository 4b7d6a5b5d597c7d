import LiveConfig.Remote.Memory
import LiveConfig.Watch.Poll

/-!
The loop of a watch over a store in memory, on a clock of milliseconds.

`step` does what can be done at a time: it looks at the stop signal first, then at the answer to the
poll under way, or at the end of a rest.  When both are there, another order is possible, too; it is
left to the proofs, which follow the loop action by action.
-/

namespace LiveConfig

/-- Where the loop of a watch stands. -/
inductive LoopState where
  /-- In front of a poll. -/
  | ready
  /-- Waiting for the answer to a poll. -/
  | asking (waiter : Waiter)
  /-- Resting until a time. -/
  | resting (until_ : Nat)
  | ended

/-- The loop of a watch. -/
structure WatchLoop where
  poll : Poll
  state : LoopState
  /-- Whether the loop has been told to stop. -/
  stopping : Bool

namespace WatchLoop

/-- A loop in front of its first poll. -/
def start (p : Poll) : WatchLoop := ⟨p, .ready, false⟩

/-- Tell the loop to stop. -/
def stop (l : WatchLoop) : WatchLoop := { l with stopping := true }

/-- Whether the loop has ended. -/
def isEnded (l : WatchLoop) : Bool :=
  match l.state with
  | .ended => true
  | _ => false

/-- Tell the loop that something has happened to the store. -/
def wake (l : WatchLoop) : WatchLoop :=
  match l.state with
  | .asking w => { l with state := .asking w.wake }
  | _ => l

/-- The next time at which the loop goes on by itself. -/
def timer? (l : WatchLoop) : Option Nat :=
  match l.state with
  | .asking w => some w.deadline
  | .resting t => some t
  | _ => none

/-- Go on with the answer to a poll at a time; what is delivered comes with it. -/
def receive (l : WatchLoop) (now : Nat) (a : ReadAnswer) : WatchLoop × Option Bytes :=
  match l.poll.receive a with
  | (.again, p) => ({ l with poll := p, state := .ready }, none)
  | (.deliver v, p) => ({ l with poll := p, state := .ready }, some v)
  | (.rest, p) => ({ l with poll := p, state := .resting (now + p.options.rest.ticks) }, none)

/-- Go on with a poll under way. -/
def waiting (l : WatchLoop) (now : Nat) : Waiting → WatchLoop × Option Bytes
  | .answered a => l.receive now a
  | .parked w => ({ l with state := .asking w }, none)

/-- What the loop does at a time, and what it delivers; `none` if it has to wait. -/
def step (l : WatchLoop) (m : Memory) (now : Nat) : Option (WatchLoop × Option Bytes) :=
  match l.state with
  | .ended => none
  | .ready =>
    if l.stopping then some ({ l with state := .ended }, none)
    else some (l.waiting now (m.ask l.poll.key (some l.poll.query) now))
  | .asking w =>
    if l.stopping then some ({ l with state := .ended }, none)
    else if w.woken ∨ w.deadline ≤ now then some (l.waiting now (w.resume m now))
    else none
  | .resting t =>
    if l.stopping then some ({ l with state := .ended }, none)
    else if t ≤ now then some ({ l with state := .ready }, none)
    else none

end WatchLoop

end LiveConfig
