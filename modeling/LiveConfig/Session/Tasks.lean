import LiveConfig.Session.Basic

/-!
What goes on in the background of a session.

`stepTask` is what one task does now.  `settle` lets each task do all that it can, in turn, until
all of them have to wait.
-/

namespace LiveConfig

namespace Session

/-- Take a value over into a store: first the callback is told, then the subscribers. -/
def applyRemote (s : Session) (id : Nat) (value : Bytes) : Session :=
  match s.stores[id]? with
  | none => s
  | some l =>
    if !s.isHeld id then s
    else
      let (store, event) := l.store.applyRemote value
      match event with
      | none => s.modifyStore id fun l => { l with store }
      | some e =>
        let s := s.modifyStore id fun l => { l with store, channel := l.channel.send e }
        match e, l.callback with
        | .changed _ changes, some callback => { s with calls := s.calls ++ [⟨callback, changes⟩] }
        | _, _ => s

/-- Deliver a value of a watch. -/
def deliver (s : Session) (target : Target) (value : Bytes) : Session :=
  match target with
  | .store id => s.applyRemote id value
  | .watcher id =>
    { s with watchers := s.watchers.modify id fun w => { w with seen := w.seen ++ [value] } }

/-- What a read in the background does now. -/
def stepReading (s : Session) : Reading → Option Reading
  | .fresh key query =>
    match s.memory.ask key query s.now with
    | .answered a => some (.answered a 0)
    | .parked w => some (.waiting w s.now)
  | .waiting w since =>
    if w.woken ∨ w.deadline ≤ s.now then
      match w.resume s.memory s.now with
      | .answered a => some (.answered a (s.now - since))
      | .parked w => some (.waiting w since)
    else none
  | _ => none

/-- What stands in place of the time of day: the hours, minutes and seconds of nobody's clock. -/
def clockPattern : String := "HH:MM:SS"

/-- Print what the watch command receives, at most `fuel` events. -/
def followEvents (c : Channel) : Nat → Nat → Output → Nat × Output
  | 0, next, o => (next, o)
  | fuel + 1, next, o =>
    match c.receive next with
    | some (r, next) => followEvents c fuel next (o.received clockPattern r)
    | none => (next, o)

/-- What the watch command does now. -/
def stepFollower (s : Session) (f : Follower) : Option Follower :=
  match s.stores[f.store]? with
  | none => none
  | some l =>
    match f.state with
    | .fresh =>
      if s.isWatching f.store then
        some { f with
          state := .subscribed l.channel.sent.size
          output := f.output.watchStarted }
      else
        some { f with
          state := .finished
          output := f.output.nothingToWatch }
    | .subscribed next =>
      if next < l.channel.sent.size then
        let (next, output) := followEvents l.channel (l.channel.sent.size + 1) next f.output
        some { f with state := .subscribed next, output }
      else none
    | .finished => none

/-- What a task does now; `none` if it has to wait. -/
def stepTask (s : Session) (id : Nat) : Option Session :=
  match s.tasks[id]? with
  | none => none
  | some (.watch l target) =>
    match l.step s.memory s.now with
    | none => none
    | some (l, value) =>
      let s := s.modifyTask id fun _ => .watch l target
      some (match value with
        | some v => s.deliver target v
        | none => s)
  | some (.read r) => (s.stepReading r).map fun r => s.modifyTask id fun _ => .read r
  | some (.follow f) =>
    (s.stepFollower f).map fun f => (s.modifyTask id fun _ => .follow f).release

/-- Let a task go on until it has to wait, for at most `fuel` steps. -/
def runTask (id : Nat) : Nat → Session → Session
  | 0, s => s
  | fuel + 1, s =>
    match s.stepTask id with
    | none => s
    | some s => runTask id fuel s

/-- How many steps a task takes before the next one has its turn. -/
def turn : Nat := 64

/-- Let each task have its turn. -/
def runAll (s : Session) : Session :=
  (List.range s.tasks.size).foldl (fun s id => runTask id turn s) s

/-- Whether every task has to wait. -/
def isIdle (s : Session) : Bool := (List.range s.tasks.size).all fun id => (s.stepTask id).isNone

/-- Let the tasks go on until all of them wait, for at most `fuel` rounds. -/
def settleWithin : Nat → Session → Session
  | 0, s => s
  | fuel + 1, s => if s.isIdle then s else settleWithin fuel s.runAll

/-- Let the tasks go on until all of them wait. -/
def settle (s : Session) : Session := settleWithin 64 s

end Session

end LiveConfig
