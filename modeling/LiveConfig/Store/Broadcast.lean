import LiveConfig.Change

/-!
Handing events to subscribers.

A channel keeps the last `capacity` events.  A subscriber that has fallen further behind is told how
many events it has missed and goes on with the oldest one kept.
-/

namespace LiveConfig

/-- The events that have been sent, and whether more may follow. -/
structure Channel where
  sent : Array Event
  closed : Bool

/-- What a subscriber receives. -/
inductive Received where
  | event (e : Event)
  /-- So many events were missed. -/
  | lagged (count : Nat)
  /-- No more events will come. -/
  | closed

namespace Channel

/-- How many events are kept. -/
def capacity : Nat := 256

/-- A channel before anything has been sent. -/
def open_ : Channel := ⟨#[], false⟩

/-- Send an event. -/
def send (c : Channel) (e : Event) : Channel := { c with sent := c.sent.push e }

/-- Send no more events. -/
def close (c : Channel) : Channel := { c with closed := true }

/-- Receive what comes after the first `next` events, and how many events come before what follows;
`none` if there is nothing to receive yet. -/
def receive (c : Channel) (next : Nat) : Option (Received × Nat) :=
  let oldest := c.sent.size - capacity
  if next < oldest then some (.lagged (oldest - next), oldest)
  else
    match c.sent[next]? with
    | some e => some (.event e, next + 1)
    | none => if c.closed then some (.closed, next) else none

end Channel

end LiveConfig
