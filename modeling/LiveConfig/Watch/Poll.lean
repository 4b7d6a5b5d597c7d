import LiveConfig.Remote.Exchange
import LiveConfig.Text.CharRanges

/-!
Polling a remote key for changes.

A poll asks for the entry of a key whose index is not the last one seen.  What the answer means does
not depend on the store: an entry with the same index is no news, one with another index is
delivered, and everything else is a reason to rest for a while.
-/

namespace LiveConfig

/-- How a key is watched. -/
structure WatchOptions where
  /-- How long a poll waits for a change. -/
  wait : Span
  /-- How long the watch rests after a failure. -/
  rest : Span
deriving DecidableEq

/-- Polls wait for ten minutes and rest for ten seconds. -/
def WatchOptions.usual : WatchOptions := ⟨.ofSeconds 600, .ofSeconds 10⟩

/-- The polling of one key. -/
structure Poll where
  key : String
  options : WatchOptions
  /-- The index of the last entry seen. -/
  lastIndex : Nat
deriving DecidableEq

/-- What an answer leads to. -/
inductive Reaction where
  /-- Poll again at once. -/
  | again
  /-- Deliver a value, then poll again. -/
  | deliver (value : Bytes)
  /-- Rest, then poll again. -/
  | rest
deriving DecidableEq

namespace Poll

/-- The query of the next poll. -/
def query (p : Poll) : Query := ⟨p.lastIndex, p.options.wait⟩

/-- What an answer leads to, and the polling after it. -/
def receive (p : Poll) : ReadAnswer → Reaction × Poll
  | .ok (some e) =>
    if e.modifyIndex = p.lastIndex then (.again, p)
    else (.deliver e.value, { p with lastIndex := e.modifyIndex })
  | .ok none => (.rest, p)
  | .error _ => (.rest, p)

end Poll

/-! ### Starting a watch -/

/-- A watch that has been started: its polling, and the value that has to be delivered at once. -/
structure WatchStart where
  poll : Poll
  news : Option Bytes

/-- A key is not blank. -/
def checkKey (key : String) : Except ConfigError Unit :=
  if (Text.strip key).isEmpty then .error (.watchStart key "key must not be empty") else .ok ()

/-- Start to watch a key, of which a value may be known already.  A value that differs from the
known one is news. -/
def Exchange.startWatch (key : String) (known : Option Bytes) (options : WatchOptions) :
    Exchange (Except ConfigError WatchStart) :=
  .read key fun
    | .error e => .done (.error (.watchStart key e.message))
    | .ok none => .done (.error (.watchStart key "key does not exist"))
    | .ok (some p) =>
      .done (.ok
        { poll := ⟨key, options, p.modifyIndex⟩
          news := if known.isSome && known ≠ some p.value then some p.value else none })

end LiveConfig
