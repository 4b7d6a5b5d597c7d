import LiveConfig.Error
import LiveConfig.Remote.Pair
import LiveConfig.Remote.Query

/-!
Conversations with a remote store.

An `Exchange` says which request comes next and what is done with each answer.  It knows nothing of
the store: the answers are whatever they are.
-/

namespace LiveConfig

/-- What a remote store answers to a read: an entry, no entry, or an error. -/
abbrev ReadAnswer := Except ConfigError (Option Pair)

/-- What a remote store answers to a write. -/
abbrev WriteAnswer := Except ConfigError Unit

/-- A conversation with a remote store that ends with a result. -/
inductive Exchange (α : Type) where
  | done (result : α)
  /-- Read a key, without waiting. -/
  | read (key : String) (next : ReadAnswer → Exchange α)
  /-- Write the value of a key. -/
  | write (key : String) (value : Bytes) (next : WriteAnswer → Exchange α)
  /-- Let some time pass. -/
  | pause (time : Span) (next : Exchange α)

namespace Exchange

variable {α β : Type}

/-- Go on with the result of a conversation. -/
def bind : Exchange α → (α → Exchange β) → Exchange β
  | done x, f => f x
  | read key next, f => read key fun a => (next a).bind f
  | write key value next, f => write key value fun a => (next a).bind f
  | pause time next, f => pause time (next.bind f)

instance : Monad Exchange where
  pure := done
  bind := bind

end Exchange

end LiveConfig
