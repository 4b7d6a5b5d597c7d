import LiveConfig.Span

/-!
Reads that wait for a change.
-/

namespace LiveConfig

/-- How long a read waits, and for what: until the index of its key differs from `index`, or `wait`
is over.  The index zero never waits. -/
structure Query where
  index : Nat
  wait : Span
deriving DecidableEq

namespace Query

/-- A time in milliseconds; one that is not zero is at least one. -/
def waitText (s : Span) : String := toString (max s.millis 1) ++ "ms"

/-- The parameters of the request.  What is zero is left out. -/
def parameters (q : Query) : List (String × String) :=
  (if q.index = 0 then [] else [("index", toString q.index)]) ++
    (if q.wait.isZero then [] else [("wait", waitText q.wait)])

/-- How long a waiting read waits that names no time. -/
def longestWait : Span := .ofSeconds 600

/-- The time after which a waiting read gives up. -/
def patience (q : Query) : Span := if q.wait.isZero then longestWait else q.wait

end Query

end LiveConfig
