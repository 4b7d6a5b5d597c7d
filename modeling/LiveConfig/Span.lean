/-!
Lengths of time.
-/

namespace LiveConfig

/-- A length of time, counted in nanoseconds. -/
structure Span where
  nanoseconds : Nat
deriving DecidableEq

namespace Span

/-- Whole milliseconds. -/
def ofMillis (n : Nat) : Span := ⟨n * 1000000⟩

/-- Whole seconds. -/
def ofSeconds (n : Nat) : Span := ⟨n * 1000000000⟩

/-- The milliseconds that have passed in full. -/
def millis (s : Span) : Nat := s.nanoseconds / 1000000

/-- Whether no time passes. -/
def isZero (s : Span) : Bool := s.nanoseconds == 0

/-- The first tick of a clock of milliseconds at which the time is over. -/
def ticks (s : Span) : Nat := (s.nanoseconds + 999999) / 1000000

end Span

end LiveConfig
