import LiveConfig.Change

/-!
What a command prints: values and events on standard output, everything else on the error output,
each line of which begins with a sign.
-/

namespace LiveConfig

/-- What has been printed. -/
structure Output where
  out : String
  err : String
deriving DecidableEq

namespace Output

/-- Nothing has been printed. -/
def empty : Output := ⟨"", ""⟩

/-- Print a line on the error output, after a sign. -/
def note (o : Output) (sign message : String) : Output :=
  { o with err := o.err ++ sign ++ " " ++ message ++ "\n" }

/-- Something has been done. -/
def success (o : Output) (message : String) : Output := o.note "✓" message

/-- Something has failed. -/
def error (o : Output) (message : String) : Output := o.note "✗" message

/-- Something is not as it should be. -/
def warning (o : Output) (message : String) : Output := o.note "⚠" message

/-- Something is worth knowing. -/
def info (o : Output) (message : String) : Output := o.note "ℹ" message

/-- Print a line on standard output. -/
def value (o : Output) (line : String) : Output := { o with out := o.out ++ line ++ "\n" }

/-- The sign of a kind of changes. -/
def sign : ChangeKind → String
  | .added => "+"
  | .updated => "~"
  | .deleted => "-"

/-- The line of a change. -/
def changeLine (c : Change) : String :=
  "  " ++ sign c.kind ++ " " ++ c.name ++
    match c.value with
    | some v => " = " ++ v.compact
    | none => ""

/-- Two digits of a number below one hundred. -/
def twoDigits (n : Nat) : String :=
  String.ofList [Nat.digitChar (n / 10 % 10), Nat.digitChar (n % 10)]

/-- The time of day at a number of seconds since the beginning of a day. -/
def timeOfDay (seconds : Int) : String :=
  let s := (seconds % 86400).toNat
  twoDigits (s / 3600) ++ ":" ++ twoDigits (s / 60 % 60) ++ ":" ++ twoDigits (s % 60)

/-- The lines of an event that happened at a time of day. -/
def eventLines (time : String) : Event → List String
  | .changed generation changes =>
    (time ++ " generation " ++ toString generation ++ " (" ++ toString changes.length
      ++ " change(s))") :: changes.map changeLine
  | .rejected reason => [time ++ " rejected " ++ reason]

/-- Print an event. -/
def event (o : Output) (time : String) (e : Event) : Output := (eventLines time e).foldl value o

end Output

end LiveConfig
