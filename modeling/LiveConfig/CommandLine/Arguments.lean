import LiveConfig.CommandLine.Commands

/-!
The arguments of the command line.

An argument is the name of an option, the value of the option before it, or a word.  Options that
all commands share may stand before the command as well as after it, and what stands after it
counts.  No option is given twice in one place, and none takes the name of another one for its
value.
-/

namespace LiveConfig

/-- The options. -/
inductive Switch where
  | sectionName
  | settings
  | verbose
  | quiet
  | kind
  | pretty
  | help
  | version
deriving DecidableEq

namespace Switch

/-- The name of an option. -/
def long : Switch → String
  | sectionName => "section"
  | settings => "settings"
  | verbose => "verbose"
  | quiet => "quiet"
  | kind => "as"
  | pretty => "pretty"
  | help => "help"
  | version => "version"

/-- The short name of an option, if it has one. -/
def short? : Switch → Option Char
  | sectionName => some 's'
  | quiet => some 'q'
  | help => some 'h'
  | version => some 'V'
  | _ => none

/-- Whether an option has a value. -/
def hasValue : Switch → Bool
  | sectionName | settings | kind => true
  | _ => false

/-- Whether a text can be the value of an option: a path is not empty, and a kind has a name. -/
def accepts : Switch → String → Bool
  | settings, v => v ≠ ""
  | kind, v => (ValueKind.ofName? v).isSome
  | _, _ => true

/-- The options of all commands. -/
def shared : List Switch := [sectionName, settings, verbose, quiet, help]

end Switch

/-- Why no command is run. -/
inductive Halt where
  /-- The user asks for help. -/
  | help
  /-- The user asks for the version. -/
  | version
  /-- The arguments are none of this program's. -/
  | misuse
deriving DecidableEq

/-- The arguments read so far. -/
structure Given where
  options : List (Switch × String)
  words : List String

namespace Given

/-- No arguments. -/
def none_ : Given := ⟨[], []⟩

/-- The value of an option. -/
def value? (g : Given) (o : Switch) : Option String := g.options.lookup o

/-- Whether an option is given. -/
def has (g : Given) (o : Switch) : Bool := (g.value? o).isSome

/-- Take an option. -/
def give (g : Given) (o : Switch) (v : String) : Except Halt Given :=
  if o = .help then .error .help
  else if o = .version then .error .version
  else if g.has o ∨ !o.accepts v then .error .misuse
  else .ok { g with options := (o, v) :: g.options }

/-- Take a word, if no more than `most` are wanted. -/
def word (g : Given) (most : Nat) (w : String) : Except Halt Given :=
  if g.words.length < most then .ok { g with words := g.words ++ [w] } else .error .misuse

end Given

namespace Arguments

/-- What an argument can be in some place. -/
structure Place where
  options : List Switch
  /-- How many words are wanted. -/
  words : Nat
  /-- The words that end the place, as long as no word has to be taken as it is. -/
  ends : List String

/-- What has been read, with the option that still wants its value. -/
abbrev Progress := Given × Option Switch

/-- Take an option with a long name, and the value that follows it after an equals sign. -/
def takeLong (p : Place) (g : Given) (body : List Char) : Except Halt Progress :=
  match p.options.find? fun o => o.long.toList = body.takeWhile (· ≠ '=') with
  | none => .error .misuse
  | some o =>
    match o.hasValue, body.dropWhile (· ≠ '=') with
    | true, _ :: v => (g.give o (String.ofList v)).map (·, none)
    | true, [] => .ok (g, some o)
    | false, _ :: _ => .error .misuse
    | false, [] => (g.give o "").map (·, none)

/-- Take options with short names, the last of which may be followed by its value. -/
def takeShort (p : Place) : List Char → Given → Except Halt Progress
  | [], g => .ok (g, none)
  | c :: cs, g =>
    match p.options.find? fun o => o.short? = some c with
    | none => .error .misuse
    | some o =>
      if o.hasValue then
        match cs with
        | [] => .ok (g, some o)
        | '=' :: v => (g.give o (String.ofList v)).map (·, none)
        | v => (g.give o (String.ofList v)).map (·, none)
      else
        match g.give o "" with
        | .ok g => takeShort p cs g
        | .error h => .error h

/-- Take words as they are. -/
def takeWords (p : Place) : List String → Given → Except Halt Given
  | [], g => .ok g
  | w :: ws, g =>
    match g.word p.words w with
    | .ok g => takeWords p ws g
    | .error h => .error h

/-- Read arguments up to a word that ends the place; that word comes with what follows it. -/
def scan (p : Place) : List String → Progress → Except Halt (Given × List String)
  | [], (g, none) => .ok (g, [])
  | [], (_, some _) => .error .misuse
  | a :: as, (g, wanting) =>
    match a.toList, wanting with
    | ['-', '-'], none => (takeWords p as g).map (·, [])
    | '-' :: '-' :: body, none =>
      match takeLong p g body with
      | .ok progress => scan p as progress
      | .error h => .error h
    | '-' :: c :: cs, none =>
      match takeShort p (c :: cs) g with
      | .ok progress => scan p as progress
      | .error h => .error h
    | '-' :: _ :: _, some _ => .error .misuse
    | _, some o =>
      match g.give o a with
      | .ok g => scan p as (g, none)
      | .error h => .error h
    | _, none =>
      if p.ends.contains a then .ok (g, a :: as)
      else
        match g.word p.words a with
        | .ok g => scan p as (g, none)
        | .error h => .error h

end Arguments

/-! ### Invocations -/

/-- A command with the options that all commands share. -/
structure Invocation where
  command : Command
  sectionName : Option String
  /-- The settings file that is named. -/
  settings : Option String
deriving DecidableEq

namespace Invocation

/-- The names of the commands. -/
def commandNames : List String := ["get", "show", "watch", "push"]

/-- The place in front of the command. -/
def front : Arguments.Place := ⟨.version :: Switch.shared, 0, "help" :: commandNames⟩

/-- The place after the name of a command. -/
def after (name : String) : Arguments.Place :=
  match name with
  | "get" => ⟨.kind :: Switch.shared, 1, []⟩
  | "show" => ⟨.pretty :: Switch.shared, 0, []⟩
  | "push" => ⟨Switch.shared, 1, []⟩
  | _ => ⟨Switch.shared, 0, []⟩

/-- The command with a name and arguments of its own. -/
def commandOf (name : String) (g : Given) : Except Halt Command :=
  match name, g.words with
  | "get", [path] => .ok (.get path (((g.value? .kind).bind ValueKind.ofName?).getD .text))
  | "show", [] => .ok (.display (g.has .pretty))
  | "watch", [] => .ok .watch
  | "push", [file] => if file = "" then .error .misuse else .ok (.push file)
  | _, _ => .error .misuse

/-- Help is asked for the program, or for one of its commands. -/
def helpOn : List String → Halt
  | [] => .help
  | [name] => if ("help" :: commandNames).contains name then .help else .misuse
  | _ => .misuse

/-- Read the arguments of the program. -/
def read (arguments : List String) : Except Halt Invocation := do
  match ← Arguments.scan front arguments (.none_, none) with
  | (_, []) => .error .misuse
  | (_, "help" :: names) => .error (helpOn names)
  | (outer, name :: rest) =>
    let (inner, _) ← Arguments.scan (after name) rest (.none_, none)
    let command ← commandOf name inner
    return {
      command
      sectionName := (inner.value? .sectionName).or (outer.value? .sectionName)
      settings := (inner.value? .settings).or (outer.value? .settings) }

end Invocation

end LiveConfig
