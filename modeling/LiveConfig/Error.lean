/-!
What can go wrong, and what is said about it.

A `ConfigError` is a cause.  Causes that keep a configuration from being built are final; those that
an accessor or a remote store reports can be recovered from, and those of a remote store may pass.
-/

namespace LiveConfig

/-- Why an operation failed. -/
inductive ConfigError where
  /-- A file could not be read. -/
  | file (message : String)
  /-- A text is no JSON, or not of the wanted form. -/
  | json (message : String)
  /-- A document could not be loaded. -/
  | load (source message : String)
  /-- The value of a remote key could neither be fetched nor seeded. -/
  | bootstrap (key message : String)
  /-- A watch could not be started. -/
  | watchStart (key message : String)
  /-- The settings are no good. -/
  | settings (message : String)
  /-- Nothing is found under a path. -/
  | notFound (path : String)
  /-- What is found under a path is not of the wanted kind. -/
  | conversion (path expected actual : String)
  /-- A remote store did not do what it was asked. -/
  | transport (message : String)
deriving DecidableEq

namespace ConfigError

/-- The message of an error. -/
def message : ConfigError → String
  | file m => "IO error: " ++ m
  | json m => "JSON error: " ++ m
  | load source m => "failed to load configuration from " ++ source ++ ": " ++ m
  | bootstrap key m => "bootstrap of remote key '" ++ key ++ "' failed: " ++ m
  | watchStart key m => "unable to start watch on '" ++ key ++ "': " ++ m
  | settings m => "Config error: " ++ m
  | notFound path => path ++ " not found"
  | conversion path expected actual =>
    "unable to convert value for '" ++ path ++ "' to " ++ expected ++ ": Value='" ++ actual ++ "'"
  | transport m => "remote store error: " ++ m

/-- Whether nothing was found. -/
def isNotFound : ConfigError → Bool
  | notFound _ => true
  | _ => false

/-- Whether a value was of the wrong kind. -/
def isConversion : ConfigError → Bool
  | conversion _ _ _ => true
  | _ => false

/-- Whether the same request may succeed later. -/
def isTransient : ConfigError → Bool
  | transport _ => true
  | _ => false

/-- Whether a program can go on after the error. -/
def isRecoverable (e : ConfigError) : Bool := e.isNotFound || e.isConversion || e.isTransient

end ConfigError

end LiveConfig
