import LiveConfig.Url.Host

/-!
URLs of the web, in their normal form.
-/

namespace LiveConfig

/-- A URL of the scheme `http` or `https`.  Its parts are percent encoded. -/
structure WebUrl where
  secure : Bool
  /-- User name and password with the sign after them. -/
  userinfo : String
  host : Url.Host
  /-- The port, unless it is the usual one. -/
  port : Option Nat
  /-- The parts of the path between its slashes. -/
  segments : List String
  query : Option String
  fragment : Option String
deriving DecidableEq

namespace WebUrl

/-- The scheme. -/
def scheme (u : WebUrl) : String := if u.secure then "https" else "http"

/-- The path. -/
def path (u : WebUrl) : String := "/" ++ "/".intercalate u.segments

/-- The port as it is written. -/
def portText (u : WebUrl) : String :=
  match u.port with
  | some p => ":" ++ toString p
  | none => ""

/-- The query as it is written. -/
def queryText (u : WebUrl) : String :=
  match u.query with
  | some q => "?" ++ q
  | none => ""

/-- The fragment as it is written. -/
def fragmentText (u : WebUrl) : String :=
  match u.fragment with
  | some f => "#" ++ f
  | none => ""

/-- The text of a URL. -/
def write (u : WebUrl) : String :=
  u.scheme ++ "://" ++ u.userinfo ++ u.host.write ++ u.portText ++ u.path ++ u.queryText
    ++ u.fragmentText

/-- What a request names: path and query. -/
def target (u : WebUrl) : String := u.path ++ u.queryText

/-- Add parameters to the query.  Their names and values are taken as they are. -/
def withParameters (u : WebUrl) (ps : List (String × String)) : WebUrl :=
  let added := "&".intercalate (ps.map fun (n, v) => n ++ "=" ++ v)
  let query := match u.query with
    | none => if added.isEmpty then none else some added
    | some q =>
      if q.isEmpty then (if added.isEmpty then none else some added)
      else if added.isEmpty then some q
      else some (q ++ "&" ++ added)
  { u with query }

/-! ### Who asks -/

/-- Decode a part of a URL, if it stands for a text. -/
def decodePart? (cs : List Char) : Option String :=
  Utf8.decode? (Url.percentDecode (Utf8.encode (String.ofList cs)))

/-- User name and password, if there are any.  A user name that is no text counts as none, and so
does such a password. -/
def login? (u : WebUrl) : Option (String × Option String) :=
  let info := u.userinfo.toList.dropLast
  let password := match info.dropWhile (· ≠ ':') with
    | _ :: p => decodePart? p
    | [] => none
  match decodePart? (info.takeWhile (· ≠ ':')) with
  | none => none
  | some name => if name = "" ∧ password = none then none else some (name, password)

/-- A URL without user name and password, if there are any. -/
def withoutLogin (u : WebUrl) : WebUrl :=
  if u.login?.isSome then { u with userinfo := "" } else u

@[simp] theorem target_withoutLogin (u : WebUrl) : u.withoutLogin.target = u.target := by
  unfold withoutLogin
  split <;> rfl

end WebUrl

end LiveConfig
