import LiveConfig.Url.Basic

/-!
Reading URLs.

Blanks around a URL and line breaks inside it do not count.  A web URL is put into normal form:
small letters in scheme and host, no usual port, no `.` and `..` in the path, everything else
percent encoded.  Of any other URL only the scheme is of interest, but it must be a URL.
-/

namespace LiveConfig.Url

/-- The characters of a URL: without controls and spaces at the ends, and without tabs and line
breaks anywhere. -/
def significant (s : String) : List Char :=
  let isOuter := fun (c : Char) => c.toNat ≤ 0x20
  let cs := ((s.toList.dropWhile isOuter).reverse.dropWhile isOuter).reverse
  cs.filter fun c => c ≠ '\t' ∧ c ≠ '\n' ∧ c ≠ '\r'

/-- The letters of a scheme after its first one. -/
def isSchemeChar (c : Char) : Bool := c.isAlphanum || c == '+' || c == '-' || c == '.'

/-- The scheme in small letters, and what follows its colon. -/
def takeScheme (cs : List Char) : Except Fault (String × List Char) :=
  match cs with
  | [] => .error .noScheme
  | c :: _ =>
    if c.isAlpha then
      match cs.dropWhile isSchemeChar with
      | ':' :: r => .ok (String.ofList ((cs.takeWhile isSchemeChar).map Char.toLower), r)
      | _ => .error .noScheme
    else .error .noScheme

/-! ### Kinds of schemes -/

/-- How the part after a scheme is read. -/
inductive SchemeKind where
  /-- With a host, and backslashes for slashes. -/
  | special (usualPort : Nat)
  | file
  | other
deriving DecidableEq

/-- The kind of a scheme. -/
def schemeKind (scheme : String) : SchemeKind :=
  if scheme = "http" ∨ scheme = "ws" then .special 80
  else if scheme = "https" ∨ scheme = "wss" then .special 443
  else if scheme = "ftp" then .special 21
  else if scheme = "file" then .file
  else .other

/-- Whether backslashes are read as slashes. -/
def SchemeKind.isSpecial : SchemeKind → Bool
  | .other => false
  | _ => true

/-- A slash, or what counts as one. -/
def isSlash (kind : SchemeKind) (c : Char) : Bool := c == '/' || (kind.isSpecial && c == '\\')

/-- What ends the user name, host and port. -/
def endsAuthority (kind : SchemeKind) (c : Char) : Bool := isSlash kind c || c == '?' || c == '#'

/-! ### User name, host and port -/

/-- Split at the last `@`. -/
def splitUserinfo (cs : List Char) : Option (List Char × List Char) :=
  match cs.reverse.dropWhile (· ≠ '@') with
  | [] => none
  | _ :: front => some (front.reverse, (cs.reverse.takeWhile (· ≠ '@')).reverse)

/-- User name and password as they are written in front of the host. -/
def writeUserinfo (cs : List Char) : String :=
  let name := percentEncode inUserinfo (cs.takeWhile (· ≠ ':'))
  let password := percentEncode inUserinfo ((cs.dropWhile (· ≠ ':')).drop 1)
  let both := if password.isEmpty then name else name ++ ":" ++ password
  if both.isEmpty then "" else both ++ "@"

/-- The user name of an authority, and what follows it. -/
def takeUserinfo (authority : List Char) (pathFollows : Bool) :
    Except Fault (String × List Char) :=
  match splitUserinfo authority with
  | none => .ok ("", authority)
  | some (info, r) =>
    if info.isEmpty then (if r.isEmpty && pathFollows then .error .emptyHost else .ok ("", r))
    else .ok (writeUserinfo info, r)

/-- Split at the first colon outside brackets. -/
def splitPort : Bool → List Char → List Char × Option (List Char)
  | _, [] => ([], none)
  | inside, c :: cs =>
    if c = ':' ∧ !inside then ([], some cs)
    else
      let (host, port) := splitPort (if c = '[' then true else if c = ']' then false else inside) cs
      (c :: host, port)

/-- A port of at most 16 bits; no digits stand for none. -/
def readPort (cs : List Char) : Except Fault (Option Nat) :=
  if cs.isEmpty then .ok none
  else if cs.all Char.isDigit then
    let n := digitsValue cs
    if n < 65536 then .ok (some n) else .error .port
  else .error .port

/-- An authority of a special scheme. -/
structure Authority where
  userinfo : String
  host : Host
  port : Option Nat

/-- Read an authority of a special scheme. -/
def readAuthority (cs : List Char) (pathFollows : Bool) : Except Fault Authority := do
  let (userinfo, r) ← takeUserinfo cs pathFollows
  let (host, port) := splitPort false r
  if host.isEmpty then .error .emptyHost
  else
    let host ← Host.read host
    let port ← readPort (port.getD [])
    return ⟨userinfo, host, port⟩

/-- Check an authority of an unknown scheme. -/
def checkAuthority (cs : List Char) (pathFollows : Bool) : Except Fault Unit := do
  let (userinfo, r) ← takeUserinfo cs pathFollows
  let (host, port) := splitPort false r
  Host.check host
  if host.isEmpty && port.isSome then .error .emptyHost
  else
    -- A backslash ends the port although it does not end the authority.
    let _ ← readPort ((port.getD []).takeWhile (· ≠ '\\'))
    if host.isEmpty && !userinfo.isEmpty then .error .emptyHost else return ()

/-! ### Path, query and fragment -/

/-- A segment that stands for its own directory. -/
def isDot (s : List Char) : Bool := [".", "%2e"].contains (String.ofList (s.map Char.toLower))

/-- A segment that stands for the directory above. -/
def isDoubleDot (s : List Char) : Bool :=
  ["..", ".%2e", "%2e.", "%2e%2e"].contains (String.ofList (s.map Char.toLower))

/-- The segments of a path without `.` and `..`; those that have been passed are in reverse. -/
def normalSegments (passed : List String) : List (List Char) → List String
  | [] => passed.reverse
  | [s] =>
    if isDoubleDot s then ("" :: passed.tail).reverse
    else if isDot s then ("" :: passed).reverse
    else (percentEncode inPath s :: passed).reverse
  | s :: r :: rs =>
    if isDoubleDot s then normalSegments passed.tail (r :: rs)
    else if isDot s then normalSegments passed (r :: rs)
    else normalSegments (percentEncode inPath s :: passed) (r :: rs)

/-- The segments of a path of a web URL. -/
def readPath (cs : List Char) : List String :=
  let cs := cs.map fun c => if c = '\\' then '/' else c
  match cs with
  | '/' :: r => normalSegments [] (Text.cut '/' r)
  | r => normalSegments [] (Text.cut '/' r)

/-- What follows the authority: path, query and fragment. -/
def splitRest (cs : List Char) : List Char × Option (List Char) × Option (List Char) :=
  let front := cs.takeWhile (· ≠ '#')
  let fragment := match cs.dropWhile (· ≠ '#') with
    | _ :: f => some f
    | [] => none
  let query := match front.dropWhile (· ≠ '?') with
    | _ :: q => some q
    | [] => none
  (front.takeWhile (· ≠ '?'), query, fragment)

/-! ### Whole URLs -/

/-- A URL as far as it is of interest. -/
inductive Parsed where
  | web (url : WebUrl)
  | other (scheme : String)

/-- Whether a host of a file URL is the letter of a drive. -/
def isDrive : List Char → Bool
  | [c, d] => c.isAlpha && (d == ':' || d == '|')
  | _ => false

/-- Check a URL of the scheme `file`. -/
def checkFile (cs : List Char) : Except Fault Unit :=
  match cs with
  | a :: b :: r =>
    if isSlash .file a ∧ isSlash .file b then
      let host := r.takeWhile (!endsAuthority .file ·)
      if host.isEmpty ∨ isDrive host then .ok () else (Host.read host).map fun _ => ()
    else .ok ()
  | _ => .ok ()

/-- The part of a special URL after its scheme. -/
def readSpecial (scheme : String) (usualPort : Nat) (cs : List Char) : Except Fault Parsed := do
  let kind := SchemeKind.special usualPort
  let cs := cs.dropWhile (isSlash kind)
  let rest := cs.dropWhile (!endsAuthority kind ·)
  let a ← readAuthority (cs.takeWhile (!endsAuthority kind ·)) (!rest.isEmpty)
  if scheme = "http" ∨ scheme = "https" then
    let (path, query, fragment) := splitRest rest
    return .web
      { secure := scheme = "https"
        userinfo := a.userinfo
        host := a.host
        port := a.port.filter (· ≠ usualPort)
        segments := readPath path
        query := query.map (percentEncode inQuery)
        fragment := fragment.map (percentEncode inFragment) }
  else return .other scheme

/-- Read a URL. -/
def read (s : String) : Except Fault Parsed := do
  let (scheme, r) ← takeScheme (significant s)
  match schemeKind scheme with
  | .special port => readSpecial scheme port r
  | .file => do
    checkFile r
    return .other scheme
  | .other =>
    match r with
    | '/' :: '/' :: r => do
      let kind := SchemeKind.other
      let rest := r.dropWhile (!endsAuthority kind ·)
      checkAuthority (r.takeWhile (!endsAuthority kind ·)) (!rest.isEmpty)
      return .other scheme
    | _ => return .other scheme

end LiveConfig.Url
