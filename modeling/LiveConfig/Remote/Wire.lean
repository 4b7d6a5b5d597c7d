import LiveConfig.Remote.Http
import LiveConfig.Text.Base64

/-!
Requests and answers as they travel (HTTP/1.1).

A request asks the server to close the connection after its answer, so that what has come by then is
the whole answer.  Its body ends where its length or its chunks say, and otherwise with the
connection.
-/

namespace LiveConfig

namespace Wire

/-- The end of a line. -/
def newline : Bytes := [0x0D, 0x0A]

/-- Lines with their ends. -/
def joinLines (ls : List String) : Bytes := ls.flatMap fun l => Utf8.encode l ++ newline

/-- Split at the first end of a line; nothing if there is none. -/
def cutLine? : Bytes → Option (Bytes × Bytes)
  | [] => none
  | b :: r =>
    if newline.isPrefixOf (b :: r) then some ([], r.drop 1)
    else (cutLine? r).map fun (l, rest) => (b :: l, rest)

theorem length_of_cutLine? {s l rest : Bytes} (h : cutLine? s = some (l, rest)) :
    rest.length < s.length := by
  induction s generalizing l with
  | nil => simp [cutLine?] at h
  | cons b r ih =>
    unfold cutLine? at h
    split at h
    · simp only [Option.some.injEq, Prod.mk.injEq] at h
      simp only [← h.2, List.length_drop, List.length_cons]
      omega
    · obtain ⟨⟨l', rest'⟩, hr, e⟩ := Option.map_eq_some_iff.1 h
      simp only [Prod.mk.injEq] at e
      have := ih (e.2 ▸ hr)
      simp only [List.length_cons]
      omega

/-- The lines up to an empty one, and what follows it. -/
def cutHead? (s : Bytes) : Option (List Bytes × Bytes) :=
  match _h : cutLine? s with
  | none => none
  | some ([], rest) => some ([], rest)
  | some (l, rest) => (cutHead? rest).map fun (ls, body) => (l :: ls, body)
termination_by s.length
decreasing_by exact length_of_cutLine? _h

/-- A header: its name in small letters, and its value. -/
def header? (line : Bytes) : Option (String × String) :=
  let text := Utf8.lossy line
  match Text.pieces ':' text with
  | name :: value@(_ :: _) => some ((Text.strip name).toLower, Text.strip (":".intercalate value))
  | _ => none

/-- The status in the first line of an answer. -/
def status? (line : Bytes) : Option Nat :=
  match Text.pieces ' ' (Utf8.lossy line) with
  | version :: code :: _ => if version.startsWith "HTTP/1." then code.toNat? else none
  | _ => none

/-- The value of a numeral with hexadecimal digits at the beginning of a line. -/
def chunkLength? (line : Bytes) : Option Nat :=
  let digits := (line.map Ascii.hexValue?).takeWhile (·.isSome)
  if digits.isEmpty then none else some (digits.foldl (fun n d => 16 * n + d.getD 0) 0)

/-- What chunks hold, up to the empty one. -/
def unchunk? (s : Bytes) : Option Bytes :=
  match _h : cutLine? s with
  | none => none
  | some (line, rest) =>
    match chunkLength? line with
    | none => none
    | some 0 => some []
    | some n =>
      if rest.length < n + 2 then none
      else (unchunk? (rest.drop (n + 2))).map (rest.take n ++ ·)
termination_by s.length
decreasing_by
  have := length_of_cutLine? _h
  simp only [List.length_drop]
  omega

/-- The body of an answer with some headers, in what follows them. -/
def body? (headers : List (String × String)) (s : Bytes) : Option Bytes :=
  if headers.lookup "transfer-encoding" = some "chunked" then unchunk? s
  else
    match headers.lookup "content-length" with
    | none => some s
    | some text =>
      match text.toNat? with
      | some n => if s.length < n then none else some (s.take n)
      | none => none

/-- What a server has sent before it has closed the connection. -/
def readReply (s : Bytes) : Reply :=
  match cutHead? s with
  | some (first :: lines, rest) =>
    match status? first, body? (lines.filterMap header?) rest with
    | some status, some body => .answered status body
    | _, _ => .lost
  | _ => .lost

end Wire

namespace Request

/-- The server that a request goes to, as it is named in the request. -/
def authority (r : Request) : String := r.url.host.write ++ r.url.portText

/-- The port that a request goes to. -/
def port (r : Request) : Nat := r.url.port.getD (if r.url.secure then 443 else 80)

/-- The header that says who asks. -/
def loginLine (name : String) (password : Option String) : String :=
  "authorization: Basic " ++ Base64.text (Utf8.encode (name ++ ":" ++ password.getD ""))

/-- The lines in front of the body. -/
def head (r : Request) : List String :=
  [r.method.name ++ " " ++ r.url.target ++ " HTTP/1.1", "host: " ++ r.authority, "accept: */*"]
    ++ (r.login.toList.map fun (name, password) => loginLine name password)
    ++ (r.token.toList.map fun t => tokenHeader ++ ": " ++ t)
    ++ (if r.method = .put then ["content-length: " ++ toString r.body.length] else [])
    ++ ["connection: close", ""]

/-- A request as it is sent. -/
def message (r : Request) : Bytes := Wire.joinLines r.head ++ r.body

end Request

end LiveConfig
