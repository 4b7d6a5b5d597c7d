import LiveConfig.Remote.Memory
import LiveConfig.Settings.Basic

/-!
A remote store behind HTTP.

`Client.request` says what is sent for an operation, and `Client.readAnswer` and
`Client.writeAnswer` what a reply means.  Whatever the reply is, an error is one of the remote
store.  A reply that leads to another address is not followed.
-/

namespace LiveConfig

/-- What a request does. -/
inductive Method where
  | get
  | put
  | delete
deriving DecidableEq

/-- The name of a method. -/
def Method.name : Method → String
  | get => "GET"
  | put => "PUT"
  | delete => "DELETE"

/-- A request to a server. -/
structure Request where
  method : Method
  url : WebUrl
  /-- User name and password. -/
  login : Option (String × Option String)
  token : Option String
  body : Bytes

/-- What becomes of a request. -/
inductive Reply where
  /-- There is no connection. -/
  | refused
  /-- There is no answer in time. -/
  | late
  /-- The connection is lost. -/
  | lost
  | answered (status : Nat) (body : Bytes)

/-- The header that carries the token. -/
def tokenHeader : String := "X-Consul-Token"

/-- What a status says in words. -/
def statusWords : List (Nat × String) :=
  [(100, "Continue"), (101, "Switching Protocols"), (102, "Processing"), (200, "OK"),
    (201, "Created"), (202, "Accepted"), (203, "Non Authoritative Information"),
    (204, "No Content"), (205, "Reset Content"), (206, "Partial Content"), (207, "Multi-Status"),
    (208, "Already Reported"), (226, "IM Used"), (300, "Multiple Choices"),
    (301, "Moved Permanently"), (302, "Found"), (303, "See Other"), (304, "Not Modified"),
    (305, "Use Proxy"), (307, "Temporary Redirect"), (308, "Permanent Redirect"),
    (400, "Bad Request"), (401, "Unauthorized"), (402, "Payment Required"), (403, "Forbidden"),
    (404, "Not Found"), (405, "Method Not Allowed"), (406, "Not Acceptable"),
    (407, "Proxy Authentication Required"), (408, "Request Timeout"), (409, "Conflict"),
    (410, "Gone"), (411, "Length Required"), (412, "Precondition Failed"),
    (413, "Payload Too Large"), (414, "URI Too Long"), (415, "Unsupported Media Type"),
    (416, "Range Not Satisfiable"), (417, "Expectation Failed"), (418, "I'm a teapot"),
    (421, "Misdirected Request"), (422, "Unprocessable Entity"), (423, "Locked"),
    (424, "Failed Dependency"), (425, "Too Early"), (426, "Upgrade Required"),
    (428, "Precondition Required"), (429, "Too Many Requests"),
    (431, "Request Header Fields Too Large"), (451, "Unavailable For Legal Reasons"),
    (500, "Internal Server Error"), (501, "Not Implemented"), (502, "Bad Gateway"),
    (503, "Service Unavailable"), (504, "Gateway Timeout"), (505, "HTTP Version Not Supported"),
    (506, "Variant Also Negotiates"), (507, "Insufficient Storage"), (508, "Loop Detected"),
    (510, "Not Extended"), (511, "Network Authentication Required")]

/-- A status with its words. -/
def statusText (status : Nat) : String :=
  toString status ++ " " ++ (statusWords.lookup status).getD "<unknown status code>"

/-- A client of a remote store: the address under which the keys are found, and a token. -/
structure Client where
  address : String
  token : Option String
  /-- How long a request may take. -/
  timeout : Span
deriving DecidableEq

namespace Client

/-- What the store is called in messages. -/
def storeName : String := "consul"

/-- The text without one slash at its end. -/
def dropLastSlash (s : String) : String :=
  if s.toList.getLast? = some '/' then String.ofList s.toList.dropLast else s

/-- A client for an address, which must be a web address.  Its requests may take the usual time. -/
def ofAddress (address : String) (token : Option String) : Except ConfigError Client :=
  match Url.read address with
  | .ok (.web u) => .ok ⟨dropLastSlash u.write, token, RemoteSettings.usual.timeout⟩
  | _ =>
    match checkWebUrl address with
    | .error e => .error e
    | .ok () => .error (.settings address)

/-- The client of a remote store in the settings. -/
def ofSettings (r : RemoteSettings) : Except ConfigError Client :=
  match r.url with
  | none => .error (.settings "Remote URL is not configured")
  | some url => (ofAddress url r.token).map fun c => { c with timeout := r.timeout }

/-! ### Requests -/

/-- The address of a key.  Slashes in front of the key do not count. -/
def endpoint (c : Client) (key : String) : String := c.address ++ "/" ++ Memory.normalKey key

/-- Whether a token can be sent in a header. -/
def isSendable (token : String) : Bool :=
  token.toList.all fun c => c == '\t' || (0x20 ≤ c.toNat && c.toNat != 0x7F)

/-- The request for an operation on a key; nothing if it cannot be made.  User name and password of
the address are taken out of it and sent apart. -/
def request (c : Client) (method : Method) (key : String) (query : Option Query) (body : Bytes) :
    Option Request :=
  match Url.read (c.endpoint key) with
  | .ok (.web u) =>
    let asked := match query with
      | some q => u.withoutLogin.withParameters q.parameters
      | none => u.withoutLogin
    if c.token.all isSendable then some ⟨method, asked, u.login?, c.token, body⟩ else none
  | _ => none

/-! ### Replies -/

/-- The error of a request that got no answer. -/
def sendError (c : Client) (r : Request) : Reply → ConfigError
  | .refused =>
    .transport ("failed to connect to " ++ c.address ++ ": error sending request for url ("
      ++ r.url.write ++ ")")
  | .late => .transport ("request to " ++ c.address ++ " timed out")
  | _ => .transport ("request failed: error sending request for url (" ++ r.url.write ++ ")")

/-- The error of a request that could not be made. -/
def requestError : ConfigError := .transport "request failed: builder error"

/-- The error of a status that was not hoped for. -/
def statusError (status : Nat) (body : Bytes) : ConfigError :=
  .transport ("unexpected response (" ++ statusText status ++ "): "
    ++ Text.strip (Utf8.lossy body))

/-- The first entry in the body of an answer. -/
def firstPair (body : Bytes) : ReadAnswer :=
  match Pair.readList? body with
  | .ok ps => .ok ps.head?
  | .error _ => .error (.transport "failed to decode KV response: error decoding response body")

/-- What a reply to a read means. -/
def readAnswer (c : Client) (r : Request) : Reply → ReadAnswer
  | .answered status body =>
    if status = 200 then firstPair body
    else if status = 404 then .ok none
    else .error (statusError status body)
  | reply => .error (c.sendError r reply)

/-- What a reply to a write or deletion means. -/
def writeAnswer (c : Client) (r : Request) : Reply → WriteAnswer
  | .answered status body =>
    if 200 ≤ status ∧ status < 300 then .ok () else .error (statusError status body)
  | reply => .error (c.sendError r reply)

/-! ### Operations -/

/-- Read a key of a server that answers requests by `send`. -/
def read (c : Client) (send : Request → Reply) (key : String) (query : Option Query) : ReadAnswer :=
  match c.request .get key query [] with
  | some r => c.readAnswer r (send r)
  | none => .error requestError

/-- Write a key. -/
def put (c : Client) (send : Request → Reply) (key : String) (value : Bytes) : WriteAnswer :=
  match c.request .put key none value with
  | some r => c.writeAnswer r (send r)
  | none => .error requestError

/-- Delete a key. -/
def delete (c : Client) (send : Request → Reply) (key : String) : WriteAnswer :=
  match c.request .delete key none [] with
  | some r => c.writeAnswer r (send r)
  | none => .error requestError

/-- Hold a conversation with a server. -/
def converse {α : Type} (c : Client) (send : Request → Reply) : Exchange α → α
  | .done x => x
  | .read key next => c.converse send (next (c.read send key none))
  | .write key value next => c.converse send (next (c.put send key value))
  | .pause _ next => c.converse send next

end Client

end LiveConfig
