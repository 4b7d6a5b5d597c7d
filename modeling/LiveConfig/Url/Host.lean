import LiveConfig.Url.Domain.Basic
import LiveConfig.Url.IpAddress
import LiveConfig.Url.Percent

/-!
Hosts of URLs: domain names and numeric addresses.
-/

namespace LiveConfig.Url

/-- The host of a URL. -/
inductive Host where
  | domain (name : String)
  | ipv4 (address : Nat)
  | ipv6 (pieces : List Nat)
deriving DecidableEq

namespace Host

/-- The text of a host. -/
def write : Host → String
  | domain name => name
  | ipv4 n => writeIpv4 n
  | ipv6 ps => "[" ++ writeIpv6 ps ++ "]"

/-- What stands between brackets. -/
def bracketed (cs : List Char) : Except Fault Host :=
  if cs.getLast? = some ']' then (readIpv6 cs.dropLast).map ipv6 else .error .ipv6

/-- The host that a text stands for. -/
def read (cs : List Char) : Except Fault Host :=
  match cs with
  | '[' :: r => bracketed r
  | cs =>
    match Utf8.decode? (percentDecode (Utf8.encode (String.ofList cs))) with
    | none => .error .domain
    | some name =>
      match Domain.toAscii? name.toList with
      | none => .error .domain
      | some [] => .error .emptyHost
      | some name =>
        if endsInNumber name then (readIpv4 name).map ipv4 else .ok (domain (String.ofList name))

/-- Characters that the host of a URL of an unknown kind must not have. -/
def isForbiddenAnywhere (c : Char) : Bool :=
  ['\x00', '\t', '\n', '\r', ' ', '#', '/', ':', '<', '>', '?', '@', '[', '\\', ']', '^',
    '|'].contains c

/-- Check the host of a URL of an unknown kind. -/
def check (cs : List Char) : Except Fault Unit :=
  match cs with
  | '[' :: r => (bracketed r).map fun _ => ()
  | cs => if cs.any isForbiddenAnywhere then .error .symbol else .ok ()

end Host

end LiveConfig.Url
