import LiveConfig.Proofs.Base64Texts
import LiveConfig.Proofs.Escapes
import LiveConfig.Proofs.KeyTargets
import LiveConfig.Proofs.Results
import LiveConfig.Remote.Wire

/-!
Who asks.

User name and password of an address are percent encoded when it is read, and decoded when a request
is made.  Main statements: `WebUrl.login?_of_writeUserinfo`, what is found is what the two stand for
in the address, and `Client.exists_credentials_of_request`, a header of every request says it in
base 64.
-/

namespace LiveConfig

namespace Url

variable {p : Char → Bool}

/-! ### In front of the host -/

/-- The user name in what stands in front of a host. -/
def nameIn (info : List Char) : List Char := info.takeWhile (· ≠ ':')

/-- The password there. -/
def passwordIn (info : List Char) : List Char := (info.dropWhile (· ≠ ':')).drop 1

theorem upperHexDigit_ne_colon : ∀ n < 16, upperHexDigit n ≠ ':' := by decide

theorem colon_not_mem_encodeByte (b : UInt8) : ':' ∉ encodeByte b := by
  have hb : b.toNat < 256 := b.toNat_lt
  have hhigh := upperHexDigit_ne_colon (b.toNat / 16) (by omega)
  have hlow := upperHexDigit_ne_colon (b.toNat % 16) (by omega)
  simp [encodeByte, hhigh.symm, hlow.symm]

/-- A text whose colons are encoded has none. -/
theorem colon_not_mem_percentEncode (h : p ':' = true) (cs : List Char) :
    ':' ∉ (percentEncode p cs).toList := by
  induction cs with
  | nil => simp [percentEncode]
  | cons c cs ih =>
    rw [toList_percentEncode_cons, List.mem_append, not_or]
    refine ⟨?_, ih⟩
    split
    · simp [colon_not_mem_encodeByte]
    · rename_i hc
      intro hmem
      obtain rfl : ':' = c := by simpa using hmem
      exact hc h

theorem percentEncode_eq_empty_iff {cs : List Char} : percentEncode p cs = "" ↔ cs = [] := by
  refine ⟨fun h => ?_, fun h => by subst h; rfl⟩
  cases cs with
  | nil => rfl
  | cons c cs =>
    have hlist := congrArg String.toList h
    obtain ⟨b, bs, hbytes⟩ := List.exists_cons_of_ne_nil (String.utf8EncodeChar_ne_nil (c := c))
    rw [toList_percentEncode_cons, hbytes] at hlist
    split at hlist <;> simp [encodeByte] at hlist

theorem inUserinfo_hexDigit {c : Char} (h : (hexDigit? c).isSome = true) :
    inUserinfo c = false := by
  have hall : ∀ n < 0x80, (hexDigit? (Char.ofNat n)).isSome = true →
      inUserinfo (Char.ofNat n) = false := by decide
  have hc := hall c.toNat (ascii_of_hexDigit h)
  rw [Char.ofNat_toNat] at hc
  exact hc h

/-- What stands in front of the host, as it is written again. -/
theorem writeUserinfo_eq (info : List Char) :
    writeUserinfo info =
      if nameIn info = [] ∧ passwordIn info = [] then ""
      else percentEncode inUserinfo (nameIn info) ++
        (if passwordIn info = [] then ""
          else ":" ++ percentEncode inUserinfo (passwordIn info)) ++ "@" := by
  change (let name := percentEncode inUserinfo (nameIn info)
    let password := percentEncode inUserinfo (passwordIn info)
    let both := if password.isEmpty then name else name ++ ":" ++ password
    if both.isEmpty then "" else both ++ "@") = _
  by_cases hpassword : passwordIn info = []
  · simp [hpassword, percentEncode_eq_empty_iff]
  · simp [hpassword, percentEncode_eq_empty_iff, String.append_assoc]

section Authority

variable {info host : List Char}

theorem takeUserinfo_of_login (hhost : '@' ∉ host) (hinfo : info ≠ []) (pathFollows : Bool) :
    takeUserinfo (info ++ '@' :: host) pathFollows = .ok (writeUserinfo info, host) := by
  have hreverse : (info ++ '@' :: host).reverse = host.reverse ++ '@' :: info.reverse := by simp
  have hhost' : '@' ∉ host.reverse := by simpa using hhost
  have hsplit : splitUserinfo (info ++ '@' :: host) = some (info, host) := by
    rw [splitUserinfo, hreverse, dropWhile_ne_append hhost', takeWhile_ne_append hhost']
    simp
  simp [takeUserinfo, hsplit, hinfo]

theorem userinfo_of_readAuthority (hhost : '@' ∉ host) (hinfo : info ≠ []) {pathFollows : Bool}
    {a : Authority} (h : readAuthority (info ++ '@' :: host) pathFollows = .ok a) :
    a.userinfo = writeUserinfo info := by
  simp only [readAuthority, takeUserinfo_of_login hhost hinfo, bind_eq_ok_iff] at h
  obtain ⟨read, hread, h⟩ := h
  obtain rfl := Except.ok.inj hread
  split at h
  · simp at h
  · simp only [bind_eq_ok_iff] at h
    obtain ⟨_, -, _, -, h⟩ := h
    rw [← Except.ok.inj h]

theorem userinfo_webUrl (secure : Bool) (a : Authority) (rest : List Char) :
    (webUrl secure a rest).userinfo = a.userinfo := rfl

end Authority

end Url

/-! ### Name and password -/

namespace WebUrl

open Url

variable {info : List Char} {name password : String} {u : WebUrl}

theorem decodePart?_nil : decodePart? [] = some "" := rfl

theorem decodePart?_percentEncode (cs : List Char) :
    decodePart? (percentEncode inUserinfo cs).toList = decodePart? cs := by
  have halways (c : Char) (hc : alwaysEncoded c = true) : inUserinfo c = true := by
    simp [inUserinfo, inPath, inFragment, hc]
  rw [decodePart?, decodePart?, String.ofList_toList,
    percentDecode_encoded halways (by decide) fun c => inUserinfo_hexDigit]

/-- **User name and password** are found as they stand for in the address. -/
theorem login?_of_writeUserinfo (hu : u.userinfo = writeUserinfo info)
    (hname : decodePart? (nameIn info) = some name)
    (hpassword : decodePart? (passwordIn info) = some password) :
    u.login? = if name = "" ∧ passwordIn info = [] then none
      else some (name, if passwordIn info = [] then none else some password) := by
  have hcolon : ':' ∉ (percentEncode inUserinfo (nameIn info)).toList :=
    colon_not_mem_percentEncode (by decide) _
  rw [writeUserinfo_eq] at hu
  by_cases hnone : passwordIn info = []
  · by_cases hempty : nameIn info = []
    · rw [hempty, decodePart?_nil, Option.some_inj] at hname
      simp only [hempty, hnone, ← hname, and_self, if_true] at hu ⊢
      rw [login?, hu]
      decide
    have hinfo : u.userinfo.toList.dropLast =
        (percentEncode inUserinfo (nameIn info)).toList := by
      simp [hu, hempty, hnone]
    simp only [login?, hinfo, takeWhile_ne_eq_self hcolon, dropWhile_ne_eq_nil hcolon,
      decodePart?_percentEncode, hname]
    simp [hnone]
  · have hinfo : u.userinfo.toList.dropLast = (percentEncode inUserinfo (nameIn info)).toList ++
        ':' :: (percentEncode inUserinfo (passwordIn info)).toList := by
      rw [hu, if_neg fun hboth => hnone hboth.2, if_neg hnone, String.toList_append]
      exact List.dropLast_concat.trans (by simp)
    simp only [login?, hinfo, takeWhile_ne_append hcolon, dropWhile_ne_append hcolon,
      decodePart?_percentEncode, hname, hpassword]
    simp [hnone]

end WebUrl

/-! ### Requests -/

theorem Request.loginLine_mem_head {r : Request} {name : String} {password : Option String}
    (h : r.login = some (name, password)) : loginLine name password ∈ r.head := by
  simp only [Request.head, h, List.mem_append]
  exact .inl (.inl (.inl (.inr List.mem_cons_self)))

namespace Client

open Url

variable {c : Client} {secure : Bool} {rest info host : List Char} {name password key : String}
  {method : Method} {query : Option Query} {body : Bytes} {r : Request}

theorem login_of_request (h : IsWebAddress secure rest c.address)
    (hrest : authorityOf rest = info ++ '@' :: host) (hhost : '@' ∉ host) (hinfo : info ≠ [])
    (hname : WebUrl.decodePart? (nameIn info) = some name)
    (hpassword : WebUrl.decodePart? (passwordIn info) = some password)
    (hr : c.request method key query body = some r) :
    r.login = if name = "" ∧ passwordIn info = [] then none
      else some (name, if passwordIn info = [] then none else some password) := by
  rw [request, endpoint, h.read_join] at hr
  cases hauthority : readAuthority (authorityOf rest) true with
  | error e => simp [hauthority, Except.map] at hr
  | ok a =>
    have ha : a.userinfo = writeUserinfo info :=
      userinfo_of_readAuthority hhost hinfo (hrest ▸ hauthority)
    simp only [hauthority, Except.map, Option.ite_none_right_eq_some, Option.some_inj] at hr
    obtain ⟨-, rfl⟩ := hr
    dsimp only
    exact WebUrl.login?_of_writeUserinfo ((userinfo_webUrl ..).trans ha) hname hpassword

-- A sign that ends the user's part is written as an escape.
example : ((Client.mk "http://app:p%40ss@[::1]:8500" none RemoteSettings.usual.timeout).request
    .get "limits" none []).map (·.login) = some (some ("app", some "p@ss")) := by
  rfl

/-- **Who asks**: when the address of a client names a user, every request says name and password
as they stand for in the address. -/
theorem exists_credentials_of_request (h : IsWebAddress secure rest c.address)
    (hrest : authorityOf rest = info ++ '@' :: host) (hhost : '@' ∉ host)
    (hname : WebUrl.decodePart? (nameIn info) = some name)
    (hpassword : WebUrl.decodePart? (passwordIn info) = some password)
    (hr : c.request method key query body = some r)
    (hsome : name ≠ "" ∨ passwordIn info ≠ []) :
    ∃ code, "authorization: Basic " ++ code ∈ r.head ∧
      Base64.decode (Utf8.encode code) = .ok (Utf8.encode (name ++ ":" ++ password)) := by
  have hinfo : info ≠ [] := by
    rintro rfl
    exact hsome.elim (· (Option.some_inj.mp hname).symm) (· rfl)
  have hlogin := login_of_request h hrest hhost hinfo hname hpassword hr
  rw [if_neg fun hboth => hsome.elim (· hboth.1) (· hboth.2)] at hlogin
  have hwritten : (if passwordIn info = [] then none else some password).getD "" = password := by
    split
    · rename_i hnone
      rw [hnone, WebUrl.decodePart?_nil, Option.some_inj] at hpassword
      exact hpassword
    · rfl
  refine ⟨Base64.text (Utf8.encode (name ++ ":" ++ password)), ?_,
    Base64.decode_text_eq_ok_iff.mpr rfl⟩
  rw [← hwritten]
  exact Request.loginLine_mem_head hlogin

end Client

end LiveConfig
