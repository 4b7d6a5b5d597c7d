import LiveConfig.Remote.Http
import Mathlib.Data.List.Basic
import Mathlib.Data.List.TakeWhile

/-!
Putting a text behind the address of a web server.

The text of a web URL has a character in its host that is no slash and that is never dropped.  So
what is put behind it, after one more slash, is read as something behind the authority, whatever it
is.  Main statement: `IsWebAddress.read_join`.
-/

namespace LiveConfig

namespace Url

/-- A character that neither separates nor is dropped wherever it stands in a URL. -/
def Counts (c : Char) : Prop := c ∉ ['/', '\\', '\t', '\n', '\r']

instance : DecidablePred Counts := fun c => inferInstanceAs (Decidable (c ∉ _))

/-! ### Hosts -/

theorem counts_of_not_isForbidden {c : Char} (h : Domain.isForbidden c = false) : Counts c := by
  intro hc
  simp only [List.mem_cons, List.not_mem_nil, or_false] at hc
  rcases hc with rfl | rfl | rfl | rfl | rfl <;> exact absurd h (by decide)

namespace Domain

/-- A text whose first character counts, if there is one. -/
def BeginsWell (cs : List Char) : Prop := ∀ c ∈ cs.head?, Counts c

theorem beginsWell_writeLabel {cs : List Char} (h : isLabel cs = true) :
    BeginsWell (writeLabel cs) := by
  intro c hc
  unfold writeLabel at hc
  split at hc
  · have hmem : c ∈ cs := List.mem_of_mem_head? hc
    simp only [isLabel, Bool.and_eq_true, Bool.not_eq_true', List.any_eq_false] at h
    exact counts_of_not_isForbidden (Bool.eq_false_iff.mpr (h.1.1 c hmem))
  · obtain rfl : 'x' = c := by simpa [mark] using hc
    decide

theorem beginsWell_intercalate {ls : List (List Char)} (h : ∀ l ∈ ls, BeginsWell l) :
    BeginsWell (['.'].intercalate ls) := by
  match ls with
  | [] => simp [BeginsWell]
  | [l] => simpa using h l
  | l :: l' :: ls =>
    rw [List.intercalate_cons_cons]
    cases l with
    | nil =>
      intro c hc
      obtain rfl : '.' = c := by simpa using hc
      decide
    | cons c cs => exact h (c :: cs) List.mem_cons_self

theorem isLabel_of_mapM {ls : List (List Char)} :
    ∀ {ls' : List (List Char)}, ls.mapM label? = some ls' → ∀ l ∈ ls', isLabel l = true := by
  induction ls with
  | nil => simp
  | cons l ls ih =>
    intro ls' h
    simp only [List.mapM_cons, bind, Option.bind_eq_some_iff, pure] at h
    obtain ⟨x, hx, xs, hxs, h⟩ := h
    obtain rfl := Option.some.inj h
    rw [List.forall_mem_cons]
    exact ⟨(Option.filter_eq_some_iff.mp hx).2, ih hxs⟩

theorem isLabel_of_labels {name : List Char} {ls : List (List Char)} (h : labels? name = some ls) :
    ∀ l ∈ ls, isLabel l = true := by
  simp only [labels?, bind, Option.bind_eq_some_iff] at h
  obtain ⟨cs, -, ls', hls, h⟩ := h
  split at h
  · cases h
  · split at h
    · cases h
    · obtain rfl := Option.some.inj h
      exact isLabel_of_mapM hls

theorem beginsWell_toAscii {name cs : List Char} (h : toAscii? name = some cs) : BeginsWell cs := by
  obtain ⟨ls, hls, rfl⟩ := Option.map_eq_some_iff.mp h
  refine beginsWell_intercalate fun l hl => ?_
  obtain ⟨l, hmem, rfl⟩ := List.mem_map.mp hl
  exact beginsWell_writeLabel (isLabel_of_labels hls l hmem)

end Domain

theorem Host.read_eq_domain {cs : List Char} {name : String}
    (h : Host.read cs = .ok (.domain name)) :
    ∃ asked, Domain.toAscii? asked = some name.toList ∧ name.toList ≠ [] := by
  unfold Host.read at h
  split at h
  · unfold bracketed at h
    split at h
    · cases hread : readIpv6 (List.dropLast _) <;> rw [hread] at h <;> cases h
    · cases h
  · split at h
    · cases h
    · split at h
      · cases h
      · cases h
      · rename_i asked _ _ name' hne hname
        split at h
        · cases hread : readIpv4 name' <;> rw [hread] at h <;> cases h
        · cases h
          exact ⟨asked.toList, by simpa using hname, by simpa using hne⟩

/-- The text of a host has a character that counts. -/
theorem Host.exists_counts {cs : List Char} {h : Host} (hread : Host.read cs = .ok h) :
    ∃ c ∈ h.write.toList, Counts c := by
  cases h with
  | ipv6 ps => exact ⟨'[', by simp [Host.write], by decide⟩
  | ipv4 n => exact ⟨'.', by simp [Host.write, writeIpv4], by decide⟩
  | domain name =>
    obtain ⟨asked, hname, hne⟩ := read_eq_domain hread
    obtain ⟨c, rest, hcons⟩ := List.exists_cons_of_ne_nil hne
    refine ⟨c, by simp [Host.write, hcons], Domain.beginsWell_toAscii hname c (by simp [hcons])⟩

/-! ### Web URLs -/

/-- The web scheme. -/
def webScheme (secure : Bool) : String := if secure then "https" else "http"

/-- The usual port of the web scheme. -/
def webPort (secure : Bool) : Nat := if secure then 443 else 80

/-- The web URL with an authority and what follows it. -/
def webUrl (secure : Bool) (a : Authority) (rest : List Char) : WebUrl :=
  let (path, query, fragment) := splitRest rest
  { secure
    userinfo := a.userinfo
    host := a.host
    port := a.port.filter (· ≠ webPort secure)
    segments := readPath path
    query := query.map (percentEncode inQuery)
    fragment := fragment.map (percentEncode inFragment) }

/-- A slash in a web URL. -/
abbrev isWebSlash (c : Char) : Bool := c == '/' || c == '\\'

/-- A character of the authority of a web URL. -/
abbrev inAuthority (c : Char) : Bool := !(c == '/' || c == '\\' || c == '?' || c == '#')

theorem readSpecial_web (secure : Bool) (cs : List Char) :
    readSpecial (webScheme secure) (webPort secure) cs =
      let cs := cs.dropWhile isWebSlash
      (readAuthority (cs.takeWhile inAuthority) (!(cs.dropWhile inAuthority).isEmpty)).map fun a =>
        .web (webUrl secure a (cs.dropWhile inAuthority)) := by
  have hslash : isSlash (.special (webPort secure)) = isWebSlash := rfl
  have hends : (fun c => !endsAuthority (.special (webPort secure)) c) = inAuthority := rfl
  have hweb : webScheme secure = "http" ∨ webScheme secure = "https" := by cases secure <;> decide
  have hsecure : decide (webScheme secure = "https") = secure := by cases secure <;> decide
  unfold readSpecial
  simp only [hslash, hends, if_pos hweb, hsecure]
  generalize cs.dropWhile isWebSlash = cs
  cases readAuthority (cs.takeWhile inAuthority) (!(cs.dropWhile inAuthority).isEmpty) with
  | error e => rfl
  | ok a => rfl

theorem read_of_web {s : String} {secure : Bool} {cs : List Char}
    (h : significant s = (webScheme secure).toList ++ ':' :: cs) :
    Url.read s = readSpecial (webScheme secure) (webPort secure) cs := by
  have hscheme : takeScheme (significant s) = .ok (webScheme secure, cs) := by
    rw [h]
    cases secure
    · rfl
    · rfl
  have hkind : schemeKind (webScheme secure) = .special (webPort secure) := by
    cases secure <;> decide
  simp [Url.read, hscheme, hkind, bind, Except.bind]

theorem readAuthority_host {cs : List Char} {follows : Bool} {a : Authority}
    (h : readAuthority cs follows = .ok a) : ∃ host, Host.read host = .ok a.host := by
  simp only [readAuthority, bind, Except.bind] at h
  split at h
  · cases h
  · split at h
    · cases h
    · split at h
      · cases h
      · rename_i host hhost
        split at h
        · cases h
        · cases h
          exact ⟨_, hhost⟩

/-- Every web URL that is read has a character in its host that counts. -/
theorem exists_counts_of_read {s : String} {u : WebUrl} (h : Url.read s = .ok (.web u)) :
    ∃ c ∈ u.host.write.toList, Counts c := by
  simp only [Url.read, bind, Except.bind] at h
  split at h
  · cases h
  split at h
  · simp only [readSpecial, bind, Except.bind] at h
    split at h
    · cases h
    · rename_i a ha
      split at h
      · cases h
        obtain ⟨host, hhost⟩ := readAuthority_host ha
        exact Host.exists_counts hhost
      · cases h
  · split at h <;> cases h
  · split at h
    · split at h <;> cases h
    · cases h

/-! ### What is put behind an address -/

/-- A blank or control that does not count at the ends of a URL. -/
abbrev isOuter (c : Char) : Bool := c.toNat ≤ 0x20

/-- What is no tab and no line break. -/
abbrev isKept (c : Char) : Bool := c ≠ '\t' ∧ c ≠ '\n' ∧ c ≠ '\r'

theorem Counts.isWebSlash {c : Char} (h : Counts c) : isWebSlash c = false := by
  simp only [Counts, List.mem_cons, not_or] at h
  simp [h]

theorem Counts.isKept {c : Char} (h : Counts c) : isKept c = true := by
  simp only [Counts, List.mem_cons, not_or] at h
  simp [h]

/-- What counts of a text at the end of a URL. -/
def ending (cs : List Char) : List Char :=
  (cs.reverse.dropWhile isOuter).reverse.filter isKept

theorem significant_join {s : String} {c : Char} {as bs : List Char} (hc : isOuter c = false)
    (h : s.toList = c :: as ++ '/' :: bs) :
    significant s = (c :: as).filter isKept ++ '/' :: ending bs := by
  have hfront : s.toList.dropWhile isOuter = c :: as ++ '/' :: bs := by
    rw [h, List.cons_append, List.dropWhile_cons_of_neg (by simp [hc])]
  have hback : (c :: as ++ '/' :: bs).reverse.dropWhile isOuter =
      bs.reverse.dropWhile isOuter ++ '/' :: (c :: as).reverse := by
    rw [List.reverse_append, List.reverse_cons, List.append_assoc, List.singleton_append,
      List.dropWhile_append]
    split
    · rename_i hempty
      rw [List.isEmpty_iff.mp hempty]
      rfl
    · rfl
  have hall : significant s =
      ((s.toList.dropWhile isOuter).reverse.dropWhile isOuter).reverse.filter isKept := rfl
  have hslash : isKept '/' = true := by decide
  rw [hall, hfront, hback, List.reverse_append, List.reverse_cons, List.reverse_reverse,
    List.append_assoc, List.singleton_append, List.filter_append, List.filter_cons_of_pos hslash,
    ending]

/-- A text that ends behind a slash goes on behind it. -/
theorem takeWhile_inAuthority_join (as bs : List Char) :
    (as ++ '/' :: bs).takeWhile inAuthority = as.takeWhile inAuthority ∧
      (as ++ '/' :: bs).dropWhile inAuthority = as.dropWhile inAuthority ++ '/' :: bs := by
  induction as with
  | nil => exact ⟨rfl, rfl⟩
  | cons a as ih =>
    rw [List.cons_append, List.takeWhile_cons, List.takeWhile_cons, List.dropWhile_cons,
      List.dropWhile_cons, ih.1, ih.2]
    split <;> exact ⟨rfl, rfl⟩

/-- What does not hold of a character is not dropped. -/
theorem mem_dropWhile_iff {p : Char → Bool} {c : Char} (h : p c = false) {cs : List Char} :
    c ∈ cs.dropWhile p ↔ c ∈ cs := by
  refine ⟨fun hc => (List.dropWhile_sublist p).mem hc, fun hc => ?_⟩
  rw [← List.takeWhile_append_dropWhile (p := p) (l := cs), List.mem_append] at hc
  rcases hc with hc | hc
  · rw [List.mem_takeWhile_imp hc] at h
    cases h
  · exact hc

/-- The text of a web address, and that of its parts behind the slashes. -/
structure IsWebAddress (secure : Bool) (rest : List Char) (text : String) : Prop where
  toList_eq : text.toList = (webScheme secure).toList ++ ':' :: '/' :: '/' :: rest
  counts : ∃ c ∈ rest, Counts c

/-- The authority in the parts behind the slashes. -/
def authorityOf (rest : List Char) : List Char :=
  ((rest.filter isKept).dropWhile isWebSlash).takeWhile inAuthority

/-- What is behind the authority. -/
def behindAuthority (rest : List Char) : List Char :=
  ((rest.filter isKept).dropWhile isWebSlash).dropWhile inAuthority

namespace IsWebAddress

variable {secure : Bool} {rest : List Char} {text : String}

theorem of_read {s : String} {u : WebUrl} (h : Url.read s = .ok (.web u)) :
    ∃ rest, IsWebAddress u.secure rest u.write := by
  obtain ⟨c, hc, hcounts⟩ := exists_counts_of_read h
  refine ⟨(u.userinfo ++ u.host.write ++ u.portText ++ u.path ++ u.queryText
    ++ u.fragmentText).toList, ?_, c, by simp [hc], hcounts⟩
  have hscheme : u.scheme = webScheme u.secure := rfl
  rw [WebUrl.write, hscheme]
  simp

/-- Without a slash at its end it is still a web address. -/
theorem dropLastSlash (h : IsWebAddress secure rest text) :
    ∃ rest', IsWebAddress secure rest' (Client.dropLastSlash text) := by
  unfold Client.dropLastSlash
  split
  · rename_i hlast
    obtain ⟨c, hc, hcounts⟩ := h.counts
    have hne : rest ≠ [] := List.ne_nil_of_mem hc
    have hall : text.toList = ((webScheme secure).toList ++ [':', '/', '/']) ++ rest := by
      rw [h.toList_eq, List.append_assoc]
      rfl
    rw [hall, List.getLast?_append_of_ne_nil _ hne, List.getLast?_eq_some_iff] at hlast
    obtain ⟨front, rfl⟩ := hlast
    refine ⟨front, ?_, c, ?_, hcounts⟩
    · rw [String.toList_ofList, hall, ← List.append_assoc, List.dropLast_concat, List.append_assoc]
      rfl
    · -- a character that counts is not the slash
      have hslash : c ≠ '/' := fun hslash => hcounts (by simp [hslash])
      simpa [hslash] using hc
  · exact ⟨rest, h⟩

/-- Something of the host is left when the slashes in front of it are dropped. -/
theorem dropWhile_ne_nil (h : IsWebAddress secure rest text) :
    (rest.filter isKept).dropWhile isWebSlash ≠ [] := by
  obtain ⟨c, hc, hcounts⟩ := h.counts
  have hkept : c ∈ rest.filter isKept := List.mem_filter.mpr ⟨hc, hcounts.isKept⟩
  exact List.ne_nil_of_mem ((mem_dropWhile_iff hcounts.isWebSlash).mpr hkept)

/-- **What is put behind an address** ends up behind its authority. -/
theorem read_join (h : IsWebAddress secure rest text) (tail : String) :
    Url.read (text ++ "/" ++ tail) = (readAuthority (authorityOf rest) true).map fun a =>
      .web (webUrl secure a (behindAuthority rest ++ '/' :: ending tail.toList)) := by
  have hsignificant : significant (text ++ "/" ++ tail) = (webScheme secure).toList
      ++ ':' :: '/' :: '/' :: (rest.filter isKept ++ '/' :: ending tail.toList) := by
    have hall : (text ++ "/" ++ tail).toList =
        'h' :: ((webScheme secure).toList.tail ++ ':' :: '/' :: '/' :: rest)
          ++ '/' :: tail.toList := by
      rw [String.toList_append, String.toList_append, h.toList_eq]
      cases secure <;> simp [webScheme]
    rw [significant_join (by decide) hall]
    cases secure <;> simp [webScheme, List.filter]
  have hslashes : ('/' :: '/' :: (rest.filter isKept ++ '/' :: ending tail.toList)).dropWhile
      isWebSlash = (rest.filter isKept).dropWhile isWebSlash ++ '/' :: ending tail.toList := by
    have hslash : isWebSlash '/' = true := rfl
    rw [List.dropWhile_cons_of_pos hslash, List.dropWhile_cons_of_pos hslash, List.dropWhile_append,
      if_neg (by simpa using h.dropWhile_ne_nil)]
  obtain ⟨hauthority, hbehind⟩ := takeWhile_inAuthority_join
    ((rest.filter isKept).dropWhile isWebSlash) (ending tail.toList)
  have hfollows : (!(behindAuthority rest ++ '/' :: ending tail.toList).isEmpty) = true := by simp
  rw [read_of_web hsignificant, readSpecial_web]
  simp only [hslashes, hauthority, hbehind]
  change Except.map _ (readAuthority (authorityOf rest)
    (!(behindAuthority rest ++ '/' :: ending tail.toList).isEmpty)) = _
  rw [hfollows]
  rfl

/-- A number sign is behind the authority or nowhere. -/
theorem mem_behindAuthority_iff (h : IsWebAddress secure rest text) :
    '#' ∈ behindAuthority rest ↔ '#' ∈ text.toList := by
  have hscheme : '#' ∉ (webScheme secure).toList := by cases secure <;> decide
  rw [behindAuthority, mem_dropWhile_iff rfl, mem_dropWhile_iff rfl, List.mem_filter, h.toList_eq]
  simp [hscheme]

end IsWebAddress

/-- The address of a client is a web address. -/
theorem isWebAddress_of_ofAddress {address : String} {token : Option String} {c : Client}
    (h : Client.ofAddress address token = .ok c) :
    ∃ secure rest, IsWebAddress secure rest c.address := by
  unfold Client.ofAddress at h
  split at h
  · rename_i u hread
    obtain ⟨rest, hrest⟩ := IsWebAddress.of_read hread
    obtain ⟨rest', hrest'⟩ := hrest.dropLastSlash
    cases h
    exact ⟨u.secure, rest', hrest'⟩
  · split at h <;> cases h

end Url

end LiveConfig
