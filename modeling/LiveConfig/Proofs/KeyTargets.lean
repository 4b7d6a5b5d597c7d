import LiveConfig.Proofs.PercentEncoding
import LiveConfig.Proofs.WebAddresses

/-!
Which keys a client of a remote store asks for under the same name.

A key is put behind the address as it is, and the text is read as a URL again.  Keys that differ in
more than the slashes in front can so become one: a part of them is read as a query or dropped, a
segment is taken for a directory, or an escape is already what a character is encoded to.  A key is
plain if nothing of this happens to it.  Main statement: `Client.plain_keys_keep_apart`.
-/

namespace LiveConfig

namespace Url

/-- A text that only stands for itself behind a slash in a URL. -/
structure IsPlain (cs : List Char) : Prop where
  no_signs : ∀ c ∈ cs, c ∉ ['\t', '\n', '\r', '?', '#', '\\']
  no_dots : ∀ s ∈ Text.cut '/' cs, isDot s = false ∧ isDoubleDot s = false
  no_escape : hasEscape cs = false
  ends_in_sight : ∀ c ∈ cs.getLast?, 0x20 < c.toNat

/-- The check that a text is plain. -/
def isPlain (cs : List Char) : Bool :=
  (cs.all fun c => !(['\t', '\n', '\r', '?', '#', '\\'].contains c)) &&
    ((Text.cut '/' cs).all fun s => !isDot s && !isDoubleDot s) &&
    !hasEscape cs && cs.getLast?.all (0x20 < ·.toNat)

theorem isPlain_iff {cs : List Char} : isPlain cs = true ↔ IsPlain cs := by
  simp only [isPlain, Bool.and_eq_true, List.all_eq_true, Option.all_eq_true, Bool.not_eq_true',
    List.contains_eq_mem, decide_eq_false_iff_not, decide_eq_true_eq]
  constructor
  · rintro ⟨⟨⟨hsigns, hdots⟩, hescape⟩, hends⟩
    exact ⟨hsigns, hdots, hescape, hends⟩
  · rintro ⟨hsigns, hdots, hescape, hends⟩
    exact ⟨⟨⟨hsigns, hdots⟩, hescape⟩, hends⟩

instance : DecidablePred IsPlain := fun _ => decidable_of_iff _ isPlain_iff

variable {t : List Char}

theorem IsPlain.notMem (h : IsPlain t) {c : Char} (hc : c ∈ ['\t', '\n', '\r', '?', '#', '\\']) :
    c ∉ t :=
  fun hmem => h.no_signs c hmem hc

theorem IsPlain.ending_eq (h : IsPlain t) : ending t = t := by
  have hback : t.reverse.dropWhile isOuter = t.reverse := by
    cases hlast : t.reverse with
    | nil => rfl
    | cons c cs =>
      have hlt : 0x20 < c.toNat := h.ends_in_sight c (by simp [← List.head?_reverse, hlast])
      exact List.dropWhile_cons_of_neg (by simpa using hlt)
  rw [ending, hback, List.reverse_reverse, List.filter_eq_self]
  intro c hc
  have hsigns := h.no_signs c hc
  simp only [List.mem_cons, not_or] at hsigns
  simp [hsigns]

/-! ### Paths -/

/-- The segments after one more, in reverse. -/
def afterSegment (before : List String) (s : List Char) : List String :=
  if isDoubleDot s then before.tail
  else if isDot s then before
  else percentEncode inPath s :: before

theorem normalSegments_append (as : List (List Char)) {bs : List (List Char)} (hne : bs ≠ []) :
    ∀ before,
      normalSegments before (as ++ bs) = normalSegments (as.foldl afterSegment before) bs := by
  induction as with
  | nil => exact fun _ => rfl
  | cons a as ih =>
    intro before
    obtain ⟨r, rs, hrs⟩ := List.exists_cons_of_ne_nil (List.append_ne_nil_of_right_ne_nil as hne)
    rw [List.cons_append, hrs, List.foldl_cons, ← ih, hrs, normalSegments, afterSegment]
    split
    · rfl
    · split <;> rfl

theorem normalSegments_of_no_dots {ss : List (List Char)} (hne : ss ≠ [])
    (h : ∀ s ∈ ss, isDot s = false ∧ isDoubleDot s = false) :
    ∀ before, normalSegments before ss = before.reverse ++ ss.map (percentEncode inPath) := by
  induction ss with
  | nil => exact absurd rfl hne
  | cons s ss ih =>
    intro before
    obtain ⟨hdot, hdouble⟩ := h s List.mem_cons_self
    cases ss with
    | nil => simp [normalSegments, hdot, hdouble]
    | cons r rs =>
      rw [normalSegments, hdot, hdouble, if_neg (by simp), if_neg (by simp),
        ih (by simp) fun s hs => h s (List.mem_cons_of_mem _ hs)]
      simp

/-- The path with slashes for backslashes. -/
def slashed (cs : List Char) : List Char := cs.map fun c => if c = '\\' then '/' else c

theorem slashed_join {t : List Char} (h : '\\' ∉ t) (front : List Char) :
    slashed (front ++ '/' :: t) = slashed front ++ '/' :: t := by
  have ht : slashed t = t := by
    refine (List.map_congr_left fun c hc => if_neg ?_).trans (List.map_id t)
    exact fun hback : c = '\\' => h (hback ▸ hc)
  rw [slashed, List.map_append, List.map_cons, ← slashed, ← slashed, ht]
  rfl

theorem readPath_of_slash {cs r : List Char} (h : slashed cs = '/' :: r) :
    readPath cs = normalSegments [] (Text.cut '/' r) := by
  unfold slashed at h
  simp only [readPath, h]

theorem readPath_of_not_slash {cs : List Char} (h : ∀ r, slashed cs ≠ '/' :: r) :
    readPath cs = normalSegments [] (Text.cut '/' (slashed cs)) := by
  unfold readPath
  dsimp only
  split
  · rename_i r hr
    exact absurd hr (h r)
  · rfl

/-- The segments of a path that is continued behind a slash. -/
theorem exists_readPath_join (front : List Char) :
    ∃ ss, ∀ t, '\\' ∉ t →
      readPath (front ++ '/' :: t) = normalSegments [] (ss ++ Text.cut '/' t) := by
  cases hfront : slashed front with
  | nil =>
    refine ⟨[], fun t ht => ?_⟩
    have hall : slashed (front ++ '/' :: t) = '/' :: t := by
      rw [slashed_join ht, hfront, List.nil_append]
    rw [readPath_of_slash hall, List.nil_append]
  | cons c cs =>
    by_cases hc : c = '/'
    · subst hc
      refine ⟨Text.cut '/' cs, fun t ht => ?_⟩
      have hall : slashed (front ++ '/' :: t) = '/' :: (cs ++ '/' :: t) := by
        rw [slashed_join ht, hfront, List.cons_append]
      rw [readPath_of_slash hall, Text.cut_append]
    · refine ⟨Text.cut '/' (c :: cs), fun t ht => ?_⟩
      have hall : slashed (front ++ '/' :: t) = (c :: cs) ++ '/' :: t := by
        rw [slashed_join ht, hfront]
      have hne (r : List Char) : slashed (front ++ '/' :: t) ≠ '/' :: r := by
        rw [hall]
        exact fun h => hc (List.cons.inj h).1
      rw [readPath_of_not_slash hne, hall, Text.cut_append]

theorem exists_pathText_join (front : List Char) :
    ∃ before : String, ∀ t, IsPlain t →
      "/" ++ "/".intercalate (readPath (front ++ '/' :: t)) = before ++ percentEncode inPath t := by
  obtain ⟨ss, hss⟩ := exists_readPath_join front
  let passed := (ss.foldl afterSegment []).reverse
  have hsegments (t : List Char) (ht : IsPlain t) :
      readPath (front ++ '/' :: t) = passed ++ (Text.cut '/' t).map (percentEncode inPath) := by
    have hne := Text.cut_ne_nil '/' t
    rw [hss t (ht.notMem (by decide)), normalSegments_append ss hne,
      normalSegments_of_no_dots hne ht.no_dots]
  have hcut (t : List Char) :
      "/".intercalate ((Text.cut '/' t).map (percentEncode inPath)) = percentEncode inPath t :=
    intercalate_percentEncode_cut (by decide) t
  by_cases hpassed : passed = []
  · refine ⟨"/", fun t ht => ?_⟩
    rw [hsegments t ht, hpassed, List.nil_append, hcut]
  · refine ⟨"/" ++ "/".intercalate passed ++ "/", fun t ht => ?_⟩
    have hne : (Text.cut '/' t).map (percentEncode inPath) ≠ [] := by
      simpa using Text.cut_ne_nil '/' t
    rw [hsegments t ht, String.intercalate_append_of_ne_nil hpassed hne, hcut]
    simp only [String.append_assoc]

/-! ### Path, query and fragment -/

section Split

variable {sign : Char} {as bs : List Char}

theorem takeWhile_ne_append (h : sign ∉ as) (bs : List Char) :
    (as ++ sign :: bs).takeWhile (· ≠ sign) = as := by
  have hall : ∀ c ∈ as, decide (c ≠ sign) = true := fun c hc =>
    decide_eq_true fun hsign : c = sign => h (hsign ▸ hc)
  rw [List.takeWhile_append_of_pos hall, List.takeWhile_cons_of_neg (by simp), List.append_nil]

theorem takeWhile_ne_eq_self (h : sign ∉ as) : as.takeWhile (· ≠ sign) = as :=
  List.takeWhile_eq_self_iff.mpr fun c hc => decide_eq_true fun hsign : c = sign => h (hsign ▸ hc)

theorem dropWhile_ne_append (h : sign ∉ as) (bs : List Char) :
    (as ++ sign :: bs).dropWhile (· ≠ sign) = sign :: bs := by
  have hboth := List.takeWhile_append_dropWhile (p := (· ≠ sign)) (l := as ++ sign :: bs)
  rw [takeWhile_ne_append h] at hboth
  exact List.append_cancel_left hboth

theorem dropWhile_ne_eq_nil (h : sign ∉ as) : as.dropWhile (· ≠ sign) = [] := by
  have hboth := List.takeWhile_append_dropWhile (p := (· ≠ sign)) (l := as)
  rw [takeWhile_ne_eq_self h] at hboth
  simpa using hboth

/-- What is behind a number sign is neither path nor query. -/
theorem splitRest_of_fragment (h : '#' ∉ as) (bs : List Char) :
    (splitRest (as ++ '#' :: bs)).1 = (splitRest as).1 ∧
      (splitRest (as ++ '#' :: bs)).2.1 = (splitRest as).2.1 := by
  simp only [splitRest, takeWhile_ne_append h, takeWhile_ne_eq_self h, and_self]

theorem splitRest_of_query (hnumber : '#' ∉ as ++ '?' :: bs) (h : '?' ∉ as) :
    splitRest (as ++ '?' :: bs) = (as, some bs, none) := by
  simp only [splitRest, takeWhile_ne_eq_self hnumber, dropWhile_ne_eq_nil hnumber,
    takeWhile_ne_append h, dropWhile_ne_append h]

theorem splitRest_of_path (hnumber : '#' ∉ as) (h : '?' ∉ as) :
    splitRest as = (as, none, none) := by
  simp only [splitRest, takeWhile_ne_eq_self hnumber, dropWhile_ne_eq_nil hnumber,
    takeWhile_ne_eq_self h, dropWhile_ne_eq_nil h]

end Split

/-! ### Targets -/

variable {front : List Char}

/-- Behind a number sign nothing has a say in the target. -/
theorem target_webUrl_of_fragment (h : '#' ∈ front) (secure : Bool) (a : Authority)
    (s t : List Char) :
    (webUrl secure a (front ++ s)).target = (webUrl secure a (front ++ t)).target := by
  obtain ⟨as, bs, rfl, has⟩ := List.eq_append_cons_of_mem h
  have hparts (t : List Char) : (webUrl secure a (as ++ '#' :: bs ++ t)).target =
      (webUrl secure a as).target := by
    obtain ⟨hpath, hquery⟩ := splitRest_of_fragment has (bs ++ t)
    rw [List.append_assoc, List.cons_append]
    simp only [WebUrl.target, WebUrl.path, WebUrl.queryText, webUrl, hpath, hquery]
  rw [hparts, hparts]

/-- **What the target of a plain text is**: something in front of it, and the text as it is encoded
in the path or the query. -/
theorem exists_target_webUrl (hfront : '#' ∉ front) (secure : Bool) (a : Authority) :
    ∃ (before : String) (p : Char → Bool), (∀ c, alwaysEncoded c = true → p c = true) ∧
      ∀ t, IsPlain t →
        (webUrl secure a (front ++ '/' :: t)).target = before ++ percentEncode p t := by
  have hnumber (t : List Char) (ht : IsPlain t) : '#' ∉ front ++ '/' :: t := by
    simp [hfront, ht.notMem (show '#' ∈ _ by decide)]
  by_cases hquery : '?' ∈ front
  · obtain ⟨as, bs, rfl, has⟩ := List.eq_append_cons_of_mem hquery
    refine ⟨"/" ++ "/".intercalate (readPath as) ++ "?" ++ percentEncode inQuery bs ++ "/", inQuery,
      fun c hc => by simp [inQuery, hc], fun t ht => ?_⟩
    have hall : as ++ '?' :: bs ++ '/' :: t = as ++ '?' :: (bs ++ '/' :: t) := by simp
    have hsplit : splitRest (as ++ '?' :: bs ++ '/' :: t) = (as, some (bs ++ '/' :: t), none) := by
      rw [hall]
      exact splitRest_of_query (hall ▸ hnumber t ht) has
    have hslash : percentEncode inQuery ('/' :: t) = "/" ++ percentEncode inQuery t :=
      percentEncode_cons_of_not (by decide) t
    simp only [WebUrl.target, WebUrl.path, WebUrl.queryText, webUrl, hsplit, Option.map_some,
      percentEncode_append, hslash, String.append_assoc]
  · obtain ⟨before, hbefore⟩ := exists_pathText_join front
    refine ⟨before, inPath, fun c hc => by simp [inPath, inFragment, hc], fun t ht => ?_⟩
    have hsplit : splitRest (front ++ '/' :: t) = (front ++ '/' :: t, none, none) :=
      splitRest_of_path (hnumber t ht) (by simp [hquery, ht.notMem (show '?' ∈ _ by decide)])
    simp only [WebUrl.target, WebUrl.path, WebUrl.queryText, webUrl, hsplit, Option.map_none,
      hbefore t ht, String.append_empty]

/-- Plain texts with the same target are equal. -/
theorem target_webUrl_inj (hfront : '#' ∉ front) (secure : Bool) (a : Authority) {s t : List Char}
    (hs : IsPlain s) (ht : IsPlain t) :
    (webUrl secure a (front ++ '/' :: s)).target = (webUrl secure a (front ++ '/' :: t)).target ↔
      s = t := by
  obtain ⟨before, p, hp, htarget⟩ := exists_target_webUrl hfront secure a
  rw [htarget s hs, htarget t ht, String.append_right_inj,
    percentEncode_inj hp hs.no_escape ht.no_escape]

end Url

/-! ### Keys of both stores -/

namespace Memory

/-- Two keys that the store in memory does not tell apart. -/
def SameKey (k k' : String) : Prop :=
  ∀ m : Memory, m.read k = m.read k' ∧ (∀ value, m.put k value = m.put k' value) ∧
    m.delete k = m.delete k'

theorem sameKey_iff {k k' : String} : SameKey k k' ↔ normalKey k = normalKey k' := by
  constructor
  · intro h
    -- a store in which only the first key has an entry
    let p : Pair := written (normalKey k) [] 1 none
    let m : Memory := ⟨[(normalKey k, p)], 1, true, 0, 1⟩
    have hread : Except.ok (m.current k) = Except.ok (m.current k') := (h m).1
    have hcurrent : m.current k' = some p := by
      rw [← Except.ok.inj hread]
      exact List.lookup_cons_self
    by_contra hne
    have hnone : m.current k' = none :=
      List.lookup_eq_none_iff.mpr (by simpa [m] using fun hk => hne hk.symm)
    rw [hnone] at hcurrent
    cases hcurrent
  · intro h m
    simp only [read, current, put, delete, h, implies_true, and_self]

end Memory

namespace Client

open Url

variable {c : Client} {secure : Bool} {rest : List Char}

/-- The requests without options that can be made for a key. -/
theorem request_eq_some_iff (h : IsWebAddress secure rest c.address) {method : Method}
    {key : String} {body : Bytes} {r : Request} :
    c.request method key none body = some r ↔
      c.token.all isSendable = true ∧ ∃ a, readAuthority (authorityOf rest) true = .ok a ∧
        let u := webUrl secure a (behindAuthority rest ++
          '/' :: ending (Memory.normalKey key).toList)
        r = ⟨method, u.withoutLogin, u.login?, c.token, body⟩ := by
  rw [request, endpoint, h.read_join]
  cases readAuthority (authorityOf rest) true with
  | error e => simp [Except.map]
  | ok a =>
    simp only [Except.map]
    split
    · rename_i hsend
      simp [hsend, eq_comm]
    · rename_i hsend
      simp [hsend]

/-- **Which keys have one target**: slashes in front of a key never matter, and plain keys have one
target only if the store in memory does not tell them apart; unless the address has a fragment,
behind which all keys are lost. -/
theorem plain_keys_keep_apart {address : String} {token : Option String}
    (h : ofAddress address token = .ok c) (k k' : String) :
    (Memory.SameKey k k' ↔ Memory.normalKey k = Memory.normalKey k') ∧
    (Memory.SameKey k k' → ∀ method body,
      c.request method k none body = c.request method k' none body) ∧
    ∀ method method' body body',
      ((c.request method k none body).isSome = true ↔
        (c.request method' k' none body').isSome = true) ∧
      ∀ r r', c.request method k none body = some r → c.request method' k' none body' = some r' →
        ('#' ∈ c.address.toList → r.url.target = r'.url.target) ∧
        ('#' ∉ c.address.toList → IsPlain (Memory.normalKey k).toList →
          IsPlain (Memory.normalKey k').toList →
            (r.url.target = r'.url.target ↔ Memory.SameKey k k')) := by
  obtain ⟨secure, rest, haddress⟩ := isWebAddress_of_ofAddress h
  refine ⟨Memory.sameKey_iff, fun hsame method body => ?_, fun method method' body body' => ?_⟩
  · rw [request, request, endpoint, endpoint, Memory.sameKey_iff.mp hsame]
  · constructor
    · simp only [Option.isSome_iff_exists, request_eq_some_iff haddress]
      constructor
      · rintro ⟨-, hsend, a, ha, -⟩
        exact ⟨_, hsend, a, ha, rfl⟩
      · rintro ⟨-, hsend, a, ha, -⟩
        exact ⟨_, hsend, a, ha, rfl⟩
    · intro r r' hr hr'
      obtain ⟨-, a, ha, rfl⟩ := (request_eq_some_iff haddress).mp hr
      obtain ⟨-, a', ha', rfl⟩ := (request_eq_some_iff haddress).mp hr'
      obtain rfl : a = a' := Except.ok.inj (ha.symm.trans ha')
      rw [← haddress.mem_behindAuthority_iff]
      simp only [WebUrl.target_withoutLogin]
      constructor
      · intro hnumber
        exact target_webUrl_of_fragment hnumber secure a _ _
      · intro hnumber hk hk'
        rw [hk.ending_eq, hk'.ending_eq, Memory.sameKey_iff]
        exact (target_webUrl_inj hnumber secure a hk hk').trans String.toList_inj

/-- A server on the same machine. -/
def loopback : Client := ⟨"http://[::1]:8500/v1/kv", none, RemoteSettings.usual.timeout⟩

/-- The URL of a path on that server. -/
def loopbackUrl (segments : List String) : WebUrl :=
  ⟨false, "", .ipv6 [0, 0, 0, 0, 0, 0, 0, 1], some 8500, segments, none, none⟩

theorem plain_keys_keep_apart_on_loopback :
    ofAddress "http://[::1]:8500/v1/kv/" none = .ok loopback ∧
      loopback.request .get "/config/app" none [] =
        some ⟨.get, loopbackUrl ["v1", "kv", "config", "app"], none, none, []⟩ ∧
      loopback.request .put "config/my app" none [0x31] =
        some ⟨.put, loopbackUrl ["v1", "kv", "config", "my%20app"], none, none, [0x31]⟩ ∧
      ('#' ∉ loopback.address.toList ∧ IsPlain (Memory.normalKey "/config/app").toList ∧
        IsPlain (Memory.normalKey "config/my app").toList) ∧
      ((loopbackUrl ["v1", "kv", "config", "app"]).target =
        (loopbackUrl ["v1", "kv", "config", "my%20app"]).target ↔
          Memory.SameKey "/config/app" "config/my app") := by
  have hclient : ofAddress "http://[::1]:8500/v1/kv/" none = .ok loopback := by rfl
  have hget : loopback.request .get "/config/app" none [] =
      some ⟨.get, loopbackUrl ["v1", "kv", "config", "app"], none, none, []⟩ := by rfl
  have hput : loopback.request .put "config/my app" none [0x31] =
      some ⟨.put, loopbackUrl ["v1", "kv", "config", "my%20app"], none, none, [0x31]⟩ := by rfl
  have hnumber : '#' ∉ loopback.address.toList := by decide
  have hk : IsPlain (Memory.normalKey "/config/app").toList := by decide
  have hk' : IsPlain (Memory.normalKey "config/my app").toList := by decide
  obtain ⟨-, -, hrequests⟩ := plain_keys_keep_apart hclient "/config/app" "config/my app"
  exact ⟨hclient, hget, hput, ⟨hnumber, hk, hk'⟩,
    ((hrequests .get .put [] [0x31]).2 _ _ hget hput).2 hnumber hk hk'⟩

/-- A space is sent as an escape, and an escape as it is: two keys, of which writing one writes the
other. -/
theorem escape_reaches_another_key :
    ofAddress "http://[::1]:8500/v1/kv" none = .ok loopback ∧
      loopback.request .put "a b" none [0x31] =
        some ⟨.put, loopbackUrl ["v1", "kv", "a%20b"], none, none, [0x31]⟩ ∧
      loopback.request .get "a%20b" none [] =
        some ⟨.get, loopbackUrl ["v1", "kv", "a%20b"], none, none, []⟩ ∧
      ¬Memory.SameKey "a b" "a%20b" := by
  refine ⟨by rfl, by rfl, by rfl, fun h => ?_⟩
  have hkeys := Memory.sameKey_iff.mp h
  revert hkeys
  decide

end Client

end LiveConfig
