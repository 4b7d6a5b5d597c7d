import LiveConfig.Proofs.Seeding

/-!
How a seeding ends.

A remote store may answer each request as it likes; a `Respondent` is one that answers by what it
has answered before.  `Seeds` says which requests a seeding makes and what comes of them, for each
way in which they can be answered.  Main statements: `seeding_ends_as_answered`, every seeding ends
like that, and on the store in memory the key then has the value that the seeding has returned;
`seeding_attempts_bounded`, how often it tries to write.
-/

namespace LiveConfig

/-! ### Conversations from beginning to end -/

/-- A remote store that answers each request by all that it has answered before. -/
structure Respondent where
  read : List Answered → String → ReadAnswer
  write : List Answered → String → Bytes → WriteAnswer

/-- Whether a store gives these answers, after those in the past. -/
def Respondent.Answers (R : Respondent) : List Answered → List Answered → Prop
  | _, [] => True
  | past, .read key a :: rs =>
    a = R.read past key ∧ R.Answers (past ++ [.read key a]) rs
  | past, .write key value a :: rs =>
    a = R.write past key value ∧ R.Answers (past ++ [.write key value a]) rs

namespace Exchange

variable {α β : Type} {e e' : Exchange α} {f : α → Exchange β} {rs : List Answered}

/-- **Every conversation comes to an end**, whatever it is answered. -/
theorem exists_recorded_done (R : Respondent) (past : List Answered) (e : Exchange α) :
    ∃ rs x, Recorded Step e rs (.done x) ∧ R.Answers past rs := by
  induction e generalizing past with
  | done x => exact ⟨[], x, .refl, trivial⟩
  | read key next ih =>
    obtain ⟨rs, x, hrun, hanswers⟩ := ih (R.read past key) (past ++ [.read key (R.read past key)])
    exact ⟨_, x, hrun.head (.read _), rfl, hanswers⟩
  | write key value next ih =>
    obtain ⟨rs, x, hrun, hanswers⟩ :=
      ih (R.write past key value) (past ++ [.write key value (R.write past key value)])
    exact ⟨_, x, hrun.head (.write _), rfl, hanswers⟩
  | pause time next ih =>
    obtain ⟨rs, x, hrun, hanswers⟩ := ih past
    exact ⟨_, x, hrun.head .pause, hanswers⟩

theorem recorded_bind (h : Recorded Step e rs e') : Recorded Step (e.bind f) rs (e'.bind f) := by
  induction h with
  | refl => exact .refl
  | tail _ hstep ih =>
    cases hstep with
    | read a => exact ih.tail (.read a)
    | write a => exact ih.tail (.write a)
    | pause => exact ih.tail .pause

section Ended

variable {key : String} {value : Bytes} {time : Span} {x y : α}

theorem ended_of_done (h : Recorded Step (.done x) rs (.done y)) : rs = [] ∧ y = x :=
  (of_done h).imp_right done.inj

theorem ended_of_read {next : ReadAnswer → Exchange α}
    (h : Recorded Step (.read key next) rs (.done y)) :
    ∃ a rest, rs = .read key a :: rest ∧ Recorded Step (next a) rest (.done y) :=
  (of_read h).resolve_left nofun

theorem ended_of_write {next : WriteAnswer → Exchange α}
    (h : Recorded Step (.write key value next) rs (.done y)) :
    ∃ a rest, rs = .write key value a :: rest ∧ Recorded Step (next a) rest (.done y) :=
  (of_write h).resolve_left nofun

theorem ended_of_pause {next : Exchange α} (h : Recorded Step (.pause time next) rs (.done y)) :
    Recorded Step next rs (.done y) :=
  (of_pause h).resolve_left nofun

end Ended

/-- A conversation in two parts makes the requests of both. -/
theorem ended_of_bind {y : β} (h : Recorded Step (e.bind f) rs (.done y)) :
    ∃ x rs₁ rs₂, rs = rs₁ ++ rs₂ ∧ Recorded Step e rs₁ (.done x) ∧
      Recorded Step (f x) rs₂ (.done y) := by
  induction e generalizing rs with
  | done x => exact ⟨x, [], rs, rfl, .refl, h⟩
  | read key next ih =>
    obtain ⟨a, rest, rfl, hrest⟩ := ended_of_read h
    obtain ⟨x, rs₁, rs₂, rfl, hx, hy⟩ := ih a hrest
    exact ⟨x, .read key a :: rs₁, rs₂, rfl, hx.head (.read a), hy⟩
  | write key value next ih =>
    obtain ⟨a, rest, rfl, hrest⟩ := ended_of_write h
    obtain ⟨x, rs₁, rs₂, rfl, hx, hy⟩ := ih a hrest
    exact ⟨x, .write key value a :: rs₁, rs₂, rfl, hx.head (.write a), hy⟩
  | pause time next ih =>
    obtain ⟨x, rs₁, rs₂, rfl, hx, hy⟩ := ih (ended_of_pause h)
    exact ⟨x, rs₁, rs₂, rfl, hx.head .pause, hy⟩

end Exchange

/-! ### Attempts to write -/

theorem ConfigError.isTransient_iff {e : ConfigError} :
    e.isTransient = true ↔ ∃ message, e = .transport message := by
  cases e <;> simp [isTransient]

/-- Writes of a value to a key that fail in passing. -/
def refusals (key : String) (value : Bytes) (messages : List String) : List Answered :=
  messages.map fun message => .write key value (.error (.transport message))

theorem length_refusals (key : String) (value : Bytes) (messages : List String) :
    (refusals key value messages).length = messages.length := List.length_map _

theorem length_seedPauses : seedPauses.length = seedRepetitions := by simp [seedPauses]

theorem not_mem_refusals {key k : String} {value v : Bytes} {messages : List String} :
    .write k v (.ok ()) ∉ refusals key value messages := by
  simp [refusals]

namespace Exchange

variable {key : String} {value : Bytes} {pauses : List Span} {rs : List Answered} {a : WriteAnswer}

/-- An attempt that fails in passing is repeated after a pause. -/
theorem step_of_refusal (p : Span) (message : String) :
    Step (writeRepeating key value (p :: pauses)) [.write key value (.error (.transport message))]
      (.pause p (writeRepeating key value pauses)) :=
  .write (.error (.transport message))

/-- No other attempt is repeated, nor is one after the last pause. -/
theorem step_of_last (h : pauses ≠ [] → ∀ message, a ≠ .error (.transport message)) :
    Step (writeRepeating key value pauses) [.write key value a] (.done a) := by
  cases pauses with
  | nil => exact .write a
  | cons p pauses =>
    have hstep : Step (writeRepeating key value (p :: pauses)) _ _ := .write a
    cases a with
    | ok => exact hstep
    | error e =>
      have hfinal : ¬ e.isTransient = true := fun htransient => by
        obtain ⟨message, rfl⟩ := ConfigError.isTransient_iff.mp htransient
        exact h (List.cons_ne_nil _ _) message rfl
      dsimp only at hstep
      rwa [if_neg hfinal] at hstep

/-- **What attempts there are**: each but the last fails in passing, and so does the last only if
there is no pause left. -/
theorem refusals_of_writeRepeating
    (h : Recorded Step (writeRepeating key value pauses) rs (.done a)) :
    ∃ messages, rs = refusals key value messages ++ [.write key value a] ∧
      messages.length ≤ pauses.length ∧
      (messages.length < pauses.length → ∀ message, a ≠ .error (.transport message)) := by
  induction pauses generalizing rs with
  | nil =>
    obtain ⟨b, rest, rfl, hrest⟩ := ended_of_write h
    obtain ⟨rfl, rfl⟩ := ended_of_done hrest
    exact ⟨[], rfl, Nat.le_refl _, nofun⟩
  | cons p pauses ih =>
    obtain ⟨b, rest, rfl, hrest⟩ := ended_of_write h
    cases b with
    | ok =>
      obtain ⟨rfl, rfl⟩ := ended_of_done hrest
      exact ⟨[], rfl, Nat.zero_le _, fun _ => nofun⟩
    | error e =>
      dsimp only at hrest
      split at hrest
      · rename_i htransient
        obtain ⟨message, rfl⟩ := ConfigError.isTransient_iff.mp htransient
        obtain ⟨messages, rfl, hle, hlast⟩ := ih (ended_of_pause hrest)
        exact ⟨message :: messages, rfl, Nat.succ_le_succ hle,
          fun hlt => hlast (Nat.lt_of_succ_lt_succ hlt)⟩
      · rename_i hfinal
        obtain ⟨rfl, rfl⟩ := ended_of_done hrest
        refine ⟨[], rfl, Nat.zero_le _, fun _ message hmessage => hfinal ?_⟩
        exact ConfigError.isTransient_iff.mpr ⟨message, Except.error.inj hmessage⟩

/-- There may be as many of them as there are pauses, and one more. -/
theorem recorded_writeRepeating {messages : List String} (hle : messages.length ≤ pauses.length)
    (hlast : messages.length < pauses.length → ∀ message, a ≠ .error (.transport message)) :
    Recorded Step (writeRepeating key value pauses)
      (refusals key value messages ++ [.write key value a]) (.done a) := by
  induction messages generalizing pauses with
  | nil => exact .single (step_of_last fun hne => hlast (List.length_pos_iff.mpr hne))
  | cons message messages ih =>
    cases pauses with
    | nil => exact absurd hle (Nat.not_succ_le_zero _)
    | cons p pauses =>
      have hrest := ih (Nat.le_of_succ_le_succ hle) fun hlt => hlast (Nat.succ_lt_succ hlt)
      have hpaused : Recorded Step (.pause p (writeRepeating key value pauses)) _ _ :=
        .head .pause hrest
      have hrefused := Recorded.head (step_of_refusal p message) hpaused
      exact hrefused

end Exchange

/-! ### What comes of a seeding -/

/-- The bytes of a local file that is given. -/
def Files.Holds (files : Files) (localPath : Option String) (path : String) (bytes : Bytes) :
    Prop :=
  localPath = some path ∧ files.read path = .ok bytes

/-- The requests of a seeding, and what comes of them. -/
inductive Seeds (key : String) (localPath : Option String) (files : Files) :
    List Answered → Except ConfigError Bytes → Prop
  /-- The key cannot be read. -/
  | unread (e : ConfigError) (message : String) :
      Seeds key localPath files [.read key (.error e)] (.error (.bootstrap key message))
  | found (p : Pair) : Seeds key localPath files [.read key (.ok (some p))] (.ok p.value)
  /-- The key has no entry, and no local file is given or it cannot be read. -/
  | missing (message : String)
      (h : localPath = none ∨ ∃ path f, localPath = some path ∧ files.read path = .error f) :
      Seeds key localPath files [.read key (.ok none)] (.error (.bootstrap key message))
  /-- The local file holds no document. -/
  | malformed {path bytes message} (hfile : files.Holds localPath path bytes)
      (h : Document.parse bytes = .error message) :
      Seeds key localPath files [.read key (.ok none)] (.error (.load path message))
  /-- Attempts fail in passing, and the last one takes effect. -/
  | seeded {path bytes d} (hfile : files.Holds localPath path bytes)
      (h : Document.parse bytes = .ok d) (messages : List String) :
      Seeds key localPath files
        (.read key (.ok none) :: (refusals key bytes messages ++ [.write key bytes (.ok ())]))
        (.ok bytes)
  /-- The last attempt fails as well. -/
  | unwritten {path bytes d} (hfile : files.Holds localPath path bytes)
      (h : Document.parse bytes = .ok d) (messages : List String) (e : ConfigError)
      (message : String) :
      Seeds key localPath files
        (.read key (.ok none) :: (refusals key bytes messages ++ [.write key bytes (.error e)]))
        (.error (.bootstrap key message))

namespace Exchange

variable {storeName key : String} {localPath : Option String} {files : Files} {rs : List Answered}
  {value : Bytes} {r : Except ConfigError Bytes}

/-- What the local default can be. -/
theorem localDefault_cases (key : String) (localPath : Option String) (files : Files) :
    (∃ message, localDefault key localPath files = .error (.bootstrap key message) ∧
      (localPath = none ∨ ∃ path f, localPath = some path ∧ files.read path = .error f)) ∨
    (∃ path bytes message, localDefault key localPath files = .error (.load path message) ∧
      files.Holds localPath path bytes ∧ Document.parse bytes = .error message) ∨
    ∃ path bytes d, localDefault key localPath files = .ok bytes ∧
      files.Holds localPath path bytes ∧ Document.parse bytes = .ok d := by
  unfold localDefault
  cases localPath with
  | none => exact .inl ⟨_, rfl, .inl rfl⟩
  | some path =>
    cases hread : files.read path with
    | error f => exact .inl ⟨_, by simp only [hread]; rfl, .inr ⟨path, f, rfl, hread⟩⟩
    | ok bytes =>
      cases hparse : Document.parse bytes with
      | error message =>
        exact .inr (.inl ⟨path, bytes, message, by simp [hread, hparse], ⟨rfl, hread⟩, hparse⟩)
      | ok d =>
        exact .inr (.inr ⟨path, bytes, d, by simp [hread, hparse], ⟨rfl, hread⟩, hparse⟩)

/-- A seeding with a local default writes it until it has its result. -/
theorem of_absence {ws : List Answered} (hdefault : localDefault key localPath files = .ok value)
    (h : Recorded Step (fetchOrSeed storeName key localPath files) (.read key (.ok none) :: ws)
      (.done r)) :
    ∃ a, Recorded Step (writeRepeating key value seedPauses) ws (.done a) ∧
      (a = .ok () ∧ r = .ok value ∨
        ∃ e message, a = .error e ∧ r = .error (.bootstrap key message)) := by
  obtain ⟨a, ws, hws, hrest⟩ := ended_of_read h
  cases hws
  rw [hdefault] at hrest
  obtain ⟨a, ws, rest, rfl, hwrites, hrest⟩ := ended_of_bind hrest
  cases a with
  | ok =>
    obtain ⟨rfl, rfl⟩ := ended_of_done hrest
    exact ⟨_, (List.append_nil ws).symm ▸ hwrites, .inl ⟨rfl, rfl⟩⟩
  | error e =>
    obtain ⟨rfl, rfl⟩ := ended_of_done hrest
    exact ⟨_, (List.append_nil ws).symm ▸ hwrites, .inr ⟨e, _, rfl, rfl⟩⟩

/-- As many attempts may fail as there are repetitions, before one takes effect. -/
theorem recorded_fetchOrSeed (storeName : String) {messages : List String}
    (hdefault : localDefault key localPath files = .ok value)
    (hle : messages.length ≤ seedRepetitions) :
    Recorded Step (fetchOrSeed storeName key localPath files)
      (.read key (.ok none) :: (refusals key value messages ++ [.write key value (.ok ())]))
      (.done (.ok value)) := by
  have hread : Step (fetchOrSeed storeName key localPath files) _ _ := .read (.ok none)
  simp only [hdefault] at hread
  rw [← length_seedPauses] at hle
  have hwrites : Recorded Step (writeRepeating key value seedPauses) _ (.done (.ok ())) :=
    recorded_writeRepeating hle fun _ => nofun
  exact Recorded.head hread (recorded_bind hwrites)

/-- **How a seeding ends** by itself. -/
theorem seeds_of_recorded
    (h : Recorded Step (fetchOrSeed storeName key localPath files) rs (.done r)) :
    Seeds key localPath files rs r := by
  obtain ⟨a, ws, rfl, hrest⟩ := ended_of_read h
  rcases a with e | _ | p
  · obtain ⟨rfl, rfl⟩ := ended_of_done hrest
    exact .unread e _
  · rcases localDefault_cases key localPath files with ⟨message, hdefault, hfile⟩ |
      ⟨path, bytes, message, hdefault, hfile, hparse⟩ | ⟨path, bytes, d, hdefault, hfile, hparse⟩
    · rw [hdefault] at hrest
      obtain ⟨rfl, rfl⟩ := ended_of_done hrest
      exact .missing message hfile
    · rw [hdefault] at hrest
      obtain ⟨rfl, rfl⟩ := ended_of_done hrest
      exact .malformed hfile hparse
    · obtain ⟨a, hwrites, hresult⟩ := of_absence hdefault h
      obtain ⟨messages, rfl, -⟩ := refusals_of_writeRepeating hwrites
      rcases hresult with ⟨rfl, rfl⟩ | ⟨e, message, rfl, rfl⟩
      · exact .seeded hfile hparse messages
      · exact .unwritten hfile hparse messages e message
  · obtain ⟨rfl, rfl⟩ := ended_of_done hrest
    exact .found p

end Exchange

namespace Seeds

variable {key : String} {localPath : Option String} {files : Files} {rs : List Answered}
  {r : Except ConfigError Bytes}

/-- A seeding that does not come to an end well has written nothing. -/
theorem not_mem_of_error {e : ConfigError} (h : Seeds key localPath files rs (.error e))
    (k : String) (v : Bytes) : .write k v (.ok ()) ∉ rs := by
  cases h with
  | unread | missing | malformed => simp
  | unwritten => simp [not_mem_refusals]

/-- A seeding reads first, and an answer that is not absence is all that it needs. -/
theorem exists_read (h : Seeds key localPath files rs r) :
    ∃ a ws, rs = .read key a :: ws ∧
      (a ≠ .ok none → ws = [] ∧ ∀ p, a = .ok (some p) → r = .ok p.value) := by
  cases h with
  | unread e message => exact ⟨_, _, rfl, fun _ => ⟨rfl, nofun⟩⟩
  | found p =>
    refine ⟨_, _, rfl, fun _ => ⟨rfl, fun p' hp => ?_⟩⟩
    cases hp
    rfl
  | missing | malformed | seeded | unwritten => exact ⟨_, _, rfl, fun ha => absurd rfl ha⟩

end Seeds

/-! ### On the store in memory -/

/-- Nobody else writes or deletes. -/
def Undisturbed (hs : List Happening) : Prop := ∀ a, .act a ∈ hs → a.isChange = false

theorem Memory.current_of_entries {m m' : Memory} (h : m'.entries = m.entries) (key : String) :
    m'.current key = m.current key := by
  rw [current, current, h]

/-- A write is stored if it is answered well. -/
theorem Memory.put_of_ok {m : Memory} {key : String} {value : Bytes}
    (h : (m.put key value).1 = .ok ()) : (m.put key value).2 = m.stored key value := by
  rcases m.put_cases key value with ⟨-, hput⟩ | ⟨-, -, hput⟩ | ⟨-, -, hput⟩
  · rw [hput] at h
    cases h
  · rw [hput] at h
    cases h
  · rw [hput]

/-- Otherwise it leaves the entries alone. -/
theorem Memory.entries_put {m : Memory} {key : String} {value : Bytes}
    (h : (m.put key value).1 ≠ .ok ()) : (m.put key value).2.entries = m.entries := by
  rcases m.put_cases key value with ⟨-, hput⟩ | ⟨-, -, hput⟩ | ⟨-, -, hput⟩
  · rw [hput]
  · rw [hput]
  · exact absurd (congrArg Prod.fst hput) h

/-- What others may do leaves the entries alone, and so does a request that writes nothing. -/
theorem Happening.entries_after {m : Memory} {h : Happening}
    (hholds : ∀ r, h = .answer r → r.Holds m) (hundisturbed : ∀ a, h = .act a → a.isChange = false)
    (hfailed : ∀ k v, h ≠ .answer (.write k v (.ok ()))) : (m.after [h]).entries = m.entries := by
  cases h with
  | act a =>
    cases a with
    | setAvailable | failPuts => rfl
    | put | delete => exact absurd (hundisturbed _ rfl) nofun
  | answer r =>
    cases r with
    | read => rfl
    | write k v a =>
      obtain rfl : a = (m.put k v).1 := hholds _ rfl
      exact Memory.entries_put fun hok => hfailed k v (by rw [hok])
  | deliver => rfl

/-- **As long as nothing is written**, the entries stay as they are. -/
theorem entries_of_undisturbed {m : Memory} {hs : List Happening} (htruthful : Truthful m hs)
    (hundisturbed : Undisturbed hs) (hfailed : ∀ k v, .write k v (.ok ()) ∉ requests hs) :
    (m.after hs).entries = m.entries := by
  induction hs generalizing m with
  | nil => rfl
  | cons h hs ih =>
    obtain ⟨hholds, hrest⟩ := htruthful
    have hafter : m.after (h :: hs) = (m.after [h]).after hs := m.after_append [h] hs
    have hrequests : requests (h :: hs) = requests [h] ++ requests hs := requests_append [h] hs
    rw [hrequests] at hfailed
    rw [hafter, ih hrest (fun a ha => hundisturbed a (List.mem_cons_of_mem _ ha)) fun k v hmem =>
      hfailed k v (List.mem_append_right _ hmem)]
    refine Happening.entries_after hholds (fun a ha => ?_) fun k v hh => ?_
    · exact hundisturbed a (ha ▸ List.mem_cons_self)
    · subst hh
      exact hfailed k v (List.mem_append_left _ List.mem_cons_self)

/-- **A conversation that nobody interrupts** comes to an end. -/
theorem Dialogue.exists_recorded_done {α : Type} (m : Memory) (e : Exchange α) :
    ∃ hs m' x, Recorded Step ⟨m, e⟩ hs ⟨m', .done x⟩ ∧ ∀ a, .act a ∉ hs := by
  induction e generalizing m with
  | done x => exact ⟨[], m, x, .refl, nofun⟩
  | read key next ih =>
    obtain ⟨hs, m', x, hrun, halone⟩ := ih (m.read key) m
    exact ⟨_, m', x, hrun.head .read, by simpa using halone⟩
  | write key value next ih =>
    obtain ⟨hs, m', x, hrun, halone⟩ := ih (m.put key value).1 (m.put key value).2
    exact ⟨_, m', x, hrun.head (.write rfl), by simpa using halone⟩
  | pause time next ih =>
    obtain ⟨hs, m', x, hrun, halone⟩ := ih m
    exact ⟨_, m', x, hrun.head .pause, by simpa using halone⟩

section Seeding

variable {m m' : Memory} {hs : List Happening} {storeName key : String} {localPath : Option String}
  {files : Files}

/-- An entry that is there stays as long as nothing is written. -/
theorem current_of_undisturbed {before after : List Happening}
    (htruthful : Truthful m (before ++ after)) (hundisturbed : Undisturbed (before ++ after))
    (hfailed : ∀ k v, .write k v (.ok ()) ∉ requests after) (key : String) :
    (m.after (before ++ after)).current key = (m.after before).current key := by
  rw [Memory.after_append]
  exact Memory.current_of_entries (entries_of_undisturbed (truthful_append.mp htruthful).2
    (fun a ha => hundisturbed a (List.mem_append_right _ ha)) hfailed) key

/-- **After a seeding that ends well** the key has the value that it has returned. -/
theorem current_of_seeding {b : Bytes}
    (hrun : Recorded Dialogue.Step ⟨m, Exchange.fetchOrSeed storeName key localPath files⟩ hs
      ⟨m', .done (.ok b)⟩)
    (hundisturbed : Undisturbed hs) : ∃ p, m'.current key = some p ∧ p.value = b := by
  obtain ⟨rfl, htruthful⟩ : m' = m.after hs ∧ Truthful m hs := Dialogue.truthful hrun
  have hseeds := Exchange.seeds_of_recorded (Dialogue.recorded_rest hrun)
  generalize hrequests : requests hs = rs at hseeds
  cases hseeds with
  | found p =>
    obtain ⟨before, after, rfl, -, hafter⟩ := @exists_of_requests_eq _ [] _ _ hrequests
    have hcurrent : (m.after before).current key = some p :=
      Memory.current_of_read htruthful.holds
    have hread : requests (.answer (.read key (.ok (some p))) :: after) =
        .read key (.ok (some p)) :: requests after := rfl
    have hnone : ∀ k v, .write k v (.ok ()) ∉
        requests (.answer (.read key (.ok (some p))) :: after) := by simp [hread, hafter]
    exact ⟨p, (current_of_undisturbed htruthful hundisturbed hnone key).trans hcurrent, rfl⟩
  | seeded hfile hparse messages =>
    obtain ⟨before, after, rfl, -, hafter⟩ :=
      @exists_of_requests_eq _ (.read key (.ok none) :: refusals key b messages) _ _ hrequests
    have hok : .ok () = ((m.after before).put key b).1 := htruthful.holds
    have hstored : m.after (before ++ [.answer (.write key b (.ok ()))]) =
        (m.after before).stored key b := by
      rw [Memory.after_append]
      exact Memory.put_of_ok hok.symm
    have hcurrent : (m.after (before ++ [.answer (.write key b (.ok ()))])).current key = some
        (Memory.written (Memory.normalKey key) b ((m.after before).index + 1)
          ((m.after before).current key)) := by
      rw [hstored, Memory.current_stored, if_pos rfl]
    have hnone : ∀ k v, .write k v (.ok ()) ∉ requests after := by simp [hafter]
    rw [List.append_cons] at htruthful hundisturbed ⊢
    exact ⟨_, (current_of_undisturbed htruthful hundisturbed hnone key).trans hcurrent,
      Memory.value_written _ _ _ _⟩

/-- **After a seeding that fails** the entries are what they were. -/
theorem entries_of_failed_seeding {e : ConfigError}
    (hrun : Recorded Dialogue.Step ⟨m, Exchange.fetchOrSeed storeName key localPath files⟩ hs
      ⟨m', .done (.error e)⟩)
    (hundisturbed : Undisturbed hs) : m'.entries = m.entries := by
  obtain ⟨rfl, htruthful⟩ : m' = m.after hs ∧ Truthful m hs := Dialogue.truthful hrun
  have hseeds := Exchange.seeds_of_recorded (Dialogue.recorded_rest hrun)
  exact entries_of_undisturbed htruthful hundisturbed hseeds.not_mem_of_error

/-- **A seeding of a key that has an entry** reads it and writes nothing. -/
theorem seeding_of_current {p : Pair} {r : Except ConfigError Bytes}
    (hrun : Recorded Dialogue.Step ⟨m, Exchange.fetchOrSeed storeName key localPath files⟩ hs
      ⟨m', .done r⟩)
    (hundisturbed : Undisturbed hs) (hp : m.current key = some p) :
    m'.entries = m.entries ∧ ∃ before a after, hs = before ++ .answer (.read key a) :: after ∧
      requests before = [] ∧ requests after = [] ∧
      ((m.after before).available = true → r = .ok p.value) := by
  obtain ⟨rfl, htruthful⟩ : m' = m.after hs ∧ Truthful m hs := Dialogue.truthful hrun
  have hseeds := Exchange.seeds_of_recorded (Dialogue.recorded_rest hrun)
  obtain ⟨a, ws, hrequests, hcase⟩ := hseeds.exists_read
  obtain ⟨before, after, rfl, hbefore, hafter⟩ := @exists_of_requests_eq _ [] _ _ hrequests
  have hcurrent : (m.after before).current key = some p := by
    rw [← hp]
    refine Memory.current_of_entries (entries_of_undisturbed (truthful_append.mp htruthful).1
      (fun b hb => hundisturbed b (List.mem_append_left _ hb)) fun k v hmem => ?_) key
    rw [hbefore] at hmem
    cases hmem
  have hread : a = (m.after before).read key := htruthful.holds
  rw [Memory.read, hcurrent] at hread
  have hsome : a ≠ .ok none := by
    rintro rfl
    split at hread <;> cases hread
  obtain ⟨rfl, hresult⟩ := hcase hsome
  refine ⟨entries_of_undisturbed htruthful hundisturbed fun k v hmem => ?_,
    before, a, after, rfl, hbefore, hafter, fun hup => hresult p ?_⟩
  · rw [hrequests] at hmem
    simp at hmem
  · rw [hread, if_pos hup]

end Seeding

/-- **Every seeding ends as it is answered.**  Whatever a remote store answers, the requests of a
seeding and its result are those of `Seeds`; every store that answers brings it to its end.  On the
store in memory, with nobody else who writes, a seeding that fails leaves the entries alone.  After
one that ends well the key has the value that it has returned, and a later seeding only reads: if
the store is available then, it returns that value again. -/
theorem seeding_ends_as_answered (storeName key : String) (localPath : Option String)
    (files : Files) :
    (∀ rs r, Recorded Exchange.Step (Exchange.fetchOrSeed storeName key localPath files) rs
      (.done r) → Seeds key localPath files rs r) ∧
    (∀ R : Respondent, ∃ rs r, R.Answers [] rs ∧
      Recorded Exchange.Step (Exchange.fetchOrSeed storeName key localPath files) rs (.done r)) ∧
    ∀ m : Memory,
      (∃ hs m' r, (∀ a, .act a ∉ hs) ∧ Recorded Dialogue.Step
        ⟨m, Exchange.fetchOrSeed storeName key localPath files⟩ hs ⟨m', .done r⟩) ∧
      ∀ hs m' r, Recorded Dialogue.Step ⟨m, Exchange.fetchOrSeed storeName key localPath files⟩ hs
          ⟨m', .done r⟩ → Undisturbed hs →
        (∀ e, r = .error e → m'.entries = m.entries) ∧
        ∀ b, r = .ok b → (∃ p, m'.current key = some p ∧ p.value = b) ∧
          ∀ storeName' localPath' files' hs' m'' r', Recorded Dialogue.Step
              ⟨m', Exchange.fetchOrSeed storeName' key localPath' files'⟩ hs' ⟨m'', .done r'⟩ →
            Undisturbed hs' → m''.entries = m'.entries ∧
              ∃ before a after, hs' = before ++ .answer (.read key a) :: after ∧
                requests before = [] ∧ requests after = [] ∧
                ((m'.after before).available = true → r' = .ok b) := by
  refine ⟨fun rs r => Exchange.seeds_of_recorded, fun R => ?_, fun m => ⟨?_, ?_⟩⟩
  · obtain ⟨rs, r, hrun, hanswers⟩ := Exchange.exists_recorded_done R []
      (Exchange.fetchOrSeed storeName key localPath files)
    exact ⟨rs, r, hanswers, hrun⟩
  · obtain ⟨hs, m', r, hrun, halone⟩ := Dialogue.exists_recorded_done m
      (Exchange.fetchOrSeed storeName key localPath files)
    exact ⟨hs, m', r, halone, hrun⟩
  · intro hs m' r hrun hundisturbed
    refine ⟨?_, ?_⟩
    · rintro e rfl
      exact entries_of_failed_seeding hrun hundisturbed
    · rintro b rfl
      obtain ⟨p, hp, rfl⟩ := current_of_seeding hrun hundisturbed
      exact ⟨⟨p, hp, rfl⟩, fun _ _ _ _ _ _ hrun' hundisturbed' =>
        seeding_of_current hrun' hundisturbed' hp⟩

/-- The first attempt fails, the second one falls into an outage, and the third one is stored. -/
theorem seeding_ends_as_answered_after_outage :
    let bytes : Bytes := [0x7B, 0x7D]
    let files := Files.ofList [("default", .ok bytes)]
    let m := Memory.empty.failPuts 1
    let hs : List Happening := [.answer (.read "k" (.ok none)),
      .answer (.write "k" bytes (.error Memory.injected)), .act (.setAvailable false),
      .answer (.write "k" bytes (.error Memory.unavailable)), .act (.setAvailable true),
      .answer (.write "k" bytes (.ok ()))]
    ∃ m' p m'', Recorded Dialogue.Step
        ⟨m, Exchange.fetchOrSeed "memory" "k" (some "default") files⟩ hs ⟨m', .done (.ok bytes)⟩ ∧
      Undisturbed hs ∧ m'.current "k" = some p ∧ p.value = bytes ∧
      Recorded Dialogue.Step ⟨m', Exchange.fetchOrSeed "memory" "k" none files⟩
        [.answer (.read "k" (.ok (some p)))] ⟨m'', .done (.ok bytes)⟩ ∧
      m''.entries = m'.entries := by
  intro bytes files m hs
  let down := Memory.empty.act (.setAvailable false)
  let up := down.act (.setAvailable true)
  have hread : Recorded Dialogue.Step ⟨m, Exchange.fetchOrSeed "memory" "k" (some "default") files⟩
      [.answer (.read "k" (.ok none))] ⟨m, _⟩ := .single .read
  have hinjected : m.put "k" bytes = (.error Memory.injected, .empty) := rfl
  have hdown : down.put "k" bytes = (.error Memory.unavailable, down) := rfl
  have hput : up.put "k" bytes = (.ok (), up.stored "k" bytes) := rfl
  have hout := ((hread.tail (.write hinjected)).tail .pause).tail (.act (.setAvailable false))
  have hback := ((hout.tail (.write hdown)).tail .pause).tail (.act (.setAvailable true))
  have hrun : Recorded Dialogue.Step ⟨m, Exchange.fetchOrSeed "memory" "k" (some "default") files⟩
      hs ⟨up.stored "k" bytes, .done (.ok bytes)⟩ := hback.tail (.write hput)
  have hundisturbed : Undisturbed hs := fun a ha => by
    simp [hs] at ha
    rcases ha with rfl | rfl <;> rfl
  obtain ⟨-, -, hmemory⟩ := seeding_ends_as_answered "memory" "k" (some "default") files
  obtain ⟨⟨p, hp, hvalue⟩, hlater⟩ := ((hmemory m).2 _ _ _ hrun hundisturbed).2 _ rfl
  let m' := up.stored "k" bytes
  have hfound : m'.read "k" = .ok (some p) := congrArg Except.ok hp
  have hagain : Recorded Dialogue.Step ⟨m', Exchange.fetchOrSeed "memory" "k" none files⟩
      [.answer (.read "k" (m'.read "k"))] ⟨m', _⟩ := .single .read
  rw [hfound] at hagain
  simp only [hvalue] at hagain
  obtain ⟨hentries, -⟩ := hlater _ _ _ _ _ _ hagain (by simp [Undisturbed])
  exact ⟨_, p, _, hrun, hundisturbed, hp, hvalue, hagain, hentries⟩

/-! ### How many attempts there are -/

/-- **The attempts of a seeding** are at most one more than the repetitions that it may make.  They
are not more than these unless so many attempts have failed in passing. -/
theorem seeding_attempts_bounded (storeName key : String) (localPath : Option String)
    (files : Files) (value : Bytes) (ws : List Answered) (r : Except ConfigError Bytes)
    (hdefault : Exchange.localDefault key localPath files = .ok value)
    (hrun : Recorded Exchange.Step (Exchange.fetchOrSeed storeName key localPath files)
      (.read key (.ok none) :: ws) (.done r)) :
    (∀ w ∈ ws, ∃ a, w = .write key value a) ∧ ws.length ≤ seedRepetitions + 1 ∧
      (seedRepetitions < ws.length ↔
        ∃ messages, messages.length = seedRepetitions ∧ refusals key value messages <+: ws) := by
  obtain ⟨a, hwrites, -⟩ := Exchange.of_absence hdefault hrun
  obtain ⟨messages, rfl, hle, hlast⟩ := Exchange.refusals_of_writeRepeating hwrites
  rw [length_seedPauses] at hle hlast
  have hlength : (refusals key value messages ++ [Answered.write key value a]).length =
      messages.length + 1 := by simp [length_refusals]
  rw [hlength]
  refine ⟨fun w hw => ?_, Nat.succ_le_succ hle, fun hlt => ?_, ?_⟩
  · rcases List.mem_append.mp hw with hw | hw
    · obtain ⟨message, -, rfl⟩ := List.mem_map.mp hw
      exact ⟨_, rfl⟩
    · exact ⟨a, List.mem_singleton.mp hw⟩
  · exact ⟨messages, Nat.le_antisymm hle (Nat.le_of_lt_succ hlt), List.prefix_append _ _⟩
  · rintro ⟨failed, hfailed, hprefix⟩
    refine Nat.lt_succ_of_le (Nat.le_of_not_lt fun hlt => ?_)
    -- Otherwise the last attempt is one of those that have failed in passing, and it is repeated.
    have hle' := hprefix.length_le
    rw [length_refusals, hlength] at hle'
    have hall := hprefix.eq_of_length (by rw [length_refusals, hlength]; omega)
    have hmem : .write key value a ∈ refusals key value failed :=
      hall ▸ List.mem_append_right _ List.mem_cons_self
    obtain ⟨message, -, hmessage⟩ := List.mem_map.mp hmem
    cases hmessage
    exact hlast hlt message rfl

/-- Two attempts fail in passing, and the third one is the last. -/
theorem seeding_attempts_bounded_by_third :
    let files := Files.ofList [("default", .ok [0x7B, 0x7D])]
    let ws := refusals "k" [0x7B, 0x7D] (List.replicate 2 "injected PUT failure") ++
      [.write "k" [0x7B, 0x7D] (.ok ())]
    Recorded Exchange.Step (Exchange.fetchOrSeed "memory" "k" (some "default") files)
        (.read "k" (.ok none) :: ws) (.done (.ok [0x7B, 0x7D])) ∧
      ws.length ≤ seedRepetitions ∧
      ¬ ∃ messages, messages.length = seedRepetitions ∧
        refusals "k" [0x7B, 0x7D] messages <+: ws := by
  intro files ws
  have hdefault : Exchange.localDefault "k" (some "default") files = .ok [0x7B, 0x7D] := rfl
  have hrun : Recorded Exchange.Step (Exchange.fetchOrSeed "memory" "k" (some "default") files)
      (.read "k" (.ok none) :: ws) _ := Exchange.recorded_fetchOrSeed "memory" hdefault (by decide)
  obtain ⟨-, -, hexceed⟩ := seeding_attempts_bounded "memory" "k" (some "default") files
    [0x7B, 0x7D] ws _ hdefault hrun
  have hthree : ws.length ≤ seedRepetitions := by decide
  exact ⟨hrun, hthree, fun h => Nat.not_lt_of_le hthree (hexceed.mpr h)⟩

/-- There are more attempts than repetitions: the first one counts as none. -/
theorem seeding_attempts_exceed_repetitions :
    ¬ ∀ (storeName key : String) (localPath : Option String) (files : Files) (value : Bytes)
      (ws : List Answered) (r : Except ConfigError Bytes),
      Exchange.localDefault key localPath files = .ok value →
      Recorded Exchange.Step (Exchange.fetchOrSeed storeName key localPath files)
        (.read key (.ok none) :: ws) (.done r) → ws.length ≤ seedRepetitions := by
  intro h
  let files := Files.ofList [("default", .ok [0x7B, 0x7D])]
  have hdefault : Exchange.localDefault "k" (some "default") files = .ok [0x7B, 0x7D] := rfl
  have hle : (List.replicate 3 "injected PUT failure").length ≤ seedRepetitions := by decide
  have hrun := Exchange.recorded_fetchOrSeed "memory" hdefault hle
  exact absurd (h "memory" "k" (some "default") files _ _ _ hdefault hrun) (by decide)

end LiveConfig
