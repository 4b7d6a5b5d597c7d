import LiveConfig.Bootstrap
import LiveConfig.Proofs.MemoryReads

/-!
Seeding a key while others write it.

The value of a key is read first, and the local default is written only after an answer that the key
has no entry.  Reading and writing are requests of their own, so that somebody else may write in
between, and that value is overwritten: the last write wins.  Main statement:
`seed_lands_after_absence`, nothing else is ever overwritten, and the default is written at most
once.
-/

namespace LiveConfig

/-! ### The requests of a seeding -/

/-- Writes of a value to a key that have failed, and at most one at the end that has not. -/
inductive Attempts (key : String) (value : Bytes) : List Answered → Prop
  | none : Attempts key value []
  | failed {rs} (e : ConfigError) (h : Attempts key value rs) :
      Attempts key value (.write key value (.error e) :: rs)
  | done : Attempts key value [.write key value (.ok ())]

theorem Attempts.of_success {key k : String} {value v : Bytes} {rs rs' : List Answered}
    (h : Attempts key value (rs ++ .write k v (.ok ()) :: rs')) :
    k = key ∧ v = value ∧ rs' = [] ∧ ∀ r ∈ rs, ∃ e, r = .write key value (.error e) := by
  generalize hall : rs ++ .write k v (.ok ()) :: rs' = all at h
  induction h generalizing rs with
  | none => simp at hall
  | failed e h ih =>
    cases rs with
    | nil => simp at hall
    | cons r rs =>
      obtain ⟨rfl, hrest⟩ := List.cons.inj hall
      obtain ⟨hk, hv, hlast, herrors⟩ := ih hrest
      refine ⟨hk, hv, hlast, fun q hq => ?_⟩
      rcases List.mem_cons.mp hq with rfl | hq
      · exact ⟨e, rfl⟩
      · exact herrors q hq
  | done =>
    cases rs with
    | nil =>
      cases hall
      exact ⟨rfl, rfl, rfl, by simp⟩
    | cons r rs => simp at hall

namespace Exchange

variable {α : Type} {key storeName : String} {value : Bytes} {localPath : Option String}
  {files : Files} {rs : List Answered}

theorem attempts_of_writeRepeating {f : WriteAnswer → Exchange α} {pauses : List Span}
    {e : Exchange α} (hf : ∀ a, ∃ x, f a = .done x)
    (h : Recorded Step ((writeRepeating key value pauses).bind f) rs e) :
    Attempts key value rs := by
  have hend : ∀ a rest, Recorded Step (f a) rest e → rest = [] := by
    intro a rest hrest
    obtain ⟨x, hx⟩ := hf a
    rw [hx] at hrest
    exact (of_done hrest).1
  induction pauses generalizing rs with
  | nil =>
    rcases of_write h with ⟨rfl, -⟩ | ⟨a, rest, rfl, hrest⟩
    · exact .none
    · obtain rfl := hend a rest hrest
      cases a with
      | ok => exact .done
      | error e => exact .failed e .none
  | cons p pauses ih =>
    rcases of_write h with ⟨rfl, -⟩ | ⟨a, rest, rfl, hrest⟩
    · exact .none
    · cases a with
      | ok =>
        obtain rfl := hend _ rest hrest
        exact .done
      | error e =>
        refine .failed e ?_
        dsimp only at hrest
        split at hrest
        · rcases of_pause hrest with ⟨rfl, -⟩ | hrest
          · exact .none
          · exact ih hrest
        · obtain rfl := hend _ rest hrest
          exact .none

/-- **The requests of a seeding**: a read, and after the answer that there is no entry attempts to
write the local default. -/
theorem requests_of_fetchOrSeed {e : Exchange (Except ConfigError Bytes)}
    (h : Recorded Step (fetchOrSeed storeName key localPath files) rs e) :
    rs = [] ∨ ∃ a ws, rs = .read key a :: ws ∧
      (ws = [] ∨ a = .ok none ∧ ∃ value, localDefault key localPath files = .ok value ∧
        Attempts key value ws) := by
  rcases of_read h with ⟨rfl, -⟩ | ⟨a, ws, rfl, hrest⟩
  · exact .inl rfl
  refine .inr ⟨a, ws, rfl, ?_⟩
  rcases a with e | _ | p
  · exact .inl (of_done hrest).1
  · dsimp only at hrest
    split at hrest
    · exact .inl (of_done hrest).1
    · rename_i value hvalue
      refine .inr ⟨rfl, value, hvalue, attempts_of_writeRepeating ?_ hrest⟩
      rintro (e | _)
      · exact ⟨_, rfl⟩
      · exact ⟨_, rfl⟩
  · exact .inl (of_done hrest).1

/-- **A seeding that writes** has read before that there is no entry, has failed to write since, and
makes no further request. -/
theorem success_of_fetchOrSeed {e : Exchange (Except ConfigError Bytes)} {k : String}
    {rs' : List Answered}
    (h : Recorded Step (fetchOrSeed storeName key localPath files)
      (rs ++ .write k value (.ok ()) :: rs') e) :
    k = key ∧ localDefault key localPath files = .ok value ∧ rs' = [] ∧
      ∃ fails, rs = .read key (.ok none) :: fails ∧
        ∀ r ∈ fails, ∃ e, r = .write key value (.error e) := by
  rcases requests_of_fetchOrSeed h with hnil | ⟨a, ws, hws, hcase⟩
  · simp at hnil
  cases rs with
  | nil => cases hws
  | cons r fails =>
    obtain ⟨rfl, rfl⟩ := List.cons.inj hws
    rcases hcase with hnil | ⟨rfl, v, hdefault, hattempts⟩
    · simp at hnil
    · obtain ⟨rfl, rfl, hlast, herrors⟩ := hattempts.of_success
      exact ⟨rfl, hdefault, hlast, fails, rfl, herrors⟩

end Exchange

/-! ### What a seed lands on -/

/-- Somebody else writes an entry, with its value and under its index. -/
def WrittenByOthers (m : Memory) (hs : List Happening) (key : String) (p : Pair) : Prop :=
  ∃ before a after, hs = before ++ .act a :: after ∧ (m.after before).Puts key p.value a ∧
    p.modifyIndex = ((m.after before).act a).index

/-- An entry that is there after one's own writes have failed was written by somebody else. -/
theorem writtenByOthers_of_current {m : Memory} {hs : List Happening} {key : String} {p : Pair}
    (htruthful : Truthful m hs) (hnone : m.current key = none)
    (hfailed : ∀ r ∈ requests hs, ∃ k v e, r = .write k v (.error e))
    (hp : (m.after hs).current key = some p) : WrittenByOthers m hs key p := by
  rcases Memory.current_acts_cases hp with hold | ⟨as, a, as', hhistory, hputs, hindex⟩
  · rw [hnone] at hold
    cases hold
  · obtain ⟨before, x, after, rfl, hx, rfl⟩ := exists_of_history_eq hhistory
    cases x with
    | act b =>
      cases hx
      exact ⟨before, a, after, rfl, hputs, hindex⟩
    | answer r =>
      obtain ⟨k, v, e, rfl⟩ := hfailed r (by simp [requests, Happening.answered?])
      obtain ⟨k', -, ha, hok⟩ := hputs
      have herror : .error e = ((m.acts (history before)).put k v).1 := htruthful.holds
      cases hx
      cases ha
      rw [← herror] at hok
      cases hok
    | deliver n v => cases hx

/-- After the answer that there is no entry a seeding goes on with its attempts to write. -/
theorem exists_attempts_of_absence {m : Memory} {key : String} {localPath : Option String}
    {files : Files} {value : Bytes} (hnone : m.read key = .ok none)
    (hdefault : Exchange.localDefault key localPath files = .ok value) (storeName : String) :
    ∃ next, Recorded Dialogue.Step ⟨m, Exchange.fetchOrSeed storeName key localPath files⟩
      [.answer (.read key (.ok none))]
      ⟨m, (Exchange.writeRepeating key value seedPauses).bind next⟩ := by
  have hrun : Recorded Dialogue.Step ⟨m, Exchange.fetchOrSeed storeName key localPath files⟩
      [.answer (.read key (m.read key))] ⟨m, _⟩ := .single .read
  rw [hnone] at hrun
  simp only [hdefault] at hrun
  exact ⟨_, hrun⟩

/-- **A seed lands only after absence.**  Whatever others do while a key is seeded: a write of the
seeding that takes effect writes the local default to the key, it is the last request of the
seeding, and at the moment of the first one the key had no entry.  An entry that it lands on was
written by somebody else between these two moments. -/
theorem seed_lands_after_absence (m : Memory) (storeName key : String) (localPath : Option String)
    (files : Files) (hs before after : List Happening) (k : String) (value : Bytes)
    (d : Dialogue (Except ConfigError Bytes))
    (hrun : Recorded Dialogue.Step ⟨m, Exchange.fetchOrSeed storeName key localPath files⟩ hs d)
    (hlands : hs = before ++ .answer (.write k value (.ok ())) :: after) :
    k = key ∧ Exchange.localDefault key localPath files = .ok value ∧ requests after = [] ∧
      ∃ fore between, before = fore ++ .answer (.read key (.ok none)) :: between ∧
        requests fore = [] ∧ (m.after fore).current key = none ∧
        ∀ p, (m.after before).current key = some p →
          WrittenByOthers (m.after fore) between key p := by
  have htruthful := (Dialogue.truthful hrun).2
  have hrequests := Dialogue.recorded_rest hrun
  rw [hlands, requests_append] at hrequests
  obtain ⟨rfl, hdefault, hlast, fails, hbefore, herrors⟩ :=
    Exchange.success_of_fetchOrSeed hrequests
  refine ⟨rfl, hdefault, hlast, ?_⟩
  obtain ⟨fore, between, rfl, hfore, hbetween⟩ := @exists_of_requests_eq _ [] _ _ hbefore
  rw [hlands, List.append_assoc] at htruthful
  have hnone : (m.after fore).current k = none := Memory.current_of_read htruthful.holds
  refine ⟨fore, between, rfl, hfore, hnone, fun p hp => ?_⟩
  rw [Memory.after_append] at hp
  have htruthful' : Truthful (m.after fore) between :=
    (truthful_append.mp (truthful_append.mp htruthful).2.2).1
  refine writtenByOthers_of_current htruthful' hnone (fun r hr => ?_) hp
  rw [hbetween] at hr
  obtain ⟨e, rfl⟩ := herrors r hr
  exact ⟨k, value, e, rfl⟩

/-- Somebody else writes after the first attempt has failed, and the second one lands on that. -/
theorem seed_lands_after_absence_between_attempts :
    let files := Files.ofList [("default", .ok [0x7B, 0x7D])]
    let m := Memory.empty.failPuts 1
    let between : List Happening :=
      [.answer (.write "k" [0x7B, 0x7D] (.error Memory.injected)), .act (.put "/k" [0x5B, 0x5D])]
    ∃ p d, Recorded Dialogue.Step ⟨m, Exchange.fetchOrSeed "race" "k" (some "default") files⟩
        (.answer (.read "k" (.ok none)) :: between ++
          .answer (.write "k" [0x7B, 0x7D] (.ok ())) :: []) d ∧
      (m.after between).current "k" = some p ∧ WrittenByOthers m between "k" p := by
  intro files m between
  have hdefault : Exchange.localDefault "k" (some "default") files = .ok [0x7B, 0x7D] := rfl
  obtain ⟨next, hread⟩ := exists_attempts_of_absence (m := m) rfl hdefault "race"
  have hinjected : m.put "k" [0x7B, 0x7D] = (.error Memory.injected, .empty) := rfl
  have hput : (Memory.empty.act (.put "/k" [0x5B, 0x5D])).put "k" [0x7B, 0x7D] = (.ok (), _) := rfl
  have hpaused := (hread.tail (.write hinjected)).tail .pause
  have hrun := (hpaused.tail (.act (.put "/k" [0x5B, 0x5D]))).tail (.write hput)
  have hp : (m.after between).current "k" = some ⟨"k", 1, 1, 0, 0, [0x5B, 0x5D], none⟩ := rfl
  obtain ⟨-, -, -, fore, between', hbefore, hfore, -, hothers⟩ :=
    seed_lands_after_absence m "race" "k" (some "default") files _
      (.answer (.read "k" (.ok none)) :: between) [] "k" [0x7B, 0x7D] _ hrun rfl
  -- Nothing happens before the read in this run.
  obtain ⟨rfl, rfl⟩ : fore = [] ∧ between' = between := by
    cases fore with
    | nil => exact ⟨rfl, (List.cons.inj hbefore).2.symm⟩
    | cons x fore =>
      obtain ⟨rfl, -⟩ := List.cons.inj hbefore
      simp [requests, Happening.answered?] at hfore
  exact ⟨_, _, hrun, hp, hothers _ hp⟩

/-- A seed does not always land on an absent key: it overwrites a value that somebody else writes
between the read and the write. -/
theorem seed_overwrites_interposed_write :
    ¬ ∀ (m : Memory) (storeName key : String) (localPath : Option String) (files : Files)
      (hs before after : List Happening) (value : Bytes)
      (d : Dialogue (Except ConfigError Bytes)),
      Memory.remote.Reaches .empty m →
      Recorded Dialogue.Step ⟨m, Exchange.fetchOrSeed storeName key localPath files⟩ hs d →
      (∀ a, .act a ∈ hs → ∃ v, a = .put key v) →
      hs = before ++ .answer (.write key value (.ok ())) :: after →
      (m.after before).current key = none := by
  intro h
  let files := Files.ofList [("default", .ok [0x7B, 0x7D])]
  have hdefault : Exchange.localDefault "k" (some "default") files = .ok [0x7B, 0x7D] := rfl
  obtain ⟨next, hread⟩ := exists_attempts_of_absence (m := .empty) rfl hdefault "race"
  have hput : (Memory.empty.act (.put "k" [0x31])).put "k" [0x7B, 0x7D] = (.ok (), _) := rfl
  have hrun := (hread.tail (.act (.put "k" [0x31]))).tail (.write hput)
  have hnone := h .empty "race" "k" (some "default") files _
    [.answer (.read "k" (.ok none)), .act (.put "k" [0x31])] [] _ _
    (RemoteStore.Reaches.refl _) hrun (by simp) rfl
  have hsome : (Memory.empty.act (.put "k" [0x31])).current "k" =
      some ⟨"k", 1, 1, 0, 0, [0x31], none⟩ := rfl
  cases hsome.symm.trans hnone

end LiveConfig
