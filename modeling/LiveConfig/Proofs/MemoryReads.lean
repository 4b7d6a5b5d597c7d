import LiveConfig.Proofs.Records

/-!
Reads of a store in memory, some of which wait.

A read that waits keeps what it has seen, and nothing has happened to the store since then unless
the read has been woken.  So every answer is what a read at that moment would give, be it one that
has waited or not.  Main statement: `indexes_tell_changes`, of two reads of a key the indexes say
whether anything has happened to the key in between.
-/

namespace LiveConfig

/-! ### A waiting read -/

namespace Waiter

/-- How a waiting read stands when it has no answer: as it did, or with what is there now. -/
def Keeps (w : Waiter) (m : Memory) (w' : Waiter) : Prop :=
  (w.woken = false ∧ w' = w) ∨
    (m.available = true ∧ m.indexOf w.key = w.index ∧
      w' = { w with seen := m.current w.key, woken := false })

/-- **What going on with a waiting read can be**: it answers what is there, or it keeps what it has
seen and answers that at most. -/
theorem resume_cases (w : Waiter) (m : Memory) (now : Nat) :
    w.resume m now = .answered (m.read w.key) ∨
      ∃ w', w.Keeps m w' ∧
        (w.resume m now = .answered (.ok w'.seen) ∨ w.resume m now = .parked w') := by
  have hkeeps : ∀ w', w.Keeps m w' → (if w.woken then w.look m else .parked w) = .parked w' →
      ∃ w', w.Keeps m w' ∧
        (w.resume m now = .answered (.ok w'.seen) ∨ w.resume m now = .parked w') := by
    intro w' hk h
    refine ⟨w', hk, ?_⟩
    unfold resume
    dsimp only
    rw [h]
    by_cases hd : w'.deadline ≤ now
    · exact .inl (if_pos hd)
    · exact .inr (if_neg hd)
  cases hw : w.woken with
  | false => exact .inr (hkeeps w (.inl ⟨hw, rfl⟩) (by simp [hw]))
  | true =>
    cases ha : m.available with
    | false =>
      left
      simp [resume, look, hw, ha, Memory.read]
    | true =>
      by_cases hindex : m.indexOf w.key = w.index
      · exact .inr (hkeeps _ (.inr ⟨ha, hindex, rfl⟩) (by simp [look, hw, ha, hindex]))
      · left
        simp [resume, look, hw, ha, hindex, Memory.read]

/-- A waiting read that has been woken looks again, and another index is an answer. -/
theorem resume_of_other (w : Waiter) (m : Memory) (now : Nat) (hwoken : w.woken = true)
    (ha : m.available = true) (hindex : m.indexOf w.key ≠ w.index) :
    w.resume m now = .answered (.ok (m.current w.key)) := by
  have hlook : w.look m = .answered (.ok (m.current w.key)) := by
    simp [look, ha, hindex]
  unfold resume
  rw [if_pos hwoken, hlook]

end Waiter

/-- A read waits if the index that it knows is the one that is there. -/
theorem Memory.ask_of_same (m : Memory) (key : String) (q : Query) (now : Nat) (hq : q.index ≠ 0)
    (ha : m.available = true) (hindex : m.indexOf key = q.index) (htime : 0 < q.patience.ticks) :
    m.ask key (some q) now =
      .parked ⟨key, q.index, now + q.patience.ticks, m.current key, false⟩ := by
  have hnow : ¬ now + q.patience.ticks ≤ now := by omega
  unfold ask
  rw [Option.filter_some, if_pos (by simpa using hq)]
  simp [Waiter.resume, Waiter.look, ha, hindex, hnow]

/-- A waiting read that has just begun. -/
structure Waiter.Begins (w : Waiter) (key : String) (q : Option Query) : Prop where
  key : w.key = key
  woken : w.woken = true
  index : q.map (·.index) = some w.index
  pos : w.index ≠ 0

/-- **What a read can be**: an answer at once, or what a waiting read can be that has just begun. -/
theorem Memory.ask_cases (m : Memory) (key : String) (q : Option Query) (now : Nat) :
    m.ask key q now = .answered (m.read key) ∨
      ∃ w : Waiter, w.Begins key q ∧ m.ask key q now = w.resume m now := by
  unfold ask
  split
  · exact .inl rfl
  · rename_i q' hq'
    obtain ⟨rfl, hpos⟩ := Option.filter_eq_some_iff.mp hq'
    exact .inr ⟨_, ⟨rfl, rfl, rfl, by simpa using hpos⟩, rfl⟩

/-! ### What an answer shows -/

/-- What a read has seen is still there, unless it has been woken. -/
def Waiter.IsFresh (m : Memory) (w : Waiter) : Prop := w.woken = false → m.read w.key = .ok w.seen

/-- An answer is what is there, and a read that goes on waiting has seen that. -/
def Waiting.Shows (m : Memory) (key : String) : Waiting → Prop
  | .answered a => a = m.read key
  | .parked w => w.key = key ∧ m.read key = .ok w.seen

section Shows

variable {m : Memory} {w w' : Waiter}

theorem Waiter.IsFresh.of_keeps (hw : w.IsFresh m) (h : w.Keeps m w') :
    w'.key = w.key ∧ m.read w.key = .ok w'.seen := by
  rcases h with ⟨hwoken, rfl⟩ | ⟨ha, -, rfl⟩
  · exact ⟨rfl, hw hwoken⟩
  · exact ⟨rfl, by simp [Memory.read, ha]⟩

theorem Waiter.IsFresh.shows_resume (hw : w.IsFresh m) (now : Nat) :
    (w.resume m now).Shows m w.key := by
  rcases w.resume_cases m now with h | ⟨u, hu, h⟩
  · rw [h]
    rfl
  · obtain ⟨hkey, hread⟩ := hw.of_keeps hu
    rcases h with h | h <;> rw [h]
    · exact hread.symm
    · exact ⟨hkey, hread⟩

theorem Memory.shows_ask (m : Memory) (key : String) (q : Option Query) (now : Nat) :
    (m.ask key q now).Shows m key := by
  rcases m.ask_cases key q now with h | ⟨w, hw, h⟩
  · rw [h]
    rfl
  · have hfresh : w.IsFresh m := fun hnot => by simp [hw.woken] at hnot
    rw [h, ← hw.key]
    exact hfresh.shows_resume now

end Shows

/-! ### Many reads -/

/-- A store in memory with the reads that wait for it. -/
structure Desk where
  memory : Memory
  waiting : List Waiter

namespace Desk

/-- One step: somebody acts, which wakes all that wait, or a read begins or goes on. -/
inductive Step : Desk → List Happening → Desk → Prop
  | act {m ws} (a : Memory.Action) : Step ⟨m, ws⟩ [.act a] ⟨m.act a, ws.map Waiter.wake⟩
  | answer {m ws key q now a} (h : m.ask key q now = .answered a) :
      Step ⟨m, ws⟩ [.answer (.read key a)] ⟨m, ws⟩
  | park {m ws key q now w} (h : m.ask key q now = .parked w) : Step ⟨m, ws⟩ [] ⟨m, w :: ws⟩
  | finish {m us w vs now a} (h : w.resume m now = .answered a) :
      Step ⟨m, us ++ w :: vs⟩ [.answer (.read w.key a)] ⟨m, us ++ vs⟩
  | stay {m us w vs now w'} (h : w.resume m now = .parked w') :
      Step ⟨m, us ++ w :: vs⟩ [] ⟨m, us ++ w' :: vs⟩

/-- All reads that wait have seen what is there, unless they have been woken. -/
def Fresh (d : Desk) : Prop := ∀ w ∈ d.waiting, w.IsFresh d.memory

theorem Fresh.step {d d' : Desk} {hs : List Happening} (hd : d.Fresh) (h : Step d hs d') :
    d'.Fresh ∧ d'.memory = d.memory.after hs ∧ Truthful d.memory hs := by
  cases h with
  | act a =>
    refine ⟨fun w hw hnot => ?_, rfl, by simp [Truthful]⟩
    obtain ⟨u, -, rfl⟩ := List.mem_map.mp hw
    cases hnot
  | @answer m ws key q now a h =>
    have hshows := m.shows_ask key q now
    rw [h] at hshows
    exact ⟨hd, rfl, truthful_answer.mpr hshows⟩
  | @park m ws key q now w h =>
    have hshows := m.shows_ask key q now
    rw [h] at hshows
    refine ⟨fun u hu => ?_, rfl, trivial⟩
    rcases List.mem_cons.mp hu with rfl | hu
    · exact fun _ => hshows.1 ▸ hshows.2
    · exact hd u hu
  | @finish m us w vs now a h =>
    have hshows := (hd w (by simp)).shows_resume now
    rw [h] at hshows
    refine ⟨fun u hu => hd u ?_, rfl, truthful_answer.mpr hshows⟩
    rcases List.mem_append.mp hu with hu | hu <;> simp [hu]
  | @stay m us w vs now w' h =>
    have hshows := (hd w (by simp)).shows_resume now
    rw [h] at hshows
    refine ⟨fun u hu => ?_, rfl, trivial⟩
    rcases List.mem_append.mp hu with hu | hu
    · exact hd u (by simp [hu])
    · rcases List.mem_cons.mp hu with rfl | hu
      · exact fun _ => hshows.1 ▸ hshows.2
      · exact hd u (by simp [hu])

/-- **Every answer is what is there at that moment**, whether the read has waited or not. -/
theorem truthful {d d' : Desk} {hs : List Happening} (hd : d.Fresh) (h : Recorded Step d hs d') :
    d'.memory = d.memory.after hs ∧ Truthful d.memory hs :=
  (Recorded.truthful Desk.memory Fresh (fun hx hstep => hx.step hstep) h hd).2

/-- A store without entries for which nothing waits. -/
def empty : Desk := ⟨.empty, []⟩

theorem fresh_empty : empty.Fresh := by simp [Fresh, empty]

end Desk

/-! ### Two reads -/

theorem Memory.current_of_read {m : Memory} {key : String} {found : Option Pair}
    (h : .ok found = m.read key) : m.current key = found := by
  unfold read at h
  split at h
  · exact (Except.ok.inj h).symm
  · cases h

/-- **Of two reads of a key** the later one has at least the index of the earlier one.  The indexes
are the same just if no write of the key and no deletion of its entry has taken effect in between,
and then so are the entries.  No index is above the number of writes and deletions.  A key that has
been deleted and created again has indexes above all that it had before. -/
theorem indexes_tell_changes :
    (∀ (d : Desk) (hs before between after : List Happening) (k k' : String) (p q : Pair),
      Recorded Desk.Step .empty hs d →
      hs = before ++ .answer (.read k (.ok (some p))) :: between ++
        .answer (.read k' (.ok (some q))) :: after →
      Memory.normalKey k = Memory.normalKey k' →
      p.modifyIndex ≤ q.modifyIndex ∧
        (p.modifyIndex = q.modifyIndex ↔
          (Memory.empty.after before).Untouched k (history between)) ∧
        (p.modifyIndex = q.modifyIndex → p = q) ∧
        q.modifyIndex ≤ (history (before ++ between)).countP Memory.Action.isChange) ∧
    ∀ (as bs cs : List Memory.Action) (a : Memory.Action) (key : String) (p q : Pair),
      (Memory.empty.acts as).current key = some p →
      (Memory.empty.acts (as ++ bs)).Removes key a →
      (Memory.empty.acts (as ++ bs ++ a :: cs)).current key = some q →
      p.createIndex ≤ p.modifyIndex ∧ p.modifyIndex < q.createIndex ∧
        q.createIndex ≤ q.modifyIndex := by
  have hempty := Memory.numbered_empty
  constructor
  · intro d hs before between after k k' p q hrun hhs hkey
    have htruthful := (Desk.truthful Desk.fresh_empty hrun).2
    rw [hhs] at htruthful
    have hq : (Memory.empty.after (before ++ between)).current k = some q := by
      have h := Memory.current_of_read htruthful.holds
      rw [Memory.current_congr _ hkey]
      simpa [Memory.after, Desk.empty] using h
    have hp : (Memory.empty.after before).current k = some p := by
      rw [List.append_assoc] at htruthful
      exact Memory.current_of_read htruthful.holds
    have hbound := Memory.empty.index_acts_le (history (before ++ between))
    have hindex := (hempty.acts _ k q hq).2
    rw [Memory.after_append] at hq
    obtain ⟨hle, hiff, hsame⟩ := (hempty.acts _).later_entry hp hq
    exact ⟨hle, hiff, hsame, by simpa [Memory.empty] using Nat.le_trans hindex hbound⟩
  · intro as bs cs a key p q hp ha hq
    rw [Memory.acts_append] at ha
    rw [List.append_assoc, Memory.acts_append] at hq
    exact (hempty.acts as).recreated_entry hp ha hq

/-- A key is deleted and created again with the same value while a read of it waits. -/
theorem indexes_tell_changes_of_recreated_key :
    let first : Pair := ⟨"k", 1, 1, 0, 0, [7], none⟩
    let second : Pair := ⟨"k", 3, 3, 0, 0, [7], none⟩
    let before : List Happening := [.act (.put "k" [7])]
    let between : List Happening := [.act (.delete "k"), .act (.put "/k" [7])]
    (∃ d, Recorded Desk.Step .empty
      (before ++ .answer (.read "k" (.ok (some first))) :: between ++
        .answer (.read "/k" (.ok (some second))) :: []) d) ∧
      ¬ (Memory.empty.after before).Untouched "k" (history between) ∧
      first.modifyIndex < second.createIndex := by
  intro first second before between
  have hrun : Recorded Desk.Step .empty
      (before ++ .answer (.read "k" (.ok (some first))) :: between ++
        .answer (.read "/k" (.ok (some second))) :: [])
      ⟨(Memory.empty.after before).after between, []⟩ := by
    have hfirst : (Memory.empty.after before).ask "k" none 0 = .answered (.ok (some first)) := rfl
    let q : Query := ⟨1, .ofSeconds 1⟩
    have hseen : (Memory.empty.after before).current "/k" = some first := rfl
    have hfound : ((Memory.empty.after before).after between).current "/k" = some second := rfl
    have hwait := (Memory.empty.after before).ask_of_same "/k" q 2 (by decide) rfl rfl (by decide)
    rw [hseen] at hwait
    have hnewer : ((Memory.empty.after before).after between).indexOf "/k" ≠ 1 := by decide
    have hsecond := (Waiter.mk "/k" 1 (2 + q.patience.ticks) (some first) true).resume_of_other
      ((Memory.empty.after before).after between) 5 rfl rfl hnewer
    rw [hfound] at hsecond
    have hbegun : Recorded Desk.Step .empty before ⟨Memory.empty.after before, []⟩ :=
      .single (.act (.put "k" [7]))
    have hwaits := (hbegun.tail (.answer hfirst)).tail (.park hwait)
    have hdeleted := hwaits.tail (.act (.delete "k"))
    exact (hdeleted.tail (.act (.put "/k" [7]))).tail (@Desk.Step.finish _ [] _ [] 5 _ hsecond)
  obtain ⟨-, hiff, -⟩ :=
    indexes_tell_changes.1 _ _ before between [] "k" "/k" first second hrun rfl (by rfl)
  have hagain := indexes_tell_changes.2 [.put "k" [7]] [] [.put "/k" [7]] (.delete "k") "k" first
    second rfl ⟨"k", rfl, rfl, rfl, rfl⟩ rfl
  have hdiffer : first.modifyIndex ≠ second.modifyIndex := by decide
  exact ⟨⟨_, hrun⟩, fun h => hdiffer (hiff.mpr h), hagain.2.1⟩

end LiveConfig
