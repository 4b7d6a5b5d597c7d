import LiveConfig.Proofs.MemoryReads
import LiveConfig.Proofs.PollRounds

/-!
What a watch over the store in memory delivers.

A read that waits holds back an entry of the index that the watch knows, or nothing.  So an answer
with another index tells what is there now, and its index is above all that have been seen before.
Main statement: `deliveries_follow_key`, the indexes of delivered values grow, each value was
written under its index, and a watch whose index is that of the key has delivered the value of the
key.
-/

namespace LiveConfig

/-! ### Waiting reads of a known index -/

/-- A read of a key waits for another index than a known one. -/
structure Waiter.Awaits (w : Waiter) (key : String) (n : Nat) : Prop where
  key : w.key = key
  index : w.index = n
  pos : n ≠ 0
  seen : w.woken = false → ∃ e, w.seen = some e ∧ e.modifyIndex = n

/-- A poll with a known index is answered with what is there or with an entry of that index, or it
waits for another index. -/
def Waiting.Polls (m : Memory) (key : String) (n : Nat) : Waiting → Prop
  | .answered a => a = m.read key ∨ ∃ e, a = .ok (some e) ∧ e.modifyIndex = n
  | .parked w => w.Awaits key n

section Polls

variable {m : Memory} {key : String} {n : Nat} {w w' : Waiter}

theorem Waiter.Awaits.wake (h : w.Awaits key n) : w.wake.Awaits key n :=
  ⟨h.key, h.index, h.pos, fun hnot => by cases hnot⟩

theorem Waiter.Awaits.of_keeps (h : w.Awaits key n) (hkeeps : w.Keeps m w') :
    w'.Awaits key n ∧ ∃ e, w'.seen = some e ∧ e.modifyIndex = n := by
  rcases hkeeps with ⟨hwoken, rfl⟩ | ⟨-, hindex, rfl⟩
  · exact ⟨h, h.seen hwoken⟩
  · have hseen : ∃ e, m.current w.key = some e ∧ e.modifyIndex = n := by
      unfold Memory.indexOf at hindex
      cases hcurrent : m.current w.key with
      | none =>
        rw [hcurrent] at hindex
        exact absurd (hindex.trans h.index).symm h.pos
      | some e =>
        rw [hcurrent] at hindex
        exact ⟨e, rfl, hindex.trans h.index⟩
    exact ⟨⟨h.key, h.index, h.pos, fun _ => hseen⟩, hseen⟩

theorem Waiter.Awaits.polls_resume (h : w.Awaits key n) (now : Nat) :
    (w.resume m now).Polls m key n := by
  rcases w.resume_cases m now with hanswer | ⟨w', hkeeps, hlook⟩
  · rw [hanswer, h.key]
    exact .inl rfl
  · obtain ⟨hawaits, e, hseen, he⟩ := h.of_keeps hkeeps
    rcases hlook with hlook | hlook <;> rw [hlook]
    · exact .inr ⟨e, congrArg Except.ok hseen, he⟩
    · exact hawaits

theorem Poll.polls_ask (p : Poll) (now : Nat) :
    (m.ask p.key (some p.query) now).Polls m p.key p.lastIndex := by
  rcases m.ask_cases p.key (some p.query) now with hanswer | ⟨w, hw, hresume⟩
  · rw [hanswer]
    exact .inl rfl
  · have hindex : w.index = p.lastIndex := (Option.some.inj hw.index).symm
    have hawaits : w.Awaits p.key p.lastIndex :=
      ⟨hw.key, hindex, hindex ▸ hw.pos, fun hnot => by simp [hw.woken] at hnot⟩
    rw [hresume]
    exact hawaits.polls_resume now

end Polls

/-! ### The loop of a watch over the store in memory -/

/-- A store in memory and the loop of a watch over it. -/
structure Watching where
  memory : Memory
  loop : WatchLoop

namespace Watching

/-- One step: somebody acts, which may wake the loop, or the loop is told to stop or goes on. -/
inductive Step : Watching → List Happening → Watching → Prop
  | act {m l l'} (a : Memory.Action) (hl : l' = l ∨ l' = l.wake) :
      Step ⟨m, l⟩ [.act a] ⟨m.act a, l'⟩
  | stop {m l} : Step ⟨m, l⟩ [] ⟨m, l.stop⟩
  | go {m l l' v now} (h : l.step m now = some (l', v)) :
      Step ⟨m, l⟩ (v.toList.map (.deliver l'.poll.lastIndex)) ⟨m, l'⟩

end Watching

def Happening.delivery? : Happening → Option (Nat × Bytes)
  | .deliver n v => some (n, v)
  | _ => none

/-- All values that are delivered, in order, with their indexes. -/
def deliveries (hs : List Happening) : List (Nat × Bytes) := hs.filterMap Happening.delivery?

@[simp] theorem deliveries_nil : deliveries [] = [] := rfl

@[simp] theorem deliveries_append (hs hs' : List Happening) :
    deliveries (hs ++ hs') = deliveries hs ++ deliveries hs' := List.filterMap_append

/-- The value that has been delivered last, or the one before all. -/
def lastValue (first : Bytes) (ds : List (Nat × Bytes)) : Bytes := (ds.map (·.2)).getLastD first

theorem lastValue_concat (first : Bytes) (ds : List (Nat × Bytes)) (d : Nat × Bytes) :
    lastValue first (ds ++ [d]) = d.2 := by
  simp [lastValue]

/-- A loop that has delivered values of a key, while the actions `as` were done to a store that was
empty before.  The entry that it has seen last was there at some moment. -/
structure WatchLoop.Follows (key : String) (first : Bytes) (as : List Memory.Action)
    (ds : List (Nat × Bytes)) (l : WatchLoop) : Prop where
  polls : l.poll.key = key
  ordered : ds.Pairwise (·.1 < ·.1)
  le : ∀ d ∈ ds, d.1 ≤ l.poll.lastIndex
  wrote : ∀ d ∈ ds, Memory.empty.Wrote as key d.2 d.1
  last : ∃ before after e, as = before ++ after ∧
    (Memory.empty.acts before).current key = some e ∧ e.modifyIndex = l.poll.lastIndex ∧
    e.value = lastValue first ds
  awaits : ∀ w, l.state = .asking w → w.Awaits key l.poll.lastIndex

namespace WatchLoop

section Follows

variable {key : String} {first : Bytes} {as : List Memory.Action} {ds : List (Nat × Bytes)}
  {l l' : WatchLoop}

/-- What is done to the store does not touch what has been delivered. -/
theorem Follows.append (h : l.Follows key first as ds) (as' : List Memory.Action) :
    l.Follows key first (as ++ as') ds := by
  obtain ⟨before, after, e, rfl, he, hindex, hvalue⟩ := h.last
  exact ⟨h.polls, h.ordered, h.le, fun d hd => (h.wrote d hd).append as',
    ⟨before, after ++ as', e, List.append_assoc .., he, hindex, hvalue⟩, h.awaits⟩

/-- A loop with another state that knows as much as before. -/
theorem Follows.of_poll (h : l.Follows key first as ds) (hpoll : l'.poll = l.poll)
    (hawaits : ∀ w, l'.state = .asking w → w.Awaits key l.poll.lastIndex) :
    l'.Follows key first as ds := by
  refine ⟨?_, h.ordered, ?_, h.wrote, ?_, ?_⟩ <;> rw [hpoll]
  · exact h.polls
  · exact h.le
  · exact h.last
  · exact hawaits

theorem Follows.wake (h : l.Follows key first as ds) : l.wake.Follows key first as ds := by
  unfold WatchLoop.wake
  split
  · rename_i w hstate
    refine h.of_poll rfl fun w' hw' => ?_
    cases hw'
    exact (h.awaits w hstate).wake
  · exact h

/-- **A loop that receives an entry** of the key as it is now has not known its index before. -/
theorem Follows.deliver {e : Pair} (h : l.Follows key first as ds)
    (he : (Memory.empty.acts as).current key = some e) (hnew : e.modifyIndex ≠ l.poll.lastIndex)
    (hpoll : l'.poll = { l.poll with lastIndex := e.modifyIndex })
    (hawaits : ∀ w, l'.state ≠ .asking w) :
    l'.Follows key first as (ds ++ [(e.modifyIndex, e.value)]) := by
  obtain ⟨before, after, e₀, rfl, he₀, hindex, -⟩ := h.last
  have hlt : l.poll.lastIndex < e.modifyIndex := by
    have hlater := he
    rw [Memory.acts_append] at hlater
    have hle := ((Memory.numbered_empty.acts before).later_entry he₀ hlater).1
    omega
  have hwrote : Memory.empty.Wrote (before ++ after) key e.value e.modifyIndex := by
    rcases Memory.current_acts_cases he with hold | hwrote
    · cases hold
    · exact hwrote
  have hlast : l'.poll.lastIndex = e.modifyIndex := by rw [hpoll]
  refine ⟨?_, ?_, ?_, ?_, ⟨_, [], e, (List.append_nil _).symm, he, hlast.symm, ?_⟩, ?_⟩
  · rw [hpoll]
    exact h.polls
  · refine List.pairwise_append.mpr ⟨h.ordered, List.pairwise_singleton .., fun d hd d' hd' => ?_⟩
    rw [List.mem_singleton.mp hd']
    exact Nat.lt_of_le_of_lt (h.le d hd) hlt
  · intro d hd
    rw [hlast]
    rcases List.mem_append.mp hd with hd | hd
    · exact Nat.le_of_lt (Nat.lt_of_le_of_lt (h.le d hd) hlt)
    · obtain rfl := List.mem_singleton.mp hd
      exact Nat.le_refl _
  · intro d hd
    rcases List.mem_append.mp hd with hd | hd
    · exact h.wrote d hd
    · rw [List.mem_singleton.mp hd]
      exact hwrote
  · rw [lastValue_concat]
  · exact fun w hw => absurd hw (hawaits w)

/-- **A poll that has been answered or not** is followed by what is delivered then. -/
theorem Follows.waiting {x : Waiting} (h : l.Follows key first as ds)
    (hx : x.Polls (Memory.empty.acts as) key l.poll.lastIndex) (now : Nat) :
    (l.waiting now x).1.Follows key first as
      (ds ++ (l.waiting now x).2.toList.map ((l.waiting now x).1.poll.lastIndex, ·)) := by
  cases x with
  | parked w =>
    rw [show (l.waiting now (.parked w)).2 = none from rfl, Option.toList_none, List.map_nil,
      List.append_nil]
    refine h.of_poll rfl fun w' hw' => ?_
    cases hw'
    exact hx
  | answered a =>
    have hawaits : ∀ w, (l.receive now a).1.state ≠ .asking w := by
      obtain ⟨s, hs, hreceive⟩ := l.receive_cases now a
      rw [hreceive]
      rcases hs with rfl | ⟨t, rfl⟩ <;> exact fun w hw => by cases hw
    rcases l.receive_news now a with ⟨e, rfl, hnew, hvalue, hpoll⟩ | ⟨hnone, hpoll⟩
    · -- An entry of the known index would not be delivered.
      have he : (Memory.empty.acts as).current key = some e := by
        rcases hx with hread | ⟨e', he', hold⟩
        · exact Memory.current_of_read hread
        · cases he'
          exact absurd hold hnew
      have hnext := h.deliver he hnew hpoll hawaits
      rw [WatchLoop.waiting, hvalue, hpoll]
      exact hnext
    · rw [WatchLoop.waiting, hnone, Option.toList_none, List.map_nil, List.append_nil]
      exact h.of_poll hpoll fun w hw => absurd hw (hawaits w)

end Follows

end WatchLoop

namespace Watching

variable {key : String} {first : Bytes} {as : List Memory.Action} {ds : List (Nat × Bytes)}
  {x y : Watching} {hs : List Happening}

structure Follows (key : String) (first : Bytes) (as : List Memory.Action) (ds : List (Nat × Bytes))
    (x : Watching) : Prop where
  memory : x.memory = Memory.empty.acts as
  loop : x.loop.Follows key first as ds

theorem Follows.step (h : x.Follows key first as ds) (hstep : Step x hs y) :
    y.Follows key first (as ++ history hs) (ds ++ deliveries hs) := by
  obtain ⟨hmemory, hloop⟩ := h
  cases hstep with
  | @act m l l' a hl =>
    dsimp only at hmemory hloop
    have hacts : m.act a = Memory.empty.acts (as ++ [a]) := by
      rw [hmemory, Memory.acts_append, Memory.acts_cons, Memory.acts_nil]
    refine ⟨hacts, ?_⟩
    rw [show deliveries [.act a] = [] from rfl, List.append_nil]
    rcases hl with rfl | rfl
    · exact hloop.append [a]
    · exact hloop.wake.append [a]
  | @stop m l =>
    rw [history_nil, deliveries_nil, List.append_nil, List.append_nil]
    exact ⟨hmemory, hloop.of_poll rfl hloop.awaits⟩
  | @go m l l' v now hgo =>
    dsimp only at hmemory hloop
    subst hmemory
    have hhistory : history (v.toList.map (.deliver l'.poll.lastIndex)) = [] := by
      cases v <;> rfl
    have hdeliveries : deliveries (v.toList.map (.deliver l'.poll.lastIndex)) =
        v.toList.map (l'.poll.lastIndex, ·) := by
      cases v <;> rfl
    rw [hhistory, hdeliveries, List.append_nil]
    refine ⟨rfl, ?_⟩
    rcases l.step_cases hgo with ⟨-, rfl, rfl⟩ | ⟨-, _, -, -, rfl, rfl⟩ | ⟨-, -, hwaiting⟩ |
      ⟨-, w, hw, -, hwaiting⟩
    · rw [Option.toList_none, List.map_nil, List.append_nil]
      exact hloop.of_poll rfl fun w hw => by cases hw
    · rw [Option.toList_none, List.map_nil, List.append_nil]
      exact hloop.of_poll rfl fun w hw => by cases hw
    · have hpolls := l.poll.polls_ask (m := Memory.empty.acts as) now
      rw [hloop.polls] at hpolls hwaiting
      have hnext := hloop.waiting hpolls now
      rw [hwaiting] at hnext
      exact hnext
    · have hnext := hloop.waiting ((hloop.awaits w hw).polls_resume now) now
      rw [hwaiting] at hnext
      exact hnext

theorem Follows.run (h : x.Follows key first as ds) (hrun : Recorded Step x hs y) :
    y.Follows key first (as ++ history hs) (ds ++ deliveries hs) := by
  induction hrun with
  | refl =>
    rw [history_nil, deliveries_nil, List.append_nil, List.append_nil]
    exact h
  | tail _ hstep ih =>
    rw [history_append, deliveries_append, ← List.append_assoc, ← List.append_assoc]
    exact ih.step hstep

end Watching

/-! ### From the start on -/

section Start

variable {key : String} {known : Option Bytes} {options : WatchOptions} {w : WatchStart}

/-- What a watch reports when it starts, with its index. -/
def WatchStart.deliveries (w : WatchStart) : List (Nat × Bytes) :=
  w.news.toList.map (w.poll.lastIndex, ·)

/-- **A watch that has been started** has read an entry, and knows its index. -/
theorem Exchange.of_startWatch {rs : List Answered}
    (h : Recorded Step (startWatch key known options) rs (.done (.ok w))) :
    ∃ p, rs = [.read key (.ok (some p))] ∧ w.poll = ⟨key, options, p.modifyIndex⟩ ∧
      (w.news = none ∨ w.news = some p.value) := by
  rcases of_read h with ⟨-, hend⟩ | ⟨a, rest, rfl, hrest⟩
  · cases hend
  rcases a with e | _ | p
  · cases (of_done hrest).2
  · cases (of_done hrest).2
  · obtain ⟨rfl, hend⟩ := of_done hrest
    cases hend
    refine ⟨p, rfl, rfl, ?_⟩
    dsimp only
    split
    · exact .inr rfl
    · exact .inl rfl

/-- **A watch begins to follow** the key that it has read. -/
theorem Watching.follows_start {as : List Memory.Action} {hs : List Happening} {m : Memory}
    (h : Recorded Dialogue.Step ⟨Memory.empty.acts as, Exchange.startWatch key known options⟩ hs
      ⟨m, .done (.ok w)⟩) :
    ∃ p, requests hs = [.read key (.ok (some p))] ∧
      (Watching.mk m (.start w.poll)).Follows key p.value (as ++ history hs) w.deliveries := by
  obtain ⟨hmemory, htruthful⟩ := Dialogue.truthful h
  obtain ⟨p, hrequests, hpoll, hnews⟩ := Exchange.of_startWatch (Dialogue.recorded_rest h)
  obtain ⟨before, after, rfl, -, -⟩ := @exists_of_requests_eq _ [] _ _ hrequests
  have hp : (Memory.empty.acts (as ++ history before)).current key = some p := by
    rw [Memory.acts_append]
    exact Memory.current_of_read htruthful.holds
  have hhistory : as ++ history (before ++ .answer (.read key (.ok (some p))) :: after) =
      (as ++ history before) ++ history after := by
    rw [history_append, history_read, List.append_assoc]
  have hwrote : Memory.empty.Wrote (as ++ history before) key p.value p.modifyIndex := by
    rcases Memory.current_acts_cases hp with hold | hwrote
    · cases hold
    · exact hwrote
  have hloop :
      (WatchLoop.start w.poll).Follows key p.value (as ++ history before) w.deliveries := by
    have hlast : ∀ ds, lastValue p.value ds = p.value →
        ∃ early late e, as ++ history before = early ++ late ∧
          (Memory.empty.acts early).current key = some e ∧
          e.modifyIndex = p.modifyIndex ∧ e.value = lastValue p.value ds :=
      fun ds hds => ⟨_, [], p, (List.append_nil _).symm, hp, rfl, hds.symm⟩
    unfold WatchStart.deliveries
    rcases hnews with hnews | hnews <;> rw [hpoll, hnews]
    · exact ⟨rfl, .nil, by simp, by simp, hlast _ rfl, fun _ hw => by cases hw⟩
    · exact ⟨rfl, List.pairwise_singleton .., by simp [WatchLoop.start], by simpa using hwrote,
        hlast _ rfl, fun _ hw => by cases hw⟩
  refine ⟨p, hrequests, ?_, ?_⟩
  · rw [Memory.acts_append]
    exact hmemory
  · rw [hhistory]
    exact hloop.append _

end Start

/-- **What a watch over the store in memory delivers**, whatever others do before it starts, while
it starts and while it runs.  The indexes of the delivered values grow, and each value was written
under its index.  Whenever the watch has the index of the key, the value of the key is the last one
that was delivered, or the one that the watch has read at its start if there is none. -/
theorem deliveries_follow_key (as : List Memory.Action) (key : String) (known : Option Bytes)
    (options : WatchOptions) (start hs : List Happening) (m : Memory) (w : WatchStart)
    (x : Watching)
    (hstart : Recorded Dialogue.Step
      ⟨Memory.empty.acts as, Exchange.startWatch key known options⟩ start ⟨m, .done (.ok w)⟩)
    (hrun : Recorded Watching.Step ⟨m, .start w.poll⟩ hs x) :
    (w.deliveries ++ deliveries hs).Pairwise (·.1 < ·.1) ∧
      (∀ d ∈ w.deliveries ++ deliveries hs,
        Memory.empty.Wrote (as ++ history start ++ history hs) key d.2 d.1) ∧
      ∃ p, requests start = [.read key (.ok (some p))] ∧
        ∀ q, x.memory.current key = some q → q.modifyIndex = x.loop.poll.lastIndex →
          lastValue p.value (w.deliveries ++ deliveries hs) = q.value := by
  obtain ⟨p, hrequests, hfollows⟩ := Watching.follows_start hstart
  have hend := hfollows.run hrun
  refine ⟨hend.loop.ordered, hend.loop.wrote, p, hrequests, fun q hq hindex => ?_⟩
  obtain ⟨before, after, e, hsplit, he, heindex, hvalue⟩ := hend.loop.last
  rw [hend.memory, hsplit, Memory.acts_append] at hq
  have hsame : e = q :=
    ((Memory.numbered_empty.acts before).later_entry he hq).2.2 (heindex.trans hindex.symm)
  rw [← hvalue, hsame]

/-- The key is deleted and created again with the same value while a poll waits. -/
theorem deliveries_follow_key_of_recreated_key :
    let first : Pair := ⟨"k", 1, 1, 0, 0, [7], none⟩
    let second : Pair := ⟨"k", 3, 3, 0, 0, [7], none⟩
    let m := Memory.empty.acts [.put "k" [7]]
    let hs : List Happening := [.act (.delete "k"), .act (.put "k" [7]), .deliver 3 [7]]
    ∃ w x, Recorded Dialogue.Step ⟨m, Exchange.startWatch "k" (some [9]) .usual⟩
        [.answer (.read "k" (.ok (some first)))] ⟨m, .done (.ok w)⟩ ∧
      Recorded Watching.Step ⟨m, .start w.poll⟩ hs x ∧
      w.deliveries ++ deliveries hs = [(1, [7]), (3, [7])] ∧
      x.memory.current "k" = some second ∧ second.modifyIndex = x.loop.poll.lastIndex ∧
      lastValue first.value (w.deliveries ++ deliveries hs) = second.value := by
  intro first second m hs
  have hread : m.read "k" = .ok (some first) := rfl
  have hstart : Recorded Dialogue.Step ⟨m, Exchange.startWatch "k" (some [9]) .usual⟩
      [.answer (.read "k" (m.read "k"))] ⟨m, _⟩ := .single .read
  rw [hread] at hstart
  let q : Query := ⟨1, .ofSeconds 600⟩
  let l : WatchLoop := .start ⟨"k", .usual, 1⟩
  let asking : WatchLoop :=
    ⟨⟨"k", .usual, 1⟩, .asking ⟨"k", 1, 2 + q.patience.ticks, some first, false⟩, false⟩
  let ended : WatchLoop := ⟨⟨"k", .usual, 3⟩, .ready, false⟩
  let m' := (m.act (.delete "k")).act (.put "k" [7])
  have hfirst : m.current "k" = some first := rfl
  have hsecond : m'.current "k" = some second := rfl
  have hpoll : l.step m 2 = some (asking, none) := by
    have hask := m.ask_of_same "k" q 2 (by decide) rfl rfl (by decide)
    rw [hfirst] at hask
    exact congrArg (fun x => some (l.waiting 2 x)) hask
  have hlook : asking.wake.wake.step m' 5 = some (ended, some [7]) := by
    have hnewer : m'.indexOf "k" ≠ 1 := by decide
    have hanswer := (Waiter.mk "k" 1 (2 + q.patience.ticks) (some first) true).resume_of_other m' 5
      rfl rfl hnewer
    rw [hsecond] at hanswer
    exact congrArg (fun x => some (asking.wake.wake.waiting 5 x)) hanswer
  have hasks : Recorded Watching.Step ⟨m, l⟩ [] ⟨m, asking⟩ := .single (.go hpoll)
  have hdeleted := hasks.tail (.act (.delete "k") (.inr rfl))
  have hrun := (hdeleted.tail (.act (.put "k" [7]) (.inr rfl))).tail (.go hlook)
  obtain ⟨-, -, p, hp, hlast⟩ :=
    deliveries_follow_key [.put "k" [7]] "k" (some [9]) .usual _ hs m _ _ hstart hrun
  cases hp
  exact ⟨_, _, hstart, hrun, rfl, hsecond, rfl, hlast second hsecond rfl⟩

end LiveConfig
