import LiveConfig.Proofs.Notifications
import LiveConfig.Proofs.Stopping

/-!
Shutting down a store that is watched.

All handles of a store share the handle of its watch.  A call of the shutdown takes that handle out
of the store, tells the loop to stop and waits for its end; a call that does not find it returns at
once.  Main statement: `shutdown_is_final`, nothing comes from the watch any more as soon as the
call that took the handle has returned.  As `early_return_is_not_final` shows, it is not enough that
some other call has.
-/

namespace LiveConfig

/-- How far a call of the shutdown has come. -/
inductive Closing where
  | begun
  /-- It has taken the handle of the watch. -/
  | taken
  /-- It waits for the end of the loop. -/
  | waiting
  /-- It has returned, and has waited if it found the handle. -/
  | returned (waited : Bool)
deriving DecidableEq

namespace Closing

/-- Whether a call has found the handle of the watch. -/
def found : Closing → Bool
  | taken | waiting | returned true => true
  | _ => false

def hasReturned : Closing → Bool
  | returned _ => true
  | _ => false

end Closing

/-- Whether a move is made by somebody else than a watch. -/
def Move.isLocal : Move → Bool
  | .remote _ => false
  | _ => true

/-- A store that is watched, and those who shut it down. -/
structure Lifecycle where
  loop : LoopTask
  /-- The store, and those who load into it. -/
  traffic : Traffic
  /-- What the loop has handed over last. -/
  taking : Option Writer
  /-- Whether the store has the handle of the watch. -/
  handle : Bool
  /-- All calls of the shutdown so far. -/
  closings : List Closing

namespace Lifecycle

def start (p : Poll) (s : Store) (callback : Option String) : Lifecycle :=
  ⟨.start p, .start s callback, none, true, []⟩

/-- Something that happens, with the move of somebody else that is made by it.  A callback that
takes a value over goes on until that is over, and no other action of the loop comes in between. -/
inductive Step : Lifecycle → List Move → Lifecycle → Prop
  | act {t t' es f w b cs} (h : LoopTask.Acts t es t') (hcalls : calls es = [])
      (hover : ∀ p, t.place = .calling p → ∀ v ∈ w, v.isOver = true) :
      Step ⟨t, f, w, b, cs⟩ [] ⟨t', f, w, b, cs⟩
  | call {t t' v f w b cs} (h : LoopTask.Acts t [.call v] t') :
      Step ⟨t, f, w, b, cs⟩ [] ⟨t', f, some (.remote v .begun), b, cs⟩
  | takeOver {t f f' w w' b cs} (h : f.act w = some (f', w')) :
      Step ⟨t, f, some w, b, cs⟩ [] ⟨t, f', some w', b, cs⟩
  | other {t f w b cs} (m : Move) (h : m.isLocal = true) :
      Step ⟨t, f, w, b, cs⟩ [m] ⟨t, f.step m, w, b, cs⟩
  | begin {t f w b cs} : Step ⟨t, f, w, b, cs⟩ [] ⟨t, f, w, b, cs ++ [.begun]⟩
  | take {t f w cs cs'} :
      Step ⟨t, f, w, true, cs ++ .begun :: cs'⟩ [] ⟨t, f, w, false, cs ++ .taken :: cs'⟩
  | miss {t f w cs cs'} :
      Step ⟨t, f, w, false, cs ++ .begun :: cs'⟩ [] ⟨t, f, w, false, cs ++ .returned false :: cs'⟩
  | tell {t f w b cs cs'} :
      Step ⟨t, f, w, b, cs ++ .taken :: cs'⟩ [] ⟨t.stop, f, w, b, cs ++ .waiting :: cs'⟩
  | finish {t f w b cs cs'} (h : t.place = .ended) :
      Step ⟨t, f, w, b, cs ++ .waiting :: cs'⟩ [] ⟨t, f, w, b, cs ++ .returned true :: cs'⟩

/-! ### What is known of the calls -/

/-- How the calls of the shutdown and the watch stand. -/
structure Orderly (x : Lifecycle) : Prop where
  /-- Only a callback that runs takes a value over. -/
  quiet : (∀ p, x.loop.place ≠ .calling p) → ∀ w ∈ x.taking, w.isOver = true
  /-- Who has waited has waited for the end of the loop. -/
  waited : .returned true ∈ x.closings → x.loop.place = .ended
  /-- Nobody has come far as long as the store has the handle. -/
  kept : x.handle = true → ∀ c ∈ x.closings, c = .begun
  /-- The handle is not lost. -/
  found : x.handle = false → ∃ c ∈ x.closings, c.found = true

namespace Orderly

variable {x y : Lifecycle} {ms : List Move}

theorem start (p : Poll) (s : Store) (callback : Option String) :
    Orderly (.start p s callback) :=
  ⟨fun _ => nofun, nofun, fun _ => nofun, nofun⟩

/-- A call of the shutdown that goes on, without the handle or with it. -/
theorem replace {t : LoopTask} {f : Traffic} {w : Option Writer} {cs cs' : List Closing}
    {c d : Closing} (h : Orderly ⟨t, f, w, false, cs ++ c :: cs'⟩)
    (hfound : c.found = true → d.found = true) (hwaited : d = .returned true → t.place = .ended)
    {t' : LoopTask} (ht : t'.place = t.place) :
    Orderly ⟨t', f, w, false, cs ++ d :: cs'⟩ := by
  refine ⟨?_, fun hmem => ?_, nofun, fun _ => ?_⟩
  · rw [ht]
    exact h.quiet
  · rw [ht]
    rcases Traffic.eq_or_mem_of_replaced (w := c) hmem with hd | hold
    · exact hwaited hd.symm
    · exact h.waited hold
  · obtain ⟨e, he, hefound⟩ := h.found rfl
    rcases Traffic.eq_or_mem_of_replaced (w := d) he with rfl | hold
    · exact ⟨d, by simp, hfound hefound⟩
    · exact ⟨e, hold, hefound⟩

/-- **Everything that happens leaves it so.** -/
theorem step (h : Orderly x) (hstep : Step x ms y) : Orderly y := by
  cases hstep with
  | @act t t' es f w b cs hact _ hover =>
    refine ⟨fun _ v hv => ?_, fun hmem => ?_, h.kept, h.found⟩
    · by_cases hcalling : ∃ p, t.place = .calling p
      · obtain ⟨p, hp⟩ := hcalling
        exact hover p hp v hv
      · exact h.quiet (not_exists.mp hcalling) v hv
    · exact absurd hact (LoopTask.not_acts_of_ended (h.waited hmem))
  | call hact =>
    refine ⟨fun hnot => ?_, fun hmem => ?_, h.kept, h.found⟩
    · cases hact with
      | call => exact absurd rfl (hnot _)
    · exact absurd hact (LoopTask.not_acts_of_ended (h.waited hmem))
  | takeOver ha =>
    refine ⟨fun hnot => ?_, h.waited, h.kept, h.found⟩
    have hover := h.quiet hnot _ rfl
    rw [(Traffic.acts_of_act ha).isOver] at hover
    cases hover
  | other m => exact ⟨h.quiet, h.waited, h.kept, h.found⟩
  | begin =>
    refine ⟨h.quiet, fun hmem => ?_, fun hb c hc => ?_, fun hb => ?_⟩
    · exact h.waited (by simpa using hmem)
    · rcases List.mem_append.mp hc with hold | hnew
      · exact h.kept hb c hold
      · exact List.mem_singleton.mp hnew
    · obtain ⟨c, hc, hfound⟩ := h.found hb
      exact ⟨c, List.mem_append_left _ hc, hfound⟩
  | @take t f w cs cs' =>
    refine ⟨h.quiet, fun hmem => ?_, nofun, fun _ => ⟨.taken, by simp, rfl⟩⟩
    rcases Traffic.eq_or_mem_of_replaced (w := .begun) hmem with hnew | hold
    · cases hnew
    · exact h.waited hold
  | miss => exact h.replace (d := .returned false) nofun nofun rfl
  | @tell t f w b cs cs' =>
    cases b with
    | true => cases h.kept rfl .taken (by simp)
    | false => exact h.replace (d := .waiting) (fun _ => rfl) nofun rfl
  | @finish t f w b cs cs' hended =>
    cases b with
    | true => cases h.kept rfl .waiting (by simp)
    | false => exact h.replace (d := .returned true) (fun _ => rfl) (fun _ => hended) rfl

theorem run (h : Orderly x) (hrun : Recorded Step x ms y) : Orderly y := by
  induction hrun with
  | refl => exact h
  | tail _ hstep ih => exact ih.step hstep

end Orderly

/-! ### After the end -/

/-- The loop has ended, and nothing that it has handed over is still to be taken over. -/
def Over (x : Lifecycle) : Prop := x.loop.place = .ended ∧ ∀ w ∈ x.taking, w.isOver = true

theorem Over.step {x y : Lifecycle} {ms : List Move} (h : x.Over) (hstep : Step x ms y) :
    y.Over ∧ y.traffic = x.traffic.run ms ∧ ∀ m ∈ ms, m.isLocal = true := by
  obtain ⟨hended, hover⟩ := h
  cases hstep with
  | act hact | call hact => exact absurd hact (LoopTask.not_acts_of_ended hended)
  | takeOver ha =>
    have hdone := hover _ rfl
    rw [(Traffic.acts_of_act ha).isOver] at hdone
    cases hdone
  | other m hm => exact ⟨⟨hended, hover⟩, rfl, by simpa using hm⟩
  | begin | take | miss | tell | finish => exact ⟨⟨hended, hover⟩, rfl, nofun⟩

/-- **After the end the store is what others make of it.** -/
theorem Over.run {x y : Lifecycle} {ms : List Move} (h : x.Over) (hrun : Recorded Step x ms y) :
    y.Over ∧ y.traffic = x.traffic.run ms ∧ ∀ m ∈ ms, m.isLocal = true := by
  induction hrun with
  | refl => exact ⟨h, rfl, nofun⟩
  | tail _ hstep ih =>
    obtain ⟨hover, htraffic, hlocal⟩ := ih
    obtain ⟨hover', htraffic', hlocal'⟩ := hover.step hstep
    refine ⟨hover', by rw [htraffic', htraffic, Traffic.run_append], fun m hm => ?_⟩
    rcases List.mem_append.mp hm with hm | hm
    · exact hlocal m hm
    · exact hlocal' m hm

/-- The end has come if somebody has waited for it, and also if some call has returned and no other
is under way. -/
theorem Orderly.over {x : Lifecycle} (h : x.Orderly)
    (hreturned : .returned true ∈ x.closings ∨
      x.closings ≠ [] ∧ ∀ c ∈ x.closings, c.hasReturned = true) : x.Over := by
  have hwaited : .returned true ∈ x.closings := by
    rcases hreturned with hmem | ⟨hne, hall⟩
    · exact hmem
    · -- Who has returned without the handle has found that somebody else took it.
      have hhandle : x.handle = false := by
        by_contra hkept
        obtain ⟨c, hc⟩ := List.exists_mem_of_ne_nil _ hne
        have hback := hall c hc
        rw [h.kept (by simpa using hkept) c hc] at hback
        cases hback
      obtain ⟨c, hc, hfound⟩ := h.found hhandle
      have hback := hall c hc
      cases c with
      | begun | taken | waiting => cases hback
      | returned waited =>
        cases waited with
        | true => exact hc
        | false => cases hfound
  have hended := h.waited hwaited
  exact ⟨hended, h.quiet fun p hp => by rw [hended] at hp; cases hp⟩

end Lifecycle

/-- The watch of a session's store has ended when the store has been shut down. -/
theorem Session.halted_shutDown {s : Session} {id task : Nat} {l : LiveStore} {loop : WatchLoop}
    {target : Target} (hl : s.stores[id]? = some l) (hwatch : l.watch = some task)
    (htask : s.tasks[task]? = some (.watch loop target)) :
    (s.shutDown id).Halted task target := by
  have hbind : (s.stores[id]?).bind (·.watch) = some task := by
    rw [hl]
    exact hwatch
  unfold shutDown
  rw [hbind]
  exact Stopping.settle (stopping_stopTask htask)

open Lifecycle in
/-- **A shutdown is final for the call that has waited.**  As soon as the call that found the handle
of the watch has returned, and hence as soon as some call has returned and no other is under way,
the loop has ended; from then on the store is what the moves of others make of it, so that without
them the generation, the callbacks and the events stay as they are.  In a session the watch of a
store has ended after its shutdown, and does nothing more. -/
theorem shutdown_is_final {p : Poll} {s : Store} {callback : Option String} {ms : List Move}
    {x : Lifecycle} (hrun : Recorded Step (.start p s callback) ms x)
    (hreturned : .returned true ∈ x.closings ∨
      x.closings ≠ [] ∧ ∀ c ∈ x.closings, c.hasReturned = true) :
    (x.loop.place = .ended ∧ ∀ ms' y, Recorded Step x ms' y →
      y.traffic = x.traffic.run ms' ∧ ∀ m ∈ ms', m.isLocal = true) ∧
    ∀ (s : Session) (id task : Nat) (l : LiveStore) (loop : WatchLoop) (target : Target),
      s.stores[id]? = some l → l.watch = some task →
      s.tasks[task]? = some (.watch loop target) →
      (s.shutDown id).Halted task target ∧ (s.shutDown id).stepTask task = none := by
  have hover : x.Over := ((Orderly.start p s callback).run hrun).over hreturned
  refine ⟨⟨hover.1, fun ms' y hrun' => (hover.run hrun').2⟩,
    fun s id task l loop target hl hwatch htask => ?_⟩
  have hhalted := Session.halted_shutDown hl hwatch htask
  exact ⟨hhalted, hhalted.stepTask⟩

open Lifecycle in
/-- A shutdown that begins before the first poll, and a local load after it; and the shutdown of a
session's store. -/
theorem shutdown_is_final_before_first_poll :
    let p : Poll := ⟨"k", .usual, 1⟩
    let s : Session := { Session.start (.ofList []) ⟨[]⟩ with
      tasks := #[.watch (.start p) (.store 0)], stores := #[⟨.empty none, none, .open_, some 0⟩] }
    (∃ x y, Recorded Step (.start p (.empty none) none) [] x ∧ x.closings = [.returned true] ∧
      Recorded Step x [.load (.bytes [0x7B, 0x7D])] y ∧
      y.traffic = x.traffic.run [.load (.bytes [0x7B, 0x7D])]) ∧
    (s.shutDown 0).Halted 0 (.store 0) := by
  intro p s
  have hbegun : Recorded Step (.start p (.empty none) none) []
      ⟨.start p, .start (.empty none) none, none, true, [] ++ .begun :: []⟩ := .single .begin
  have htold := (hbegun.tail .take).tail .tell
  have hleave : LoopTask.Acts (LoopTask.start p).stop [] ⟨p, .ended, true⟩ := .leave
  have hended := htold.tail (.act hleave rfl nofun)
  have hreturned := hended.tail (.finish rfl)
  let f : Traffic := .start (.empty none) none
  let load : Move := .load (.bytes [0x7B, 0x7D])
  have hload : Recorded Step ⟨⟨p, .ended, true⟩, f, none, false, [.returned true]⟩ [load]
      ⟨⟨p, .ended, true⟩, f.step load, none, false, [.returned true]⟩ := .single (.other load rfl)
  obtain ⟨⟨-, hstays⟩, hsession⟩ := shutdown_is_final hreturned (.inl (by simp))
  exact ⟨⟨_, _, hreturned, rfl, hload, (hstays _ _ hload).1⟩,
    (hsession s 0 0 _ (.start p) (.store 0) rfl rfl rfl).1⟩

/-- A value that is taken over step by step, with all who are told of it. -/
theorem Lifecycle.recorded_takeOver {t : LoopTask} {f : Traffic} {b : Bool} {cs : List Closing}
    {raw : Bytes} {d : Document} (hd : Document.parse raw = .ok d)
    (hchanges : f.live.store.changesTo d ≠ []) :
    ∃ w g, Recorded Step ⟨t, f, some (.remote raw .begun), b, cs⟩ [] ⟨t, g, some w, b, cs⟩ ∧
      g = ((f.install d raw).call (f.live.store.changesTo d)).send
        (.changed (f.install d raw).current.number (f.live.store.changesTo d)) := by
  have hparse : f.act (.remote raw .begun) = some (f, .remote raw (.parsed d)) := by
    simp only [Traffic.act, hd]
  have hinstall : f.act (.remote raw (.parsed d)) = some (f.install d raw,
      .remote raw (.installed (f.install d raw).current (f.live.store.changesTo d))) := by
    simp only [Traffic.act, if_neg (mt List.isEmpty_iff.mp hchanges)]
  have hrun : Recorded Step ⟨t, f, some (.remote raw .begun), b, cs⟩ [] ⟨t, f.install d raw,
      some (.remote raw (.installed (f.install d raw).current (f.live.store.changesTo d))), b,
      cs⟩ :=
    (Recorded.single (Step.takeOver hparse)).tail (.takeOver hinstall)
  exact ⟨_, _, (hrun.tail (.takeOver rfl)).tail (.takeOver rfl), rfl⟩

open Lifecycle in
/-- **A call that finds no handle returns too early.**  One call has taken the handle, another one
returns, and then the loop takes over the answer that it has had in hand: the generation changes,
the callback is called and an event is sent. -/
theorem early_return_is_not_final :
    let raw : Bytes := [0x7B, 0x22, 0x61, 0x22, 0x3A, 0x31, 0x7D]
    ∃ x y, Recorded Step (.start ⟨"k", .usual, 1⟩ (.empty none) (some "print")) [] x ∧
      .returned false ∈ x.closings ∧ Recorded Step x [] y ∧
      x.traffic.current = .initial ∧ y.traffic.current.number = 1 ∧ y.traffic.current.raw = raw ∧
      x.traffic.calls.length = 0 ∧ y.traffic.calls.length = 1 ∧
      x.traffic.events.length = 0 ∧ y.traffic.events.length = 1 := by
  intro raw
  let p : Poll := ⟨"k", .usual, 1⟩
  let a : ReadAnswer := .ok (some ⟨"k", 1, 2, 0, 0, raw, none⟩)
  let f : Traffic := .start (.empty none) (some "print")
  have hdocument : (Document.parse raw).toOption.any
      (fun d => !(f.live.store.changesTo d).isEmpty) = true := by decide +kernel
  obtain ⟨d, hparse, hchanges⟩ : ∃ d, Document.parse raw = .ok d ∧
      f.live.store.changesTo d ≠ [] := by
    cases hd : Document.parse raw with
    | error e =>
      rw [hd] at hdocument
      cases hdocument
    | ok d =>
      rw [hd] at hdocument
      exact ⟨d, rfl, by simpa [Except.toOption] using hdocument⟩
  have hasks : Recorded Step (.start p (.empty none) (some "print")) []
      ⟨⟨p, .holding a, false⟩, f, none, true, []⟩ :=
    (((Recorded.single (Step.act .pass rfl nofun)).tail (.act .ask rfl nofun)).tail
      (.act (.take a) rfl nofun))
  have hbegun : Recorded Step (.start p (.empty none) (some "print")) []
      ⟨⟨p, .holding a, false⟩, f, none, true, [] ++ .begun :: [.begun]⟩ :=
    (hasks.tail .begin).tail .begin
  have htaken : Recorded Step (.start p (.empty none) (some "print")) []
      ⟨⟨p, .holding a, false⟩, f, none, false, [.taken] ++ .begun :: []⟩ := hbegun.tail .take
  have hmissed := htaken.tail .miss
  let t : LoopTask := ⟨p, .calling { p with lastIndex := 2 }, false⟩
  have hcall : LoopTask.Acts ⟨p, .holding a, false⟩ [.call raw] t := .call rfl
  have hcalls : Recorded Step ⟨⟨p, .holding a, false⟩, f, none, false, [.taken, .returned false]⟩ []
      ⟨t, f, some (.remote raw .begun), false, [.taken, .returned false]⟩ := .single (.call hcall)
  obtain ⟨w, g, htakes, hg⟩ := recorded_takeOver hparse hchanges
  refine ⟨_, _, hmissed, by simp, hcalls.trans htakes, rfl, ?_, ?_, rfl, ?_, rfl, ?_⟩ <;>
    rw [hg] <;> rfl

end LiveConfig
