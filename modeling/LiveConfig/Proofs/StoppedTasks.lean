import LiveConfig.Session.Watching
import Mathlib.Data.List.Basic

/-!
Watches of a session that have been told to stop.

Whatever else goes on in the background, the task of such a watch does nothing more than to end.
When the session has settled it has ended.  Main statement: `Session.Halted.settle`.
-/

namespace LiveConfig

namespace Session

/-- Nothing has happened to a watch but that it may have been told to stop. -/
def Keeps (task : Nat) (s s' : Session) : Prop :=
  ∀ l target, s.tasks[task]? = some (.watch l target) →
    ∃ l', s'.tasks[task]? = some (.watch l' target) ∧ (l' = l ∨ l' = l.stop)

section Keeps

variable {task : Nat} {s s' s'' : Session}

theorem Keeps.of_eq (h : s'.tasks = s.tasks) : Keeps task s s' := by
  intro l target hl
  exact ⟨l, h ▸ hl, .inl rfl⟩

theorem Keeps.trans (h : Keeps task s s') (h' : Keeps task s' s'') : Keeps task s s'' := by
  intro l target hl
  obtain ⟨l', hl', hsame | hstopped⟩ := h l target hl
  · obtain ⟨l'', hl'', hcases⟩ := h' l' target hl'
    exact ⟨l'', hl'', hsame ▸ hcases⟩
  · obtain ⟨l'', hl'', hcases⟩ := h' l' target hl'
    rw [hstopped, show l.stop.stop = l.stop from rfl, or_self] at hcases
    exact ⟨l'', hl'', .inr hcases⟩

theorem keeps_modifyTask_of_ne (s : Session) {task task' : Nat} (h : task' ≠ task)
    (f : Task → Task) : Keeps task s (s.modifyTask task' f) := by
  intro l target hl
  refine ⟨l, ?_, .inl rfl⟩
  rw [modifyTask, Array.getElem?_modify, if_neg h]
  exact hl

theorem keeps_stopTask (s : Session) (task task' : Nat) : Keeps task s (s.stopTask task') := by
  by_cases h : task' = task
  · intro l target hl
    refine ⟨l.stop, ?_, .inr rfl⟩
    rw [stopTask, modifyTask, Array.getElem?_modify, if_pos h, hl]
    rfl
  · exact s.keeps_modifyTask_of_ne h _

theorem keeps_release (s : Session) (task : Nat) : Keeps task s s.release := by
  unfold release
  generalize List.range s.stores.size = ids
  induction ids generalizing s with
  | nil => exact .of_eq rfl
  | cons id ids ih =>
    rw [List.foldl_cons]
    refine Keeps.trans ?_ (ih _)
    split
    · exact .of_eq rfl
    · split
      · exact .of_eq rfl
      · dsimp only
        split
        · refine Keeps.trans ?_ (keeps_stopTask _ _ _)
          exact .of_eq rfl
        · exact .of_eq rfl

theorem tasks_deliver (s : Session) (target : Target) (v : Bytes) :
    (s.deliver target v).tasks = s.tasks := by
  cases target with
  | watcher id => rfl
  | store id =>
    show (s.applyRemote id v).tasks = s.tasks
    unfold applyRemote
    split
    · rfl
    · split
      · rfl
      · dsimp only
        split
        · rfl
        · split <;> rfl

theorem keeps_stepTask_of_ne {task task' : Nat} (h : task' ≠ task)
    (hstep : s.stepTask task' = some s') : Keeps task s s' := by
  unfold stepTask at hstep
  split at hstep
  · cases hstep
  · split at hstep
    · cases hstep
    · rename_i l target _ _ l' v _
      dsimp only at hstep
      obtain rfl := Option.some_inj.mp hstep
      refine (s.keeps_modifyTask_of_ne h fun _ => .watch l' target).trans (.of_eq ?_)
      cases v with
      | none => rfl
      | some v => exact tasks_deliver _ target v
  · obtain ⟨r, -, rfl⟩ := Option.map_eq_some_iff.mp hstep
    exact s.keeps_modifyTask_of_ne h _
  · obtain ⟨f, -, rfl⟩ := Option.map_eq_some_iff.mp hstep
    exact (s.keeps_modifyTask_of_ne h _).trans (keeps_release _ _)

end Keeps

/-! ### Watches that stop -/

/-- A task is a watch that has been told to stop. -/
def Stopping (s : Session) (task : Nat) (target : Target) : Prop :=
  ∃ l, s.tasks[task]? = some (.watch l target) ∧ l.stopping = true

/-- A task is a watch that has been told to stop and has ended. -/
def Halted (s : Session) (task : Nat) (target : Target) : Prop :=
  ∃ l, s.tasks[task]? = some (.watch l target) ∧ l.stopping = true ∧ l.isEnded = true

section Stopping

variable {s s' : Session} {task : Nat} {target : Target}

theorem Halted.stopping (h : s.Halted task target) : s.Stopping task target := by
  obtain ⟨l, hl, hstopping, -⟩ := h
  exact ⟨l, hl, hstopping⟩

theorem Keeps.stopping (hk : Keeps task s s') (h : s.Stopping task target) :
    s'.Stopping task target := by
  obtain ⟨l, hl, hstopping⟩ := h
  obtain ⟨l', hl', rfl | rfl⟩ := hk l target hl
  · exact ⟨l', hl', hstopping⟩
  · exact ⟨_, hl', rfl⟩

theorem Keeps.halted (hk : Keeps task s s') (h : s.Halted task target) :
    s'.Halted task target := by
  obtain ⟨l, hl, hstopping, hended⟩ := h
  obtain ⟨l', hl', rfl | rfl⟩ := hk l target hl
  · exact ⟨l', hl', hstopping, hended⟩
  · exact ⟨_, hl', rfl, hended⟩

/-- **A watch that has ended does nothing more.** -/
theorem Halted.stepTask (h : s.Halted task target) : s.stepTask task = none := by
  obtain ⟨l, hl, -, hended⟩ := h
  have hstep : l.step s.memory s.now = none := by
    unfold WatchLoop.isEnded at hended
    unfold WatchLoop.step
    split at hended <;> simp_all
  unfold Session.stepTask
  rw [hl]
  dsimp only
  rw [hstep]

/-- **A watch that has been told to stop** ends as soon as it goes on. -/
theorem Stopping.stepTask (h : s.Stopping task target) :
    s.Halted task target ∨ ∃ s', s.stepTask task = some s' ∧ s'.Halted task target := by
  obtain ⟨l, hl, hstopping⟩ := h
  cases hended : l.isEnded with
  | true => exact .inl ⟨l, hl, hstopping, hended⟩
  | false =>
    have hstep : l.step s.memory s.now = some ({ l with state := .ended }, none) := by
      unfold WatchLoop.isEnded at hended
      unfold WatchLoop.step
      split <;> simp_all
    refine .inr ⟨s.modifyTask task fun _ => .watch { l with state := .ended } target, ?_,
      ⟨{ l with state := .ended }, ?_, hstopping, rfl⟩⟩
    · unfold Session.stepTask
      rw [hl]
      dsimp only
      rw [hstep]
    · rw [modifyTask, Array.getElem?_modify, if_pos rfl, hl]
      rfl

theorem Stopping.of_stepTask {task' : Nat} (h : s.Stopping task target)
    (hstep : s.stepTask task' = some s') : s'.Stopping task target := by
  by_cases hsame : task' = task
  · rw [hsame] at hstep
    rcases h.stepTask with hhalted | ⟨s'', hs'', hhalted⟩
    · rw [hhalted.stepTask] at hstep
      cases hstep
    · rw [hs''] at hstep
      cases hstep
      exact hhalted.stopping
  · exact (keeps_stepTask_of_ne hsame hstep).stopping h

theorem Halted.of_stepTask {task' : Nat} (h : s.Halted task target)
    (hstep : s.stepTask task' = some s') : s'.Halted task target := by
  by_cases hsame : task' = task
  · rw [hsame, h.stepTask] at hstep
    cases hstep
  · exact (keeps_stepTask_of_ne hsame hstep).halted h

/-- What every step of every task keeps is kept when a task goes on. -/
theorem runTask_keeps {P : Session → Prop}
    (hstep : ∀ {s s' id}, P s → Session.stepTask s id = some s' → P s') (h : P s) (id fuel : Nat) :
    P (Session.runTask id fuel s) := by
  induction fuel generalizing s with
  | zero => exact h
  | succ fuel ih =>
    unfold Session.runTask
    split
    · exact h
    · rename_i s' hs'
      exact ih (hstep h hs')

/-- The turn of a watch that has been told to stop is its last. -/
theorem Stopping.runTask_self (h : s.Stopping task target) (fuel : Nat) :
    (Session.runTask task (fuel + 1) s).Halted task target := by
  unfold Session.runTask
  rcases h.stepTask with hhalted | ⟨s', hstep, hhalted⟩
  · rw [hhalted.stepTask]
    exact hhalted
  · rw [hstep]
    exact runTask_keeps Halted.of_stepTask hhalted task fuel

theorem Halted.foldl (h : s.Halted task target) (tasks : List Nat) :
    (tasks.foldl (fun s id => Session.runTask id turn s) s).Halted task target := by
  induction tasks generalizing s with
  | nil => exact h
  | cons id tasks ih => exact ih (runTask_keeps Halted.of_stepTask h id turn)

theorem Stopping.foldl (h : s.Stopping task target) (tasks : List Nat) (hmem : task ∈ tasks) :
    (tasks.foldl (fun s id => Session.runTask id turn s) s).Halted task target := by
  induction tasks generalizing s with
  | nil => cases hmem
  | cons id tasks ih =>
    rcases List.mem_cons.mp hmem with rfl | hmem
    · exact (h.runTask_self _).foldl tasks
    · exact ih (runTask_keeps Stopping.of_stepTask h id turn) hmem

theorem Stopping.runAll (h : s.Stopping task target) : s.runAll.Halted task target := by
  obtain ⟨l, hl, -⟩ := id h
  obtain ⟨hlt, -⟩ := Array.getElem?_eq_some_iff.mp hl
  exact h.foldl _ (List.mem_range.mpr hlt)

theorem Halted.settleWithin (h : s.Halted task target) (fuel : Nat) :
    (Session.settleWithin fuel s).Halted task target := by
  induction fuel generalizing s with
  | zero => exact h
  | succ fuel ih =>
    unfold Session.settleWithin
    split
    · exact h
    · exact ih h.stopping.runAll

/-- **A watch that has been told to stop has ended when the session has settled.** -/
theorem Stopping.settle (h : s.Stopping task target) : s.settle.Halted task target := by
  unfold Session.settle Session.settleWithin
  split
  · rename_i hidle
    obtain ⟨l, hl, -⟩ := id h
    obtain ⟨hlt, -⟩ := Array.getElem?_eq_some_iff.mp hl
    have hnone := List.all_eq_true.mp hidle task (List.mem_range.mpr hlt)
    rcases h.stepTask with hhalted | ⟨s', hstep, -⟩
    · exact hhalted
    · rw [hstep] at hnone
      cases hnone
  · exact h.runAll.settleWithin _

theorem stopping_stopTask {l : WatchLoop} (h : s.tasks[task]? = some (.watch l target)) :
    (s.stopTask task).Stopping task target := by
  refine ⟨l.stop, ?_, rfl⟩
  rw [stopTask, modifyTask, Array.getElem?_modify, if_pos rfl, h]
  rfl

end Stopping

end Session

end LiveConfig
