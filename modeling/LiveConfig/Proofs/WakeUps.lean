import LiveConfig.Proofs.StoreSteps

/-!
A read that waits misses nothing.

Between the moment at which a read looks at the store and the moment at which it is parked anything
may happen, and operations on other keys wake it for nothing.  `Scene.Told` says that it has been
woken, or that an operation has still to wake it.  Main statement: `waiting_read_misses_nothing`, a
read is parked for as long only as there is nothing else for it to answer, or it will be told.
-/

namespace LiveConfig

theorem Memory.exists_current_of_indexOf {m : Memory} {key : String} {n : Nat}
    (h : m.indexOf key = n) (hn : n ≠ 0) : ∃ p, m.current key = some p ∧ p.modifyIndex = n := by
  unfold indexOf at h
  cases hp : m.current key with
  | none =>
    rw [hp] at h
    exact absurd h.symm hn
  | some p =>
    rw [hp] at h
    exact ⟨p, rfl, h⟩

/-! ### The deadline -/

/-- A waiter later in the same read, whatever it has seen and heard since. -/
def Waiter.Same (v w : Waiter) : Prop :=
  w.key = v.key ∧ w.index = v.index ∧ w.deadline = v.deadline

theorem Waiter.Same.trans {u v w : Waiter} (h : u.Same v) (h' : v.Same w) : u.Same w :=
  ⟨h'.1.trans h.1, h'.2.1.trans h.2.1, h'.2.2.trans h.2.2⟩

namespace ReadCall

variable {key : String} {q : Query} {m : Memory} {now : Nat} {c c' : ReadCall} {v w : Waiter}

theorem wake_of_waiter (h : c.waiter? = some v) : ∃ w, c.wake.waiter? = some w ∧ v.Same w := by
  cases c with
  | called | accepted | answered => cases h
  | looping u =>
    cases h
    exact ⟨v, rfl, rfl, rfl, rfl⟩
  | registered u | cleared u | parked u =>
    cases h
    exact ⟨v.wake, rfl, rfl, rfl, rfl⟩

/-- A read that has a deadline keeps it, until it has an answer. -/
theorem Acts.of_waiter (h : c.Acts key q m now c') (hc : c.waiter? = some v) :
    (∃ w, c'.waiter? = some w ∧ v.Same w) ∨ ∃ a, c' = .answered a := by
  cases h with
  | refuse | accept | plain | enter => cases hc
  | register | clear | park | rise =>
    cases hc
    exact .inl ⟨_, rfl, rfl, rfl, rfl⟩
  | fail | find | expire => exact .inr ⟨_, rfl⟩

theorem waiter_of_wake (h : c.wake.waiter? = some w) : ∃ v, c.waiter? = some v ∧ v.Same w := by
  cases c with
  | called | accepted | answered => cases h
  | looping u => exact ⟨u, rfl, by cases h; exact ⟨rfl, rfl, rfl⟩⟩
  | registered u | cleared u | parked u => exact ⟨u, rfl, by cases h; exact ⟨rfl, rfl, rfl⟩⟩

theorem parked_of_wake (h : c.wake = .parked w) : ∃ v, c = .parked v ∧ w = v.wake := by
  cases c with
  | parked u => exact ⟨u, rfl, by cases h; rfl⟩
  | called | accepted | looping | registered | cleared | answered => cases h

theorem woken_of_wake (h : c.wake = .cleared w ∨ c.wake = .parked w) : w.woken = true := by
  cases c with
  | cleared =>
    rcases h with h | h
    · cases h
      rfl
    · cases h
  | parked =>
    rcases h with h | h
    · cases h
    · cases h
      rfl
  | called | accepted | looping | registered | answered =>
    rcases h with h | h
    · cases h
    · cases h

theorem answered_of_wake {a : ReadAnswer} (h : c.wake = .answered a) : c = .answered a := by
  cases c with
  | answered => exact h
  | called | accepted | looping | registered | cleared | parked => cases h

/-- Where a deadline comes from. -/
theorem Acts.waiter_cases (h : c.Acts key q m now c') (hc : c'.waiter? = some w) :
    (∃ v, c.waiter? = some v ∧ v.Same w) ∨
      w.key = key ∧ w.index = q.index ∧ w.deadline = now + q.patience.ticks := by
  cases h with
  | refuse | accept | plain | fail | find | expire => cases hc
  | enter =>
    cases hc
    exact .inr ⟨rfl, rfl, rfl⟩
  | register | clear | park | rise =>
    cases hc
    exact .inl ⟨_, rfl, rfl, rfl, rfl⟩

end ReadCall

namespace Scene

variable {key : String} {q : Query} {s x y : Scene} {ys : List Scene}

/-- **What a step can be for the read**: at most it is woken, or it is the read's own step, and then
everything else stays as it is. -/
theorem Step.cases_call (h : Step key q x y) :
    x.now ≤ y.now ∧ (y.call = x.call ∨ y.call = x.call.wake) ∨
      x.call.Acts key q x.memory x.now y.call ∧ y.memory = x.memory ∧ y.now = x.now ∧
        y.operations = x.operations := by
  cases h with
  | tick => exact .inl ⟨Nat.le_succ _, .inl rfl⟩
  | begin | operate => exact .inl ⟨Nat.le_refl _, .inl rfl⟩
  | tell => exact .inl ⟨Nat.le_refl _, .inr rfl⟩
  | act h => exact .inr ⟨h, rfl, rfl, rfl⟩

theorem Step.of_answered {a : ReadAnswer} (h : Step key q x y) (hx : x.call = .answered a) :
    y.call = .answered a := by
  rcases h.cases_call with ⟨-, hsame | hwoken⟩ | ⟨hact, -⟩
  · exact hsame.trans hx
  · rw [hwoken, hx]
    rfl
  · rw [hx] at hact
    cases hact

theorem Step.of_waiter {v : Waiter} (h : Step key q x y) (hx : x.call.waiter? = some v) :
    (∃ w, y.call.waiter? = some w ∧ v.Same w) ∨ ∃ a, y.call = .answered a := by
  rcases h.cases_call with ⟨-, hsame | hwoken⟩ | ⟨hact, -⟩
  · exact .inl ⟨v, hsame ▸ hx, rfl, rfl, rfl⟩
  · rw [hwoken]
    exact .inl (ReadCall.wake_of_waiter hx)
  · exact hact.of_waiter hx

/-- **Nothing moves the deadline.** -/
theorem same_of_run {v : Waiter} (hrun : Recorded (Moves key q) x ys y)
    (hx : x.call.waiter? = some v) :
    (∃ w, y.call.waiter? = some w ∧ v.Same w) ∨ ∃ a, y.call = .answered a := by
  induction hrun with
  | refl => exact .inl ⟨v, hx, rfl, rfl, rfl⟩
  | tail _ hmoves ih =>
    obtain ⟨hstep⟩ := hmoves
    rcases ih with ⟨w, hw, hsame⟩ | ⟨a, ha⟩
    · rcases hstep.of_waiter hw with ⟨u, hu, hsame'⟩ | hanswered
      · exact .inl ⟨u, hu, hsame.trans hsame'⟩
      · exact .inr hanswered
    · exact .inr ⟨a, hstep.of_answered ha⟩

/-! ### The answer -/

/-- What a read may answer in a scene, after the scenes before it: what is there and has another
index than the read knows, at its deadline the pair with that index, or that the store is
unavailable. -/
inductive Gives (key : String) (q : Query) (s : Scene) (before : List Scene) (y : Scene) :
    ReadAnswer → Prop
  | changed (h : y.memory.indexOf key ≠ q.index) :
    Gives key q s before y (.ok (y.memory.current key))
  | expired {w : Waiter} {p : Pair} {t : Nat} (hparked : y.call = .parked w)
      (hover : w.deadline ≤ y.now) (hstart : s.now ≤ t) (hread : t ≤ y.now)
      (hdeadline : w.deadline = t + q.patience.ticks) (hindex : p.modifyIndex = q.index)
      (hseen : ∃ u ∈ before, u.memory.current key = some p) : Gives key q s before y (.ok (some p))
  | unavailable (h : y.memory.available = false) :
    Gives key q s before y (.error Memory.unavailable)

/-- How a read stands that was called in a scene, with all scenes since then. -/
structure Sound (key : String) (q : Query) (s : Scene) (ys : List Scene) (x : Scene) : Prop where
  time : s.now ≤ x.now
  waits : ∀ w, x.call.waiter? = some w → w.key = key ∧ w.index = q.index ∧
    ∃ t, s.now ≤ t ∧ t ≤ x.now ∧ w.deadline = t + q.patience.ticks
  seen : ∀ w, x.call = .parked w → ∃ p, w.seen = some p ∧ p.modifyIndex = q.index ∧
    ∃ u ∈ ys, u.memory.current key = some p
  answered : ∀ a, x.call = .answered a → ∃ before y after, ys = before ++ y :: after ∧
    y.call.Acts key q y.memory y.now (.answered a) ∧ Gives key q s before y a

namespace Sound

theorem start (hs : s.call = .called) : Sound key q s [] s := by
  refine ⟨Nat.le_refl _, fun w hw => ?_, fun w hw => ?_, fun a ha => ?_⟩
  · rw [hs] at hw
    cases hw
  · rw [hs] at hw
    cases hw
  · rw [hs] at ha
    cases ha

/-- A step of somebody else leaves the read as it stands, but for its being woken. -/
theorem other (h : Sound key q s ys x) (hle : x.now ≤ y.now)
    (hwaiter : ∀ w, y.call.waiter? = some w → ∃ v, x.call.waiter? = some v ∧ v.Same w)
    (hparked : ∀ w, y.call = .parked w → ∃ v, x.call = .parked v ∧ w.seen = v.seen)
    (hanswered : ∀ a, y.call = .answered a → x.call = .answered a) :
    Sound key q s (ys ++ [x]) y := by
  refine ⟨Nat.le_trans h.time hle, fun w hw => ?_, fun w hw => ?_, fun a ha => ?_⟩
  · obtain ⟨v, hv, hkey, hindex, hdeadline⟩ := hwaiter w hw
    obtain ⟨hkey', hindex', t, hstart, hread, hd⟩ := h.waits v hv
    exact ⟨hkey.trans hkey', hindex.trans hindex', t, hstart, Nat.le_trans hread hle,
      hdeadline.trans hd⟩
  · obtain ⟨v, hv, hseen⟩ := hparked w hw
    obtain ⟨p, hp, hindex, u, hu, hcurrent⟩ := h.seen v hv
    exact ⟨p, hseen.trans hp, hindex, u, List.mem_append_left _ hu, hcurrent⟩
  · obtain ⟨before, z, after, rfl, hact, hgives⟩ := h.answered a (hanswered a ha)
    exact ⟨before, z, after ++ [x], by simp, hact, hgives⟩

/-- A read that waits and finds the index that it knows has seen the pair with that index. -/
theorem exists_seen (h : Sound key q s ys x) (hq : q.index ≠ 0) {v : Waiter}
    (hv : x.call.waiter? = some v) (hindex : x.memory.indexOf v.key = v.index) :
    ∃ p, x.memory.current v.key = some p ∧ p.modifyIndex = q.index ∧
      x.memory.current key = some p := by
  obtain ⟨hkey, hknown, -⟩ := h.waits v hv
  rw [hkey, hknown] at hindex
  obtain ⟨p, hp, hmodify⟩ := Memory.exists_current_of_indexOf hindex hq
  exact ⟨p, hkey ▸ hp, hmodify, hp⟩

/-- What a read answers, it may answer. -/
theorem gives (h : Sound key q s ys x) (hq : q.index ≠ 0) {a : ReadAnswer} {c : ReadCall}
    (hc : c = x.call) (hact : c.Acts key q x.memory x.now (.answered a)) :
    Gives key q s ys x a := by
  cases hact with
  | refuse hdown => exact .unavailable hdown
  | plain hzero => exact absurd hzero hq
  | fail hdown => exact .unavailable hdown
  | @find w hother =>
    obtain ⟨hkey, hknown, -⟩ := h.waits w (hc ▸ rfl)
    rw [hkey, hknown] at hother
    rw [hkey]
    exact .changed hother
  | @expire w hover =>
    obtain ⟨p, hp, hindex, hseen⟩ := h.seen w hc.symm
    obtain ⟨-, -, t, hstart, hread, hdeadline⟩ := h.waits w (hc ▸ rfl)
    rw [hp]
    exact .expired hc.symm hover hstart hread hdeadline hindex hseen

/-- **Every step leaves it so.** -/
theorem step (h : Sound key q s ys x) (hq : q.index ≠ 0) (hstep : Step key q x y) :
    Sound key q s (ys ++ [x]) y := by
  rcases hstep.cases_call with ⟨hle, hsame | hwoken⟩ | ⟨hact, -, hnow, -⟩
  · refine h.other hle (fun w hw => ⟨w, hsame ▸ hw, rfl, rfl, rfl⟩)
      (fun w hw => ⟨w, hsame ▸ hw, rfl⟩) (fun a ha => hsame ▸ ha)
  · refine h.other hle (fun w hw => ReadCall.waiter_of_wake (hwoken ▸ hw)) (fun w hw => ?_)
      (fun a ha => ReadCall.answered_of_wake (hwoken ▸ ha))
    obtain ⟨v, hv, rfl⟩ := ReadCall.parked_of_wake (hwoken ▸ hw)
    exact ⟨v, hv, rfl⟩
  · refine ⟨hnow ▸ h.time, fun w hw => ?_, fun w hw => ?_, fun a ha => ?_⟩
    · rw [hnow]
      rcases hact.waiter_cases hw with ⟨v, hv, hkey, hindex, hdeadline⟩ | ⟨hkey, hindex, hdeadline⟩
      · obtain ⟨hkey', hindex', t, hstart, hread, hd⟩ := h.waits v hv
        exact ⟨hkey.trans hkey', hindex.trans hindex', t, hstart, hread, hdeadline.trans hd⟩
      · exact ⟨hkey, hindex, x.now, h.time, Nat.le_refl _, hdeadline⟩
    · generalize hx : x.call = c at hact
      generalize hy : y.call = c' at hact hw
      cases hact with
      | park hindex =>
        obtain ⟨p, hseen, hmodify, hp⟩ := h.exists_seen hq (hx ▸ rfl) hindex
        cases hw
        exact ⟨p, hseen, hmodify, x, by simp, hp⟩
      | refuse | accept | plain | enter | register | fail | clear | find | rise | expire => cases hw
    · rw [ha] at hact
      exact ⟨ys, x, [], rfl, hact, h.gives hq rfl hact⟩

theorem run (hs : s.call = .called) (hq : q.index ≠ 0) (hrun : Recorded (Moves key q) s ys x) :
    Sound key q s ys x := by
  induction hrun with
  | refl => exact start hs
  | tail _ hmoves ih =>
    obtain ⟨hstep⟩ := hmoves
    exact ih.step hq hstep

end Sound

/-! ### What a parked read is told -/

/-- The read has been woken, or an operation has still to wake it. -/
def Told (x : Scene) : Prop :=
  (∃ w, x.call.waiter? = some w ∧ w.woken = true) ∨ ∃ o ∈ x.operations, o.owes = true

/-- What a read has found out holds still, or it will be told. -/
structure Alert (key : String) (q : Query) (x : Scene) : Prop where
  available : ∀ w, x.call = .cleared w ∨ x.call = .parked w →
    x.memory.available = true ∨ x.Told
  index : ∀ w, x.call = .parked w → x.memory.indexOf key = q.index ∨ x.Told

namespace Alert

theorem start (hs : s.call = .called) : Alert key q s := by
  refine ⟨fun w hw => ?_, fun w hw => ?_⟩
  · rcases hw with hw | hw <;> rw [hs] at hw <;> cases hw
  · rw [hs] at hw
    cases hw

/-- An operation that has taken effect has still to wake the read. -/
theorem of_told (h : y.Told) : Alert key q y := ⟨fun _ _ => .inr h, fun _ _ => .inr h⟩

/-- Nothing has happened to the store that a read looks at. -/
theorem congr (h : Alert key q x) (hcall : y.call = x.call)
    (havailable : y.memory.available = x.memory.available)
    (hcurrent : y.memory.current key = x.memory.current key) (htold : x.Told → y.Told) :
    Alert key q y := by
  refine ⟨fun w hw => ?_, fun w hw => ?_⟩
  · rw [hcall] at hw
    rw [havailable]
    exact (h.available w hw).imp_right htold
  · rw [hcall] at hw
    rw [Memory.indexOf_congr hcurrent]
    exact (h.index w hw).imp_right htold

/-- **Every step leaves it so.** -/
theorem step (h : Alert key q x) (hsound : Sound key q s ys x) (hstep : Step key q x y) :
    Alert key q y := by
  cases hstep with
  | tick => exact h.congr rfl rfl rfl id
  | begin a =>
    refine h.congr rfl rfl rfl (Or.imp_right ?_)
    rintro ⟨o, ho, howes⟩
    exact ⟨o, List.mem_append_left _ ho, howes⟩
  | @operate m m' t os o o' os' c hdoes =>
    rcases hdoes.cases with howes | ⟨hnot, havailable, hentries⟩
    · exact .of_told (.inr ⟨o', by simp, howes⟩)
    · have hcurrent : m'.current key = m.current key := by
        rw [Memory.current, Memory.current, hentries]
      refine h.congr rfl havailable hcurrent (Or.imp_right ?_)
      rintro ⟨o'', ho'', howes⟩
      have hne : o'' ≠ o := by
        rintro rfl
        rw [hnot] at howes
        cases howes
      refine ⟨o'', ?_, howes⟩
      simp only [List.mem_append, List.mem_cons] at ho'' ⊢
      exact ho''.imp_right fun hmem => .inr (hmem.resolve_left hne)
  | @tell m t os a os' c =>
    -- Whoever is parked, or about to be, has registered, and so it hears of it.
    have htold : ∀ w, c.wake = .cleared w ∨ c.wake = .parked w →
        Told ⟨m, t, os ++ ⟨a, .over⟩ :: os', c.wake⟩ := by
      intro w hw
      refine .inl ⟨w, ?_, ReadCall.woken_of_wake hw⟩
      rcases hw with hw | hw <;> simp [hw, ReadCall.waiter?]
    exact ⟨fun w hw => .inr (htold w hw), fun w hw => .inr (htold w (.inr hw))⟩
  | @act m t os c c' hact =>
    cases hact with
    | refuse | accept | plain | enter | register | fail | find | rise | expire =>
      exact ⟨fun w => nofun, fun w => nofun⟩
    | clear hup => exact ⟨fun w _ => .inl hup, fun w => nofun⟩
    | @park v hindex =>
      obtain ⟨hkey, hknown, -⟩ := hsound.waits v rfl
      rw [hkey, hknown] at hindex
      refine ⟨fun w hw => (h.available v (.inl rfl)).imp_right ?_, fun w hw => .inl hindex⟩
      rintro (⟨u, hu, hwoken⟩ | howes)
      · cases hu
        exact .inl ⟨_, rfl, hwoken⟩
      · exact .inr howes

theorem run (hs : s.call = .called) (hq : q.index ≠ 0) (hrun : Recorded (Moves key q) s ys x) :
    Alert key q x := by
  induction hrun with
  | refl => exact start hs
  | tail hrun hmoves ih =>
    obtain ⟨hstep⟩ := hmoves
    exact ih.step (Sound.run hs hq hrun) hstep

end Alert

/-! ### Operations on other keys -/

/-- The operations that have begun stay, whatever becomes of them. -/
theorem Step.exists_operation (h : Step key q x y) {o : Operation} (ho : o ∈ x.operations) :
    ∃ o' ∈ y.operations, o'.action = o.action := by
  cases h with
  | tick | act => exact ⟨o, ho, rfl⟩
  | begin a => exact ⟨o, List.mem_append_left _ ho, rfl⟩
  | @operate m m' t os p p' os' c hdoes =>
    simp only [List.mem_append, List.mem_cons] at ho ⊢
    rcases ho with ho | rfl | ho
    · exact ⟨o, .inl ho, rfl⟩
    · exact ⟨p', .inr (.inl rfl), hdoes.action_eq⟩
    · exact ⟨o, .inr (.inr ho), rfl⟩
  | @tell m t os a os' c =>
    simp only [List.mem_append, List.mem_cons] at ho ⊢
    rcases ho with ho | rfl | ho
    · exact ⟨o, .inl ho, rfl⟩
    · exact ⟨⟨a, .over⟩, .inr (.inl rfl), rfl⟩
    · exact ⟨o, .inr (.inr ho), rfl⟩

end Scene

/-- An action that is not on a key, and does not make the store unavailable. -/
def Memory.Action.Spares (key : String) : Memory.Action → Prop
  | .put k _ | .delete k => normalKey key ≠ normalKey k
  | .setAvailable up => up = true
  | .failPuts _ => True

/-- What does not concern a key leaves its entry as it is. -/
theorem Operation.Does.of_spares {m m' : Memory} {o o' : Operation} {key : String}
    (h : Does m o m' o') (ho : o.action.Spares key) :
    m'.current key = m.current key ∧ (m.available = true → m'.available = true) := by
  cases h with
  | refuse | accept | inject | spare | count | fail => exact ⟨rfl, id⟩
  | write => exact ⟨m.current_entered _ ho, id⟩
  | @remove key' =>
    refine ⟨m.current_without ho, fun hup => ?_⟩
    rw [m.available_without key', hup]
  | switch => exact ⟨rfl, fun _ => ho⟩

namespace Scene

variable {key : String} {q : Query} {s x y : Scene} {ys : List Scene}

/-- In a scene after another one the store is available, and the key has the same entry. -/
def Calm (key : String) (s y : Scene) : Prop :=
  y.memory.available = true ∧ y.memory.current key = s.memory.current key

theorem Calm.step (h : Calm key s x) (hstep : Step key q x y)
    (hspares : ∀ o ∈ x.operations, o.action.Spares key) : Calm key s y := by
  cases hstep with
  | tick | begin | tell | act => exact h
  | @operate m m' t os o o' os' c hdoes =>
    obtain ⟨hcurrent, havailable⟩ := hdoes.of_spares (hspares o (by simp))
    exact ⟨havailable h.1, hcurrent.trans h.2⟩

/-- **Operations on other keys** leave the key alone all the time. -/
theorem calm_of_run (hrun : Recorded (Moves key q) s ys x) (hup : s.memory.available = true)
    (hspares : ∀ o ∈ x.operations, o.action.Spares key) :
    Calm key s x ∧ ∀ y ∈ ys, Calm key s y := by
  induction hrun with
  | refl => exact ⟨⟨hup, rfl⟩, nofun⟩
  | @tail y z ys _ hrun hmoves ih =>
    obtain ⟨hstep⟩ := hmoves
    have hspares' : ∀ o ∈ y.operations, o.action.Spares key := by
      intro o ho
      obtain ⟨o', ho', haction⟩ := hstep.exists_operation ho
      exact haction ▸ hspares o' ho'
    obtain ⟨hy, hys⟩ := ih hspares'
    refine ⟨hy.step hstep hspares', fun u hu => ?_⟩
    rcases List.mem_append.mp hu with hu | hu
    · exact hys u hu
    · obtain rfl := List.mem_singleton.mp hu
      exact hy

/-- While nothing concerns its key, a read ends at its deadline only, with the entry that is there.
-/
theorem Gives.of_calm {before : List Scene} {a : ReadAnswer} (h : Gives key q s before y a)
    (hindex : s.memory.indexOf key = q.index) (hy : Calm key s y)
    (hbefore : ∀ u ∈ before, Calm key s u) :
    a = .ok (s.memory.current key) ∧ ∃ w, y.call = .parked w ∧ w.deadline ≤ y.now := by
  cases h with
  | changed hother => exact absurd ((Memory.indexOf_congr hy.2).trans hindex) hother
  | unavailable hdown =>
    rw [hy.1] at hdown
    cases hdown
  | @expired w p t hparked hover _ _ _ _ hseen =>
    obtain ⟨u, hu, hp⟩ := hseen
    exact ⟨by rw [← hp, (hbefore u hu).2], w, hparked, hover⟩

end Scene

/-! ### Coming to rest -/

namespace ReadCall

/-- How many steps a read may still take that is not woken any more. -/
def stepsLeft : ReadCall → Nat
  | answered _ => 0
  | parked w => if w.woken then 5 else 1
  | cleared w => if w.woken then 6 else 2
  | registered w => if w.woken then 7 else 3
  | looping _ => 4
  | accepted => 5
  | called => 6

variable {key : String} {q : Query} {m : Memory} {now : Nat} {c c' : ReadCall}

/-- **Every step of a read brings it nearer to its rest.** -/
theorem Acts.stepsLeft_lt (h : c.Acts key q m now c') : c'.stepsLeft < c.stepsLeft := by
  cases h with
  | refuse | accept | plain | enter | register => simp [stepsLeft]
  | fail | clear | find | park | expire =>
    simp only [stepsLeft]
    split <;> omega
  | rise hwoken => simp [stepsLeft, hwoken]

/-- A read that can do nothing has its answer, or it is parked and waits to be woken. -/
theorem eq_of_rest (h : ∀ c', ¬ c.Acts key q m now c') : (∃ a, c = .answered a) ∨
    ∃ w, c = .parked w ∧ w.woken = false ∧ now < w.deadline := by
  cases c with
  | answered a => exact .inl ⟨a, rfl⟩
  | called =>
    cases hup : m.available with
    | true => exact absurd (.accept hup) (h _)
    | false => exact absurd (.refuse hup) (h _)
  | accepted =>
    by_cases hq : q.index = 0
    · exact absurd (.plain hq) (h _)
    · exact absurd (.enter hq) (h _)
  | looping w => exact absurd .register (h _)
  | registered w =>
    cases hup : m.available with
    | true => exact absurd (.clear hup) (h _)
    | false => exact absurd (.fail hup) (h _)
  | cleared w =>
    by_cases hindex : m.indexOf w.key = w.index
    · exact absurd (.park hindex) (h _)
    · exact absurd (.find hindex) (h _)
  | parked w =>
    refine .inr ⟨w, rfl, ?_, ?_⟩
    · cases hwoken : w.woken with
      | false => rfl
      | true => exact absurd (.rise hwoken) (h _)
    · exact Nat.lt_of_not_le fun hover => h _ (.expire hover)

end ReadCall

/-- **A parked read** has nothing to answer, or it has been woken, or an operation has still to wake
it. -/
theorem Scene.Alert.parked {key : String} {q : Query} {x : Scene} (h : x.Alert key q) {w : Waiter}
    (hw : x.call = .parked w) :
    x.memory.indexOf key = q.index ∧ x.memory.available = true ∨ w.woken = true ∨
      ∃ o ∈ x.operations, o.owes = true := by
  have htold : x.Told → w.woken = true ∨ ∃ o ∈ x.operations, o.owes = true := by
    rintro (⟨v, hv, hwoken⟩ | howes)
    · rw [hw] at hv
      cases hv
      exact .inl hwoken
    · exact .inr howes
  rcases h.available w (.inr hw) with hup | hx
  · rcases h.index w hw with hindex | hx
    · exact .inl ⟨hindex, hup⟩
    · exact .inr (htold hx)
  · exact .inr (htold hx)

open Scene in
/-- **A read that waits misses nothing**, whatever others do to the store between its steps.  It
answers what the key had at some moment of the read, with another index than it knows; or it answers
at its deadline the pair with that index; or it has found the store unavailable.  Nothing moves the
deadline once it is there.  Whenever the read is parked, the key has the index that it knows and the
store is available, or it has been woken, or an operation has still to wake it.  Operations on other
keys do not end it.  It comes to rest after a few steps, and if no operation has still to wake it,
it rests with its answer, or before its deadline with nothing to answer.  A read and an operation
that nobody interrupts do what they do as one. -/
theorem waiting_read_misses_nothing (key : String) (q : Query) (hq : q.index ≠ 0) :
    (∀ (s x : Scene) (ys : List Scene), s.call = .called → Recorded (Moves key q) s ys x →
      (∀ a, x.call = .answered a → ∃ before y after, ys = before ++ y :: after ∧
        y.call.Acts key q y.memory y.now (.answered a) ∧ Gives key q s before y a) ∧
      (∀ w, x.call.waiter? = some w →
        (∃ t, s.now ≤ t ∧ t ≤ x.now ∧ w.deadline = t + q.patience.ticks) ∧
        ∀ ys' y v, Recorded (Moves key q) x ys' y → y.call.waiter? = some v →
          v.deadline = w.deadline) ∧
      (∀ w, x.call = .parked w →
        x.memory.indexOf key = q.index ∧ x.memory.available = true ∨ w.woken = true ∨
          ∃ o ∈ x.operations, o.owes = true) ∧
      (s.memory.available = true → s.memory.indexOf key = q.index →
        (∀ o ∈ x.operations, o.action.Spares key) → ∀ a, x.call = .answered a →
        a = .ok (s.memory.current key) ∧
          ∃ y ∈ ys, ∃ w, y.call = .parked w ∧ w.deadline ≤ y.now) ∧
      (∀ c, x.call.Acts key q x.memory x.now c → c.stepsLeft < x.call.stepsLeft) ∧
      ((∀ c, ¬ x.call.Acts key q x.memory x.now c) → (∀ o ∈ x.operations, o.owes = false) →
        (∃ a, x.call = .answered a) ∨ ∃ w, x.call = .parked w ∧ x.now < w.deadline ∧
          x.memory.indexOf key = q.index ∧ x.memory.available = true)) ∧
    ∀ (m : Memory) (now : Nat) (os : List Operation),
      Reads key q m now os .called (.of (m.ask key (some q) now)) ∧
      (∀ w, Reads key q m now os (.parked w) (.of (w.resume m now))) ∧
      ∀ a c, ∃ c', (c' = c ∨ c' = c.wake) ∧
        Works key q m (m.act a) now os ⟨a, .begun⟩ ⟨a, .over⟩ c c' := by
  refine ⟨fun s x ys hs hrun => ?_, fun m now os => ⟨reads_ask key q m now os,
    reads_resume key q m now os, works_act key q m now os⟩⟩
  have hsound : Sound key q s ys x := .run hs hq hrun
  have halert : Alert key q x := .run hs hq hrun
  refine ⟨hsound.answered, fun w hw => ⟨(hsound.waits w hw).2.2, ?_⟩, fun w => halert.parked, ?_,
    fun c => ReadCall.Acts.stepsLeft_lt, fun hrest hdone => ?_⟩
  · intro ys' y v hrun' hv
    rcases same_of_run hrun' hw with ⟨v', hv', hsame⟩ | ⟨a, ha⟩
    · cases hv.symm.trans hv'
      exact hsame.2.2
    · rw [ha] at hv
      cases hv
  · intro hup hindex hspares a ha
    obtain ⟨-, hcalm⟩ := calm_of_run hrun hup hspares
    obtain ⟨before, y, after, rfl, -, hgives⟩ := hsound.answered a ha
    obtain ⟨hanswer, hover⟩ := hgives.of_calm hindex (hcalm y (by simp)) fun u hu =>
      hcalm u (List.mem_append_left _ hu)
    exact ⟨hanswer, y, by simp, hover⟩
  · rcases ReadCall.eq_of_rest hrest with hanswered | ⟨w, hw, hwoken, hbefore⟩
    · exact .inl hanswered
    · rcases halert.parked hw with ⟨hindex, hup⟩ | htold | ⟨o, ho, howes⟩
      · exact .inr ⟨w, hw, hbefore, hindex, hup⟩
      · rw [hwoken] at htold
        cases htold
      · rw [hdone o ho] at howes
        cases howes

open Scene in
/-- A write takes effect between the look of a read and its being parked, and is not missed.  A
write of another key wakes a read for nothing, which ends at its deadline. -/
theorem waiting_read_misses_nothing_in_between :
    let first : Pair := ⟨"k", 1, 1, 0, 0, [7], none⟩
    let second : Pair := ⟨"k", 1, 2, 0, 0, [8], none⟩
    let q : Query := ⟨1, .ofMillis 1⟩
    let s : Scene := ⟨Memory.empty.act (.put "k" [7]), 0, [], .called⟩
    (∃ ys x w ys' y, Recorded (Moves "k" q) s ys x ∧ x.call = .parked w ∧
      x.memory.current "k" = some second ∧ (w.woken = true ∨ ∃ o ∈ x.operations, o.owes = true) ∧
      Recorded (Moves "k" q) s ys' y ∧ y.call = .answered (.ok (some second))) ∧
    ∃ ys x, Recorded (Moves "k" q) s ys x ∧ x.operations.map (·.action) = [.put "other" [9]] ∧
      x.call = .answered (.ok (some first)) ∧
      ∃ y ∈ ys, ∃ w, y.call = .parked w ∧ w.deadline ≤ y.now := by
  intro first second q s
  let m : Memory := Memory.empty.act (.put "k" [7])
  let w : Waiter := ⟨"k", q.index, 0 + q.patience.ticks, none, false⟩
  let parked : Waiter := { w with seen := m.current w.key }
  have hmisses := (waiting_read_misses_nothing "k" q (by decide)).1
  have hcalled : Reads "k" q m 0 [] .called .called := ⟨[], .refl⟩
  have hcleared : Reads "k" q m 0 [] .called (.cleared w) :=
    (((hcalled.tail (.accept rfl)).tail (.enter (by decide))).tail .register).tail (.clear rfl)
  constructor
  · let a : Memory.Action := .put "/k" [8]
    let m' : Memory := m.stored "/k" [8]
    have hbegun : Works "k" q m m 0 [] ⟨a, .begun⟩ ⟨a, .begun⟩ (.cleared w) (.cleared w) :=
      ⟨[], .refl⟩
    have hidle : Works "k" q m m 0 [] ⟨a, .spared⟩ ⟨a, .spared⟩ (.parked parked) (.parked parked) :=
      ⟨[], .refl⟩
    have htold : Reads "k" q m' 0 [⟨a, .over⟩] (.parked parked.wake) (.parked parked.wake) :=
      ⟨[], .refl⟩
    obtain ⟨looks, hlooks⟩ := hcleared
    obtain ⟨begins, hspared⟩ := (hbegun.operate (.accept rfl rfl)).operate (.spare rfl)
    obtain ⟨writes, hwrites⟩ := hidle.operate .write
    obtain ⟨tells, htells⟩ := ((hidle.operate .write).operate .count).tell
    obtain ⟨answers, hanswers⟩ := (((htold.tail (.rise rfl)).tail .register).tail (.clear rfl)).tail
      (.find (by decide))
    have hparked := ((hlooks.tail (.step (.begin a))).trans hspared).tail
      (.step (.act (.park (by decide))))
    have hwritten := hparked.trans hwrites
    obtain ⟨-, -, hwakes, -⟩ := hmisses s _ _ rfl hwritten
    have howes := (hwakes parked rfl).resolve_left (by decide)
    have hsecond : m'.current "k" = some second := by decide
    exact ⟨_, _, _, _, _, hwritten, rfl, by decide, howes, (hparked.trans htells).trans hanswers,
      congrArg (ReadCall.answered ∘ .ok) hsecond⟩
  · let a : Memory.Action := .put "other" [9]
    let m' : Memory := m.stored "other" [9]
    have hbegun : Works "k" q m m 0 [] ⟨a, .begun⟩ ⟨a, .begun⟩ (.parked parked) (.parked parked) :=
      ⟨[], .refl⟩
    have htold : Reads "k" q m' 0 [⟨a, .over⟩] (.parked parked.wake) (.parked parked.wake) :=
      ⟨[], .refl⟩
    have hspared := (hbegun.operate (.accept rfl rfl)).operate (.spare rfl)
    obtain ⟨parks, hparks⟩ := hcleared.tail (.park (by decide))
    obtain ⟨tells, htells⟩ := ((hspared.operate .write).operate .count).tell
    obtain ⟨looks, hlooks⟩ := (((htold.tail (.rise rfl)).tail .register).tail (.clear rfl)).tail
      (.park (by decide))
    have hwaits := ((hparks.tail (.step (.begin a))).trans htells).trans hlooks
    have hrun := (hwaits.tail (.step .tick)).tail (.step (.act (.expire (by decide))))
    obtain ⟨-, -, -, hspares, -⟩ := hmisses s _ _ rfl hrun
    have hother : ∀ o ∈ [(⟨a, .over⟩ : Operation)], o.action.Spares "k" := by
      intro o ho
      obtain rfl := List.mem_singleton.mp ho
      exact (by decide : Memory.normalKey "k" ≠ Memory.normalKey "other")
    obtain ⟨hanswer, hover⟩ := hspares rfl (by decide) hother _ rfl
    have hfirst : s.memory.current "k" = some first := by decide
    exact ⟨_, _, hrun, rfl, congrArg ReadCall.answered (hanswer.trans (congrArg Except.ok hfirst)),
      hover⟩

end LiveConfig
