import LiveConfig.Proofs.Traffic

/-!
The generations of a store, whoever works on it.

`accepted` lists the generations that the writers of a run install, in the order in which they come.
`Consistent` ties that list to the store and to what the writers have come to; every step keeps it.
Main statement: `generations_count_acceptances`, the number of the generation in use counts the
documents accepted so far, and a writer that is turned away has changed nothing.
-/

namespace LiveConfig

/-- What a writer has come to agrees with its bytes. -/
def Writer.Sound : Writer → Prop
  | load src (.parsed d raw) => src.parse = .ok (d, raw)
  | load src (.accepted g) => src.parse = .ok (g.document, g.raw)
  | load src (.refused e) => src.parse = .error e
  | remote raw (.parsed d) => Document.parse raw = .ok d
  | remote raw (.installed g _) | remote raw (.called g _) | remote raw (.finished g _) =>
    g.raw = raw ∧ Document.parse raw = .ok g.document
  | remote raw (.rejected m) => Document.parse raw = .error m
  | _ => True

theorem Writer.Sound.parse_raw {w : Writer} (h : w.Sound) {g : Generation}
    (hg : w.generation? = some g) : Document.parse g.raw = .ok g.document := by
  rcases w with ⟨src, stage⟩ | ⟨raw, stage⟩ <;> cases stage <;> simp only [generation?] at hg <;>
    cases hg
  · exact (LoadSource.parse_eq_ok h).2
  all_goals
    obtain ⟨rfl, hp⟩ := h
    exact hp

theorem Writer.generation?_of_hasFailed {w : Writer} (h : w.hasFailed) : w.generation? = none := by
  rcases w with ⟨src, stage⟩ | ⟨raw, stage⟩ <;> cases stage <;> simp_all [hasFailed, generation?]

namespace Traffic

/-! ### Acceptances -/

/-- The generation that a writer has installed, by its place. -/
def installedBy (t : Traffic) (id : Nat) : Option Generation :=
  t.writers[id]?.bind Writer.generation?

/-- The generation that a writer has after a move and did not have before. -/
def installed? (t : Traffic) : Move → Option Generation
  | .proceed id => if (t.installedBy id).isSome then none else (t.step (.proceed id)).installedBy id
  | _ => none

/-- The generations that are installed while moves are made. -/
def accepted (t : Traffic) : List Move → List Generation
  | [] => []
  | m :: ms => (t.installed? m).toList ++ (t.step m).accepted ms

/-! ### One step -/

/-- **A step of a writer either installs nothing, or it installs the next generation.** -/
theorem Acts.current_cases {t next : Traffic} {w v : Writer} (h : Acts t w next v) :
    (next.current = t.current ∧ v.generation? = w.generation?) ∨
    (w.generation? = none ∧ v.generation? = some next.current ∧
      next.current.number = t.current.number + 1) := by
  cases h with
  | read | refuse | parse | reject | send => exact .inl ⟨rfl, rfl⟩
  | accept | replace | install => exact .inr ⟨rfl, rfl, rfl⟩
  | call =>
    refine .inl ⟨?_, rfl⟩
    unfold Traffic.call
    split <;> rfl

theorem Acts.sound {t next : Traffic} {w v : Writer} (h : Acts t w next v) (hw : w.Sound) :
    v.Sound := by
  cases h with
  | read h => exact h
  | refuse h => exact h
  | accept => exact hw
  | parse h => exact h
  | reject h => exact h
  | replace => exact ⟨rfl, hw⟩
  | install => exact ⟨rfl, hw⟩
  | call => exact hw
  | send => exact hw

/-- All but the one that has gone on are those that there were. -/
theorem eq_or_mem_of_replaced {α : Type} {l₁ l₂ : List α} {w v u : α} (h : u ∈ l₁ ++ v :: l₂) :
    u = v ∨ u ∈ l₁ ++ w :: l₂ := by
  rcases List.mem_append.mp h with h | h
  · exact .inr (List.mem_append_left _ h)
  · rcases List.mem_cons.mp h with rfl | h
    · exact .inl rfl
    · exact .inr (List.mem_append_right _ (List.mem_cons_of_mem _ h))

theorem installedBy_of_writers {t : Traffic} {l₁ l₂ : List Writer} {w : Writer}
    (h : t.writers = l₁ ++ w :: l₂) : t.installedBy l₁.length = w.generation? := by
  simp [installedBy, h]

/-- A writer keeps the generation that it has installed. -/
theorem installedBy_step {t : Traffic} {id : Nat} {g : Generation} (h : t.installedBy id = some g)
    (m : Move) : (t.step m).installedBy id = some g := by
  obtain ⟨w, hw, hg⟩ := Option.bind_eq_some_iff.mp h
  have hid : id < t.writers.length := (List.getElem?_eq_some_iff.mp hw).1
  cases m with
  | load src => simpa [step, installedBy, List.getElem?_append_left hid] using h
  | remote raw => simpa [step, installedBy, List.getElem?_append_left hid] using h
  | register callback => exact h
  | proceed id' =>
    rcases t.step_proceed id' with ⟨hs, -⟩ | ⟨l₁, w', l₂, next, v, hl, rfl, hacts, hs⟩
    · rw [hs]
      exact h
    · have hset : (t.step (.proceed l₁.length)).writers = t.writers.set l₁.length v := by
        rw [hs, hl]
        simp
      by_cases heq : id = l₁.length
      · subst heq
        rw [installedBy_of_writers hl] at h
        have hv : v.generation? = some g := by
          rcases hacts.current_cases with ⟨-, hv⟩ | ⟨hw', -, -⟩
          · rw [hv, h]
          · rw [hw'] at h
            cases h
        rw [installedBy, hset, List.getElem?_set_self hid]
        exact hv
      · rw [installedBy, hset, List.getElem?_set_ne (Ne.symm heq), hw]
        exact hg

theorem installedBy_run {t : Traffic} {id : Nat} {g : Generation} (h : t.installedBy id = some g)
    (ms : List Move) : (t.run ms).installedBy id = some g := by
  induction ms generalizing t with
  | nil => exact h
  | cons m ms ih => exact ih (installedBy_step h m)

theorem installed?_eq_none {t : Traffic} {id : Nat} (hs : t.step (.proceed id) = t) :
    t.installed? (.proceed id) = none := by
  rw [installed?, hs]
  cases t.installedBy id <;> rfl

theorem installed?_of_step {t next : Traffic} {l₁ l₂ : List Writer} {w v : Writer}
    (hl : t.writers = l₁ ++ w :: l₂)
    (hs : t.step (.proceed l₁.length) = { next with writers := l₁ ++ v :: l₂ }) :
    t.installed? (.proceed l₁.length) = if w.generation?.isSome then none else v.generation? := by
  rw [installed?, installedBy_of_writers hl, hs, installedBy_of_writers rfl]

/-! ### Every run -/

/-- The generations installed so far, the store and the writers agree. -/
structure Consistent (first : Generation) (gs : List Generation) (t : Traffic) : Prop where
  current : t.current = gs.getLastD first
  count : t.current.number = first.number + gs.length
  numbers : gs.map (·.number) = List.range' (first.number + 1) gs.length
  writers : (t.writers.filterMap Writer.generation?).Perm gs
  sound : ∀ w ∈ t.writers, w.Sound

theorem consistent_start (s : Store) (callback : Option String) :
    Consistent s.current [] (start s callback) :=
  ⟨rfl, rfl, rfl, .nil, by simp [start]⟩

/-- No writer has a later generation than the store. -/
theorem Consistent.number_le {first : Generation} {gs : List Generation} {t : Traffic}
    (h : Consistent first gs t) {w : Writer} (hw : w ∈ t.writers) {g : Generation}
    (hg : w.generation? = some g) : g.number ≤ t.current.number := by
  have hmem : g ∈ gs := h.writers.mem_iff.mp (List.mem_filterMap.mpr ⟨w, hw, hg⟩)
  have hrange : g.number ∈ List.range' (first.number + 1) gs.length := by
    rw [← h.numbers]
    exact List.mem_map_of_mem hmem
  rw [List.mem_range'_1] at hrange
  have hcount := h.count
  omega

/-- Another writer begins. -/
theorem Consistent.begin {first : Generation} {gs : List Generation} {t : Traffic}
    (h : Consistent first gs t) {w : Writer} (hg : w.generation? = none) (hw : w.Sound) :
    Consistent first gs { t with writers := t.writers ++ [w] } := by
  refine ⟨h.current, h.count, h.numbers, ?_, ?_⟩
  · simpa [hg] using h.writers
  · intro w' hw'
    rcases List.mem_append.mp hw' with hw' | hw'
    · exact h.sound w' hw'
    · rwa [List.mem_singleton.mp hw']

/-- A writer goes on. -/
theorem Consistent.act {first : Generation} {gs : List Generation} {t next : Traffic}
    {l₁ l₂ : List Writer} {w v : Writer} (h : Consistent first gs t)
    (hl : t.writers = l₁ ++ w :: l₂) (ha : Acts t w next v) :
    Consistent first (gs ++ (if w.generation?.isSome then none else v.generation?).toList)
      { next with writers := l₁ ++ v :: l₂ } := by
  have hsound : ∀ u ∈ l₁ ++ v :: l₂, u.Sound := by
    intro u hu
    rcases eq_or_mem_of_replaced (w := w) hu with rfl | hu
    · exact ha.sound (h.sound w (by simp [hl]))
    · exact h.sound u (hl ▸ hu)
  have hperm := h.writers
  rw [hl] at hperm
  rcases ha.current_cases with ⟨hcur, hv⟩ | ⟨hw, hv, hnum⟩
  · have hnone : (if w.generation?.isSome then none else v.generation?) = none := by
      rw [hv]
      cases w.generation? <;> rfl
    rw [hnone, Option.toList_none, List.append_nil]
    refine ⟨hcur.trans h.current, (congrArg _ hcur).trans h.count, h.numbers, ?_, hsound⟩
    simpa [List.filterMap_cons, hv] using hperm
  · simp only [hw, hv, Option.isSome_none, Bool.false_eq_true, if_false, Option.toList_some]
    have hcount : next.current.number = first.number + (gs.length + 1) := by
      have := h.count
      omega
    refine ⟨?_, ?_, ?_, ?_, hsound⟩
    · show next.current = _
      simp
    · show next.current.number = _
      rw [hcount, List.length_append, List.length_singleton]
    · rw [List.map_append, h.numbers, List.length_append, List.length_singleton,
        List.range'_1_concat, List.map_singleton, hcount]
      congr 2
      omega
    · simp only [List.filterMap_append, List.filterMap_cons, hw, hv] at hperm ⊢
      exact (List.perm_middle.trans ((hperm.cons _))).trans (List.perm_append_singleton _ _).symm

theorem Consistent.step {first : Generation} {gs : List Generation} {t : Traffic}
    (h : Consistent first gs t) (m : Move) :
    Consistent first (gs ++ (t.installed? m).toList) (t.step m) := by
  cases m with
  | load src =>
    have hb := h.begin (w := .load src .begun) rfl trivial
    rwa [← List.append_nil gs] at hb
  | remote raw =>
    have hb := h.begin (w := .remote raw .begun) rfl trivial
    rwa [← List.append_nil gs] at hb
  | register callback =>
    have hr : Consistent first gs (t.step (.register callback)) :=
      ⟨h.current, h.count, h.numbers, h.writers, h.sound⟩
    rwa [← List.append_nil gs] at hr
  | proceed id =>
    rcases t.step_proceed id with ⟨hs, -⟩ | ⟨l₁, w, l₂, next, v, hl, rfl, ha, hs⟩
    · rw [installed?_eq_none hs, hs, Option.toList_none, List.append_nil]
      exact h
    · rw [installed?_of_step hl hs, hs]
      exact h.act hl ha

/-- **What every run keeps.** -/
theorem Consistent.run {first : Generation} {gs : List Generation} {t : Traffic}
    (h : Consistent first gs t) (ms : List Move) :
    Consistent first (gs ++ t.accepted ms) (t.run ms) := by
  induction ms generalizing gs t with
  | nil => simpa [accepted] using h
  | cons m ms ih =>
    rw [accepted, ← List.append_assoc]
    exact ih (h.step m)

/-! ### Writers that are turned away -/

/-- Only an acceptance changes the document, its bytes or its number. -/
theorem Consistent.current_step {first : Generation} {gs : List Generation} {t : Traffic}
    (h : Consistent first gs t) {m : Move} (hm : t.installed? m = none) :
    (t.step m).current = t.current := by
  have hstep := (h.step m).current
  rw [hm, Option.toList_none, List.append_nil] at hstep
  rw [hstep, h.current]

/-- A writer that has failed in the end has never installed anything. -/
theorem installed?_proceed_of_hasFailed {t : Traffic} {id : Nat} {ms : List Move} {w : Writer}
    (hw : ((t.step (.proceed id)).run ms).writers[id]? = some w) (hf : w.hasFailed) :
    t.installed? (.proceed id) = none := by
  have hnone : (t.step (.proceed id)).installedBy id = none := by
    cases hg : (t.step (.proceed id)).installedBy id with
    | none => rfl
    | some g =>
      have hlast := installedBy_run hg ms
      rw [installedBy, hw, Option.bind_some, Writer.generation?_of_hasFailed hf] at hlast
      cases hlast
  rw [installed?, hnone, ite_self]

/-- **Generations count acceptances.**  On a store that begins without a document, whatever writers
do: the generation in use is the last one accepted, with just its document and bytes, generations
are numbered as they come, a writer is accepted just if its bytes are a document, and no step of one
that is turned away changes the generation. -/
theorem generations_count_acceptances (sectionName callback : Option String) (ms : List Move) :
    let t₀ := start (.empty sectionName) callback
    let t := t₀.run ms
    let gs := t₀.accepted ms
    (t.current.number = gs.length ∧ gs.map (·.number) = List.range' 1 gs.length ∧
      t.current = gs.getLastD .initial ∧ ∀ g ∈ gs, Document.parse g.raw = .ok g.document) ∧
    ((t.writers.filterMap Writer.generation?).Perm gs ∧ ∀ w ∈ t.writers, w.Sound) ∧
    ∀ ms₁ id ms₂ w, ms = ms₁ ++ .proceed id :: ms₂ → t.writers[id]? = some w → w.hasFailed →
      (t₀.run (ms₁ ++ [.proceed id])).current = (t₀.run ms₁).current := by
  intro t₀ t gs
  have hstart : Consistent .initial [] t₀ := consistent_start (.empty sectionName) callback
  have h : Consistent .initial gs t := hstart.run ms
  have hparse : ∀ g ∈ gs, Document.parse g.raw = .ok g.document := by
    intro g hg
    obtain ⟨w, hw, hwg⟩ := List.mem_filterMap.mp (h.writers.mem_iff.mpr hg)
    exact (h.sound w hw).parse_raw hwg
  refine ⟨⟨?_, h.numbers, h.current, hparse⟩, ⟨h.writers, h.sound⟩, ?_⟩
  · simpa [Generation.initial] using h.count
  · intro ms₁ id ms₂ w hms hw hf
    have hrest : (((t₀.run ms₁).step (.proceed id)).run ms₂).writers[id]? = some w := by
      rw [← hw, show t = t₀.run ms from rfl, hms, run_append, run_cons]
    rw [run_append, run_cons, run_nil]
    exact (hstart.run ms₁).current_step (installed?_proceed_of_hasFailed hrest hf)

/-- A remote value that ends too soon, while a local load goes on around it. -/
theorem generations_count_acceptances_around_rejection :
    let t₀ := start (.empty none) none
    let ms : List Move := [.load (.bytes [0x7B, 0x7D]), .remote [0x7B], .proceed 0]
    ((t₀.run (ms ++ [.proceed 1, .proceed 0])).writers[1]?.any (·.hasFailed)) ∧
      (t₀.run (ms ++ [.proceed 1])).current = (t₀.run ms).current ∧
      (t₀.run (ms ++ [.proceed 1, .proceed 0])).current.number = 1 := by
  intro t₀ ms
  have hany : ((t₀.run (ms ++ [.proceed 1, .proceed 0])).writers[1]?.any (·.hasFailed)) := by
    decide +kernel
  have hcount : (t₀.accepted (ms ++ [.proceed 1, .proceed 0])).length = 1 := by decide +kernel
  obtain ⟨w, hw, hf⟩ := (Option.any_eq_true _ _).mp hany
  obtain ⟨⟨hnumber, -⟩, -, hsame⟩ :=
    generations_count_acceptances none none (ms ++ [.proceed 1, .proceed 0])
  exact ⟨hany, hsame ms 1 [.proceed 0] w rfl hw hf, hnumber.trans hcount⟩

end Traffic

end LiveConfig
