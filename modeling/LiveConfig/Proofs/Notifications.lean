import LiveConfig.Proofs.Generations
import Mathlib.Data.List.Forall2

/-!
What is told of remote values that are handed over one after another, while local loads come and go.

A value is compared with the generation that it replaces, and it is told of later, when others may
have replaced it in turn.  `Notified` says what has been told at any time: it depends only on the
writers, in their order, and on the generations that there have been.  Main statement:
`remote_values_told_once`, each value is told of once and with the difference that it made.
-/

namespace LiveConfig

/-! ### What a writer has to tell -/

/-- The changes that an event tells. -/
def Event.changes? : Event → Option (List Change)
  | changed _ changes => some changes
  | rejected _ => none

/-- The number of the generation that an event tells of. -/
def Event.number? : Event → Option Nat
  | changed number _ => some number
  | rejected _ => none

/-- The remote value that a move hands over. -/
def Move.payload? : Move → Option Bytes
  | remote raw => some raw
  | _ => none

namespace Writer

/-- The remote value that a writer brings. -/
def payload? : Writer → Option Bytes
  | remote raw _ => some raw
  | load _ _ => none

/-- The generation of a remote value, with the changes that it makes. -/
def difference? : Writer → Option (Generation × List Change)
  | remote _ (.installed g changes) | remote _ (.called g changes)
  | remote _ (.finished g changes) => some (g, changes)
  | _ => none

/-- What a writer has told the subscribers. -/
def announced : Writer → List Event
  | remote _ (.finished g changes) => if changes.isEmpty then [] else [.changed g.number changes]
  | remote _ (.rejected m) => [.rejected m]
  | _ => []

/-- What a writer has told the callback. -/
def noticed : Writer → List (List Change)
  | remote _ (.called _ changes) => [changes]
  | remote _ (.finished _ changes) => if changes.isEmpty then [] else [changes]
  | _ => []

/-- What a writer tells the callback as its next step. -/
def notice? : Writer → Option (List Change)
  | remote _ (.installed _ changes) => some changes
  | _ => none

/-- Whether a writer still has to tell of its changes. -/
def isTelling : Writer → Bool
  | remote _ (.installed _ _) | remote _ (.called _ _) => true
  | _ => false

theorem generation?_of_difference? {w : Writer} {d : Generation × List Change}
    (h : w.difference? = some d) : w.generation? = some d.1 := by
  rcases w with ⟨src, stage⟩ | ⟨raw, stage⟩ <;> cases stage <;> cases h <;> rfl

section Load

variable {w : Writer} (h : w.isRemote = false)
include h

theorem announced_of_load : w.announced = [] := by
  rcases w with ⟨src, stage⟩ | ⟨raw, stage⟩
  · rfl
  · cases h

theorem noticed_of_load : w.noticed = [] := by
  rcases w with ⟨src, stage⟩ | ⟨raw, stage⟩
  · rfl
  · cases h

theorem difference?_of_load : w.difference? = none := by
  rcases w with ⟨src, stage⟩ | ⟨raw, stage⟩
  · rfl
  · cases h

end Load

theorem announced_of_not_isOver {w : Writer} (h : w.isOver = false) : w.announced = [] := by
  rcases w with ⟨src, stage⟩ | ⟨raw, stage⟩ <;> cases stage <;> first | rfl | cases h

/-- After all has been told, the callback has been told what the subscribers have. -/
theorem noticed_of_isOver {w : Writer} (h : w.isOver) :
    w.noticed = w.announced.filterMap Event.changes? := by
  rcases w with ⟨src, stage⟩ | ⟨raw, stage⟩ <;> cases stage <;> try cases h
  all_goals try rfl
  rename_i g changes
  cases changes <;> rfl

end Writer

/-! ### Adjacent generations -/

/-- A generation came right after another one, and a list of changes tells the two apart. -/
def FollowsWith (sectionName : Option String) (history : List Generation)
    (d : Generation × List Change) : Prop :=
  ∃ p, [p, d.1] <:+: history ∧ d.1.number = p.number + 1 ∧
    d.2 = diffSections (.of p.document sectionName) (.of d.1.document sectionName) sectionName

theorem FollowsWith.append {sectionName : Option String} {history : List Generation}
    {d : Generation × List Change} (h : FollowsWith sectionName history d)
    (more : List Generation) : FollowsWith sectionName (history ++ more) d := by
  obtain ⟨p, hp, hrest⟩ := h
  exact ⟨p, hp.trans (List.infix_append' [] _ _), hrest⟩

/-- **What is told of a writer** whose value came among some generations. -/
inductive Told (sectionName : Option String) (history : List Generation) :
    Writer → List Event → Prop
  | load {src stage} : Told sectionName history (.load src stage) []
  | pending {raw stage} (h : (Writer.remote raw stage).isOver = false) :
      Told sectionName history (.remote raw stage) []
  | rejected {raw m} (h : Document.parse raw = .error m) :
      Told sectionName history (.remote raw (.rejected m)) [.rejected m]
  | silent {raw g} (hraw : g.raw = raw) (hparse : Document.parse raw = .ok g.document)
      (h : FollowsWith sectionName history (g, [])) :
      Told sectionName history (.remote raw (.finished g [])) []
  | changed {raw g changes} (hraw : g.raw = raw) (hparse : Document.parse raw = .ok g.document)
      (h : FollowsWith sectionName history (g, changes)) (hne : changes ≠ []) :
      Told sectionName history (.remote raw (.finished g changes)) [.changed g.number changes]

theorem told_announced {sectionName : Option String} {history : List Generation} {w : Writer}
    (hs : w.Sound) (hd : ∀ d, w.difference? = some d → FollowsWith sectionName history d) :
    Told sectionName history w w.announced := by
  rcases w with ⟨src, stage⟩ | ⟨raw, stage⟩
  · exact .load
  · cases stage with
    | begun | parsed | installed | called => exact .pending rfl
    | rejected m => exact .rejected hs
    | finished g changes =>
      obtain ⟨hraw, hparse⟩ := hs
      by_cases hc : changes = []
      · subst hc
        exact .silent hraw hparse (hd _ rfl)
      · rw [Writer.announced, if_neg (mt List.isEmpty_iff.mp hc)]
        exact .changed hraw hparse (hd _ rfl) hc

namespace Traffic

/-! ### One after another -/

/-- Whether no remote value is under way. -/
def isQuiet (t : Traffic) : Bool := t.writers.all fun w => !w.isRemote || w.isOver

/-- Whether remote values are handed over one after another. -/
def inTurn (t : Traffic) : List Move → Bool
  | [] => true
  | m :: ms => (m.payload?.isNone || t.isQuiet) && (t.step m).inTurn ms

/-- Who is registered, if somebody is, and the changes, when a move tells the callback of some. -/
def notice? (t : Traffic) : Move → Option (Option String × List Change)
  | .proceed id =>
    (t.writers[id]?.bind Writer.notice?).map fun changes => (t.live.callback, changes)
  | _ => none

/-- The notices that are given while moves are made. -/
def notices (t : Traffic) : List Move → List (Option String × List Change)
  | [] => []
  | m :: ms => (t.notice? m).toList ++ (t.step m).notices ms

/-- What callbacks are handed with some notices: who is not registered misses them. -/
def handed (ns : List (Option String × List Change)) : List Call :=
  ns.filterMap fun n => n.1.map fun callback => ⟨callback, n.2⟩

/-- All remote values but the last one have been dealt with. -/
def Serial (ws : List Writer) : Prop :=
  ws.Pairwise fun a b => b.isRemote → a.isRemote → a.isOver

theorem serial_split {l₁ l₂ : List Writer} {w : Writer} (h : Serial (l₁ ++ w :: l₂))
    (hr : w.isRemote) (ho : w.isOver = false) : ∀ b ∈ l₂, b.isRemote = false := by
  intro b hb
  have hw := (List.pairwise_cons.mp (List.pairwise_append.mp h).2.1).1 b hb
  by_contra hbr
  rw [Bool.not_eq_false] at hbr
  rw [hw hbr hr] at ho
  cases ho

theorem Serial.replace {l₁ l₂ : List Writer} {w v : Writer} (h : Serial (l₁ ++ w :: l₂))
    (hr : v.isRemote = w.isRemote) (ho : w.isOver = false) : Serial (l₁ ++ v :: l₂) := by
  obtain ⟨h₁, h₂, hcross⟩ := List.pairwise_append.mp h
  obtain ⟨hw, h₂⟩ := List.pairwise_cons.mp h₂
  refine List.pairwise_append.mpr ⟨h₁, List.pairwise_cons.mpr ⟨?_, h₂⟩, ?_⟩
  · intro b hb hbr hvr
    rw [hw b hb hbr (hr ▸ hvr)] at ho
    cases ho
  · intro a ha b hb
    rcases List.mem_cons.mp hb with rfl | hb
    · rw [hr]
      exact hcross a ha w (by simp)
    · exact hcross a ha b (by simp [hb])

theorem Serial.load {ws : List Writer} (h : Serial ws) (src : LoadSource) :
    Serial (ws ++ [.load src .begun]) := by
  refine List.pairwise_append.mpr ⟨h, List.pairwise_singleton _ _, ?_⟩
  intro a _ b hb hbr
  rw [List.mem_singleton.mp hb] at hbr
  cases hbr

theorem Serial.remote {t : Traffic} (h : Serial t.writers) (hq : t.isQuiet) (raw : Bytes) :
    Serial (t.writers ++ [.remote raw .begun]) := by
  refine List.pairwise_append.mpr ⟨h, List.pairwise_singleton _ _, ?_⟩
  intro a ha b _ _ har
  have ha' := List.all_eq_true.mp hq a ha
  simpa [har] using ha'

/-! ### What one step adds -/

section Acts

variable {t next : Traffic} {w v : Writer} (h : Acts t w next v)
include h

theorem Acts.isOver : w.isOver = false := by
  cases h <;> rfl

theorem Acts.isRemote : v.isRemote = w.isRemote := by
  cases h <;> rfl

theorem Acts.payload? : v.payload? = w.payload? := by
  cases h <;> rfl

theorem Acts.sectionName : next.live.store.sectionName = t.live.store.sectionName := by
  cases h with
  | call =>
    unfold Traffic.call
    split <;> rfl
  | _ => rfl

/-- A step tells the subscribers just what the writer has told them from then on. -/
theorem Acts.events (hd : ∀ d, w.isTelling → w.difference? = some d → d.2 ≠ []) :
    next.events = t.events ++ v.announced := by
  cases h with
  | call =>
    unfold Traffic.call
    split <;> simp [Traffic.events, Writer.announced]
  | reject => simp [Traffic.events, Traffic.send, Channel.send, Writer.announced]
  | send =>
    have hne := hd _ rfl rfl
    simp [Traffic.events, Traffic.send, Channel.send, Writer.announced, hne]
  | _ => simp [Traffic.events, Traffic.install, Writer.announced]

/-- A step tells the callback what is next for it to be told. -/
theorem Acts.noticed (hd : ∀ d, w.isTelling → w.difference? = some d → d.2 ≠ []) :
    v.noticed = w.noticed ++ w.notice?.toList := by
  cases h with
  | send =>
    have hne := hd _ rfl rfl
    simp [Writer.noticed, Writer.notice?, hne]
  | _ => rfl

theorem Acts.calls : next.calls =
    t.calls ++ handed (w.notice?.map fun changes => (t.live.callback, changes)).toList := by
  cases h with
  | call =>
    unfold Traffic.call
    cases t.live.callback <;> simp [Writer.notice?, handed]
  | _ => simp [Traffic.install, Traffic.send, Writer.notice?, handed]

/-- The difference that a writer makes is the one to the generation that it replaces. -/
theorem Acts.difference?_cases :
    v.difference? = w.difference? ∨
    (w.isRemote ∧ w.difference? = none ∧ w.generation? = none ∧
      v.generation? = some next.current ∧ next.current.number = t.current.number + 1 ∧
      v.difference? = some (next.current, t.live.store.changesTo next.current.document)) := by
  cases h with
  | replace hc => exact .inr ⟨rfl, rfl, rfl, rfl, rfl, by rw [← hc]; rfl⟩
  | install => exact .inr ⟨rfl, rfl, rfl, rfl, rfl, rfl⟩
  | _ => exact .inl rfl

theorem Acts.isTelling (hd : ∀ d, w.isTelling → w.difference? = some d → d.2 ≠ []) :
    ∀ d, v.isTelling → v.difference? = some d → d.2 ≠ [] := by
  cases h with
  | install hc =>
    intro d _ hd
    cases hd
    exact hc
  | call => exact hd
  | _ =>
    intro d ht
    cases ht

end Acts

/-- What is gathered from the writers grows at its end, as only the last remote value goes on. -/
theorem flatMap_replace {α : Type} {f : Writer → List α} {l₁ l₂ : List Writer} {w v : Writer}
    {extra : List α} (hf : ∀ w, w.isRemote = false → f w = []) (hs : Serial (l₁ ++ w :: l₂))
    (ho : w.isOver = false) (hr : v.isRemote = w.isRemote) (hv : f v = f w ++ extra) :
    (l₁ ++ v :: l₂).flatMap f = (l₁ ++ w :: l₂).flatMap f ++ extra := by
  cases hw : w.isRemote with
  | true =>
    have hl₂ : l₂.flatMap f = [] :=
      List.flatMap_eq_nil_iff.mpr fun b hb => hf b (serial_split hs hw ho b hb)
    simp [hl₂, hv]
  | false =>
    have hextra : f w = [] ∧ extra = [] := by
      rw [hf v (hr.trans hw)] at hv
      exact List.append_eq_nil_iff.mp hv.symm
    simp [hv, hextra]

/-! ### Every run -/

/-- What has been told agrees with the writers. -/
structure Notified (s : Store) (gs : List Generation) (ns : List (Option String × List Change))
    (t : Traffic) : Prop where
  sectionName : t.live.store.sectionName = s.sectionName
  serial : Serial t.writers
  announced : t.events = t.writers.flatMap Writer.announced
  noticed : ns.map (·.2) = t.writers.flatMap Writer.noticed
  calls : t.calls = handed ns
  follows : ∀ w ∈ t.writers, ∀ d, w.difference? = some d →
    FollowsWith s.sectionName (s.current :: gs) d
  telling : ∀ w ∈ t.writers, ∀ d, w.isTelling → w.difference? = some d → d.2 ≠ []
  increasing : (t.writers.filterMap Writer.difference?).Pairwise fun a b => a.1.number < b.1.number

theorem notified_start (s : Store) (callback : Option String) :
    Notified s [] [] (start s callback) where
  sectionName := rfl
  serial := .nil
  announced := rfl
  noticed := rfl
  calls := rfl
  follows := by simp [start]
  telling := by simp [start]
  increasing := .nil

/-- Another writer begins. -/
theorem Notified.begin {s : Store} {gs : List Generation} {ns : List (Option String × List Change)}
    {t : Traffic} (h : Notified s gs ns t) {w : Writer} (hs : Serial (t.writers ++ [w]))
    (ha : w.announced = []) (hn : w.noticed = []) (hd : w.difference? = none) :
    Notified s gs ns { t with writers := t.writers ++ [w] } where
  sectionName := h.sectionName
  serial := hs
  announced := by
    show t.events = _
    simp [h.announced, ha]
  noticed := by simp [h.noticed, hn]
  calls := h.calls
  follows := by
    intro w' hw' d hd'
    rcases List.mem_append.mp hw' with hw' | hw'
    · exact h.follows w' hw' d hd'
    · rw [List.mem_singleton.mp hw', hd] at hd'
      cases hd'
  telling := by
    intro w' hw' d ht hd'
    rcases List.mem_append.mp hw' with hw' | hw'
    · exact h.telling w' hw' d ht hd'
    · rw [List.mem_singleton.mp hw', hd] at hd'
      cases hd'
  increasing := by simpa [hd] using h.increasing

/-- The generation in use and the next one are adjacent. -/
theorem infix_getLastD (first g : Generation) (gs : List Generation) :
    [gs.getLastD first, g] <:+: first :: (gs ++ [g]) := by
  have hlast : (first :: gs).dropLast ++ [gs.getLastD first] = first :: gs := by
    rw [← List.getLast_eq_getLastD (List.cons_ne_nil first gs)]
    exact List.dropLast_append_getLast _
  refine ⟨(first :: gs).dropLast, [], ?_⟩
  rw [List.append_nil, ← List.cons_append, ← hlast, List.append_assoc, List.singleton_append, hlast]

section Act

variable {s : Store} {gs : List Generation} {ns : List (Option String × List Change)}
  {t next : Traffic} {l₁ l₂ : List Writer} {w v : Writer} (h : Notified s gs ns t)
  (hc : Consistent s.current gs t) (hl : t.writers = l₁ ++ w :: l₂) (ha : Acts t w next v)
include h hl ha

theorem Notified.announced_act : next.events = (l₁ ++ v :: l₂).flatMap Writer.announced := by
  have hserial : Serial (l₁ ++ w :: l₂) := hl ▸ h.serial
  rw [ha.events (h.telling w (by simp [hl])), h.announced, hl]
  symm
  refine flatMap_replace (fun _ => Writer.announced_of_load) hserial ha.isOver ha.isRemote ?_
  rw [Writer.announced_of_not_isOver ha.isOver, List.nil_append]

theorem Notified.noticed_act :
    (ns ++ (w.notice?.map fun changes => (t.live.callback, changes)).toList).map (·.2) =
      (l₁ ++ v :: l₂).flatMap Writer.noticed := by
  have hserial : Serial (l₁ ++ w :: l₂) := hl ▸ h.serial
  rw [List.map_append, h.noticed, hl]
  symm
  refine flatMap_replace (fun _ => Writer.noticed_of_load) hserial ha.isOver ha.isRemote ?_
  rw [ha.noticed (h.telling w (by simp [hl]))]
  cases w.notice? <;> rfl

include hc

/-- Who installs a generation has compared it with the last one that there has been. -/
theorem Notified.follows_act {d : Generation × List Change} (hd : v.difference? = some d) :
    FollowsWith s.sectionName
      (s.current :: (gs ++ (if w.generation?.isSome then none else v.generation?).toList)) d := by
  rcases ha.difference?_cases with hsame | ⟨-, -, hnone, hsome, hnum, hnew⟩
  · rw [← List.cons_append]
    exact (h.follows w (by simp [hl]) d (hsame ▸ hd)).append _
  · rw [hnew] at hd
    cases hd
    refine ⟨t.current, ?_, hnum, ?_⟩
    · rw [hnone, hsome, hc.current]
      exact infix_getLastD _ _ _
    · rw [Store.changesTo, h.sectionName]
      rfl

theorem Notified.increasing_act :
    ((l₁ ++ v :: l₂).filterMap Writer.difference?).Pairwise fun a b => a.1.number < b.1.number := by
  have hinc := h.increasing
  rw [hl] at hinc
  rcases ha.difference?_cases with hsame | ⟨hrem, hnone, -, -, hnum, hnew⟩
  · simpa [List.filterMap_cons, hsame] using hinc
  · -- Only loads come after this writer, so its generation is put at the end.
    have hserial : Serial (l₁ ++ w :: l₂) := hl ▸ h.serial
    have hl₂ : l₂.filterMap Writer.difference? = [] :=
      List.filterMap_eq_nil_iff.mpr fun b hb =>
        Writer.difference?_of_load (serial_split hserial hrem ha.isOver b hb)
    simp only [List.filterMap_append, List.filterMap_cons, hnone, hnew, hl₂, List.append_nil]
      at hinc ⊢
    refine List.pairwise_append.mpr ⟨hinc, List.pairwise_singleton _ _, ?_⟩
    intro a hmem b hb
    obtain ⟨u, hu, hua⟩ := List.mem_filterMap.mp hmem
    rw [List.mem_singleton.mp hb, hnum]
    have hle := hc.number_le (by simp [hl, hu]) (Writer.generation?_of_difference? hua)
    omega

/-- A writer goes on. -/
theorem Notified.act :
    Notified s (gs ++ (if w.generation?.isSome then none else v.generation?).toList)
      (ns ++ (w.notice?.map fun changes => (t.live.callback, changes)).toList)
      { next with writers := l₁ ++ v :: l₂ } where
  sectionName := ha.sectionName.trans h.sectionName
  serial := (hl ▸ h.serial : Serial (l₁ ++ w :: l₂)).replace ha.isRemote ha.isOver
  announced := by
    show next.events = _
    exact h.announced_act hl ha
  noticed := h.noticed_act hl ha
  calls := by
    show next.calls = _
    rw [ha.calls, h.calls, handed, handed, handed, List.filterMap_append]
  follows := by
    intro b hb d hd
    rcases eq_or_mem_of_replaced (w := w) hb with rfl | hb
    · exact h.follows_act hc hl ha hd
    · rw [← List.cons_append]
      exact (h.follows b (hl ▸ hb) d hd).append _
  telling := by
    intro b hb
    rcases eq_or_mem_of_replaced (w := w) hb with rfl | hb
    · exact ha.isTelling (h.telling w (by simp [hl]))
    · exact h.telling b (hl ▸ hb)
  increasing := h.increasing_act hc hl ha

end Act

theorem notice?_eq_none_of_act {t : Traffic} {w : Writer} (h : t.act w = none) :
    w.notice? = none := by
  rcases w with ⟨src, stage⟩ | ⟨raw, stage⟩
  · rfl
  · cases stage <;> first | rfl | cases h

theorem Notified.step {s : Store} {gs : List Generation} {ns : List (Option String × List Change)}
    {t : Traffic} (h : Notified s gs ns t) (hc : Consistent s.current gs t) {m : Move}
    (hturn : m.payload?.isNone || t.isQuiet) :
    Notified s (gs ++ (t.installed? m).toList) (ns ++ (t.notice? m).toList) (t.step m) := by
  cases m with
  | load src =>
    have hb := h.begin (h.serial.load src) rfl rfl rfl
    rwa [← List.append_nil gs, ← List.append_nil ns] at hb
  | remote raw =>
    have hb := h.begin (h.serial.remote hturn raw) rfl rfl rfl
    rwa [← List.append_nil gs, ← List.append_nil ns] at hb
  | register callback =>
    have hr : Notified s gs ns (t.step (.register callback)) :=
      ⟨h.sectionName, h.serial, h.announced, h.noticed, h.calls, h.follows, h.telling, h.increasing⟩
    rwa [← List.append_nil gs, ← List.append_nil ns] at hr
  | proceed id =>
    rcases t.step_proceed id with ⟨hs, hnone⟩ | ⟨l₁, w, l₂, next, v, hl, rfl, ha, hs⟩
    · have hnotice : t.notice? (.proceed id) = none := by
        refine Option.map_eq_none_iff.mpr (Option.bind_eq_none_iff.mpr fun w hw => ?_)
        exact notice?_eq_none_of_act (hnone w hw)
      simpa [installed?_eq_none hs, hnotice, hs] using h
    · have hnotice : t.notice? (.proceed l₁.length) =
          w.notice?.map fun changes => (t.live.callback, changes) := by
        simp [notice?, hl]
      rw [installed?_of_step hl hs, hnotice, hs]
      exact h.act hc hl ha

/-- **What every run keeps**, as long as remote values come one after another. -/
theorem Notified.run {s : Store} {gs : List Generation} {ns : List (Option String × List Change)}
    {t : Traffic} (h : Notified s gs ns t) (hc : Consistent s.current gs t) {ms : List Move}
    (hturn : t.inTurn ms) :
    Notified s (gs ++ t.accepted ms) (ns ++ t.notices ms) (t.run ms) := by
  induction ms generalizing gs ns t with
  | nil => simpa [accepted, notices] using h
  | cons m ms ih =>
    obtain ⟨hm, hms⟩ := Bool.and_eq_true_iff.mp hturn
    rw [accepted, notices, ← List.append_assoc, ← List.append_assoc]
    exact ih (h.step hc hm) (hc.step m) hms

theorem payloads_step (t : Traffic) (m : Move) :
    (t.step m).writers.filterMap Writer.payload? =
      t.writers.filterMap Writer.payload? ++ m.payload?.toList := by
  cases m with
  | load | remote | register => simp [step, Writer.payload?, Move.payload?]
  | proceed id =>
    rcases t.step_proceed id with ⟨hs, -⟩ | ⟨l₁, w, l₂, next, v, hl, rfl, ha, hs⟩
    · simp [hs, Move.payload?]
    · simp [hs, hl, ha.payload?, List.filterMap_cons, Move.payload?]

/-- Remote values stay in the order in which they are handed over. -/
theorem payloads_run (t : Traffic) (ms : List Move) :
    (t.run ms).writers.filterMap Writer.payload? =
      t.writers.filterMap Writer.payload? ++ ms.filterMap Move.payload? := by
  induction ms generalizing t with
  | nil => simp
  | cons m ms ih =>
    rw [run_cons, ih, payloads_step, List.append_assoc]
    cases h : m.payload? <;> simp [h]

/-! ### What the callback and the subscribers have in common -/

/-- Callbacks are told the same lists as the subscribers in the same order, maybe one ahead. -/
theorem noticed_eq_announced {ws : List Writer} (h : Serial ws) :
    ∃ ahead : Option (List Change),
      ws.flatMap Writer.noticed =
        (ws.flatMap Writer.announced).filterMap Event.changes? ++ ahead.toList ∧
      ((ws.all fun w => !w.isRemote || w.isOver) → ahead = none) := by
  induction ws with
  | nil => exact ⟨none, rfl, fun _ => rfl⟩
  | cons w ws ih =>
    obtain ⟨hw, hws⟩ := List.pairwise_cons.mp h
    cases hr : w.isRemote with
    | false =>
      simpa [Writer.noticed_of_load hr, Writer.announced_of_load hr, hr] using ih hws
    | true =>
      cases ho : w.isOver with
      | true =>
        obtain ⟨ahead, heq, hquiet⟩ := ih hws
        refine ⟨ahead, ?_, ?_⟩
        · simp [heq, Writer.noticed_of_isOver ho]
        · simpa [ho] using hquiet
      | false =>
        -- Nothing remote comes after this one, so what it has told the callback is all there is.
        have hsplit : Serial ([] ++ w :: ws) := h
        have hload : ∀ b ∈ ws, b.isRemote = false := serial_split hsplit hr ho
        have hn : ws.flatMap Writer.noticed = [] :=
          List.flatMap_eq_nil_iff.mpr fun b hb => Writer.noticed_of_load (hload b hb)
        have ha : ws.flatMap Writer.announced = [] :=
          List.flatMap_eq_nil_iff.mpr fun b hb => Writer.announced_of_load (hload b hb)
        refine ⟨w.noticed.head?, ?_, fun hall => ?_⟩
        · have hone : w.noticed.head?.toList = w.noticed := by
            rcases w with ⟨src, stage⟩ | ⟨raw, stage⟩ <;> cases stage <;> first | rfl | cases ho
          simp [hn, ha, Writer.announced_of_not_isOver ho, hone]
        · simp [hr, ho] at hall

/-- The numbers that are told grow like those of the generations that are taken over. -/
theorem numbers_sublist (ws : List Writer) :
    ((ws.flatMap Writer.announced).filterMap Event.number?).Sublist
      ((ws.filterMap Writer.difference?).map fun d => d.1.number) := by
  induction ws with
  | nil => simp
  | cons w ws ih =>
    rcases w with ⟨src, stage⟩ | ⟨raw, stage⟩
    · exact ih
    · cases stage with
      | begun | parsed | rejected => exact ih
      | installed | called => exact ih.cons _
      | finished g changes =>
        cases changes with
        | nil => exact ih.cons _
        | cons => exact ih.cons_cons _

theorem ne_nil_of_announced {w : Writer} {n : Nat} {changes : List Change}
    (h : Event.changed n changes ∈ w.announced) : changes ≠ [] := by
  rcases w with ⟨src, stage⟩ | ⟨raw, stage⟩
  · cases h
  · cases stage with
    | finished g changes' => cases changes' <;> simp_all [Writer.announced]
    | _ => simp [Writer.announced] at h

/-- **Every remote value is told of once.**  As long as values are handed over one after another,
whoever loads documents in between: the events are those of the values, in their order, namely one
for each value that is no document and one for each difference that can be seen, told with the
number of the generation that made it.  Whoever is registered when changes are to be told gets the
same lists in the same order. -/
theorem remote_values_told_once (s : Store) (callback : Option String) (ms : List Move)
    (hturn : (start s callback).inTurn ms) :
    let t₀ := start s callback
    let t := t₀.run ms
    let notices := t₀.notices ms
    (t.writers.filterMap Writer.payload? = ms.filterMap Move.payload? ∧
      ∃ ess, List.Forall₂ (Told s.sectionName (s.current :: t₀.accepted ms)) t.writers ess ∧
        t.events = ess.flatten) ∧
    (∀ n changes, Event.changed n changes ∈ t.events → changes ≠ []) ∧
    (t.events.filterMap Event.number?).Pairwise (· < ·) ∧
    t.calls = handed notices ∧
    ∃ ahead : Option (List Change),
      notices.map (·.2) = t.events.filterMap Event.changes? ++ ahead.toList ∧
      (t.isQuiet → ahead = none) := by
  intro t₀ t notices
  have hstart : Consistent s.current [] t₀ := consistent_start s callback
  have hc : Consistent s.current (t₀.accepted ms) t := hstart.run ms
  have h : Notified s (t₀.accepted ms) notices t := (notified_start s callback).run hstart hturn
  refine ⟨⟨payloads_run t₀ ms, t.writers.map Writer.announced, ?_, ?_⟩, ?_, ?_, h.calls, ?_⟩
  · rw [List.forall₂_map_right_iff, List.forall₂_same]
    exact fun w hw => told_announced (hc.sound w hw) (h.follows w hw)
  · rw [h.announced, List.flatMap_def]
  · intro n changes hmem
    rw [h.announced] at hmem
    obtain ⟨w, -, hw⟩ := List.mem_flatMap.mp hmem
    exact ne_nil_of_announced hw
  · rw [h.announced]
    exact (List.pairwise_map.mpr h.increasing).sublist (numbers_sublist _)
  · rw [h.noticed, h.announced]
    exact noticed_eq_announced h.serial

/-- A load gets ahead of a remote value that adds a name; then comes one that is no document. -/
theorem remote_values_told_once_around_load :
    let t₀ := start (.empty none) (some "print")
    let ms : List Move := [.remote [0x7B, 0x22, 0x61, 0x22, 0x3A, 0x31, 0x7D], .proceed 0,
      .load (.bytes [0x7B, 0x7D]), .proceed 1, .proceed 1, .proceed 0, .proceed 0, .proceed 0,
      .remote [0x7B], .proceed 2]
    let t := t₀.run ms
    t₀.inTurn ms ∧ t.events.filterMap Event.number? = [2] ∧ t.events.length = 2 ∧
      t.calls.map (·.callback) = ["print"] ∧
      ∃ ess, List.Forall₂ (Told none (.initial :: t₀.accepted ms)) t.writers ess ∧
        t.events = ess.flatten := by
  intro t₀ ms t
  have hturn : t₀.inTurn ms := by decide +kernel
  obtain ⟨⟨-, htold⟩, -⟩ := remote_values_told_once (.empty none) (some "print") ms hturn
  exact ⟨hturn, by decide +kernel, by decide +kernel, by decide +kernel, htold⟩

end Traffic

end LiveConfig
