import LiveConfig.Proofs.MemoryHistory
import Mathlib.Logic.Relation

/-!
Remote stores, and conversations with them while others work on them as well.

A `RemoteStore` is given by what can happen to it and by what it may answer.  A store is coherent in
a key if two entries of the key with one index always have one value.  `Converse` holds a
conversation in which others may do something before every request and after the last one.  Main
statement: `Memory.coherent`, the store in memory is coherent in every key.
-/

namespace LiveConfig

/-- A store of entries that is shared with others. -/
structure RemoteStore where
  World : Type
  entry : World → String → Option Pair
  /-- What others do, or what happens by itself. -/
  Moves : World → World → Prop
  Reads : World → String → Option Query → ReadAnswer → Prop
  Writes : World → String → Bytes → WriteAnswer → World → Prop
  /-- An answer that is no error tells the entry as it is when the answer is made. -/
  entry_of_reads {w : World} {key : String} {q : Option Query} {found : Option Pair} :
    Reads w key q (.ok found) → found = entry w key

namespace RemoteStore

variable (R : RemoteStore)

/-- Something that happens, no matter who does it. -/
def Happens (w w' : R.World) : Prop := R.Moves w w' ∨ ∃ key value a, R.Writes w key value a w'

/-- What others can make of a store over time. -/
def Drifts : R.World → R.World → Prop := Relation.ReflTransGen R.Moves

/-- What can become of a store over time. -/
def Reaches : R.World → R.World → Prop := Relation.ReflTransGen R.Happens

/-- **One index, one value**: from a beginning on, whenever two entries of a key have the same index
they have the same value. -/
def Coherent (w₀ : R.World) (key : String) : Prop :=
  ∀ w w' p q, R.Reaches w₀ w → R.Reaches w w' → R.entry w key = some p → R.entry w' key = some q →
    p.modifyIndex = q.modifyIndex → p.value = q.value

variable {R}

theorem Reaches.refl (w : R.World) : R.Reaches w w := Relation.ReflTransGen.refl

theorem Reaches.trans {w w' w'' : R.World} (h : R.Reaches w w') (h' : R.Reaches w' w'') :
    R.Reaches w w'' :=
  Relation.ReflTransGen.trans h h'

theorem Reaches.of_moves {w w' : R.World} (h : R.Moves w w') : R.Reaches w w' :=
  .single (.inl h)

theorem Drifts.reaches {w w' : R.World} (h : R.Drifts w w') : R.Reaches w w' :=
  Relation.ReflTransGen.mono (fun _ _ h => Or.inl h) w w' h

theorem Reaches.of_writes {w w' : R.World} {key : String} {value : Bytes} {a : WriteAnswer}
    (h : R.Writes w key value a w') : R.Reaches w w' :=
  .single (.inr ⟨key, value, a, h⟩)

end RemoteStore

/-! ### Conversations -/

/-- A conversation is held, from the store as it is to the store as it is then, with a result. -/
inductive Converse (R : RemoteStore) {α : Type} : R.World → Exchange α → α → R.World → Prop
  | done {w x} : Converse R w (.done x) x w
  | move {w w' w'' e x} (h : R.Moves w w') (rest : Converse R w' e x w'') : Converse R w e x w''
  | read {w w' key next a x} (h : R.Reads w key none a) (rest : Converse R w (next a) x w') :
      Converse R w (.read key next) x w'
  | write {w w' w'' key value next a x} (h : R.Writes w key value a w')
      (rest : Converse R w' (next a) x w'') : Converse R w (.write key value next) x w''
  | pause {w w' time next x} (rest : Converse R w next x w') :
      Converse R w (.pause time next) x w'

namespace Converse

variable {R : RemoteStore} {α β : Type} {w w' : R.World}

theorem reaches {e : Exchange α} {x : α} (h : Converse R w e x w') : R.Reaches w w' := by
  induction h with
  | done => exact .refl _
  | move h _ ih => exact .trans (.of_moves h) ih
  | read _ _ ih => exact ih
  | write h _ ih => exact .trans (.of_writes h) ih
  | pause _ ih => exact ih

theorem of_done {x y : α} (h : Converse R w (.done x) y w') : y = x ∧ R.Drifts w w' := by
  generalize he : Exchange.done x = e at h
  induction h with
  | done =>
    cases he
    exact ⟨rfl, .refl⟩
  | move h _ ih =>
    obtain ⟨rfl, hw⟩ := ih he
    exact ⟨rfl, .head h hw⟩
  | read | write | pause => cases he

theorem of_read {key : String} {next : ReadAnswer → Exchange α} {x : α}
    (h : Converse R w (.read key next) x w') :
    ∃ u a, R.Drifts w u ∧ R.Reads u key none a ∧ Converse R u (next a) x w' := by
  generalize he : Exchange.read key next = e at h
  induction h with
  | read h rest =>
    cases he
    exact ⟨_, _, .refl, h, rest⟩
  | move h _ ih =>
    obtain ⟨u, a, hu, hrest⟩ := ih he
    exact ⟨u, a, .head h hu, hrest⟩
  | done | write | pause => cases he

theorem of_write {key : String} {value : Bytes} {next : WriteAnswer → Exchange α} {x : α}
    (h : Converse R w (.write key value next) x w') :
    ∃ u a u', R.Drifts w u ∧ R.Writes u key value a u' ∧ Converse R u' (next a) x w' := by
  generalize he : Exchange.write key value next = e at h
  induction h with
  | write h rest =>
    cases he
    exact ⟨_, _, _, .refl, h, rest⟩
  | move h _ ih =>
    obtain ⟨u, a, u', hu, hrest⟩ := ih he
    exact ⟨u, a, u', .head h hu, hrest⟩
  | done | read | pause => cases he

theorem of_pause {time : Span} {next : Exchange α} {x : α}
    (h : Converse R w (.pause time next) x w') :
    ∃ u, R.Drifts w u ∧ Converse R u next x w' := by
  generalize he : Exchange.pause time next = e at h
  induction h with
  | pause rest =>
    cases he
    exact ⟨_, .refl, rest⟩
  | move h _ ih =>
    obtain ⟨u, hu, hrest⟩ := ih he
    exact ⟨u, .head h hu, hrest⟩
  | done | read | write => cases he

/-- Before a conversation others may do something. -/
theorem drift {u : R.World} {e : Exchange α} {x : α} (h : R.Drifts w u)
    (hrest : Converse R u e x w') : Converse R w e x w' := by
  induction h using Relation.ReflTransGen.head_induction_on with
  | refl => exact hrest
  | head h _ ih => exact .move h ih

/-- A conversation in two parts is held in two parts. -/
theorem of_bind {e : Exchange α} {f : α → Exchange β} {y : β}
    (h : Converse R w (e.bind f) y w') :
    ∃ x u, Converse R w e x u ∧ Converse R u (f x) y w' := by
  induction e generalizing w with
  | done x => exact ⟨x, w, .done, h⟩
  | read key next ih =>
    obtain ⟨w₁, a, hw₁, ha, hrest⟩ := h.of_read
    obtain ⟨x, u, hx, hu⟩ := ih a hrest
    exact ⟨x, u, drift hw₁ (.read ha hx), hu⟩
  | write key value next ih =>
    obtain ⟨w₁, a, w₂, hw₁, ha, hrest⟩ := h.of_write
    obtain ⟨x, u, hx, hu⟩ := ih a hrest
    exact ⟨x, u, drift hw₁ (.write ha hx), hu⟩
  | pause time next ih =>
    obtain ⟨w₁, hw₁, hrest⟩ := h.of_pause
    obtain ⟨x, u, hx, hu⟩ := ih hrest
    exact ⟨x, u, drift hw₁ (.pause hx), hu⟩

end Converse

/-! ### The store in memory -/

namespace Memory

/-- The store in memory as a remote store, on which others act as they like. -/
def remote : RemoteStore where
  World := Memory
  entry := current
  Moves m m' := ∃ a, m' = m.act a
  Reads m key _ a := a = m.read key
  Writes m key value a m' := m.put key value = (a, m')
  entry_of_reads {m key q found} h := by
    unfold read at h
    split at h
    · cases h
      rfl
    · cases h

theorem exists_acts_of_reaches {m m' : Memory} (h : remote.Reaches m m') :
    ∃ as, m' = m.acts as := by
  induction h with
  | refl => exact ⟨[], rfl⟩
  | tail _ hstep ih =>
    obtain ⟨as, rfl⟩ := ih
    rcases hstep with ⟨a, rfl⟩ | ⟨key, value, a, hput⟩
    · exact ⟨as ++ [a], by rw [acts_append, acts_cons, acts_nil]⟩
    · refine ⟨as ++ [.put key value], ?_⟩
      rw [acts_append, acts_cons, acts_nil, act, hput]

/-- **The store in memory is coherent** in every key, from any moment in its history on. -/
theorem coherent {m : Memory} (hm : remote.Reaches .empty m) (key : String) :
    remote.Coherent m key := by
  intro w w' p q hw hw' hp hq hindex
  obtain ⟨as, rfl⟩ := exists_acts_of_reaches (hm.trans hw)
  obtain ⟨as', rfl⟩ := exists_acts_of_reaches hw'
  have hbound : p.modifyIndex ≤ (Memory.empty.acts as).index := bounded_empty.acts as key p hp
  have hsame := current_eq_of_old_index hq (hindex ▸ hbound)
  have heq : some p = some q := hp.symm.trans hsame
  cases heq
  rfl

end Memory

end LiveConfig
