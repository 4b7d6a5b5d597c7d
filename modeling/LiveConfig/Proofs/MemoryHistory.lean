import LiveConfig.Remote.Memory

/-!
What happens to a store in memory over time.

An action changes the entry of a key only by removing it or by giving it an index that has never
been used before.  Main statement: `current_eq_of_old_index`, an entry whose index is as old as a
moment in the past was there at that moment, with the same value.
-/

namespace LiveConfig

namespace Memory

/-- What somebody does to the store. -/
inductive Action where
  | put (key : String) (value : Bytes)
  | delete (key : String)
  | setAvailable (available : Bool)
  | failPuts (count : Nat)

/-- The store after an action. -/
def act (m : Memory) : Action → Memory
  | .put key value => (m.put key value).2
  | .delete key => (m.delete key).2
  | .setAvailable available => m.setAvailable available
  | .failPuts count => m.failPuts count

/-- The store after actions one after another. -/
def acts (m : Memory) (as : List Action) : Memory := as.foldl act m

section Acts

variable (m : Memory) (a : Action) (as as' : List Action)

@[simp] theorem acts_nil : m.acts [] = m := rfl

@[simp] theorem acts_cons : m.acts (a :: as) = (m.act a).acts as := rfl

@[simp] theorem acts_append : m.acts (as ++ as') = (m.acts as).acts as' := List.foldl_append

end Acts

/-! ### Entries by their keys -/

theorem lookup_setEntry (key key' : String) (p : Pair) (es : List (String × Pair)) :
    (setEntry key p es).lookup key' = if key' = key then some p else es.lookup key' := by
  induction es with
  | nil =>
    by_cases h : key' = key
    · simp [setEntry, h]
    · simp [setEntry, h, List.lookup_cons, beq_eq_false_iff_ne.mpr h]
  | cons e es ih =>
    obtain ⟨k, q⟩ := e
    unfold setEntry
    by_cases hk : k = key
    · subst hk
      by_cases h : key' = k
      · simp [h]
      · simp [h, List.lookup_cons, beq_eq_false_iff_ne.mpr h]
    · rw [if_neg hk, List.lookup_cons, List.lookup_cons, ih]
      by_cases h : key' = k
      · subst h
        simp [hk]
      · simp [beq_eq_false_iff_ne.mpr h]

theorem lookup_filter_ne (key key' : String) (es : List (String × Pair)) :
    (es.filter (·.1 ≠ key)).lookup key' = if key' = key then none else es.lookup key' := by
  induction es with
  | nil => simp
  | cons e es ih =>
    obtain ⟨k, q⟩ := e
    by_cases hk : k = key
    · subst hk
      rw [List.filter_cons_of_neg (by simp), ih, List.lookup_cons]
      by_cases h : key' = k
      · simp [h]
      · simp [h, beq_eq_false_iff_ne.mpr h]
    · rw [List.filter_cons_of_pos (by simpa using hk), List.lookup_cons, List.lookup_cons, ih]
      by_cases h : key' = k
      · subst h
        simp [hk]
      · simp [beq_eq_false_iff_ne.mpr h]

/-! ### One action -/

/-- The store after a write that takes effect. -/
def stored (m : Memory) (key : String) (value : Bytes) : Memory :=
  let k := normalKey key
  let p := written k value (m.index + 1) (m.entries.lookup k)
  { m with entries := setEntry k p m.entries, index := m.index + 1, puts := m.puts + 1 }

/-- The store after a deletion that removes an entry. -/
def removed (m : Memory) (key : String) : Memory :=
  { m with entries := m.entries.filter (·.1 ≠ normalKey key), index := m.index + 1 }

theorem put_cases (m : Memory) (key : String) (value : Bytes) :
    (m.available = false ∧ m.put key value = (.error unavailable, m)) ∨
    (m.available = true ∧ 0 < m.failing ∧
      m.put key value = (.error injected, { m with failing := m.failing - 1 })) ∨
    (m.available = true ∧ m.failing = 0 ∧ m.put key value = (.ok (), m.stored key value)) := by
  unfold put
  cases ha : m.available with
  | false => exact .inl ⟨rfl, rfl⟩
  | true =>
    by_cases hf : 0 < m.failing
    · exact .inr (.inl ⟨rfl, hf, by simp [hf]⟩)
    · exact .inr (.inr ⟨rfl, by omega, by simp [hf, stored, ha]⟩)

theorem delete_cases (m : Memory) (key : String) :
    (m.available = false ∧ m.delete key = (.error unavailable, m)) ∨
    (m.available = true ∧ m.current key = none ∧ m.delete key = (.ok (), m)) ∨
    (m.available = true ∧ (m.current key).isSome ∧ m.delete key = (.ok (), m.removed key)) := by
  unfold delete current
  cases ha : m.available with
  | false => exact .inl ⟨rfl, rfl⟩
  | true =>
    cases hl : m.entries.lookup (normalKey key) with
    | none => exact .inr (.inl ⟨rfl, rfl, by simp [hl]⟩)
    | some p => exact .inr (.inr ⟨rfl, rfl, by simp [hl, removed, ha]⟩)

theorem current_stored (m : Memory) (key key' : String) (value : Bytes) :
    (m.stored key value).current key' =
      if normalKey key' = normalKey key then
        some (written (normalKey key) value (m.index + 1) (m.current key))
      else m.current key' :=
  lookup_setEntry _ _ _ _

theorem current_removed (m : Memory) (key key' : String) :
    (m.removed key).current key' =
      if normalKey key' = normalKey key then none else m.current key' :=
  lookup_filter_ne _ _ _

@[simp] theorem modifyIndex_written (key : String) (value : Bytes) (index : Nat)
    (p : Option Pair) : (written key value index p).modifyIndex = index := by
  cases p <;> rfl

/-- A write of a key that takes effect. -/
def Puts (m : Memory) (key : String) (value : Bytes) (a : Action) : Prop :=
  ∃ k, normalKey k = normalKey key ∧ a = .put k value ∧ (m.put k value).1 = .ok ()

/-- A deletion that removes the entry of a key. -/
def Removes (m : Memory) (key : String) (a : Action) : Prop :=
  ∃ k, normalKey k = normalKey key ∧ a = .delete k ∧ (m.delete k).1 = .ok () ∧
    (m.current key).isSome

/-- An action that changes the entry of a key. -/
def Touches (m : Memory) (key : String) (a : Action) : Prop :=
  (∃ value, m.Puts key value a) ∨ m.Removes key a

theorem touches_put_iff {m : Memory} {key k : String} {v : Bytes} :
    m.Touches key (.put k v) ↔ normalKey k = normalKey key ∧ (m.put k v).1 = .ok () := by
  constructor
  · rintro (⟨v', k', hk, h, hok⟩ | ⟨k', -, h, -⟩) <;> cases h
    exact ⟨hk, hok⟩
  · exact fun h => .inl ⟨v, k, h.1, rfl, h.2⟩

theorem touches_delete_iff {m : Memory} {key k : String} :
    m.Touches key (.delete k) ↔
      normalKey k = normalKey key ∧ (m.delete k).1 = .ok () ∧ (m.current key).isSome := by
  constructor
  · rintro (⟨v', k', -, h, -⟩ | ⟨k', hk, h, hrest⟩) <;> cases h
    exact ⟨hk, hrest⟩
  · exact fun h => .inr ⟨k, h.1, rfl, h.2⟩

theorem current_congr (m : Memory) {key key' : String} (h : normalKey key = normalKey key') :
    m.current key = m.current key' := by
  unfold current
  rw [h]

/-- **What an action does to the entry of a key**: a write that takes effect gives it the index that
comes next, a deletion removes it, and everything else leaves it alone. -/
theorem current_act (m : Memory) (a : Action) (key : String) :
    (∃ value, m.Puts key value a ∧ (m.act a).index = m.index + 1 ∧
      (m.act a).current key =
        some (written (normalKey key) value (m.index + 1) (m.current key))) ∨
    (m.Removes key a ∧ (m.act a).index = m.index + 1 ∧ (m.act a).current key = none) ∨
    (¬ m.Touches key a ∧ m.index ≤ (m.act a).index ∧ (m.act a).current key = m.current key) := by
  cases a with
  | setAvailable | failPuts =>
    refine .inr (.inr ⟨?_, Nat.le_refl _, rfl⟩)
    rintro (⟨v, k, -, h, -⟩ | ⟨k, -, h, -⟩) <;> cases h
  | put k v =>
    rw [touches_put_iff, act]
    rcases m.put_cases k v with ⟨-, h⟩ | ⟨-, -, h⟩ | ⟨-, -, h⟩ <;> rw [h]
    · exact .inr (.inr ⟨by simp, Nat.le_refl _, rfl⟩)
    · exact .inr (.inr ⟨by simp, Nat.le_refl _, rfl⟩)
    · by_cases hk : normalKey key = normalKey k
      · refine .inl ⟨v, ⟨k, hk.symm, rfl, by rw [h]⟩, rfl, ?_⟩
        rw [current_stored, if_pos hk, hk, m.current_congr hk]
      · exact .inr (.inr ⟨fun ht => hk ht.1.symm, Nat.le_succ _,
          (m.current_stored k key v).trans (if_neg hk)⟩)
  | delete k =>
    rw [touches_delete_iff, act]
    rcases m.delete_cases k with ⟨-, h⟩ | ⟨-, hnone, h⟩ | ⟨-, hsome, h⟩ <;> rw [h]
    · exact .inr (.inr ⟨by simp, Nat.le_refl _, rfl⟩)
    · refine .inr (.inr ⟨fun ht => ?_, Nat.le_refl _, rfl⟩)
      have hsome := ht.2.2
      rw [m.current_congr ht.1.symm, hnone] at hsome
      cases hsome
    · by_cases hk : normalKey key = normalKey k
      · refine .inr (.inl ⟨⟨k, hk.symm, rfl, by rw [h], ?_⟩, rfl, ?_⟩)
        · rwa [m.current_congr hk]
        · rw [current_removed, if_pos hk]
      · exact .inr (.inr ⟨fun ht => hk ht.1.symm, Nat.le_succ _,
          (m.current_removed k key).trans (if_neg hk)⟩)

/-- The index grows, and an entry that is there after an action is an old one or has the newest
index. -/
theorem current_act_cases (m : Memory) (a : Action) (key : String) :
    m.index ≤ (m.act a).index ∧
    ((m.act a).current key = m.current key ∨ (m.act a).current key = none ∨
      ∃ p, (m.act a).current key = some p ∧ p.modifyIndex = (m.act a).index ∧
        m.index < (m.act a).index) := by
  rcases m.current_act a key with ⟨v, -, hindex, h⟩ | ⟨-, hindex, h⟩ | ⟨-, hindex, h⟩
  · refine ⟨by omega, .inr (.inr ⟨_, h, ?_, by omega⟩)⟩
    rw [modifyIndex_written, hindex]
  · exact ⟨by omega, .inr (.inl h)⟩
  · exact ⟨hindex, .inl h⟩

/-! ### Entries over time -/

/-- No entry has an index that has not been given yet. -/
def Bounded (m : Memory) : Prop := ∀ key p, m.current key = some p → p.modifyIndex ≤ m.index

theorem bounded_empty : Bounded .empty := by
  intro key p h
  cases h

theorem Bounded.act {m : Memory} (h : m.Bounded) (a : Action) : (m.act a).Bounded := by
  intro key p hp
  obtain ⟨hle, hsame | hnone | ⟨q, hq, hindex, -⟩⟩ := m.current_act_cases a key
  · exact Nat.le_trans (h key p (hsame ▸ hp)) hle
  · rw [hnone] at hp
    cases hp
  · rw [hq] at hp
    cases hp
    exact Nat.le_of_eq hindex

theorem Bounded.acts {m : Memory} (h : m.Bounded) (as : List Action) : (m.acts as).Bounded := by
  induction as generalizing m with
  | nil => exact h
  | cons a as ih => exact ih (h.act a)

/-- **An entry with an old index is an old entry.** -/
theorem current_eq_of_old_index {m : Memory} {as : List Action} {key : String} {p : Pair}
    (hp : (m.acts as).current key = some p) (hold : p.modifyIndex ≤ m.index) :
    m.current key = some p := by
  induction as generalizing m with
  | nil => exact hp
  | cons a as ih =>
    obtain ⟨hle, hsame | hnone | ⟨q, hq, hindex, hlt⟩⟩ := m.current_act_cases a key
    · rw [← hsame]
      exact ih hp (Nat.le_trans hold hle)
    · have hnext := ih hp (Nat.le_trans hold hle)
      rw [hnone] at hnext
      cases hnext
    · have hnext := ih hp (Nat.le_trans hold hle)
      rw [hq] at hnext
      cases hnext
      omega

end Memory

end LiveConfig
