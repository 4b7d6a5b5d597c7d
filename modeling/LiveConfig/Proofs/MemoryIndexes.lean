import LiveConfig.Proofs.MemoryHistory

/-!
What the indexes of a store in memory tell about its history.

An entry is as old as its indexes: nothing has touched it since the store had its modify index, and
the key had no entry when the store stood below its create index.  Main statements:
`Numbered.later_entry`, two entries of one key at two moments are compared by their indexes, and
`current_acts_cases`, an entry is an old one or has been written since, under its index.
-/

namespace LiveConfig

namespace Memory

/-! ### Untouched entries -/

/-- Nothing that is done one after another touches the entry of a key. -/
def Untouched (m : Memory) (key : String) : List Action → Prop
  | [] => True
  | a :: as => ¬ m.Touches key a ∧ (m.act a).Untouched key as

section Over

variable {m : Memory} {key : String} {p q : Pair}

theorem index_le_acts (m : Memory) (as : List Action) : m.index ≤ (m.acts as).index := by
  induction as generalizing m with
  | nil => exact Nat.le_refl _
  | cons a as ih => exact Nat.le_trans (m.current_act_cases a "").1 (ih (m.act a))

theorem current_of_untouched {as : List Action} (h : m.Untouched key as) :
    (m.acts as).current key = m.current key := by
  induction as generalizing m with
  | nil => rfl
  | cons a as ih =>
    rw [acts_cons, ih h.2]
    rcases m.current_act a key with ⟨v, hv, -⟩ | ⟨hr, -⟩ | ⟨-, -, hsame⟩
    · exact absurd (.inl ⟨v, hv⟩) h.1
    · exact absurd (.inr hr) h.1
    · exact hsame

/-- **An entry that has been touched has a new index.** -/
theorem index_lt_of_touched {as : List Action} (h : ¬ m.Untouched key as)
    (hq : (m.acts as).current key = some q) : m.index < q.modifyIndex := by
  induction as generalizing m with
  | nil => exact absurd trivial h
  | cons a as ih =>
    rw [acts_cons] at hq
    by_cases hrest : (m.act a).Untouched key as
    · rw [current_of_untouched hrest] at hq
      rcases m.current_act a key with ⟨v, -, -, hput⟩ | ⟨-, -, hnone⟩ | ⟨hnot, -⟩
      · rw [hput] at hq
        cases hq
        rw [modifyIndex_written]
        exact Nat.lt_succ_self _
      · rw [hnone] at hq
        cases hq
      · exact absurd ⟨hnot, hrest⟩ h
    · exact Nat.lt_of_le_of_lt (m.current_act_cases a key).1 (ih hrest hq)

/-- An entry that came after a moment was created under a new index. -/
theorem index_lt_createIndex {n : Nat} {as : List Action} (hn : n ≤ m.index)
    (h : ∀ p, m.current key = some p → n < p.createIndex)
    (hq : (m.acts as).current key = some q) : n < q.createIndex := by
  induction as generalizing m with
  | nil => exact h q hq
  | cons a as ih =>
    refine ih (Nat.le_trans hn (m.current_act_cases a key).1) ?_ hq
    intro p hp
    rcases m.current_act a key with ⟨v, -, -, hput⟩ | ⟨-, -, hnone⟩ | ⟨-, -, hsame⟩
    · rw [hput] at hp
      cases hp
      cases hold : m.current key with
      | none => exact Nat.lt_succ_of_le hn
      | some p => exact h p hold
    · rw [hnone] at hp
      cases hp
    · exact h p (hsame ▸ hp)

end Over

/-! ### Order of the indexes -/

/-- The indexes of every entry are in order and have been given. -/
def Numbered (m : Memory) : Prop :=
  ∀ key p, m.current key = some p → p.createIndex ≤ p.modifyIndex ∧ p.modifyIndex ≤ m.index

theorem numbered_empty : Numbered .empty := by
  intro key p h
  cases h

theorem createIndex_written_le {key : String} {value : Bytes} {n : Nat} {p : Option Pair}
    (h : ∀ q, p = some q → q.createIndex ≤ n) :
    (written key value n p).createIndex ≤ n := by
  cases p with
  | none => exact Nat.le_refl n
  | some q => exact h q rfl

theorem Numbered.act {m : Memory} (h : m.Numbered) (a : Action) : (m.act a).Numbered := by
  intro key p hp
  rcases m.current_act a key with ⟨v, -, hindex, hput⟩ | ⟨-, -, hnone⟩ | ⟨-, hle, hsame⟩
  · rw [hput] at hp
    cases hp
    rw [modifyIndex_written, hindex]
    refine ⟨createIndex_written_le fun q hq => ?_, Nat.le_refl _⟩
    have hold := h key q hq
    omega
  · rw [hnone] at hp
    cases hp
  · have hold := h key p (hsame ▸ hp)
    exact ⟨hold.1, Nat.le_trans hold.2 hle⟩

theorem Numbered.acts {m : Memory} (h : m.Numbered) (as : List Action) : (m.acts as).Numbered := by
  induction as generalizing m with
  | nil => exact h
  | cons a as ih => exact ih (h.act a)

section Later

variable {m : Memory} {as : List Action} {key : String} {p q : Pair}

/-- **Two entries of one key at two moments**: the later one has at least the index of the earlier
one, and the same index just if nothing has touched it in between, and then it is the same. -/
theorem Numbered.later_entry (h : m.Numbered) (hp : m.current key = some p)
    (hq : (m.acts as).current key = some q) :
    p.modifyIndex ≤ q.modifyIndex ∧ (p.modifyIndex = q.modifyIndex ↔ m.Untouched key as) ∧
      (p.modifyIndex = q.modifyIndex → p = q) := by
  by_cases hu : m.Untouched key as
  · have hpq : p = q := by
      rw [current_of_untouched hu, hp] at hq
      exact Option.some_inj.mp hq
    subst hpq
    exact ⟨Nat.le_refl _, by simp [hu], fun _ => rfl⟩
  · have hlt : p.modifyIndex < q.modifyIndex :=
      Nat.lt_of_le_of_lt (h key p hp).2 (index_lt_of_touched hu hq)
    exact ⟨Nat.le_of_lt hlt, by simp [hu, Nat.ne_of_lt hlt],
      fun heq => absurd heq (Nat.ne_of_lt hlt)⟩

/-- **An entry that is created again** has indexes above all that it had before it was removed. -/
theorem Numbered.recreated_entry {as as' : List Action} {a : Action} (h : m.Numbered)
    (hp : m.current key = some p) (ha : (m.acts as).Removes key a)
    (hq : (m.acts (as ++ a :: as')).current key = some q) :
    p.createIndex ≤ p.modifyIndex ∧ p.modifyIndex < q.createIndex ∧
      q.createIndex ≤ q.modifyIndex := by
  have hold := h key p hp
  refine ⟨hold.1, ?_, (h.acts _ key q hq).1⟩
  rw [acts_append, acts_cons] at hq
  rcases (m.acts as).current_act a key with ⟨v, ⟨k, -, rfl, -⟩, -⟩ | ⟨-, hindex, hnone⟩ | ⟨hnot, -⟩
  · obtain ⟨k', -, hput, -⟩ := ha
    cases hput
  · have hlt : ((m.acts as).act a).index < q.createIndex :=
      index_lt_createIndex (Nat.le_refl _) (by simp [hnone]) hq
    have hle := m.index_le_acts as
    omega
  · exact absurd (.inr ha) hnot

end Later

/-! ### Where entries come from -/

@[simp] theorem value_written (key : String) (value : Bytes) (index : Nat) (p : Option Pair) :
    (written key value index p).value = value := by
  cases p <;> rfl

/-- One of several actions writes a value of a key under an index. -/
def Wrote (m : Memory) (as : List Action) (key : String) (value : Bytes) (index : Nat) : Prop :=
  ∃ before a after, as = before ++ a :: after ∧ (m.acts before).Puts key value a ∧
    index = ((m.acts before).act a).index

theorem Wrote.append {m : Memory} {as : List Action} {key : String} {value : Bytes} {index : Nat}
    (h : m.Wrote as key value index) (as' : List Action) :
    m.Wrote (as ++ as') key value index := by
  obtain ⟨before, a, after, rfl, hputs, hindex⟩ := h
  exact ⟨before, a, after ++ as', by simp, hputs, hindex⟩

/-- **An entry is an old one or has been written since**, with its value and under its index. -/
theorem current_acts_cases {m : Memory} {as : List Action} {key : String} {q : Pair}
    (hq : (m.acts as).current key = some q) :
    m.current key = some q ∨ m.Wrote as key q.value q.modifyIndex := by
  induction as generalizing m with
  | nil => exact .inl hq
  | cons a as ih =>
    rcases ih hq with hnext | ⟨before, b, after, rfl, hb, hindex⟩
    · rcases m.current_act a key with ⟨v, hv, hindex, hput⟩ | ⟨-, -, hnone⟩ | ⟨-, -, hsame⟩
      · rw [hput] at hnext
        cases hnext
        refine .inr ⟨[], a, as, rfl, ?_, ?_⟩
        · rwa [value_written]
        · rw [modifyIndex_written]
          exact hindex.symm
      · rw [hnone] at hnext
        cases hnext
      · exact .inl (hsame ▸ hnext)
    · exact .inr ⟨a :: before, b, after, rfl, hb, hindex⟩

/-! ### How far the index goes -/

/-- Whether an action is a write or a deletion. -/
def Action.isChange : Action → Bool
  | .put _ _ | .delete _ => true
  | _ => false

/-- The index is at most the number of writes and deletions. -/
theorem index_acts_le (m : Memory) (as : List Action) :
    (m.acts as).index ≤ m.index + as.countP Action.isChange := by
  induction as generalizing m with
  | nil => exact Nat.le_refl _
  | cons a as ih =>
    have hstep : (m.act a).index ≤ m.index + if a.isChange then 1 else 0 := by
      cases a with
      | setAvailable | failPuts => exact Nat.le_refl _
      | put k v =>
        rw [act]
        rcases m.put_cases k v with ⟨-, h⟩ | ⟨-, -, h⟩ | ⟨-, -, h⟩ <;> rw [h] <;>
          simp [Action.isChange, stored]
      | delete k =>
        rw [act]
        rcases m.delete_cases k with ⟨-, h⟩ | ⟨-, -, h⟩ | ⟨-, -, h⟩ <;> rw [h] <;>
          simp [Action.isChange, removed]
    have hrest := ih (m.act a)
    rw [acts_cons, List.countP_cons]
    omega

end Memory

end LiveConfig
