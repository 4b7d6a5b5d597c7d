/-!
Lists of entries in the order of their keys, each key once.
-/

namespace LiveConfig.KeyOrder

/-- Keys in increasing order, each of them once. -/
def Increasing {α : Type} (es : List (String × α)) : Prop := es.Pairwise (·.1 < ·.1)

/-- Add an entry at its place; an entry of the same key is replaced. -/
def insert {α : Type} (key : String) (value : α) : List (String × α) → List (String × α)
  | [] => [(key, value)]
  | (k, v) :: es =>
    if key < k then (key, value) :: (k, v) :: es
    else if key = k then (key, value) :: es
    else (k, v) :: insert key value es

/-- Put entries at their places one after another. -/
def insertAll {α : Type} (sofar : List (String × α)) : List (String × α) → List (String × α)
  | [] => sofar
  | (k, v) :: es => insertAll (insert k v sofar) es

section Insert

variable {α : Type} {k : String} {v : α} {es : List (String × α)}

theorem mem_insert {e : String × α} (h : e ∈ insert k v es) : e = (k, v) ∨ e ∈ es := by
  induction es with
  | nil => simpa [insert] using h
  | cons a es ih =>
    unfold insert at h
    split at h
    · simpa using h
    · split at h
      · rcases List.mem_cons.mp h with rfl | h
        · exact .inl rfl
        · exact .inr (List.mem_cons_of_mem _ h)
      · rcases List.mem_cons.mp h with rfl | h
        · exact .inr List.mem_cons_self
        · exact (ih h).imp id (List.mem_cons_of_mem _)

theorem increasing_insert (h : Increasing es) : Increasing (insert k v es) := by
  induction es with
  | nil => simp [insert, Increasing]
  | cons a es ih =>
    obtain ⟨ha, hes⟩ := List.pairwise_cons.mp h
    unfold insert
    split
    · rename_i hk
      refine List.pairwise_cons.mpr ⟨fun b hb => ?_, h⟩
      rcases List.mem_cons.mp hb with rfl | hb
      · exact hk
      · exact String.lt_trans hk (ha b hb)
    · split
      · rename_i hk
        subst hk
        exact List.pairwise_cons.mpr ⟨ha, hes⟩
      · rename_i hlt hne
        refine List.pairwise_cons.mpr ⟨fun b hb => ?_, ih hes⟩
        rcases mem_insert hb with rfl | hb
        · exact Std.lt_of_le_of_ne (String.not_lt.mp hlt) (Ne.symm hne)
        · exact ha b hb

end Insert

theorem increasing_insertAll {α : Type} {sofar es : List (String × α)}
    (h : Increasing sofar) : Increasing (insertAll sofar es) := by
  induction es generalizing sofar with
  | nil => exact h
  | cons e es ih => exact ih (increasing_insert h)

end LiveConfig.KeyOrder
