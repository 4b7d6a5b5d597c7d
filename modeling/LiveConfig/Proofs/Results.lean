import Mathlib.Data.List.Forall2

/-!
Results that may be errors.

Main statements: `bind_eq_ok_iff`, what is done in two steps succeeds just if both steps do;
`mapM_eq_ok_iff`, a list is gone through to its end just if every item succeeds, and otherwise
`exists_of_mapM_eq_error` finds the first one that fails.
-/

namespace LiveConfig

variable {ε α β : Type}

/-! ### One step and another -/

/-- What is done in two steps succeeds just if both steps do. -/
theorem bind_eq_ok_iff {x : Except ε α} {f : α → Except ε β} {y : β} :
    (x >>= f) = .ok y ↔ ∃ a, x = .ok a ∧ f a = .ok y := by
  cases x with
  | ok a =>
    constructor
    · intro h
      exact ⟨a, rfl, h⟩
    · rintro ⟨a', ha, h⟩
      cases ha
      exact h
  | error e =>
    constructor
    · intro h
      cases h
    · rintro ⟨a, ha, -⟩
      cases ha

/-- To word an error differently changes no success. -/
theorem mapError_eq_ok_iff {ε' : Type} {x : Except ε α} {f : ε → ε'} {y : α} :
    x.mapError f = .ok y ↔ x = .ok y := by
  cases x with
  | ok a =>
    constructor
    · intro h
      cases h
      rfl
    · intro h
      cases h
      rfl
  | error e =>
    constructor
    · intro h
      cases h
    · intro h
      cases h

/-! ### Going through a list until something fails -/

section MapM

variable {f : α → Except ε β}

theorem mapM_eq_ok_iff {xs : List α} {ys : List β} :
    xs.mapM f = .ok ys ↔ List.Forall₂ (fun x y => f x = .ok y) xs ys := by
  induction xs generalizing ys with
  | nil => cases ys <;> simp [pure, Except.pure]
  | cons x xs ih =>
    rw [List.mapM_cons]
    cases hx : f x with
    | error e =>
      constructor
      · intro h
        cases h
      · rintro (_ | ⟨hxy, -⟩)
        cases hx.symm.trans hxy
    | ok y =>
      cases hxs : xs.mapM f with
      | error e =>
        constructor
        · intro h
          cases h
        · rintro (_ | ⟨-, hrest⟩)
          cases hxs.symm.trans (ih.mpr hrest)
      | ok zs =>
        constructor
        · intro h
          cases h
          exact .cons hx (ih.mp hxs)
        · rintro (_ | ⟨hxy, hrest⟩)
          cases hx.symm.trans hxy
          cases hxs.symm.trans (ih.mpr hrest)
          rfl

theorem exists_mapM_eq_ok_iff {xs : List α} :
    (∃ ys, xs.mapM f = .ok ys) ↔ ∀ x ∈ xs, ∃ y, f x = .ok y := by
  simp only [mapM_eq_ok_iff]
  induction xs with
  | nil => simp
  | cons x xs ih =>
    rw [List.forall_mem_cons, ← ih]
    constructor
    · rintro ⟨_, _ | ⟨hxy, hrest⟩⟩
      exact ⟨⟨_, hxy⟩, ⟨_, hrest⟩⟩
    · rintro ⟨⟨y, hxy⟩, ⟨ys, hrest⟩⟩
      exact ⟨y :: ys, .cons hxy hrest⟩

/-- The error is that of the first item that fails. -/
theorem exists_of_mapM_eq_error {e : ε} {xs : List α} (h : xs.mapM f = .error e) :
    ∃ as x bs, xs = as ++ x :: bs ∧ (∀ a ∈ as, ∃ b, f a = .ok b) ∧ f x = .error e := by
  induction xs with
  | nil => cases h
  | cons x xs ih =>
    rw [List.mapM_cons] at h
    cases hx : f x with
    | error e' =>
      rw [hx] at h
      cases h
      exact ⟨[], x, xs, rfl, by simp, hx⟩
    | ok y =>
      rw [hx] at h
      cases hxs : xs.mapM f with
      | error e' =>
        rw [hxs] at h
        cases h
        obtain ⟨as, z, bs, rfl, has, hz⟩ := ih hxs
        exact ⟨x :: as, z, bs, rfl, List.forall_mem_cons.mpr ⟨⟨y, hx⟩, has⟩, hz⟩
      | ok ys =>
        rw [hxs] at h
        cases h

end MapM

end LiveConfig
