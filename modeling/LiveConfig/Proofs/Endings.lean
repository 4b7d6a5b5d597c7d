import LiveConfig.Proofs.Records
import LiveConfig.Proofs.Results
import LiveConfig.Store.Connect

/-!
How conversations with a remote store end.

A conversation that is held to its end has a result, whatever the answers are.  `Exchange.EndsIn`
says of a conversation what all of its results are like, and `Yields` what a result is like that may
be an error.  Main statement: `Exchange.endsIn_connect`, a store that is connected to a key goes on
with a poll of that key, and an error is one of three kinds.
-/

namespace LiveConfig

/-! ### All endings of a conversation -/

namespace Exchange

section EndsIn

variable {α β : Type} {P Q : α → Prop}

/-- Whatever the answers are, the result has a property. -/
def EndsIn (P : α → Prop) : Exchange α → Prop
  | done x => P x
  | read _ next => ∀ a, (next a).EndsIn P
  | write _ _ next => ∀ a, (next a).EndsIn P
  | pause _ next => next.EndsIn P

theorem endsIn_true (e : Exchange α) : e.EndsIn fun _ => True := by
  induction e with
  | done x => trivial
  | read key next ih => exact ih
  | write key value next ih => exact ih
  | pause time next ih => exact ih

theorem EndsIn.bind {e : Exchange α} {f : α → Exchange β} {R : β → Prop} (h : e.EndsIn P)
    (hf : ∀ x, P x → (f x).EndsIn R) : (e.bind f).EndsIn R := by
  induction e with
  | done x => exact hf x h
  | read key next ih =>
    intro a
    exact ih a (h a)
  | write key value next ih =>
    intro a
    exact ih a (h a)
  | pause time next ih => exact ih h

theorem EndsIn.step {e e' : Exchange α} {rs : List Answered} (h : e.EndsIn P)
    (hstep : Step e rs e') : e'.EndsIn P := by
  cases hstep with
  | read a => exact h a
  | write a => exact h a
  | pause => exact h

theorem EndsIn.run {e e' : Exchange α} {rs : List Answered} (h : e.EndsIn P)
    (hrun : Recorded Step e rs e') : e'.EndsIn P := by
  induction hrun with
  | refl => exact h
  | tail _ hstep ih => exact ih.step hstep

/-- **The result of a run** is like all results. -/
theorem EndsIn.of_recorded {e : Exchange α} {rs : List Answered} {x : α} (h : e.EndsIn P)
    (hrun : Recorded Step e rs (.done x)) : P x := h.run hrun

end EndsIn

end Exchange

/-! ### Results that may be errors -/

/-- A result is good, or it is an error of some kind. -/
inductive Yields {α : Type} (good : α → Prop) (bad : ConfigError → Prop) :
    Except ConfigError α → Prop
  | ok {x : α} (h : good x) : Yields good bad (.ok x)
  | error {e : ConfigError} (h : bad e) : Yields good bad (.error e)

section Yields

variable {α β : Type} {P : α → Prop} {Q : ConfigError → Prop} {r : Except ConfigError α}

theorem Yields.of_ok {x : α} (h : Yields P Q r) (hr : r = .ok x) : P x := by
  subst hr
  cases h with
  | ok h => exact h

theorem Yields.of_error {e : ConfigError} (h : Yields P Q r) (hr : r = .error e) : Q e := by
  subst hr
  cases h with
  | error h => exact h

theorem Yields.bind {R : β → Prop} {f : α → Except ConfigError β} (h : Yields P Q r)
    (hf : ∀ x, P x → Yields R Q (f x)) : Yields R Q (r >>= f) := by
  cases h with
  | ok h => exact hf _ h
  | error h => exact .error h

end Yields

namespace ConfigError

/-- Why the value of a key can neither be fetched nor seeded. -/
inductive OfSeeding : ConfigError → Prop
  | load (source message : String) : OfSeeding (.load source message)
  | bootstrap (key message : String) : OfSeeding (.bootstrap key message)

/-- Why a store cannot be connected to a key. -/
inductive OfConnecting : ConfigError → Prop
  | seeding {e : ConfigError} (h : OfSeeding e) : OfConnecting e
  | watchStart (key message : String) : OfConnecting (.watchStart key message)

end ConfigError

/-! ### The conversations of a connection -/

open ConfigError

theorem yields_load (s : Store) (source : String) (raw : Bytes) :
    Yields (fun _ => True) OfSeeding (s.load source raw) := by
  unfold Store.load
  split
  · exact .ok trivial
  · exact .error (.load _ _)

theorem yields_checkKey (key : String) :
    Yields (fun _ => (Text.strip key).isEmpty = false) OfConnecting (checkKey key) := by
  unfold checkKey
  split
  · exact .error (.watchStart _ _)
  · rename_i hkey
    exact .ok (Bool.not_eq_true _ ▸ hkey)

theorem checkKey_eq_ok_iff {key : String} :
    checkKey key = .ok () ↔ (Text.strip key).isEmpty = false := by
  unfold checkKey
  cases (Text.strip key).isEmpty <;> simp

namespace Exchange

variable (storeName key : String) (sectionName localPath : Option String) (files : Files)
  (options : WatchOptions)

theorem yields_localDefault :
    Yields (fun _ => True) OfSeeding (localDefault key localPath files) := by
  unfold localDefault
  split
  · exact .error (.bootstrap _ _)
  · split
    · exact .error (.bootstrap _ _)
    · split
      · exact .error (.load _ _)
      · exact .ok trivial

theorem endsIn_fetchOrSeed :
    (fetchOrSeed storeName key localPath files).EndsIn (Yields (fun _ => True) OfSeeding) := by
  intro a
  rcases a with e | _ | p
  · exact .error (.bootstrap _ _)
  · dsimp only
    cases hdefault : localDefault key localPath files with
    | error e => exact .error ((yields_localDefault key localPath files).of_error hdefault)
    | ok value =>
      -- Whatever the last attempt to write is answered, only its error is wrapped.
      refine (endsIn_true _).bind fun w _ => ?_
      cases w with
      | ok => exact .ok trivial
      | error e => exact .error (.bootstrap _ _)
  · exact .ok trivial

theorem endsIn_startWatch (known : Option Bytes) :
    (startWatch key known options).EndsIn
      (Yields (fun w => w.poll.key = key ∧ w.poll.options = options) OfConnecting) := by
  intro a
  rcases a with e | _ | p
  · exact .error (.watchStart _ _)
  · exact .error (.watchStart _ _)
  · exact .ok ⟨rfl, rfl⟩

theorem yields_installFetched (raw : Bytes) :
    Yields (fun _ => checkKey key = .ok ()) OfConnecting (installFetched sectionName key raw) := by
  unfold installFetched
  split
  · rename_i e he
    exact .error (.seeding ((yields_load _ key raw).of_error he))
  · split
    · rename_i e he
      exact .error ((yields_checkKey key).of_error he)
    · rename_i hok
      exact .ok hok

/-- **How a connection ends**: with a poll of its key, or with an error of one of three kinds. -/
theorem endsIn_connect :
    (connect storeName key sectionName localPath files options).EndsIn
      (Yields (fun c => c.poll.key = key ∧ c.poll.options = options) OfConnecting) := by
  refine (endsIn_fetchOrSeed storeName key localPath files).bind fun fetched hfetched => ?_
  cases hfetched with
  | error h => exact .error (.seeding h)
  | @ok raw _ =>
    dsimp only
    cases hs : installFetched sectionName key raw with
    | error e => exact .error ((yields_installFetched key sectionName raw).of_error hs)
    | ok s =>
      refine (endsIn_startWatch key options (some raw)).bind fun started hstarted => ?_
      cases hstarted with
      | error h => exact .error h
      | @ok w hw =>
        dsimp only
        cases w.news with
        | none => exact .ok hw
        | some v => exact .ok hw

end Exchange

end LiveConfig
