import LiveConfig.Proofs.Maps
import LiveConfig.Proofs.Records
import Mathlib.Data.List.Induction

/-!
What the callers of a store in memory know of it.

They know what they have asked for and what they have been answered.  From that alone they can tell
the value of every key: it is the one of the last write that took effect, unless a deletion has come
after it.  Main statement: `calls_tell_store`, which also says how the store keeps its entries and
which writes are made to fail.
-/

namespace LiveConfig

namespace Memory

/-! ### Calls -/

/-- Something that a caller asks of the store. -/
inductive Request where
  | get (key : String)
  | act (action : Action)

/-- A call that has been served, with its answer if there is one. -/
inductive Served where
  | get (key : String) (answer : ReadAnswer)
  | put (key : String) (value : Bytes) (answer : WriteAnswer)
  | delete (key : String) (answer : WriteAnswer)
  | setAvailable (available : Bool)
  | failPuts (count : Nat)

def Request.action? : Request → Option Action
  | get _ => none
  | act a => some a

/-- All that is done to the store, in order. -/
def actions (rs : List Request) : List Action := rs.filterMap Request.action?

def serve (m : Memory) : Request → Served
  | .get key => .get key (m.read key)
  | .act (.put key value) => .put key value (m.put key value).1
  | .act (.delete key) => .delete key (m.delete key).1
  | .act (.setAvailable available) => .setAvailable available
  | .act (.failPuts count) => .failPuts count

/-- Serve calls one after another. -/
def served (m : Memory) : List Request → List Served
  | [] => []
  | r :: rs => m.serve r :: (m.acts r.action?.toList).served rs

theorem actions_concat (rs : List Request) (r : Request) :
    actions (rs ++ [r]) = actions rs ++ r.action?.toList := by
  unfold actions
  rw [List.filterMap_append]
  cases r <;> rfl

theorem served_concat (m : Memory) (rs : List Request) (r : Request) :
    m.served (rs ++ [r]) = m.served rs ++ [(m.acts (actions rs)).serve r] := by
  induction rs generalizing m with
  | nil => rfl
  | cons r' rs ih =>
    have hrest : (m.acts r'.action?.toList).acts (actions rs) = m.acts (actions (r' :: rs)) := by
      cases r' <;> rfl
    rw [List.cons_append, served, ih, hrest]
    rfl

/-- A call that is served, with the store before and after it. -/
inductive Serving (m : Memory) : Served → Memory → Prop
  | get (key : String) : Serving m (.get key (m.read key)) m
  | putRefused (key : String) (value : Bytes) :
      m.available = false → Serving m (.put key value (.error unavailable)) m
  | putFailed (key : String) (value : Bytes) : m.available = true → 0 < m.failing →
      Serving m (.put key value (.error injected)) { m with failing := m.failing - 1 }
  | stored (key : String) (value : Bytes) : m.available = true → m.failing = 0 →
      Serving m (.put key value (.ok ())) (m.stored key value)
  | deleteRefused (key : String) :
      m.available = false → Serving m (.delete key (.error unavailable)) m
  | absent (key : String) : m.available = true → m.current key = none →
      Serving m (.delete key (.ok ())) m
  | removed (key : String) : m.available = true → (m.current key).isSome = true →
      Serving m (.delete key (.ok ())) (m.removed key)
  | setAvailable (available : Bool) :
      Serving m (.setAvailable available) (m.setAvailable available)
  | failPuts (count : Nat) : Serving m (.failPuts count) (m.failPuts count)

/-- **What serving a call can be.** -/
theorem serving (m : Memory) (r : Request) : m.Serving (m.serve r) (m.acts r.action?.toList) := by
  cases r with
  | get key => exact .get key
  | act a =>
    cases a with
    | setAvailable available => exact .setAvailable available
    | failPuts count => exact .failPuts count
    | put key value =>
      show m.Serving (.put key value (m.put key value).1) (m.put key value).2
      rcases m.put_cases key value with ⟨ha, hput⟩ | ⟨ha, hf, hput⟩ | ⟨ha, hf, hput⟩ <;> rw [hput]
      · exact .putRefused key value ha
      · exact .putFailed key value ha hf
      · exact .stored key value ha hf
    | delete key =>
      show m.Serving (.delete key (m.delete key).1) (m.delete key).2
      rcases m.delete_cases key with ⟨ha, h⟩ | ⟨ha, hnone, h⟩ | ⟨ha, hsome, h⟩ <;> rw [h]
      · exact .deleteRefused key ha
      · exact .absent key ha hnone
      · exact .removed key ha hsome

/-- What holds before all calls and is kept by each of them holds after them. -/
theorem served_induction {P : List Served → Memory → Prop} {m : Memory} {rs : List Request}
    (hempty : P [] m)
    (hstep : ∀ cs c m₁ m₂, c ∈ m.served rs → P cs m₁ → m₁.Serving c m₂ → P (cs ++ [c]) m₂) :
    P (m.served rs) (m.acts (actions rs)) := by
  induction rs using List.reverseRecOn with
  | nil => exact hempty
  | append_singleton rs r ih =>
    rw [served_concat, actions_concat, acts_append]
    rw [served_concat] at hstep
    refine hstep _ _ _ _ (List.mem_append_right _ (List.mem_singleton.mpr rfl)) (ih ?_) (serving ..)
    exact fun cs c m₁ m₂ hc => hstep cs c m₁ m₂ (List.mem_append_left _ hc)

/-! ### What callers can tell -/

namespace Served

def switch? : Served → Option Bool
  | setAvailable b => some b
  | _ => none

/-- What a call has made of the value of a key, if it was a write or a deletion of the key that took
effect. -/
def change? (key : String) : Served → Option (Option Bytes)
  | put k v (.ok _) => if normalKey k = normalKey key then some (some v) else none
  | delete k (.ok _) => if normalKey k = normalKey key then some none else none
  | _ => none

def putAnswer? : Served → Option WriteAnswer
  | put _ _ a => some a
  | _ => none

/-- Whether a call was a write that took effect. -/
def isWrite : Served → Bool
  | put _ _ (.ok _) => true
  | _ => false

def isFailPuts : Served → Bool
  | failPuts _ => true
  | _ => false

def hasFailed : Served → Bool
  | get _ (.error _) | put _ _ (.error _) | delete _ (.error _) => true
  | _ => false

end Served

/-- Whether the store is available after some calls, given whether it was before them. -/
def isUp (up : Bool) (cs : List Served) : Bool := (cs.filterMap Served.switch?).getLastD up

/-- The value that the last write of a key gave it, unless a deletion took effect after that. -/
def latest (cs : List Served) (key : String) : Option Bytes :=
  (cs.filterMap (Served.change? key)).getLast?.join

/-- Whether a call was a deletion of a key that had a value. -/
def Served.removes (past : List Served) : Served → Bool
  | delete k (.ok _) => (latest past k).isSome
  | _ => false

def writes (cs : List Served) : Nat := cs.countP Served.isWrite

/-- How many deletions have removed a value. -/
def removals (cs : List Served) : Nat := (withPast cs).countP fun (past, c) => c.removes past

/-- The answers to the writes that were made while the store was available. -/
def reached (up : Bool) (cs : List Served) : List WriteAnswer :=
  (withPast cs).filterMap fun (past, c) => if isUp up past then c.putAnswer? else none

section Concat

variable (up : Bool) (cs : List Served) (c : Served) (key : String)

theorem isUp_concat : isUp up (cs ++ [c]) = c.switch?.getD (isUp up cs) := by
  unfold isUp
  rw [List.filterMap_append]
  cases h : c.switch? <;> simp [h]

theorem latest_concat : latest (cs ++ [c]) key = (c.change? key).getD (latest cs key) := by
  unfold latest
  rw [List.filterMap_append]
  cases h : c.change? key <;> simp [h]

theorem writes_concat : writes (cs ++ [c]) = writes cs + if c.isWrite then 1 else 0 := by
  unfold writes
  rw [List.countP_append, List.countP_singleton]

theorem removals_concat :
    removals (cs ++ [c]) = removals cs + if c.removes cs then 1 else 0 := by
  unfold removals
  rw [withPast_concat, List.countP_append, List.countP_singleton]

theorem reached_concat : reached up (cs ++ [c]) =
    reached up cs ++ (if isUp up cs then c.putAnswer? else none).toList := by
  unfold reached
  rw [withPast_concat, List.filterMap_append]
  cases h : (if isUp up cs then c.putAnswer? else none) <;> simp [h]

end Concat

/-! ### How the entries are kept -/

/-- Every entry stands under its own key, its indexes have been given, and no other entry has its
modify index. -/
structure Kept (m : Memory) : Prop where
  own : ∀ e ∈ m.entries, e.2.key = e.1 ∧ e.1.toList.head? ≠ some '/'
  ordered : ∀ e ∈ m.entries, 1 ≤ e.2.createIndex ∧ e.2.createIndex ≤ e.2.modifyIndex ∧
    e.2.modifyIndex ≤ m.index
  distinct : m.entries.Pairwise fun d e => d.1 ≠ e.1 ∧ d.2.modifyIndex ≠ e.2.modifyIndex

theorem head?_normalKey (key : String) : (normalKey key).toList.head? ≠ some '/' := by
  unfold normalKey
  rw [String.toList_ofList]
  intro h
  have hnot := List.head?_dropWhile_not (fun c => decide (c = '/')) key.toList
  rw [h] at hnot
  simp at hnot

section SetEntry

variable {key : String} {p : Pair} {es : List (String × Pair)}

theorem eq_or_mem_of_setEntry {e : String × Pair} (h : e ∈ setEntry key p es) :
    e = (key, p) ∨ e ∈ es := by
  induction es with
  | nil => exact .inl (List.mem_singleton.mp h)
  | cons d es ih =>
    obtain ⟨k, q⟩ := d
    unfold setEntry at h
    split at h
    · rcases List.mem_cons.mp h with h | h
      · exact .inl h
      · exact .inr (List.mem_cons_of_mem _ h)
    · rcases List.mem_cons.mp h with h | h
      · exact .inr (h ▸ List.mem_cons_self)
      · rcases ih h with h | h
        · exact .inl h
        · exact .inr (List.mem_cons_of_mem _ h)

/-- What holds between any two entries still holds after a write, if it holds between the new entry
and those of other keys. -/
theorem pairwise_setEntry {R : String × Pair → String × Pair → Prop} (h : es.Pairwise R)
    (hkeys : es.Pairwise (·.1 ≠ ·.1))
    (hnew : ∀ e ∈ es, e.1 ≠ key → R e (key, p) ∧ R (key, p) e) :
    (setEntry key p es).Pairwise R := by
  induction es with
  | nil => exact List.pairwise_singleton ..
  | cons d es ih =>
    obtain ⟨k, q⟩ := d
    obtain ⟨hd, hes⟩ := List.pairwise_cons.mp h
    obtain ⟨hk, hkes⟩ := List.pairwise_cons.mp hkeys
    have hrest : ∀ e ∈ es, e.1 ≠ key → R e (key, p) ∧ R (key, p) e := fun e he =>
      hnew e (List.mem_cons_of_mem _ he)
    unfold setEntry
    split
    · rename_i heq
      refine List.pairwise_cons.mpr ⟨fun e he => ?_, hes⟩
      exact (hrest e he fun hsame => hk e he (heq.trans hsame.symm)).2
    · rename_i hne
      refine List.pairwise_cons.mpr ⟨fun e he => ?_, ih hes hkes hrest⟩
      rcases eq_or_mem_of_setEntry he with rfl | he
      · exact (hnew (k, q) List.mem_cons_self hne).1
      · exact hd e he

end SetEntry

/-- The entry after a write stands under its key, and it was created no later than that write. -/
theorem written_ordered (key : String) (value : Bytes) (n : Nat) (old : Option Pair)
    (h : ∀ q, old = some q → q.key = key ∧ 1 ≤ q.createIndex ∧ q.createIndex ≤ n) :
    (written key value (n + 1) old).key = key ∧ 1 ≤ (written key value (n + 1) old).createIndex ∧
      (written key value (n + 1) old).createIndex ≤ n + 1 := by
  cases old with
  | none => exact ⟨rfl, Nat.le_add_left .., Nat.le_refl _⟩
  | some q =>
    obtain ⟨hkey, hle, hlast⟩ := h q rfl
    exact ⟨hkey, hle, Nat.le_succ_of_le hlast⟩

namespace Kept

variable {m : Memory}

theorem empty : Kept .empty := ⟨by simp [Memory.empty], by simp [Memory.empty], .nil⟩

/-- Nothing else of the store matters than its entries and its index. -/
theorem congr {m' : Memory} (h : m.Kept) (hentries : m'.entries = m.entries)
    (hindex : m'.index = m.index) : m'.Kept := by
  refine ⟨?_, ?_, ?_⟩ <;> rw [hentries]
  · exact h.own
  · rw [hindex]
    exact h.ordered
  · exact h.distinct

theorem stored (h : m.Kept) (key : String) (value : Bytes) : (m.stored key value).Kept := by
  have hold : ∀ q, m.entries.lookup (normalKey key) = some q →
      q.key = normalKey key ∧ 1 ≤ q.createIndex ∧ q.createIndex ≤ m.index := by
    intro q hq
    have hmem := KeyOrder.mem_of_lookup hq
    have hordered := h.ordered _ hmem
    exact ⟨(h.own _ hmem).1, hordered.1, Nat.le_trans hordered.2.1 hordered.2.2⟩
  have hnew := written_ordered (normalKey key) value m.index _ hold
  have hmodify := modifyIndex_written (normalKey key) value (m.index + 1)
    (m.entries.lookup (normalKey key))
  refine ⟨fun e he => ?_, fun e he => ?_, ?_⟩
  · rcases eq_or_mem_of_setEntry he with rfl | he
    · exact ⟨hnew.1, head?_normalKey key⟩
    · exact h.own e he
  · rcases eq_or_mem_of_setEntry he with rfl | he
    · refine ⟨hnew.2.1, ?_, Nat.le_of_eq hmodify⟩
      rw [hmodify]
      exact hnew.2.2
    · have hordered := h.ordered e he
      exact ⟨hordered.1, hordered.2.1, Nat.le_succ_of_le hordered.2.2⟩
  · -- The new index is above all that have been given.
    refine pairwise_setEntry h.distinct (h.distinct.imp And.left) fun e he hne => ?_
    rw [hmodify]
    have hlt : e.2.modifyIndex < m.index + 1 := Nat.lt_succ_of_le (h.ordered e he).2.2
    exact ⟨⟨hne, Nat.ne_of_lt hlt⟩, ⟨hne.symm, (Nat.ne_of_lt hlt).symm⟩⟩

theorem removed (h : m.Kept) (key : String) : (m.removed key).Kept := by
  refine ⟨fun e he => ?_, fun e he => ?_, h.distinct.filter _⟩
  · exact h.own e (List.mem_filter.mp he).1
  · have hordered := h.ordered e (List.mem_filter.mp he).1
    exact ⟨hordered.1, hordered.2.1, Nat.le_succ_of_le hordered.2.2⟩

/-- **Every call keeps the entries so.** -/
theorem serving {c : Served} {m' : Memory} (h : m.Kept) (hc : m.Serving c m') : m'.Kept := by
  cases hc with
  | get | putRefused | deleteRefused | absent => exact h
  | putFailed | setAvailable | failPuts => exact h.congr rfl rfl
  | stored key value => exact h.stored key value
  | removed key => exact h.removed key

theorem served (rs : List Request) : (Memory.empty.acts (actions rs)).Kept :=
  served_induction (P := fun _ m => m.Kept) empty fun _ _ _ _ _ h hc => h.serving hc

end Kept

/-! ### What the store has come to -/

/-- What callers can tell from their calls is what the store holds. -/
structure Tells (cs : List Served) (m : Memory) : Prop where
  available : m.available = isUp true cs
  values : ∀ key, (m.current key).map (·.value) = latest cs key
  puts : m.puts = writes cs
  index : m.index = writes cs + removals cs

namespace Tells

variable {cs : List Served} {m : Memory}

theorem empty : Tells [] .empty := ⟨rfl, fun _ => rfl, rfl, rfl⟩

theorem keep {m' : Memory} {c : Served} (h : Tells cs m)
    (havailable : m'.available = c.switch?.getD m.available) (hentries : m'.entries = m.entries)
    (hindex : m'.index = m.index) (hputs : m'.puts = m.puts)
    (hvalues : ∀ key, (c.change? key).getD (latest cs key) = latest cs key)
    (hwrite : c.isWrite = false) (hremoves : c.removes cs = false) : Tells (cs ++ [c]) m' := by
  refine ⟨?_, fun key => ?_, ?_, ?_⟩
  · rw [isUp_concat, havailable, h.available]
  · rw [latest_concat, hvalues, ← h.values key]
    unfold current
    rw [hentries]
  · rw [writes_concat, hputs, h.puts, hwrite]
    rfl
  · rw [writes_concat, removals_concat, hindex, h.index, hwrite, hremoves]
    rfl

theorem stored (h : Tells cs m) (key : String) (value : Bytes) :
    Tells (cs ++ [.put key value (.ok ())]) (m.stored key value) := by
  refine ⟨?_, fun k => ?_, ?_, ?_⟩
  · rw [isUp_concat]
    exact h.available
  · rw [latest_concat, current_stored, Served.change?]
    by_cases hk : normalKey k = normalKey key
    · simp [hk]
    · rw [if_neg hk, if_neg (Ne.symm hk)]
      exact h.values k
  · rw [writes_concat]
    exact congrArg (· + 1) h.puts
  · have hindex : (m.stored key value).index = m.index + 1 := rfl
    rw [writes_concat, removals_concat, hindex, h.index]
    simp only [Served.isWrite, Served.removes, if_true, Bool.false_eq_true, if_false]
    omega

theorem isSome_latest (h : Tells cs m) (key : String) :
    (latest cs key).isSome = (m.current key).isSome := by
  rw [← h.values key, Option.isSome_map]

theorem absent (h : Tells cs m) {key : String} (hnone : m.current key = none) :
    Tells (cs ++ [.delete key (.ok ())]) m := by
  refine h.keep rfl rfl rfl rfl (fun k => ?_) rfl ?_
  · by_cases hk : normalKey key = normalKey k
    · have hempty : latest cs k = none := by
        rw [← h.values k, ← m.current_congr hk, hnone]
        rfl
      simp [Served.change?, hk, hempty]
    · simp [Served.change?, hk]
  · rw [Served.removes, h.isSome_latest, hnone]
    rfl

theorem removed (h : Tells cs m) {key : String} (hsome : (m.current key).isSome) :
    Tells (cs ++ [.delete key (.ok ())]) (m.removed key) := by
  refine ⟨?_, fun k => ?_, ?_, ?_⟩
  · rw [isUp_concat]
    exact h.available
  · rw [latest_concat, current_removed, Served.change?]
    by_cases hk : normalKey k = normalKey key
    · simp [hk]
    · rw [if_neg hk, if_neg (Ne.symm hk)]
      exact h.values k
  · rw [writes_concat]
    exact h.puts
  · have hindex : (m.removed key).index = m.index + 1 := rfl
    rw [writes_concat, removals_concat, hindex, h.index, Served.removes, h.isSome_latest, hsome]
    simp only [Served.isWrite, Bool.false_eq_true, if_false, if_true]
    omega

/-- **Every call tells what it does.** -/
theorem serving {c : Served} {m' : Memory} (h : Tells cs m) (hc : m.Serving c m') :
    Tells (cs ++ [c]) m' := by
  cases hc with
  | get | putRefused | putFailed | deleteRefused | setAvailable | failPuts =>
    exact h.keep rfl rfl rfl rfl (fun _ => rfl) rfl rfl
  | stored key value => exact h.stored key value
  | absent _ _ hnone => exact h.absent hnone
  | removed _ _ hsome => exact h.removed hsome

/-- Callers can tell what the store holds after all their calls. -/
theorem served (rs : List Request) :
    Tells (Memory.empty.served rs) (Memory.empty.acts (actions rs)) :=
  served_induction empty fun _ _ _ _ _ h hc => h.serving hc

end Tells

/-- **A call that fails** leaves all values and all counts alone. -/
theorem Serving.of_hasFailed {m m' : Memory} {c : Served} (hc : m.Serving c m')
    (h : c.hasFailed = true) : m'.entries = m.entries ∧ m'.index = m.index ∧ m'.puts = m.puts := by
  cases hc with
  | stored | removed => cases h
  | _ => exact ⟨rfl, rfl, rfl⟩

/-! ### Writes that are made to fail -/

/-- The writes that have reached the store, when so many were to fail from the first of them on. -/
structure Failing (n : Nat) (answers : List WriteAnswer) (m : Memory) : Prop where
  left : m.failing = n - answers.length
  answered : ∀ i a, answers[i]? = some a → a = if i < n then .error injected else .ok ()

namespace Failing

variable {n : Nat} {answers : List WriteAnswer} {m : Memory}

theorem concat {m' : Memory} {a : WriteAnswer} (h : Failing n answers m)
    (hleft : m'.failing = m.failing - 1)
    (ha : a = if 0 < m.failing then .error injected else .ok ()) :
    Failing n (answers ++ [a]) m' := by
  have hone := h.left
  refine ⟨?_, fun i b hb => ?_⟩
  · rw [hleft, hone, List.length_append, List.length_singleton]
    omega
  · rcases Nat.lt_trichotomy i answers.length with hi | rfl | hi
    · exact h.answered i b (by rwa [List.getElem?_append_left hi] at hb)
    · rw [List.getElem?_concat_length] at hb
      obtain rfl := Option.some_inj.mp hb
      have hiff : 0 < m.failing ↔ answers.length < n := by omega
      simpa only [hiff] using ha
    · rw [List.getElem?_eq_none (by rw [List.length_append]; exact hi)] at hb
      cases hb

/-- **A call uses up one failure just if it is a write that reaches the store.** -/
theorem serving {c : Served} {m' : Memory} (h : Failing n answers m) (hc : m.Serving c m')
    (hagain : c.isFailPuts = false) :
    Failing n (answers ++ (if m.available then c.putAnswer? else none).toList) m' := by
  have hnone {m' : Memory} (hm' : m'.failing = m.failing) : Failing n (answers ++ []) m' := by
    rw [List.append_nil]
    exact ⟨hm'.trans h.left, h.answered⟩
  cases hc with
  | get | deleteRefused | absent | removed | setAvailable =>
    simp only [Served.putAnswer?, ite_self]
    exact hnone rfl
  | putRefused _ _ hdown =>
    rw [hdown]
    exact hnone rfl
  | putFailed _ _ hup hf =>
    rw [hup]
    exact h.concat rfl (if_pos hf).symm
  | stored _ _ hup hf =>
    rw [hup]
    refine h.concat ?_ ?_
    · exact hf.trans (by rw [hf])
    · rw [hf]
      rfl
  | failPuts => cases hagain

end Failing

theorem Serving.available {m m' : Memory} {c : Served} (hc : m.Serving c m') :
    m'.available = c.switch?.getD m.available := by
  cases hc <;> rfl

/-- Over many calls, the first writes that reach the store fail. -/
theorem failing_served (m : Memory) {rs : List Request}
    (h : ∀ c ∈ m.served rs, c.isFailPuts = false) :
    Failing m.failing (reached m.available (m.served rs)) (m.acts (actions rs)) := by
  refine (served_induction (P := fun cs m' => m'.available = isUp m.available cs ∧
    Failing m.failing (reached m.available cs) m') ⟨rfl, rfl, fun i a ha => by cases ha⟩ ?_).2
  rintro cs c m₁ m₂ hmem ⟨hup, hf⟩ hc
  rw [isUp_concat, reached_concat, ← hup]
  exact ⟨hc.available, hf.serving hc (h c hmem)⟩

/-! ### The contract -/

/-- **Callers can tell what the store does from their own calls.**  After any calls, a read of a key
finds the value of the last write of it that took effect, under whatever spelling, unless a
deletion has taken effect after that; it fails just if the store was made unavailable.  Every entry
stands under its own key and its indexes are in order; the index counts the writes that took effect
and the deletions that removed a value.  A call that fails changes nothing of that.  If `n` writes
are made to fail, these are the next `n` that are made while the store is available. -/
theorem calls_tell_store (rs : List Request) :
    let cs := empty.served rs
    let m := empty.acts (actions rs)
    (∀ key,
      (isUp true cs = true →
        ∃ found, m.read key = .ok found ∧ found.map (·.value) = latest cs key) ∧
      (isUp true cs = false → m.read key = .error unavailable)) ∧
    m.Kept ∧ m.index = writes cs + removals cs ∧ m.puts = writes cs ∧
    (∀ r, (m.serve r).hasFailed →
      (m.acts r.action?.toList).entries = m.entries ∧
        (m.acts r.action?.toList).index = m.index ∧ (m.acts r.action?.toList).puts = m.puts) ∧
    (∀ n rs', (∀ c ∈ (m.failPuts n).served rs', c.isFailPuts = false) →
      ∀ i a, (reached (isUp true cs) ((m.failPuts n).served rs'))[i]? = some a →
        a = if i < n then .error injected else .ok ()) := by
  intro cs m
  have htells : Tells cs m := .served rs
  refine ⟨fun key => ⟨fun hup => ?_, fun hdown => ?_⟩, Kept.served rs, htells.index,
    htells.puts, fun r => (m.serving r).of_hasFailed, fun n rs' hrs' => ?_⟩
  · refine ⟨m.current key, ?_, htells.values key⟩
    rw [Memory.read, htells.available, hup]
    rfl
  · rw [Memory.read, htells.available, hdown]
    rfl
  · rw [← htells.available]
    exact ((m.failPuts n).failing_served hrs').answered

/-- A store that is written under three spellings of a key, in spite of an outage and of a write
that is made to fail, holds what was written last. -/
theorem calls_tell_store_after_outage :
    let rs : List Request := [.act (.put "/app" [1]), .act (.put "app" [2]),
      .act (.setAvailable false), .act (.delete "app"), .act (.setAvailable true),
      .act (.failPuts 1), .act (.put "app" [3]), .act (.put "//app" [4])]
    let rs' : List Request := [.act (.put "app" [5]), .get "app", .act (.put "app" [6])]
    let m := empty.acts (actions rs)
    (∃ found, m.read "///app" = .ok found ∧ found.map (·.value) = some [4]) ∧
      m.index = 3 ∧ m.puts = 3 ∧
      ((m.setAvailable false).acts (Request.act (.put "app" [5])).action?.toList).index = 3 ∧
      (∀ c ∈ (m.failPuts 1).served rs', c.isFailPuts = false) ∧
      ∀ i a, (reached true ((m.failPuts 1).served rs'))[i]? = some a →
        a = if i < 1 then .error injected else .ok () := by
  intro rs rs' m
  obtain ⟨hread, -, hindex, hputs, -, hfail⟩ := calls_tell_store rs
  obtain ⟨-, -, -, -, hfailed, -⟩ := calls_tell_store (rs ++ [.act (.setAvailable false)])
  have hup : isUp true (empty.served rs) = true := by decide +kernel
  have hlatest : latest (empty.served rs) "///app" = some [4] := by decide +kernel
  have hwrites : writes (empty.served rs) = 3 := by decide +kernel
  have hremovals : removals (empty.served rs) = 0 := by decide +kernel
  have hagain : ∀ c ∈ (m.failPuts 1).served rs', c.isFailPuts = false := by decide +kernel
  rw [hwrites, hremovals] at hindex
  rw [hup] at hfail
  obtain ⟨found, hfound, hvalue⟩ := (hread "///app").1 hup
  exact ⟨⟨found, hfound, hvalue.trans hlatest⟩, hindex, hputs.trans hwrites,
    (hfailed (.act (.put "app" [5])) (by decide +kernel)).2.1.trans hindex, hagain,
    hfail 1 rs' hagain⟩

end Memory

end LiveConfig
