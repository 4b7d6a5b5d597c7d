import LiveConfig.Proofs.Records

/-!
The store in memory, step by step.

A write, a deletion and a waiting read are each one thing for the store, but not for each other:
they are made of steps, between which others act.  An operation wakes those who wait only after it
has taken effect, and a waiting read is woken only if it has registered before that.  `Scene.Step`
says what may happen next around one read.  Main statements: `Scene.reads_ask` and
`Scene.works_act`, a read and an operation that nobody interrupts are made of such steps.
-/

namespace LiveConfig

/-! ### Operations -/

/-- How far an operation on the store has come. -/
inductive Stage where
  | begun
  /-- It has found the store available. -/
  | accepted
  /-- It is not made to fail. -/
  | spared
  /-- It has written its entry. -/
  | written
  /-- It has still to wake those who wait. -/
  | telling
  | over
deriving DecidableEq

/-- An operation on the store, from its beginning on. -/
structure Operation where
  action : Memory.Action
  stage : Stage

namespace Memory

/-- The store after an entry has been written, before the write is counted. -/
def entered (m : Memory) (key : String) (value : Bytes) : Memory :=
  let k := normalKey key
  let p := written k value (m.index + 1) (m.entries.lookup k)
  { m with entries := setEntry k p m.entries, index := m.index + 1 }

def counted (m : Memory) : Memory := { m with puts := m.puts + 1 }

/-- The store without the entry of a key. -/
def without (m : Memory) (key : String) : Memory :=
  if (m.current key).isSome then m.removed key else m

theorem counted_entered (m : Memory) (key : String) (value : Bytes) :
    (m.entered key value).counted = m.stored key value := rfl

theorem current_entered (m : Memory) {key key' : String} (value : Bytes)
    (h : normalKey key' ≠ normalKey key) : (m.entered key value).current key' = m.current key' :=
  (m.current_stored key key' value).trans (if_neg h)

theorem current_without (m : Memory) {key key' : String} (h : normalKey key' ≠ normalKey key) :
    (m.without key).current key' = m.current key' := by
  unfold without
  split
  · exact (m.current_removed key key').trans (if_neg h)
  · rfl

theorem available_without (m : Memory) (key : String) :
    (m.without key).available = m.available := by
  unfold without
  split <;> rfl

theorem indexOf_congr {m m' : Memory} {key : String} (h : m'.current key = m.current key) :
    m'.indexOf key = m.indexOf key := by
  rw [indexOf, indexOf, h]

end Memory

namespace Operation

/-- Whether those who wait have still to be woken, though the operation has taken effect. -/
def owes (o : Operation) : Bool := o.stage = .written || o.stage = .telling

/-- A step of an operation on the store, but for the one in which it wakes those who wait. -/
inductive Does : Memory → Operation → Memory → Operation → Prop
  | refuse {m a} (ha : a.isChange = true) (h : m.available = false) :
      Does m ⟨a, .begun⟩ m ⟨a, .over⟩
  | accept {m a} (ha : a.isChange = true) (h : m.available = true) :
      Does m ⟨a, .begun⟩ m ⟨a, .accepted⟩
  | inject {m key value} (h : 0 < m.failing) :
      Does m ⟨.put key value, .accepted⟩ { m with failing := m.failing - 1 } ⟨.put key value, .over⟩
  | spare {m key value} (h : m.failing = 0) :
      Does m ⟨.put key value, .accepted⟩ m ⟨.put key value, .spared⟩
  | write {m key value} :
      Does m ⟨.put key value, .spared⟩ (m.entered key value) ⟨.put key value, .written⟩
  | count {m key value} :
      Does m ⟨.put key value, .written⟩ m.counted ⟨.put key value, .telling⟩
  | remove {m key} : Does m ⟨.delete key, .accepted⟩ (m.without key) ⟨.delete key, .telling⟩
  | switch {m up} :
      Does m ⟨.setAvailable up, .begun⟩ (m.setAvailable up) ⟨.setAvailable up, .telling⟩
  | fail {m n} : Does m ⟨.failPuts n, .begun⟩ (m.failPuts n) ⟨.failPuts n, .over⟩

variable {m m' : Memory} {o o' : Operation}

theorem Does.action_eq (h : Does m o m' o') : o'.action = o.action := by
  cases h <;> rfl

/-- **What a step can be for those who wait**: after it they have still to be woken, or it has
changed nothing that they look at. -/
theorem Does.cases (h : Does m o m' o') :
    o'.owes = true ∨ o.owes = false ∧ m'.available = m.available ∧ m'.entries = m.entries := by
  cases h with
  | write | count | remove | switch => exact .inl rfl
  | refuse | accept | inject | spare | fail => exact .inr ⟨rfl, rfl, rfl⟩

end Operation

/-! ### A read that waits -/

/-- How far a read has come that waits for a key to change. -/
inductive ReadCall where
  | called
  /-- It has found the store available. -/
  | accepted
  /-- It has a deadline, and looks at the store next. -/
  | looping (w : Waiter)
  /-- It will hear of what is told from now on. -/
  | registered (w : Waiter)
  /-- It has found the store available since then. -/
  | cleared (w : Waiter)
  | parked (w : Waiter)
  | answered (a : ReadAnswer)

namespace ReadCall

/-- Those who have registered hear of what is told. -/
def wake : ReadCall → ReadCall
  | registered w => registered w.wake
  | cleared w => cleared w.wake
  | parked w => parked w.wake
  | c => c

/-- The waiter of a read that has a deadline. -/
def waiter? : ReadCall → Option Waiter
  | looping w | registered w | cleared w | parked w => some w
  | _ => none

/-- A read of which it is known how it stands. -/
def of : Waiting → ReadCall
  | .answered a => answered a
  | .parked w => parked w

/-- A step of a read of a key, on the store at a time. -/
inductive Acts (key : String) (q : Query) (m : Memory) (now : Nat) : ReadCall → ReadCall → Prop
  | refuse (h : m.available = false) :
      Acts key q m now .called (.answered (.error Memory.unavailable))
  | accept (h : m.available = true) : Acts key q m now .called .accepted
  | plain (h : q.index = 0) : Acts key q m now .accepted (.answered (.ok (m.current key)))
  | enter (h : q.index ≠ 0) :
      Acts key q m now .accepted (.looping ⟨key, q.index, now + q.patience.ticks, none, true⟩)
  | register {w} : Acts key q m now (.looping w) (.registered { w with woken := false })
  | fail {w} (h : m.available = false) :
      Acts key q m now (.registered w) (.answered (.error Memory.unavailable))
  | clear {w} (h : m.available = true) : Acts key q m now (.registered w) (.cleared w)
  | find {w} (h : m.indexOf w.key ≠ w.index) :
      Acts key q m now (.cleared w) (.answered (.ok (m.current w.key)))
  | park {w} (h : m.indexOf w.key = w.index) :
      Acts key q m now (.cleared w) (.parked { w with seen := m.current w.key })
  | rise {w} (h : w.woken = true) : Acts key q m now (.parked w) (.looping w)
  | expire {w} (h : w.deadline ≤ now) : Acts key q m now (.parked w) (.answered (.ok w.seen))

end ReadCall

/-- A store with the operations on it and a read. -/
structure Scene where
  memory : Memory
  now : Nat
  /-- All operations that have begun. -/
  operations : List Operation
  call : ReadCall

namespace Scene

/-- A step of anybody: time passes, an operation begins, takes a step or wakes the read, or the read
takes a step. -/
inductive Step (key : String) (q : Query) : Scene → Scene → Prop
  | tick {m t os c} : Step key q ⟨m, t, os, c⟩ ⟨m, t + 1, os, c⟩
  | begin {m t os c} (a : Memory.Action) :
      Step key q ⟨m, t, os, c⟩ ⟨m, t, os ++ [⟨a, .begun⟩], c⟩
  | operate {m m' t os o o' os' c} (h : Operation.Does m o m' o') :
      Step key q ⟨m, t, os ++ o :: os', c⟩ ⟨m', t, os ++ o' :: os', c⟩
  | tell {m t os a os' c} :
      Step key q ⟨m, t, os ++ ⟨a, .telling⟩ :: os', c⟩ ⟨m, t, os ++ ⟨a, .over⟩ :: os', c.wake⟩
  | act {m t os c c'} (h : c.Acts key q m t c') : Step key q ⟨m, t, os, c⟩ ⟨m, t, os, c'⟩

/-- A step, with the scene before it as its record. -/
inductive Moves (key : String) (q : Query) : Scene → List Scene → Scene → Prop
  | step {x y} (h : Step key q x y) : Moves key q x [x] y

/-! ### Without interruption -/

section Alone

variable {key : String} {q : Query} {m : Memory} {now : Nat} {os : List Operation} {c c' : ReadCall}

/-- Only the read takes steps. -/
def Reads (key : String) (q : Query) (m : Memory) (now : Nat) (os : List Operation)
    (c c' : ReadCall) : Prop :=
  ∃ ys, Recorded (Moves key q) ⟨m, now, os, c⟩ ys ⟨m, now, os, c'⟩

theorem Reads.tail {c'' : ReadCall} (h : Reads key q m now os c c') (h' : c'.Acts key q m now c'') :
    Reads key q m now os c c'' := by
  obtain ⟨ys, hrun⟩ := h
  exact ⟨_, hrun.tail (.step (.act h'))⟩

/-- A read that looks at the store goes on as its waiter does. -/
theorem Reads.resume {w : Waiter} (h : Reads key q m now os c (.looping w)) (hw : w.woken = true) :
    Reads key q m now os c (.of (w.resume m now)) := by
  have hregistered := h.tail .register
  unfold Waiter.resume Waiter.look
  rw [if_pos hw]
  cases ha : m.available with
  | false => exact hregistered.tail (.fail ha)
  | true =>
    have hcleared := hregistered.tail (.clear ha)
    by_cases hindex : m.indexOf w.key = w.index
    · have hparked := hcleared.tail (.park hindex)
      by_cases hdeadline : w.deadline ≤ now
      · simpa [hindex, hdeadline, ReadCall.of] using hparked.tail (.expire hdeadline)
      · simpa [hindex, hdeadline, ReadCall.of] using hparked
    · simpa [hindex, ReadCall.of] using hcleared.tail (.find hindex)

/-- **A parked read** goes on as its waiter does. -/
theorem reads_resume (key : String) (q : Query) (m : Memory) (now : Nat) (os : List Operation)
    (w : Waiter) : Reads key q m now os (.parked w) (.of (w.resume m now)) := by
  have hparked : Reads key q m now os (.parked w) (.parked w) := ⟨[], .refl⟩
  cases hw : w.woken with
  | true => exact (hparked.tail (.rise hw)).resume hw
  | false =>
    unfold Waiter.resume
    rw [hw]
    by_cases hdeadline : w.deadline ≤ now
    · simpa [hdeadline, ReadCall.of] using hparked.tail (.expire hdeadline)
    · simpa [hdeadline, ReadCall.of] using hparked

/-- **A read by itself** comes to what the store says of it. -/
theorem reads_ask (key : String) (q : Query) (m : Memory) (now : Nat) (os : List Operation) :
    Reads key q m now os .called (.of (m.ask key (some q) now)) := by
  have hcalled : Reads key q m now os .called .called := ⟨[], .refl⟩
  unfold Memory.ask
  rw [Option.filter_some]
  cases ha : m.available with
  | false =>
    have hrefused := hcalled.tail (.refuse ha)
    by_cases hq : q.index = 0
    · simpa [hq, Memory.read, ha, ReadCall.of] using hrefused
    · simpa [hq, Waiter.resume, Waiter.look, ha, ReadCall.of] using hrefused
  | true =>
    have haccepted := hcalled.tail (.accept ha)
    by_cases hq : q.index = 0
    · simpa [hq, Memory.read, ha, ReadCall.of] using haccepted.tail (.plain hq)
    · simpa [hq] using (haccepted.tail (.enter hq)).resume rfl

/-- Only the operation takes steps that has begun last, until it is over. -/
def Works (key : String) (q : Query) (m m' : Memory) (now : Nat) (os : List Operation)
    (o o' : Operation) (c c' : ReadCall) : Prop :=
  ∃ ys, Recorded (Moves key q) ⟨m, now, os ++ [o], c⟩ ys ⟨m', now, os ++ [o'], c'⟩

section Works

variable {m' m'' : Memory} {o o' o'' : Operation} {a : Memory.Action}

theorem Works.operate (h : Works key q m m' now os o o' c c') (h' : Operation.Does m' o' m'' o'') :
    Works key q m m'' now os o o'' c c' := by
  obtain ⟨ys, hrun⟩ := h
  exact ⟨_, hrun.tail (.step (.operate h'))⟩

theorem Works.tell (h : Works key q m m' now os o ⟨a, .telling⟩ c c') :
    Works key q m m' now os o ⟨a, .over⟩ c c'.wake := by
  obtain ⟨ys, hrun⟩ := h
  exact ⟨_, hrun.tail (.step .tell)⟩

end Works

/-- **An operation by itself** makes of the store what the action does, and wakes the read unless it
has been refused. -/
theorem works_act (key : String) (q : Query) (m : Memory) (now : Nat) (os : List Operation)
    (a : Memory.Action) (c : ReadCall) :
    ∃ c', (c' = c ∨ c' = c.wake) ∧
      Works key q m (m.act a) now os ⟨a, .begun⟩ ⟨a, .over⟩ c c' := by
  have hbegun : Works key q m m now os ⟨a, .begun⟩ ⟨a, .begun⟩ c c := ⟨[], .refl⟩
  cases a with
  | setAvailable up => exact ⟨_, .inr rfl, (hbegun.operate .switch).tell⟩
  | failPuts n => exact ⟨_, .inl rfl, hbegun.operate .fail⟩
  | put k v =>
    rw [Memory.act]
    rcases m.put_cases k v with ⟨ha, h⟩ | ⟨ha, hf, h⟩ | ⟨ha, hf, h⟩ <;> rw [h]
    · exact ⟨_, .inl rfl, hbegun.operate (.refuse rfl ha)⟩
    · exact ⟨_, .inl rfl, (hbegun.operate (.accept rfl ha)).operate (.inject hf)⟩
    · have hspared := (hbegun.operate (.accept rfl ha)).operate (.spare hf)
      rw [← m.counted_entered k v]
      exact ⟨_, .inr rfl, ((hspared.operate .write).operate .count).tell⟩
  | delete k =>
    rw [Memory.act]
    rcases m.delete_cases k with ⟨ha, h⟩ | ⟨ha, hnone, h⟩ | ⟨ha, hsome, h⟩ <;> rw [h]
    · exact ⟨_, .inl rfl, hbegun.operate (.refuse rfl ha)⟩
    · have hremoved := ((hbegun.operate (.accept rfl ha)).operate .remove).tell
      rw [Memory.without, hnone] at hremoved
      exact ⟨_, .inr rfl, hremoved⟩
    · have hremoved := ((hbegun.operate (.accept rfl ha)).operate .remove).tell
      rw [Memory.without, if_pos hsome] at hremoved
      exact ⟨_, .inr rfl, hremoved⟩

end Alone

end Scene

end LiveConfig
