import LiveConfig.Proofs.Deliveries
import LiveConfig.Proofs.LoopActions

/-!
How often a watch polls.

A poll is no burden if the store holds it until something changes, or if the watch has rested since
the poll before it.  The loop rests after an answer without an entry, and a poll is held if it has
an index.  But the index zero says not to wait, and it is also what an entry has whose index is
missing.  Main statement: `polls_block_or_rest`, a poll is one or the other unless the answer before
it was an entry with the index zero.  After such an entry the watch polls without end, as
`polls_spin_on_missing_index` shows.
-/

namespace LiveConfig

/-! ### Queries that block -/

/-- Whether a query makes a store hold the request until something changes. -/
def Query.Blocks (q : Query) : Prop := "index" ∈ q.parameters.map (·.1)

theorem Query.blocks_iff (q : Query) : q.Blocks ↔ q.index ≠ 0 := by
  unfold Blocks parameters
  by_cases hindex : q.index = 0 <;> cases hwait : q.wait.isZero <;> simp [hindex]

/-- The store in memory answers at once what does not block. -/
theorem Memory.ask_of_not_blocks (m : Memory) (key : String) {q : Query} (now : Nat)
    (h : ¬ q.Blocks) : m.ask key (some q) now = .answered (m.read key) := by
  have hzero : q.index = 0 := by rwa [q.blocks_iff, not_not] at h
  have hnone : (some q).filter (·.index ≠ 0) = none := by simp [hzero]
  unfold ask
  rw [hnone]

/-! ### Rests between requests -/

def LoopEvent.paces : LoopEvent → Bool
  | request _ _ | rest _ => true
  | _ => false

/-- A rest of some milliseconds has come after the last request. -/
def Rested (ticks : Nat) (es : List LoopEvent) : Prop :=
  (es.filter LoopEvent.paces).getLast? = some (.rest ticks)

section Rested

variable (ticks : Nat) (es : List LoopEvent) {e : LoopEvent}

theorem rested_concat_of_paces (h : e.paces = true) :
    Rested ticks (es ++ [e]) ↔ e = .rest ticks := by
  simp [Rested, h]

theorem rested_concat_of_not_paces (h : e.paces = false) :
    Rested ticks (es ++ [e]) ↔ Rested ticks es := by
  simp [Rested, h]

end Rested

/-- The last answer that a watch has got, its first entry before there is another one. -/
def lastAnswer (first : Pair) (es : List LoopEvent) : ReadAnswer :=
  (answers es).getLastD (.ok (some first))

section LastAnswer

variable (first : Pair) (es : List LoopEvent)

@[simp] theorem lastAnswer_take (a : ReadAnswer) : lastAnswer first (es ++ [.answer a]) = a := by
  simp [lastAnswer, answers, LoopEvent.answer?]

theorem lastAnswer_concat {e : LoopEvent} (h : e.answer? = none) :
    lastAnswer first (es ++ [e]) = lastAnswer first es := by
  simp [lastAnswer, answers, h]

/-- After an answer with an entry, the index of that is the one that is known. -/
theorem indexAfter_of_lastAnswer {key : String} {options : WatchOptions} {n : Nat}
    (h : answeredIndex? (lastAnswer first es) = some n) :
    (Poll.mk key options first.modifyIndex).indexAfter (answers es) = n := by
  unfold lastAnswer at h
  rcases List.eq_nil_or_concat (answers es) with hnil | ⟨as, a, hconcat⟩
  · rw [hnil] at h ⊢
    exact Option.some_inj.mp h
  · rw [hconcat, List.concat_eq_append, List.getLastD_concat] at h
    rw [hconcat, List.concat_eq_append, Poll.indexAfter_concat, h]
    rfl

end LastAnswer

/-! ### The index of the next poll -/

/-- An answer without an entry leads to a rest, and no other does. -/
theorem Poll.reaction_eq_rest_iff {p p' : Poll} {a : ReadAnswer} {r : Reaction}
    (h : p.receive a = (r, p')) : r = .rest ↔ answeredIndex? a = none := by
  have hr : (p.receive a).1 = r := congrArg Prod.fst h
  rw [← hr]
  rcases a with e | _ | e
  · exact ⟨fun _ => rfl, fun _ => rfl⟩
  · exact ⟨fun _ => rfl, fun _ => rfl⟩
  · by_cases hsame : e.modifyIndex = p.lastIndex <;> simp [receive, answeredIndex?, hsame]

theorem Poll.snd_receive (p : Poll) (a : ReadAnswer) :
    (p.receive a).2 = { p with lastIndex := (answeredIndex? a).getD p.lastIndex } := by
  rcases a with e | _ | e
  · rfl
  · rfl
  · by_cases h : e.modifyIndex = p.lastIndex <;> simp [receive, answeredIndex?, h]

namespace LoopTask

/-- The polling that the loop goes on with. -/
def next (t : LoopTask) : Poll :=
  match t.place with
  | .holding a => (t.poll.receive a).2
  | .calling p => p
  | _ => t.poll

theorem next_holding {p p' : Poll} {a : ReadAnswer} {r : Reaction} {s : Bool}
    (h : p.receive a = (r, p')) : (LoopTask.mk p (.holding a) s).next = p' :=
  congrArg Prod.snd h

/-- **What the loop goes on with** has the index of the last entry. -/
theorem Step.next {t t' : LoopTask} {es : List LoopEvent} (h : Step t es t') :
    t'.next = { t.next with lastIndex := t.next.indexAfter (answers es) } := by
  cases h with
  | act h =>
    cases h with
    | take a => exact Poll.snd_receive _ a
    | again h | call h | rest h =>
      rw [next_holding h]
      rfl
    | @heed p place h => cases place <;> first | rfl | cases h
    | _ => rfl
  | stop => rfl

/-- A loop that began with an entry, with what has been seen of it: it goes on with the index of the
last entry, and it has rested since its last request just if the answer to that had no entry. -/
structure Paced (first : Pair) (p : Poll) (log : List LoopEvent) (t : LoopTask) : Prop where
  next : t.next = { p with lastIndex := p.indexAfter (answers log) }
  rests : match t.place with
    | .top | .cleared =>
      Rested p.options.rest.ticks log ↔ answeredIndex? (lastAnswer first log) = none
    | .asking => ¬ Rested p.options.rest.ticks log
    | .holding a => ¬ Rested p.options.rest.ticks log ∧ lastAnswer first log = a
    | .calling _ =>
      ¬ Rested p.options.rest.ticks log ∧ answeredIndex? (lastAnswer first log) ≠ none
    | .resting =>
      Rested p.options.rest.ticks log ∧ answeredIndex? (lastAnswer first log) = none
    | .ended => True

namespace Paced

variable {first : Pair} {p : Poll} {log es : List LoopEvent} {t t' : LoopTask}

theorem start (key : String) (options : WatchOptions) (first : Pair) :
    Paced first ⟨key, options, first.modifyIndex⟩ [] (.start ⟨key, options, first.modifyIndex⟩) :=
  ⟨rfl, by simp [LoopTask.start, Rested, lastAnswer, answers, answeredIndex?]⟩

theorem act (h : Paced first p log t) (hact : Acts t es t') : Paced first p (log ++ es) t' := by
  refine ⟨?_, ?_⟩
  · rw [(Step.act hact).next, h.next, answers_append]
    simp only [Poll.indexAfter, List.foldl_append]
  · have hrests := h.rests
    have hnext := h.next
    cases hact with
    | pass => rwa [List.append_nil]
    | ask =>
      rw [rested_concat_of_paces _ _ rfl]
      exact nofun
    | take a =>
      rw [rested_concat_of_not_paces _ _ rfl]
      exact ⟨hrests, lastAnswer_take first log a⟩
    | @again p₁ p₂ s a hreceive =>
      -- An entry was answered, so the loop goes on without a rest.
      obtain ⟨hnot, hlast⟩ := hrests
      rw [List.append_nil, hlast, ← Poll.reaction_eq_rest_iff hreceive]
      exact iff_of_false hnot nofun
    | @call p₁ p₂ s a v hreceive =>
      obtain ⟨hnot, hlast⟩ := hrests
      rw [rested_concat_of_not_paces _ _ rfl, lastAnswer_concat first log rfl, hlast, Ne,
        ← Poll.reaction_eq_rest_iff hreceive]
      exact ⟨hnot, nofun⟩
    | called =>
      rw [List.append_nil]
      exact iff_of_false hrests.1 hrests.2
    | @rest p₁ p₂ s a hreceive =>
      have hoptions : p₂.options = p.options := by
        rw [next_holding hreceive] at hnext
        rw [hnext]
      rw [rested_concat_of_paces _ _ rfl, lastAnswer_concat first log rfl, hrests.2, hoptions]
      exact ⟨rfl, (Poll.reaction_eq_rest_iff hreceive).mp rfl⟩
    | rise =>
      rw [List.append_nil]
      exact iff_of_true hrests.1 hrests.2
    | leave | heed => trivial

theorem stop (h : Paced first p log t) : Paced first p (log ++ [.stop]) t.stop := by
  have hanswers : answers (log ++ [.stop]) = answers log := by
    rw [answers_append]
    exact List.append_nil _
  refine ⟨?_, ?_⟩
  · rw [hanswers]
    exact h.next
  · rw [rested_concat_of_not_paces _ _ rfl, lastAnswer_concat first log rfl]
    exact h.rests

theorem run (h : Paced first p log t) (hrun : Recorded Step t es t') :
    Paced first p (log ++ es) t' := by
  induction hrun with
  | refl => rwa [List.append_nil]
  | tail _ hstep ih =>
    rw [← List.append_assoc]
    cases hstep with
    | act hact => exact ih.act hact
    | stop => exact ih.stop

end Paced

end LoopTask

/-! ### Every poll -/

open LoopTask in
/-- **A poll of a watch blocks or comes after a rest**, whatever the store answers, unless the
answer before it, or the entry that the watch began with, was an entry with the index zero.  Then it
does neither, and a store in memory would answer it at once. -/
theorem polls_block_or_rest {key : String} {known : Option Bytes} {options : WatchOptions}
    {rs : List Answered} {w : WatchStart}
    (hstart : Recorded Exchange.Step (Exchange.startWatch key known options) rs (.done (.ok w))) :
    ∃ first, rs = [.read key (.ok (some first))] ∧
      ∀ log t, Recorded Step (.start w.poll) log t →
        ∀ before k q after, log = before ++ .request k q :: after →
          k = key ∧ q.wait = options.wait ∧
          (q.Blocks ∨ Rested options.rest.ticks before ↔
            answeredIndex? (lastAnswer first before) ≠ some 0) ∧
          (¬ q.Blocks →
            ∀ (m : Memory) (now : Nat), m.ask key (some q) now = .answered (m.read key)) := by
  obtain ⟨first, rfl, hpoll, -⟩ := Exchange.of_startWatch hstart
  refine ⟨first, rfl, fun log t hrun before k q after hlog => ?_⟩
  rw [hpoll, hlog] at hrun
  obtain ⟨y, y', hbefore, hask, -⟩ := hrun.cut Step.length_le
  have hpaced : Paced first ⟨key, options, first.modifyIndex⟩ before y :=
    (Paced.start key options first).run hbefore
  cases hask with
  | act hact =>
    cases hact
    rename_i p s
    let known := Poll.indexAfter ⟨key, options, first.modifyIndex⟩ (answers before)
    have hp : p = ⟨key, options, known⟩ := hpaced.next
    have hrests : Rested options.rest.ticks before ↔
        answeredIndex? (lastAnswer first before) = none := hpaced.rests
    have hindex : p.query.index = known := congrArg Poll.lastIndex hp
    refine ⟨congrArg Poll.key hp, congrArg (·.options.wait) hp, ?_,
      fun hnot m now => m.ask_of_not_blocks key now hnot⟩
    rw [Query.blocks_iff, hrests, hindex]
    cases hlast : answeredIndex? (lastAnswer first before) with
    | none => simp
    | some n => simp [known, indexAfter_of_lastAnswer first before hlast]

open LoopTask in
/-- A watch whose entry has no index, after the key has gone: its second poll does not block but
comes after a rest. -/
theorem polls_block_or_rest_after_absence :
    let first : Pair := .bare "k"
    let p : Poll := ⟨"k", .usual, 0⟩
    let before := [LoopEvent.request "k" p.query, .answer (.ok none), .rest p.options.rest.ticks]
    ∃ t, Recorded Exchange.Step (Exchange.startWatch "k" none .usual)
        [.read "k" (.ok (some first))] (.done (.ok ⟨p, none⟩)) ∧
      Recorded Step (.start p) (before ++ [.request "k" p.query]) t ∧
      (p.query.Blocks ∨ Rested p.options.rest.ticks before) := by
  intro first p before
  have hstart : Recorded Exchange.Step (Exchange.startWatch "k" none .usual)
      [.read "k" (.ok (some first))] (.done (.ok ⟨p, none⟩)) := .single (.read _)
  have hrest : Recorded Step (.start p) before ⟨p, .resting, false⟩ :=
    ((recorded_ask p).tail (.act (.take (.ok none)))).tail (.act (.rest rfl))
  have hrun := ((hrest.tail (.act .rise)).tail (.act .pass)).tail (.act .ask)
  rw [List.append_nil, List.append_nil] at hrun
  obtain ⟨first', hfirst, hpolls⟩ := polls_block_or_rest hstart
  cases hfirst
  obtain ⟨-, -, hpaced, -⟩ := hpolls _ _ hrun before "k" p.query [] rfl
  exact ⟨_, hstart, hrun, hpaced.mpr nofun⟩

/-- As long as a store answers with the entry that is known, the loop asks again at once. -/
theorem LoopTask.recorded_same_entry {p : Poll} {e : Pair} (h : e.modifyIndex = p.lastIndex)
    (n : Nat) :
    Recorded Step (.start p)
      (List.replicate n [.request p.key p.query, .answer (.ok (some e))]).flatten (.start p) := by
  induction n with
  | zero => exact .refl
  | succ n ih =>
    have hagain : p.receive (.ok (some e)) = (.again, p) := by rw [Poll.receive, if_pos h]
    have hround := ((recorded_ask p).tail (.act (.take (.ok (some e))))).tail (.act (.again hagain))
    rw [List.append_nil] at hround
    rw [List.replicate_succ, List.flatten_cons]
    exact hround.trans ih

open LoopTask in
/-- **An entry whose index is missing makes a watch spin**: however often the store answers with it,
the loop asks again at once, and no poll blocks. -/
theorem polls_spin_on_missing_index :
    ∃ (e : Pair) (w : WatchStart),
      Pair.read? (Utf8.encode "\x7b\"Key\":\"k\"\x7d") = .ok e ∧
      Recorded Exchange.Step (Exchange.startWatch "k" none .usual) [.read "k" (.ok (some e))]
        (.done (.ok w)) ∧
      ¬ w.poll.query.Blocks ∧
      ∀ n, Recorded Step (.start w.poll)
        (List.replicate n [.request "k" w.poll.query, .answer (.ok (some e))]).flatten
        (.start w.poll) := by
  refine ⟨.bare "k", ⟨⟨"k", .usual, 0⟩, none⟩, by rfl, .single (.read _), ?_, fun n => ?_⟩
  · rw [Query.blocks_iff, not_not]
    rfl
  · exact recorded_same_entry rfl n

end LiveConfig
