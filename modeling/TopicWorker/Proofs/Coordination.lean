import TopicWorker.Proofs.Publications
import TopicWorker.Proofs.Requests
import TopicWorker.Proofs.Rundown
import TopicWorker.Proofs.Startup

/-!
# One shutdown, from the request to its result

A teardown blocks until a shutdown is requested, wherever the request comes from. Then it
publishes the request and that it drains, calls for the stop, calls for the close when the stop
has returned, whatever the stop has returned, and publishes that it is closed when the close has
returned; and with that it returns itself. Its result is the first failure, or else what the stop
has counted.

What is stopped and what is closed may be anything that returns. The calls of given operations
are seen in the trace; those of a receiver and of a link are seen by what these ask of the
broker.

## Main definitions

* `milestones`: what of the trace shows how far a teardown has come.
* `Host`: where a teardown is carried out.
* `Stopper.Ends`, `Closer.Ends`: the turn of a teardown in which its stop, or its close, returns.
* `Teardown.Passage`, `Host.Passage`: what has been passed, by how far the teardown has come.
* `System.Coordinates`: what is said of a teardown in the course of a history.

## Main results

* `rank_teardownResume`: every turn brings a teardown closer to its end.
* `System.coordinated`: every teardown that alone publishes coordinates the shutdown.
-/

namespace TopicWorker

variable {σ τ ρ ρ' : Type}

/-- Whether an event shows how far a teardown has come: a stage that is published, or the call of
a given operation. -/
def Event.isMilestone : Event → Bool
  | .published _ | .stopCalled _ | .closeCalled _ => true
  | _ => false

/-- What of some events shows how far a teardown has come. -/
def milestones (l : List Event) : List Event := l.filter Event.isMilestone

@[simp] theorem milestones_append (l l' : List Event) :
    milestones (l ++ l') = milestones l ++ milestones l' := by
  simp [milestones]

/-- A milestone shows it. -/
theorem milestones_emit (w : World) {e : Event} (he : e.isMilestone = true) :
    milestones (w.emit e).trace = milestones w.trace ++ [e] := by
  rw [World.trace_emit, milestones_append]
  simp [milestones, he]

/-- An entry does not. -/
theorem milestones_log (w : World) (e : LogEntry) :
    milestones (w.log e).trace = milestones w.trace := by
  simp [milestones, Event.isMilestone]

/-- A transition passes one. -/
theorem milestones_transition (w : World) (s : Lifecycle) :
    milestones (w.transition s).trace = milestones w.trace ++ [.published s] :=
  (milestones_log _ _).trans (milestones_emit w rfl)

/-- Every stage is a milestone. -/
theorem stagesIn_milestones (l : List Event) : stagesIn (milestones l) = stagesIn l := by
  induction l with
  | nil => rfl
  | cons e l ih =>
    cases e <;> simp_all [milestones, stagesIn, Event.isMilestone, Event.stage?,
      List.filterMap_cons, List.filter_cons]

/-- A turn that publishes nothing passes no milestone. -/
theorem milestones_of_speaks {t : Turn σ ρ} {pending : σ → Option Pending} {w : World}
    (heard : Option Pending) (h : t.Speaks [] pending w (heard.map Pending.heard).toList) :
    milestones t.1.trace = milestones w.trace := by
  obtain ⟨told, htold, htrace⟩ := h
  have quiet : milestones ((heard.map Pending.heard).toList ++ told ++ t.2.calls pending) = [] := by
    refine List.filter_eq_nil_iff.mpr fun e he => ?_
    rcases List.mem_append.mp he with he | he
    · rcases List.mem_append.mp he with he | he
      · obtain ⟨p, -, rfl⟩ : ∃ p, heard = some p ∧ Pending.heard p = e := by simpa using he
        simp [Pending.heard, Event.isMilestone]
      · have := htold e he
        cases e <;> simp_all [Event.Told, Event.isMilestone]
    · unfold Progress.calls at he
      split at he
      · obtain ⟨p, -, rfl⟩ := by simpa using he
        simp [Event.isMilestone]
      · cases he
      · cases he
  rw [htrace, milestones_append, quiet, List.append_nil]

/-! ## Operations that live -/

/-- Whether an operation has not died. -/
def Progress.Lives : Progress σ ρ → Prop
  | .waiting _ | .finished _ => True
  | .crashed _ => False

/-- An operation lives through an answer that is no crash. -/
theorem lives_resolve {p : Pending} (alive : ∀ payload, p.reply.answer ≠ .crashed payload)
    (w : World) {report : Fault → LogEntry} {onDone : Option String → World → Turn σ ρ}
    {onFault : Fault → World → Turn σ ρ} (hd : ∀ name w', (onDone name w').2.Lives)
    (hf : ∀ fault w', (onFault fault w').2.Lives) :
    (p.resolve w report onDone onFault).2.Lives := by
  cases ha : p.reply.answer with
  | done name =>
    rw [resolve_done ha]
    exact hd _ _
  | refused fault =>
    rw [resolve_refused ha]
    exact hf _ _
  | crashed payload => exact absurd ha (alive payload)

section Operations

variable (w : World)

theorem lives_conclude (failure : Option Failure) : (Closing.conclude failure w).2.Lives := by
  cases failure <;> trivial

theorem lives_closeConnection (l : Nat) (failure : Option Failure) :
    (Closing.closeConnection l failure w).2.Lives := by
  simp only [Closing.closeConnection]
  split
  · trivial
  · exact lives_conclude w failure

theorem lives_closingStart (l : Nat) : (Closing.start l w).2.Lives := by
  unfold Closing.start
  split
  · trivial
  · dsimp only
    split
    · trivial
    · exact lives_closeConnection _ l none

theorem lives_closingResume {s : Closing}
    (alive : ∀ payload, s.pending.reply.answer ≠ .crashed payload) (l : Nat) :
    (s.resume l w).2.Lives := by
  cases s with
  | channel p =>
    exact lives_resolve alive w (fun _ w' => lives_closeConnection _ l none)
      fun _ w' => lives_closeConnection w' l _
  | connection failure p =>
    exact lives_resolve alive w (fun _ w' => lives_conclude _ failure)
      fun _ w' => lives_conclude w' _

theorem lives_stoppingStart (r : Nat) : (Stopping.start r w).2.Lives := by
  cases hj : (w.receiver r).joinable with
  | false =>
    rw [stoppingStart_of_not_joinable hj]
    trivial
  | true => rcases stoppingStart_of_joinable hj with h | h <;> rw [h] <;> trivial

theorem lives_stoppingResume {s : Stopping}
    (alive : ∀ p payload, s.pending? = some p → p.reply.answer ≠ .crashed payload) (r : Nat) :
    (s.resume r w).2.Lives := by
  cases s with
  | cancelling p =>
    simp only [Stopping.resume, Cancelling.answered, resolve_andThen]
    exact lives_resolve (fun payload => alive p payload rfl) w (fun _ _ => trivial)
      fun _ _ => trivial
  | joining =>
    simp only [Stopping.resume, Stopping.joined]
    split <;> trivial

end Operations

/-! ## The stop and the close of a teardown -/

namespace Stopper

/-- What is seen of the call of a stop. -/
def shown : Stopper → List Event
  | receiver _ => []
  | given _ => [.stopCalled .draining]

/-- Whether a given stop returns. -/
def Returning : Stopper → Prop
  | receiver _ => True
  | given op => ∃ result, op.ending = .returned result

/-- A teardown in which the stop is under way. -/
inductive Under (closer : Closer) : Stopper → Teardown → Prop where
  | receiver (r : Nat) (st : Stopping) : Under closer (.receiver r) (.stopping r closer st)
  | given (op : Operation Stats) : Under closer (.given op) (.stoppingGiven op closer)

/-- A turn of a teardown, from the world that it begins in, in which the stop returns. -/
inductive Ends (w : World) : Stopper → Teardown → Except Failure Stats → Prop where
  | starts {r : Nat} {closer : Closer} {result : Except Failure Stats}
    (ends : (Stopping.start r (w.transition .draining)).2 = .finished result) :
    Ends w (.receiver r) (.yielding (.receiver r) closer) result
  | goesOn {r : Nat} {closer : Closer} {st : Stopping} {result : Except Failure Stats}
    (ends : (st.resume r w).2 = .finished result) :
    Ends w (.receiver r) (.stopping r closer st) result
  | given {op : Operation Stats} {closer : Closer} {result : Except Failure Stats}
    (ending : op.ending = .returned result) :
    Ends w (.given op) (.stoppingGiven op closer) result

end Stopper

namespace Closer

/-- What is seen of the call of a close. -/
def shown : Closer → List Event
  | link _ => []
  | given _ => [.closeCalled .draining]

/-- Whether a given close returns. -/
def Returning : Closer → Prop
  | link _ => True
  | given op => ∃ result, op.ending = .returned result

/-- A teardown in which the close is under way, after what the stop has returned. -/
inductive Under (stopped : Except Failure Stats) : Closer → Teardown → Prop where
  | link (l : Nat) (st : Closing) : Under stopped (.link l) (.closing l stopped st)
  | given (op : Operation Unit) : Under stopped (.given op) (.closingGiven op stopped)

/-- A turn of a teardown, from the world that it begins in, in which the close returns. A link that
there is nothing to close of closes in the turn in which the stop returns. -/
inductive Ends (w : World) : Closer → Teardown → Except Failure Unit → Prop where
  | starts {l : Nat} {b : Teardown} {stopped : Except Failure Stats} {w' : World}
    {result : Except Failure Unit} (links : w'.links = w.links)
    (turn : b.resume w =
      (Closing.start l w').andThen (.closing l stopped) (Teardown.closed stopped))
    (ends : (Closing.start l w').2 = .finished result) : Ends w (.link l) b result
  | goesOn {l : Nat} {stopped : Except Failure Stats} {st : Closing} {result : Except Failure Unit}
    (ends : (st.resume l w).2 = .finished result) : Ends w (.link l) (.closing l stopped st) result
  | given {op : Operation Unit} {stopped : Except Failure Stats} {result : Except Failure Unit}
    (ending : op.ending = .returned result) : Ends w (.given op) (.closingGiven op stopped) result

end Closer

/-! ## Passages -/

/-- What has been passed on the way of a teardown, by how far it has come: the stage that is
current, and the milestones. The stop and the close may have returned certain results. -/
inductive Teardown.Passage (stopper : Stopper) (closer : Closer)
    (Stops : Except Failure Stats → Prop) (Closes : Except Failure Unit → Prop) :
    Progress Teardown (Except Failure Stats) → Lifecycle → List Event → Prop where
  | blocked : Passage stopper closer Stops Closes (.waiting (.blocked stopper closer)) .running []
  | yielding : Passage stopper closer Stops Closes (.waiting (.yielding stopper closer))
      .shutdownRequested [.published .shutdownRequested]
  | stopping (b : Teardown) (under : stopper.Under closer b) :
    Passage stopper closer Stops Closes (.waiting b) .draining (drainStages ++ stopper.shown)
  | closing (b : Teardown) (stopped : Except Failure Stats) (stops : Stops stopped)
    (under : closer.Under stopped b) : Passage stopper closer Stops Closes (.waiting b) .draining
      (drainStages ++ stopper.shown ++ closer.shown)
  | returned (stopped : Except Failure Stats) (closed : Except Failure Unit) (stops : Stops stopped)
    (closes : Closes closed) :
    Passage stopper closer Stops Closes (.finished (Teardown.outcome stopped closed)) .closed
      (drainStages ++ stopper.shown ++ closer.shown ++ [.published .closed])

/-- More may have been returned. -/
theorem Teardown.Passage.mono {stopper : Stopper} {closer : Closer}
    {Stops Stops' : Except Failure Stats → Prop} {Closes Closes' : Except Failure Unit → Prop}
    (stops : ∀ result, Stops result → Stops' result)
    (closes : ∀ result, Closes result → Closes' result)
    {p : Progress Teardown (Except Failure Stats)} {stage : Lifecycle} {done : List Event}
    (h : Teardown.Passage stopper closer Stops Closes p stage done) :
    Teardown.Passage stopper closer Stops' Closes' p stage done := by
  cases h with
  | blocked => exact .blocked
  | yielding => exact .yielding
  | stopping b under => exact .stopping b under
  | closing b stopped hstops under => exact .closing b stopped (stops _ hstops) under
  | returned stopped closed hstops hcloses =>
    exact .returned stopped closed (stops _ hstops) (closes _ hcloses)

/-- A turn that begins in a world, after some milestones, and goes on with a passage. -/
def Turn.Passes (passage : Progress σ ρ → Lifecycle → List Event → Prop) (w : World)
    (done : List Event) (t : Turn σ ρ) : Prop :=
  ∃ more, milestones t.1.trace = milestones w.trace ++ more ∧
    passage t.2 t.1.lifecycle (done ++ more)

section Passages

variable {stopper : Stopper} {closer : Closer} {Stops : Except Failure Stats → Prop}
  {Closes : Except Failure Unit → Prop} {w : World} {stopped : Except Failure Stats}

theorem passes_closed (stops : Stops stopped) {result : Except Failure Unit}
    (closes : Closes result) (w : World) : (Teardown.closed stopped result w).Passes
      (Teardown.Passage stopper closer Stops Closes) w
      (drainStages ++ stopper.shown ++ closer.shown) := by
  have hreturned : Teardown.Passage stopper closer Stops Closes
      (.finished (Teardown.outcome stopped result)) .closed
      (drainStages ++ stopper.shown ++ closer.shown ++ [.published .closed]) :=
    .returned stopped result stops closes
  refine ⟨[.published .closed], ?_, ?_⟩
  · simp only [Teardown.closed]
    split
    · exact milestones_transition w .closed
    · exact (milestones_log _ _).trans (milestones_transition w .closed)
  · simp only [Teardown.closed]
    split
    · next f hf => exact hf ▸ hreturned
    · next stats hstats => exact hstats ▸ hreturned

/-- A turn of the close, on the way of the teardown. -/
theorem passes_closing {part : Turn Closing (Except Failure Unit)} {l : Nat} (stops : Stops stopped)
    (kept : milestones part.1.trace = milestones w.trace) (draining : part.1.lifecycle = .draining)
    (lives : part.2.Lives) (closes : ∀ result, part.2 = .finished result → Closes result) :
    (part.andThen (.closing l stopped) (Teardown.closed stopped)).Passes
      (Teardown.Passage stopper (.link l) Stops Closes) w
      (drainStages ++ stopper.shown ++ (Closer.link l).shown) := by
  obtain ⟨w', p⟩ := part
  cases p with
  | waiting st =>
    refine ⟨[], kept.trans (List.append_nil _).symm, ?_⟩
    show Teardown.Passage _ _ _ _ _ w'.lifecycle _
    rw [List.append_nil, show w'.lifecycle = .draining from draining]
    exact .closing _ stopped stops (.link l st)
  | finished result =>
    have hclosed : (Teardown.closed stopped result w').Passes
        (Teardown.Passage stopper (.link l) Stops Closes) w'
        (drainStages ++ stopper.shown ++ (Closer.link l).shown) :=
      passes_closed stops (closes result rfl) w'
    obtain ⟨more, hmore, hpassage⟩ := hclosed
    exact ⟨more, hmore.trans (congrArg (· ++ more) kept), hpassage⟩
  | crashed payload => exact lives.elim

/-- When the stop has returned, a failure of it is told. -/
theorem stopped_told (stopped : Except Failure Stats) (w : World) :
    ∃ w' : World, w'.links = w.links ∧ w'.lifecycle = w.lifecycle ∧
      milestones w'.trace = milestones w.trace ∧
      (∀ l, Teardown.stopped (.link l) stopped w =
        (Closing.start l w').andThen (.closing l stopped) (Teardown.closed stopped)) ∧
      ∀ op, Teardown.stopped (.given op) stopped w =
        (w'.emit (.closeCalled w'.lifecycle), .waiting (.closingGiven op stopped)) := by
  cases stopped with
  | ok stats => exact ⟨w, rfl, rfl, rfl, fun _ => rfl, fun _ => rfl⟩
  | error f => exact ⟨w.log _, rfl, rfl, milestones_log w _, fun _ => rfl, fun _ => rfl⟩

/-- When the stop has returned, the close is called. -/
theorem passes_stopped {b : Teardown} {u v : World} (stops : Stops stopped)
    (kept : milestones w.trace = milestones u.trace) (draining : w.lifecycle = .draining)
    (links : w.links = v.links) (turn : b.resume v = Teardown.stopped closer stopped w)
    (closes : ∀ result, closer.Ends v b result → Closes result) :
    (b.resume v).Passes (Teardown.Passage stopper closer Stops Closes) u
      (drainStages ++ stopper.shown) := by
  obtain ⟨w', hlinks, hlifecycle, hkept, hlink, hgiven⟩ := stopped_told stopped w
  cases closer with
  | link l =>
    rw [turn, hlink, ← List.append_nil (drainStages ++ stopper.shown)]
    refine passes_closing stops ?_ ?_ (lives_closingStart w' l) fun result ends =>
      closes result (.starts (hlinks.trans links) (turn.trans (hlink l)) ends)
    · exact ((milestones_of_speaks none (speaks_closingStart w' l)).trans hkept).trans
        kept
    · exact (keeps_closingStart keptByCalls_lifecycle (fun _ _ => rfl) w' l).trans
        (hlifecycle.trans draining)
  | given op =>
    rw [turn, hgiven, hlifecycle, draining]
    refine ⟨[.closeCalled .draining], ?_, ?_⟩
    · rw [← kept, ← hkept]
      exact milestones_emit w' rfl
    · show Teardown.Passage _ _ _ _ _ w'.lifecycle _
      rw [hlifecycle, draining]
      exact .closing _ stopped stops (.given op)

/-- A turn of the stop, on the way of the teardown. -/
theorem passes_stopping {b : Teardown} {u v : World} {part : Turn Stopping (Except Failure Stats)}
    {r : Nat} (kept : milestones part.1.trace = milestones u.trace)
    (draining : part.1.lifecycle = .draining) (links : part.1.links = v.links)
    (lives : part.2.Lives)
    (turn : b.resume v = part.andThen (.stopping r closer) (Teardown.stopped closer))
    (stops : ∀ result, part.2 = .finished result → Stops result)
    (closes : ∀ result, closer.Ends v b result → Closes result) :
    (b.resume v).Passes (Teardown.Passage (.receiver r) closer Stops Closes) u
      (drainStages ++ (Stopper.receiver r).shown) := by
  obtain ⟨w, p⟩ := part
  cases p with
  | waiting st =>
    rw [turn]
    refine ⟨[], kept.trans (List.append_nil _).symm, ?_⟩
    show Teardown.Passage _ _ _ _ _ w.lifecycle _
    rw [List.append_nil, show w.lifecycle = .draining from draining]
    exact .stopping _ (.receiver r st)
  | finished result => exact passes_stopped (stops result rfl) kept draining links turn closes
  | crashed payload => exact lives.elim

/-- A stage is published before the rest of a turn. -/
theorem Turn.Passes.transition {passage : Progress σ ρ → Lifecycle → List Event → Prop}
    {done : List Event} {t : Turn σ ρ} {s : Lifecycle}
    (h : t.Passes passage (w.transition s) (done ++ [.published s])) : t.Passes passage w done := by
  obtain ⟨more, hmore, hpassage⟩ := h
  refine ⟨.published s :: more, ?_, by simpa using hpassage⟩
  rw [hmore, milestones_transition, List.append_assoc]
  rfl

/-- A teardown goes on on its way, if what it has waited for has returned. -/
theorem passes_teardownResume {Stops' : Except Failure Stats → Prop}
    {Closes' : Except Failure Unit → Prop} {b : Teardown} {done : List Event}
    (stopping : stopper.Returning) (closing : closer.Returning)
    (alive : ∀ p payload, b.pending? = some p → p.reply.answer ≠ .crashed payload)
    (still : ∀ result, Stops result → Stops' result)
    (stops : ∀ result, stopper.Ends w b result → Stops' result)
    (closes : ∀ result, closer.Ends w b result → Closes' result)
    (h : Teardown.Passage stopper closer Stops Closes (.waiting b) w.lifecycle done) :
    (b.resume w).Passes (Teardown.Passage stopper closer Stops' Closes') w done := by
  generalize hlifecycle : w.lifecycle = stage at h
  cases h with
  | blocked =>
    refine ⟨[.published .shutdownRequested], milestones_transition w _, ?_⟩
    exact .yielding
  | yielding =>
    refine Turn.Passes.transition (s := .draining) ?_
    cases stopper with
    | receiver r =>
      show Turn.Passes _ _ drainStages _
      rw [← List.append_nil drainStages]
      refine passes_stopping ?_ ?_ ?_ (lives_stoppingStart (w.transition .draining) r) rfl
        (fun result ends => stops result (.starts ends)) closes
      · exact milestones_of_speaks none (speaks_stoppingStart _ r)
      · exact keeps_stoppingStart keptByCalls_lifecycle (fun _ _ => rfl) _ r
      · exact keeps_stoppingStart keptByCalls_links (fun _ _ => rfl) _ r
    | given op =>
      exact ⟨[.stopCalled .draining], milestones_emit _ rfl, .stopping _ (.given op)⟩
  | stopping b under =>
    cases under with
    | receiver r st =>
      refine passes_stopping ?_ ?_ ?_ (lives_stoppingResume w alive r) rfl
        (fun result ends => stops result (.goesOn ends)) closes
      · exact milestones_of_speaks _ (speaks_stoppingResume w r st)
      · exact (keeps_stoppingResume keptByCalls_lifecycle w r st).trans hlifecycle
      · exact keeps_stoppingResume keptByCalls_links w r st
    | given op =>
      obtain ⟨result, ending⟩ := stopping
      refine passes_stopped (stops result (.given ending)) rfl hlifecycle rfl ?_ closes
      show op.ending.andThen w _ = _
      rw [ending]
      rfl
  | closing b stopped hstops under =>
    cases under with
    | link l st =>
      refine passes_closing (still stopped hstops) ?_ ?_
        (lives_closingResume w (fun payload => alive st.pending payload rfl) l)
        fun result ends => closes result (.goesOn ends)
      · exact milestones_of_speaks (some st.pending) (speaks_closingResume w l st)
      · exact (keeps_closingResume keptByCalls_lifecycle (fun _ _ => rfl) w l st).trans hlifecycle
    | given op =>
      obtain ⟨result, ending⟩ := closing
      have heq : (Teardown.closingGiven op stopped).resume w =
          Teardown.closed stopped result w := by
        show op.ending.andThen w _ = _
        rw [ending]
        rfl
      rw [heq]
      exact passes_closed (still stopped hstops) (closes result (.given ending)) w

end Passages

/-! ## Ranks -/

section Ranks

variable (w : World)

theorem rank_closing (s : Closing) : 0 < s.rank ∧ s.rank ≤ 2 := by
  cases s <;> simp [Closing.rank]

theorem rank_stopping (s : Stopping) : 0 < s.rank ∧ s.rank ≤ 2 := by
  cases s <;> simp [Stopping.rank]

theorem rank_closeConnection (l : Nat) (failure : Option Failure) :
    (Closing.closeConnection l failure w).2.All fun s => s.rank < 2 := by
  simp only [Closing.closeConnection]
  split
  · exact Nat.one_lt_two
  · cases failure <;> trivial

theorem rank_closingResume (l : Nat) (s : Closing) :
    (s.resume l w).2.All fun s' => s'.rank < s.rank := by
  cases s with
  | channel p =>
    exact all_resolve p w (fun _ w' => rank_closeConnection _ l none)
      fun _ w' => rank_closeConnection w' l _
  | connection failure p =>
    refine all_resolve p w (fun _ w' => ?_) fun _ w' => ?_
    · cases failure <;> trivial
    · cases failure <;> trivial

theorem rank_stoppingResume (r : Nat) (s : Stopping) :
    (s.resume r w).2.All fun s' => s'.rank < s.rank := by
  cases s with
  | cancelling p =>
    simp only [Stopping.resume, Cancelling.answered, resolve_andThen]
    exact all_resolve p w (fun _ _ => Nat.one_lt_two) fun _ _ => Nat.one_lt_two
  | joining =>
    simp only [Stopping.resume, Stopping.joined]
    split <;> trivial

theorem rank_stopped (closer : Closer) (result : Except Failure Stats) :
    (Teardown.stopped closer result w).2.All fun s => s.rank ≤ 3 := by
  refine stopped_induction (motive := fun _ t => t.2.All fun b : Teardown => b.rank ≤ 3)
    (fun _ _ _ h => h) (fun w l _ => ?_) (fun _ _ _ => Nat.le_succ 2) w
  exact all_andThen (all_true _) (fun s _ => Nat.succ_le_succ (rank_closing s).2)
    fun r w' => all_closed w' result r

/-- Every turn brings a teardown closer to its end. -/
theorem rank_teardownResume (b : Teardown) :
    (b.resume w).2.All fun b' => b'.rank < b.rank := by
  -- after the stop the rank is that of a close
  have after : ∀ {w' : World} {closer : Closer} {result : Except Failure Stats} {n : Nat}, 3 < n →
      (Teardown.stopped closer result w').2.All fun b' => b'.rank < n := fun hn =>
    (rank_stopped _ _ _).mono fun b' hb => Nat.lt_of_le_of_lt hb hn
  cases b with
  | blocked stopper closer => exact Nat.lt_add_of_pos_right (k := 2) Nat.two_pos
  | yielding stopper closer =>
    cases stopper with
    | receiver r =>
      refine all_andThen (all_true _) (fun s _ => ?_) fun _ _ => after (by simp [Teardown.rank])
      have := (rank_stopping s).2
      simp only [Teardown.rank]
      omega
    | given op => exact (by decide : 4 < 7)
  | stopping r closer s =>
    refine all_andThen (rank_stoppingResume w r s) (fun s' hs => ?_) fun _ _ => after ?_
    · simp only [Teardown.rank]
      omega
    · have := (rank_stopping s).1
      simp only [Teardown.rank]
      omega
  | stoppingGiven op closer => exact fits_ending w op.ending fun _ _ => after (Nat.lt_succ_self 3)
  | closing l stopped s =>
    refine all_andThen (rank_closingResume w l s) (fun s' hs => ?_) fun r w' => all_closed w' _ r
    simp only [Teardown.rank]
    omega
  | closingGiven op stopped => exact fits_ending w op.ending fun r w' => all_closed w' stopped r

end Ranks

/-! ## Where a teardown is carried out -/

/-- Where a teardown is carried out: as a job of its own, by an application, or by an application
of the program. -/
inductive Host where
  | own
  | app (a : AppSetup)
  | program (a : AppSetup) (listener : Nat)

namespace Host

/-- The job that carries out a teardown. -/
def task (b : Teardown) : Host → Task
  | own => .teardown b
  | app a => .app a (.running b)
  | program a listener => .program (.running a listener (.running b))

/-- The turn of the job that a turn of the teardown makes. -/
def turn (part : Turn Teardown (Except Failure Stats)) : Host → Turn Task Outcome
  | own => part.asJob .teardown .stats
  | app a => ended.asJob (.app a) .stats
  | program a listener =>
    ended.andThen (fun s => .program (.running a listener s)) (Task.appEnded listener)
where
  ended : Turn App (Except Failure Stats) :=
    part.andThen .running fun result w => (w, .finished result)

/-- How far the job may have come when the teardown has returned with a result: it has ended with
it, or the program awaits its listener, and ends. -/
inductive Over (result : Except Failure Stats) : Host → Progress Task Outcome → Prop where
  | own : Over result .own (.finished (.ofResult .stats result))
  | app (a : AppSetup) : Over result (.app a) (.finished (.ofResult .stats result))
  | joining (a : AppSetup) (listener : Nat) : Over result (.program a listener)
      (.waiting (.program (.joining listener result)))
  | program (a : AppSetup) (listener : Nat) (o : Outcome) :
    Over result (.program a listener) (.finished o)

/-- What has been passed on the way of a teardown, by how far its job has come. -/
inductive Passage (host : Host) (stopper : Stopper) (closer : Closer)
    (Stops : Except Failure Stats → Prop) (Closes : Except Failure Unit → Prop) :
    Progress Task Outcome → Lifecycle → List Event → Prop where
  | under (b : Teardown) (stage : Lifecycle) (done : List Event)
    (h : Teardown.Passage stopper closer Stops Closes (.waiting b) stage done) :
    Passage host stopper closer Stops Closes (.waiting (host.task b)) stage done
  | returned (p : Progress Task Outcome) (result : Except Failure Stats) (stage : Lifecycle)
    (done : List Event) (h : Teardown.Passage stopper closer Stops Closes (.finished result) stage
      done) (gone : host.Over result p) : Passage host stopper closer Stops Closes p stage done

/-- More may have been returned. -/
theorem Passage.mono {host : Host} {stopper : Stopper} {closer : Closer}
    {Stops Stops' : Except Failure Stats → Prop} {Closes Closes' : Except Failure Unit → Prop}
    (stops : ∀ result, Stops result → Stops' result)
    (closes : ∀ result, Closes result → Closes' result) {p : Progress Task Outcome}
    {stage : Lifecycle} {done : List Event}
    (h : host.Passage stopper closer Stops Closes p stage done) :
    host.Passage stopper closer Stops' Closes' p stage done := by
  cases h with
  | under b stage done hb => exact .under b stage done (hb.mono stops closes)
  | returned p result stage done hresult gone =>
    exact .returned p result stage done (hresult.mono stops closes) gone

variable {host : Host} {b : Teardown}

/-- The job goes on with its teardown. -/
theorem turn_task (s : System) (host : Host) (b : Teardown) :
    s.turn (host.task b) = host.turn (b.resume s.world) := by
  cases host <;> rfl

theorem wait_task (host : Host) (b : Teardown) : (host.task b).wait = b.wait := by
  cases host <;> rfl

theorem pending?_task (host : Host) (b : Teardown) : (host.task b).pending? = b.pending? := by
  cases host <;> rfl

/-- A teardown is carried out in one way. -/
theorem task_inj {b' : Teardown} (h : host.task b = host.task b') : b = b' := by
  cases host <;> cases h <;> rfl

/-- The job passes what the teardown passes. -/
theorem passes_turn {stopper : Stopper} {closer : Closer} {Stops : Except Failure Stats → Prop}
    {Closes : Except Failure Unit → Prop} {w : World} {done : List Event}
    {part : Turn Teardown (Except Failure Stats)}
    (h : part.Passes (Teardown.Passage stopper closer Stops Closes) w done) :
    (host.turn part).Passes (host.Passage stopper closer Stops Closes) w done := by
  obtain ⟨more, hmore, hpassage⟩ := h
  obtain ⟨w', p⟩ := part
  cases p with
  | waiting b =>
    refine ⟨more, ?_, ?_⟩
    · cases host <;> exact hmore
    · have hunder : host.Passage stopper closer Stops Closes (.waiting (host.task b))
          w'.lifecycle (done ++ more) := .under b _ _ hpassage
      cases host <;> exact hunder
  | finished result =>
    refine ⟨more, ?_, ?_⟩
    · cases host <;> exact hmore
    · cases host with
      | own => exact .returned _ result _ _ hpassage .own
      | app a => exact .returned _ result _ _ hpassage (.app a)
      | program a listener => exact .returned _ result _ _ hpassage (.joining a listener)
  | crashed payload => cases hpassage

/-- The job comes closer to its end with the teardown. -/
theorem rank_turn (host : Host) {part : Turn Teardown (Except Failure Stats)}
    (h : part.2.All fun b' => b'.rank < b.rank) :
    System.jobRank (host.turn part).2 < System.jobRank (.waiting (host.task b)) := by
  have hpos : 0 < b.rank := by
    cases b <;> simp [Teardown.rank]
  obtain ⟨w, p⟩ := part
  cases p with
  | waiting b' =>
    have hlt : b'.rank < b.rank := h
    cases host with
    | program a listener => exact Nat.succ_lt_succ hlt
    | _ => exact hlt
  | finished result =>
    cases host with
    | program a listener => exact Nat.succ_lt_succ hpos
    | _ => exact hpos
  | crashed payload =>
    cases host with
    | program a listener => exact Nat.succ_pos _
    | _ => exact hpos

end Host

/-! ## Histories -/

/-- Only a teardown of its own goes on to one. -/
theorem teardown_taskResume (w : World) (t : Task) :
    (t.resume w).2.All fun t' => ∀ b', t' = .teardown b' →
      ∃ b, t = .teardown b ∧ (b.resume w).2 = .waiting b' := by
  cases t with
  | teardown b =>
    refine all_asJob (all_self _) fun b' hb b'' h => ?_
    cases h
    exact ⟨b, rfl, hb⟩
  | opening s => exact all_andThen (all_true _) (fun _ _ _ h => by cases h) fun _ _ => trivial
  | program p =>
    cases p with
    | running a listener s =>
      exact all_andThen (all_true _) (fun _ _ _ h => by cases h) fun _ _ _ h => by cases h
    | joining listener result => exact fun _ h => by cases h
  | _ => exact all_asJob (all_true _) fun _ _ _ h => by cases h

namespace System

/-- In the course of a history a job has taken a turn of its teardown, of some kind. -/
def Took (s : System) (h : List Move) (n : Nat) (host : Host) (kind : World → Teardown → Prop) :
    Prop :=
  ∃ h₁ h₂ b, h = h₁ ++ .act (.job n) :: h₂ ∧
    (s.after h₁).jobs[n]? = some (.waiting (host.task b)) ∧ (s.after h₁).ready b.wait = true ∧
    kind (s.after h₁).world b

/-- What a teardown has passed in the course of a history. -/
def Passed (s : System) (h : List Move) (n : Nat) (host : Host) (stopper : Stopper)
    (closer : Closer) : Progress Task Outcome → Lifecycle → List Event → Prop :=
  host.Passage stopper closer (fun result => s.Took h n host fun w b => stopper.Ends w b result)
    fun result => s.Took h n host fun w b => closer.Ends w b result

/-- A teardown that coordinates the shutdown in the course of a history. -/
structure Coordinates (s : System) (h : List Move) (n : Nat) (host : Host) (stopper : Stopper)
    (closer : Closer) : Prop where
  /-- Unless a shutdown has been requested nothing happens. -/
  idle : (s.after h).world.shutdownRequested = false →
    (s.after h).jobs[n]? = some (.waiting (host.task (.blocked stopper closer))) ∧
      (s.after h).world.lifecycle = .running ∧ eventsBy (.job n) (s.deeds h) = []
  /-- At every moment the stage that is current, and what is seen of the teardown in the trace,
  are those of the way that the teardown has come. -/
  passes : ∃ p, (s.after h).jobs[n]? = some p ∧
    s.Passed h n host stopper closer p (s.after h).world.lifecycle
      (milestones (eventsBy (.job n) (s.deeds h)))
  /-- Once a shutdown has been requested, the teardown waits for nothing but the stop and the
  close. -/
  waits : (s.after h).world.shutdownRequested = true → ∀ b,
    (s.after h).jobs[n]? = some (.waiting (host.task b)) →
      (s.after h).isRunnable (.job n) = true ∨ stopper.Under closer b ∨
        ∃ stopped, closer.Under stopped b
  /-- Every turn brings it closer to its end. -/
  forward : ∀ b u, (s.after h).jobs[n]? = some (.waiting (host.task b)) →
    (s.after h).Takes (.act (.job n)) n u → jobRank u.2 < jobRank (.waiting (host.task b))

variable {s : System} {n : Nat} {host : Host} {stopper : Stopper} {closer : Closer}

/-- Only a teardown of its own goes on to one. -/
theorem teardown_turn (s : System) (t : Task) :
    (s.turn t).2.All fun t' => ∀ b', t' = .teardown b' →
      ∃ b, t = .teardown b ∧ (b.resume s.world).2 = .waiting b' :=
  all_turn s (teardown_taskResume s.world t)

/-- In a turn that publishes nothing the job passes no milestone. -/
theorem Takes.unpublished {m : Move} {u : Turn Task Outcome} (takes : s.Takes m n u)
    (speaks : u.Speaks [] Task.pending? s.world []) :
    milestones (eventsBy (.job n) (s.doing m)) = [] :=
  filter_of_takes takes ((milestones_of_speaks none speaks).trans (List.append_nil _).symm)

/-- A turn that has been taken has been taken. -/
theorem Took.concat {h : List Move} {kind : World → Teardown → Prop} (took : s.Took h n host kind)
    (m : Move) : s.Took (h ++ [m]) n host kind := by
  obtain ⟨h₁, h₂, b, rfl, hb⟩ := took
  exact ⟨h₁, h₂ ++ [m], b, by simp, hb⟩

/-- A teardown that blocks has published nothing. -/
theorem unpublished_of_blocked (hjobs : s.jobs = []) (h : List Move)
    (job : (s.after h).jobs[n]? = some (.waiting (host.task (.blocked stopper closer)))) :
    stagesIn (eventsBy (.job n) (s.deeds h)) = [] := by
  have early : ∀ {t : Task}, (s.after h).jobs[n]? = some (.waiting t) →
      t.app? = some (.running (.blocked stopper closer)) →
      stagesIn (eventsBy (.job n) (s.deeds h)) = [] := by
    intro t job app
    refine List.filterMap_eq_nil_iff.mpr fun e he => ?_
    have := setUp_after hjobs h job app rfl e he
    cases e <;> first | rfl | cases this
  cases host with
  | app a => exact early job rfl
  | program a listener => exact early job rfl
  | own =>
    clear early
    induction h using List.reverseRecOn with
    | nil => rfl
    | append_singleton h m ih =>
      rw [after_concat] at job
      rw [eventsBy_deeds_concat, stagesIn_append]
      -- the turn in which a job is asked for publishes nothing, and is its first one
      have first : ∀ {u : Turn Task Outcome}, (s.after h).Takes m n u →
          u.Speaks [] Task.pending? (s.after h).world [] → (s.after h).jobs[n]? = none →
          stagesIn (eventsBy (.job n) (s.deeds h)) ++
            stagesIn (eventsBy (.job n) ((s.after h).doing m)) = [] := by
        intro u takes speaks absent
        rw [absent_job_after h absent, ← stagesIn_milestones (eventsBy _ ((s.after h).doing m)),
          takes.unpublished speaks]
        rfl
      rcases job_of_move job with ⟨hsame, hno⟩ | ⟨-, hnew⟩ | ⟨u, takes, hu, -⟩
      · rw [ih hsame, doing_of_no_turn hno]
        rfl
      · cases hnew
      · cases takes with
        | @goesOn _ t job₀ ready =>
          have hback := (s.after h).teardown_turn t
          rw [hu] at hback
          obtain ⟨b, rfl, hb⟩ := hback _ rfl
          have hlate := late_teardownResume (s.after h).world b
          rw [hb] at hlate
          cases hlate
        | begins q => exact first (.begins q) (speaks_begin _ q _) (by simp)
        | launches env => exact first (.launches env) ((s.after h).speaks_launchTurn env) (by simp)

/-- A teardown that blocks does nothing unless a shutdown has been requested. -/
theorem idle_after (h : List Move)
    (blocked : s.jobs[n]? = some (.waiting (host.task (.blocked stopper closer))))
    (unrequested : (s.after h).world.shutdownRequested = false) :
    (s.after h).jobs[n]? = some (.waiting (host.task (.blocked stopper closer))) ∧
      eventsBy (.job n) (s.deeds h) = [] := by
  induction h using List.reverseRecOn with
  | nil => exact ⟨blocked, rfl⟩
  | append_singleton h m ih =>
    rw [after_concat] at unrequested ⊢
    have hbefore : (s.after h).world.shutdownRequested = false := by
      cases hr : (s.after h).world.shutdownRequested with
      | false => rfl
      | true => rw [requested_move hr m] at unrequested; cases unrequested
    obtain ⟨job, hnone⟩ := ih hbefore
    rcases move_of_job job m with ⟨hno, hsame⟩ | ⟨t, ht, ready, rfl⟩
    · exact ⟨hsame, by rw [eventsBy_deeds_concat, hnone, doing_of_no_turn hno]; rfl⟩
    · cases ht
      rw [Host.wait_task] at ready
      have hr : (s.after h).world.shutdownRequested = true := ready
      rw [hbefore] at hr
      cases hr

/-- Where a teardown alone publishes, the lifecycle is the stage that it has published last since it
has blocked. -/
theorem lifecycle_of_blocked (setup : Setup) (h : List Move)
    (blocked : (setup.system.after h).jobs[n]? =
      some (.waiting (host.task (.blocked stopper closer)))) (h' : List Move)
    (only : ∀ a stage, (a, .published stage) ∈ setup.system.deeds (h ++ h') → a = .job n) :
    ((setup.system.after h).after h').world.lifecycle =
      (stagesIn (eventsBy (.job n) ((setup.system.after h).deeds h'))).getLast?.getD .running := by
  rw [← after_append, lifecycle_of_only setup (h ++ h') only, deeds_append, eventsBy_append,
    stagesIn_append, unpublished_of_blocked (s := setup.system) rfl h blocked, List.nil_append]

/-- The turn of a job goes on on the way of its teardown, if what this waits for returns. -/
theorem Passed.turn {h : List Move} {t : Task} {done : List Event}
    (job : (s.after h).jobs[n]? = some (.waiting t)) (ready : (s.after h).ready t.wait = true)
    (stopping : stopper.Returning) (closing : closer.Returning)
    (alive : ∀ p payload, t.pending? = some p → p.reply.answer ≠ .crashed payload)
    (passed : s.Passed h n host stopper closer (.waiting t) (s.after h).world.lifecycle done) :
    ((s.after h).turn t).Passes (s.Passed (h ++ [.act (.job n)]) n host stopper closer)
      (s.after h).world done := by
  generalize hlifecycle : (s.after h).world.lifecycle = stage at passed
  cases passed with
  | under b stage done hb =>
    rw [Host.wait_task] at ready
    rw [Host.pending?_task] at alive
    have took : ∀ kind : World → Teardown → Prop, kind (s.after h).world b →
        s.Took (h ++ [.act (.job n)]) n host kind := fun kind hkind =>
      ⟨h, [], b, rfl, job, ready, hkind⟩
    rw [Host.turn_task]
    subst hlifecycle
    exact Host.passes_turn (passes_teardownResume stopping closing alive
      (fun result hstops => hstops.concat _) (fun result ends => took _ ends)
      (fun result ends => took _ ends) hb)
  | returned p result stage done hresult gone =>
    cases gone with
    | joining a listener =>
      obtain ⟨o, ho⟩ := Option.isSome_iff_exists.mp (show ((s.after h).outcome? listener).isSome
        from ready)
      have hturn : (s.after h).turn (.program (.joining listener result)) =
          Program.conclude result o (s.after h).world := by
        simp only [System.turn, ho]
      obtain ⟨o', ho'⟩ := conclude_finished (s.after h).world result o
      rw [hturn]
      refine ⟨[], ?_, ?_⟩
      · rw [List.append_nil]
        exact milestones_of_speaks none (speaks_programConclude _ result o)
      · rw [ho', keeps_programConclude keptByCalls_lifecycle, hlifecycle, List.append_nil]
        exact .returned _ result _ _ (hresult.mono (fun result hstops => hstops.concat _)
          fun result hcloses => hcloses.concat _) (.program a listener o')

/-- A teardown that alone publishes goes on on its way, if what it waits for returns. -/
theorem passes_after (setup : Setup) (h : List Move)
    (blocked : (setup.system.after h).jobs[n]? =
      some (.waiting (host.task (.blocked stopper closer))))
    (stopping : stopper.Returning) (closing : closer.Returning) (h' : List Move)
    (only : ∀ a stage, (a, .published stage) ∈ setup.system.deeds (h ++ h') → a = .job n)
    (alive : ∀ c payload,
      (.job n, .answered c (.crashed payload)) ∉ (setup.system.after h).deeds h') :
    ∃ p, ((setup.system.after h).after h').jobs[n]? = some p ∧
      (setup.system.after h).Passed h' n host stopper closer p
        ((setup.system.after h).after h').world.lifecycle
        (milestones (eventsBy (.job n) ((setup.system.after h).deeds h'))) := by
  induction h' using List.reverseRecOn with
  | nil =>
    refine ⟨_, blocked, ?_⟩
    rw [lifecycle_of_blocked setup h blocked [] only]
    exact .under _ _ _ .blocked
  | append_singleton h' m ih =>
    have only' : ∀ a stage, (a, .published stage) ∈ setup.system.deeds (h ++ h') → a = .job n := by
      intro a stage hmem
      refine only a stage ?_
      rw [← List.append_assoc, deeds_concat]
      exact List.mem_append_left _ hmem
    obtain ⟨p, job, hpassed⟩ := ih only' fun c payload hmem => alive c payload (by
      rw [deeds_concat]
      exact List.mem_append_left _ hmem)
    have hlifecycle := lifecycle_of_blocked setup h blocked _ only
    rw [after_concat] at hlifecycle ⊢
    rw [eventsBy_deeds_concat, milestones_append]
    rw [eventsBy_deeds_concat] at hlifecycle
    rcases move_of_job job m with ⟨hno, hsame⟩ | ⟨t, rfl, ready, rfl⟩
    · refine ⟨p, hsame, ?_⟩
      rw [doing_of_no_turn hno, List.append_nil,
        ← lifecycle_of_blocked setup h blocked _ only'] at hlifecycle
      rw [hlifecycle, doing_of_no_turn hno]
      have hkept := hpassed.mono (fun result hstops => hstops.concat m)
        fun result hcloses => hcloses.concat m
      exact (List.append_nil (milestones _)).symm ▸ hkept
    · have takes := Takes.goesOn job ready
      have heard : ∀ q payload, t.pending? = some q → q.reply.answer ≠ .crashed payload := by
        intro q payload hq hcrashed
        refine alive q.call payload ?_
        have hheard := heard_of_takes job ready hq
        rw [Pending.heard, hcrashed] at hheard
        rw [deeds_concat]
        exact List.mem_append_right _ hheard
      obtain ⟨more, hmore, hpassed'⟩ := hpassed.turn job ready stopping closing heard
      have hdone : milestones (eventsBy (.job n) (((setup.system.after h).after h').doing
          (.act (.job n)))) = more := filter_of_takes takes hmore
      refine ⟨_, takes.turned.job, ?_⟩
      rw [hdone, takes.turned.world]
      exact hpassed'

/-- Once a shutdown has been requested, a teardown waits for nothing but the stop and the close. -/
theorem waits_of_passed {h : List Move} {b : Teardown} {done : List Event}
    (job : (s.after h).jobs[n]? = some (.waiting (host.task b)))
    (passed : s.Passed h n host stopper closer (.waiting (host.task b))
      (s.after h).world.lifecycle done)
    (requested : (s.after h).world.shutdownRequested = true) :
    (s.after h).isRunnable (.job n) = true ∨ stopper.Under closer b ∨
      ∃ stopped, closer.Under stopped b := by
  have runnable : (s.after h).ready b.wait = true → (s.after h).isRunnable (.job n) = true :=
    fun ready => (isRunnable_job _ n).mpr ⟨_, job, (host.wait_task b).symm ▸ ready⟩
  generalize hp : Progress.waiting (host.task b) = p at passed
  generalize (s.after h).world.lifecycle = stage at passed
  cases passed with
  | under b' stage done hb =>
    obtain rfl := Host.task_inj (Progress.waiting.inj hp)
    cases hb with
    | blocked => exact .inl (runnable requested)
    | yielding => exact .inl (runnable rfl)
    | stopping b under => exact .inr (.inl under)
    | closing b stopped hstops under => exact .inr (.inr ⟨stopped, under⟩)
  | returned p result stage done hresult gone =>
    subst hp
    cases gone

/-- Every teardown that alone publishes coordinates the shutdown, if the stop and the close
return. -/
theorem coordinated (setup : Setup) (h : List Move)
    (blocked : (setup.system.after h).jobs[n]? =
      some (.waiting (host.task (.blocked stopper closer))))
    (stopping : stopper.Returning) (closing : closer.Returning) (h' : List Move)
    (only : ∀ a stage, (a, .published stage) ∈ setup.system.deeds (h ++ h') → a = .job n)
    (alive : ∀ c payload,
      (.job n, .answered c (.crashed payload)) ∉ (setup.system.after h).deeds h') :
    (setup.system.after h).Coordinates h' n host stopper closer := by
  have passes := passes_after setup h blocked stopping closing h' only alive
  refine { idle := ?idle, passes := passes, waits := ?waits, forward := ?forward }
  case idle =>
    intro unrequested
    obtain ⟨job, hnone⟩ := idle_after h' blocked unrequested
    refine ⟨job, ?_, hnone⟩
    rw [lifecycle_of_blocked setup h blocked h' only, hnone]
    rfl
  case waits =>
    intro requested b job
    obtain ⟨p, hp, hpassed⟩ := passes
    rw [job, Option.some.injEq] at hp
    exact waits_of_passed job (hp ▸ hpassed) requested
  case forward =>
    intro b u job takes
    cases takes with
    | goesOn job' ready =>
      rw [job, Option.some.injEq, Progress.waiting.injEq] at job'
      rw [← job', Host.turn_task]
      exact host.rank_turn (rank_teardownResume _ b)

/-- A stop that waits for its gate, and then fails. -/
def failingStop : Operation Stats := { gate := some "stop", ending := .returned (.error .internal) }

/-- A close that returns at once. -/
def promptClose : Operation Unit := { ending := .returned (.ok ()) }

/-- A shutdown over the two. -/
def failingHistory : List Move := [.begin (.run 0 (some failingStop) (some promptClose))]

/-- It is requested, and the stop is let go on when it is waited for. -/
def requestHistory : List Move :=
  [.shutdown, .act (.job 0), .act (.job 0), .openGate "stop", .act (.job 0), .act (.job 0)]

/-- A call has been answered by a breakdown. -/
def breaksDown : Event → Bool
  | .answered _ (.crashed _) => true
  | _ => false

theorem coordinated_failingHistory :
    (Setup.system {} |>.after failingHistory).Coordinates requestHistory 0 .own
        (.given failingStop) (.given promptClose) ∧
      (Setup.system {} |>.after (failingHistory ++ requestHistory)).jobs[0]? =
        some (.finished (.failed .internal)) := by
  have own : ((Setup.system {}).deeds (failingHistory ++ requestHistory)).all
      (fun d => d.1 = .job 0) = true := by decide
  have alive : (((Setup.system {}).after failingHistory).deeds requestHistory).all
      (fun d => !breaksDown d.2) = true := by decide
  have stopping : (Stopper.given failingStop).Returning := ⟨_, rfl⟩
  have closing : (Closer.given promptClose).Returning := ⟨_, rfl⟩
  refine ⟨coordinated {} failingHistory rfl stopping closing requestHistory ?_ ?_, rfl⟩
  · exact fun a stage hmem => by simpa using List.all_eq_true.mp own _ hmem
  · exact fun c payload hmem => by
      simpa [breaksDown] using List.all_eq_true.mp alive _ hmem

end System

end TopicWorker
