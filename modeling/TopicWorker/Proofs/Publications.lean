import TopicWorker.Proofs.Following

/-!
# The lifecycle is what has been published last

The lifecycle of a world is a field of it, and a stage that is published is an event of its
trace. No operation changes the one without the other, so what can be read from the trace about
the lifecycle is all there is to say about it.

## Main definitions

* `stagesIn`: the stages that have been published, in order.
* `World.UpToDate`: a world whose lifecycle is the stage that has been published last.

## Main results

* `System.upToDate_after`: every reachable world is up to date.
-/

namespace TopicWorker

variable {σ τ ρ ρ' α : Type}

/-- The stages that have been published, in order. -/
def stagesIn (l : List Event) : List Lifecycle := l.filterMap Event.stage?

@[simp] theorem stagesIn_append (l l' : List Event) :
    stagesIn (l ++ l') = stagesIn l ++ stagesIn l' := by
  simp [stagesIn]

/-- A world whose lifecycle is the stage that has been published last; before any, the worker is
running. -/
def World.UpToDate (w : World) : Prop :=
  w.lifecycle = (stagesIn w.trace).getLast?.getD .running

/-- A lifecycle that has got somewhere has been published. -/
theorem World.UpToDate.published {w : World} (h : w.UpToDate) (ne : w.lifecycle ≠ .running) :
    .published w.lifecycle ∈ w.trace := by
  unfold World.UpToDate at h
  cases hl : (stagesIn w.trace).getLast? with
  | none =>
    rw [hl] at h
    exact absurd h ne
  | some stage =>
    rw [hl] at h
    obtain ⟨e, he, hstage⟩ := List.mem_filterMap.mp (List.mem_of_getLast? hl)
    cases e <;> cases hstage
    rw [h]
    exact he

/-- Where no stage is told, no stage is published. -/
theorem stagesIn_of_told {told : List Event} (h : ∀ e ∈ told, e.Told []) : stagesIn told = [] := by
  refine List.filterMap_eq_nil_iff.mpr fun e he => ?_
  have := h e he
  cases e <;> first | rfl | simp [Event.Told] at this

/-- In an answer that is heard no stage is published. -/
theorem stagesIn_heard (o : Option Pending) : stagesIn (o.map Pending.heard).toList = [] := by
  cases o <;> rfl

section Turns

variable {w : World} {t : Turn σ ρ}

/-- A turn that leaves the lifecycle alone and publishes nothing leaves its world up to date. -/
theorem World.UpToDate.of_quiet (h : w.UpToDate) {pending : σ → Option Pending}
    {heard : List Event} (kept : t.1.lifecycle = w.lifecycle) (silent : stagesIn heard = [])
    (speaks : t.Speaks [] pending w heard) : t.1.UpToDate := by
  obtain ⟨told, htold, htrace⟩ := speaks
  have hcalls : stagesIn (t.2.calls pending) = [] := by
    cases t.2 with
    | waiting s => cases hp : pending s <;> simp [Progress.calls, hp, stagesIn, Event.stage?]
    | _ => rfl
  simp only [World.UpToDate]
  rw [kept, h, htrace, stagesIn_append, stagesIn_append, stagesIn_append, silent,
    stagesIn_of_told htold, hcalls, List.append_nil, List.append_nil, List.append_nil]

/-- What publishes no stage leaves a world up to date. -/
theorem World.UpToDate.emit (h : w.UpToDate) {e : Event} (he : e.stage? = none) :
    (w.emit e).UpToDate := by
  simp only [World.UpToDate]
  rw [World.trace_emit, stagesIn_append]
  exact h.trans (by simp [stagesIn, he])

/-- So does an entry. -/
theorem World.UpToDate.log (h : w.UpToDate) (e : LogEntry) : (w.log e).UpToDate := h.emit rfl

/-- After a transition a world is up to date, whatever it was before. -/
theorem upToDate_transition (w : World) (s : Lifecycle) : (w.transition s).UpToDate := by
  have htrace : stagesIn (w.transition s).trace = stagesIn w.trace ++ [s] := by
    simp [World.transition, World.publish, stagesIn, Event.stage?, List.filterMap_cons]
  simp only [World.UpToDate]
  rw [htrace, List.getLast?_append]
  rfl

/-- An operation leaves a world up to date if both parts of it do. -/
theorem upToDate_andThen {embed : σ → τ} {next : ρ → World → Turn τ ρ'} (ht : t.1.UpToDate)
    (hn : ∀ r w', w'.UpToDate → (next r w').1.UpToDate) : (t.andThen embed next).1.UpToDate := by
  obtain ⟨w', p⟩ := t
  cases p with
  | finished r => exact hn r w' ht
  | _ => exact ht

/-- So does a given operation. -/
theorem upToDate_ending (h : w.UpToDate) (e : Ending α) {next : Except Failure α → World → Turn σ ρ}
    (hn : ∀ r w', w'.UpToDate → (next r w').1.UpToDate) : (e.andThen w next).1.UpToDate := by
  cases e with
  | returned result => exact hn result w h
  | crashed payload => exact h

end Turns

section Operations

variable {w : World}

theorem upToDate_closed (w : World) (stopped : Except Failure Stats)
    (result : Except Failure Unit) :
    (Teardown.closed stopped result w).1.UpToDate := by
  simp only [Teardown.closed]
  split
  · exact upToDate_transition w .closed
  · exact (upToDate_transition w .closed).log _

theorem upToDate_stopped (h : w.UpToDate) (closer : Closer) (result : Except Failure Stats) :
    (Teardown.stopped closer result w).1.UpToDate := by
  refine stopped_induction (motive := fun w t => w.UpToDate → t.1.UpToDate)
    (fun w e _ ht h => ht (h.log e)) (fun w l _ h => ?_) (fun _ _ _ h => h.emit rfl) w h
  exact upToDate_andThen (h.of_quiet (keeps_closingStart keptByCalls_lifecycle (fun _ _ => rfl) w l)
    rfl (speaks_closingStart w l)) fun r w' _ => upToDate_closed w' result r

theorem upToDate_teardownResume (h : w.UpToDate) (s : Teardown) : (s.resume w).1.UpToDate := by
  cases s with
  | blocked stopper closer => exact upToDate_transition w .shutdownRequested
  | yielding stopper closer =>
    have hdraining := upToDate_transition w .draining
    cases stopper with
    | receiver r =>
      exact upToDate_andThen (hdraining.of_quiet
        (keeps_stoppingStart keptByCalls_lifecycle (fun _ _ => rfl) _ r) rfl
        (speaks_stoppingStart _ r)) fun result w' h' => upToDate_stopped h' closer result
    | given op => exact hdraining.emit rfl
  | stopping r closer s =>
    exact upToDate_andThen (h.of_quiet (keeps_stoppingResume keptByCalls_lifecycle w r s)
      (stagesIn_heard _) (speaks_stoppingResume w r s))
      fun result w' h' => upToDate_stopped h' closer result
  | stoppingGiven op closer =>
    exact upToDate_ending h op.ending fun result w' h' => upToDate_stopped h' closer result
  | closing l result s =>
    exact upToDate_andThen (h.of_quiet
      (keeps_closingResume keptByCalls_lifecycle (fun _ _ => rfl) w l s)
      (stagesIn_heard (some s.pending)) (speaks_closingResume w l s))
      fun r w' _ => upToDate_closed w' result r
  | closingGiven op result =>
    exact upToDate_ending h op.ending fun r w' _ => upToDate_closed w' result r

/-- An application that is not up publishes no stage. -/
theorem App.stages_of_down {s : App} (down : s.isUp = false) : s.stages = [] := by
  cases s <;> first | rfl | cases down

theorem upToDate_appResume (h : w.UpToDate) (a : AppSetup) (s : App) :
    (s.resume a w).1.UpToDate := by
  cases hup : s.isUp with
  | true =>
    cases s with
    | running s => exact upToDate_andThen (upToDate_teardownResume h s) fun _ _ h' => h'
    | _ => cases hup
  | false =>
    have speaks := speaks_appResume w a s
    rw [App.stages_of_down hup] at speaks
    refine h.of_quiet ?_ (stagesIn_heard _) speaks
    exact keeps_appResume keptByCalls_lifecycle (fun _ _ => rfl) (fun _ _ => rfl) w a hup
      fun l sub st _ =>
        keeps_startingResume keptByCalls_lifecycle (fun _ _ => rfl) (fun _ _ _ => rfl) w _ st

/-- A job that is no application and not torn down publishes no stage. -/
theorem Task.stages_of_plain {t : Task} (plain : t.isPlain = true) : t.stages = [] := by
  cases t <;> first | rfl | cases plain

theorem upToDate_plainResume (h : w.UpToDate) {t : Task} (plain : t.isPlain = true) :
    (t.resume w).1.UpToDate := by
  have speaks := speaks_taskResume w t
  rw [Task.stages_of_plain plain] at speaks
  exact h.of_quiet (keeps_plainResume keptByCalls_lifecycle (fun _ _ => rfl) w plain fun s _ =>
    keeps_listeningResume keptByCalls_lifecycle (fun _ => rfl) w s) (stagesIn_heard _) speaks

theorem upToDate_taskResume (h : w.UpToDate) (t : Task) : (t.resume w).1.UpToDate := by
  cases t with
  | starting g s =>
    refine h.of_quiet ?_ (stagesIn_heard _) (speaks_taskResume w (.starting g s))
    exact keeps_asJob
      (keeps_startingResume keptByCalls_lifecycle (fun _ _ => rfl) (fun _ _ _ => rfl) w g s)
  | teardown s => exact upToDate_andThen (upToDate_teardownResume h s) fun _ _ h' => h'
  | app a s => exact upToDate_andThen (upToDate_appResume h a s) fun _ _ h' => h'
  | program p =>
    cases p with
    | running a listener s => exact upToDate_andThen (upToDate_appResume h a s) fun _ _ h' => h'
    | joining listener result => exact h
  | _ => exact upToDate_plainResume h rfl

end Operations

namespace System

variable {s : System}

theorem upToDate_turn (h : s.world.UpToDate) (t : Task) : (s.turn t).1.UpToDate :=
  turn_induction s (motive := fun u => u.1.UpToDate) (upToDate_taskResume h t) fun _ _ _ _ =>
    h.of_quiet (keeps_programConclude keptByCalls_lifecycle _ _ _) rfl
      (speaks_programConclude _ _ _)

theorem upToDate_launchTurn (h : s.world.UpToDate) (env : Environment) :
    (s.launchTurn env).1.UpToDate := by
  refine h.of_quiet ?_ rfl (s.speaks_launchTurn env)
  simp only [launchTurn]
  split
  · rfl
  · exact keeps_andThen (f := World.lifecycle) (keeps_appStart keptByCalls_lifecycle _ _)
      fun _ _ => rfl

/-- The turn of a job leaves the world up to date. -/
theorem Takes.upToDate {m : Move} {n : Nat} {u : Turn Task Outcome} (takes : s.Takes m n u)
    (h : s.world.UpToDate) : u.1.UpToDate := by
  cases takes with
  | goesOn job ready => exact upToDate_turn h _
  | begins q =>
    refine h.of_quiet ?_ rfl (speaks_begin s.world q s.handles)
    exact keeps_begin keptByCalls_lifecycle (fun _ _ => rfl) _ q _
      (fun _ r _ => keeps_stoppingStart keptByCalls_lifecycle (fun _ _ => rfl) _ r)
      fun l _ => keeps_closingStart keptByCalls_lifecycle (fun _ _ => rfl) _ l
  | launches env => exact upToDate_launchTurn h env

/-- A move leaves the world up to date. -/
theorem upToDate_move (h : s.world.UpToDate) (m : Move) : (s.move m).world.UpToDate := by
  have kind := s.move_kind m
  generalize s.move m = s' at *
  cases kind with
  | turns takes turned =>
    rw [turned.world]
    exact takes.upToDate h
  | receives ready =>
    obtain ⟨played, v, -, hplays⟩ := plays_of_runnable ready
    obtain ⟨news, htrace, -, hnews⟩ := hplays.trace
    have hnone : stagesIn news = [] :=
      List.filterMap_eq_nil_iff.mpr fun e he => (hnews e he).1
    simp only [World.UpToDate]
    rw [hplays.lifecycle, htrace, stagesIn_append, hnone, List.append_nil]
    exact h
  | outside jobs handles trace lifecycle =>
    simp only [World.UpToDate]
    rw [lifecycle, trace]
    exact h

/-- Every reachable world is up to date. -/
theorem upToDate_after (setup : Setup) (h : List Move) :
    (setup.system.after h).world.UpToDate := by
  induction h using List.reverseRecOn with
  | nil => rfl
  | append_singleton h m ih =>
    rw [after_concat]
    exact upToDate_move ih m

/-- Where one actor alone publishes, the stages that have been published are its own. -/
theorem stagesIn_eventsBy {who : Actor} {deeds : List (Actor × Event)}
    (only : ∀ a stage, (a, .published stage) ∈ deeds → a = who) :
    stagesIn (deeds.map (·.2)) = stagesIn (eventsBy who deeds) := by
  induction deeds with
  | nil => rfl
  | cons d deeds ih =>
    obtain ⟨a, e⟩ := d
    have ih := ih fun a stage hmem => only a stage (List.mem_cons_of_mem _ hmem)
    by_cases ha : a = who
    · subst ha
      simp only [List.map_cons, eventsBy_cons_self, stagesIn, List.filterMap_cons] at ih ⊢
      rw [ih]
    · have hquiet : e.stage? = none := by
        cases e with
        | published stage => exact absurd (only a stage List.mem_cons_self) ha
        | _ => rfl
      rw [eventsBy_cons_of_ne ha, ← ih, List.map_cons, stagesIn, List.filterMap_cons, hquiet]
      rfl

/-- Where one actor alone publishes, the lifecycle is the stage that it has published last. -/
theorem lifecycle_of_only (setup : Setup) (h : List Move) {who : Actor}
    (only : ∀ a stage, (a, .published stage) ∈ setup.system.deeds h → a = who) :
    (setup.system.after h).world.lifecycle =
      (stagesIn (eventsBy who (setup.system.deeds h))).getLast?.getD .running := by
  have hlatest := upToDate_after setup h
  unfold World.UpToDate at hlatest
  rw [hlatest, trace_after, stagesIn_append, stagesIn_eventsBy only]
  rfl

end System

end TopicWorker
