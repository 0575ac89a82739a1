import TopicWorker.Proofs.Moves

/-!
# What stays as it was set up

Some parts of a world are given once and for all, such as which signals cannot be listened for, or
are changed from outside only, such as which gates are open. No actor changes them: neither a turn
of a job nor a step of a receive loop. A view that sees only such parts is kept by whatever they do.

## Main definitions

* `KeptByJobs`, `KeptByLoops`, `KeptByActors`: a view of a world that is kept by what jobs do, by
  what receive loops do as well, and by whatever actors do.

## Main results

* `System.signalFaults_after`, `System.propagation_after`: what stays as it was set up.
* `System.gates_move`: gates are opened from outside only.
-/

namespace TopicWorker

variable {α : Type}

/-- A view that is kept by what jobs do, for it sees nothing of what they change. -/
structure KeptByJobs (f : World → α) : Prop extends KeptByCalls f where
  links : ∀ (w : World) l, f { w with links := l } = f w
  receivers : ∀ (w : World) l, f { w with receivers := l } = f w
  registrations : ∀ (w : World) n, f { w with registrations := n } = f w
  publish : ∀ (w : World) s, f (w.publish s) = f w
  requestShutdown : ∀ w : World, f w.requestShutdown = f w

/-- A view that is kept by what receive loops do, too. -/
structure KeptByLoops (f : World → α) : Prop extends KeptByJobs f where
  spans : ∀ (w : World) n, f { w with spans := n } = f w

/-- A view that is kept by whatever actors do. -/
structure KeptByActors (f : World → α) : Prop extends KeptByLoops f where
  observers : ∀ (w : World) l, f { w with observers := l } = f w

theorem keptByJobs_signalFaults : KeptByJobs World.signalFaults := by
  constructor
  · exact ⟨fun _ _ => rfl, fun _ _ => rfl, fun _ _ => rfl⟩
  all_goals intros; rfl

theorem keptByJobs_gates : KeptByJobs World.gates := by
  constructor
  · exact ⟨fun _ _ => rfl, fun _ _ => rfl, fun _ _ => rfl⟩
  all_goals intros; rfl

theorem keptByJobs_propagation : KeptByJobs World.propagation := by
  constructor
  · exact ⟨fun _ _ => rfl, fun _ _ => rfl, fun _ _ => rfl⟩
  all_goals intros; rfl

theorem keptByJobs_spans : KeptByJobs World.spans := by
  constructor
  · exact ⟨fun _ _ => rfl, fun _ _ => rfl, fun _ _ => rfl⟩
  all_goals intros; rfl

theorem keptByJobs_observers : KeptByJobs World.observers := by
  constructor
  · exact ⟨fun _ _ => rfl, fun _ _ => rfl, fun _ _ => rfl⟩
  all_goals intros; rfl

theorem keptByLoops_observers : KeptByLoops World.observers :=
  ⟨keptByJobs_observers, fun _ _ => rfl⟩

theorem keptByActors_signalFaults : KeptByActors World.signalFaults :=
  ⟨⟨keptByJobs_signalFaults, fun _ _ => rfl⟩, fun _ _ => rfl⟩

theorem keptByActors_gates : KeptByActors World.gates :=
  ⟨⟨keptByJobs_gates, fun _ _ => rfl⟩, fun _ _ => rfl⟩

theorem keptByActors_propagation : KeptByActors World.propagation :=
  ⟨⟨keptByJobs_propagation, fun _ _ => rfl⟩, fun _ _ => rfl⟩

section Jobs

variable {f : World → α} (hf : KeptByJobs f)

include hf

/-- A registration that succeeds takes the number of a task and opens a receiver. -/
theorem KeptByJobs.opened (w : World) (l : List Receiver) (n : Nat) :
    f { w with receivers := l, nextTask := n } = f w :=
  (hf.receivers { w with nextTask := n } l).trans (hf.nextTask w n)

/-! ## Turns of jobs -/

theorem KeptByJobs.startingResume (w : World) (g : Registration) (s : Starting) :
    f (s.resume g w).1 = f w :=
  keeps_startingResume hf.toKeptByCalls hf.registrations hf.opened w g s

theorem KeptByJobs.teardownResume (w : World) (s : Teardown) : f (s.resume w).1 = f w :=
  keeps_teardownResume hf.toKeptByCalls hf.links hf.receivers hf.publish w s

theorem KeptByJobs.appResume (w : World) (a : AppSetup) (s : App) : f (s.resume a w).1 = f w := by
  cases hup : s.isUp with
  | true =>
    cases s with
    | running s => exact keeps_andThen (hf.teardownResume w s) fun _ _ => rfl
    | _ => cases hup
  | false =>
    exact keeps_appResume hf.toKeptByCalls hf.links hf.registrations w a hup fun l sub st _ =>
      hf.startingResume w _ st

theorem KeptByJobs.taskResume (w : World) (t : Task) : f (t.resume w).1 = f w := by
  cases t with
  | starting g s => exact keeps_asJob (hf.startingResume w g s)
  | teardown s => exact keeps_asJob (hf.teardownResume w s)
  | app a s => exact keeps_asJob (hf.appResume w a s)
  | program p =>
    cases p with
    | running a listener s =>
      exact keeps_andThen (hf.appResume w a s) fun _ w' => hf.requestShutdown w'
    | joining listener result => rfl
  | _ =>
    exact keeps_plainResume hf.toKeptByCalls hf.links w rfl fun s _ =>
      keeps_listeningResume hf.toKeptByCalls hf.requestShutdown w s

theorem KeptByJobs.turn (s : System) (t : Task) : f (s.turn t).1 = f s.world := by
  exact System.turn_induction s (motive := fun u => f u.1 = f s.world) (hf.taskResume s.world t)
    fun _ _ _ _ => keeps_programConclude hf.toKeptByCalls _ _ _

theorem KeptByJobs.launchTurn (s : System) (env : Environment) :
    f (s.launchTurn env).1 = f s.world := by
  simp only [System.launchTurn]
  split
  · exact ((hf.log _ _).trans (hf.log _ _)).trans (hf.log _ _)
  · refine keeps_andThen ?_ fun _ w' => hf.requestShutdown w'
    refine (keeps_appStart hf.toKeptByCalls _ _).trans ?_
    exact ((hf.nextTask _ _).trans (hf.log _ _)).trans (hf.log _ _)

/-- The turn of a job keeps the view. -/
theorem KeptByJobs.takes {s : System} {m : Move} {n : Nat} {u : Turn Task Outcome}
    (takes : s.Takes m n u) : f u.1 = f s.world := by
  cases takes with
  | goesOn job ready => exact hf.turn s _
  | begins q =>
    exact keeps_begin hf.toKeptByCalls hf.registrations _ q _
      (fun _ r _ => keeps_stoppingStart hf.toKeptByCalls hf.receivers _ r)
      fun l _ => keeps_closingStart hf.toKeptByCalls hf.links _ l
  | launches env => exact hf.launchTurn s env

end Jobs

/-! ## Steps of receive loops -/

section Loops

variable {f : World → α}

section KeptByCalls

variable (hf : KeptByCalls f)

include hf

theorem KeptByCalls.logs (l : List LogEntry) (w : World) : f (l.foldl World.log w) = f w := by
  induction l generalizing w with
  | nil => rfl
  | cons e l ih => exact (ih _).trans (hf.log w e)

theorem KeptByCalls.extract (w : World) (h : Headers) : f (w.extract h).1 = f w := by
  unfold World.extract
  split
  · rfl
  · exact ((hf.logs _ _).trans (hf.emit _ _)).trans (hf.logs _ _)

theorem KeptByCalls.processingResume (r : Nat) (mode : AckMode) (s : Processing) (w : World) :
    f (s.resume r mode w).1 = f w := by
  have closing : ∀ {t : Turn Processing (Except Failure Unit)} (span : Nat), f t.1 = f w →
      f (Processing.closing span t).1 = f w := by
    intro t span h
    obtain ⟨w', p⟩ := t
    cases p with
    | crashed payload => exact (hf.emit w' _).trans h
    | _ => exact h
  cases s with
  | handling d span cue =>
    simp only [Processing.resume]
    refine Eq.trans ?_ (hf.emit w (.handled r d cue.result))
    cases cue.result.failure? with
    | none =>
      cases mode with
      | auto => exact ((hf.emit _ _).trans (hf.emit _ _)).trans (hf.log _ _)
      | manual requeue => exact (hf.call _ _).trans (hf.log _ _)
    | some g =>
      have told : ∀ e (w' : World), f (((w'.recordFailure span g).setStatus span e).log
          (failureEntry mode d g)) = f w' := fun e w' =>
        ((hf.log _ _).trans (hf.emit _ _)).trans (hf.emit _ _)
      cases mode with
      | auto => exact (hf.emit _ _).trans (told _ _)
      | manual requeue => exact (hf.call _ _).trans (told _ _)
  | settling d span failure p =>
    cases failure with
    | none =>
      refine closing span
        (keeps_andThen (keeps_ackAnswered hf w d.tag p) fun result w' => ?_)
      cases result with
      | ok => exact (hf.emit _ _).trans (hf.emit _ _)
      | error g => exact ((hf.emit _ _).trans (hf.emit _ _)).trans (hf.emit _ _)
    | some g =>
      refine closing span
        (keeps_andThen (keeps_rejectAnswered hf w d.tag _ p) fun result w' => ?_)
      cases result with
      | ok => exact hf.emit _ _
      | error g' => exact (hf.emit _ _).trans (hf.emit _ _)

end KeptByCalls

theorem KeptByJobs.processed (hf : KeptByJobs f) (w : World) (r : Nat)
    (p : Progress Processing (Except Failure Unit)) : f (w.processed r p) = f w := by
  cases p with
  | finished result => cases result <;> exact hf.receivers w _
  | _ => exact hf.receivers w _

section KeptByLoops

variable (hf : KeptByLoops f)

include hf

theorem KeptByLoops.openSpan (w : World) (d : Delivery) (c : TraceContext) :
    f (w.openSpan d c).1 = f w :=
  (((hf.emit _ _).trans (hf.emit _ _)).trans (hf.emit _ _)).trans (hf.spans w _)

theorem KeptByLoops.processingStart (r : Nat) (kind : HandlerKind) (d : Delivery) (cue : Cue)
    (w : World) : f (Processing.start r kind d cue w).1 = f w := by
  have dispatched : ∀ (w' : World) e e', f w' = f w → f ((w'.log e).emit e') = f w :=
    fun w' e e' h => ((hf.emit _ _).trans (hf.log _ _)).trans h
  have opened := (hf.openSpan (w.extract d.headers).1 d (w.extract d.headers).2).trans
    (hf.extract w d.headers)
  cases kind with
  | logging => exact (hf.log _ _).trans (dispatched _ _ _ opened)
  | cued => exact dispatched _ _ _ opened

theorem KeptByLoops.receive (w : World) (r : Nat) : f (w.receive r) = f w := by
  unfold World.receive
  dsimp only
  split
  · exact (hf.receivers _ _).trans (hf.log _ _)
  · split
    · refine (hf.processed _ r _).trans ((hf.processingStart r _ _ _ _).trans ?_)
      exact (hf.receivers _ _).trans (hf.emit _ _)
    · exact ((hf.log _ _).trans (hf.receivers _ _)).trans (hf.emit _ _)
    · split
      · exact ((hf.receivers _ _).trans (hf.log _ _)).trans (hf.emit _ _)
      · rfl

/-- A step of a receive loop keeps the view. -/
theorem KeptByLoops.runReceiver (w : World) (r : Nat) : f (w.runReceiver r) = f w := by
  unfold World.runReceiver
  dsimp only
  split
  · exact hf.receive w r
  · exact (hf.processed _ r _).trans (hf.processingResume r _ _ w)
  · rfl
  · rfl

end KeptByLoops

end Loops

namespace System

variable {s : System}

/-- What actors do keeps the view. -/
theorem keptByActors_act {f : World → α} (hf : KeptByActors f) (a : Actor) :
    f (s.act a).world = f s.world := by
  by_cases ready : s.isRunnable a = true
  · cases a with
    | job n =>
      obtain ⟨t, job, hready⟩ := (isRunnable_job s n).mp ready
      have takes := Takes.goesOn job hready
      have hworld : (s.act (.job n)).world = (s.turn t).1 := takes.turned.world
      exact hworld ▸ hf.takes takes
    | receiver r =>
      simp only [act, ready, step]
      exact hf.runReceiver s.world r
    | observer i =>
      simp only [act, ready, step]
      exact hf.observers s.world _
  · simp [act, ready]

/-- A move that somebody makes keeps the view. -/
theorem keptByActors_move {f : World → α} (hf : KeptByActors f) {m : Move} {a : Actor}
    (h : s.actorOf m = some a) : f (s.move m).world = f s.world := by
  cases m with
  | act a => exact keptByActors_act hf a
  | begin q =>
    have takes : s.Takes (.begin q) s.jobs.length _ := .begins q
    exact takes.turned.world ▸ hf.takes takes
  | launch env =>
    have takes : s.Takes (.launch env) s.jobs.length _ := .launches env
    exact takes.turned.world ▸ hf.takes takes
  | _ => cases h

section Given

variable {f : World → α} (hf : KeptByActors f)
  (gates : ∀ (w : World) g, f { w with gates := g } = f w)
  (preference : ∀ (w : World) p, f { w with preference := p } = f w)

include hf gates preference

/-- A view that does not see either what is only changed from outside is kept by every move, -/
theorem given_move (m : Move) : f (s.move m).world = f s.world := by
  cases own : s.actorOf m with
  | some a => exact keptByActors_move hf own
  | none =>
    cases m with
    | deliver r item => exact hf.receivers _ _
    | endFeed r => exact hf.receivers _ _
    | setStatus l channel connection => exact hf.links _ _
    | shutdown => exact hf.requestShutdown _
    | subscribe => exact hf.observers _ _
    | openGate name => exact gates _ _
    | learn script => exact hf.script _ _
    | prefer p => exact preference _ _
    | _ => cases own

/-- and by every history. -/
theorem given_after (h : List Move) : f (s.after h).world = f s.world := by
  induction h generalizing s with
  | nil => rfl
  | cons m h ih => exact ih.trans (given_move hf gates preference m)

end Given

/-- A move leaves the faults of the signals as they are. -/
theorem signalFaults_move (m : Move) : (s.move m).world.signalFaults = s.world.signalFaults :=
  given_move keptByActors_signalFaults (fun _ _ => rfl) (fun _ _ => rfl) m

/-- Gates are opened from outside only. -/
theorem gates_move {m : Move} (h : ∀ name, m ≠ .openGate name) :
    (s.move m).world.gates = s.world.gates := by
  cases own : s.actorOf m with
  | some a => exact keptByActors_move keptByActors_gates own
  | none =>
    cases m with
    | openGate name => exact absurd rfl (h name)
    | _ => first | rfl | cases own

/-- The faults of the signals stay as they were set up, -/
theorem signalFaults_after (h : List Move) :
    (s.after h).world.signalFaults = s.world.signalFaults :=
  given_after keptByActors_signalFaults (fun _ _ => rfl) (fun _ _ => rfl) h

/-- and so do the names that a propagator asks for. -/
theorem propagation_after (h : List Move) :
    (s.after h).world.propagation = s.world.propagation :=
  given_after keptByActors_propagation (fun _ _ => rfl) (fun _ _ => rfl) h

end System

end TopicWorker
