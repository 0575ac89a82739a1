import TopicWorker.Proofs.Frame
import TopicWorker.Proofs.Stages

/-!
# What a move can be

A move of a system is one of three things: a turn of a job, which may have been asked for just
now, a step of a receive loop, or something that comes from outside and concerns no job. The
inversion theorem `System.move_kind` says so once and with everything that the later proofs
need: which job, which turn, and what becomes of the jobs, the handles and the receivers.

## Main definitions

* `System.turn`, `System.launchTurn`: the turn of a job under way, and the first turn of the
  program.
* `System.Turned`, `System.MoveKind`: what a move does, by kind.
* `System.stopCall?`: the receiver whose stop a move calls.

## Main results

* `System.move_kind`: every move is of one of the kinds.
* `System.turn_induction`: a turn is what a job does by itself, or the end of the program.
* `System.Takes.speaks`, `System.Takes.fits`, `System.Takes.receivers`: what the turn of a job
  adds to the trace, where it leaves the job, and what it does to the receivers.
* `System.job_of_move`: where a job stands after a move.
-/

namespace TopicWorker

namespace System

/-- The turn of a job that goes on. -/
def turn (s : System) : Task → Turn Task Outcome
  | .program (.joining listener result) =>
    match s.outcome? listener with
    | some o => Program.conclude result o s.world
    | none => (s.world, .waiting (.program (.joining listener result)))
  | t => t.resume s.world

/-- The first turn of the program. -/
def launchTurn (s : System) (env : Environment) : Turn Task Outcome :=
  let w := s.world.log (programEntry .info "starting topic consumer...")
  match Config.load env.lookup with
  | .error problem =>
    ((w.log problem.entry).log (programEntry .error "invalid configuration"
      [("error", .text problem.failure.message)]), .finished (.ok (.exit 1)))
  | .ok config =>
    let w := w.log (programEntry .info "configuration loaded"
      [("name", .text config.name), ("endpoint", .plain config.endpoint.shape)])
    let listener := s.jobs.length + 1
    let a : AppSetup := { config, kind := .logging }
    (App.start a { w with nextTask := w.nextTask + 1 }).andThen
      (fun t => .program (.running a listener t)) (Task.appEnded listener)

/-- What the turn of a job makes of a system: its own entry and the handles change, and
nothing else does, except that the program brings a listener along. -/
structure Turned (s : System) (n : Nat) (t : Turn Task Outcome) (s' : System) : Prop where
  world : s'.world = t.1
  job : s'.jobs[n]? = some t.2
  others : ∀ j, j ≠ n → s'.jobs[j]? = s.jobs[j]? ∨
    (s.jobs[j]? = none ∧ s'.jobs[j]? = some (.waiting (.listening .fresh)))
  handles : s'.handles = match t.2 with
    | .finished o => s.handles.gain o
    | _ => s.handles

/-- The receivers of a world after something has come from outside. -/
def arranged (w : World) : Move → List Receiver
  | .deliver r item => (w.deliver r item).receivers
  | .endFeed r => (w.endFeed r).receivers
  | _ => w.receivers

/-- The links of a world after something has come from outside. -/
def relinked (w : World) : Move → List Link
  | .setStatus l channel connection =>
    (w.modifyLink l fun v => { v with channelUp := channel, connectionUp := connection }).links
  | _ => w.links

/-- The receiver whose stop a move calls. -/
def stopCall? (s : System) : Move → Option Nat
  | .begin q => q.stopCall? s.handles
  | .act (.job n) =>
    match s.jobs[n]? with
    | some (.waiting t) => if s.ready t.wait then t.stopCall? else none
    | _ => none
  | _ => none

/-- The turn of a job that a move is: of one that goes on, or of one that is asked for. -/
inductive Takes (s : System) : Move → Nat → Turn Task Outcome → Prop where
  | goesOn {n : Nat} {t : Task} (job : s.jobs[n]? = some (.waiting t))
    (ready : s.ready t.wait = true) : Takes s (.act (.job n)) n (s.turn t)
  | begins (q : Request) : Takes s (.begin q) s.jobs.length (q.begin s.handles s.world)
  | launches (env : Environment) : Takes s (.launch env) s.jobs.length (s.launchTurn env)

/-- What a move of a system can be, and what comes of it. -/
inductive MoveKind (s : System) : Move → System → Prop where
  /-- A job takes a turn. -/
  | turns {m : Move} {n : Nat} {t : Turn Task Outcome} {s' : System} (takes : s.Takes m n t)
    (turned : s.Turned n t s') : MoveKind s m s'
  /-- A receive loop goes on. -/
  | receives {r : Nat} (ready : s.isRunnable (.receiver r) = true) :
    MoveKind s (.act (.receiver r)) { s with world := s.world.runReceiver r }
  /-- Something comes from outside, or nothing happens. -/
  | outside {m : Move} {s' : System} (jobs : s'.jobs = s.jobs) (handles : s'.handles = s.handles)
    (trace : s'.world.trace = s.world.trace) (lifecycle : s'.world.lifecycle = s.world.lifecycle)
    (registrations : s'.world.registrations = s.world.registrations)
    (receivers : s'.world.receivers = arranged s.world m) (uncalled : s.stopCall? m = none)
    (links : s'.world.links = relinked s.world m) :
    MoveKind s m s'

/-- A job's turn takes its place among the jobs. -/
theorem turned_settleJob {s : System} {n : Nat} {p : Progress Task Outcome}
    (h : s.jobs[n]? = some p) (t : Turn Task Outcome) : s.Turned n t (s.settleJob n t) where
  world := rfl
  job := by
    have hn : n < s.jobs.length := (List.getElem?_eq_some_iff.mp h).1
    simp [settleJob, hn]
  others := by
    intro j hj
    simp [settleJob, List.getElem?_set_ne (Ne.symm hj)]
  handles := rfl

/-- A new job takes the place behind all others. -/
theorem turned_addJob (s : System) (t : Turn Task Outcome) :
    s.Turned s.jobs.length t (s.addJob t) where
  world := rfl
  job := by simp [addJob, settleJob]
  others := by
    intro j hj
    left
    simp only [addJob, settleJob]
    rw [List.getElem?_set_ne (Ne.symm hj)]
    by_cases hlt : j < s.jobs.length
    · exact List.getElem?_append_left hlt
    · rw [List.getElem?_eq_none (by simp; omega), List.getElem?_eq_none (by omega)]
  handles := rfl

/-- A listener that is brought along takes the place behind the new job. -/
theorem Turned.withListener {s s' : System} {t : Turn Task Outcome}
    (h : s.Turned s.jobs.length t s') (hl : s'.jobs.length = s.jobs.length + 1) :
    s.Turned s.jobs.length t { s' with jobs := s'.jobs ++ [.waiting (.listening .fresh)] } where
  world := h.world
  job := by
    rw [← h.job]
    exact List.getElem?_append_left (by omega)
  others := by
    intro j hj
    by_cases hlt : j < s'.jobs.length
    · rw [List.getElem?_append_left hlt]
      exact h.others j hj
    · have hnone : s.jobs[j]? = none := List.getElem?_eq_none (by omega)
      rw [hnone]
      by_cases heq : j = s'.jobs.length
      · subst heq
        exact .inr ⟨rfl, by simp⟩
      · exact .inl (List.getElem?_eq_none (by simp; omega))
  handles := h.handles

/-- The program takes the place behind all others, and its listener the one behind it. -/
theorem turned_launch (s : System) (env : Environment) :
    s.Turned s.jobs.length (s.launchTurn env) (s.launch env) := by
  simp only [launchTurn, launch]
  cases Config.load env.lookup with
  | error problem => exact turned_addJob s _
  | ok config => exact (turned_addJob s _).withListener (by simp [addJob, settleJob])

/-- A job that goes on takes a turn. -/
theorem turned_stepJob {s : System} {n : Nat} {t : Task} (h : s.jobs[n]? = some (.waiting t))
    (ready : s.ready t.wait = true) : s.Turned n (s.turn t) (s.stepJob n t) := by
  cases t with
  | program p =>
    cases p with
    | running a listener b => exact turned_settleJob h _
    | joining listener result =>
      have hready : (s.outcome? listener).isSome = true := ready
      obtain ⟨o, ho⟩ := Option.isSome_iff_exists.mp hready
      simp only [stepJob, turn, ho]
      exact turned_settleJob h _
  | _ => exact turned_settleJob h _

/-! ## Every move is of one of the kinds -/

/-- What an actor waits for is what makes it runnable. -/
theorem isRunnable_job (s : System) (n : Nat) : s.isRunnable (.job n) = true ↔
    ∃ t, s.jobs[n]? = some (.waiting t) ∧ s.ready t.wait = true := by
  cases h : s.jobs[n]? with
  | none => simp [isRunnable, waitOf, h]
  | some p => cases p <;> simp [isRunnable, waitOf, h]

/-- Who may not go on calls for nothing. -/
theorem stopCall?_of_not_runnable {s : System} {a : Actor} (h : ¬ s.isRunnable a = true) :
    s.stopCall? (.act a) = none := by
  cases a with
  | job n =>
    cases hj : s.jobs[n]? with
    | none => simp [stopCall?, hj]
    | some p =>
      cases p with
      | waiting t =>
        have hready : ¬ s.ready t.wait = true := fun hr => h ((isRunnable_job s n).mpr ⟨t, hj, hr⟩)
        simp [stopCall?, hj, hready]
      | finished o => simp [stopCall?, hj]
      | crashed payload => simp [stopCall?, hj]
  | receiver r => rfl
  | observer i => rfl

/-- A turn of a job is taken in by the system. -/
theorem Takes.turned {s : System} {m : Move} {n : Nat} {t : Turn Task Outcome}
    (h : s.Takes m n t) : s.Turned n t (s.move m) := by
  cases h with
  | @goesOn _ task job ready =>
    have hr : s.isRunnable (.job n) = true := (isRunnable_job s n).mpr ⟨task, job, ready⟩
    have hmove : s.move (.act (.job n)) = s.stepJob n task := by simp [move, act, step, hr, job]
    rw [hmove]
    exact turned_stepJob job ready
  | begins q => exact turned_addJob s _
  | launches env => exact turned_launch s env

theorem move_kind (s : System) (m : Move) : s.MoveKind m (s.move m) := by
  cases m with
  | act a =>
    by_cases hr : s.isRunnable a = true
    · cases a with
      | job n =>
        obtain ⟨t, hjob, ready⟩ := (isRunnable_job s n).mp hr
        exact .turns (.goesOn hjob ready) (Takes.turned (.goesOn hjob ready))
      | receiver r =>
        have hmove : s.move (.act (.receiver r)) = { s with world := s.world.runReceiver r } := by
          simp [move, act, step, hr]
        rw [hmove]
        exact .receives hr
      | observer i =>
        have hmove : s.move (.act (.observer i)) = { s with world := s.world.observe i } := by
          simp [move, act, step, hr]
        rw [hmove]
        exact .outside rfl rfl rfl rfl rfl rfl rfl rfl
    · have hmove : s.move (.act a) = s := by simp [move, act, hr]
      rw [hmove]
      exact .outside rfl rfl rfl rfl rfl rfl (stopCall?_of_not_runnable hr) rfl
  | begin q => exact .turns (.begins q) (Takes.turned (.begins q))
  | launch env => exact .turns (.launches env) (Takes.turned (.launches env))
  | deliver r item => exact .outside rfl rfl rfl rfl rfl rfl rfl rfl
  | endFeed r => exact .outside rfl rfl rfl rfl rfl rfl rfl rfl
  | setStatus l channel connection => exact .outside rfl rfl rfl rfl rfl rfl rfl rfl
  | shutdown => exact .outside rfl rfl rfl rfl rfl rfl rfl rfl
  | subscribe => exact .outside rfl rfl rfl rfl rfl rfl rfl rfl
  | openGate name => exact .outside rfl rfl rfl rfl rfl rfl rfl rfl
  | learn script => exact .outside rfl rfl rfl rfl rfl rfl rfl rfl
  | prefer p => exact .outside rfl rfl rfl rfl rfl rfl rfl rfl

/-! ## The turns of jobs -/

/-- A job goes on by itself, unless it is the program that awaits its listener. -/
theorem turn_eq_resume (s : System) {t : Task}
    (h : ∀ listener result, t ≠ .program (.joining listener result)) :
    s.turn t = t.resume s.world := by
  cases t with
  | program p =>
    cases p with
    | running a listener b => rfl
    | joining listener result => exact absurd rfl (h listener result)
  | _ => rfl

/-- A turn of a job is that of its own, or the end of the program. -/
theorem turn_induction {motive : Turn Task Outcome → Prop} (s : System) {t : Task}
    (resume : motive (t.resume s.world))
    (conclude : ∀ listener result o, t = .program (.joining listener result) →
      motive (Program.conclude result o s.world)) : motive (s.turn t) := by
  by_cases joins : ∃ listener result, t = .program (.joining listener result)
  · obtain ⟨listener, result, rfl⟩ := joins
    simp only [turn]
    split
    · exact conclude listener result _ rfl
    · exact resume
  · rw [turn_eq_resume s fun listener result h => joins ⟨listener, result, h⟩]
    exact resume

open Turn

theorem speaks_turn (s : System) (t : Task) :
    (s.turn t).Speaks t.stages Task.pending? s.world (t.pending?.map Pending.heard).toList := by
  refine turn_induction s (speaks_taskResume s.world t) ?_
  rintro listener result o rfl
  exact speaks_programConclude _ _ _

theorem speaks_launchTurn (s : System) (env : Environment) :
    (s.launchTurn env).Speaks [] Task.pending? s.world [] := by
  simp only [launchTurn]
  refine Speaks.log (e := programEntry .info "starting topic consumer...") ?_
  cases Config.load env.lookup with
  | error problem => exact Speaks.log (Speaks.log (speaks_finished _))
  | ok config =>
    refine Speaks.log (e := programEntry .info "configuration loaded"
      [("name", .text config.name), ("endpoint", .plain config.endpoint.shape)]) ?_
    refine ((speaks_appStart _ _).of_trace_eq rfl).andThen (fun _ => rfl) fun _ _ => ?_
    exact (speaks_waiting rfl).of_trace_eq rfl

theorem receivers_turn (s : System) (t : Task) :
    (s.turn t).1.receivers = s.world.claiming t.stopCall? ∨
      ∃ g tag, t.registering? = some (g, tag) ∧
        (s.turn t).1.receivers = s.world.receivers ++ [g.opened tag s.world.nextTask] := by
  refine turn_induction s (motive := fun u => u.1.receivers = s.world.claiming t.stopCall? ∨
    ∃ g tag, t.registering? = some (g, tag) ∧
      u.1.receivers = s.world.receivers ++ [g.opened tag s.world.nextTask])
    (receivers_taskResume s.world t) ?_
  rintro listener result o rfl
  exact .inl (keeps_programConclude keptByCalls_receivers _ _ _)

theorem receivers_launchTurn (s : System) (env : Environment) :
    (s.launchTurn env).1.receivers = s.world.receivers := by
  simp only [launchTurn]
  split
  · rfl
  · refine keeps_andThen (f := World.receivers) ?_ fun _ _ => rfl
    exact keeps_appStart keptByCalls_receivers _ _

/-- The end of the program is an end. -/
theorem conclude_finished (w : World) (result : Except Failure Stats) (o : Outcome) :
    ∃ o', (Program.conclude result o w).2 = .finished o' :=
  conclude_induction (motive := fun _ t => ∃ o', t.2 = .finished o') (fun _ _ _ h => h)
    (fun _ _ => ⟨_, rfl⟩) w result o

/-- Where the turn of a job leaves it, that is where it goes on by itself. -/
theorem all_turn {P : Task → Prop} (s : System) {t : Task} (h : (t.resume s.world).2.All P) :
    (s.turn t).2.All P := by
  refine turn_induction s (motive := fun u => u.2.All P) h fun listener result o _ => ?_
  obtain ⟨o', ends⟩ := conclude_finished s.world result o
  rw [ends]
  trivial

theorem fits_turn (s : System) (t : Task) :
    (s.turn t).2.All (Fits Task.pending? Task.method?) :=
  all_turn s (fits_taskResume s.world t)

theorem fits_launchTurn (s : System) (env : Environment) :
    (s.launchTurn env).2.All (Fits Task.pending? Task.method?) := by
  simp only [launchTurn]
  split
  · trivial
  · exact all_andThen (fits_appStart _ _) (fun _ h => h) fun _ _ => rfl

section Takes

variable {s : System} {m : Move} {n : Nat} {t : Turn Task Outcome}

/-- The actor of a turn is its job. -/
theorem Takes.actor (h : s.Takes m n t) : s.actorOf m = some (.job n) := by
  cases h <;> rfl

/-- Every turn has the shape of a turn. -/
theorem Takes.speaks (h : s.Takes m n t) : ∃ (stages : List Lifecycle) (heard : Option Pending),
    t.Speaks stages Task.pending? s.world (heard.map Pending.heard).toList := by
  cases h with
  | goesOn job ready => exact ⟨_, _, s.speaks_turn _⟩
  | begins q => exact ⟨_, none, speaks_begin _ q _⟩
  | launches env => exact ⟨_, none, s.speaks_launchTurn env⟩

/-- Every turn leaves its job at a stage that fits its call. -/
theorem Takes.fits (h : s.Takes m n t) : t.2.All (Fits Task.pending? Task.method?) := by
  cases h with
  | goesOn job ready => exact s.fits_turn _
  | begins q => exact fits_begin _ q _
  | launches env => exact s.fits_launchTurn env

/-- A turn that does not complete a registration changes a receiver only where it calls for its
stop. -/
theorem Takes.receivers (h : s.Takes m n t) :
    t.1.receivers = s.world.claiming (s.stopCall? m) ∨
      ∃ task g tag, m = .act (.job n) ∧ s.jobs[n]? = some (.waiting task) ∧
        task.registering? = some (g, tag) ∧
        t.1.receivers = s.world.receivers ++ [g.opened tag s.world.nextTask] := by
  cases h with
  | @goesOn _ task job ready =>
    have hcall : s.stopCall? (.act (.job n)) = task.stopCall? := by simp [stopCall?, job, ready]
    rw [hcall]
    rcases s.receivers_turn task with hsame | ⟨g, tag, hreg, hmore⟩
    · exact .inl hsame
    · exact .inr ⟨task, g, tag, rfl, job, hreg, hmore⟩
  | begins q => exact .inl (receivers_begin _ q _)
  | launches env => exact .inl (s.receivers_launchTurn env)

end Takes

/-- A move is the turn of one job at most. -/
theorem Takes.unique {s : System} {m : Move} {n n' : Nat} {t t' : Turn Task Outcome}
    (h : s.Takes m n t) (h' : s.Takes m n' t') : n = n' ∧ t = t' := by
  cases h with
  | goesOn job ready =>
    cases h' with
    | goesOn job' ready' =>
      rw [job, Option.some.injEq, Progress.waiting.injEq] at job'
      exact ⟨rfl, by rw [job']⟩
  | begins q =>
    cases h'
    exact ⟨rfl, rfl⟩
  | launches env =>
    cases h'
    exact ⟨rfl, rfl⟩

/-- Where a job stands after a move: where it stood before, if it has had no turn, or at the
beginning, if the program has brought it along, or where its turn has left it. -/
theorem job_of_move {s : System} {m : Move} {j : Nat} {p : Progress Task Outcome}
    (h : (s.move m).jobs[j]? = some p) :
    (s.jobs[j]? = some p ∧ ∀ t, ¬ s.Takes m j t) ∨
      (s.jobs[j]? = none ∧ p = .waiting (.listening .fresh)) ∨
      ∃ t : Turn Task Outcome, s.Takes m j t ∧ t.2 = p ∧ (s.move m).world = t.1 := by
  by_cases hturn : ∃ t, s.Takes m j t
  · obtain ⟨t, takes⟩ := hturn
    have turned := takes.turned
    rw [turned.job, Option.some.injEq] at h
    exact .inr (.inr ⟨t, takes, h, turned.world⟩)
  · rw [not_exists] at hturn
    have kind := s.move_kind m
    generalize s.move m = s' at *
    cases kind with
    | @turns _ n t _ takes turned =>
      have hj : j ≠ n := by
        rintro rfl
        exact hturn t takes
      rcases turned.others j hj with hsame | ⟨hnone, hnew⟩
      · exact .inl ⟨hsame ▸ h, hturn⟩
      · rw [hnew, Option.some.injEq] at h
        exact .inr (.inl ⟨hnone, h.symm⟩)
    | receives ready => exact .inl ⟨h, hturn⟩
    | outside jobs => exact .inl ⟨jobs ▸ h, hturn⟩

/-- What becomes of a job that is there: it stays where it is, if it has no turn, or it goes on from
where it waits. -/
theorem move_of_job {s : System} {n : Nat} {p : Progress Task Outcome} (h : s.jobs[n]? = some p)
    (m : Move) : ((∀ t, ¬ s.Takes m n t) ∧ (s.move m).jobs[n]? = some p) ∨
      ∃ t, p = .waiting t ∧ s.ready t.wait = true ∧ m = .act (.job n) := by
  have new : ∀ {t : Turn Task Outcome}, n = s.jobs.length → ¬ s.Takes m n t := by
    rintro t rfl
    simp at h
  by_cases hturn : ∃ t, s.Takes m n t
  · obtain ⟨u, takes⟩ := hturn
    cases takes with
    | @goesOn _ t job ready =>
      rw [job, Option.some.injEq] at h
      exact .inr ⟨t, h.symm, ready, rfl⟩
    | begins q => exact absurd (.begins q) (new rfl)
    | launches env => exact absurd (.launches env) (new rfl)
  · rw [not_exists] at hturn
    refine .inl ⟨hturn, ?_⟩
    have kind := s.move_kind m
    generalize s.move m = s' at *
    cases kind with
    | @turns _ n' t _ takes turned =>
      have hj : n ≠ n' := by
        rintro rfl
        exact hturn t takes
      rcases turned.others n hj with hsame | ⟨hnone, -⟩
      · rw [hsame, h]
      · rw [hnone] at h
        cases h
    | receives ready => exact h
    | outside jobs => rw [jobs, h]

/-! ## Outcomes -/

section Outcomes

variable {s : System} {n : Nat}

/-- The outcome of a job that has finished. -/
theorem outcome?_of_finished {o : Outcome} (job : s.jobs[n]? = some (.finished o)) :
    s.outcome? n = some o := by
  simp [outcome?, job]

/-- A job that waits has no outcome. -/
theorem outcome?_of_waiting {t : Task} (job : s.jobs[n]? = some (.waiting t)) :
    s.outcome? n = none := by
  simp [outcome?, job]

/-- A job that has ended stays so. -/
theorem outcome?_move {o : Outcome} (h : s.outcome? n = some o) (m : Move) :
    (s.move m).outcome? n = some o := by
  cases job : s.jobs[n]? with
  | none => simp [outcome?, job] at h
  | some p =>
    rcases move_of_job job m with ⟨-, hsame⟩ | ⟨t, rfl, -, -⟩
    · rw [← h, outcome?, outcome?, hsame, job]
    · simp [outcome?, job] at h

/-- So it does whatever else happens. -/
theorem outcome?_after {o : Outcome} (h : List Move) (ended : s.outcome? n = some o) :
    (s.after h).outcome? n = some o := by
  induction h generalizing s with
  | nil => exact ended
  | cons m h ih => exact ih (outcome?_move ended m)

end Outcomes

end System

end TopicWorker
