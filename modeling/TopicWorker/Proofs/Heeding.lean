import TopicWorker.Proofs.Listeners
import TopicWorker.Proofs.Progression
import TopicWorker.Proofs.StartupOrder
import TopicWorker.Proofs.Stopping
import TopicWorker.Proofs.Veils

/-!
# A request to shut down is heeded

A shutdown may be requested at any moment: before an application is started, while it starts up,
while it blocks, and once more while it is already being torn down. The request stays. It does not
concern those who start up: an application makes all steps of its startup, or fails in one of them,
as if nothing had been requested. And nobody is left waiting for what has come already. When nobody
can go on any more, what still holds up an application or a teardown is an answer that the broker
has not given, the delivery that a receive loop is working on, or an operation that has been given;
and every listener has ended.

## Main definitions

* `App.Carried`: how far a job has come that carries an application.
* `Task.HeldUp`: what may hold up a job.
* `System.AtRest`: nobody can go on.
* `System.Heeds`: what is said of a moment after the request.

## Main results

* `System.request_heeded`: at every moment after a shutdown has been requested it is heeded.
-/

namespace TopicWorker

variable {σ ρ : Type}

/-! ## Startup does not look at the request -/

/-- The veil that puts a request in the place of everything. -/
def requesting : Veil := { request := fun _ => true }

namespace Requesting

theorem call (c : Call) : requesting.call c = c := by cases c <;> rfl

theorem pending (p : Pending) : requesting.pending p = p := by simp [Veil.pending, call]

/-- Behind it a world is the one in which a shutdown is requested. -/
theorem world (w : World) : requesting.world w = w.requestShutdown := by
  have event : ∀ e, requesting.event e = e := fun e => by cases e <;> simp [Veil.event, call]
  have receiver : ∀ v, requesting.receiver v = v := fun v => by
    have loop : requesting.loop v.loop = v.loop := by
      cases v.loop with
      | processing p => cases p <;> simp [Veil.loop, Veil.processing, pending]
      | _ => rfl
    simp [Veil.receiver, loop]
  simp only [Veil.world, List.map_id'' event, List.map_id'' receiver]
  rfl

theorem closing (s : Closing) : requesting.closing s = s := by
  cases s <;> simp [Veil.closing, pending]

/-- An application is the same behind it. -/
theorem app (b : App) : requesting.app b = b := by
  cases b with
  | running b =>
    cases b with
    | stopping r closer st => cases st <;> simp [Veil.app, Veil.teardown, Veil.stopping, pending]
    | closing l result st => simp [Veil.app, Veil.teardown, closing]
    | _ => rfl
  | opening st => cases st <;> simp [Veil.app, Veil.opening, pending]
  | subscribing l st => cases st <;> simp [Veil.app, Veil.subscribing, pending]
  | starting l sub st => cases st <;> simp [Veil.app, Veil.starting, pending]
  | abandoning l f st => simp [Veil.app, closing]

theorem turn (t : Turn App ρ) : requesting.turn requesting.app t = (t.1.requestShutdown, t.2) := by
  obtain ⟨w, p⟩ := t
  cases p <;> simp [Veil.turn, world, Progress.mapStage, app]

end Requesting

/-- An application starts as if no shutdown were requested, -/
theorem appStart_requested (a : AppSetup) (w : World) :
    App.start a w.requestShutdown = ((App.start a w).1.requestShutdown, (App.start a w).2) := by
  rw [← Requesting.turn, ← requesting.appStart_world, Requesting.world]
  rfl

/-- and goes on so. -/
theorem appResume_requested (a : AppSetup) (b : App) (w : World) :
    b.resume a w.requestShutdown = ((b.resume a w).1.requestShutdown, (b.resume a w).2) := by
  rw [← Requesting.turn, ← requesting.appResume_world, Requesting.world, Requesting.app]
  rfl

/-! ## The jobs that carry applications -/

/-- How far a job has come that carries an application, by how far the application has. -/
inductive App.Carried (a : AppSetup) (listener : Nat) :
    Progress App (Except Failure Stats) → Progress Task Outcome → Prop where
  | alone (p : Progress App (Except Failure Stats)) : Carried a listener p (p.asApp a)
  | running (b : App) :
    Carried a listener (.waiting b) (.waiting (.program (.running a listener b)))
  | joining (result : Except Failure Stats) :
    Carried a listener (.finished result) (.waiting (.program (.joining listener result)))
  | concluded (result : Except Failure Stats) (code : Nat) :
    Carried a listener (.finished result) (.finished (.ok (.exit code)))

section Turns

variable {w : World} {a : AppSetup} {listener : Nat}

/-- What the program concludes with. -/
theorem conclude_exits (result : Except Failure Stats) (o : Outcome) (w : World) :
    (∃ code, (Program.conclude result o w).2 = .finished (.ok (.exit code))) ∧
      acts (Program.conclude result o w).1.trace = acts w.trace := by
  have told : acts (Program.listened o w).2.trace = acts w.trace := by
    cases o <;> first | rfl | exact acts_log w _
  simp only [Program.conclude]
  split
  · exact ⟨⟨0, rfl⟩, (acts_log _ _).trans told⟩
  · exact ⟨⟨1, rfl⟩, (acts_log _ _).trans told⟩

/-- The turn of an application is the turn of the program that it runs in. -/
theorem carried_running (a : AppSetup) (listener : Nat) (t : Turn App (Except Failure Stats)) :
    App.Carried a listener t.2 (t.andThen (fun b => .program (.running a listener b))
      (Task.appEnded listener)).2 ∧
    (t.andThen (fun b => .program (.running a listener b))
      (Task.appEnded listener)).1.trace = t.1.trace := by
  obtain ⟨w, p⟩ := t
  cases p with
  | waiting b => exact ⟨.running b, rfl⟩
  | finished result => exact ⟨.joining result, rfl⟩
  | crashed payload => exact ⟨.alone (.crashed payload), rfl⟩

end Turns

namespace System

/-- The moves that start an application. -/
inductive Starts : Move → AppSetup → Prop where
  | app {lookup : Lookup} {config : Config} (loads : Config.load lookup = .ok config)
    (kind : HandlerKind) : Starts (.begin (.app lookup kind)) { config, kind }
  | program {env : Environment} {config : Config} (loads : Config.load env.lookup = .ok config) :
    Starts (.launch env) { config, kind := .logging }

variable {s : System} {a : AppSetup} {n listener : Nat} {m : Move}

/-- An application that is started sets out on its course. -/
theorem carried_of_starts (starts : Starts m a) : ∃ p q,
    (s.move m).jobs[s.jobs.length]? = some q ∧ App.Carried a (s.jobs.length + 1) p q ∧
      App.Course a p (acts (eventsBy (.job s.jobs.length) (s.doing m))) := by
  cases starts with
  | @app lookup config loads kind =>
    have takes : s.Takes (.begin (.app lookup kind)) s.jobs.length _ := .begins _
    obtain ⟨more, hmore, hcourse⟩ := keepsTo_appStart (a := { config, kind }) s.world
    have hturn : (Request.app lookup kind).begin s.handles s.world =
        ((App.start { config, kind } s.world).1,
          (App.start { config, kind } s.world).2.asApp { config, kind }) := by
      rw [← asJob_app]
      simp only [Request.begin, Request.startApp, loads]
    rw [hturn] at takes
    refine ⟨_, _, takes.turned.job, .alone (App.start { config, kind } s.world).2, ?_⟩
    rw [acts_of_takes takes hmore]
    exact hcourse
  | @program env config loads =>
    have takes : s.Takes (.launch env) s.jobs.length _ := .launches env
    obtain ⟨w, told, hturn⟩ : ∃ w : World, acts w.trace = acts s.world.trace ∧
        s.launchTurn env = (App.start { config, kind := .logging } w).andThen
          (fun b => .program (.running { config, kind := .logging } (s.jobs.length + 1) b))
          (Task.appEnded (s.jobs.length + 1)) := by
      let w := (s.world.log (programEntry .info "starting topic consumer...")).log
        (programEntry .info "configuration loaded"
          [("name", .text config.name), ("endpoint", .plain config.endpoint.shape)])
      refine ⟨{ w with nextTask := w.nextTask + 1 }, ?_, ?_⟩
      · exact (acts_log _ _).trans (acts_log s.world _)
      · simp only [launchTurn, loads]
        rfl
    obtain ⟨more, hmore, hcourse⟩ := keepsTo_appStart (a := { config, kind := .logging }) w
    obtain ⟨carried, htrace⟩ := carried_running { config, kind := .logging } (s.jobs.length + 1)
      (App.start { config, kind := .logging } w)
    rw [hturn] at takes
    refine ⟨_, _, takes.turned.job, carried, ?_⟩
    rw [acts_of_takes takes ((congrArg acts htrace).trans (told ▸ hmore))]
    exact hcourse

/-- An application that is carried goes on on its course. -/
theorem carried_move {p : Progress App (Except Failure Stats)} {q : Progress Task Outcome}
    {done : List Event} (job : s.jobs[n]? = some q) (carried : App.Carried a listener p q)
    (course : App.Course a p done) (m : Move) : ∃ p' q', (s.move m).jobs[n]? = some q' ∧
      App.Carried a listener p' q' ∧
        App.Course a p' (done ++ acts (eventsBy (.job n) (s.doing m))) := by
  rcases move_of_job job m with ⟨hno, hsame⟩ | ⟨t, rfl, ready, rfl⟩
  · refine ⟨p, q, hsame, carried, ?_⟩
    rw [doing_of_no_turn hno]
    simpa [acts] using course
  · have takes := Takes.goesOn job ready
    cases p with
    | waiting b =>
      obtain ⟨more, hmore, hkept⟩ := keepsTo_appResume s.world course
      cases carried with
      | alone =>
        have hturn : s.turn (.app a b) = ((b.resume a s.world).1, (b.resume a s.world).2.asApp a) :=
          asJob_app a _
        rw [hturn] at takes
        refine ⟨_, _, takes.turned.job, .alone (b.resume a s.world).2, ?_⟩
        rw [acts_of_takes takes hmore]
        exact hkept
      | running =>
        obtain ⟨hcarried, htrace⟩ := carried_running a listener (b.resume a s.world)
        refine ⟨_, _, takes.turned.job, hcarried, ?_⟩
        rw [acts_of_takes takes ((congrArg acts htrace).trans hmore)]
        exact hkept
    | finished result =>
      cases carried with
      | joining =>
        obtain ⟨o, ho⟩ : ∃ o, s.outcome? listener = some o := Option.isSome_iff_exists.mp ready
        have hturn : s.turn (.program (.joining listener result)) =
            Program.conclude result o s.world := by simp only [turn, ho]
        obtain ⟨⟨code, hexits⟩, hsame⟩ := conclude_exits result o s.world
        rw [hturn] at takes
        refine ⟨.finished result, _, takes.turned.job, hexits ▸ .concluded result code, ?_⟩
        rw [acts_of_takes takes (hsame.trans (List.append_nil _).symm), List.append_nil]
        exact course
    | crashed payload => cases carried

/-- At every moment after it has been started an application is on its course. -/
theorem carried_after (s : System) {h₁ : List Move} (starts : Starts m a) (h₂ : List Move) :
    ∃ p q, (s.after (h₁ ++ m :: h₂)).jobs[(s.after h₁).jobs.length]? = some q ∧
      App.Carried a ((s.after h₁).jobs.length + 1) p q ∧
      App.Course a p
        (acts (eventsBy (.job (s.after h₁).jobs.length) (s.deeds (h₁ ++ m :: h₂)))) := by
  induction h₂ using List.reverseRecOn with
  | nil =>
    obtain ⟨p, q, job, carried, course⟩ := carried_of_starts (s := s.after h₁) starts
    have absent : eventsBy (.job (s.after h₁).jobs.length) (s.deeds h₁) = [] :=
      absent_job_after h₁ (by simp)
    refine ⟨p, q, ?_, carried, ?_⟩
    · rw [after_concat]
      exact job
    · rw [eventsBy_deeds_concat, absent]
      exact course
  | append_singleton h₂ m' ih =>
    obtain ⟨p, q, job, carried, course⟩ := ih
    obtain ⟨p', q', job', carried', course'⟩ := carried_move job carried course m'
    rw [← List.cons_append, ← List.append_assoc, after_concat, eventsBy_deeds_concat, acts_append]
    exact ⟨p', q', job', carried', course'⟩

/-- The program brings a listener along. -/
theorem listener_of_launch {env : Environment} {config : Config}
    (loads : Config.load env.lookup = .ok config) :
    (s.move (.launch env)).jobs[s.jobs.length + 1]? = some (.waiting (.listening .fresh)) := by
  simp only [move, launch, loads]
  rw [List.getElem?_append_right] <;> simp [addJob, settleJob]

/-! ## When nobody can go on -/

/-- Nobody can go on: everybody who is not done waits. -/
def AtRest (s : System) : Prop := ∀ a, s.isRunnable a = false

/-- What a job waits for is not there when nobody can go on. -/
theorem AtRest.not_ready (rest : s.AtRest) {t : Task} (job : s.jobs[n]? = some (.waiting t)) :
    s.ready t.wait = false := by
  rw [Bool.eq_false_iff]
  intro ready
  have runnable := (isRunnable_job s n).mpr ⟨t, job, ready⟩
  rw [rest] at runnable
  cases runnable

/-- A receiver that is being stopped has been told to stop. -/
theorem cancelled_of_stopping (setup : Setup) {h : List Move} {r : Nat} {t : Task} {st : Stopping}
    (job : (setup.system.after h).jobs[n]? = some (.waiting t)) (under : t.stopping? = some (r, st))
    (hr : r < (setup.system.after h).world.receivers.length) :
    ((setup.system.after h).world.receiver r).cancelled = true := by
  obtain ⟨h₁, m, h₂, rfl, -, call, -⟩ := first_of_stopping rfl rfl rfl h job under
  have called : setup.system.stopCalls r (h₁ ++ m :: h₂) ≠ 0 := by
    simp [stopCalls_append, stopCalls, call]
  have unjoinable := ((joinable_iff_uncalled rfl rfl rfl (h₁ ++ m :: h₂) r).1 hr).not.mpr called
  obtain ⟨laps, tail, hcourse⟩ := course_after (s := setup.system) rfl _ hr
  rw [hcourse.charge] at unjoinable
  simpa using unjoinable

end System

/-- What may hold up a job in whose way a request to shut down does not stand. -/
inductive Task.HeldUp (w : World) (t : Task) : Prop where
  /-- The broker has not answered its call. -/
  | answer (p : Pending) (asked : t.pending? = some p) (waits : t.wait = p.wait)
    (shut : w.isOpen p.reply.gate = false)
  /-- The receiver that it stops has a handler at work. -/
  | handler (r : Nat) (d : Delivery) (span : Nat) (cue : Cue) (waits : t.wait = .loopEnd r)
    (atWork : (w.receiver r).loop = .processing (.handling d span cue))
    (shut : w.isOpen cue.gate = false)
  /-- The receiver that it stops settles a delivery, and the broker has not answered. -/
  | settlement (r : Nat) (d : Delivery) (span : Nat) (failure : Option Failure) (p : Pending)
    (waits : t.wait = .loopEnd r)
    (atWork : (w.receiver r).loop = .processing (.settling d span failure p))
    (shut : w.isOpen p.reply.gate = false)
  /-- The stop that it has been given has not ended. -/
  | stop (op : Operation Stats) (closer : Closer)
    (under : t.teardown? = some (.stoppingGiven op closer)) (waits : t.wait = .gate op.gate)
    (shut : w.isOpen op.gate = false)
  /-- The close that it has been given has not ended. -/
  | close (op : Operation Unit) (stopped : Except Failure Stats)
    (under : t.teardown? = some (.closingGiven op stopped)) (waits : t.wait = .gate op.gate)
    (shut : w.isOpen op.gate = false)

/-- None of this is the request. -/
theorem Task.HeldUp.wait_ne_shutdown {w : World} {t : Task} (h : t.HeldUp w) :
    t.wait ≠ .shutdown := by
  intro shutdown
  cases h with
  | answer p asked waits => cases waits.symm.trans shutdown
  | handler r d span cue waits => cases waits.symm.trans shutdown
  | settlement r d span failure p waits => cases waits.symm.trans shutdown
  | stop op closer under waits => cases waits.symm.trans shutdown
  | close op stopped under waits => cases waits.symm.trans shutdown

namespace System

section Held

variable {setup : Setup} {h : List Move} {n : Nat} {t : Task}
  (rest : (setup.system.after h).AtRest)
  (job : (setup.system.after h).jobs[n]? = some (.waiting t))

include rest job

/-- Who waits for an answer has not been given it. -/
theorem heldUp_of_pending {p : Pending} (asked : t.pending? = some p) (waits : t.wait = p.wait) :
    t.HeldUp (setup.system.after h).world := by
  refine .answer p asked waits ?_
  have shut := rest.not_ready job
  rw [waits] at shut
  exact shut

/-- A stop waits for an answer, or for the delivery that its receiver is working on. -/
theorem heldUp_of_stopping {r : Nat} {st : Stopping} (under : t.stopping? = some (r, st)) :
    t.HeldUp (setup.system.after h).world := by
  have shut := rest.not_ready job
  obtain ⟨site, rfl⟩ := Site.of_stopping under
  cases st with
  | cancelling p =>
    refine heldUp_of_pending rest job (p := p) ?_ ?_
    · cases site <;> rfl
    · exact site.wait_task _
  | joining =>
    have waits : (site.task r .joining).wait = .loopEnd r := site.wait_task _
    rw [waits] at shut
    have running : ((setup.system.after h).world.receiver r).loop.isOver = false := shut
    have hr : r < (setup.system.after h).world.receivers.length := by
      by_contra hgone
      have absent : (setup.system.after h).world.receiver r = default := by
        simp [World.receiver, List.getElem?_eq_none (Nat.le_of_not_lt hgone)]
      rw [absent] at running
      cases running
    have told := cancelled_of_stopping setup job under hr
    -- a loop that waits for its next item would see that it has been told to stop
    have idle := rest (.receiver r)
    cases hloop : ((setup.system.after h).world.receiver r).loop with
    | receiving =>
      obtain ⟨-, -, untold⟩ := nothing_of_waiting hloop idle
      rw [told] at untold
      cases untold
    | processing p =>
      have still : (setup.system.after h).ready p.wait = false := by
        simpa [isRunnable, waitOf, Receiver.wait?, hloop] using idle
      cases p with
      | handling d span cue => exact .handler r d span cue waits hloop still
      | settling d span failure p => exact .settlement r d span failure p waits hloop still
    | ended =>
      rw [hloop] at running
      cases running
    | crashed payload =>
      rw [hloop] at running
      cases running

/-- What a teardown waits for after the request. -/
theorem heldUp_of_teardown (requested : (setup.system.after h).world.shutdownRequested = true)
    {b : Teardown} (under : t.teardown? = some b) : t.HeldUp (setup.system.after h).world := by
  have shut := rest.not_ready job
  obtain ⟨host, rfl⟩ := Host.of_teardown? under
  have waits : (host.task b).wait = b.wait := Host.wait_task host b
  rw [waits] at shut
  cases b with
  | blocked stopper closer =>
    -- the request that it waits for is there
    have unrequested : (setup.system.after h).world.shutdownRequested = false := shut
    rw [requested] at unrequested
    cases unrequested
  | yielding stopper closer => cases shut
  | stopping r closer st =>
    have stops : (host.task (.stopping r closer st)).stopping? = some (r, st) := by
      cases host <;> rfl
    exact heldUp_of_stopping rest job stops
  | stoppingGiven op closer => exact .stop op closer under waits shut
  | closing l stopped s =>
    refine heldUp_of_pending rest job (p := s.pending) (Host.pending?_task host _) ?_
    rw [waits]
    cases s <;> rfl
  | closingGiven op stopped => exact .close op stopped under waits shut

/-- What an application waits for after the request. -/
theorem heldUp_of_app (requested : (setup.system.after h).world.shutdownRequested = true)
    {b : App} (app : t.app? = some b) : t.HeldUp (setup.system.after h).world := by
  cases up : b.isUp with
  | true =>
    obtain ⟨b', rfl⟩ := App.of_isUp up
    refine heldUp_of_teardown rest job requested (b := b') ?_
    rcases Task.of_app? app with ⟨a, rfl⟩ | ⟨a, listener, rfl⟩ <;> rfl
  | false =>
    obtain ⟨p, asked, waits⟩ := App.wait_of_down up
    refine heldUp_of_pending rest job ((Task.pending?_of_app? app).trans asked) ?_
    rcases Task.of_app? app with ⟨a, rfl⟩ | ⟨a, listener, rfl⟩ <;> exact waits

end Held

/-- What is said of a moment after a shutdown has been requested. -/
structure Heeds (s : System) (h : List Move) : Prop where
  /-- It is still requested. -/
  requested : (s.after h).world.shutdownRequested = true
  /-- Every application, whenever it has been started, is on its course, on which it makes all steps
  of its startup or fails in one of them; -/
  startup : ∀ h₁ m h₂ a, h = h₁ ++ m :: h₂ → Starts m a → ∃ p q,
    (s.after h).jobs[(s.after h₁).jobs.length]? = some q ∧
      App.Carried a ((s.after h₁).jobs.length + 1) p q ∧
      App.Course a p (acts (eventsBy (.job (s.after h₁).jobs.length) (s.deeds h)))
  /-- it starts as it would without the request, -/
  starts : ∀ (a : AppSetup) (w : World),
    App.start a w.requestShutdown = ((App.start a w).1.requestShutdown, (App.start a w).2)
  /-- and goes on as it would without the request. -/
  goesOn : ∀ (a : AppSetup) (b : App) (w : World),
    b.resume a w.requestShutdown = ((b.resume a w).1.requestShutdown, (b.resume a w).2)
  /-- When nobody can go on, an application or a teardown that has not ended is held up by the
  broker, by the delivery in flight, or by an operation that has been given, and does not wait for
  the request. -/
  heldUp : (s.after h).AtRest → ∀ (n : Nat) (t : Task), (s.after h).jobs[n]? = some (.waiting t) →
    t.app?.isSome = true ∨ t.teardown?.isSome = true →
    t.HeldUp (s.after h).world ∧ t.wait ≠ .shutdown
  /-- Nobody listens for signals then, -/
  silent : (s.after h).AtRest → ∀ (n : Nat) (b : Listening),
    (s.after h).jobs[n]? ≠ some (.waiting (.listening b))
  /-- every listener that has been started has ended, -/
  listeners : (s.after h).AtRest → ∀ (h₁ h₂ : List Move) (n : Nat), h = h₁ ++ h₂ →
    (s.after h₁).jobs[n]? = some (.waiting (.listening .fresh)) →
    (s.after h).outcome? n = some (.ok .nothing) ∨
      ∃ reason, (s.after h).outcome? n = some (.failed (.signals reason))
  /-- and no program waits for its listener. -/
  joined : (s.after h).AtRest → ∀ h₁ env h₂ config, h = h₁ ++ .launch env :: h₂ →
    Config.load env.lookup = .ok config → ∀ listener result,
    (s.after h).jobs[(s.after h₁).jobs.length]? ≠
      some (.waiting (.program (.joining listener result)))

/-- A listener that has been started has ended when nobody can go on and a shutdown is requested. -/
theorem listened_of_rest {s : System} {h₁ : List Move}
    (fresh : (s.after h₁).jobs[n]? = some (.waiting (.listening .fresh))) (h₂ : List Move)
    (requested : (s.after (h₁ ++ h₂)).world.shutdownRequested = true)
    (rest : (s.after (h₁ ++ h₂)).AtRest) :
    (s.after (h₁ ++ h₂)).outcome? n = some (.ok .nothing) ∨
      ∃ reason, (s.after (h₁ ++ h₂)).outcome? n = some (.failed (.signals reason)) := by
  rw [after_append] at *
  obtain ⟨p, job, course⟩ := listening_after fresh h₂
  rw [requested] at course
  have waits : ∀ b, ((s.after h₁).after h₂).jobs[n]? ≠ some (.waiting (.listening b)) := by
    intro b job
    have runnable := (released_of_requested job requested).1
    rw [rest] at runnable
    cases runnable
  cases course with
  | fresh => exact absurd job (waits _)
  | installed => exact absurd job (waits _)
  | ended => exact .inl (outcome?_of_finished job)
  | failed reason => exact .inr ⟨reason, outcome?_of_finished job⟩

/-- At every moment after a shutdown has been requested the request is heeded. -/
theorem request_heeded (setup : Setup) (h h' : List Move)
    (requested : (setup.system.after h).world.shutdownRequested = true) :
    setup.system.Heeds (h ++ h') := by
  have still : (setup.system.after (h ++ h')).world.shutdownRequested = true := by
    rw [after_append]
    exact requested_after requested h'
  -- it does not matter any more when the request was made
  generalize h ++ h' = h at *
  constructor
  case requested => exact still
  case startup =>
    intro h₁ m h₂ a split starts
    subst split
    exact carried_after setup.system starts h₂
  case starts => exact appStart_requested
  case goesOn => exact appResume_requested
  case heldUp =>
    intro rest n t job carries
    have held : t.HeldUp (setup.system.after h).world := by
      rcases carries with app | teardown
      · obtain ⟨b, hb⟩ := Option.isSome_iff_exists.mp app
        exact heldUp_of_app rest job still hb
      · obtain ⟨b, hb⟩ := Option.isSome_iff_exists.mp teardown
        exact heldUp_of_teardown rest job still hb
    exact ⟨held, held.wait_ne_shutdown⟩
  case silent =>
    intro rest n b job
    have runnable := (released_of_requested job still).1
    rw [rest] at runnable
    cases runnable
  case listeners =>
    intro rest h₁ h₂ n split fresh
    subst split
    exact listened_of_rest fresh h₂ still rest
  case joined =>
    intro rest h₁ env h₂ config split loads listener result job
    subst split
    obtain ⟨p, q, job', carried, -⟩ := carried_after setup.system (.program loads) h₂
    rw [job, Option.some.injEq] at job'
    subst job'
    have fresh : (setup.system.after (h₁ ++ [.launch env])).jobs[
        (setup.system.after h₁).jobs.length + 1]? = some (.waiting (.listening .fresh)) := by
      rw [after_concat]
      exact listener_of_launch loads
    rw [List.append_cons] at still rest job
    have ended := listened_of_rest fresh h₂ still rest
    -- the listener that the program waits for is its own, and that one has ended
    have hlistener : listener = (setup.system.after h₁).jobs.length + 1 := by
      generalize hq : (Progress.waiting (Task.program (.joining listener result)) :
        Progress Task Outcome) = q at carried
      cases carried with
      | alone => cases p <;> cases hq
      | running => cases hq
      | joining => cases hq; rfl
      | concluded => cases hq
    have waits :
        ((setup.system.after (h₁ ++ [.launch env] ++ h₂)).outcome? listener).isSome = false :=
      rest.not_ready job
    rw [hlistener] at waits
    rcases ended with ended | ⟨reason, ended⟩ <;> rw [ended] at waits <;> cases waits

/-- While the handler is at work a shutdown over its consumer is asked for, and a listener. -/
def heldHistory : List Move :=
  [.begin (.start "users" .auto none .cued), .act (.job 0),
    .deliver 0 (.delivery { tag := 1 } { gate := some "g" }), .act (.receiver 0),
    .begin (.run 0 none none), .begin .listen, .shutdown]

/-- Everybody goes on as far as possible. -/
def restHistory : List Move :=
  [.act (.job 1), .act (.job 1), .act (.job 1), .act (.job 2), .act (.observer 0)]

theorem request_heeded_heldHistory :
    (Setup.system { connected := true }).Heeds (heldHistory ++ restHistory) ∧
      ((Setup.system { connected := true }).after (heldHistory ++ restHistory)).AtRest ∧
      ((Setup.system { connected := true }).after (heldHistory ++ restHistory)).waitOf (.job 1) =
        some (.loopEnd 0) ∧
      ((Setup.system { connected := true }).after (heldHistory ++ restHistory)).outcome? 2 =
        some (.ok .nothing) := by
  refine ⟨request_heeded { connected := true } heldHistory restHistory rfl, ?_, rfl, rfl⟩
  intro a
  cases a with
  | job n => rcases n with _ | _ | _ | n <;> rfl
  | receiver r => rcases r with _ | r <;> rfl
  | observer i => rcases i with _ | i <;> rfl

end System

end TopicWorker
