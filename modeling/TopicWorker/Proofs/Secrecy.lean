import TopicWorker.Simulation
import TopicWorker.Proofs.Veils

/-!
# The password stays a secret

The password is a setting like any other, and yet of a program that is run nothing shows which one
it has been given. Two environments are the same but for the password. Whatever is asked for with
the one is asked for with the other, and everything else that happens is the same. Then the same
things happen in the two, with the same texts, and all jobs come to the same end. Only the call that
connects is another, in its credentials.

The argument does not compare two runs step by step. Behind a veil that has the same password for
all, every step does what it does in the open; so two runs that are the same behind the veil stay
so, and what is seen of a system is seen behind the veil as well. Nothing is said of a password that
is blank, which counts as one that is not given: with it no configuration is loaded.

## Main definitions

* `mask`: the veil over the password.
* `Environment.Differ`: two environments that are the same but for the password.
* `Move.Alike`: two moves that are the same but for the password.
* `System.Indistinct`: what is seen of two systems is the same.
* `Environment.Unseen`: what is said of two environments that differ in the password.

## Main results

* `System.act_mask`, `Schedule.settle_mask`: a system takes its steps behind the veil as in the
  open, in whatever order, and on a single thread.
* `password_unseen`: of the password nothing is seen.
-/

namespace TopicWorker

open Text (word16?)

variable {σ α : Type}

/-! ## The configuration -/

/-- The endpoint with another password. -/
def Endpoint.withPassword (e : Endpoint) (p : String) : Endpoint := { e with password := p }

/-- The configuration with another password. -/
def Config.withPassword (c : Config) (p : String) : Config :=
  { c with endpoint := c.endpoint.withPassword p }

/-- The variables with another password. -/
def Lookup.withPassword (l : Lookup) (p : String) : Lookup := fun key =>
  if key = Setting.password.key then some p else l key

section Loading

variable {l : Lookup} {p : String}

/-- The other settings are given as before. -/
theorem given_withPassword {s : Setting} (other : s ≠ .password) :
    (l.withPassword p).given s = l.given s := by
  have hkey : s.key ≠ Setting.password.key := fun hkey => other (Setting.key_injective hkey)
  simp [Lookup.given, Lookup.withPassword, hkey]

/-- So they are read as before. -/
theorem required_withPassword {s : Setting} (other : s ≠ .password) :
    Config.required (l.withPassword p) s = Config.required l s := by
  rw [Config.required, given_withPassword other, Config.required]

theorem parsed_withPassword (read : List Char → Option α) {s : Setting} (other : s ≠ .password) :
    Config.parsed (l.withPassword p) read s = Config.parsed l read s := by
  rw [Config.parsed, given_withPassword other, Config.parsed]

theorem loadAckMode_withPassword :
    Config.loadAckMode (l.withPassword p) = Config.loadAckMode l := by
  rw [Config.loadAckMode, parsed_withPassword _ (by decide), parsed_withPassword _ (by decide),
    Config.loadAckMode]

/-- A configuration takes its password as it is given, and has nothing else from it. -/
theorem load_of_password (given : l.given .password = some p) :
    Config.load l = (Config.load (l.withPassword "***")).map (·.withPassword p) := by
  have read : Config.required l .password = .ok p := by simp [Config.required, given]
  have hidden : Config.required (l.withPassword "***") .password = .ok "***" := by
    simp only [Config.required, Lookup.given, Lookup.withPassword, if_true]
    rfl
  simp only [Config.load, read, hidden, required_withPassword (s := .host) (by decide),
    parsed_withPassword word16? (s := .port) (by decide),
    parsed_withPassword word16? (s := .prefetch) (by decide), loadAckMode_withPassword,
    given_withPassword (s := .name) (by decide), given_withPassword (s := .user) (by decide),
    given_withPassword (s := .vhost) (by decide)]
  cases Config.required l .host with
  | error problem => rfl
  | ok host =>
    cases Config.parsed l word16? .port with
    | error problem => rfl
    | ok port =>
      cases Config.loadAckMode l with
      | error problem => rfl
      | ok mode => cases Config.parsed l word16? .prefetch <;> rfl

end Loading

/-! ## Jobs -/

/-- The veil over the password. -/
def mask : Veil := { password := fun _ => "***" }

namespace Veil

variable (V : Veil)

/-- A job behind a veil. -/
def task : Task → Task
  | .opening s => .opening (V.opening s)
  | .closing l s => .closing l (V.closing s)
  | .declaringExchange x p => .declaringExchange x (V.pending p)
  | .declaringQueue q p => .declaringQueue q (V.pending p)
  | .binding b p => .binding b (V.pending p)
  | .subscribing x pattern s => .subscribing x pattern (V.subscribing s)
  | .starting g s => .starting g (V.starting s)
  | .stopping r s => .stopping r (V.stopping s)
  | .acknowledging tag p => .acknowledging tag (V.pending p)
  | .rejecting tag requeue p => .rejecting tag requeue (V.pending p)
  | .cancelling tag p => .cancelling tag (V.pending p)
  | .teardown s => .teardown (V.teardown s)
  | .app a s => .app (V.setup a) (V.app s)
  | .listening s => .listening s
  | .program (.running a listener s) => .program (.running (V.setup a) listener (V.app s))
  | .program (.joining listener result) => .program (.joining listener result)

/-- An application behind a veil waits for the same. -/
theorem wait_app (s : App) : (V.app s).wait = s.wait := by
  cases s with
  | running b =>
    cases b with
    | stopping r closer st => cases st <;> rfl
    | closing l result st => cases st <;> rfl
    | _ => rfl
  | opening st => cases st <;> rfl
  | subscribing l st => cases st <;> rfl
  | starting l sub st => cases st <;> rfl
  | abandoning l f st => cases st <;> rfl

/-- So does a job. -/
theorem wait_task (t : Task) : (V.task t).wait = t.wait := by
  cases t with
  | opening s => cases s <;> rfl
  | closing l s => cases s <;> rfl
  | subscribing x pattern s => cases s <;> rfl
  | starting g s => cases s <;> rfl
  | stopping r s => cases s <;> rfl
  | teardown s => exact V.wait_app (.running s)
  | app a s => exact V.wait_app s
  | program p =>
    cases p with
    | running a listener s => exact V.wait_app s
    | joining listener result => rfl
  | _ => rfl

theorem turn_asJob {f : σ → σ} {embed embed' : σ → Task} {value : α → Value}
    (t : Turn σ (Except Failure α)) (he : ∀ s, embed' (f s) = V.task (embed s)) :
    (V.turn f t).asJob embed' value = V.turn V.task (t.asJob embed value) := by
  unfold Turn.asJob
  exact V.turn_andThen t he fun _ _ => rfl

end Veil

section Jobs

variable (w : World)

/-- A listener that ends with an entry and a request does so behind the mask. -/
theorem released_mask (e : LogEntry) (result : Except Failure Unit) :
    ((((mask.world w).log e).requestShutdown, .finished result) : Turn Listening _) =
      mask.turn id ((w.log e).requestShutdown, .finished result) :=
  congrArg (fun w : World => (w.requestShutdown, Progress.finished result)) (mask.log_world w e)

theorem probe_mask : Listening.probe (mask.world w) = mask.world (Listening.probe w) := by
  have faults : (mask.world w).signalFaults = w.signalFaults := rfl
  simp only [Listening.probe, faults]
  split
  · exact mask.log_world w _
  · rfl

theorem look_mask (terminate : Bool) :
    Listening.look terminate (mask.world w) = mask.turn id (Listening.look terminate w) := by
  have preference : (mask.world w).preference = w.preference := rfl
  have there : Listening.isThere terminate (mask.world w) = Listening.isThere terminate w := by
    funext f
    rcases f with _ | _ | _ <;> rfl
  unfold Listening.look
  rw [preference, there]
  rcases w.preference.order.find? (Listening.isThere terminate w) with _ | _ | signal
  · rfl
  · rfl
  · exact released_mask w _ _

theorem listeningResume_mask (s : Listening) :
    s.resume (mask.world w) = mask.turn id (s.resume w) := by
  cases s with
  | installed terminate => exact look_mask w terminate
  | fresh =>
    have requested : (mask.world w).shutdownRequested = w.shutdownRequested := rfl
    have preference : (mask.world w).preference = w.preference := rfl
    have faults : (mask.world w).signalFaults = w.signalFaults := rfl
    have arrived : ∀ signal, (mask.world w).hasArrived signal = w.hasArrived signal := fun _ => rfl
    simp only [Listening.resume, Listening.install, requested, preference, faults, arrived,
      probe_mask, ← apply_ite mask.world]
    split
    · rfl
    · split
      · split
        · exact released_mask w _ _
        · split
          · exact released_mask w _ _
          · exact released_mask _ _ _
      · generalize (if (w.preference.interrupt && w.hasArrived .interrupt) = true then w
          else Listening.probe w) = v
        have requested : (mask.world v).shutdownRequested = v.shutdownRequested := rfl
        rw [requested]
        split
        · exact look_mask _ _
        · rfl

theorem taskResume_mask (t : Task) :
    (mask.task t).resume (mask.world w) = mask.turn mask.task (t.resume w) := by
  cases t with
  | opening s =>
    simp only [Veil.task, Task.resume, Veil.openingResume_world]
    exact mask.turn_andThen _ (fun _ => rfl) fun _ _ => rfl
  | closing l s =>
    simp only [Veil.task, Task.resume, Veil.closingResume_world]
    exact mask.turn_asJob _ fun _ => rfl
  | declaringExchange x p =>
    simp only [Veil.task, Task.resume, mask.exchangeAnswered_world w mask.pending]
    exact mask.turn_asJob _ fun _ => rfl
  | declaringQueue q p =>
    simp only [Veil.task, Task.resume, mask.queueAnswered_world w mask.pending]
    exact mask.turn_asJob _ fun _ => rfl
  | binding b p =>
    simp only [Veil.task, Task.resume, mask.bindingAnswered_world w mask.pending]
    exact mask.turn_asJob _ fun _ => rfl
  | subscribing x pattern s =>
    simp only [Veil.task, Task.resume, Veil.subscribingResume_world]
    exact mask.turn_asJob _ fun _ => rfl
  | starting g s =>
    simp only [Veil.task, Task.resume, Veil.startingResume_world]
    exact mask.turn_asJob _ fun _ => rfl
  | stopping r s =>
    simp only [Veil.task, Task.resume, Veil.stoppingResume_world]
    exact mask.turn_asJob _ fun _ => rfl
  | acknowledging tag p =>
    simp only [Veil.task, Task.resume, mask.ackAnswered_world w mask.pending]
    exact mask.turn_asJob _ fun _ => rfl
  | rejecting tag requeue p =>
    simp only [Veil.task, Task.resume, mask.rejectAnswered_world w mask.pending]
    exact mask.turn_asJob _ fun _ => rfl
  | cancelling tag p =>
    simp only [Veil.task, Task.resume, mask.cancellingAnswered_world w mask.pending]
    exact mask.turn_asJob _ fun _ => rfl
  | teardown s =>
    simp only [Veil.task, Task.resume, Veil.teardownResume_world]
    exact mask.turn_asJob _ fun _ => rfl
  | app a s =>
    simp only [Veil.task, Task.resume, Veil.appResume_world]
    exact mask.turn_asJob _ fun _ => rfl
  | listening s =>
    simp only [Veil.task, Task.resume, listeningResume_mask]
    exact mask.turn_asJob _ fun _ => rfl
  | program p =>
    cases p with
    | running a listener s =>
      simp only [Veil.task, Task.resume, Veil.appResume_world]
      exact mask.turn_andThen _ (fun _ => rfl) fun _ _ => rfl
    | joining listener result => rfl

end Jobs

/-! ## Systems -/

/-- A job behind a veil, however far it has come. -/
def Veil.job (V : Veil) (p : Progress Task Outcome) : Progress Task Outcome := p.mapStage V.task

/-- A system behind a veil. -/
def Veil.system (V : Veil) (s : System) : System :=
  { s with world := V.world s.world, jobs := s.jobs.map V.job }

namespace System

variable (s : System)

theorem outcome?_mask (n : Nat) : (mask.system s).outcome? n = s.outcome? n := by
  simp only [outcome?, Veil.system, List.getElem?_map]
  cases s.jobs[n]? with
  | none => rfl
  | some p => cases p <;> rfl

/-- What is waited for behind the veil is there when it is there in the open. -/
theorem ready_mask (wait : Wait) : (mask.system s).ready wait = s.ready wait := by
  cases wait with
  | items r =>
    show (mask.world s.world).ready (.items r) = s.world.ready (.items r)
    simp only [World.ready, Veil.receiver_world]
    rfl
  | loopEnd r =>
    show (mask.world s.world).ready (.loopEnd r) = s.world.ready (.loopEnd r)
    simp only [World.ready, Veil.receiver_world, Veil.receiver]
    cases (s.world.receiver r).loop <;> rfl
  | change i => exact congrFun (mask.isBehind_world s.world) i
  | job n => simp only [ready, outcome?_mask]
  | _ => rfl

theorem waitOf_mask (a : Actor) : (mask.system s).waitOf a = s.waitOf a := by
  cases a with
  | job n =>
    simp only [waitOf, Veil.system, List.getElem?_map]
    cases s.jobs[n]? with
    | none => rfl
    | some p =>
      cases p with
      | waiting t => exact congrArg some (mask.wait_task t)
      | _ => rfl
  | receiver r =>
    show ((mask.world s.world).receiver r).wait? r = (s.world.receiver r).wait? r
    simp only [Veil.receiver_world, Receiver.wait?, Veil.receiver]
    cases (s.world.receiver r).loop with
    | processing p => cases p <;> rfl
    | _ => rfl
  | observer => rfl

theorem isRunnable_mask (a : Actor) : (mask.system s).isRunnable a = s.isRunnable a := by
  simp only [isRunnable, waitOf_mask]
  cases s.waitOf a with
  | none => rfl
  | some wait => exact ready_mask s wait

/-! ## Moves -/

theorem settleJob_mask (n : Nat) (t : Turn Task Outcome) :
    (mask.system s).settleJob n (mask.turn mask.task t) = mask.system (s.settleJob n t) := by
  obtain ⟨w, p⟩ := t
  simp only [settleJob, Veil.system, Veil.turn, List.map_set]
  cases p <;> rfl

theorem conclude_mask (result : Except Failure Stats) (o : Outcome) (w : World) :
    Program.conclude result o (mask.world w) =
      mask.turn mask.task (Program.conclude result o w) := by
  have listened : Program.listened o (mask.world w) =
      ((Program.listened o w).1, mask.world (Program.listened o w).2) := by
    cases o <;> simp [Program.listened]
  simp only [Program.conclude, listened]
  split <;> exact mask.turn_told _ _ _

theorem stepJob_mask (n : Nat) (t : Task) :
    (mask.system s).stepJob n (mask.task t) = mask.system (s.stepJob n t) := by
  have plain : ∀ t : Task,
      (mask.system s).settleJob n ((mask.task t).resume (mask.system s).world) =
        mask.system (s.settleJob n (t.resume s.world)) := fun t => by
    rw [← settleJob_mask, ← taskResume_mask]
    rfl
  cases t with
  | program p =>
    cases p with
    | running a listener b => exact plain (.program (.running a listener b))
    | joining listener result =>
      -- here alone a job looks at another one
      simp only [Veil.task, stepJob, outcome?_mask]
      cases s.outcome? listener with
      | none => rfl
      | some o => exact (congrArg _ (conclude_mask result o s.world)).trans (settleJob_mask s n _)
  | _ => exact plain _

theorem step_mask (a : Actor) : (mask.system s).step a = mask.system (s.step a) := by
  cases a with
  | job n =>
    simp only [step]
    have hjob : (mask.system s).jobs[n]? = (s.jobs[n]?).map mask.job := by
      simp [Veil.system]
    rw [hjob]
    cases s.jobs[n]? with
    | none => rfl
    | some p =>
      cases p with
      | waiting t => exact stepJob_mask s n t
      | _ => rfl
  | receiver r =>
    exact congrArg (fun w => { mask.system s with world := w }) (mask.runReceiver_world s.world r)
  | observer i =>
    exact congrArg (fun w => { mask.system s with world := w }) (mask.observe_world s.world i)

theorem act_mask (a : Actor) : (mask.system s).act a = mask.system (s.act a) := by
  simp only [act, isRunnable_mask, step_mask]
  split <;> rfl

theorem addJob_mask (t : Turn Task Outcome) :
    (mask.system s).addJob (mask.turn mask.task t) = mask.system (s.addJob t) := by
  have added : { mask.system s with jobs := (mask.system s).jobs ++ [(mask.turn mask.task t).2] } =
      mask.system { s with jobs := s.jobs ++ [t.2] } := by
    simp [Veil.system, Veil.turn, Veil.job]
  have length : (mask.system s).jobs.length = s.jobs.length := by simp [Veil.system]
  rw [addJob, added, length, settleJob_mask, addJob]

end System

/-! ## What is asked for -/

/-- A request behind a veil. -/
def Veil.asked (V : Veil) : Request → Request
  | .opening name e => .opening name (V.endpoint e)
  | q => q

/-- Starts an application from a configuration, if there is one. -/
def Request.startLoaded (loaded : Except Config.Problem Config) (kind : HandlerKind) (w : World) :
    Turn Task Outcome :=
  match loaded with
  | .error problem => done (.failed problem.failure) (w.log problem.entry)
  | .ok config => (App.start { config, kind } w).asJob (.app { config, kind }) .stats

section Requests

variable (w : World) (h : Handles)

/-- A request acts on what its configuration is, and not on where it comes from. -/
theorem begin_loaded (lookup : Lookup) (kind : HandlerKind) :
    (Request.app lookup kind).begin h w = Request.startLoaded (Config.load lookup) kind w := rfl

theorem startLoaded_mask (loaded : Except Config.Problem Config) (kind : HandlerKind) :
    Request.startLoaded (loaded.map mask.config) kind (mask.world w) =
      mask.turn mask.task (Request.startLoaded loaded kind w) := by
  cases loaded with
  | error problem => exact mask.turn_told w _ _
  | ok config =>
    simp only [Request.startLoaded, Except.map]
    exact (congrArg (Turn.asJob · _ _) (mask.appStart_world w { config, kind })).trans
      (mask.turn_asJob _ fun _ => rfl)

theorem onLink_mask {job job' : Nat → Turn Task Outcome}
    (hj : ∀ l, job' l = mask.turn mask.task (job l)) :
    Request.onLink h (mask.world w) job' = mask.turn mask.task (Request.onLink h w job) := by
  simp only [Request.onLink]
  cases h.link with
  | none => rfl
  | some l => exact hj l

theorem onConsumer_mask {consumer : Nat} {job job' : Nat → Turn Task Outcome}
    (hj : ∀ r, job' r = mask.turn mask.task (job r)) :
    Request.onConsumer h consumer (mask.world w) job' =
      mask.turn mask.task (Request.onConsumer h consumer w job) := by
  simp only [Request.onConsumer]
  cases h.consumers[consumer]? with
  | none => rfl
  | some r => exact hj r

theorem begin_mask {q : Request} (plain : ∀ lookup kind, q ≠ .app lookup kind) :
    (mask.asked q).begin h (mask.world w) = mask.turn mask.task (q.begin h w) := by
  cases q with
  | opening name e =>
    simp only [Veil.asked, Request.begin, Veil.openingStart_world]
    exact mask.turn_andThen _ (fun _ => rfl) fun _ _ => rfl
  | close =>
    refine onLink_mask w h fun l => ?_
    rw [Veil.closingStart_world]
    exact mask.turn_asJob _ fun _ => rfl
  | status => rfl
  | declareExchange x =>
    refine onLink_mask w h fun l => ?_
    simp only [Declaring.exchange, Veil.log_world]
    exact mask.turn_call _ (.declareExchange x) (Task.declaringExchange x) fun _ => rfl
  | declareQueue q =>
    refine onLink_mask w h fun l => ?_
    simp only [Declaring.queue, Veil.log_world]
    exact mask.turn_call _ (.declareQueue q) (Task.declaringQueue q) fun _ => rfl
  | bind b =>
    refine onLink_mask w h fun l => ?_
    simp only [Declaring.binding, Veil.log_world]
    exact mask.turn_call _ (.bind b) (Task.binding b) fun _ => rfl
  | subscribe x pattern =>
    refine onLink_mask w h fun l => ?_
    rw [Veil.subscribingStart_world]
    exact mask.turn_asJob _ fun _ => rfl
  | start queue mode prefetch kind =>
    refine onLink_mask w h fun l => ?_
    simp only [Veil.startingStart_world]
    exact mask.turn_asJob _ fun _ => rfl
  | stop consumer =>
    refine onConsumer_mask w h fun r => ?_
    rw [Veil.stoppingStart_world]
    exact mask.turn_asJob _ fun _ => rfl
  | ack tag =>
    refine onLink_mask w h fun l => ?_
    exact mask.turn_call w (.basicAck tag false) (Task.acknowledging tag) fun _ => rfl
  | reject tag requeue =>
    refine onLink_mask w h fun l => ?_
    exact mask.turn_call w (.basicReject tag requeue) (Task.rejecting tag requeue) fun _ => rfl
  | cancelConsumer tag =>
    refine onLink_mask w h fun l => ?_
    rw [Veil.cancellingStart_world]
    obtain ⟨w', _ | p⟩ := Cancelling.start l tag w <;> rfl
  | run consumer given givenClose =>
    cases given with
    | some op =>
      cases givenClose with
      | some op' => rfl
      | none => exact onLink_mask w h fun l => rfl
    | none =>
      refine onConsumer_mask w h fun r => ?_
      cases givenClose with
      | some op' => rfl
      | none => exact onLink_mask w h fun l => rfl
  | app lookup kind => exact absurd rfl (plain lookup kind)
  | listen => rfl

end Requests

namespace System

/-- Starts the whole program on a configuration, if there is one. -/
def launchLoaded (s : System) (loaded : Except Config.Problem Config) : System :=
  let w := s.world.log (programEntry .info "starting topic consumer...")
  match loaded with
  | .error problem =>
    let w := w.log problem.entry
    let w := w.log (programEntry .error "invalid configuration"
      [("error", .text problem.failure.message)])
    s.addJob (w, .finished (.ok (.exit 1)))
  | .ok config =>
    let w := w.log (programEntry .info "configuration loaded"
      [("name", .text config.name), ("endpoint", .plain config.endpoint.shape)])
    let listener := s.jobs.length + 1
    let a : AppSetup := { config, kind := .logging }
    let w := { w with nextTask := w.nextTask + 1 }
    let s := s.addJob ((App.start a w).andThen
      (fun t => .program (.running a listener t)) (Task.appEnded listener))
    { s with jobs := s.jobs ++ [.waiting (.listening .fresh)] }

variable (s : System)

/-- The program acts on what its configuration is, and not on where it comes from. -/
theorem launch_loaded (env : Environment) :
    s.launch env = s.launchLoaded (Config.load env.lookup) := rfl

theorem launchLoaded_mask (loaded : Except Config.Problem Config) :
    (mask.system s).launchLoaded (loaded.map mask.config) =
      mask.system (s.launchLoaded loaded) := by
  have hworld : (mask.system s).world = mask.world s.world := rfl
  cases loaded with
  | error problem =>
    simp only [launchLoaded, Except.map, hworld, Veil.log_world]
    exact addJob_mask s (_, .finished (.ok (.exit 1)))
  | ok config =>
    have length : (mask.system s).jobs.length = s.jobs.length := by simp [Veil.system]
    have counted : ∀ w, ({ mask.world w with nextTask := (mask.world w).nextTask + 1 } : World) =
        mask.world { w with nextTask := w.nextTask + 1 } := fun _ => rfl
    have shape : (mask.config config).endpoint.shape = config.endpoint.shape := rfl
    have name : (mask.config config).name = config.name := rfl
    have started : ∀ w, (App.start { config := mask.config config, kind := .logging }
        (mask.world w)).andThen
          (fun t => .program (.running { config := mask.config config, kind := .logging }
            (s.jobs.length + 1) t)) (Task.appEnded (s.jobs.length + 1)) =
        mask.turn mask.task ((App.start { config, kind := .logging } w).andThen
          (fun t => .program (.running { config, kind := .logging } (s.jobs.length + 1) t))
          (Task.appEnded (s.jobs.length + 1))) := fun w => by
      have acts := mask.appStart_world w { config, kind := .logging }
      refine (congrArg (Turn.andThen · _ _) acts).trans ?_
      exact mask.turn_andThen _ (fun _ => rfl) fun _ _ => rfl
    simp only [launchLoaded, Except.map, hworld, length, shape, name, Veil.log_world, counted,
      started, addJob_mask]
    simp [Veil.system, Veil.job, Progress.mapStage, Veil.task]

/-- Something comes from outside. -/
theorem disturb_mask {f : World → World} (hf : ∀ w, f (mask.world w) = mask.world (f w)) :
    (mask.system s).disturb f = mask.system (s.disturb f) :=
  congrArg (fun w => { mask.system s with world := w }) (hf s.world)

theorem deliver_mask (w : World) (r : Nat) (item : Item) :
    (mask.world w).deliver r item = mask.world (w.deliver r item) :=
  mask.modifyReceiver_world w (fun v => by
    show (if v.feedClosed then _ else _) = _
    split <;> simp_all [Veil.receiver]) r

end System

/-! ## Two environments -/

/-- Two environments that are the same but for the password, which both give. -/
structure Environment.Differ (env env' : Environment) (p p' : String) : Prop where
  others : ∀ key, key ≠ Setting.password.key → List.lookup key env = List.lookup key env'
  password : env.lookup Setting.password.key = some p
  password' : env'.lookup Setting.password.key = some p'
  given : Text.allBlank p.toList = false
  given' : Text.allBlank p'.toList = false

section Environments

variable {env env' : Environment} {p p' : String}

/-- Behind the veil they are the same. -/
theorem Environment.Differ.lookup (h : env.Differ env' p p') :
    env.lookup.withPassword "***" = env'.lookup.withPassword "***" := by
  funext key
  by_cases hkey : key = Setting.password.key
  · simp [Lookup.withPassword, hkey]
  · simp [Lookup.withPassword, hkey, Environment.lookup, h.others key hkey]

/-- Where the password is given it is given as it is. -/
theorem given_of_lookup {l : Lookup} (h : l Setting.password.key = some p)
    (given : Text.allBlank p.toList = false) : l.given .password = some p := by
  simp [Lookup.given, h, given]

/-- The two configurations are the same but for the password, which they take as it is given, or
there is the same problem with both. -/
theorem Environment.Differ.loads (h : env.Differ env' p p') :
    ∃ loaded : Except Config.Problem Config,
      Config.load env.lookup = loaded.map (·.withPassword p) ∧
        Config.load env'.lookup = loaded.map (·.withPassword p') :=
  ⟨Config.load (env.lookup.withPassword "***"),
    load_of_password (given_of_lookup h.password h.given),
    h.lookup ▸ load_of_password (given_of_lookup h.password' h.given')⟩

/-- Behind the veil the configurations are the same. -/
theorem Environment.Differ.masked (h : env.Differ env' p p') :
    (Config.load env.lookup).map mask.config = (Config.load env'.lookup).map mask.config := by
  obtain ⟨loaded, hload, hload'⟩ := h.loads
  rw [hload, hload']
  cases loaded <;> rfl

end Environments

/-- Two moves that are the same but for the password: in the one it is asked for something with one
endpoint, or from one environment, and in the other with the other. -/
inductive Move.Alike (env env' : Environment) (p p' : String) : Move → Move → Prop where
  | same (m : Move) : Alike env env' p p' m m
  | opening (name : String) (e : Endpoint) : Alike env env' p p'
      (.begin (.opening name (e.withPassword p))) (.begin (.opening name (e.withPassword p')))
  | app (kind : HandlerKind) :
    Alike env env' p p' (.begin (.app env.lookup kind)) (.begin (.app env'.lookup kind))
  | launch : Alike env env' p p' (.launch env) (.launch env')

namespace System

section Runs

variable {env env' : Environment} {p p' : String} {s s' : System}

/-- What is behind the veil after a request, by what has been behind it before. -/
theorem masked_begin {q : Request} (plain : ∀ lookup kind, q ≠ .app lookup kind) (s : System) :
    mask.system (s.begin q) = (mask.system s).begin (mask.asked q) :=
  ((congrArg (addJob _) (begin_mask s.world s.handles plain)).trans (addJob_mask s _)).symm

theorem masked_begin_app (lookup : Lookup) (kind : HandlerKind) (s : System) :
    mask.system (s.begin (.app lookup kind)) = (mask.system s).addJob
      (Request.startLoaded ((Config.load lookup).map mask.config) kind (mask.system s).world) := by
  have hworld : (mask.system s).world = mask.world s.world := rfl
  rw [System.begin, begin_loaded, hworld, startLoaded_mask, addJob_mask]

/-- Two systems that are the same behind the veil are so after a move that is the same but for the
password. -/
theorem masked_move (differ : env.Differ env' p p') {m m' : Move}
    (alike : Move.Alike env env' p p' m m') (h : mask.system s = mask.system s') :
    mask.system (s.move m) = mask.system (s'.move m') := by
  have disturbed : ∀ {f : World → World}, (∀ w, f (mask.world w) = mask.world (f w)) →
      mask.system (s.disturb f) = mask.system (s'.disturb f) := fun hf => by
    rw [← disturb_mask s hf, ← disturb_mask s' hf, h]
  cases alike with
  | same =>
    cases m with
    | act a => exact (act_mask s a).symm.trans ((congrArg (act · a) h).trans (act_mask s' a))
    | begin q =>
      by_cases plain : ∀ lookup kind, q ≠ .app lookup kind
      · simp only [move, masked_begin plain, h]
      · -- an application is asked for, from the same variables in the two
        push Not at plain
        obtain ⟨lookup, kind, rfl⟩ := plain
        simp only [move, masked_begin_app, h]
    | launch env => simp only [move, launch_loaded, ← launchLoaded_mask, h]
    | deliver r item => exact disturbed fun w => deliver_mask w r item
    | endFeed r =>
      exact disturbed fun w => mask.modifyReceiver_world w
        (f := fun v => { v with feedClosed := true }) (fun _ => rfl) r
    | subscribe => exact disturbed mask.subscribe_world
    | _ => exact disturbed fun _ => rfl
  | opening name e => simp only [move, masked_begin (q := .opening _ _) (by simp), h]; rfl
  | app kind => simp only [move, masked_begin_app, h, differ.masked]
  | launch => simp only [move, launch_loaded, ← launchLoaded_mask, h, differ.masked]

theorem masked_after (differ : env.Differ env' p p') {h h' : List Move}
    (alike : List.Forall₂ (Move.Alike env env' p p') h h')
    (same : mask.system s = mask.system s') :
    mask.system (s.after h) = mask.system (s'.after h') := by
  induction alike generalizing s s' with
  | nil => exact same
  | cons hm _ ih => exact ih (masked_move differ hm same)

end Runs

end System

/-! ## Schedules -/

/-- A schedule behind a veil. -/
def Veil.schedule (V : Veil) (s : Schedule) : Schedule := { s with system := V.system s.system }

theorem total_map {α β : Type} (rank : β → Nat) (f : α → β) (l : List α) :
    total rank (l.map f) = total (fun a => rank (f a)) l := by
  simp [total, List.foldr_map]

namespace Veil

variable (V : Veil)

/-- An application behind a veil has as many steps before it. -/
theorem rank_app (s : App) : (V.app s).rank = s.rank := by
  cases s with
  | running b =>
    cases b with
    | stopping r closer st => cases st <;> rfl
    | closing l result st => cases st <;> rfl
    | _ => rfl
  | opening st => cases st <;> rfl
  | subscribing l st => cases st <;> rfl
  | starting l sub st => cases st <;> rfl
  | abandoning l f st => cases st <;> rfl

/-- So does a job, -/
theorem rank_task (t : Task) : (V.task t).rank = t.rank := by
  cases t with
  | opening s => cases s <;> rfl
  | closing l s => cases s <;> rfl
  | subscribing x pattern s => cases s <;> rfl
  | starting g s => cases s <;> rfl
  | stopping r s => cases s <;> rfl
  | teardown b => exact V.rank_app (.running b)
  | app a b => exact V.rank_app b
  | program p =>
    cases p with
    | running a listener b => exact congrArg (· + 1) (V.rank_app b)
    | joining listener result => rfl
  | _ => rfl

/-- however far it has come, -/
theorem rank_job (p : Progress Task Outcome) :
    System.jobRank (V.job p) = System.jobRank p := by
  cases p with
  | waiting t => exact V.rank_task t
  | _ => rfl

/-- and a receiver. -/
theorem rank_receiver (v : Receiver) : (V.receiver v).rank = v.rank := by
  have ended : (V.loop v.loop).isOver = v.loop.isOver := by cases v.loop <;> rfl
  have loop : (V.loop v.loop).rank = v.loop.rank := by
    cases v.loop with
    | processing p => cases p <;> rfl
    | _ => rfl
  simp only [Receiver.rank, receiver, ended, loop]

end Veil

/-- A system can make as many steps behind a veil as in the open. -/
theorem System.remaining_mask (s : System) : (mask.system s).remaining = s.remaining := by
  have behind : (mask.system s).world.isBehind = s.world.isBehind := mask.isBehind_world s.world
  simp only [remaining, behind]
  simp only [Veil.system, Veil.world, total_map, Veil.rank_job, Veil.rank_receiver]

namespace Schedule

variable (s : Schedule)

theorem system_mask : (mask.schedule s).system = mask.system s.system := rfl

theorem wake_mask : (mask.schedule s).wake = mask.schedule s.wake := by
  have runnable : (mask.system s.system).isRunnable = s.system.isRunnable :=
    funext (System.isRunnable_mask s.system)
  simp only [wake, Veil.schedule, runnable]

theorem take_mask (system : System) :
    (mask.schedule s).take (mask.system system) = mask.schedule (s.take system) := by
  have new : fresh (mask.system s.system).world (mask.system system).world =
      fresh s.system.world system.world := by
    simp [fresh, Veil.system, Veil.world]
  refine Eq.trans ?_ (wake_mask _)
  simp only [take, Veil.schedule, new]

theorem place_mask (a : Actor) {goOn : Schedule → Schedule}
    (hg : ∀ s, goOn (mask.schedule s) = mask.schedule (goOn s)) :
    (mask.schedule s).place a goOn = mask.schedule (s.place a goOn) := by
  simp only [place, Veil.schedule, System.waitOf_mask, System.ready_mask]
  split
  · rfl
  · rfl
  · split
    · exact hg s
    · rfl

theorem drive_mask (a : Actor) (fuel : Nat) (s : Schedule) :
    drive a fuel (mask.schedule s) = mask.schedule (drive a fuel s) := by
  induction fuel generalizing s with
  | zero => rfl
  | succ fuel ih =>
    simp only [drive, system_mask, System.step_mask, take_mask]
    exact place_mask _ a ih

theorem enter_mask (a : Actor) : (mask.schedule s).enter a = mask.schedule (s.enter a) := by
  simp only [enter, system_mask, System.remaining_mask]
  exact place_mask s a (drive_mask a _)

theorem run_mask (a : Actor) : (mask.schedule s).run a = mask.schedule (s.run a) := by
  simp only [run, system_mask, System.remaining_mask, System.isRunnable_mask]
  split
  · exact drive_mask a _ s
  · exact place_mask s a fun _ => rfl

theorem rounds_mask (fuel : Nat) (s : Schedule) :
    rounds fuel (mask.schedule s) = mask.schedule (rounds fuel s) := by
  induction fuel generalizing s with
  | zero => rfl
  | succ fuel ih =>
    obtain ⟨system, queue, parked, yielded⟩ := s
    cases queue with
    | cons a rest =>
      exact (congrArg (rounds fuel) (run_mask { system, queue := rest, parked, yielded } a)).trans
        (ih _)
    | nil =>
      cases yielded with
      | nil => rfl
      | cons a rest => exact ih { system, queue := a :: rest, parked, yielded := [] }

theorem settle_mask : (mask.schedule s).settle = mask.schedule s.settle := by
  simp only [settle, system_mask, System.remaining_mask]
  exact rounds_mask _ s

variable {env env' : Environment} {p p' : String}

/-- Something that is the same comes from outside. -/
theorem masked_move (differ : env.Differ env' p p') {s s' : Schedule}
    (h : mask.schedule s = mask.schedule s') (m : Move) :
    mask.schedule (s.move m) = mask.schedule (s'.move m) := by
  have system : mask.system s.system = mask.system s'.system := congrArg Schedule.system h
  simp only [move]
  rw [← take_mask, ← take_mask, h, System.masked_move differ (.same m) system]

theorem masked_moves (differ : env.Differ env' p p') (moves : List Move) {s s' : Schedule}
    (h : mask.schedule s = mask.schedule s') :
    mask.schedule (moves.foldl move s) = mask.schedule (moves.foldl move s') := by
  induction moves generalizing s s' with
  | nil => exact h
  | cons m moves ih => exact ih (masked_move differ h m)

/-- The program is started on the one environment, or on the other. -/
theorem masked_launch (differ : env.Differ env' p p') (s : Schedule) :
    mask.schedule (s.launch env) = mask.schedule (s.launch env') := by
  have taken : mask.schedule (s.take (s.system.launch env)) =
      mask.schedule (s.take (s.system.launch env')) := by
    have launched : mask.system (s.system.launch env) = mask.system (s.system.launch env') :=
      System.masked_move differ .launch rfl
    rw [← take_mask, ← take_mask, launched]
  have listens : (s.take (s.system.launch env)).system.waitOf (.job (s.system.jobs.length + 1)) =
      (s.take (s.system.launch env')).system.waitOf (.job (s.system.jobs.length + 1)) := by
    have launched : mask.system (s.take (s.system.launch env)).system =
        mask.system (s.take (s.system.launch env')).system := congrArg Schedule.system taken
    rw [← System.waitOf_mask, launched, System.waitOf_mask]
  simp only [launch, listens]
  split
  · rw [← enter_mask, ← enter_mask]
    exact congrArg (fun t => ({ t with queue := t.queue ++ [.job (s.system.jobs.length + 1)] } :
      Schedule).enter (.job s.system.jobs.length)) taken
  · rw [← enter_mask, ← enter_mask, taken]

end Schedule

/-! ## What is seen -/

/-- What an event says about a span. -/
def Event.span? : Event → Option (Nat × SpanRecord)
  | .span n r => some (n, r)
  | _ => none

/-- What is seen of two systems is the same. -/
structure System.Indistinct (s s' : System) : Prop where
  /-- The same things have happened, the same calls and answers among them; of a call that connects
  the password is not looked at. -/
  events : s.world.trace.map mask.event = s'.world.trace.map mask.event
  /-- The journals are the same, at every level and in every field, -/
  journal : Simulation.journal s = Simulation.journal s'
  /-- and so are the spans, -/
  spans : s.world.trace.filterMap Event.span? = s'.world.trace.filterMap Event.span?
  /-- the outcomes of all jobs, -/
  outcomes : ∀ n, s.outcome? n = s'.outcome? n
  /-- the exit code of the program, -/
  exitCode : Simulation.exitCode s = Simulation.exitCode s'
  /-- the stage of the lifecycle, -/
  lifecycle : s.world.lifecycle = s'.world.lifecycle
  /-- and those who can go on. -/
  runnable : ∀ a, s.isRunnable a = s'.isRunnable a

/-- What is the same behind the veil cannot be told apart. -/
theorem System.indistinct_of_masked {s s' : System} (h : mask.system s = mask.system s') :
    s.Indistinct s' := by
  have trace : s.world.trace.map mask.event = s'.world.trace.map mask.event :=
    congrArg (fun s => s.world.trace) h
  have read : ∀ {α : Type} {f : Event → Option α}, (∀ e, f (mask.event e) = f e) →
      s.world.trace.filterMap f = s'.world.trace.filterMap f := fun {α f} hf => by
    have hmap := congrArg (List.filterMap f) trace
    simpa only [List.filterMap_map, Function.comp_def, hf] using hmap
  have outcomes : ∀ n, s.outcome? n = s'.outcome? n := fun n => by
    rw [← outcome?_mask s, ← outcome?_mask s', h]
  constructor
  case events => exact trace
  case journal => exact read fun e => by cases e <;> rfl
  case spans => exact read fun e => by cases e <;> rfl
  case outcomes => exact outcomes
  case exitCode => rw [Simulation.exitCode, outcomes 0, Simulation.exitCode]
  case lifecycle => exact congrArg (fun s => s.world.lifecycle) h
  case runnable => exact fun a => by rw [← isRunnable_mask s, ← isRunnable_mask s', h]

/-- What is said of two environments with different passwords. -/
structure Environment.Unseen (env env' : Environment) (p p' : String) : Prop where
  /-- There is the same problem with the two, or they load the same configuration but for the
  password, which is the one that is given. -/
  loads : ∃ loaded : Except Config.Problem Config,
    Config.load env.lookup = loaded.map (·.withPassword p) ∧
      Config.load env'.lookup = loaded.map (·.withPassword p')
  /-- As a value the configuration is shown in the same way. -/
  shown : ∀ c : Config, (c.withPassword p).shape = (c.withPassword p').shape
  /-- Whatever is asked for with the one and with the other, and whatever else happens in whatever
  order: nothing that is seen is different. -/
  histories : ∀ (s : System) (h h' : List Move), List.Forall₂ (Move.Alike env env' p p') h h' →
    (s.after h).Indistinct (s.after h')
  /-- When the program runs on a single thread, nothing is, either, -/
  runs : ∀ m : Simulation, (m.run env).Indistinct (m.run env')
  /-- and it prints the same lines. -/
  lines : ∀ (m : Simulation) (allComponents : Bool),
    Simulation.lines allComponents env (m.run env) =
      Simulation.lines allComponents env' (m.run env')

/-- The program runs in the same way on two environments that differ in the password. -/
theorem Environment.Differ.run_masked {env env' : Environment} {p p' : String}
    (differ : env.Differ env' p p') (m : Simulation) :
    mask.system (m.run env) = mask.system (m.run env') := by
  have settled : ∀ {s s' : Schedule}, mask.schedule s = mask.schedule s' →
      mask.schedule s.settle = mask.schedule s'.settle := fun h => by
    rw [← Schedule.settle_mask, ← Schedule.settle_mask, h]
  have launched := settled (Schedule.masked_launch differ { system := { world := m.world } })
  have fed := settled (Schedule.masked_moves differ m.feed launched)
  exact congrArg Schedule.system (settled (Schedule.masked_moves differ m.raise fed))

/-- Of the password nothing is seen. -/
theorem password_unseen {env env' : Environment} {p p' : String} (differ : env.Differ env' p p') :
    env.Unseen env' p p' := by
  have runs : ∀ m : Simulation, (m.run env).Indistinct (m.run env') := fun m =>
    System.indistinct_of_masked (differ.run_masked m)
  -- which lines are printed depends on a variable, but on another one
  have threshold : env.lookup Simulation.thresholdVariable =
      env'.lookup Simulation.thresholdVariable := by
    simp only [Environment.lookup, differ.others Simulation.thresholdVariable (by decide)]
  constructor
  case loads => exact differ.loads
  case shown => exact fun _ => rfl
  case histories =>
    exact fun s h h' alike => System.indistinct_of_masked (System.masked_after differ alike rfl)
  case runs => exact runs
  case lines =>
    intro m allComponents
    simp only [Simulation.lines, Simulation.printed, threshold, (runs m).journal]

/-- An environment with a password. -/
def environmentWith (p : String) : Environment :=
  .ofTexts [(Setting.host.key, "localhost"), (Setting.password.key, p)]

theorem password_unseen_environmentWith :
    (environmentWith "guest").Unseen (environmentWith "s3cret") "guest" "s3cret" ∧
      (Config.load (environmentWith "guest").lookup).map (·.endpoint.password) = .ok "guest" ∧
      (Config.load (environmentWith "s3cret").lookup).map (·.endpoint.password) =
        .ok "s3cret" := by
  refine ⟨password_unseen ⟨fun key other => ?_, rfl, rfl, by decide, by decide⟩, rfl, rfl⟩
  have hkey : (key == Setting.password.key) = false := beq_false_of_ne other
  simp [environmentWith, Environment.ofTexts, List.lookup_cons, hkey]

end TopicWorker
