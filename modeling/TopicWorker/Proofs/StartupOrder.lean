import TopicWorker.Proofs.Rundown
import TopicWorker.Proofs.Startup

/-!
# The order of startup

An application makes the calls of its startup one by one. Each call is made when the one before
it has succeeded, and the first that fails is the last: its failure is what the application ends
with, however the close of the link goes after it. So what an application has done is at any
moment given by the names that have been answered to its first steps, by the step after them,
and by what has come of that one.

## Main definitions

* `StartupStep`, `AppSetup.steps`: the steps of startup, with the call and the failure of each.
* `App.Course`: what has been done, by how far the application has come.
* `System.startApp`: the system in which an application has just been started.
* `System.StartsUp`: what is said of the startup of an application.

## Main results

* `keepsTo_appResume`: every turn of an application keeps to the course.
* `System.starts_in_order`: every application starts up in order.
-/

namespace TopicWorker

/-! ## The steps -/

/-- A step of the startup of an application. -/
inductive StartupStep where
  | connection
  | channel
  | exchange
  | queue
  | binding
  /-- The bound on unsettled deliveries. -/
  | bound (count : UInt16)
  | consumer
  deriving DecidableEq, Repr

namespace StartupStep

/-- The call of a step, given the name of the queue and the tag of the consumer. -/
def call (a : AppSetup) (queue tag : String) : StartupStep → Call
  | connection => .connect a.config.endpoint a.config.name
  | channel => .createChannel
  | exchange => .exchangeDeclare "users" .topic { durable := true }
  | .queue => .queueDeclare "" { exclusive := true, autoDelete := true }
  | binding => .queueBind queue "users" "user.event.*" false
  | bound count => .basicQos count false
  | consumer => .basicConsume queue tag { noAck := a.config.ackMode.isAuto, exclusive := true }

/-- Whether a step is one of the two in which the link is opened. -/
def opens : StartupStep → Bool
  | connection | channel => true
  | _ => false

/-- What an application fails with when the call of a step is refused. -/
def failure (queue : String) (fault : Fault) : StartupStep → Failure
  | connection => .connection fault.message
  | channel => .channel
  | exchange =>
    if fault.isPreconditionFailed then .topologyMismatch "users" else .exchangeDeclaration "users"
  | .queue => if fault.isPreconditionFailed then .topologyMismatch "" else .queueDeclaration ""
  | binding => .binding "users" queue
  | bound _ => .prefetch fault.message
  | consumer => .registration queue

end StartupStep

namespace AppSetup

variable (a : AppSetup)

/-- The bound that an application asks for: the one that is given, in manual mode. -/
def bound? : Option UInt16 :=
  match a.config.ackMode with
  | .auto => none
  | .manual _ => a.config.prefetch

/-- The steps of the startup of an application, in order. -/
def steps : List StartupStep :=
  [.connection, .channel, .exchange, .queue, .binding] ++ a.bound?.toList.map .bound ++ [.consumer]

/-- The name of the queue: the one that is answered to its declaration. -/
def queueNamed (names : List (Option String)) : String :=
  ((a.steps.zip names).lookup .queue).elim "" (assignedName "")

/-- The first steps, each with the name that is answered to it. -/
def succeeded (tag : String) (names : List (Option String)) : List Event :=
  (a.steps.zip names).flatMap fun (step, name) =>
    exchange (step.call a (a.queueNamed names) tag) (some (.done name))

/-- The first steps, and the next one with what it is answered. -/
def answered (tag : String) (names : List (Option String)) (step : StartupStep) (x : Answer) :
    List Event :=
  a.succeeded tag names ++ exchange (step.call a (a.queueNamed names) tag) (some x)

end AppSetup

section Names

variable (a : AppSetup)

/-- One more step has succeeded. -/
theorem zip_concat {σ τ : Type} {l : List σ} {m : List τ} {x : σ} (h : l[m.length]? = some x)
    (y : τ) : l.zip (m ++ [y]) = l.zip m ++ [(x, y)] := by
  induction m generalizing l with
  | nil =>
    cases l with
    | nil => cases h
    | cons x' l =>
      cases h
      simp
  | cons y' m ih =>
    cases l with
    | nil => cases h
    | cons x' l => simp [ih (l := l) h]

/-- A step that succeeds joins the others; it gives no name to the queue, unless it declares it. -/
theorem AppSetup.answered_done {names : List (Option String)} {step : StartupStep}
    (next : a.steps[names.length]? = some step) (tag : String) {name : Option String}
    (same : a.queueNamed (names ++ [name]) = a.queueNamed names) :
    a.answered tag names step (.done name) = a.succeeded tag (names ++ [name]) := by
  simp [answered, succeeded, zip_concat next, same]

/-- The steps up to the declaration of the queue ask for nothing by its name. -/
theorem AppSetup.answered_queue (tag : String) (n₁ n₂ n₃ n₄ : Option String) :
    a.answered tag [n₁, n₂, n₃] .queue (.done n₄) = a.succeeded tag [n₁, n₂, n₃, n₄] := by
  simp [answered, succeeded, steps]
  rfl

/-- The steps before the last ask for nothing under the tag of the consumer. -/
theorem AppSetup.succeeded_untagged (tag tag' : String) (n₁ n₂ n₃ n₄ n₅ : Option String)
    {bounded : List (Option String)} (h : bounded.length = a.bound?.toList.length) :
    a.succeeded tag (n₁ :: n₂ :: n₃ :: n₄ :: n₅ :: bounded) =
      a.succeeded tag' (n₁ :: n₂ :: n₃ :: n₄ :: n₅ :: bounded) := by
  cases hb : a.bound? with
  | none =>
    obtain rfl : bounded = [] := by simpa [hb] using h
    simp [succeeded, steps, hb, StartupStep.call]
  | some count =>
    obtain ⟨n₆, rfl⟩ : ∃ n₆, bounded = [n₆] := by
      rw [hb] at h
      exact List.length_eq_one_iff.mp h
    simp [succeeded, steps, hb, StartupStep.call]

end Names

/-! ## The course of an application -/

namespace App

/-- The subscription of every application, by the name of its queue. -/
def subscription (queue : String) : Subscription :=
  { exchange := usersExchange.name, queue, pattern := userEventPattern }

/-- Where an application stands that has made the call of a step, after some names have been
answered to the steps before it. -/
inductive Asks (a : AppSetup) (tag : String) :
    List (Option String) → StartupStep → Pending → App → Prop where
  | connection (p : Pending) : Asks a tag [] .connection p (.opening (.connecting p))
  | channel (n₁ : Option String) (l : Nat) (p : Pending) :
    Asks a tag [n₁] .channel p (.opening (.openingChannel l p))
  | exchange (n₁ n₂ : Option String) (l : Nat) (p : Pending) :
    Asks a tag [n₁, n₂] .exchange p (.subscribing l (.exchange p))
  | queue (n₁ n₂ n₃ : Option String) (l : Nat) (p : Pending) :
    Asks a tag [n₁, n₂, n₃] .queue p (.subscribing l (.queue p))
  | binding (n₁ n₂ n₃ n₄ : Option String) (l : Nat) (p : Pending) :
    Asks a tag [n₁, n₂, n₃, n₄] .binding p
      (.subscribing l (.binding (subscription (assignedName "" n₄)) p))
  | bound (n₁ n₂ n₃ n₄ n₅ : Option String) (count : UInt16) (h : a.bound? = some count) (l : Nat)
    (p : Pending) : Asks a tag [n₁, n₂, n₃, n₄, n₅] (.bound count) p
      (.starting l (subscription (assignedName "" n₄)) (.bounding p))
  | consumer (n₁ n₂ n₃ n₄ n₅ : Option String) (bounded : List (Option String))
    (h : bounded.length = a.bound?.toList.length) (l : Nat) (p : Pending) :
    Asks a tag (n₁ :: n₂ :: n₃ :: n₄ :: n₅ :: bounded) .consumer p
      (.starting l (subscription (assignedName "" n₄)) (.registering tag p))

/-- The course of an application, as far as its startup determines it. -/
inductive Course (a : AppSetup) : Progress App (Except Failure Stats) → List Event → Prop where
  /-- The first steps have succeeded, and the answer to the next is awaited. -/
  | asking (tag : String) (names : List (Option String)) (step : StartupStep) (p : Pending)
    (s : App) (asks : Asks a tag names step p s)
    (call : p.call = step.call a (a.queueNamed names) tag) :
    Course a (.waiting s) (a.succeeded tag names ++ [.called p.call])
  /-- A step in which the link is opened has been refused, and its failure is the result. -/
  | unopened (tag : String) (names : List (Option String)) (step : StartupStep) (fault : Fault)
    (next : a.steps[names.length]? = some step) (opens : step.opens = true) :
    Course a (.finished (.error (step.failure (a.queueNamed names) fault)))
      (a.answered tag names step (.refused fault))
  /-- A later step has been refused, and the link is being closed. -/
  | givingUp (tag : String) (names : List (Option String)) (step : StartupStep) (fault : Fault)
    (l : Nat) (s : Closing) (d : List Event) (next : a.steps[names.length]? = some step)
    (opens : step.opens = false) (h : Closing.Course (.waiting s) d) :
    Course a (.waiting (.abandoning l (step.failure (a.queueNamed names) fault) s))
      (a.answered tag names step (.refused fault) ++ d)
  /-- A later step has been refused, and after the close its failure is the result. -/
  | gaveUp (tag : String) (names : List (Option String)) (step : StartupStep) (fault : Fault)
    (closed : Except Failure Unit) (d : List Event) (next : a.steps[names.length]? = some step)
    (opens : step.opens = false) (h : Closing.Course (.finished closed) d) :
    Course a (.finished (.error (step.failure (a.queueNamed names) fault)))
      (a.answered tag names step (.refused fault) ++ d)
  /-- The broker client has broken down in a step. -/
  | died (tag : String) (names : List (Option String)) (step : StartupStep)
    (payload : Option String) (next : a.steps[names.length]? = some step) :
    Course a (.crashed payload) (a.answered tag names step (.crashed payload))
  /-- A later step has been refused, and the broker client has broken down in the close. -/
  | diedClosing (tag : String) (names : List (Option String)) (step : StartupStep) (fault : Fault)
    (payload : Option String) (d : List Event) (next : a.steps[names.length]? = some step)
    (opens : step.opens = false) (h : Closing.Course (.crashed payload) d) :
    Course a (.crashed payload) (a.answered tag names step (.refused fault) ++ d)
  /-- All steps have succeeded, and nothing more is set up. -/
  | up (tag : String) (names : List (Option String)) (p : Progress App (Except Failure Stats))
    (more : List Event) (all : names.length = a.steps.length)
    (late : ∀ c, .called c ∈ more → c.method.setsUp = false)
    (running : p.All fun s => s.isUp = true) : Course a p (a.succeeded tag names ++ more)

/-- An application whose startup is over is being torn down, or blocks until it is. -/
theorem of_isUp {s : App} (h : s.isUp = true) : ∃ b, s = .running b := by
  cases s with
  | running b => exact ⟨b, rfl⟩
  | _ => cases h

section Asking

variable {a : AppSetup} {tag : String} {names : List (Option String)} {step : StartupStep}
  {p : Pending} {s : App}

/-- The step that is asked for comes after those that have succeeded. -/
theorem Asks.next (h : Asks a tag names step p s) : a.steps[names.length]? = some step := by
  cases h with
  | bound n₁ n₂ n₃ n₄ n₅ count h => simp [AppSetup.steps, h]
  | consumer n₁ n₂ n₃ n₄ n₅ bounded h =>
    cases hb : a.bound? <;> simp_all [AppSetup.steps]
  | _ => rfl

end Asking

/-- Until an application is up it waits for the answer to a call. -/
theorem wait_of_down {s : App} (down : s.isUp = false) :
    ∃ p, s.pending? = some p ∧ s.wait = p.wait := by
  cases s with
  | opening s => cases s <;> exact ⟨_, rfl, rfl⟩
  | subscribing l s => cases s <;> exact ⟨_, rfl, rfl⟩
  | starting l sub s => cases s <;> exact ⟨_, rfl, rfl⟩
  | running s => cases down
  | abandoning l f s => cases s <;> exact ⟨_, rfl, rfl⟩

end App

section Operations

open Turn

variable {a : AppSetup} {tag : String} {names : List (Option String)} {step : StartupStep}
  {done : List Event} (w : World)

/-- A step that has been asked for is answered: startup goes on, or gives up, or the application
is taken along. -/
theorem keepsTo_answered {p : Pending} {s : App} (asks : App.Asks a tag names step p s)
    (call : p.call = step.call a (a.queueNamed names) tag) {report : Fault → LogEntry}
    {onDone : Option String → World → Turn App (Except Failure Stats)}
    {onFault : Fault → World → Turn App (Except Failure Stats)}
    (hd : ∀ name w', (onDone name w').KeepsTo (App.Course a) w'
      (a.answered tag names step (.done name)))
    (hf : ∀ fault w', (onFault fault w').KeepsTo (App.Course a) w'
      (a.answered tag names step (.refused fault))) :
    (p.resolve w report onDone onFault).KeepsTo (App.Course a) w
      (a.succeeded tag names ++ [.called p.call]) := by
  have hdone : ∀ x, a.succeeded tag names ++ [.called p.call] ++ [.answered p.call x] =
      a.answered tag names step x := fun x => by
    rw [call, List.append_assoc]
    rfl
  refine keepsTo_resolve p (fun name w' => ?_) (fun fault w' => ?_) fun payload => ?_
  · rw [hdone]
    exact hd name w'
  · rw [hdone]
    exact hf fault w'
  · rw [hdone]
    exact .died tag names step payload asks.next

/-- A refusal before there is a link to close is the end. -/
theorem keepsTo_failed (next : a.steps[names.length]? = some step) (opens : step.opens = true)
    (fault : Fault) : Turn.KeepsTo (σ := App) (App.Course a) w
      (a.answered tag names step (.refused fault))
      (w, .finished (.error (step.failure (a.queueNamed names) fault))) :=
  KeepsTo.rests (.unopened tag names step fault next opens) rfl

/-- After a closing that follows a refusal the failure of the step is the result. -/
theorem keepsTo_givingUp (next : a.steps[names.length]? = some step)
    (opens : step.opens = false) (fault : Fault) (l : Nat)
    {t : Turn Closing (Except Failure Unit)} (h : t.KeepsTo Closing.Course w done) :
    (t.andThen (.abandoning l (step.failure (a.queueNamed names) fault)) fun _ w =>
      (w, .finished (.error (step.failure (a.queueNamed names) fault)))).KeepsTo (App.Course a) w
      (a.answered tag names step (.refused fault) ++ done) :=
  KeepsTo.andThen _ h (fun s d hs => .givingUp tag names step fault l s d next opens hs)
    (fun payload d hd => .diedClosing tag names step fault payload d next opens hd)
    fun result _ d hr => KeepsTo.rests (.gaveUp tag names step fault result d next opens hr) rfl

/-- A refusal once there is a link: the link is closed. -/
theorem keepsTo_abandon (next : a.steps[names.length]? = some step) (opens : step.opens = false)
    (fault : Fault) (l : Nat) :
    (App.abandon l (step.failure (a.queueNamed names) fault) w).KeepsTo (App.Course a) w
      (a.answered tag names step (.refused fault)) := by
  rw [← List.append_nil (a.answered tag names step (.refused fault))]
  exact keepsTo_givingUp w next opens fault l (keepsTo_closingStart w l)

/-- An application registers its consumer once nothing is to be done before it. -/
theorem keepsTo_register (n₁ n₂ n₃ n₄ n₅ : Option String) {bounded : List (Option String)}
    (h : bounded.length = a.bound?.toList.length) (l : Nat)
    (next : Subscription → Except Failure Nat → World → Turn App (Except Failure Stats)) :
    ((Starting.register (a.registration l (App.subscription (assignedName "" n₄))) w).andThen
      (.starting l (App.subscription (assignedName "" n₄)))
      (next (App.subscription (assignedName "" n₄)))).KeepsTo (App.Course a) w
        (a.succeeded tag (n₁ :: n₂ :: n₃ :: n₄ :: n₅ :: bounded)) := by
  rw [a.succeeded_untagged tag (consumerTag (w.registrations + 1)) n₁ n₂ n₃ n₄ n₅ h]
  refine KeepsTo.of_acts_eq (v := { w with registrations := w.registrations + 1 }) ?_ rfl
  exact keepsTo_call (.asking _ _ _ _ _ (.consumer n₁ n₂ n₃ n₄ n₅ bounded h l _) rfl)

/-- A registration begins with the bound, if there is to be one. -/
theorem AppSetup.startingStart (a : AppSetup) (l : Nat) (sub : Subscription) :
    Starting.start (a.registration l sub) w =
      match a.bound? with
      | some count => ((w.call (.basicQos count false)).1,
          .waiting (.bounding (w.call (.basicQos count false)).2))
      | none => Starting.register (a.registration l sub) w := by
  cases hm : a.config.ackMode <;> cases hp : a.config.prefetch <;>
    simp [Starting.start, registration, bound?, hm, hp]

/-- Once the queue is bound an application bounds its unsettled deliveries, if it is to do so, and
else registers its consumer. -/
theorem keepsTo_subscribed (n₁ n₂ n₃ n₄ n₅ : Option String) (l : Nat) :
    (App.subscribed a l (.ok (App.subscription (assignedName "" n₄))) w).KeepsTo (App.Course a) w
      (a.succeeded tag [n₁, n₂, n₃, n₄, n₅]) := by
  have hstart := a.startingStart w l (App.subscription (assignedName "" n₄))
  simp only [App.subscribed]
  cases hb : a.bound? with
  | none =>
    rw [hb] at hstart
    rw [hstart]
    exact keepsTo_register w n₁ n₂ n₃ n₄ n₅ (by simp [hb]) l _
  | some count =>
    rw [hb] at hstart
    rw [hstart]
    exact keepsTo_call (.asking tag _ _ _ _ (.bound n₁ n₂ n₃ n₄ n₅ count hb l _) rfl)

/-- An application whose consumer is registered is up. -/
theorem keepsTo_started (all : names.length = a.steps.length) (l r : Nat) (sub : Subscription) :
    (App.started l sub (.ok r) w).KeepsTo (App.Course a) w (a.succeeded tag names) := by
  refine KeepsTo.rests ?_ (acts_log _ _)
  have h := App.Course.up tag names (.waiting (.running (.blocked (.receiver r) (.link l)))) [] all
    (fun _ hc => by cases hc) rfl
  rwa [List.append_nil] at h

/-- An application that has asked for a step goes on on its course. -/
theorem keepsTo_asking {p : Pending} {s : App} (asks : App.Asks a tag names step p s)
    (call : p.call = step.call a (a.queueNamed names) tag) :
    (s.resume a w).KeepsTo (App.Course a) w (a.succeeded tag names ++ [.called p.call]) := by
  have next := asks.next
  cases asks with
  | connection =>
    simp only [App.resume, Opening.resume, resolve_andThen]
    refine keepsTo_answered w (.connection p) call (fun n₁ w' => ?_) fun fault w' => ?_
    · rw [a.answered_done next tag rfl]
      refine KeepsTo.of_acts_eq (KeepsTo.log (KeepsTo.log (keepsTo_call ?_))) rfl
      exact .asking tag _ _ _ _ (.channel n₁ _ _) rfl
    · exact keepsTo_failed w' next rfl fault
  | channel n₁ l =>
    simp only [App.resume, Opening.resume, resolve_andThen]
    refine keepsTo_answered w (.channel n₁ l p) call (fun n₂ w' => ?_) fun fault w' => ?_
    · rw [a.answered_done next tag rfl]
      refine KeepsTo.of_acts_eq (KeepsTo.log (KeepsTo.log (keepsTo_call ?_))) rfl
      exact .asking tag _ _ _ _ (.exchange n₁ n₂ l _) rfl
    · exact keepsTo_failed w' next rfl fault
  | exchange n₁ n₂ l =>
    simp only [App.resume, Subscribing.resume, Declaring.exchangeAnswered, resolve_andThen]
    refine keepsTo_answered w (.exchange n₁ n₂ l p) call (fun n₃ w' => ?_) fun fault w' => ?_
    · rw [a.answered_done next tag rfl]
      refine KeepsTo.log (KeepsTo.log (keepsTo_call ?_))
      exact .asking tag _ _ _ _ (.queue n₁ n₂ n₃ l _) rfl
    · exact keepsTo_abandon w' next rfl fault l
  | queue n₁ n₂ n₃ l =>
    simp only [App.resume, Subscribing.resume, Declaring.queueAnswered, resolve_andThen]
    refine keepsTo_answered w (.queue n₁ n₂ n₃ l p) call (fun n₄ w' => ?_) fun fault w' => ?_
    · rw [a.answered_queue tag]
      refine KeepsTo.log (KeepsTo.log (keepsTo_call ?_))
      exact .asking tag _ _ _ _ (.binding n₁ n₂ n₃ n₄ l _) rfl
    · exact keepsTo_abandon w' next rfl fault l
  | binding n₁ n₂ n₃ n₄ l =>
    simp only [App.resume, Subscribing.resume, Declaring.bindingAnswered, resolve_andThen]
    refine keepsTo_answered w (.binding n₁ n₂ n₃ n₄ l p) call (fun n₅ w' => ?_) fun fault w' => ?_
    · rw [a.answered_done next tag rfl]
      refine (keepsTo_subscribed _ n₁ n₂ n₃ n₄ n₅ l).of_acts_eq ?_
      exact (acts_log _ _).trans (acts_log _ _)
    · exact keepsTo_abandon w' next rfl fault l
  | bound n₁ n₂ n₃ n₄ n₅ count h l =>
    simp only [App.resume, Starting.resume, resolve_andThen]
    refine keepsTo_answered w (.bound n₁ n₂ n₃ n₄ n₅ count h l p) call (fun n₆ w' => ?_)
      fun fault w' => ?_
    · rw [a.answered_done next tag rfl]
      exact keepsTo_register w' n₁ n₂ n₃ n₄ n₅ (by simp [h]) l _
    · exact keepsTo_abandon w' next rfl fault l
  | consumer n₁ n₂ n₃ n₄ n₅ bounded h l =>
    simp only [App.resume, Starting.resume, resolve_andThen]
    refine keepsTo_answered w (.consumer n₁ n₂ n₃ n₄ n₅ bounded h l p) call (fun name w' => ?_)
      fun fault w' => ?_
    · rw [a.answered_done next tag rfl]
      have all : (n₁ :: n₂ :: n₃ :: n₄ :: n₅ :: bounded ++ [name]).length = a.steps.length := by
        rw [List.length_append]
        simp [AppSetup.steps, h]
      exact (keepsTo_started _ all l _ _).of_acts_eq (acts_log _ _)
    · exact keepsTo_abandon w' next rfl fault l

/-- A teardown sets nothing up. -/
theorem setsUp_of_teardown {b : Teardown} {m : Method} (h : b.method? = some m) :
    m.setsUp = false := by
  cases b with
  | stopping r closer s =>
    cases s <;> cases h
    rfl
  | closing l result s => cases s <;> cases h <;> rfl
  | _ => cases h

/-- An application that is up stays so and sets nothing up any more. -/
theorem keepsTo_running (all : names.length = a.steps.length) (b : Teardown) {more : List Event}
    (late : ∀ c, .called c ∈ more → c.method.setsUp = false) :
    (App.resume a (.running b) w).KeepsTo (App.Course a) w (a.succeeded tag names ++ more) := by
  have running : (App.resume a (.running b) w).2.All fun s => s.isUp = true :=
    all_andThen (all_true _) (fun _ _ => rfl) fun _ _ => trivial
  obtain ⟨news, htrace, hcalls⟩ := (speaks_appResume w a (.running b)).calls
  have hfits := fits_appResume w a (.running b)
  generalize App.resume a (.running b) w = t at *
  refine ⟨acts news, by rw [htrace, acts_append], ?_⟩
  rw [List.append_assoc]
  refine .up tag names t.2 _ all (fun c hc => ?_) running
  rcases List.mem_append.mp hc with hc | hc
  · exact late c hc
  · obtain ⟨s, p, hs, hp, rfl⟩ := hcalls c (List.mem_filter.mp hc).1
    rw [hs] at running hfits
    obtain ⟨b', rfl⟩ := App.of_isUp running
    have hmethod : (b'.pending?).map (·.call.method) = b'.method? := hfits
    have hp' : b'.pending? = some p := hp
    rw [hp'] at hmethod
    exact setsUp_of_teardown hmethod.symm

/-- Every turn of an application keeps to the course. -/
theorem keepsTo_appResume {s : App} (h : App.Course a (.waiting s) done) :
    (s.resume a w).KeepsTo (App.Course a) w done := by
  cases h with
  | asking tag names step p _ asks call => exact keepsTo_asking w asks call
  | givingUp tag names step fault l c d next opens h =>
    exact keepsTo_givingUp w next opens fault l (keepsTo_closingResume w l h)
  | up tag names _ more all late running =>
    obtain ⟨b, rfl⟩ := App.of_isUp running
    exact keepsTo_running w all b late

/-- So does the first. -/
theorem keepsTo_appStart : (App.start a w).KeepsTo (App.Course a) w [] :=
  KeepsTo.log (keepsTo_call (.asking "" [] _ _ _ (.connection _) rfl))

end Operations

/-! ## The job of an application -/

/-- How far the job of an application has come. -/
def Progress.asApp (a : AppSetup) : Progress App (Except Failure Stats) → Progress Task Outcome
  | .waiting s => .waiting (.app a s)
  | .finished result => .finished (.ofResult .stats result)
  | .crashed payload => .crashed payload

theorem asJob_app (a : AppSetup) (t : Turn App (Except Failure Stats)) :
    t.asJob (.app a) .stats = (t.1, t.2.asApp a) := by
  obtain ⟨w, p⟩ := t
  cases p <;> rfl

namespace System

/-- The system in which an application has just been started, as a job of its own. -/
def startApp (s : System) (a : AppSetup) : System :=
  s.addJob ((App.start a s.world).asJob (.app a) .stats)

/-- A request for an application starts it, once its configuration can be loaded. -/
theorem begin_app (s : System) {lookup : Lookup} {config : Config}
    (h : Config.load lookup = .ok config) (kind : HandlerKind) :
    s.begin (.app lookup kind) = s.startApp { config, kind } := by
  simp only [begin, Request.begin, Request.startApp, h]
  rfl

/-- What an application does when it is started, and in the course of the history after that. -/
def appDeeds (s : System) (a : AppSetup) (h : List Move) : List Event :=
  (s.startApp a).world.trace.drop s.world.trace.length ++
    eventsBy (.job s.jobs.length) ((s.startApp a).deeds h)

section Started

variable (s : System) (a : AppSetup)

theorem world_startApp : (s.startApp a).world = (App.start a s.world).1 := by
  rw [startApp, asJob_app]
  rfl

theorem job_startApp :
    (s.startApp a).jobs[s.jobs.length]? = some ((App.start a s.world).2.asApp a) := by
  rw [startApp, asJob_app]
  exact (s.turned_addJob _).job

/-- One more move. -/
theorem appDeeds_concat (h : List Move) (m : Move) : s.appDeeds a (h ++ [m]) =
    s.appDeeds a h ++ eventsBy (.job s.jobs.length) (((s.startApp a).after h).doing m) := by
  rw [appDeeds, eventsBy_deeds_concat, ← List.append_assoc]
  rfl

/-- What has been done stays done. -/
theorem appDeeds_prefix (h h' : List Move) : s.appDeeds a h <+: s.appDeeds a (h ++ h') := by
  rw [appDeeds, appDeeds, deeds_append, eventsBy_append, ← List.append_assoc]
  exact List.prefix_append _ _

/-- An application that has been started is on its course. -/
theorem course_started (h : List Move) :
    ∃ p, ((s.startApp a).after h).jobs[s.jobs.length]? = some (p.asApp a) ∧
      App.Course a p (acts (s.appDeeds a h)) := by
  induction h using List.reverseRecOn with
  | nil =>
    obtain ⟨more, hmore, hcourse⟩ := keepsTo_appStart (a := a) s.world
    obtain ⟨told, -, htrace⟩ := speaks_appStart s.world a
    refine ⟨(App.start a s.world).2, s.job_startApp a, ?_⟩
    rw [htrace, acts_append] at hmore
    rw [appDeeds, s.world_startApp a, htrace, List.drop_left, deeds, eventsBy_nil, List.append_nil,
      List.append_cancel_left hmore]
    exact hcourse
  | append_singleton h m ih =>
    obtain ⟨p, job, hcourse⟩ := ih
    rw [after_concat, appDeeds_concat, acts_append]
    rcases move_of_job job m with ⟨hno, hsame⟩ | ⟨t, ht, ready, rfl⟩
    · refine ⟨p, hsame, ?_⟩
      rw [doing_of_no_turn hno]
      simpa [acts] using hcourse
    · cases p with
      | waiting b =>
        cases ht
        have takes := Takes.goesOn job ready
        have hturn : ((s.startApp a).after h).turn (.app a b) =
            ((b.resume a ((s.startApp a).after h).world).1,
              (b.resume a ((s.startApp a).after h).world).2.asApp a) := asJob_app a _
        rw [hturn] at takes
        obtain ⟨more, hmore, hkept⟩ := keepsTo_appResume ((s.startApp a).after h).world hcourse
        refine ⟨_, takes.turned.job, ?_⟩
        rw [acts_of_takes takes hmore]
        exact hkept
      | finished result => cases ht
      | crashed payload => cases ht

end Started

end System

/-! ## Before a consumer is registered -/

/-- Whether a consumer has been registered, by what has been done. -/
def Registered (done : List Event) : Prop :=
  ∃ c name, c.method = .basicConsume ∧ .answered c (.done name) ∈ done

section Down

variable {a : AppSetup}

/-- An application whose steps have all succeeded has registered its consumer. -/
theorem registered_of_all {tag : String} {names : List (Option String)}
    (all : names.length = a.steps.length) (more : List Event) :
    Registered (a.succeeded tag names ++ more) := by
  obtain ⟨k, hk⟩ := List.mem_iff_getElem?.mp
    (show StartupStep.consumer ∈ a.steps by simp [AppSetup.steps])
  have hlt : k < names.length := all ▸ (List.getElem?_eq_some_iff.mp hk).1
  have hmem : (StartupStep.consumer, names[k]) ∈ a.steps.zip names :=
    List.mem_of_getElem? (List.getElem?_zip_eq_some.mpr ⟨hk, List.getElem?_eq_getElem hlt⟩)
  refine ⟨StartupStep.consumer.call a (a.queueNamed names) tag, names[k], rfl, ?_⟩
  exact List.mem_append_left _ (List.mem_flatMap.mpr ⟨_, hmem, by simp [exchange]⟩)

/-- An application that is up has registered its consumer. -/
theorem registered_of_up {b : App} {done : List Event} (h : App.Course a (.waiting b) done)
    (up : b.isUp = true) : Registered done := by
  cases h with
  | asking tag names step q s asks call => cases asks <;> cases up
  | givingUp tag names step fault l s d next opens h => cases up
  | up tag names p more all late running => exact registered_of_all all more

/-- Nothing is published before a consumer is registered. -/
theorem unpublished_of_unregistered {p : Progress App (Except Failure Stats)} {done : List Event}
    (h : App.Course a p done) (unregistered : ¬ Registered done) (stage : Lifecycle) :
    .published stage ∉ done := by
  have steps : ∀ tag names, .published stage ∉ a.succeeded tag names := by
    simp [AppSetup.succeeded, exchange]
  have answered : ∀ tag names step x, .published stage ∉ a.answered tag names step x := by
    simp [AppSetup.answered, steps, exchange]
  have closing : ∀ {q d}, Closing.Course q d → .published stage ∉ d := by
    intro q d hd
    have exchanged : ∀ c x, Event.published stage ∉ exchange c x := by
      intro c x
      cases x <;> simp [exchange]
    cases hd <;> simp [exchanged]
  cases h with
  | asking tag names step p s asks call => simp [steps]
  | unopened tag names step fault next opens => exact answered _ _ _ _
  | givingUp tag names step fault l s d next opens h => simp [answered, closing h]
  | gaveUp tag names step fault closed d next opens h => simp [answered, closing h]
  | died tag names step payload next => exact answered _ _ _ _
  | diedClosing tag names step fault payload d next opens h => simp [answered, closing h]
  | up tag names p more all late running => exact absurd (registered_of_all all more) unregistered

/-- A turn of an application that is not up, neither before it nor after it, leaves the receivers
and the lifecycle alone. -/
theorem apart_of_down (w : World) {b : App} (down : b.isUp = false)
    (still : (b.resume a w).2.All fun b' => b'.isUp = false) :
    (b.resume a w).1.receivers = w.receivers ∧ (b.resume a w).1.lifecycle = w.lifecycle := by
  refine ⟨keeps_appResume keptByCalls_receivers (fun _ _ => rfl) (fun _ _ => rfl) w a down
      fun l sub st hst => ?_,
    keeps_appResume keptByCalls_lifecycle (fun _ _ => rfl) (fun _ _ => rfl) w a down
      fun l sub st _ => keeps_startingResume keptByCalls_lifecycle (fun _ _ => rfl)
        (fun _ _ _ => rfl) w _ st⟩
  subst hst
  rcases receivers_startingResume w (a.registration l sub) st with ⟨hsame, -⟩ | ⟨tag, -, -, hdone⟩
  · exact hsame
  · rw [resume_registered w a hdone] at still
    cases still

end Down

namespace System

variable {s : System} {a : AppSetup} {h : List Move}

/-- As long as no consumer is registered, the turns of an application leave the receivers and the
lifecycle alone. -/
theorem apart_of_unregistered (unregistered : ¬ Registered (s.appDeeds a h)) {h₁ h₂ : List Move}
    {m : Move} (split : h = h₁ ++ m :: h₂)
    (own : ((s.startApp a).after h₁).actorOf m = some (.job s.jobs.length)) :
    (((s.startApp a).after h₁).move m).world.receivers =
        ((s.startApp a).after h₁).world.receivers ∧
      (((s.startApp a).after h₁).move m).world.lifecycle =
        ((s.startApp a).after h₁).world.lifecycle := by
  -- an application that is up at one of the two moments has registered its consumer by then
  have down : ∀ h₃ h₄ b, h = h₃ ++ h₄ →
      ((s.startApp a).after h₃).jobs[s.jobs.length]? = some (.waiting (.app a b)) →
      b.isUp = false := by
    intro h₃ h₄ b hsplit job
    obtain ⟨p, hp, hcourse⟩ := s.course_started a h₃
    rw [job, Option.some.injEq] at hp
    cases p with
    | waiting b' =>
      cases hp
      rw [Bool.eq_false_iff]
      intro up
      obtain ⟨c, name, hc, hmem⟩ := registered_of_up hcourse up
      refine unregistered ⟨c, name, hc, ?_⟩
      rw [hsplit]
      exact (s.appDeeds_prefix a h₃ h₄).subset (List.mem_filter.mp hmem).1
    | finished result => cases hp
    | crashed payload => cases hp
  obtain ⟨p, job, -⟩ := s.course_started a h₁
  rcases move_of_job job m with ⟨hno, -⟩ | ⟨t, ht, ready, rfl⟩
  · rw [move_of_no_turn own hno]
    exact ⟨rfl, rfl⟩
  · cases p with
    | waiting b =>
      cases ht
      have takes := Takes.goesOn job ready
      have hturn : ((s.startApp a).after h₁).turn (.app a b) =
          ((b.resume a ((s.startApp a).after h₁).world).1,
            (b.resume a ((s.startApp a).after h₁).world).2.asApp a) := asJob_app a _
      rw [hturn] at takes
      rw [takes.turned.world]
      refine apart_of_down _ (down h₁ (.act (.job s.jobs.length) :: h₂) b split job) ?_
      have hafter := takes.turned.job
      rw [← after_concat] at hafter
      cases hb : (b.resume a ((s.startApp a).after h₁).world).2 with
      | waiting b' =>
        rw [hb] at hafter
        exact down _ h₂ b' (by rw [split, List.append_assoc]; rfl) hafter
      | finished result => trivial
      | crashed payload => trivial
    | finished result => cases ht
    | crashed payload => cases ht

/-- A receiver that is there after a history has been there before or has appeared in it. -/
theorem appears_after {s : System} {r : Nat} (h : List Move)
    (hr : r < (s.after h).world.receivers.length) : r < s.world.receivers.length ∨
      ∃ h₁ m h₂, h = h₁ ++ m :: h₂ ∧ (s.after h₁).world.receivers.length ≤ r ∧
        r < ((s.after h₁).move m).world.receivers.length := by
  induction h using List.reverseRecOn with
  | nil => exact .inl hr
  | append_singleton h m ih =>
    rw [after_concat] at hr
    by_cases hbefore : r < (s.after h).world.receivers.length
    · rcases ih hbefore with hthere | ⟨h₁, m', h₂, rfl, hgone, hnew⟩
      · exact .inl hthere
      · exact .inr ⟨h₁, m', h₂ ++ [m], by simp, hgone, hnew⟩
    · exact .inr ⟨h, m, [], rfl, by omega, hr⟩

/-- As long as no consumer is registered, every handler that is called is that of a receiver that
has been there before, or that somebody else has opened. -/
theorem handlers_of_unregistered (unregistered : ¬ Registered (s.appDeeds a h)) {who : Actor}
    {r : Nat} {kind : HandlerKind} {d : Delivery} {c : TraceContext}
    (hmem : (who, .dispatched r kind d c) ∈ (s.startApp a).deeds h) :
    r < (s.startApp a).world.receivers.length ∨ ∃ h₁ m h₂, h = h₁ ++ m :: h₂ ∧
      ((s.startApp a).after h₁).world.receivers.length ≤ r ∧
      r < (((s.startApp a).after h₁).move m).world.receivers.length ∧
      ((s.startApp a).after h₁).actorOf m ≠ some (.job s.jobs.length) := by
  obtain ⟨-, hthere⟩ := there_of_dispatched hmem
  rcases appears_after h hthere with hbefore | ⟨h₁, m, h₂, split, hgone, hnew⟩
  · exact .inl hbefore
  · refine .inr ⟨h₁, m, h₂, split, hgone, hnew, fun own => ?_⟩
    rw [(apart_of_unregistered unregistered split own).1] at hnew
    omega

/-! ## An application alone -/

/-- Whether a move asks for a new job. -/
def asksFor : Move → Bool
  | .begin _ | .launch _ => true
  | _ => false

/-- Where nothing is asked for the jobs stay the same. -/
theorem length_jobs_move {s : System} {m : Move} (quiet : asksFor m = false) :
    (s.move m).jobs.length = s.jobs.length := by
  cases m with
  | begin q => cases quiet
  | launch env => cases quiet
  | act who =>
    simp only [move, act]
    split
    · cases who with
      | job n =>
        simp only [step]
        split
        · unfold stepJob
          split
          · split <;> simp [settleJob]
          · simp [settleJob]
        · rfl
      | receiver r => rfl
      | observer i => rfl
    · rfl
  | _ => rfl

theorem length_jobs_after {s : System} (h : List Move) (quiet : ∀ m ∈ h, asksFor m = false) :
    (s.after h).jobs.length = s.jobs.length := by
  induction h generalizing s with
  | nil => rfl
  | cons m h ih =>
    rw [after_cons, ih fun m' hm => quiet m' (List.mem_cons_of_mem _ hm),
      length_jobs_move (quiet m List.mem_cons_self)]

/-- What becomes of a job that is alone is up to it. -/
theorem job_of_alone (hjobs : s.jobs = []) {h₁ : List Move} (quiet : ∀ m ∈ h₁, asksFor m = false)
    {n : Nat} {p : Progress Task Outcome} (job : ((s.startApp a).after h₁).jobs[n]? = some p) :
    n = s.jobs.length := by
  have hlt := (List.getElem?_eq_some_iff.mp job).1
  rw [length_jobs_after h₁ quiet, startApp] at hlt
  simp [addJob, settleJob, hjobs] at hlt
  rw [hlt, hjobs]
  rfl

/-- An application that is alone and registers no consumer leaves the lifecycle where it is. -/
theorem lifecycle_of_alone (hjobs : s.jobs = []) (quiet : ∀ m ∈ h, asksFor m = false)
    (unregistered : ¬ Registered (s.appDeeds a h)) :
    ((s.startApp a).after h).world.lifecycle = s.world.lifecycle := by
  induction h using List.reverseRecOn with
  | nil =>
    rw [after_nil, world_startApp]
    exact keeps_appStart keptByCalls_lifecycle s.world a
  | append_singleton h m ih =>
    have before : ¬ Registered (s.appDeeds a h) := fun ⟨c, name, hc, hmem⟩ =>
      unregistered ⟨c, name, hc, (s.appDeeds_prefix a h [m]).subset hmem⟩
    have hquiet : ∀ m' ∈ h, asksFor m' = false := fun m' hm =>
      quiet m' (List.mem_append_left _ hm)
    rw [after_concat, ← ih hquiet before]
    have apart := apart_of_unregistered unregistered (show h ++ [m] = h ++ m :: [] from rfl)
    have kind := ((s.startApp a).after h).move_kind m
    generalize ((s.startApp a).after h).move m = s' at *
    cases kind with
    | @turns _ n u _ takes turned =>
      refine (apart ?_).2
      cases takes with
      | goesOn job ready => rw [← job_of_alone hjobs hquiet job]; rfl
      | begins q => cases quiet (.begin q) (by simp)
      | launches env => cases quiet (.launch env) (by simp)
    | receives ready =>
      obtain ⟨played, v, -, hplays⟩ := plays_of_runnable ready
      exact hplays.lifecycle
    | outside jobs handles trace lifecycle => exact lifecycle

/-- An application that is alone and registers no consumer has no handler called. -/
theorem silent_of_alone (hjobs : s.jobs = []) (empty : s.world.receivers = [])
    (quiet : ∀ m ∈ h, asksFor m = false) (unregistered : ¬ Registered (s.appDeeds a h))
    {who : Actor} {r : Nat} {kind : HandlerKind} {d : Delivery} {c : TraceContext} :
    (who, .dispatched r kind d c) ∉ (s.startApp a).deeds h := by
  intro hmem
  rcases handlers_of_unregistered unregistered hmem with hbefore |
    ⟨h₁, m, h₂, rfl, hgone, hnew, hne⟩
  · have hnone : (s.startApp a).world.receivers = [] := by
      rw [world_startApp, ← empty]
      exact keeps_appStart keptByCalls_receivers s.world a
    rw [hnone] at hbefore
    cases hbefore
  · obtain ⟨-, -, happears⟩ := ((s.startApp a).after h₁).appears m hgone
    obtain ⟨n, t, g, tag, rfl, job, -⟩ := happears _ (World.getElem?_receivers hnew)
    refine hne ?_
    rw [← job_of_alone hjobs (fun m' hm => quiet m' (List.mem_append_left _ hm)) job]
    rfl

/-! ## The startup of an application -/

/-- How an application starts up, in the course of a history that follows its start. -/
structure StartsUp (s : System) (a : AppSetup) (h : List Move) : Prop where
  /-- What the application has done and how far it has come are on its course: each step is asked
  for when the one before it has succeeded; one that is refused is the last, and its failure is the
  result, however the close of the link goes that follows it. -/
  course : ∃ p, ((s.startApp a).after h).jobs[s.jobs.length]? = some (p.asApp a) ∧
    App.Course a p (acts (s.appDeeds a h))
  /-- As long as it is not up it waits for the answer to a call, and for nothing else. -/
  waits : ∀ b, ((s.startApp a).after h).jobs[s.jobs.length]? = some (.waiting (.app a b)) →
    b.isUp = false → ∃ p, b.pending? = some p ∧
      (((s.startApp a).after h).isRunnable (.job s.jobs.length) = true ↔
        ((s.startApp a).after h).world.isOpen p.reply.gate = true)
  /-- It publishes nothing before its consumer is registered, -/
  unpublished : ¬ Registered (s.appDeeds a h) → ∀ stage, .published stage ∉ s.appDeeds a h
  /-- and its turns leave the receivers and the lifecycle as they are, the first -/
  begins : (s.startApp a).world.receivers = s.world.receivers ∧
    (s.startApp a).world.lifecycle = s.world.lifecycle
  /-- and every later one. -/
  apart : ¬ Registered (s.appDeeds a h) → ∀ h₁ m h₂, h = h₁ ++ m :: h₂ →
    ((s.startApp a).after h₁).actorOf m = some (.job s.jobs.length) →
    (((s.startApp a).after h₁).move m).world.receivers =
        ((s.startApp a).after h₁).world.receivers ∧
      (((s.startApp a).after h₁).move m).world.lifecycle =
        ((s.startApp a).after h₁).world.lifecycle
  /-- So a handler that is called before that is one of somebody else's consumers. -/
  handlers : ¬ Registered (s.appDeeds a h) → ∀ who r kind d c,
    (who, .dispatched r kind d c) ∈ (s.startApp a).deeds h →
    r < s.world.receivers.length ∨ ∃ h₁ m h₂, h = h₁ ++ m :: h₂ ∧
      ((s.startApp a).after h₁).world.receivers.length ≤ r ∧
      r < (((s.startApp a).after h₁).move m).world.receivers.length ∧
      ((s.startApp a).after h₁).actorOf m ≠ some (.job s.jobs.length)
  /-- Where nothing else is asked for no handler is called at all, and the lifecycle stays where it
  is. -/
  alone : ¬ Registered (s.appDeeds a h) → s.jobs = [] → s.world.receivers = [] →
    (∀ m ∈ h, asksFor m = false) →
    (∀ who r kind d c, (who, .dispatched r kind d c) ∉ (s.startApp a).deeds h) ∧
      ((s.startApp a).after h).world.lifecycle = s.world.lifecycle

/-- Every application starts up in order, in whatever system it is started. -/
theorem starts_in_order (s : System) (a : AppSetup) (h : List Move) : s.StartsUp a h := by
  have hbegins : (s.startApp a).world.receivers = s.world.receivers ∧
      (s.startApp a).world.lifecycle = s.world.lifecycle := by
    rw [world_startApp]
    exact ⟨keeps_appStart keptByCalls_receivers s.world a,
      keeps_appStart keptByCalls_lifecycle s.world a⟩
  obtain ⟨p, job, hcourse⟩ := s.course_started a h
  constructor
  case course => exact ⟨p, job, hcourse⟩
  case waits =>
    intro b job' down
    obtain ⟨q, hq, hwait⟩ := App.wait_of_down down
    refine ⟨q, hq, ?_⟩
    have htask : (Task.app a b).wait = .gate q.reply.gate := hwait
    simp only [isRunnable, waitOf, job', htask, Option.any_some]
    rfl
  case unpublished =>
    intro unregistered stage hmem
    have hacts : ¬ Registered (acts (s.appDeeds a h)) := by
      rintro ⟨c, name, hc, hanswered⟩
      exact unregistered ⟨c, name, hc, (List.mem_filter.mp hanswered).1⟩
    exact unpublished_of_unregistered hcourse hacts stage (List.mem_filter.mpr ⟨hmem, rfl⟩)
  case begins => exact hbegins
  case apart => exact fun unregistered h₁ m h₂ split own =>
    apart_of_unregistered unregistered split own
  case handlers =>
    intro unregistered who r kind d c hmem
    rw [← hbegins.1]
    exact handlers_of_unregistered unregistered hmem
  case alone =>
    exact fun unregistered hjobs empty quiet =>
      ⟨fun _ _ _ _ _ => silent_of_alone hjobs empty quiet unregistered,
        lifecycle_of_alone hjobs quiet unregistered⟩

end System

end TopicWorker
