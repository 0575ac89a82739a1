import TopicWorker.Proofs.Turns

/-!
# What jobs leave alone

Most operations of a job talk to the broker and write entries; what they change of the world
is the trace, the script and the links. A view that sees none of these is kept by all of them
at once. The exceptions are few: a registration counts itself and opens a receiver, a stop
takes charge of one, a teardown publishes stages. Each of them is said here exactly, so that
no later proof has to look into an operation again.

## Main definitions

* `KeptByCalls`: a view of a world that sees nothing of what operations on the broker change.
* `Task.stopCall?`, `Task.registering?`: the receiver whose stop the next turn of a job calls,
  and the registration that it may complete.

## Main results

* `receivers_taskResume`: what a turn of a job does to the receivers.
* `receivers_begin`: what a job does to them that has just been asked for.
-/

namespace TopicWorker

variable {σ τ ρ ρ' α : Type}

/-- A view that sees nothing of the trace, the script and the numbers of tasks. -/
structure KeptByCalls (f : World → α) : Prop where
  emit : ∀ w e, f (World.emit w e) = f w
  script : ∀ (w : World) s, f { w with script := s } = f w
  nextTask : ∀ (w : World) n, f { w with nextTask := n } = f w

theorem keptByCalls_receivers : KeptByCalls World.receivers := by constructor <;> intros <;> rfl

theorem keptByCalls_lifecycle : KeptByCalls World.lifecycle := by constructor <;> intros <;> rfl

theorem keptByCalls_links : KeptByCalls World.links := by constructor <;> intros <;> rfl

theorem keptByCalls_registrations : KeptByCalls World.registrations := by
  constructor <;> intros <;> rfl

theorem keptByCalls_shutdownRequested : KeptByCalls World.shutdownRequested := by
  constructor <;> intros <;> rfl

/-- Whether a job neither registers a consumer nor is torn down. -/
def Task.isPlain : Task → Bool
  | starting _ _ | teardown _ | app _ _ | program _ => false
  | _ => true

/-- Whether the startup of an application is over. -/
def App.isUp : App → Bool
  | running _ => true
  | opening _ | subscribing _ _ | starting _ _ _ | abandoning _ _ _ => false

section Views

variable {f : World → α} (hf : KeptByCalls f)

include hf

theorem KeptByCalls.log (w : World) (e : LogEntry) : f (w.log e) = f w := hf.emit w _

theorem KeptByCalls.call (w : World) (c : Call) : f (w.call c).1 = f w := by
  rw [← hf.emit w (.called c)]
  exact hf.script (w.emit (.called c)) _

omit hf in
/-- A view that both parts of an operation keep is kept by the whole. -/
theorem keeps_andThen {w : World} {t : Turn σ ρ} {embed : σ → τ}
    {next : ρ → World → Turn τ ρ'} (ht : f t.1 = f w) (hn : ∀ r w', f (next r w').1 = f w') :
    f (t.andThen embed next).1 = f w := by
  obtain ⟨w₁, p⟩ := t
  cases p with
  | waiting s => exact ht
  | crashed payload => exact ht
  | finished r => exact (hn r w₁).trans ht

theorem keeps_resolve (p : Pending) (w : World) {report : Fault → LogEntry}
    {onDone : Option String → World → Turn σ ρ} {onFault : Fault → World → Turn σ ρ}
    (hd : ∀ name w', f (onDone name w').1 = f w')
    (hr : ∀ fault w', f (onFault fault w').1 = f w') :
    f (p.resolve w report onDone onFault).1 = f w := by
  cases ha : p.reply.answer with
  | done name =>
    rw [resolve_done ha]
    exact (hd _ _).trans (hf.emit _ _)
  | refused fault =>
    rw [resolve_refused ha]
    exact ((hr _ _).trans (hf.log _ _)).trans (hf.emit _ _)
  | crashed payload =>
    rw [resolve_crashed ha]
    exact hf.emit _ _

/-! ## Links, declarations and settlements -/

theorem keeps_openingStart (w : World) (name : String) (endpoint : Endpoint) :
    f (Opening.start name endpoint w).1 = f w :=
  (hf.call _ _).trans (hf.log _ _)

theorem keeps_openingResume (hlinks : ∀ (w : World) l, f { w with links := l } = f w)
    (w : World) (s : Opening) : f (s.resume w).1 = f w := by
  cases s with
  | connecting p =>
    refine keeps_resolve hf p w (fun _ w' => ?_) fun _ _ => rfl
    exact (((hf.call _ _).trans (hf.log _ _)).trans (hf.log _ _)).trans (hlinks w' _)
  | openingChannel l p =>
    refine keeps_resolve hf p w (fun _ w' => ?_) fun _ _ => rfl
    exact (hf.log _ _).trans (hlinks w' _)

theorem keeps_conclude (w : World) (failure : Option Failure) :
    f (Closing.conclude failure w).1 = f w := by
  simp only [Closing.conclude]
  cases failure <;> exact hf.log _ _

theorem keeps_closeConnection (w : World) (l : Nat) (failure : Option Failure) :
    f (Closing.closeConnection l failure w).1 = f w := by
  simp only [Closing.closeConnection]
  split
  · exact (hf.call _ _).trans (hf.log _ _)
  · exact keeps_conclude hf w failure

theorem keeps_closingStart (hlinks : ∀ (w : World) l, f { w with links := l } = f w)
    (w : World) (l : Nat) : f (Closing.start l w).1 = f w := by
  unfold Closing.start
  split
  · exact hf.log _ _
  · dsimp only
    split
    · exact ((hf.call _ _).trans (hf.log _ _)).trans (hlinks w _)
    · exact (keeps_closeConnection hf _ l none).trans (hlinks w _)

theorem keeps_closingResume (hlinks : ∀ (w : World) l, f { w with links := l } = f w)
    (w : World) (l : Nat) (s : Closing) : f (s.resume l w).1 = f w := by
  cases s with
  | channel p =>
    refine keeps_resolve hf p w (fun _ w' => ?_) fun _ w' => keeps_closeConnection hf w' l _
    exact (keeps_closeConnection hf _ l none).trans (hlinks w' _)
  | connection failure p =>
    refine keeps_resolve hf p w (fun _ w' => ?_) fun _ w' => keeps_conclude hf w' _
    exact (keeps_conclude hf _ failure).trans (hlinks w' _)

theorem keeps_exchangeAnswered (w : World) (x : Exchange) (p : Pending) :
    f (Declaring.exchangeAnswered (σ := σ) x p w).1 = f w :=
  keeps_resolve hf p w (fun _ _ => hf.log _ _) fun _ _ => rfl

theorem keeps_queueAnswered (w : World) (q : Queue) (p : Pending) :
    f (Declaring.queueAnswered (σ := σ) q p w).1 = f w :=
  keeps_resolve hf p w (fun _ _ => hf.log _ _) fun _ _ => rfl

theorem keeps_bindingAnswered (w : World) (b : Binding) (p : Pending) :
    f (Declaring.bindingAnswered (σ := σ) b p w).1 = f w :=
  keeps_resolve hf p w (fun _ _ => hf.log _ _) fun _ _ => rfl

theorem keeps_subscribingStart (w : World) (x : Exchange) : f (Subscribing.start x w).1 = f w :=
  (hf.call _ _).trans (hf.log _ _)

theorem keeps_subscribingResume (w : World) (x : Exchange) (pattern : String) (s : Subscribing) :
    f (s.resume x pattern w).1 = f w := by
  cases s with
  | exchange p =>
    refine keeps_andThen (keeps_exchangeAnswered hf w x p) fun result w' => ?_
    rcases result with g | ⟨⟩
    · rfl
    · exact (hf.call _ _).trans (hf.log _ _)
  | queue p =>
    refine keeps_andThen (keeps_queueAnswered hf w .anonymous p) fun result w' => ?_
    rcases result with g | name
    · rfl
    · exact (hf.call _ _).trans (hf.log _ _)
  | binding sub p =>
    refine keeps_andThen (keeps_bindingAnswered hf w sub.binding p) fun result w' => ?_
    rcases result with g | ⟨⟩
    · rfl
    · exact hf.log _ _

theorem keeps_ackAnswered (w : World) (tag : UInt64) (p : Pending) :
    f (Settlement.ackAnswered (σ := σ) tag p w).1 = f w :=
  keeps_resolve hf p w (fun _ _ => rfl) fun _ _ => rfl

theorem keeps_rejectAnswered (w : World) (tag : UInt64) (requeue : Bool) (p : Pending) :
    f (Settlement.rejectAnswered (σ := σ) tag requeue p w).1 = f w :=
  keeps_resolve hf p w (fun _ _ => rfl) fun _ _ => rfl

theorem keeps_cancelAnswered (w : World) (tag : String) (p : Pending) :
    f (Cancelling.answered (σ := σ) tag p w).1 = f w :=
  keeps_resolve hf p w (fun _ _ => rfl) fun _ _ => rfl

theorem keeps_stoppingResume (w : World) (r : Nat) (s : Stopping) : f (s.resume r w).1 = f w := by
  cases s with
  | cancelling p =>
    refine keeps_andThen (keeps_cancelAnswered hf w _ p) fun result w' => ?_
    rcases result with g | ⟨⟩
    · exact hf.log _ _
    · rfl
  | joining =>
    simp only [Stopping.resume, Stopping.joined]
    split <;> exact hf.log _ _

theorem keeps_listeningResume (hreq : ∀ w : World, f w.requestShutdown = f w) (w : World)
    (s : Listening) : f (s.resume w).1 = f w := by
  have ended : ∀ {v : World} {e : LogEntry}, Listening.Looked w v →
      f (v.log e).requestShutdown = f w := fun looked =>
    ((hreq _).trans (hf.log _ _)).trans (looked.same (hf.log w))
  have comes := Listening.resumes w s
  generalize s.resume w = t at comes
  cases comes with
  | released looked => exact looked.same (hf.log w)
  | received looked => exact ended looked
  | unavailable looked => exact ended looked
  | installs looked => exact looked.same (hf.log w)
  | waits => rfl

theorem keeps_programConclude (w : World) (result : Except Failure Stats) (o : Outcome) :
    f (Program.conclude result o w).1 = f w :=
  conclude_induction (motive := fun w t => f t.1 = f w) (fun w e _ h => h.trans (hf.log w e))
    (fun _ _ => rfl) w result o

/-! ## Registrations, stops and stages -/

theorem keeps_register (hreg : ∀ (w : World) n, f { w with registrations := n } = f w) (w : World)
    (g : Registration) : f (Starting.register g w).1 = f w :=
  (hf.call _ _).trans (hreg w _)

theorem keeps_startingStart (hreg : ∀ (w : World) n, f { w with registrations := n } = f w)
    (w : World) (g : Registration) : f (Starting.start g w).1 = f w := by
  simp only [Starting.start]
  split
  · exact hf.call _ _
  · exact keeps_register hf hreg w g

theorem keeps_startingResume (hreg : ∀ (w : World) n, f { w with registrations := n } = f w)
    (hrec : ∀ (w : World) l n, f { w with receivers := l, nextTask := n } = f w) (w : World)
    (g : Registration) (s : Starting) : f (s.resume g w).1 = f w := by
  cases s with
  | bounding p =>
    exact keeps_resolve hf p w (fun _ w' => keeps_register hf hreg w' g) fun _ _ => rfl
  | registering tag p =>
    refine keeps_resolve hf p w (fun _ w' => ?_) fun _ _ => rfl
    exact (hrec (w'.log _) _ _).trans (hf.log _ _)

theorem keeps_stoppingStart (hrec : ∀ (w : World) l, f { w with receivers := l } = f w) (w : World)
    (r : Nat) : f (Stopping.start r w).1 = f w := by
  cases hj : (w.receiver r).joinable with
  | false =>
    rw [stoppingStart_of_not_joinable hj]
    exact hf.log _ _
  | true =>
    have hm : f (w.modifyReceiver r Receiver.claimed) = f w := hrec w _
    rcases stoppingStart_of_joinable hj with h | h <;> rw [h]
    · exact hm
    · exact (hf.call _ _).trans hm

theorem keeps_transition (hpub : ∀ (w : World) s, f (w.publish s) = f w) (w : World)
    (s : Lifecycle) : f (w.transition s) = f w :=
  (hf.log _ _).trans (hpub w s)

theorem keeps_closed (hpub : ∀ (w : World) s, f (w.publish s) = f w) (w : World)
    (stopped : Except Failure Stats) (result : Except Failure Unit) :
    f (Teardown.closed stopped result w).1 = f w := by
  simp only [Teardown.closed]
  split
  · exact keeps_transition hf hpub w .closed
  · exact (hf.log _ _).trans (keeps_transition hf hpub w .closed)

theorem keeps_stopped (hlinks : ∀ (w : World) l, f { w with links := l } = f w)
    (hpub : ∀ (w : World) s, f (w.publish s) = f w) (w : World) (closer : Closer)
    (result : Except Failure Stats) : f (Teardown.stopped closer result w).1 = f w := by
  refine stopped_induction (motive := fun w t => f t.1 = f w) (fun w e _ h => h.trans (hf.log w e))
    (fun w l _ => ?_) (fun w _ _ => hf.emit w _) w
  exact keeps_andThen (keeps_closingStart hf hlinks w l) fun r w' =>
    keeps_closed hf hpub w' result r

omit hf in
/-- A view that is kept after a given operation is kept by it. -/
theorem keeps_ending {α' : Type} {e : Ending α'} {w : World}
    {next : Except Failure α' → World → Turn σ ρ}
    (hn : ∀ r w', f (next r w').1 = f w') : f (e.andThen w next).1 = f w := by
  cases e with
  | returned result => exact hn result w
  | crashed payload => rfl

theorem keeps_teardownResume (hlinks : ∀ (w : World) l, f { w with links := l } = f w)
    (hrec : ∀ (w : World) l, f { w with receivers := l } = f w)
    (hpub : ∀ (w : World) s, f (w.publish s) = f w) (w : World) (s : Teardown) :
    f (s.resume w).1 = f w := by
  cases s with
  | blocked stopper closer => exact keeps_transition hf hpub w _
  | yielding stopper closer =>
    refine Eq.trans ?_ (keeps_transition hf hpub w .draining)
    cases stopper with
    | receiver r =>
      exact keeps_andThen (keeps_stoppingStart hf hrec _ r) fun result w' =>
        keeps_stopped hf hlinks hpub w' closer result
    | given op => exact hf.emit _ _
  | stopping r closer s =>
    exact keeps_andThen (keeps_stoppingResume hf w r s) fun result w' =>
      keeps_stopped hf hlinks hpub w' closer result
  | stoppingGiven op closer =>
    exact keeps_ending fun result w' => keeps_stopped hf hlinks hpub w' closer result
  | closing l result s =>
    exact keeps_andThen (keeps_closingResume hf hlinks w l s) fun r w' =>
      keeps_closed hf hpub w' result r
  | closingGiven op result =>
    exact keeps_ending fun r w' => keeps_closed hf hpub w' result r

/-! ## Applications and jobs -/

theorem keeps_abandon (hlinks : ∀ (w : World) l, f { w with links := l } = f w)
    (w : World) (l : Nat) (g : Failure) : f (App.abandon l g w).1 = f w :=
  keeps_andThen (keeps_closingStart hf hlinks w l) fun _ _ => rfl

theorem keeps_started (hlinks : ∀ (w : World) l, f { w with links := l } = f w)
    (w : World) (l : Nat) (sub : Subscription) (result : Except Failure Nat) :
    f (App.started l sub result w).1 = f w := by
  cases result with
  | error g => exact keeps_abandon hf hlinks w l g
  | ok r => exact hf.log _ _

theorem keeps_subscribed (hlinks : ∀ (w : World) l, f { w with links := l } = f w)
    (hreg : ∀ (w : World) n, f { w with registrations := n } = f w) (w : World)
    (a : AppSetup) (l : Nat) (result : Except Failure Subscription) :
    f (App.subscribed a l result w).1 = f w := by
  cases result with
  | error g => exact keeps_abandon hf hlinks w l g
  | ok s =>
    exact keeps_andThen (keeps_startingStart hf hreg w _) fun r w' =>
      keeps_started hf hlinks w' l s r

theorem keeps_opened (w : World) (a : AppSetup) (result : Except Failure Nat) :
    f (App.opened a result w).1 = f w := by
  cases result with
  | error g => rfl
  | ok l => exact keeps_subscribingStart hf w usersExchange

theorem keeps_appStart (w : World) (a : AppSetup) : f (App.start a w).1 = f w :=
  keeps_openingStart hf w a.config.name a.config.endpoint

/-- An application that is not up yet, or has given up, keeps a view, unless the view sees something
of the registration that is being made. -/
theorem keeps_appResume (hlinks : ∀ (w : World) l, f { w with links := l } = f w)
    (hreg : ∀ (w : World) n, f { w with registrations := n } = f w) (w : World)
    (a : AppSetup) {s : App} (down : s.isUp = false)
    (hstart : ∀ l sub st, s = .starting l sub st →
      f (st.resume (a.registration l sub) w).1 = f w) : f (s.resume a w).1 = f w := by
  cases s with
  | opening s =>
    exact keeps_andThen (keeps_openingResume hf hlinks w s) fun r w' => keeps_opened hf w' a r
  | subscribing l s =>
    exact keeps_andThen (keeps_subscribingResume hf w _ _ s) fun r w' =>
      keeps_subscribed hf hlinks hreg w' a l r
  | starting l sub s =>
    exact keeps_andThen (hstart l sub s rfl) fun r w' => keeps_started hf hlinks w' l sub r
  | running s => cases down
  | abandoning l g s => exact keeps_andThen (keeps_closingResume hf hlinks w l s) fun _ _ => rfl

omit hf in
theorem keeps_asJob {β : Type} {w : World} {t : Turn σ (Except Failure β)} {embed : σ → Task}
    {value : β → Value} (ht : f t.1 = f w) : f (t.asJob embed value).1 = f w :=
  keeps_andThen ht fun _ _ => rfl

/-- A job that neither registers a consumer nor is torn down keeps a view when it goes on, unless
it is a listener and the view sees something of it. -/
theorem keeps_plainResume (hlinks : ∀ (w : World) l, f { w with links := l } = f w)
    (w : World) {t : Task} (plain : t.isPlain = true)
    (hlisten : ∀ s, t = .listening s → f (s.resume w).1 = f w) : f (t.resume w).1 = f w := by
  cases t with
  | opening s => exact keeps_andThen (keeps_openingResume hf hlinks w s) fun _ _ => rfl
  | closing l s => exact keeps_asJob (keeps_closingResume hf hlinks w l s)
  | declaringExchange x p => exact keeps_asJob (keeps_exchangeAnswered hf w x p)
  | declaringQueue q p => exact keeps_asJob (keeps_queueAnswered hf w q p)
  | binding b p => exact keeps_asJob (keeps_bindingAnswered hf w b p)
  | subscribing x pattern s => exact keeps_asJob (keeps_subscribingResume hf w x pattern s)
  | stopping r s => exact keeps_asJob (keeps_stoppingResume hf w r s)
  | acknowledging tag p => exact keeps_asJob (keeps_ackAnswered hf w tag p)
  | rejecting tag requeue p => exact keeps_asJob (keeps_rejectAnswered hf w tag requeue p)
  | cancelling tag p => exact keeps_asJob (keeps_cancelAnswered hf w tag p)
  | listening s => exact keeps_asJob (hlisten s rfl)
  | starting g s => cases plain
  | teardown s => cases plain
  | app a s => cases plain
  | program s => cases plain

omit hf in
theorem keeps_onLink (w : World) (h : Handles) {job : Nat → Turn Task Outcome}
    (hj : ∀ l, f (job l).1 = f w) : f (Request.onLink h w job).1 = f w :=
  onLink_induction (motive := fun t => f t.1 = f w) h (fun l _ => hj l) fun _ => rfl

omit hf in
theorem keeps_onConsumer (w : World) (h : Handles) (consumer : Nat)
    {job : Nat → Turn Task Outcome} (hj : ∀ r, f (job r).1 = f w) :
    f (Request.onConsumer h consumer w job).1 = f w :=
  onConsumer_induction (motive := fun t => f t.1 = f w) h consumer hj fun _ => rfl

/-- The turn in which a job is asked for keeps a view, unless the job is a stop or a close and the
view sees something of it. -/
theorem keeps_begin (hreg : ∀ (w : World) n, f { w with registrations := n } = f w) (w : World)
    (q : Request) (h : Handles)
    (hstop : ∀ consumer r, q = .stop consumer → f (Stopping.start r w).1 = f w)
    (hclose : ∀ l, q = .close → f (Closing.start l w).1 = f w) : f (q.begin h w).1 = f w := by
  cases q with
  | opening name endpoint =>
    simp only [Request.begin]
    exact keeps_andThen (keeps_openingStart hf w name endpoint) fun _ _ => rfl
  | close => exact keeps_onLink w h fun l => keeps_asJob (hclose l rfl)
  | status => rfl
  | declareExchange x => exact keeps_onLink w h fun _ => (hf.call _ _).trans (hf.log _ _)
  | declareQueue q => exact keeps_onLink w h fun _ => (hf.call _ _).trans (hf.log _ _)
  | bind b => exact keeps_onLink w h fun _ => (hf.call _ _).trans (hf.log _ _)
  | subscribe x pattern =>
    exact keeps_onLink w h fun _ => keeps_asJob (keeps_subscribingStart hf w x)
  | start queue mode prefetch kind =>
    exact keeps_onLink w h fun _ => keeps_asJob (keeps_startingStart hf hreg w _)
  | stop consumer =>
    exact keeps_onConsumer w h consumer fun r => keeps_asJob (hstop consumer r rfl)
  | ack tag => exact keeps_onLink w h fun _ => hf.call _ _
  | reject tag requeue => exact keeps_onLink w h fun _ => hf.call _ _
  | cancelConsumer tag =>
    refine keeps_onLink w h fun l => ?_
    rcases cancellingStart_cases w l tag with hc | hc <;> rw [hc]
    · rfl
    · exact hf.call _ _
  | run consumer given givenClose =>
    cases given with
    | some op =>
      cases givenClose with
      | some op' => rfl
      | none => exact keeps_onLink w h fun _ => rfl
    | none =>
      refine keeps_onConsumer w h consumer fun r => ?_
      cases givenClose with
      | some op' => rfl
      | none => exact keeps_onLink w h fun _ => rfl
  | app lookup kind =>
    show f (Request.startApp lookup kind w).1 = f w
    simp only [Request.startApp]
    split
    · exact hf.log _ _
    · exact keeps_asJob (keeps_appStart hf w _)
  | listen => exact hf.nextTask _ _

end Views

/-! ## Receivers -/

/-- The receiver that a registration opens under a tag. -/
def Registration.opened (g : Registration) (tag : String) (task : Nat) : Receiver :=
  { tag, link := g.link, mode := g.mode, kind := g.kind, loop := .receiving, joinable := true
    task }

/-- The receivers of a world after the stop of one of them has been called: whoever finds it
joinable takes charge of it. -/
def World.claiming (w : World) : Option Nat → List Receiver
  | some r => if (w.receiver r).joinable then w.receivers.modify r Receiver.claimed else w.receivers
  | none => w.receivers

/-- The receiver whose stop the next turn of a teardown calls. -/
def Teardown.stopCall? : Teardown → Option Nat
  | yielding (.receiver r) _ => some r
  | _ => none

/-- The receiver whose stop the next turn of an application calls. -/
def App.stopCall? : App → Option Nat
  | running s => s.stopCall?
  | _ => none

/-- The receiver whose stop the next turn of a job calls. -/
def Task.stopCall? : Task → Option Nat
  | teardown s => s.stopCall?
  | app _ s | program (.running _ _ s) => s.stopCall?
  | _ => none

/-- The receiver whose stop is asked for. -/
def Request.stopCall? (h : Handles) : Request → Option Nat
  | stop consumer => h.consumers[consumer]?
  | _ => none

/-- The registration that waits for its answer, with its tag. -/
def Starting.registering? (g : Registration) : Starting → Option (Registration × String)
  | registering tag _ => some (g, tag)
  | bounding _ => none

/-- The registration of an application that waits for its answer, with its tag. -/
def App.registering? (a : AppSetup) : App → Option (Registration × String)
  | starting l sub s => s.registering? (a.registration l sub)
  | _ => none

/-- The registration of a job that waits for its answer, with its tag. -/
def Task.registering? : Task → Option (Registration × String)
  | starting g s => s.registering? g
  | app a s | program (.running a _ s) => s.registering? a
  | _ => none

section Receivers

variable (w : World)

theorem receivers_stoppingStart (r : Nat) :
    (Stopping.start r w).1.receivers = w.claiming (some r) := by
  cases hj : (w.receiver r).joinable with
  | false =>
    rw [stoppingStart_of_not_joinable hj]
    simp [World.claiming, hj, World.log, World.emit]
  | true =>
    have hm : (w.modifyReceiver r Receiver.claimed).receivers = w.claiming (some r) := by
      simp [World.claiming, hj, World.modifyReceiver]
    rcases stoppingStart_of_joinable hj with h | h <;> rw [h]
    · exact hm
    · exact (keptByCalls_receivers.call _ _).trans hm

/-- A registration opens one receiver, behind all others, or none. -/
theorem receivers_startingResume (g : Registration) (s : Starting) :
    ((s.resume g w).1.receivers = w.receivers ∧ ∀ r, (s.resume g w).2 ≠ .finished (.ok r)) ∨
      ∃ tag, s.registering? g = some (g, tag) ∧
        (s.resume g w).1.receivers = w.receivers ++ [g.opened tag w.nextTask] ∧
        (s.resume g w).2 = .finished (.ok w.receivers.length) := by
  cases s with
  | bounding p =>
    have same : ((Starting.bounding p).resume g w).1.receivers = w.receivers :=
      keeps_resolve keptByCalls_receivers p w
        (fun _ w' => keeps_register keptByCalls_receivers (fun _ _ => rfl) w' g) fun _ _ => rfl
    refine .inl ⟨same, fun r => ?_⟩
    exact resolve_induction
      (motive := fun t : Turn Starting (Except Failure Nat) => t.2 ≠ .finished (.ok r))
      (fun _ _ => by simp [Starting.register]) (fun _ _ => by simp) (fun _ _ => by simp) w
  | registering tag p =>
    simp only [Starting.resume]
    cases ha : p.reply.answer with
    | done name =>
      rw [resolve_done ha]
      exact .inr ⟨tag, rfl, rfl, rfl⟩
    | refused fault =>
      rw [resolve_refused ha]
      exact .inl ⟨rfl, by simp⟩
    | crashed payload =>
      rw [resolve_crashed ha]
      exact .inl ⟨rfl, by simp⟩

/-- A teardown changes a receiver in one turn only, the one in which it calls for its stop. -/
theorem receivers_teardownResume (s : Teardown) :
    (s.resume w).1.receivers = w.claiming s.stopCall? := by
  cases s with
  | blocked stopper closer => rfl
  | yielding stopper closer =>
    cases stopper with
    | receiver r =>
      have hs := receivers_stoppingStart (w.transition .draining) r
      have hd : ∀ (t : Turn Stopping (Except Failure Stats)),
          (t.andThen (.stopping r closer) (Teardown.stopped closer)).1.receivers =
            t.1.receivers := fun t =>
        keeps_andThen rfl fun result w' =>
          keeps_stopped keptByCalls_receivers (fun _ _ => rfl) (fun _ _ => rfl) w' closer result
      exact (hd _).trans hs
    | given op => rfl
  | stopping r closer s =>
    exact keeps_andThen (keeps_stoppingResume keptByCalls_receivers w r s) fun result w' =>
      keeps_stopped keptByCalls_receivers (fun _ _ => rfl) (fun _ _ => rfl) w' closer result
  | stoppingGiven op closer =>
    show (op.ending.andThen w (Teardown.stopped closer)).1.receivers = w.receivers
    cases op.ending with
    | returned result =>
      exact keeps_stopped keptByCalls_receivers (fun _ _ => rfl) (fun _ _ => rfl) w closer result
    | crashed payload => rfl
  | closing l result s =>
    exact keeps_andThen (keeps_closingResume keptByCalls_receivers (fun _ _ => rfl) w l s)
      fun r w' => keeps_closed keptByCalls_receivers (fun _ _ => rfl) w' result r
  | closingGiven op result =>
    show (op.ending.andThen w (Teardown.closed result)).1.receivers = w.receivers
    cases op.ending with
    | returned r => exact keeps_closed keptByCalls_receivers (fun _ _ => rfl) w result r
    | crashed payload => rfl

/-- An application changes the receivers in two turns only: when its registration succeeds, and
when it calls for the stop. -/
theorem receivers_appResume (a : AppSetup) (s : App) :
    (s.resume a w).1.receivers = w.claiming s.stopCall? ∨
      ∃ g tag, s.registering? a = some (g, tag) ∧
        (s.resume a w).1.receivers = w.receivers ++ [g.opened tag w.nextTask] := by
  have kept : s.isUp = false → (∀ l sub st, s = .starting l sub st →
      (st.resume (a.registration l sub) w).1.receivers = w.receivers) →
      (s.resume a w).1.receivers = w.receivers := fun down =>
    keeps_appResume keptByCalls_receivers (fun _ _ => rfl) (fun _ _ => rfl) w a down
  cases s with
  | starting l sub s =>
    rcases receivers_startingResume w (a.registration l sub) s with ⟨h, -⟩ | ⟨tag, hg, h, -⟩
    · refine .inl (kept rfl fun l sub st hst => ?_)
      cases hst
      exact h
    · have hk : (App.resume a (.starting l sub s) w).1.receivers =
          (s.resume (a.registration l sub) w).1.receivers :=
        keeps_andThen rfl fun r w' =>
          keeps_started keptByCalls_receivers (fun _ _ => rfl) w' l sub r
      exact .inr ⟨_, tag, hg, hk.trans h⟩
  | running s =>
    exact .inl ((keeps_andThen rfl fun _ _ => rfl).trans (receivers_teardownResume w s))
  | _ => exact .inl (kept rfl fun _ _ _ hst => by cases hst)

/-- A turn of a job changes the receivers if it calls for the stop of one, or if it completes a
registration; and only then. -/
theorem receivers_taskResume (t : Task) :
    (t.resume w).1.receivers = w.claiming t.stopCall? ∨
      ∃ g tag, t.registering? = some (g, tag) ∧
        (t.resume w).1.receivers = w.receivers ++ [g.opened tag w.nextTask] := by
  cases t with
  | starting g s =>
    rcases receivers_startingResume w g s with ⟨h, -⟩ | ⟨tag, hg, h, -⟩
    · exact .inl (keeps_asJob h)
    · exact .inr ⟨g, tag, hg, (keeps_asJob rfl).trans h⟩
  | teardown s => exact .inl ((keeps_asJob rfl).trans (receivers_teardownResume w s))
  | app a s =>
    have hk : ((Task.app a s).resume w).1.receivers = (s.resume a w).1.receivers := keeps_asJob rfl
    rcases receivers_appResume w a s with h | ⟨g, tag, hg, h⟩
    · exact .inl (hk.trans h)
    · exact .inr ⟨g, tag, hg, hk.trans h⟩
  | program s =>
    cases s with
    | running a listener s =>
      have hk : ((Task.program (.running a listener s)).resume w).1.receivers =
          (s.resume a w).1.receivers := keeps_andThen rfl fun _ _ => rfl
      rcases receivers_appResume w a s with h | ⟨g, tag, hg, h⟩
      · exact .inl (hk.trans h)
      · exact .inr ⟨g, tag, hg, hk.trans h⟩
    | joining listener result => exact .inl rfl
  | _ =>
    exact .inl (keeps_plainResume keptByCalls_receivers (fun _ _ => rfl) w rfl fun s _ =>
      keeps_listeningResume keptByCalls_receivers (fun _ => rfl) w s)

/-- The turn in which a job is asked for changes a receiver only where the job is its stop. -/
theorem receivers_begin (q : Request) (h : Handles) :
    (q.begin h w).1.receivers = w.claiming (q.stopCall? h) := by
  cases q with
  | stop consumer =>
    show (Request.onConsumer h consumer w _).1.receivers = w.claiming h.consumers[consumer]?
    simp only [Request.onConsumer]
    cases h.consumers[consumer]? with
    | none => rfl
    | some r => exact (keeps_asJob rfl).trans (receivers_stoppingStart w r)
  | _ =>
    exact keeps_begin keptByCalls_receivers (fun _ _ => rfl) w _ h (fun _ _ hq => by cases hq)
      fun l _ => keeps_closingStart keptByCalls_receivers (fun _ _ => rfl) w l

end Receivers

end TopicWorker
