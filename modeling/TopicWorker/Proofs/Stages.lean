import TopicWorker.Proofs.Turns

/-!
# What the stages of a job wait for

A stage that waits for an answer waits for the answer to a call of a certain method, and the
stage says which. Every turn that leaves a job at a stage has made that call, so it is enough
to know where a job stands to know what it may have asked of the broker.

## Main definitions

* `Progress.All`: a property of the stage at which an operation waits.
* `Task.method?` and the like: the method whose answer a stage waits for.

## Main results

* `fits_taskResume`, `fits_begin`: every turn of a job leaves it at a stage that fits its call.
-/

namespace TopicWorker

variable {σ τ ρ ρ' α : Type}

/-- A property of the stage at which an operation waits, if it waits. -/
def Progress.All (P : σ → Prop) : Progress σ ρ → Prop
  | .waiting s => P s
  | .finished _ | .crashed _ => True

section Rules

variable {P P' : σ → Prop} {Q : τ → Prop}

theorem all_true (p : Progress σ ρ) : p.All (fun _ => True) := by
  cases p <;> trivial

/-- Where an operation waits. -/
theorem all_self (p : Progress σ ρ) : p.All fun s => p = .waiting s := by
  cases p <;> trivial

/-- Where an operation waits, so does a whole of which it is the first part. -/
theorem Turn.andThen_waiting {t : Turn σ ρ} {s : σ} (h : t.2 = .waiting s) (embed : σ → τ)
    (next : ρ → World → Turn τ ρ') : t.andThen embed next = (t.1, .waiting (embed s)) := by
  obtain ⟨w, p⟩ := t
  cases h
  rfl

/-- Where an operation dies, so does a whole of which it is the first part. -/
theorem Turn.andThen_crashed {t : Turn σ ρ} {payload : Option String} (h : t.2 = .crashed payload)
    (embed : σ → τ) (next : ρ → World → Turn τ ρ') :
    t.andThen embed next = (t.1, .crashed payload) := by
  obtain ⟨w, p⟩ := t
  cases h
  rfl

/-- A weaker property holds as well. -/
theorem Progress.All.mono {p : Progress σ ρ} (h : p.All P) (hp : ∀ s, P s → P' s) : p.All P' := by
  cases p with
  | waiting s => exact hp s h
  | _ => trivial

/-- What holds of every stage holds of the one that has been come to. -/
theorem Progress.All.of_waiting {p : Progress σ ρ} {s : σ} (h : p.All P) (waits : p = .waiting s) :
    P s := by
  subst waits
  exact h

/-- A property that both parts of an operation establish is established by the whole. -/
theorem all_andThen {t : Turn σ ρ} {embed : σ → τ} {next : ρ → World → Turn τ ρ'}
    (ht : t.2.All P) (hp : ∀ s, P s → Q (embed s)) (hn : ∀ r w, (next r w).2.All Q) :
    (t.andThen embed next).2.All Q := by
  obtain ⟨w, p⟩ := t
  cases p with
  | waiting s => exact hp s ht
  | finished r => exact hn r w
  | crashed payload => trivial

theorem all_resolve (p : Pending) (w : World) {report : Fault → LogEntry}
    {onDone : Option String → World → Turn σ ρ} {onFault : Fault → World → Turn σ ρ}
    (hd : ∀ name w', (onDone name w').2.All P) (hf : ∀ fault w', (onFault fault w').2.All P) :
    (p.resolve w report onDone onFault).2.All P :=
  resolve_induction (motive := fun t : Turn σ ρ => t.2.All P) hd hf (fun _ _ => trivial) w

end Rules

/-! ## The methods of the stages -/

/-- The method whose answer an opening waits for. -/
def Opening.method : Opening → Method
  | connecting _ => .connect
  | openingChannel _ _ => .createChannel

/-- The method whose answer a closing waits for. -/
def Closing.method : Closing → Method
  | channel _ => .channelClose
  | connection _ _ => .connectionClose

/-- The method whose answer a subscription waits for. -/
def Subscribing.method : Subscribing → Method
  | exchange _ => .exchangeDeclare
  | queue _ => .queueDeclare
  | binding _ _ => .queueBind

/-- The method whose answer a registration waits for. -/
def Starting.method : Starting → Method
  | bounding _ => .basicQos
  | registering _ _ => .basicConsume

/-- The method whose answer a stop waits for, unless it waits for the loop. -/
def Stopping.method? : Stopping → Option Method
  | cancelling _ => some .basicCancel
  | joining => none

/-- The method whose answer a teardown waits for, if it waits for one. -/
def Teardown.method? : Teardown → Option Method
  | stopping _ _ s => s.method?
  | closing _ _ s => some s.method
  | blocked _ _ | yielding _ _ | stoppingGiven _ _ | closingGiven _ _ => none

/-- The method whose answer an application waits for, if it waits for one. -/
def App.method? : App → Option Method
  | opening s => some s.method
  | subscribing _ s => some s.method
  | starting _ _ s => some s.method
  | running s => s.method?
  | abandoning _ _ s => some s.method

/-- The method whose answer a job waits for, if it waits for one. -/
def Task.method? : Task → Option Method
  | opening s => some s.method
  | closing _ s => some s.method
  | declaringExchange _ _ => some .exchangeDeclare
  | declaringQueue _ _ => some .queueDeclare
  | binding _ _ => some .queueBind
  | subscribing _ _ s => some s.method
  | starting _ s => some s.method
  | stopping _ s => s.method?
  | acknowledging _ _ => some .basicAck
  | rejecting _ _ _ => some .basicReject
  | cancelling _ _ => some .basicCancel
  | teardown s => s.method?
  | app _ s => s.method?
  | listening _ => none
  | program (.running _ _ s) => s.method?
  | program (.joining _ _) => none

/-- A stage fits the call whose answer it waits for. -/
def Fits (pending : σ → Option Pending) (method : σ → Option Method) (s : σ) : Prop :=
  (pending s).map (·.call.method) = method s

/-! ## The operations one by one -/

section Operations

variable (w : World)

theorem fits_openingStart (name : String) (endpoint : Endpoint) :
    (Opening.start name endpoint w).2.All (Fits (some ∘ Opening.pending) (some ∘ Opening.method)) :=
  rfl

theorem fits_openingResume (s : Opening) :
    (s.resume w).2.All (Fits (some ∘ Opening.pending) (some ∘ Opening.method)) := by
  cases s with
  | connecting p => exact all_resolve p w (fun _ _ => rfl) fun _ _ => trivial
  | openingChannel l p => exact all_resolve p w (fun _ _ => trivial) fun _ _ => trivial

theorem fits_conclude (failure : Option Failure) :
    (Closing.conclude failure w).2.All (Fits (some ∘ Closing.pending) (some ∘ Closing.method)) := by
  cases failure <;> trivial

theorem fits_closeConnection (l : Nat) (failure : Option Failure) :
    (Closing.closeConnection l failure w).2.All
      (Fits (some ∘ Closing.pending) (some ∘ Closing.method)) := by
  simp only [Closing.closeConnection]
  split
  · rfl
  · exact fits_conclude w failure

theorem fits_closingStart (l : Nat) :
    (Closing.start l w).2.All (Fits (some ∘ Closing.pending) (some ∘ Closing.method)) := by
  unfold Closing.start
  split
  · trivial
  · dsimp only
    split
    · rfl
    · exact fits_closeConnection _ l none

theorem fits_closingResume (l : Nat) (s : Closing) :
    (s.resume l w).2.All (Fits (some ∘ Closing.pending) (some ∘ Closing.method)) := by
  cases s with
  | channel p =>
    exact all_resolve p w (fun _ w' => fits_closeConnection _ l none)
      fun _ w' => fits_closeConnection w' l _
  | connection failure p =>
    exact all_resolve p w (fun _ w' => fits_conclude _ failure) fun _ w' => fits_conclude w' _

theorem fits_subscribingStart (x : Exchange) :
    (Subscribing.start x w).2.All
      (Fits (some ∘ Subscribing.pending) (some ∘ Subscribing.method)) :=
  rfl

theorem fits_subscribingResume (x : Exchange) (pattern : String) (s : Subscribing) :
    (s.resume x pattern w).2.All
      (Fits (some ∘ Subscribing.pending) (some ∘ Subscribing.method)) := by
  cases s with
  | exchange p =>
    refine all_andThen (P := fun _ : Subscribing => False) ?_ (fun _ h => h.elim) fun r w' => ?_
    · exact all_resolve p w (fun _ _ => trivial) fun _ _ => trivial
    · cases r <;> trivial
  | queue p =>
    refine all_andThen (P := fun _ : Subscribing => False) ?_ (fun _ h => h.elim) fun r w' => ?_
    · exact all_resolve p w (fun _ _ => trivial) fun _ _ => trivial
    · cases r <;> trivial
  | binding sub p =>
    refine all_andThen (P := fun _ : Subscribing => False) ?_ (fun _ h => h.elim) fun r w' => ?_
    · exact all_resolve p w (fun _ _ => trivial) fun _ _ => trivial
    · cases r <;> trivial

theorem fits_startingStart (g : Registration) :
    (Starting.start g w).2.All (Fits (some ∘ Starting.pending) (some ∘ Starting.method)) := by
  simp only [Starting.start]
  split <;> rfl

theorem fits_startingResume (g : Registration) (s : Starting) :
    (s.resume g w).2.All (Fits (some ∘ Starting.pending) (some ∘ Starting.method)) := by
  cases s with
  | bounding p => exact all_resolve p w (fun _ _ => rfl) fun _ _ => trivial
  | registering tag p => exact all_resolve p w (fun _ _ => trivial) fun _ _ => trivial

theorem fits_stoppingStart (r : Nat) :
    (Stopping.start r w).2.All (Fits Stopping.pending? Stopping.method?) := by
  cases hj : (w.receiver r).joinable with
  | false =>
    rw [stoppingStart_of_not_joinable hj]
    trivial
  | true =>
    rcases stoppingStart_of_joinable hj with h | h <;> rw [h] <;> rfl

theorem fits_stoppingResume (r : Nat) (s : Stopping) :
    (s.resume r w).2.All (Fits Stopping.pending? Stopping.method?) := by
  cases s with
  | cancelling p =>
    refine all_andThen (P := fun _ : Stopping => False) ?_ (fun _ h => h.elim) fun result w' => ?_
    · exact all_resolve p w (fun _ _ => trivial) fun _ _ => trivial
    · rcases result with f | ⟨⟩ <;> rfl
  | joining =>
    simp only [Stopping.resume, Stopping.joined]
    split <;> trivial

/-- After the close nothing is waited for. -/
theorem all_closed {P : Teardown → Prop} (stopped : Except Failure Stats)
    (result : Except Failure Unit) : (Teardown.closed stopped result w).2.All P := by
  simp only [Teardown.closed]
  split <;> trivial

theorem fits_stopped (closer : Closer) (result : Except Failure Stats) :
    (Teardown.stopped closer result w).2.All (Fits Teardown.pending? Teardown.method?) := by
  refine stopped_induction (motive := fun _ t => t.2.All (Fits Teardown.pending? Teardown.method?))
    (fun _ _ _ h => h) (fun w l _ => ?_) (fun _ _ _ => rfl) w
  exact all_andThen (fits_closingStart w l) (fun _ h => h) fun r w' => all_closed w' result r

theorem fits_ending (e : Ending α) {P : τ → Prop} {next : Except Failure α → World → Turn τ ρ}
    (hn : ∀ r w', (next r w').2.All P) : (e.andThen w next).2.All P := by
  cases e with
  | returned result => exact hn result w
  | crashed payload => trivial

theorem fits_teardownResume (s : Teardown) :
    (s.resume w).2.All (Fits Teardown.pending? Teardown.method?) := by
  cases s with
  | blocked stopper closer => rfl
  | yielding stopper closer =>
    cases stopper with
    | receiver r =>
      exact all_andThen (fits_stoppingStart _ r) (fun _ h => h)
        fun result w' => fits_stopped w' closer result
    | given op => rfl
  | stopping r closer s =>
    exact all_andThen (fits_stoppingResume w r s) (fun _ h => h)
      fun result w' => fits_stopped w' closer result
  | stoppingGiven op closer => exact fits_ending w op.ending fun r w' => fits_stopped w' closer r
  | closing l result s =>
    exact all_andThen (fits_closingResume w l s) (fun _ h => h) fun r w' => all_closed w' result r
  | closingGiven op result => exact fits_ending w op.ending fun r w' => all_closed w' result r

theorem fits_abandon (l : Nat) (f : Failure) :
    (App.abandon l f w).2.All (Fits App.pending? App.method?) :=
  all_andThen (fits_closingStart w l) (fun _ h => h) fun _ _ => trivial

theorem fits_started (l : Nat) (sub : Subscription) (result : Except Failure Nat) :
    (App.started l sub result w).2.All (Fits App.pending? App.method?) := by
  cases result with
  | error f => exact fits_abandon w l f
  | ok r => rfl

theorem fits_subscribed (a : AppSetup) (l : Nat) (result : Except Failure Subscription) :
    (App.subscribed a l result w).2.All (Fits App.pending? App.method?) := by
  cases result with
  | error f => exact fits_abandon w l f
  | ok s =>
    exact all_andThen (fits_startingStart w _) (fun _ h => h) fun r w' => fits_started w' l s r

theorem fits_opened (a : AppSetup) (result : Except Failure Nat) :
    (App.opened a result w).2.All (Fits App.pending? App.method?) := by
  cases result with
  | error f => trivial
  | ok l =>
    exact all_andThen (fits_subscribingStart w _) (fun _ h => h)
      fun r w' => fits_subscribed w' a l r

theorem fits_appStart (a : AppSetup) :
    (App.start a w).2.All (Fits App.pending? App.method?) :=
  all_andThen (fits_openingStart w _ _) (fun _ h => h) fun r w' => fits_opened w' a r

theorem fits_appResume (a : AppSetup) (s : App) :
    (s.resume a w).2.All (Fits App.pending? App.method?) := by
  cases s with
  | opening s =>
    exact all_andThen (fits_openingResume w s) (fun _ h => h) fun r w' => fits_opened w' a r
  | subscribing l s =>
    exact all_andThen (fits_subscribingResume w _ _ s) (fun _ h => h)
      fun r w' => fits_subscribed w' a l r
  | starting l sub s =>
    exact all_andThen (fits_startingResume w _ s) (fun _ h => h)
      fun r w' => fits_started w' l sub r
  | running s => exact all_andThen (fits_teardownResume w s) (fun _ h => h) fun _ _ => trivial
  | abandoning l f s =>
    exact all_andThen (fits_closingResume w l s) (fun _ h => h) fun _ _ => trivial

/-! ## Jobs -/

theorem all_asJob {t : Turn σ (Except Failure α)} {embed : σ → Task} {value : α → Value}
    {P : σ → Prop} {Q : Task → Prop} (h : t.2.All P) (hp : ∀ s, P s → Q (embed s)) :
    (t.asJob embed value).2.All Q :=
  all_andThen h hp fun _ _ => trivial

/-- Where a call has only been answered, nothing is waited for. -/
theorem all_of_resolve {p : Pending} {report : Fault → LogEntry}
    {onDone : Option String → World → Turn σ (Except Failure α)}
    {onFault : Fault → World → Turn σ (Except Failure α)} {embed : σ → Task} {value : α → Value}
    {Q : Task → Prop} (hd : ∀ name w', ∃ r, (onDone name w').2 = .finished r)
    (hf : ∀ fault w', ∃ r, (onFault fault w').2 = .finished r) :
    ((p.resolve w report onDone onFault).asJob embed value).2.All Q := by
  refine all_asJob (P := fun _ => False) (all_resolve p w ?_ ?_) fun _ h => h.elim
  · intro name w'
    obtain ⟨r, hr⟩ := hd name w'
    rw [hr]
    trivial
  · intro fault w'
    obtain ⟨r, hr⟩ := hf fault w'
    rw [hr]
    trivial

/-- Every turn of a job leaves it at a stage that fits its call. -/
theorem fits_taskResume (t : Task) :
    (t.resume w).2.All (Fits Task.pending? Task.method?) := by
  cases t with
  | opening s => exact all_andThen (fits_openingResume w s) (fun _ h => h) fun _ _ => trivial
  | closing l s => exact all_asJob (fits_closingResume w l s) fun _ h => h
  | declaringExchange x p => exact all_of_resolve w (fun _ _ => ⟨_, rfl⟩) fun _ _ => ⟨_, rfl⟩
  | declaringQueue q p => exact all_of_resolve w (fun _ _ => ⟨_, rfl⟩) fun _ _ => ⟨_, rfl⟩
  | binding b p => exact all_of_resolve w (fun _ _ => ⟨_, rfl⟩) fun _ _ => ⟨_, rfl⟩
  | subscribing x pattern s => exact all_asJob (fits_subscribingResume w x pattern s) fun _ h => h
  | starting g s => exact all_asJob (fits_startingResume w g s) fun _ h => h
  | stopping r s => exact all_asJob (fits_stoppingResume w r s) fun _ h => h
  | acknowledging tag p => exact all_of_resolve w (fun _ _ => ⟨_, rfl⟩) fun _ _ => ⟨_, rfl⟩
  | rejecting tag requeue p => exact all_of_resolve w (fun _ _ => ⟨_, rfl⟩) fun _ _ => ⟨_, rfl⟩
  | cancelling tag p => exact all_of_resolve w (fun _ _ => ⟨_, rfl⟩) fun _ _ => ⟨_, rfl⟩
  | teardown s => exact all_asJob (fits_teardownResume w s) fun _ h => h
  | app a s => exact all_asJob (fits_appResume w a s) fun _ h => h
  | listening s =>
    refine all_asJob (P := fun _ => True) ?_ fun _ _ => rfl
    cases (s.resume w).2 <;> trivial
  | program s =>
    cases s with
    | running a listener s => exact all_andThen (fits_appResume w a s) (fun _ h => h) fun _ _ => rfl
    | joining listener result => rfl

theorem fits_onLink {Q : Task → Prop} (h : Handles) {job : Nat → Turn Task Outcome}
    (hj : ∀ l, (job l).2.All Q) : (Request.onLink h w job).2.All Q :=
  onLink_induction (motive := fun t => t.2.All Q) h (fun l _ => hj l) fun _ => trivial

theorem fits_onConsumer {Q : Task → Prop} (h : Handles) (consumer : Nat)
    {job : Nat → Turn Task Outcome} (hj : ∀ r, (job r).2.All Q) :
    (Request.onConsumer h consumer w job).2.All Q :=
  onConsumer_induction (motive := fun t => t.2.All Q) h consumer hj fun _ => trivial

/-- The turn in which a job is asked for leaves it at a stage that fits its call. -/
theorem fits_begin (q : Request) (h : Handles) :
    (q.begin h w).2.All (Fits Task.pending? Task.method?) := by
  cases q with
  | opening name endpoint =>
    exact all_andThen (fits_openingStart w name endpoint) (fun _ h => h) fun _ _ => trivial
  | close => exact fits_onLink w h fun l => all_asJob (fits_closingStart w l) fun _ h => h
  | status => trivial
  | declareExchange x => exact fits_onLink w h fun _ => rfl
  | declareQueue q => exact fits_onLink w h fun _ => rfl
  | bind b => exact fits_onLink w h fun _ => rfl
  | subscribe x pattern =>
    exact fits_onLink w h fun _ => all_asJob (fits_subscribingStart w x) fun _ h => h
  | start queue mode prefetch kind =>
    exact fits_onLink w h fun _ => all_asJob (fits_startingStart w _) fun _ h => h
  | stop consumer =>
    exact fits_onConsumer w h consumer fun r => all_asJob (fits_stoppingStart w r) fun _ h => h
  | ack tag => exact fits_onLink w h fun _ => rfl
  | reject tag requeue => exact fits_onLink w h fun _ => rfl
  | cancelConsumer tag =>
    refine fits_onLink w h fun l => ?_
    rcases cancellingStart_cases w l tag with hc | hc <;> rw [hc]
    · trivial
    · rfl
  | run consumer given givenClose =>
    cases given with
    | some op =>
      cases givenClose with
      | some op' => rfl
      | none => exact fits_onLink w h fun _ => rfl
    | none =>
      refine fits_onConsumer w h consumer fun r => ?_
      cases givenClose with
      | some op' => rfl
      | none => exact fits_onLink w h fun _ => rfl
  | app lookup kind =>
    show (Request.startApp lookup kind w).2.All _
    simp only [Request.startApp]
    split
    · trivial
    · exact all_asJob (fits_appStart w _) fun _ h => h
  | listen => rfl

end Operations

end TopicWorker
