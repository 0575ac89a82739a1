import TopicWorker.Proofs.Dispatch

/-!
# Failures are told

The broker fails a worker in two ways: it refuses a call, or it puts a fault into a feed. What the
worker makes of it differs: a failure may end an operation, be passed over, or give way to another
failure, and some results do not keep the broker's text. The journal keeps it. Each of the twelve
methods, and the feed, has a sentence of its own; where a failure is met an error entry with this
sentence and the broker's text follows at once, and no such entry is ever written otherwise.

An entry is told apart by its level, component and sentence, and not by who writes it: a closing
tells the same whether somebody has asked for it, a teardown or a startup that is given up.

## Main definitions

* `FaultSite`, `FaultSite.sentence`: where the broker may fail a worker, and how it is told.
* `Event.failure?`, `Event.report?`: a failure, and what an entry says of one.
* `Candid`: traces in which every failure is told at once, and nothing else is told as one.

## Main results

* `Candid.reports_eq`: what such a trace tells are its failures.
* `System.candid_after`: every trace is candid.
-/

namespace TopicWorker

variable {σ τ ρ ρ' α : Type}

/-! ## Sites -/

/-- Where the broker may fail a worker: in a call of a method, or in what a feed yields. -/
inductive FaultSite where
  | call (m : Method)
  | feed
  deriving DecidableEq, Repr

namespace FaultSite

/-- All sites. -/
def all : List FaultSite := Method.all.map call ++ [feed]

/-- Who tells of a failure at a site, and with which sentence. -/
def sentence : FaultSite → Component × String
  | call .connect => (.link, "failure to connect")
  | call .createChannel => (.link, "error to create the channel")
  | call .channelClose => (.link, "failure to close the channel")
  | call .connectionClose => (.link, "failure to close the connection")
  | call .exchangeDeclare => (.topology, "error to declare the exchange")
  | call .queueDeclare => (.topology, "failure to declare queue")
  | call .queueBind => (.topology, "error to bind queue to exchange")
  | call .basicQos => (.receiver, "failure to configure qos")
  | call .basicConsume => (.receiver, "error to create the consumer")
  | call .basicCancel => (.receiver, "failure to cancel consumer")
  | call .basicAck => (.delivery, "error whiling ack msg")
  | call .basicReject => (.delivery, "error whiling reject msg")
  | feed => (.receiver, "errors consume msg")

/-- A failure is told by one of four components. -/
theorem sentence_component (x : FaultSite) :
    x.sentence.1 ∈ [Component.link, .topology, .receiver, .delivery] := by
  cases x with
  | feed => decide
  | call m => cases m <;> decide

end FaultSite

namespace LogEntry

/-- The site that an error entry speaks of. -/
def site? (e : LogEntry) : Option FaultSite :=
  if e.level = .error then FaultSite.all.find? fun x => x.sentence = (e.component, e.message)
  else none

/-- An entry tells of a failure at a site. -/
def Tells (e : LogEntry) (x : FaultSite) (fault : Fault) : Prop :=
  e.site? = some x ∧ e.field? "error" = some (.text fault.message)

/-- What is written about a failure tells of it. -/
theorem tells_faultEntry (x : FaultSite) (more : List (String × Field)) (fault : Fault) :
    (faultEntry x.sentence.1 x.sentence.2 more fault).Tells x fault := by
  refine ⟨?_, rfl⟩
  cases x with
  | feed => rfl
  | call m => cases m <;> rfl

/-- Another component speaks of no site. -/
theorem site?_of_component {e : LogEntry} (c : Component) (is : e.component = c)
    (other : c ∉ [Component.link, .topology, .receiver, .delivery]) : e.site? = none := by
  unfold site?
  split
  · refine List.find?_eq_none.mpr fun x _ same => other ?_
    have hx := x.sentence_component
    rwa [of_decide_eq_true same, is] at hx
  · rfl

end LogEntry

/-- A configuration that cannot be loaded is no failure of the broker. -/
theorem Config.Problem.site?_entry (problem : Config.Problem) : problem.entry.site? = none := by
  cases problem <;> exact LogEntry.site?_of_component .configuration rfl (by decide)

/-! ## Traces -/

namespace Event

/-- A failure of the broker: where, and what. -/
def failure? : Event → Option (FaultSite × Fault)
  | answered c (.refused fault) => some (.call c.method, fault)
  | pulled _ (.fault fault) => some (.feed, fault)
  | _ => none

/-- What an entry says of a failure: where, and its field for the broker's text. -/
def report? : Event → Option (FaultSite × Option Field)
  | logged e => e.site?.map fun x => (x, e.field? "error")
  | _ => none

/-- A failure is not told by itself. -/
theorem report?_of_failure? {e : Event} {f : FaultSite × Fault} (h : e.failure? = some f) :
    e.report? = none := by
  cases e <;> first | rfl | cases h

end Event

/-- The failures in a trace, in order. -/
def failures (l : List Event) : List (FaultSite × Fault) := l.filterMap Event.failure?

/-- What is told of failures in a trace, in order. -/
def reports (l : List Event) : List (FaultSite × Option Field) := l.filterMap Event.report?

/-- A trace in which every failure is told at once, and nothing else is told as one. -/
inductive Candid : List Event → Prop where
  | nothing : Candid []
  | other {e : Event} {l : List Event} (unfailing : e.failure? = none) (silent : e.report? = none)
    (h : Candid l) : Candid (e :: l)
  | told {e : Event} {entry : LogEntry} {x : FaultSite} {fault : Fault} {l : List Event}
    (fails : e.failure? = some (x, fault)) (tells : entry.Tells x fault) (h : Candid l) :
    Candid (e :: .logged entry :: l)

namespace Candid

variable {l l' p q : List Event} {e : Event}

/-- A trace may go on with another one. -/
theorem append (h : Candid l) (h' : Candid l') : Candid (l ++ l') := by
  induction h with
  | nothing => exact h'
  | other unfailing silent _ ih => exact .other unfailing silent ih
  | told fails tells _ ih => exact .told fails tells ih

/-- What is told are the failures, one by one, with the broker's text. -/
theorem reports_eq (h : Candid l) :
    reports l = (failures l).map fun (x, fault) => (x, some (.text fault.message)) := by
  induction h with
  | nothing => rfl
  | @other e l unfailing silent _ ih =>
    simpa [reports, failures, unfailing, silent] using ih
  | @told e entry x fault l fails tells _ ih =>
    have untold := Event.report?_of_failure? fails
    have unfailing : Event.failure? (.logged entry) = none := rfl
    have report : Event.report? (.logged entry) = some (x, some (.text fault.message)) := by
      simp [Event.report?, tells.1, tells.2]
    simpa [reports, failures, fails, untold, unfailing, report] using ih

/-- A failure is told at once. -/
theorem told_next (h : Candid l) {x : FaultSite} {fault : Fault} (split : l = p ++ e :: q)
    (fails : e.failure? = some (x, fault)) :
    ∃ entry q', q = .logged entry :: q' ∧ entry.Tells x fault := by
  induction h generalizing p with
  | nothing => simp at split
  | other unfailing _ _ ih =>
    cases p with
    | nil =>
      cases split
      rw [unfailing] at fails
      cases fails
    | cons a p => exact ih (List.cons.inj split).2
  | @told _ entry _ _ l fails' tells _ ih =>
    cases p with
    | nil =>
      cases split
      rw [fails, Option.some.injEq] at fails'
      cases fails'
      exact ⟨entry, l, rfl, tells⟩
    | cons a p =>
      cases p with
      | nil =>
        cases split
        cases fails
      | cons b p => exact ih (List.cons.inj (List.cons.inj split).2).2

/-- What is told of a failure follows it. -/
theorem failed_before (h : Candid l) {y : FaultSite × Option Field} (split : l = p ++ e :: q)
    (tells : e.report? = some y) :
    ∃ p' e' x fault, p = p' ++ [e'] ∧ e'.failure? = some (x, fault) ∧
      y = (x, some (.text fault.message)) := by
  induction h generalizing p with
  | nothing => simp at split
  | other _ silent _ ih =>
    cases p with
    | nil =>
      cases split
      rw [silent] at tells
      cases tells
    | cons a p =>
      obtain ⟨p', e', x, fault, rfl, rest⟩ := ih (List.cons.inj split).2
      exact ⟨a :: p', e', x, fault, rfl, rest⟩
  | @told e₀ entry x fault l fails told _ ih =>
    cases p with
    | nil =>
      cases split
      rw [Event.report?_of_failure? fails] at tells
      cases tells
    | cons a p =>
      cases p with
      | nil =>
        cases split
        refine ⟨[], e₀, x, fault, rfl, fails, ?_⟩
        simpa [Event.report?, told.1, told.2] using tells.symm
      | cons b p =>
        obtain ⟨p', e', x, fault, rfl, rest⟩ := ih (List.cons.inj (List.cons.inj split).2).2
        exact ⟨a :: b :: p', e', x, fault, rfl, rest⟩

end Candid

/-! ## Turns -/

namespace World

/-- A world in which every failure has been told, and nothing else has been told as one. -/
def Candid (w : World) : Prop := TopicWorker.Candid w.trace

variable {w : World}

/-- Something else happens. -/
theorem Candid.emit (h : w.Candid) {e : Event} (unfailing : e.failure? = none)
    (silent : e.report? = none) : (w.emit e).Candid :=
  h.append (.other unfailing silent .nothing)

/-- Something else is told. -/
theorem Candid.log (h : w.Candid) {e : LogEntry} (site : e.site? = none) : (w.log e).Candid :=
  h.emit rfl (by simp [Event.report?, site])

/-- A call is no failure. -/
theorem Candid.call (h : w.Candid) (c : Call) : (w.call c).1.Candid :=
  h.emit (e := .called c) rfl rfl

/-- A failure is met and told. -/
theorem Candid.report (h : w.Candid) {e : Event} {entry : LogEntry} (x : FaultSite)
    (fault : Fault) (fails : e.failure? = some (x, fault)) (tells : entry.Tells x fault) :
    ((w.emit e).log entry).Candid := by
  have trace : ((w.emit e).log entry).trace = w.trace ++ [e, .logged entry] := by simp
  rw [Candid, trace]
  exact h.append (.told fails tells .nothing)

/-- What is told while headers are read is told of no site. -/
theorem Candid.logs {entries : List LogEntry} (he : ∀ e ∈ entries, e.component = .tracing)
    (h : w.Candid) : (entries.foldl World.log w).Candid := by
  induction entries generalizing w with
  | nil => exact h
  | cons e entries ih =>
    refine ih (fun e' he' => he e' (List.mem_cons_of_mem _ he')) (h.log ?_)
    exact LogEntry.site?_of_component .tracing (he e List.mem_cons_self) (by decide)

end World

section Rules

/-- An operation that follows a candid one. -/
theorem candid_andThen {t : Turn σ ρ} {embed : σ → τ} {next : ρ → World → Turn τ ρ'}
    (ht : t.1.Candid) (hn : ∀ r w', w'.Candid → (next r w').1.Candid) :
    (t.andThen embed next).1.Candid := by
  obtain ⟨w', p⟩ := t
  cases p with
  | waiting s => exact ht
  | finished r => exact hn r w' ht
  | crashed payload => exact ht

/-- The answer to a call of a method, with the sentence of the method. -/
theorem candid_resolve {w : World} (h : w.Candid) (m : Method) {p : Pending}
    (is : p.call.method = m) {more : List (String × Field)}
    {onDone : Option String → World → Turn σ ρ} {onFault : Fault → World → Turn σ ρ}
    (hd : ∀ name w', w'.Candid → (onDone name w').1.Candid)
    (hf : ∀ fault w', w'.Candid → (onFault fault w').1.Candid) :
    (p.resolve w (faultEntry (FaultSite.call m).sentence.1 (FaultSite.call m).sentence.2 more)
      onDone onFault).1.Candid := by
  cases ha : p.reply.answer with
  | done name =>
    rw [resolve_done ha]
    exact hd name _ (h.emit rfl rfl)
  | refused fault =>
    rw [resolve_refused ha]
    refine hf fault _ (h.report (.call m) fault ?_ ?_)
    · rw [Event.failure?, is]
    · exact LogEntry.tells_faultEntry (.call m) more fault
  | crashed payload =>
    rw [resolve_crashed ha]
    exact h.emit rfl rfl

/-- The call of a stage that always waits for an answer. -/
theorem method_of_fits {pending : σ → Pending} {method : σ → Method} {s : σ}
    (fits : Fits (some ∘ pending) (some ∘ method) s) : (pending s).call.method = method s :=
  Option.some.inj fits

end Rules

section Operations

variable {w : World} (h : w.Candid)

include h

theorem candid_openingStart (name : String) (endpoint : Endpoint) :
    (Opening.start name endpoint w).1.Candid :=
  (h.log rfl).call _

theorem candid_openingConnected : (Opening.connected w).1.Candid := by
  have made : ({ w with links := w.links ++ [{ connectionUp := true }] } : World).Candid := h
  exact ((made.log rfl).log rfl).call _

theorem candid_openingResume {s : Opening}
    (fits : Fits (some ∘ Opening.pending) (some ∘ Opening.method) s) :
    (s.resume w).1.Candid := by
  have is := method_of_fits fits
  cases s with
  | connecting p =>
    exact candid_resolve h .connect is (fun _ _ h' => candid_openingConnected h') fun _ _ h' => h'
  | openingChannel l p =>
    exact candid_resolve h .createChannel is (fun _ _ h' => h'.log rfl) fun _ _ h' => h'

theorem candid_closingConclude (failure : Option Failure) :
    (Closing.conclude failure w).1.Candid := by
  cases failure <;> exact h.log rfl

theorem candid_closeConnection (l : Nat) (failure : Option Failure) :
    (Closing.closeConnection l failure w).1.Candid := by
  simp only [Closing.closeConnection]
  split
  · exact (h.log rfl).call _
  · exact candid_closingConclude h failure

theorem candid_closingStart (l : Nat) : (Closing.start l w).1.Candid := by
  have closed : (w.modifyLink l fun v => { v with closed := true }).Candid := h
  unfold Closing.start
  split
  · exact h.log rfl
  · dsimp only
    split
    · exact (closed.log rfl).call _
    · exact candid_closeConnection closed l none

theorem candid_closingResume (l : Nat) {s : Closing}
    (fits : Fits (some ∘ Closing.pending) (some ∘ Closing.method) s) :
    (s.resume l w).1.Candid := by
  have is := method_of_fits fits
  cases s with
  | channel p =>
    exact candid_resolve h .channelClose is
      (fun _ w' h' => candid_closeConnection (w := w'.modifyLink l _) h' l none)
      fun _ _ h' => candid_closeConnection h' l _
  | connection failure p =>
    exact candid_resolve h .connectionClose is
      (fun _ w' h' => candid_closingConclude (w := w'.modifyLink l _) h' failure)
      fun _ _ h' => candid_closingConclude h' _

theorem candid_exchangeAnswered (x : Exchange) {p : Pending}
    (is : p.call.method = .exchangeDeclare) :
    (Declaring.exchangeAnswered (σ := σ) x p w).1.Candid :=
  candid_resolve h .exchangeDeclare is (fun _ _ h' => h'.log rfl) fun _ _ h' => h'

theorem candid_queueAnswered (q : Queue) {p : Pending} (is : p.call.method = .queueDeclare) :
    (Declaring.queueAnswered (σ := σ) q p w).1.Candid :=
  candid_resolve h .queueDeclare is (fun _ _ h' => h'.log rfl) fun _ _ h' => h'

theorem candid_bindingAnswered (b : Binding) {p : Pending} (is : p.call.method = .queueBind) :
    (Declaring.bindingAnswered (σ := σ) b p w).1.Candid :=
  candid_resolve h .queueBind is (fun _ _ h' => h'.log rfl) fun _ _ h' => h'

theorem candid_declaringExchange (x : Exchange) : (Declaring.exchange x w).1.Candid :=
  (h.log rfl).call _

theorem candid_declaringQueue (q : Queue) : (Declaring.queue q w).1.Candid := (h.log rfl).call _

theorem candid_declaringBinding (b : Binding) : (Declaring.binding b w).1.Candid :=
  (h.log rfl).call _

theorem candid_subscribingStart (x : Exchange) : (Subscribing.start x w).1.Candid :=
  candid_declaringExchange h x

theorem candid_subscribingResume (x : Exchange) (pattern : String) {s : Subscribing}
    (fits : Fits (some ∘ Subscribing.pending) (some ∘ Subscribing.method) s) :
    (s.resume x pattern w).1.Candid := by
  have is := method_of_fits fits
  cases s with
  | exchange p =>
    refine candid_andThen (candid_exchangeAnswered h x is) fun result _ h' => ?_
    rcases result with f | ⟨⟩
    · exact h'
    · exact candid_declaringQueue h' .anonymous
  | queue p =>
    refine candid_andThen (candid_queueAnswered h .anonymous is) fun result _ h' => ?_
    rcases result with f | name
    · exact h'
    · exact candid_declaringBinding h' _
  | binding sub p =>
    refine candid_andThen (candid_bindingAnswered h sub.binding is) fun result _ h' => ?_
    rcases result with f | ⟨⟩
    · exact h'
    · exact h'.log rfl

theorem candid_register (g : Registration) : (Starting.register g w).1.Candid := by
  have numbered : ({ w with registrations := w.registrations + 1 } : World).Candid := h
  exact numbered.call _

theorem candid_startingStart (g : Registration) : (Starting.start g w).1.Candid := by
  simp only [Starting.start]
  split
  · exact h.call _
  · exact candid_register h g

theorem candid_startingResume (g : Registration) {s : Starting}
    (fits : Fits (some ∘ Starting.pending) (some ∘ Starting.method) s) :
    (s.resume g w).1.Candid := by
  have is := method_of_fits fits
  cases s with
  | bounding p =>
    exact candid_resolve h .basicQos is (fun _ _ h' => candid_register h' g) fun _ _ h' => h'
  | registering tag p =>
    exact candid_resolve h .basicConsume is (fun _ _ h' => h'.log rfl) fun _ _ h' => h'

theorem candid_ackAnswered (tag : UInt64) {p : Pending} (is : p.call.method = .basicAck) :
    (Settlement.ackAnswered (σ := σ) tag p w).1.Candid :=
  candid_resolve h .basicAck is (fun _ _ h' => h') fun _ _ h' => h'

theorem candid_rejectAnswered (tag : UInt64) (requeue : Bool) {p : Pending}
    (is : p.call.method = .basicReject) :
    (Settlement.rejectAnswered (σ := σ) tag requeue p w).1.Candid :=
  candid_resolve h .basicReject is (fun _ _ h' => h') fun _ _ h' => h'

theorem candid_cancelAnswered (tag : String) {p : Pending} (is : p.call.method = .basicCancel) :
    (Cancelling.answered (σ := σ) tag p w).1.Candid :=
  candid_resolve h .basicCancel is (fun _ _ h' => h') fun _ _ h' => h'

theorem candid_cancellingStart (l : Nat) (tag : String) :
    (Cancelling.start l tag w).1.Candid := by
  rcases cancellingStart_cases w l tag with same | called
  · rw [same]
    exact h
  · rw [called]
    exact h.call _

theorem candid_stoppingStart (r : Nat) : (Stopping.start r w).1.Candid := by
  have claimed : (w.modifyReceiver r Receiver.claimed).Candid := h
  cases hj : (w.receiver r).joinable with
  | false =>
    rw [stoppingStart_of_not_joinable hj]
    exact h.log rfl
  | true =>
    rcases stoppingStart_of_joinable hj with waits | calls
    · rw [waits]
      exact claimed
    · rw [calls]
      exact claimed.call _

theorem candid_joined (r : Nat) : (Stopping.joined r w).1.Candid := by
  simp only [Stopping.joined]
  split <;> exact h.log rfl

theorem candid_stoppingResume (r : Nat) {s : Stopping}
    (fits : Fits Stopping.pending? Stopping.method? s) : (s.resume r w).1.Candid := by
  cases s with
  | cancelling p =>
    refine candid_andThen (candid_cancelAnswered h _ (Option.some.inj fits)) fun result _ h' => ?_
    rcases result with f | ⟨⟩
    · exact h'.log rfl
    · exact h'
  | joining => exact candid_joined h r

theorem candid_listeningResume (s : Listening) : (s.resume w).1.Candid := by
  have candid : ∀ {v : World}, Listening.Looked w v → v.Candid := by
    rintro v (rfl | ⟨reason, rfl⟩)
    · exact h
    · exact h.log rfl
  have comes := Listening.resumes w s
  generalize s.resume w = t at comes
  cases comes with
  | released looked => exact candid looked
  | received looked => exact (candid looked).log rfl
  | unavailable looked =>
    exact (candid looked).log (LogEntry.site?_of_component .shutdown rfl (by decide))
  | installs looked => exact candid looked
  | waits => exact h

/-! ## Teardown and application -/

theorem candid_transition (s : Lifecycle) : (w.transition s).Candid :=
  (h.emit (e := .published s) rfl rfl).log (e := shutdownEntry .info _) rfl

theorem candid_closed (stopped : Except Failure Stats) (result : Except Failure Unit) :
    (Teardown.closed stopped result w).1.Candid := by
  simp only [Teardown.closed]
  split
  · exact candid_transition h .closed
  · exact (candid_transition h .closed).log rfl

theorem candid_stopped (closer : Closer) (result : Except Failure Stats) :
    (Teardown.stopped closer result w).1.Candid := by
  have told : ∀ f : Failure, (w.log (shutdownEntry .error "failure to stop the consumer"
      [("error", .text f.message)])).Candid := fun f =>
    h.log (LogEntry.site?_of_component .shutdown rfl (by decide))
  cases closer with
  | link l =>
    cases result with
    | ok stats =>
      exact candid_andThen (candid_closingStart h l) fun r _ h' => candid_closed h' _ r
    | error f =>
      exact candid_andThen (candid_closingStart (told f) l) fun r _ h' => candid_closed h' _ r
  | given op =>
    cases result with
    | ok stats => exact h.emit rfl rfl
    | error f => exact (told f).emit rfl rfl

theorem candid_drain (stopper : Stopper) (closer : Closer) :
    (Teardown.drain stopper closer w).1.Candid := by
  cases stopper with
  | receiver r =>
    exact candid_andThen (candid_stoppingStart h r) fun result _ h' => candid_stopped h' closer _
  | given op => exact h.emit rfl rfl

theorem candid_ending (e : Ending α) {next : Except Failure α → World → Turn σ ρ}
    (hn : ∀ r w', w'.Candid → (next r w').1.Candid) : (e.andThen w next).1.Candid := by
  cases e with
  | returned result => exact hn result w h
  | crashed payload => exact h

theorem candid_teardownResume {s : Teardown}
    (fits : Fits Teardown.pending? Teardown.method? s) : (s.resume w).1.Candid := by
  cases s with
  | blocked stopper closer => exact candid_transition h .shutdownRequested
  | yielding stopper closer => exact candid_drain (candid_transition h .draining) stopper closer
  | stopping r closer s =>
    exact candid_andThen (candid_stoppingResume h r fits) fun _ _ h' => candid_stopped h' closer _
  | stoppingGiven op closer =>
    exact candid_ending h op.ending fun r _ h' => candid_stopped h' closer r
  | closing l result s =>
    exact candid_andThen (candid_closingResume h l fits) fun r _ h' => candid_closed h' result r
  | closingGiven op result =>
    exact candid_ending h op.ending fun r _ h' => candid_closed h' result r

theorem candid_abandon (l : Nat) (f : Failure) : (App.abandon l f w).1.Candid :=
  candid_andThen (candid_closingStart h l) fun _ _ h' => h'

theorem candid_started (l : Nat) (sub : Subscription) (result : Except Failure Nat) :
    (App.started l sub result w).1.Candid := by
  cases result with
  | error f => exact candid_abandon h l f
  | ok r => exact h.log rfl

theorem candid_subscribed (a : AppSetup) (l : Nat) (result : Except Failure Subscription) :
    (App.subscribed a l result w).1.Candid := by
  cases result with
  | error f => exact candid_abandon h l f
  | ok s => exact candid_andThen (candid_startingStart h _) fun r _ h' => candid_started h' l s r

theorem candid_opened (a : AppSetup) (result : Except Failure Nat) :
    (App.opened a result w).1.Candid := by
  cases result with
  | error f => exact h
  | ok l =>
    exact candid_andThen (candid_subscribingStart h _) fun r _ h' => candid_subscribed h' a l r

theorem candid_appStart (a : AppSetup) : (App.start a w).1.Candid :=
  candid_andThen (candid_openingStart h _ _) fun r _ h' => candid_opened h' a r

theorem candid_appResume (a : AppSetup) {s : App} (fits : Fits App.pending? App.method? s) :
    (s.resume a w).1.Candid := by
  cases s with
  | opening s =>
    exact candid_andThen (candid_openingResume h fits) fun r _ h' => candid_opened h' a r
  | subscribing l s =>
    exact candid_andThen (candid_subscribingResume h _ _ fits)
      fun r _ h' => candid_subscribed h' a l r
  | starting l sub s =>
    exact candid_andThen (candid_startingResume h _ fits) fun r _ h' => candid_started h' l sub r
  | running s => exact candid_andThen (candid_teardownResume h fits) fun _ _ h' => h'
  | abandoning l f s => exact candid_andThen (candid_closingResume h l fits) fun _ _ h' => h'

/-! ## Jobs -/

/-- A turn of a job that waits for an answer tells of a failure, and of nothing else as of one. -/
theorem candid_taskResume {t : Task} (fits : Fits Task.pending? Task.method? t) :
    (t.resume w).1.Candid := by
  cases t with
  | opening s => exact candid_andThen (candid_openingResume h fits) fun _ _ h' => h'
  | closing l s => exact candid_andThen (candid_closingResume h l fits) fun _ _ h' => h'
  | declaringExchange x p =>
    exact candid_andThen (candid_exchangeAnswered h x (Option.some.inj fits)) fun _ _ h' => h'
  | declaringQueue q p =>
    exact candid_andThen (candid_queueAnswered h q (Option.some.inj fits)) fun _ _ h' => h'
  | binding b p =>
    exact candid_andThen (candid_bindingAnswered h b (Option.some.inj fits)) fun _ _ h' => h'
  | subscribing x pattern s =>
    exact candid_andThen (candid_subscribingResume h x pattern fits) fun _ _ h' => h'
  | starting g s => exact candid_andThen (candid_startingResume h g fits) fun _ _ h' => h'
  | stopping r s => exact candid_andThen (candid_stoppingResume h r fits) fun _ _ h' => h'
  | acknowledging tag p =>
    exact candid_andThen (candid_ackAnswered h tag (Option.some.inj fits)) fun _ _ h' => h'
  | rejecting tag requeue p =>
    exact candid_andThen (candid_rejectAnswered h tag requeue (Option.some.inj fits))
      fun _ _ h' => h'
  | cancelling tag p =>
    exact candid_andThen (candid_cancelAnswered h tag (Option.some.inj fits)) fun _ _ h' => h'
  | teardown s => exact candid_andThen (candid_teardownResume h fits) fun _ _ h' => h'
  | app a s => exact candid_andThen (candid_appResume h a fits) fun _ _ h' => h'
  | listening s => exact candid_andThen (candid_listeningResume h s) fun _ _ h' => h'
  | program s =>
    cases s with
    | running a listener s => exact candid_andThen (candid_appResume h a fits) fun _ _ h' => h'
    | joining listener result => exact h

theorem candid_programConclude (result : Except Failure Stats) (o : Outcome) :
    (Program.conclude result o w).1.Candid := by
  have ends : ∀ {w' : World} (listened : Except Failure Unit), w'.Candid →
      Program.listened o w = (listened, w') → (Program.conclude result o w).1.Candid := by
    intro w' listened h' heq
    simp only [Program.conclude, heq]
    split
    · exact h'.log rfl
    · exact h'.log (LogEntry.site?_of_component .program rfl (by decide))
  have panicked : ∀ text : String, (w.log (programEntry .error "tokio process error"
      [("error", .text text)])).Candid := fun text =>
    h.log (LogEntry.site?_of_component .program rfl (by decide))
  cases o with
  | ok v => exact ends _ h rfl
  | failed f => exact ends _ h rfl
  | crashed payload => exact ends _ (panicked payload) rfl
  | unavailable what => exact ends _ (panicked what) rfl

theorem candid_onLink (hs : Handles) {job : Nat → Turn Task Outcome}
    (hj : ∀ l, (job l).1.Candid) : (Request.onLink hs w job).1.Candid :=
  onLink_induction (motive := fun t => t.1.Candid) hs (fun l _ => hj l) fun _ => h

theorem candid_onConsumer (hs : Handles) (consumer : Nat) {job : Nat → Turn Task Outcome}
    (hj : ∀ r, (job r).1.Candid) : (Request.onConsumer hs consumer w job).1.Candid :=
  onConsumer_induction (motive := fun t => t.1.Candid) hs consumer hj fun _ => h

theorem candid_begin (q : Request) (hs : Handles) : (q.begin hs w).1.Candid := by
  cases q with
  | opening name endpoint => exact candid_andThen (candid_openingStart h _ _) fun _ _ h' => h'
  | close =>
    exact candid_onLink h hs fun l => candid_andThen (candid_closingStart h l) fun _ _ h' => h'
  | status => exact h
  | declareExchange x => exact candid_onLink h hs fun _ => candid_declaringExchange h x
  | declareQueue q => exact candid_onLink h hs fun _ => candid_declaringQueue h q
  | bind b => exact candid_onLink h hs fun _ => candid_declaringBinding h b
  | subscribe x pattern =>
    exact candid_onLink h hs fun _ => candid_andThen (candid_subscribingStart h x) fun _ _ h' => h'
  | start queue mode prefetch kind =>
    exact candid_onLink h hs fun _ => candid_andThen (candid_startingStart h _) fun _ _ h' => h'
  | stop consumer =>
    exact candid_onConsumer h hs consumer fun r =>
      candid_andThen (candid_stoppingStart h r) fun _ _ h' => h'
  | ack tag => exact candid_onLink h hs fun _ => h.call _
  | reject tag requeue => exact candid_onLink h hs fun _ => h.call _
  | cancelConsumer tag =>
    refine candid_onLink h hs fun l => ?_
    have started := candid_cancellingStart h l tag
    rcases cancellingStart_cases w l tag with hc | hc <;> rw [hc] at started ⊢ <;> exact started
  | run consumer given givenClose =>
    cases given with
    | some op =>
      cases givenClose with
      | some op' => exact h
      | none => exact candid_onLink h hs fun _ => h
    | none =>
      refine candid_onConsumer h hs consumer fun r => ?_
      cases givenClose with
      | some op' => exact h
      | none => exact candid_onLink h hs fun _ => h
  | app lookup kind =>
    show (Request.startApp lookup kind w).1.Candid
    simp only [Request.startApp]
    split
    · next problem _ => exact h.log problem.site?_entry
    · exact candid_andThen (candid_appStart h _) fun _ _ h' => h'
  | listen => exact h

end Operations

/-! ## Receive loops -/

section Loops

variable {w : World} (h : w.Candid)

include h

theorem candid_extract (headers : Headers) : (w.extract headers).1.Candid := by
  simp only [World.extract]
  split
  · exact h
  · exact ((h.logs (World.component_extractEntries _ _)).emit rfl rfl).logs
      (World.component_extractEntries _ _)

theorem candid_processingStart (r : Nat) (kind : HandlerKind) (d : Delivery) (cue : Cue) :
    (Processing.start r kind d cue w).1.Candid := by
  have extracted := candid_extract h d.headers
  have opened : ((w.extract d.headers).1.openSpan d (w.extract d.headers).2).1.Candid :=
    ((World.Candid.emit (w := { (w.extract d.headers).1 with spans := _ }) extracted rfl rfl).emit
      rfl rfl).emit rfl rfl
  have told := opened.log (e := processingEntry .debug "received"
    [("routing_key", .plain d.routingKey), ("exchange", .plain d.exchange),
      ("delivery_tag", .number d.tag.toNat), ("redelivered", .flag d.redelivered)]) rfl
  have handed := told.emit (e := .dispatched r kind d (w.extract d.headers).2) rfl rfl
  cases kind with
  | logging => exact handed.log rfl
  | cued => exact handed

theorem candid_succeeded (mode : AckMode) (d : Delivery) (span : Nat) :
    (Processing.succeeded mode d span w).1.Candid := by
  have told : (w.log (processingEntry .debug "message successfully processed")).Candid := h.log rfl
  cases mode with
  | auto => exact (told.emit rfl rfl).emit rfl rfl
  | manual requeue => exact told.call _

omit h in
/-- A handler that has failed is no failure of the broker. -/
theorem site?_failureEntry (mode : AckMode) (d : Delivery) (f : Failure) :
    (failureEntry mode d f).site? = none := by
  refine LogEntry.site?_of_component .processing ?_ (by decide)
  rcases mode with _ | ⟨_ | _⟩ <;> rfl

theorem candid_failed (mode : AckMode) (d : Delivery) (span : Nat) (f : Failure) :
    (Processing.failed mode d span f w).1.Candid := by
  have told : (((w.recordFailure span f).setStatus span (.error f.message)).log
      (failureEntry mode d f)).Candid :=
    ((h.emit rfl rfl).emit rfl rfl).log (site?_failureEntry mode d f)
  cases mode with
  | auto => exact told.emit rfl rfl
  | manual requeue => exact told.call _

omit h in
theorem candid_closing (span : Nat) {t : Turn Processing ρ} (ht : t.1.Candid) :
    (Processing.closing span t).1.Candid := by
  obtain ⟨w', p⟩ := t
  cases p with
  | crashed payload => exact ht.emit rfl rfl
  | waiting s => exact ht
  | finished r => exact ht

/-- The processing of a delivery goes on. What is settled is acknowledged if the handler has
succeeded, and rejected if it has failed. -/
theorem candid_processingResume (r : Nat) (mode : AckMode) {s : Processing}
    (settles : ∀ d span failure p, s = .settling d span failure p →
      p.call.method = if failure.isNone then .basicAck else .basicReject) :
    (Processing.resume r mode s w).1.Candid := by
  cases s with
  | handling d span cue =>
    have handled : (w.emit (.handled r d cue.result)).Candid := h.emit rfl rfl
    simp only [Processing.resume]
    split
    · exact candid_succeeded handled mode d span
    · exact candid_failed handled mode d span _
  | settling d span failure p =>
    have is := settles d span failure p rfl
    cases failure with
    | none =>
      refine candid_closing span (candid_andThen (candid_ackAnswered h d.tag is) ?_)
      intro result w' h'
      rcases result with f | ⟨⟩
      · exact ((h'.emit rfl rfl).emit rfl rfl).emit rfl rfl
      · exact (h'.emit rfl rfl).emit rfl rfl
    | some f =>
      refine candid_closing span (candid_andThen (candid_rejectAnswered h d.tag _ is) ?_)
      intro result w' h'
      rcases result with g | ⟨⟩
      · exact (h'.emit rfl rfl).emit rfl rfl
      · exact h'.emit rfl rfl

theorem candid_processed (r : Nat) (p : Progress Processing (Except Failure Unit)) :
    (w.processed r p).Candid := by
  cases p with
  | finished result => rcases result with f | ⟨⟩ <;> exact h
  | waiting s => exact h
  | crashed payload => exact h

theorem candid_receive (r : Nat) : (w.receive r).Candid := by
  simp only [World.receive]
  split
  · exact h.log (e := stoppedEntry) rfl
  · cases hfeed : (w.receiver r).feed with
    | nil =>
      dsimp only
      split
      · exact (h.emit (e := .feedEnded r) rfl rfl).log (e := receiverEntry .warn _ _) rfl
      · exact h
    | cons item rest =>
      cases item with
      | delivery d cue =>
        have pulled : (w.emit (.pulled r (.delivery d cue))).Candid := h.emit rfl rfl
        refine candid_processed (candid_processingStart ?_ r _ d cue) r _
        exact pulled
      | fault fault =>
        exact h.report .feed fault rfl (LogEntry.tells_faultEntry .feed [] fault)

/-- A step of a receive loop tells of a failure, and of nothing else as of one. -/
theorem candid_runReceiver (r : Nat) {tail : List Beat}
    (place : (w.receiver r).loop.Tail (w.receiver r).mode tail) : (w.runReceiver r).Candid := by
  simp only [World.runReceiver]
  cases hloop : (w.receiver r).loop with
  | receiving => exact candid_receive h r
  | processing s =>
    refine candid_processed (candid_processingResume h r _ ?_) r _
    rintro d span failure p rfl
    rw [hloop] at place
    generalize (w.receiver r).mode = mode at place
    cases place with
    | settling _ _ _ result _ settled =>
      cases mode with
      | auto => cases settled
      | manual requeue =>
        cases result with
        | succeeded => rw [← Option.some.inj settled]; rfl
        | failed f => rw [← Option.some.inj settled]; rfl
        | panicked text => rw [← Option.some.inj settled]; cases text <;> rfl
  | ended => exact h
  | crashed payload => exact h

end Loops

/-! ## Histories -/

namespace System

variable {s : System}

/-- Every job that waits stands at a stage that fits its call. -/
theorem fits_after (empty : s.jobs = []) (h : List Move) {n : Nat} {t : Task}
    (job : (s.after h).jobs[n]? = some (.waiting t)) : Fits Task.pending? Task.method? t := by
  induction h using List.reverseRecOn generalizing t with
  | nil => simp [empty] at job
  | append_singleton h m ih =>
    rw [after_concat] at job
    rcases job_of_move job with ⟨before, -⟩ | ⟨-, fresh⟩ | ⟨u, takes, waits, -⟩
    · exact ih before
    · cases fresh
      rfl
    · exact takes.fits.of_waiting waits

/-- A turn of a job tells of a failure, and of nothing else as of one. -/
theorem candid_takes {m : Move} {n : Nat} {u : Turn Task Outcome} (takes : s.Takes m n u)
    (fits : ∀ t, s.jobs[n]? = some (.waiting t) → Fits Task.pending? Task.method? t)
    (candid : s.world.Candid) : u.1.Candid := by
  cases takes with
  | @goesOn _ t job ready =>
    exact turn_induction s (motive := fun u => u.1.Candid) (candid_taskResume candid (fits t job))
      fun _ result _ _ => candid_programConclude candid result _
  | begins q => exact candid_begin candid q s.handles
  | launches env =>
    have started : (s.world.log (programEntry .info "starting topic consumer...")).Candid :=
      candid.log rfl
    simp only [launchTurn]
    split
    · next problem _ =>
      exact (started.log problem.site?_entry).log
        (LogEntry.site?_of_component .program rfl (by decide))
    · refine candid_andThen (candid_appStart ?_ _) fun _ _ h' => h'
      exact started.log (e := programEntry .info "configuration loaded" _) rfl

/-- Every loop has played what its place says; one that is not there counts as over. -/
theorem place_after (setup : Setup) (h : List Move) (r : Nat) :
    ∃ tail, ((setup.system.after h).world.receiver r).loop.Tail
      ((setup.system.after h).world.receiver r).mode tail := by
  by_cases hr : r < (setup.system.after h).world.receivers.length
  · obtain ⟨laps, tail, course⟩ := course_after (s := setup.system) rfl h hr
    exact ⟨tail, course.place⟩
  · rw [World.receiver, List.getElem?_eq_none (Nat.le_of_not_lt hr)]
    exact ⟨_, .stopped⟩

/-- Every trace is candid. -/
theorem candid_after (setup : Setup) (h : List Move) : (setup.system.after h).world.Candid := by
  induction h using List.reverseRecOn with
  | nil => exact .nothing
  | append_singleton h m ih =>
    rw [after_concat]
    have kind := (setup.system.after h).move_kind m
    generalize hs' : (setup.system.after h).move m = s' at kind
    cases kind with
    | turns takes turned =>
      rw [turned.world]
      exact candid_takes takes (fun t job => fits_after rfl h job) ih
    | @receives r ready =>
      obtain ⟨tail, place⟩ := place_after setup h r
      exact candid_runReceiver ih r place
    | outside _ _ trace =>
      rw [World.Candid, trace]
      exact ih

end System

end TopicWorker
