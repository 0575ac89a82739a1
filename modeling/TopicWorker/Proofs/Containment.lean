import TopicWorker.Proofs.Activities
import TopicWorker.Proofs.Loop

/-!
# One delivery, any handler

What a worker does with a delivery is told here for every handler and for everybody who may settle
deliveries: the handler may take as many turns as it likes, change the world in between, and end
with a result, with a failure or with a panic, at the beginning or at any turn. Nothing of that
leaves the consumption. A panic is a failure like any other, and every failure is wrapped once. Its
text does not depend on the mode, nor on what becomes of the settlement.

The worker that runs is one case of this, with the handlers that it knows and the channel of a link.

## Main definitions

* `Handler`, `Acknowledger`: whom the worker calls.
* `consume`, `consumeFrom`: one delivery from its span to its settlement.
* `Consumed`: the parts of a consumption that is over.

## Main results

* `consume_ends_iff`: a consumption is over when its parts are.
* `turn_of_consume`: the turns of the worker are those of a consumption.
* `contained`: what comes of a delivery, and what is told of it.
-/

namespace TopicWorker

variable {γ η σ : Type}

/-- Somebody who handles deliveries, turn by turn. -/
abbrev Handler (η : Type) := TraceContext → Delivery → Activity η HandlerResult

/-- Somebody who settles deliveries, turn by turn. -/
structure Acknowledger (σ : Type) where
  ack : UInt64 → Activity σ (Except Failure Unit)
  reject : UInt64 → Bool → Activity σ (Except Failure Unit)

/-- No settlement ends with a panic. -/
structure Acknowledger.Returns (a : Acknowledger σ) : Prop where
  ack : ∀ tag w es payload v, ¬ (a.ack tag).Ends w es (.error payload) v
  reject : ∀ tag requeue w es payload v, ¬ (a.reject tag requeue).Ends w es (.error payload) v

/-- What a handler comes to. A panic is caught, and is a result like others. -/
def HandlerResult.ofCompletion : Completion HandlerResult → HandlerResult
  | .ok r => r
  | .error payload => .panicked payload

namespace Consumption

/-- Opens the span of a delivery, under the context that its headers carry. -/
def opening (d : Delivery) (w : World) : World × TraceContext × Nat :=
  let (w, context) := w.extract d.headers
  let (w, span) := w.openSpan d context
  let w := w.log (processingEntry .debug "received"
    [("routing_key", .plain d.routingKey), ("exchange", .plain d.exchange),
      ("delivery_tag", .number d.tag.toNat), ("redelivered", .flag d.redelivered)])
  (w, context, span)

/-- What is noted when the handler has ended. In automatic mode there is nothing else to come. -/
def notes (mode : AckMode) (d : Delivery) (span : Nat) : Option Failure → List Event
  | none =>
    .logged (processingEntry .debug "message successfully processed") ::
      match mode with
      | .auto => [.span span (.status .ok), .span span .ended]
      | .manual _ => []
  | some f =>
    [.span span (.failure f), .span span (.status (.error f.message)),
      .logged (failureEntry mode d f)] ++
      match mode with
      | .auto => [.span span .ended]
      | .manual _ => []

/-- What is noted when the settlement is over. -/
def closing (span : Nat) (failure : Option Failure) (result : Except Failure Unit) : List Event :=
  match failure, result with
  | none, .ok () => [.span span (.status .ok), .span span .ended]
  | none, .error e =>
    [.span span (.failure e), .span span (.status (.error "error to ack msg")), .span span .ended]
  | some _, .ok () => [.span span .ended]
  | some _, .error e => [.span span (.failure e), .span span .ended]

/-- What comes of a delivery: the failure of its handler, if there has been one, and the result of
the settlement otherwise, if there has been one. -/
def verdict (failure : Option Failure) (result : Option (Except Failure Unit)) :
    Except Failure Unit :=
  match failure with
  | some f => .error f
  | none => result.getD (.ok ())

/-- How a consumption is over when its settlement is. A panic ends the span on its way. -/
def settled (span : Nat) (failure : Option Failure) :
    Completion (Except Failure Unit) → List Event × Completion (Except Failure Unit)
  | .error payload => ([.span span .ended], .error payload)
  | .ok result => (closing span failure result, .ok (verdict failure (some result)))

/-- The settlement that is asked for in manual mode. -/
def due (a : Acknowledger σ) (d : Delivery) (requeue : Bool) :
    Option Failure → Activity σ (Except Failure Unit)
  | none => a.ack d.tag
  | some _ => a.reject d.tag requeue

/-- The settlement of a delivery. In automatic mode there is nothing to do. -/
def settlement (a : Acknowledger σ) (mode : AckMode) (d : Delivery) (span : Nat)
    (failure : Option Failure) : Activity σ (Except Failure Unit) :=
  match mode with
  | .auto => .done (verdict failure none)
  | .manual requeue => (due a d requeue failure).ending (settled span failure)

/-- An entry on a failure. -/
def failure? : Event → Option LogEntry
  | .logged e =>
    if e.component = .processing ∧ (e.level = .warn ∨ e.level = .error) then some e else none
  | _ => none

/-- What has been told of failures. -/
def failures (es : List Event) : List LogEntry := es.filterMap failure?

/-- Something has been added to the trace of a world, with nothing in it about a failure. -/
def AddsNoFailure (w v : World) : Prop := ∃ es, v.trace = w.trace ++ es ∧ failures es = []

section Opening

variable {w v : World}

theorem AddsNoFailure.emit (h : AddsNoFailure w v) {e : Event} (other : failure? e = none) :
    AddsNoFailure w (v.emit e) := by
  obtain ⟨es, added, none⟩ := h
  refine ⟨es ++ [e], by rw [World.trace_emit, added, List.append_assoc], ?_⟩
  rw [failures, List.filterMap_append, List.append_eq_nil_iff]
  exact ⟨none, by simp [other]⟩

theorem AddsNoFailure.logs (h : AddsNoFailure w v) {entries : List LogEntry}
    (others : ∀ e ∈ entries, e.component = .tracing) :
    AddsNoFailure w (entries.foldl World.log v) := by
  induction entries generalizing v with
  | nil => exact h
  | cons e entries ih =>
    obtain ⟨other, others⟩ := List.forall_mem_cons.mp others
    exact ih (h.emit (by simp [failure?, other])) others

theorem AddsNoFailure.extract (h : AddsNoFailure w v) (headers : Headers) :
    AddsNoFailure w (v.extract headers).1 := by
  simp only [World.extract]
  split
  · exact h
  · refine AddsNoFailure.logs (AddsNoFailure.emit ?_ rfl) (World.component_extractEntries _ _)
    exact h.logs (World.component_extractEntries _ _)

theorem AddsNoFailure.openSpan (h : AddsNoFailure w v) (d : Delivery) (context : TraceContext) :
    AddsNoFailure w (v.openSpan d context).1 := by
  have counted : AddsNoFailure w { v with spans := v.spans + 1 } := h
  exact ((counted.emit rfl).emit rfl).emit rfl

/-- Before the handler is called, nothing is told of a failure. -/
theorem addsNoFailure_opening (d : Delivery) (w : World) : AddsNoFailure w (opening d w).1 := by
  have same : AddsNoFailure w w := ⟨[], by simp [failures]⟩
  refine ((same.extract d.headers).openSpan d _).emit ?_
  simp [failure?, processingEntry]

end Opening

theorem opening_grows (d : Delivery) (w : World) : ∃ es, (opening d w).1.trace = w.trace ++ es :=
  (addsNoFailure_opening d w).imp fun _ => And.left

end Consumption

open Consumption

/-- Consumes a delivery, whatever opens its span and reads a context: calls the handler, and settles
what is to be settled. -/
def consumeFrom (begun : World → World × γ × Nat)
    (grows : ∀ w, ∃ es, (begun w).1.trace = w.trace ++ es)
    (h : γ → Delivery → Activity η HandlerResult) (a : Acknowledger σ) (mode : AckMode)
    (d : Delivery) : Activity ((γ × Nat) × (η ⊕ HandlerResult × σ)) (Except Failure Unit) :=
  .prepared begun grows fun (context, span) =>
    ((h context d).ending fun e => ([], .ok (.ofCompletion e))).bind fun r =>
      (settlement a mode d span r.failure?).noted (notes mode d span r.failure?)

/-- Consumes a delivery under the context that its headers carry. -/
def consume (h : Handler η) (a : Acknowledger σ) (mode : AckMode) (d : Delivery) :
    Activity ((TraceContext × Nat) × (η ⊕ HandlerResult × σ)) (Except Failure Unit) :=
  consumeFrom (opening d) (opening_grows d) h a mode d

/-! ## The worker that runs -/

/-- One call and its answer. -/
def Activity.ofCall (c : Call) (report : Fault → LogEntry) (f : Failure) :
    Activity Pending (Except Failure Unit) where
  start w := ((w.call c).1, .waiting (w.call c).2)
  resume p w := p.resolve w report (fun _ w => (w, .finished (.ok ())))
    fun _ w => (w, .finished (.error f))
  start_grows w := ⟨[.called c], rfl⟩
  resume_grows p w := by
    cases h : p.reply.answer with
    | done name => exact ⟨[_], by rw [resolve_done h]; rfl⟩
    | refused fault =>
      refine ⟨[.answered p.call (.refused fault), .logged (report fault)], ?_⟩
      rw [resolve_refused h, Turn.Adds, World.trace_log, World.trace_emit, List.append_assoc]
      rfl
    | crashed payload => exact ⟨[_], by rw [resolve_crashed h]; rfl⟩

/-- The channel of a link. -/
def channel : Acknowledger Pending where
  ack tag := .ofCall (.basicAck tag false) (Settlement.ackFault tag) .acknowledgement
  reject tag requeue :=
    .ofCall (.basicReject tag requeue) (Settlement.rejectFault tag requeue) .rejection

/-- The handlers that the worker knows. One of them writes to the journal and succeeds, another one
follows its cue. -/
def HandlerKind.handler (kind : HandlerKind) (receiver : Nat) (cue : Cue) : Handler Cue :=
  fun context d =>
  { start w :=
      let w := w.emit (.dispatched receiver kind d context)
      match kind with
      | .logging => (w.log d.announcement, .waiting {})
      | .cued => (w, .waiting cue)
    resume cue w := (w.emit (.handled receiver d cue.result), .finished cue.result)
    start_grows w := by
      cases kind with
      | cued => exact ⟨[_], rfl⟩
      | logging => exact ⟨[_, _], List.append_assoc ..⟩
    resume_grows cue w := ⟨[_], rfl⟩ }

namespace Consumption

/-- A stage of a consumption, as the receive loop keeps it. -/
def stage (d : Delivery) : (TraceContext × Nat) × (Cue ⊕ HandlerResult × Pending) → Processing
  | ((_, span), .inl cue) => .handling d span cue
  | ((_, span), .inr (r, p)) => .settling d span r.failure? p

variable (kind : HandlerKind) (receiver : Nat) (cue : Cue) (mode : AckMode) (d : Delivery)
  (context : TraceContext) (span : Nat)

theorem start_of_consume (w : World) :
    ((consume (kind.handler receiver cue) channel mode d).start w).within (stage d) =
      Processing.start receiver kind d cue w := by
  cases kind <;> rfl

theorem handled_of_consume (cue' : Cue) (w : World) :
    ((consume (kind.handler receiver cue) channel mode d).resume ((context, span), .inl cue')
      w).within (stage d) = Processing.resume receiver mode (.handling d span cue') w := by
  obtain ⟨gate, r⟩ := cue'
  rcases r with _ | f | _ | text <;> cases mode <;> rfl

theorem settled_of_consume (requeue : Bool) (r : HandlerResult) (p : Pending) (w : World) :
    ((consume (kind.handler receiver cue) channel (.manual requeue) d).resume
      ((context, span), .inr (r, p)) w).within (stage d) =
        Processing.resume receiver (.manual requeue) (.settling d span r.failure? p) w := by
  obtain ⟨call, gate, answer⟩ := p
  cases requeue <;> cases answer <;> rcases r with _ | f | _ | text <;> rfl

/-- In automatic mode nothing is waited for but the handler. -/
theorem stage_of_auto {begun : World → World × γ × Nat}
    {grows : ∀ w, ∃ es, (begun w).1.trace = w.trace ++ es}
    {h : γ → Delivery → Activity η HandlerResult} {a : Acknowledger σ} {w v : World}
    {es : List Event} {s : (γ × Nat) × (η ⊕ HandlerResult × σ)}
    (run : (consumeFrom begun grows h a .auto d).Runs w es (v, .waiting s)) :
    ∃ x s', s = (x, .inl s') := by
  obtain ⟨before, es', ⟨v', p⟩, -, inner, -, same⟩ := Activity.runs_prepared.mp run
  rcases p with s₁ | r | payload
  case finished => cases same
  case crashed => cases same
  case waiting =>
    cases same
    generalize ht : ((v, .waiting s₁) : Turn (η ⊕ HandlerResult × σ) (Except Failure Unit)) = t
      at inner
    cases Activity.runs_bind.mp inner with
    | first =>
      cases ht
      exact ⟨_, _, rfl⟩
    | died => cases ht
    | second _ rest =>
      obtain ⟨es₂, -, rest⟩ := Activity.runs_noted.mp rest
      rw [(Activity.runs_done.mp rest).2] at ht
      cases ht

/-- The turns of the worker are those of a consumption. -/
theorem turn_of_consume {w v : World} {es : List Event}
    {s : (TraceContext × Nat) × (Cue ⊕ HandlerResult × Pending)}
    (run : (consume (kind.handler receiver cue) channel mode d).Runs w es (v, .waiting s))
    (w' : World) :
    ((consume (kind.handler receiver cue) channel mode d).resume s w').within (stage d) =
      Processing.resume receiver mode (stage d s) w' := by
  obtain ⟨⟨context, span⟩, cue' | ⟨r, p⟩⟩ := s
  · exact handled_of_consume ..
  · cases mode with
    | auto =>
      obtain ⟨x, s', same⟩ := stage_of_auto d run
      cases same
    | manual requeue => exact settled_of_consume ..

end Consumption

/-! ## What comes of a delivery -/

/-- The text under which the end of a handler is a failure. What it reports as such keeps its
text, and every other failure is told by its message. -/
inductive HandlerResult.Fails : HandlerResult → String → Prop
  | reported (m : String) : Fails (.failed (.handler m)) m
  | other {f : Failure} (other : ∀ m, f ≠ .handler m) : Fails (.failed f) f.message
  | panicked (text : String) : Fails (.panicked (some text)) ("handler panicked: " ++ text)
  | mute : Fails (.panicked none) "handler panicked"

theorem HandlerResult.fails_iff {r : HandlerResult} {m : String} :
    r.Fails m ↔ r.failure? = some (.handler m) := by
  constructor
  · rintro (m | other | payload | _)
    case other f => cases f <;> first | rfl | exact absurd rfl (other _)
    all_goals rfl
  · intro failed
    rcases r with _ | f | _ | text
    case succeeded => cases failed
    case failed =>
      cases f <;> cases failed <;> first | exact .reported _ | exact .other fun _ => nofun
    case panicked.none =>
      cases failed
      exact .mute
    case panicked.some =>
      cases failed
      exact .panicked text

/-- A handler succeeds, or fails under some text. -/
theorem HandlerResult.succeeded_or_fails (r : HandlerResult) :
    r = .succeeded ∨ ∃ m, r.Fails m := by
  rcases r with _ | f | _ | text
  case succeeded => exact .inl rfl
  case failed =>
    refine .inr ?_
    by_cases h : ∃ m, f = .handler m
    · obtain ⟨m, rfl⟩ := h
      exact ⟨m, .reported m⟩
    · exact ⟨_, .other fun m same => h ⟨m, same⟩⟩
  case panicked.none => exact .inr ⟨_, .mute⟩
  case panicked.some => exact .inr ⟨_, .panicked text⟩

section Consuming

variable {begun : World → World × γ × Nat} {grows : ∀ w, ∃ es, (begun w).1.trace = w.trace ++ es}
  {h : γ → Delivery → Activity η HandlerResult} {a : Acknowledger σ} {mode : AckMode} {d : Delivery}
  {w v : World} {es own : List Event} {r : HandlerResult} {y : Option (Except Failure Unit)}

/-- A consumption is over when its parts are: the handler, and the settlement. -/
theorem consumeFrom_ends_iff {e : Completion (Except Failure Unit)} :
    (consumeFrom begun grows h a mode d).Ends w es e v ↔ ∃ before handled e₁ u rest,
      (begun w).1.trace = w.trace ++ before ∧
      (h (begun w).2.1 d).Ends (begun w).1 handled e₁ u ∧
      (settlement a mode d (begun w).2.2 (HandlerResult.ofCompletion e₁).failure?).Ends
        (u.emitAll (notes mode d (begun w).2.2 (HandlerResult.ofCompletion e₁).failure?))
        rest e v ∧
      es = before ++ handled ++
        notes mode d (begun w).2.2 (HandlerResult.ofCompletion e₁).failure? ++ rest := by
  rw [consumeFrom, Activity.ends_prepared]
  simp only [Activity.ends_bind, Activity.ends_ending, Activity.ends_noted]
  constructor
  · rintro ⟨before, es', added, ends, rfl⟩
    rcases ends with ⟨payload, -, _, _, _, -, -, died, -⟩ | ⟨es₁, es₂, r, u, called, rest, rfl⟩
    · cases died
    · obtain ⟨handled, e₁, u', handler, rfl, same, rfl⟩ := called
      obtain ⟨rest, rfl, settles⟩ := rest
      cases same
      exact ⟨before, handled, e₁, _, rest, added, handler, settles, by simp⟩
  · rintro ⟨before, handled, e₁, u, rest, added, handler, settles, rfl⟩
    exact ⟨before, _, added, .inr ⟨handled, _, _, u, ⟨handled, e₁, u, handler, by simp, rfl, rfl⟩,
      ⟨rest, rfl, settles⟩, rfl⟩, by simp⟩

variable (begun h a d w) in
/-- The parts of a consumption that is over, with what was noted by itself, and with all that has
been added to the trace. The handler has ended; in manual mode a settlement has followed, which is
an acknowledgement of a success, and a rejection otherwise. -/
inductive Consumed :
    AckMode → HandlerResult → Option (Except Failure Unit) → List Event → List Event → Prop
  | auto {before handled : List Event} {e : Completion HandlerResult} {r : HandlerResult}
    {u : World}
    (added : (begun w).1.trace = w.trace ++ before)
    (handler : (h (begun w).2.1 d).Ends (begun w).1 handled e u)
    (result : HandlerResult.ofCompletion e = r) :
    Consumed .auto r none (before ++ notes .auto d (begun w).2.2 r.failure?)
      (before ++ handled ++ notes .auto d (begun w).2.2 r.failure?)
  | manual {requeue : Bool} {before handled settling : List Event} {e : Completion HandlerResult}
    {r : HandlerResult} {y : Except Failure Unit} {u v : World}
    (added : (begun w).1.trace = w.trace ++ before)
    (handler : (h (begun w).2.1 d).Ends (begun w).1 handled e u)
    (result : HandlerResult.ofCompletion e = r)
    (settlement : (due a d requeue r.failure?).Ends
      (u.emitAll (notes (.manual requeue) d (begun w).2.2 r.failure?)) settling (.ok y) v) :
    Consumed (.manual requeue) r (some y)
      (before ++ notes (.manual requeue) d (begun w).2.2 r.failure? ++
        closing (begun w).2.2 r.failure? y)
      (before ++ handled ++ notes (.manual requeue) d (begun w).2.2 r.failure? ++ settling ++
        closing (begun w).2.2 r.failure? y)

/-- The settlement that is due does not end with a panic. -/
theorem Acknowledger.Returns.due (returns : a.Returns) {requeue : Bool} {failure : Option Failure}
    {payload : Option String} :
    ¬ (Consumption.due a d requeue failure).Ends w es (.error payload) v := by
  cases failure with
  | none => exact returns.ack _ _ _ _ _
  | some f => exact returns.reject _ _ _ _ _ _

/-- A consumption that is over has its parts, or else its settlement has panicked. -/
theorem consumed_or_died {e : Completion (Except Failure Unit)}
    (ends : (consumeFrom begun grows h a mode d).Ends w es e v) :
    (∃ r y own, Consumed begun h a d w mode r y own es ∧ e = .ok (verdict r.failure? y)) ∨
      ∃ requeue failure u settling payload v',
        (due a d requeue failure).Ends u settling (.error payload) v' ∧ e = .error payload := by
  obtain ⟨before, handled, e₁, u, rest, added, handler, settles, rfl⟩ :=
    consumeFrom_ends_iff.mp ends
  cases mode with
  | auto =>
    obtain ⟨rfl, rfl, -⟩ := Activity.ends_done.mp settles
    rw [List.append_nil]
    exact .inl ⟨_, _, _, .auto added handler rfl, rfl⟩
  | manual requeue =>
    obtain ⟨settling, y, v', settled, rfl, rfl, -⟩ := Activity.ends_ending.mp settles
    cases y with
    | error payload => exact .inr ⟨_, _, _, _, _, _, settled, rfl⟩
    | ok y =>
      rw [← List.append_assoc]
      exact .inl ⟨_, _, _, .manual added handler rfl settled, rfl⟩

/-- A consumption that is over has its parts, and is no panic. -/
theorem consumed_of_ends (returns : a.Returns) {e : Completion (Except Failure Unit)}
    (ends : (consumeFrom begun grows h a mode d).Ends w es e v) :
    ∃ r y own, Consumed begun h a d w mode r y own es ∧ e = .ok (verdict r.failure? y) := by
  rcases consumed_or_died ends with parts | ⟨requeue, failure, u, settling, payload, v', died, -⟩
  · exact parts
  · exact absurd died returns.due

variable (grows) in
/-- A consumption is over once its parts are. -/
theorem Consumed.ends (parts : Consumed begun h a d w mode r y own es) :
    ∃ v, (consumeFrom begun grows h a mode d).Ends w es (.ok (verdict r.failure? y)) v := by
  cases parts with
  | @auto before handled e r u added handler result =>
    subst result
    exact ⟨_, consumeFrom_ends_iff.mpr ⟨before, handled, e, u, [], added, handler,
      Activity.ends_done.mpr ⟨rfl, rfl, rfl⟩, (List.append_nil _).symm⟩⟩
  | @manual requeue before handled settling e r y u v added handler result settlement =>
    subst result
    exact ⟨_, consumeFrom_ends_iff.mpr ⟨before, handled, e, u, _, added, handler,
      Activity.ends_ending.mpr ⟨settling, .ok y, v, settlement, rfl, rfl, rfl⟩,
      List.append_assoc ..⟩⟩

/-- Of a failure the consumption tells once, and of a success never, if nothing is told of one
before the handler is called. -/
theorem Consumed.failures_own (parts : Consumed begun h a d w mode r y own es)
    (quiet : AddsNoFailure w (begun w).1) :
    failures own = (r.failure?.map (failureEntry mode d)).toList := by
  have unfailed : ∀ {before}, (begun w).1.trace = w.trace ++ before → failures before = [] := by
    intro before added
    obtain ⟨es, added', none⟩ := quiet
    rwa [List.append_cancel_left (added.symm.trans added')]
  have noted : ∀ span f?, failures (notes mode d span f?) =
      (f?.map (failureEntry mode d)).toList := by
    intro span f?
    rcases f? with _ | f <;> rcases mode with _ | _ | _ <;> rfl
  have closed : ∀ span f? y, failures (closing span f? y) = [] := by
    intro span f? y
    rcases f? with _ | f <;> rcases y with e | ⟨⟩ <;> rfl
  have join : ∀ es es' : List Event, failures (es ++ es') = failures es ++ failures es' :=
    fun _ _ => List.filterMap_append
  cases parts with
  | auto added => rw [join, unfailed added, noted, List.nil_append]
  | manual added =>
    rw [join, join, unfailed added, noted, closed, List.nil_append, List.append_nil]

/-- What a consumption that is over amounts to. -/
structure Accounts (mode : AckMode) (d : Delivery) (r : HandlerResult)
    (y : Option (Except Failure Unit)) (own : List Event) (x : Except Failure Unit) : Prop where
  /-- All is well when the handler has succeeded, and the acknowledgement in manual mode. -/
  ok_iff : x = .ok () ↔ r = .succeeded ∧ (mode = .auto ∨ y = some (.ok ()))
  /-- After a success the only failure is that of the acknowledgement, which is the result as it
  is. -/
  unacknowledged : ∀ e, r = .succeeded → (x = .error e ↔ y = some (.error e))
  /-- A failure of the handler is the result under its text, whatever has become of the
  settlement. -/
  failed : ∀ m, r.Fails m → x = .error (.handler m)
  /-- Of a success no failure is told, -/
  untold : r = .succeeded → failures own = []
  /-- and a failure is told of once, with its text and the key of the message. It is a warning where
  the message goes back into the queue, and an error otherwise. -/
  told : ∀ m, r.Fails m → ∃ e : LogEntry, failures own = [e] ∧
    e.level = (if mode = .manual true then .warn else .error) ∧
    e.field? "error" = some (.text (Failure.handler m).message) ∧
    e.field? "routing_key" = some (.plain d.routingKey)

/-- There is a settlement in manual mode. -/
theorem Consumed.settlement_iff (parts : Consumed begun h a d w mode r y own es) :
    y = none ↔ mode = .auto := by
  cases parts <;> simp

theorem Consumed.accounts (parts : Consumed begun h a d w mode r y own es)
    (quiet : AddsNoFailure w (begun w).1) :
    Accounts mode d r y own (verdict r.failure? y) where
  ok_iff := by
    have due := parts.settlement_iff
    rcases r.succeeded_or_fails with rfl | ⟨m, fails⟩
    · cases mode with
      | auto =>
        rw [due.mpr rfl]
        simp [verdict, HandlerResult.failure?]
      | manual requeue =>
        cases y with
        | none => cases due.mp rfl
        | some y => simp [verdict, HandlerResult.failure?]
    · have other : r ≠ .succeeded := by
        rintro rfl
        cases fails
      simp [verdict, HandlerResult.fails_iff.mp fails, other]
  unacknowledged := by
    rintro e rfl
    rcases y with _ | _ | _ <;> simp [verdict, HandlerResult.failure?]
  failed m fails := by
    rw [HandlerResult.fails_iff.mp fails]
    rfl
  untold := by
    rintro rfl
    exact parts.failures_own quiet
  told m fails := by
    have told := parts.failures_own quiet
    rw [HandlerResult.fails_iff.mp fails] at told
    refine ⟨_, told, ?_⟩
    rcases mode with _ | _ | _ <;> exact ⟨rfl, rfl, rfl⟩

/-- Whatever the handler does, a consumption does not panic as long as no settlement does. When it
is over the handler and the settlement have ended, and what comes of it is decided by how they have.
It is over as soon as they are. And the turns that a worker takes for a delivery are those of a
consumption. -/
theorem contained (h : Handler η) (a : Acknowledger σ) (returns : a.Returns) (mode : AckMode)
    (d : Delivery) (w : World) :
    (∀ es e v, (consume h a mode d).Ends w es e v →
      ∃ r y own x, e = .ok x ∧ Consumed (opening d) h a d w mode r y own es ∧
        Accounts mode d r y own x) ∧
    (∀ r y own es, Consumed (opening d) h a d w mode r y own es →
      ∃ x v, (consume h a mode d).Ends w es (.ok x) v ∧ Accounts mode d r y own x) ∧
    ∀ (kind : HandlerKind) (receiver : Nat) (cue : Cue),
      ((consume (kind.handler receiver cue) channel mode d).start w).within (stage d) =
        Processing.start receiver kind d cue w ∧
      ∀ es v s w', (consume (kind.handler receiver cue) channel mode d).Runs w es (v, .waiting s) →
        ((consume (kind.handler receiver cue) channel mode d).resume s w').within (stage d) =
          Processing.resume receiver mode (stage d s) w' := by
  have quiet := addsNoFailure_opening d w
  refine ⟨fun es e v ends => ?_, fun r y own es parts => ?_, fun kind receiver cue => ⟨?_, ?_⟩⟩
  · obtain ⟨r, y, own, parts, same⟩ := consumed_of_ends returns ends
    exact ⟨r, y, own, _, same, parts, parts.accounts quiet⟩
  · obtain ⟨v, ends⟩ := parts.ends (opening_grows d)
    exact ⟨_, v, ends, parts.accounts quiet⟩
  · exact start_of_consume ..
  · exact fun es v s w' run => turn_of_consume _ _ _ _ _ run w'

end Consuming

/-- A handler that waits twice, and panics then. -/
def faltering : Handler Nat := fun _ _ =>
  { start w := (w, .waiting 1)
    resume
      | 0, w => (w, .crashed (some "out of patience"))
      | n + 1, w => (w, .waiting n)
    start_grows _ := ⟨[], (List.append_nil _).symm⟩
    resume_grows
      | 0, _ => ⟨[], (List.append_nil _).symm⟩
      | _ + 1, _ => ⟨[], (List.append_nil _).symm⟩ }

/-- Somebody who refuses to settle anything. -/
def refusing : Acknowledger Unit where
  ack _ := .done (.error .acknowledgement)
  reject _ _ := .done (.error .rejection)

theorem contained_faltering : refusing.Returns ∧ ∃ es v,
    (consume faltering refusing (.manual true) default).Ends default es
      (.ok (.error (.handler "handler panicked: out of patience"))) v := by
  have returns : refusing.Returns := by
    constructor
    · intro tag w es payload v ends
      cases (Activity.ends_done.mp ends).2.1
    · intro tag requeue w es payload v ends
      cases (Activity.ends_done.mp ends).2.1
  have nothing : ∀ (w : World) (p : Progress Nat HandlerResult), Turn.Adds w [] (w, p) :=
    fun _ _ => (List.append_nil _).symm
  have dies : ∀ context d w,
      (faltering context d).Ends w [] (.error (some "out of patience")) w := by
    intro context d w
    have started : (faltering context d).Runs w [] (w, .waiting 1) := .start (nothing w _)
    have waited : (faltering context d).Runs w [] ((faltering context d).resume 1 w) :=
      started.resume (nothing w _)
    exact waited.resume (nothing w (.crashed _) : ((faltering context d).resume 0 w).Adds w [])
  have refused : ∀ w f,
      (due refusing default true (some f)).Ends w [] (.ok (.error .rejection)) w :=
    fun w f => Activity.ends_done.mpr ⟨rfl, rfl, rfl⟩
  have opened : (opening default default).1.trace =
      (default : World).trace ++ (opening default default).1.trace := (List.nil_append _).symm
  have parts := Consumed.manual opened (dies _ default _) rfl (refused _ _)
  obtain ⟨x, v, ends, accounts⟩ :=
    (contained faltering refusing returns (.manual true) default default).2.1 _ _ _ _ parts
  rw [accounts.failed _ (.panicked "out of patience")] at ends
  exact ⟨returns, _, v, ends⟩

end TopicWorker
