import Mathlib.Algebra.Group.Int.Defs
import Mathlib.Algebra.Group.Nat.Defs
import TopicWorker.Proofs.Containment
import TopicWorker.Proofs.Dispatch
import TopicWorker.Proofs.Fixtures
import TopicWorker.Proofs.Propagation

/-!
# Spans

What is told of a delivery to those who trace it is one span: where it comes from, which delivery it
is, how its processing has failed if it has, and what has become of it in the end. All this is read
off the trace here, and compared with what the processing has come to. The handler works under the
same context as the span, which is the one that a propagator has read from the headers. This may be
any propagator, and what a worker has installed is one case.

A receive loop never has two spans open. What it records are whole spans one after another, one for
each delivery that it hands over, and then perhaps one that is still open.

## Main definitions

* `Mark`, `marks`: what the trace says of spans, and of what handlers are given.
* `openingBy`, `consumeBy`: a consumption under any propagator.
* `Traced`, `OneSpan`: the span of a delivery that has been consumed, and of one that is.
* `Span`, `Span.Whole`: a span of a receive loop.
* `System.Traces`: the spans of a receive loop, and of the whole system.

## Main results

* `OpensSpan.oneSpan`: one delivery, with any handler and anybody who settles.
* `World.runReceiver_spans`: the step of a loop.
* `System.traces_after`: what a loop has recorded.
* `traced_one_by_one`: all this.
-/

namespace TopicWorker

variable {γ η σ : Type}

/-- What is looked at here: what is recorded on a span, and what a handler is given. -/
inductive Mark where
  | record (span : Nat) (r : SpanRecord)
  | handed (d : Delivery) (context : TraceContext)
  deriving DecidableEq, Repr

/-- The mark that an event is. -/
def Event.mark? : Event → Option Mark
  | .span n r => some (.record n r)
  | .dispatched _ _ d context => some (.handed d context)
  | _ => none

/-- The marks among some events. -/
def marks (es : List Event) : List Mark := es.filterMap Event.mark?

@[simp] theorem marks_nil : marks [] = [] := rfl

@[simp] theorem marks_append (es es' : List Event) : marks (es ++ es') = marks es ++ marks es' :=
  List.filterMap_append

/-! ## The records of a span -/

namespace SpanRecord

/-- A span begins under a context, and is told which delivery it is for. -/
def opened (d : Delivery) (context : TraceContext) : List SpanRecord :=
  [@started .consumer d.routingKey context,
    .attribute "messaging.rabbitmq.destination.routing_key" (.text d.routingKey),
    .attribute "messaging.message.delivery_tag" (.number d.tag.toInt64)]

/-- What is recorded when the handler has ended. -/
def noted : Option Failure → List SpanRecord
  | none => []
  | some f => [failure f, .status (.error f.message)]

/-- What is recorded at the end, when there has been no settlement, or one that has ended in this
way. -/
def closed (failed : Option Failure) : Option (Completion (Except Failure Unit)) → List SpanRecord
  | none | some (.ok (.ok ())) => if failed.isSome then [ended] else [.status .ok, ended]
  | some (.ok (.error e)) =>
    if failed.isSome then [failure e, ended]
    else [failure e, .status (.error "error to ack msg"), ended]
  | some (.error _) => [ended]

/-- Whether a span begins. -/
def isStart : SpanRecord → Bool
  | started .. => true
  | _ => false

/-- Whether something is said about the delivery. -/
def isAttribute : SpanRecord → Bool
  | .attribute .. => true
  | _ => false

/-- Whether something has occurred, such as a failure. -/
def isOccurrence : SpanRecord → Bool
  | occurred .. => true
  | _ => false

/-- Whether the status is set. -/
def isStatus : SpanRecord → Bool
  | status _ => true
  | _ => false

/-- Whether a span ends. -/
def isEnd : SpanRecord → Bool
  | ended => true
  | _ => false

end SpanRecord

open SpanRecord

namespace World

/-- What is marked in the trace of a world. -/
def marked (w : World) : List Mark := marks w.trace

variable (w : World)

theorem marked_emit (e : Event) : (w.emit e).marked = w.marked ++ e.mark?.toList := by
  rw [marked, marked, trace_emit, marks_append]
  cases h : e.mark? <;> simp [marks, h]

@[simp] theorem marked_log (e : LogEntry) : (w.log e).marked = w.marked := by
  simp [log, marked_emit, Event.mark?]

@[simp] theorem marked_call (c : Call) : (w.call c).1.marked = w.marked := by
  have noted := w.marked_emit (.called c)
  simpa [marked, Event.mark?] using noted

@[simp] theorem marked_modifyReceiver (r : Nat) (f : Receiver → Receiver) :
    (w.modifyReceiver r f).marked = w.marked := rfl

@[simp] theorem marked_logs (entries : List LogEntry) :
    (entries.foldl World.log w).marked = w.marked := by
  induction entries generalizing w with
  | nil => rfl
  | cons e entries ih => exact (ih _).trans (w.marked_log e)

@[simp] theorem marked_extract (h : Headers) : (w.extract h).1.marked = w.marked := by
  unfold extract
  split
  · rfl
  · simp [marked_emit, Event.mark?]

/-- What is read from headers depends on nothing but them. -/
theorem context_extract (h : Headers) : (w.extract h).2 = h.carried w.propagation := by
  cases asked : w.propagation <;> simp only [extract, Headers.carried, asked]

theorem marked_openSpan (d : Delivery) (context : TraceContext) : (w.openSpan d context).1.marked =
    w.marked ++ (opened d context).map (.record (w.openSpan d context).2) := by
  simp only [openSpan, marked_emit, Event.mark?, opened]
  simp [marked]

@[simp] theorem marked_recordFailure (n : Nat) (f : Failure) :
    (w.recordFailure n f).marked = w.marked ++ [.record n (failure f)] :=
  marked_emit ..

@[simp] theorem marked_setStatus (n : Nat) (s : SpanStatus) :
    (w.setStatus n s).marked = w.marked ++ [.record n (.status s)] :=
  marked_emit ..

@[simp] theorem marked_endSpan (n : Nat) :
    (w.endSpan n).marked = w.marked ++ [.record n ended] :=
  marked_emit ..

end World

/-! ## One delivery -/

section Openings

open Consumption

/-- Opens the span of a delivery under the context that a propagator reads. -/
def openingBy (P : Propagator γ) (parent : γ → TraceContext) (d : Delivery) (w : World) :
    World × γ × Nat :=
  let (context, told) := P.run d.headers
  let (w, span) := (told.foldl World.log w).openSpan d (parent context)
  let w := w.log (processingEntry .debug "received"
    [("routing_key", .plain d.routingKey), ("exchange", .plain d.exchange),
      ("delivery_tag", .number d.tag.toNat), ("redelivered", .flag d.redelivered)])
  (w, context, span)

theorem openingBy_grows (P : Propagator γ) (parent : γ → TraceContext) (d : Delivery) (w : World) :
    ∃ es, (openingBy P parent d w).1.trace = w.trace ++ es := by
  have same : AddsNoFailure w w := ⟨[], (List.append_nil _).symm, rfl⟩
  have opened : AddsNoFailure w (openingBy P parent d w).1 := by
    refine ((same.logs (P.component_run d.headers)).openSpan d _).emit ?_
    simp [failure?, processingEntry]
  exact opened.imp fun _ => And.left

/-- Consumes a delivery under any propagator. -/
def consumeBy (P : Propagator γ) (parent : γ → TraceContext)
    (h : γ → Delivery → Activity η HandlerResult) (a : Acknowledger σ) (mode : AckMode)
    (d : Delivery) : Activity ((γ × Nat) × (η ⊕ HandlerResult × σ)) (Except Failure Unit) :=
  consumeFrom (openingBy P parent d) (openingBy_grows P parent d) h a mode d

variable (P : Propagator γ) (parent : γ → TraceContext) (d : Delivery) (w : World)

theorem context_opening : (opening d w).2.1 = d.headers.carried w.propagation :=
  w.context_extract d.headers

/-- The span of a delivery gets the next number. -/
theorem number_opening :
    (opening d w).2.2 = w.spans + 1 ∧ (opening d w).1.spans = w.spans + 1 := by
  have counted : (w.extract d.headers).1.spans + 1 = w.spans + 1 :=
    congrArg (· + 1) (keptByJobs_spans.toKeptByCalls.extract w d.headers)
  exact ⟨counted, counted⟩

/-- So it does under any propagator, and the context is the one that is read. -/
theorem openingBy_eq : (openingBy P parent d w).2 = (P.context d.headers, w.spans + 1) :=
  Prod.ext rfl (congrArg (· + 1) (keptByJobs_spans.toKeptByCalls.logs _ w))

theorem marked_opening : (opening d w).1.marked =
    w.marked ++ (opened d (opening d w).2.1).map (.record (opening d w).2.2) := by
  simp only [opening, World.marked_log, World.marked_openSpan, World.marked_extract]

theorem marked_openingBy : (openingBy P parent d w).1.marked = w.marked ++
    (opened d (parent (P.context d.headers))).map (.record (openingBy P parent d w).2.2) := by
  simp only [openingBy, World.marked_log, World.marked_openSpan, World.marked_logs,
    Propagator.context]

/-- What is done first with a delivery opens one span, under a context and with the next number. -/
structure OpensSpan (begun : World → World × γ × Nat) (d : Delivery) (w : World)
    (context : TraceContext) : Prop where
  number : (begun w).2.2 = w.spans + 1
  marked : (begun w).1.marked = w.marked ++ (opened d context).map (.record (begun w).2.2)

theorem opensSpan_opening : OpensSpan (opening d) d w (d.headers.carried w.propagation) :=
  ⟨(number_opening d w).1, context_opening d w ▸ marked_opening d w⟩

theorem opensSpan_openingBy :
    OpensSpan (openingBy P parent d) d w (parent (P.context d.headers)) :=
  ⟨congrArg Prod.snd (openingBy_eq P parent d w), marked_openingBy P parent d w⟩

end Openings

section Consuming

open Consumption

variable {begun : World → World × γ × Nat} {grows : ∀ w, ∃ es, (begun w).1.trace = w.trace ++ es}
  {h : γ → Delivery → Activity η HandlerResult} {a : Acknowledger σ} {mode : AckMode} {d : Delivery}
  {w v : World} {es own : List Event} {r : HandlerResult} {y : Option (Except Failure Unit)}
  {context : TraceContext}

theorem OpensSpan.marks (opens : OpensSpan begun d w context) {before : List Event}
    (added : (begun w).1.trace = w.trace ++ before) :
    marks before = (opened d context).map (.record (w.spans + 1)) := by
  have marked := opens.marked
  rw [opens.number, World.marked, added, marks_append] at marked
  exact List.append_cancel_left marked

/-- What is recorded of a consumption that is over. -/
theorem Consumed.marks_own (parts : Consumed begun h a d w mode r y own es)
    (opens : OpensSpan begun d w context) : marks own =
      (opened d context ++ noted r.failure? ++ closed r.failure? (y.map .ok)).map
        (.record (w.spans + 1)) := by
  cases parts with
  | auto added =>
    rw [marks_append, opens.marks added, opens.number, List.append_assoc, List.map_append]
    congr 1
    cases r.failure? <;> rfl
  | @manual requeue before handled settling e r y u v added =>
    rw [marks_append, marks_append, opens.marks added, opens.number, List.map_append,
      List.map_append]
    congr 1
    · cases r.failure? <;> rfl
    · rcases y with e | ⟨⟩ <;> cases r.failure? <;> rfl

/-- The failure of a settlement. -/
def refusal? : Option (Except Failure Unit) → Option Failure
  | some (.error e) => some e
  | _ => none

/-- The span of a delivery that has been consumed under a context: what is recorded on it, given how
the handler has ended, what the settlement has come to if there has been one, and the result. -/
structure Traced (context : TraceContext) (d : Delivery) (r : HandlerResult)
    (y : Option (Except Failure Unit)) (x : Except Failure Unit) (l : List SpanRecord) : Prop where
  /-- One span is started, for the key of the message and under the context. -/
  started : l.filter isStart = [@started .consumer d.routingKey context]
  attributes : l.filter isAttribute =
    [.attribute "messaging.rabbitmq.destination.routing_key" (.text d.routingKey),
      .attribute "messaging.message.delivery_tag" (.number d.tag.toInt64)]
  /-- The status is set once, and all is well when the result is, -/
  ok_iff : l.filter isStatus = [.status .ok] ↔ x = .ok ()
  /-- and otherwise it says how the handler has failed, -/
  failed : ∀ m, r.Fails m → l.filter isStatus = [.status (.error (Failure.handler m).message)]
  /-- or that there has been no acknowledgement. -/
  unacknowledged : ∀ e, r = .succeeded → y = some (.error e) →
    l.filter isStatus = [.status (.error "error to ack msg")]
  /-- The failure of the handler is recorded, then the one of the settlement, and no other. -/
  failures : l.filter isOccurrence =
    (r.failure?.toList ++ (refusal? y).toList).map SpanRecord.failure
  /-- The span ends once, and nothing is recorded after that. -/
  ended : ∃ before, l = before ++ [.ended] ∧ .ended ∉ before

theorem traced_records (context : TraceContext) (d : Delivery) (r : HandlerResult)
    (y : Option (Except Failure Unit)) : Traced context d r y (verdict r.failure? y)
      (opened d context ++ noted r.failure? ++ closed r.failure? (y.map .ok)) := by
  constructor
  case started => rcases y with _ | _ | _ <;> cases r.failure? <;> rfl
  case attributes => rcases y with _ | _ | _ <;> cases r.failure? <;> rfl
  case ok_iff =>
    rcases y with _ | _ | _ <;> cases r.failure? <;>
      simp [opened, noted, closed, verdict, isStatus, SpanRecord.failure, List.filter_cons]
  case failed =>
    intro m fails
    rw [HandlerResult.fails_iff.mp fails]
    rcases y with _ | _ | _ <;> rfl
  case unacknowledged =>
    rintro e rfl rfl
    rfl
  case failures => rcases y with _ | _ | _ <;> cases r.failure? <;> rfl
  case ended =>
    have apart : ∀ (l : List SpanRecord), l.all (!·.isEnd) = true → .ended ∉ l := by
      intro l none mem
      have := List.all_eq_true.mp none _ mem
      cases this
    rcases y with _ | _ | _ <;> cases r.failure?
    all_goals exact ⟨_, (List.dropLast_concat_getLast (by simp [opened])).symm, apart _ rfl⟩

variable (begun grows h a mode d w context) in
/-- A delivery is told of by one new span, whoever opens it. -/
structure OneSpan : Prop where
  /-- The span is opened first, under the context. -/
  opened : ∀ es t, (consumeFrom begun grows h a mode d).Runs w es t → ∃ before rest,
    es = before ++ rest ∧ marks before = (opened d context).map (.record (w.spans + 1))
  /-- When the delivery is done with, the span says how. -/
  told : ∀ es x v, (consumeFrom begun grows h a mode d).Ends w es (.ok x) v → ∃ r y own l,
    Consumed begun h a d w mode r y own es ∧ x = verdict r.failure? y ∧
      marks own = l.map (.record (w.spans + 1)) ∧ Traced context d r y x l

theorem OpensSpan.oneSpan (opens : OpensSpan begun d w context) :
    OneSpan begun grows h a mode d w context where
  opened es t run := by
    obtain ⟨before, rest, t', added, -, rfl, -⟩ := Activity.runs_prepared.mp run
    exact ⟨before, rest, rfl, opens.marks added⟩
  told es x v ends := by
    rcases consumed_or_died ends with ⟨r, y, own, parts, same⟩ | ⟨_, _, _, _, _, _, -, same⟩
    · obtain rfl := Except.ok.inj same
      exact ⟨r, y, own, _, parts, rfl, parts.marks_own opens, traced_records context d r y⟩
    · cases same

end Consuming

/-! ## The step of a loop -/

/-- A span of a receive loop: its number, the delivery, the context, and what has been recorded
after the delivery has been handed over. -/
structure Span where
  number : Nat
  delivery : Delivery
  context : TraceContext
  rest : List SpanRecord

namespace Span

/-- The marks of a span. The delivery is handed over when the span has just been opened. -/
def marks (s : Span) : List Mark :=
  (opened s.delivery s.context).map (.record s.number) ++
    .handed s.delivery s.context :: s.rest.map (.record s.number)

/-- All has been recorded. -/
def Whole (s : Span) : Prop := ∃ failed y, s.rest = noted failed ++ closed failed y

end Span

/-- The numbers of the spans that are started. -/
def startedIn (l : List Mark) : List Nat :=
  l.filterMap fun
    | .record n (.started ..) => some n
    | _ => none

@[simp] theorem startedIn_append (l l' : List Mark) :
    startedIn (l ++ l') = startedIn l ++ startedIn l' :=
  List.filterMap_append

/-- Where no start is recorded no span is started. -/
theorem startedIn_map {n : Nat} {l : List SpanRecord} (h : l.any isStart = false) :
    startedIn (l.map (.record n)) = [] := by
  rw [startedIn, List.filterMap_eq_nil_iff]
  intro m hm
  obtain ⟨x, hx, rfl⟩ := List.mem_map.mp hm
  have other := List.any_eq_false.mp h x hx
  cases x with
  | started => exact absurd rfl other
  | _ => rfl

/-- The span of a delivery under way. -/
def Processing.span (names : Option (List String)) : Processing → Span
  | handling d n _ => ⟨n, d, d.headers.carried names, []⟩
  | settling d n failed _ => ⟨n, d, d.headers.carried names, noted failed⟩

/-- The span that is open while a loop is somewhere. -/
def Loop.span? (names : Option (List String)) : Loop → Option Span
  | processing p => some (p.span names)
  | _ => none

/-- Where a loop is when the processing of its delivery has come so far. -/
def Progress.loop : Progress Processing (Except Failure Unit) → Loop
  | .waiting p => .processing p
  | .finished _ => .receiving
  | .crashed payload => .crashed payload

theorem World.loop_processed {w : World} {r : Nat} {p : Progress Processing (Except Failure Unit)}
    (hr : r < (w.processed r p).receivers.length) :
    ((w.processed r p).receiver r).loop = p.loop := by
  have there : r < w.receivers.length := by
    rcases p with p | ⟨f | ⟨⟩⟩ | payload <;>
      simpa only [World.processed, World.setLoop, World.length_modifyReceiver] using hr
  rcases p with p | ⟨f | ⟨⟩⟩ | payload
  all_goals
    simp only [World.processed, World.setLoop, World.receiver_modifyReceiver there]
    rfl

@[simp] theorem World.marked_processed (w : World) (r : Nat)
    (p : Progress Processing (Except Failure Unit)) : (w.processed r p).marked = w.marked := by
  rcases p with p | ⟨f | ⟨⟩⟩ | payload <;> rfl

theorem finished_ne_waiting {σ ρ : Type} (result : ρ) (s : σ) :
    (Progress.finished result : Progress σ ρ) ≠ .waiting s := by simp

theorem crashed_ne_waiting {σ ρ : Type} (payload : Option String) (s : σ) :
    (Progress.crashed payload : Progress σ ρ) ≠ .waiting s := by simp

section Steps

variable {w : World} {r : Nat}

/-- A delivery is handed over in a span that has just been opened, under its context. -/
theorem marked_dispatch (kind : HandlerKind) (d : Delivery) (cue : Cue) :
    ∃ p, (Processing.start r kind d cue w).2 = .waiting p ∧
      (Processing.start r kind d cue w).1.marked = w.marked ++ (p.span w.propagation).marks ∧
      p.span w.propagation = ⟨w.spans + 1, d, d.headers.carried w.propagation, []⟩ ∧
      (Processing.start r kind d cue w).1.spans = w.spans + 1 := by
  obtain ⟨number, counted⟩ := number_opening d w
  refine ⟨.handling d (Consumption.opening d w).2.2 (kind.cue cue), by cases kind <;> rfl, ?_,
    by rw [← number]; rfl, by cases kind <;> exact counted⟩
  have begun : (Processing.start r kind d cue w).1.marked =
      ((Consumption.opening d w).1.emit
        (.dispatched r kind d (Consumption.opening d w).2.1)).marked := by
    cases kind with
    | cued => rfl
    | logging => exact World.marked_log ..
  rw [begun, World.marked_emit, marked_opening, context_opening, List.append_assoc]
  rfl

/-- What is recorded when a delivery goes on belongs to its span, which stays open or is whole. -/
theorem marked_resume (names : Option (List String)) (mode : AckMode) (p : Processing) :
    ∃ more, (p.resume r mode w).1.marked =
        w.marked ++ more.map (.record (p.span names).number) ∧ more.any isStart = false ∧
      ((∃ p', (p.resume r mode w).2 = .waiting p' ∧
          p'.span names = { p.span names with rest := (p.span names).rest ++ more }) ∨
        (∀ p', (p.resume r mode w).2 ≠ .waiting p') ∧
          { p.span names with rest := (p.span names).rest ++ more }.Whole) := by
  cases p with
  | handling d n cue =>
    have ended : (w.emit (.handled r d cue.result)).marked = w.marked := by
      simp [World.marked_emit, Event.mark?]
    simp only [Processing.resume]
    cases cue.result.failure? with
    | none =>
      cases mode with
      | auto =>
        refine ⟨[.status .ok, .ended], ?_, rfl, .inr ⟨finished_ne_waiting _, none, none, rfl⟩⟩
        simp [Processing.succeeded, ended, Processing.span]
      | manual requeue =>
        refine ⟨[], ?_, rfl, .inl ⟨_, rfl, rfl⟩⟩
        simp [Processing.succeeded, Settlement.ack, ended]
    | some f =>
      cases mode with
      | auto =>
        refine ⟨noted (some f) ++ [.ended], ?_, rfl,
          .inr ⟨finished_ne_waiting _, some f, none, rfl⟩⟩
        simp [Processing.failed, ended, Processing.span, noted]
      | manual requeue =>
        refine ⟨noted (some f), ?_, rfl, .inl ⟨_, rfl, rfl⟩⟩
        simp [Processing.failed, Settlement.reject, ended, Processing.span, noted]
  | settling d n failed p =>
    have heard : ∀ a, (w.emit (.answered p.call a)).marked = w.marked := by
      simp [World.marked_emit, Event.mark?]
    cases failed with
    | none =>
      simp only [Processing.resume, Settlement.ackAnswered]
      cases ha : p.reply.answer with
      | done name =>
        rw [resolve_done ha]
        refine ⟨[.status .ok, .ended], ?_, rfl,
          .inr ⟨finished_ne_waiting _, none, some (.ok (.ok ())), rfl⟩⟩
        simp [Processing.closing, Turn.andThen, Processing.acknowledged, heard, Processing.span]
      | refused fault =>
        rw [resolve_refused ha]
        refine ⟨_, ?_, rfl,
          .inr ⟨finished_ne_waiting _, none, some (.ok (.error .acknowledgement)), rfl⟩⟩
        simp [Processing.closing, Turn.andThen, Processing.acknowledged, heard, Processing.span,
          closed]
      | crashed payload =>
        rw [resolve_crashed ha]
        refine ⟨[.ended], ?_, rfl, .inr ⟨crashed_ne_waiting _, none, some (.error payload), rfl⟩⟩
        simp [Processing.closing, Turn.andThen, heard, Processing.span]
    | some f =>
      simp only [Processing.resume, Settlement.rejectAnswered]
      cases ha : p.reply.answer with
      | done name =>
        rw [resolve_done ha]
        refine ⟨[.ended], ?_, rfl, .inr ⟨finished_ne_waiting _, some f, some (.ok (.ok ())), rfl⟩⟩
        simp [Processing.closing, Turn.andThen, Processing.rejected, heard, Processing.span]
      | refused fault =>
        rw [resolve_refused ha]
        refine ⟨[.failure .rejection, .ended], ?_, rfl,
          .inr ⟨finished_ne_waiting _, some f, some (.ok (.error .rejection)), rfl⟩⟩
        simp [Processing.closing, Turn.andThen, Processing.rejected, heard, Processing.span]
      | crashed payload =>
        rw [resolve_crashed ha]
        refine ⟨[.ended], ?_, rfl, .inr ⟨crashed_ne_waiting _, some f, some (.error payload), rfl⟩⟩
        simp [Processing.closing, Turn.andThen, heard, Processing.span]

/-- What a stretch of a loop records: it goes on with the span that is open, which may become
whole, or opens one where there is none. -/
structure RecordsSpans (names : Option (List String)) (w w' : World) (before after : Loop)
    (news : List Mark) : Prop where
  marked : w'.marked = w.marked ++ news
  /-- Spans are numbered in the order in which they are opened. -/
  fresh : ∃ k, w'.spans = w.spans + k ∧ startedIn news = List.range' (w.spans + 1) k
  spans : ∃ done : List Span, (∀ s ∈ done, s.Whole ∧ s.context = s.delivery.headers.carried names) ∧
    (before.span? names).toList.flatMap Span.marks ++ news =
      (done ++ (after.span? names).toList).flatMap Span.marks

/-- Nothing is recorded between two deliveries. -/
theorem recordsSpans_nothing {names : Option (List String)} {w' : World} {before after : Loop}
    (marked : w'.marked = w.marked) (spans : w'.spans = w.spans)
    (same : before.span? names = after.span? names) :
    RecordsSpans names w w' before after [] :=
  ⟨by rw [marked, List.append_nil], ⟨0, spans, rfl⟩, [], by simp, by simp [same]⟩

/-- What a loop records when it goes on with a delivery. -/
theorem recordsSpans_resume (names : Option (List String)) (mode : AckMode) (p : Processing) :
    ∃ news, RecordsSpans names w (p.resume r mode w).1 (.processing p)
      (p.resume r mode w).2.loop news := by
  obtain ⟨more, marked, unstarted, goes⟩ := marked_resume (w := w) (r := r) names mode p
  have joined : (p.span names).marks ++ more.map (.record (p.span names).number) =
      Span.marks { p.span names with rest := (p.span names).rest ++ more } := by
    simp [Span.marks]
  refine ⟨_, marked, ⟨0, keptByJobs_spans.toKeptByCalls.processingResume r mode p w, ?_⟩, ?_⟩
  · exact startedIn_map unstarted
  · rcases goes with ⟨p', waits, same⟩ | ⟨past, whole⟩
    · refine ⟨[], by simp, ?_⟩
      rw [waits]
      simp [Progress.loop, Loop.span?, same, joined]
    · refine ⟨[_], List.forall_mem_singleton.mpr ⟨whole, by cases p <;> rfl⟩, ?_⟩
      have none : ((p.resume r mode w).2.loop.span? names) = none := by
        cases h : (p.resume r mode w).2 with
        | waiting p' => exact absurd h (past p')
        | finished x => rfl
        | crashed payload => rfl
      rw [none]
      simp [Loop.span?, joined]

/-- What a loop records when it looks for something to take. -/
theorem recordsSpans_receive (loop : (w.receiver r).loop = .receiving)
    (there : r < (w.receive r).receivers.length) : ∃ news, RecordsSpans w.propagation w
      (w.receive r) .receiving ((w.receive r).receiver r).loop news := by
  revert there
  unfold World.receive
  dsimp only
  split
  · intro there
    refine ⟨[], recordsSpans_nothing (World.marked_log ..) rfl ?_⟩
    rw [World.setLoop, World.length_modifyReceiver] at there
    rw [World.setLoop, World.receiver_modifyReceiver there]
    rfl
  · split
    · rename_i d cue rest feed
      intro there
      generalize hw : (World.emit w (.pulled r (.delivery d cue))).modifyReceiver r _ = w₁ at *
      have marked₁ : w₁.marked = w.marked := by
        rw [← hw, World.marked_modifyReceiver, World.marked_emit]
        exact List.append_nil _
      have names : w₁.propagation = w.propagation ∧ w₁.spans = w.spans := by
        rw [← hw]
        exact ⟨rfl, rfl⟩
      obtain ⟨p, waits, marked, fresh, counted⟩ :=
        marked_dispatch (w := w₁) (r := r) (w.receiver r).kind d cue
      rw [names.1] at fresh
      rw [names.2] at fresh counted
      refine ⟨_, by rw [World.marked_processed, marked, marked₁],
        ⟨1, (keptByJobs_spans.processed _ r _).trans counted, ?_⟩, [], by simp, ?_⟩
      · rw [names.1, fresh]
        rfl
      · rw [World.loop_processed there, waits, names.1]
        simp [Progress.loop, Loop.span?]
    · rename_i fault rest feed
      intro there
      refine ⟨[], recordsSpans_nothing ?_ rfl ?_⟩
      · simp [World.marked_emit, Event.mark?]
      · rw [World.receivers_log, World.length_modifyReceiver] at there
        have stays := World.receiver_modifyReceiver there fun v => { v with feed := rest }
        exact congrArg _ ((congrArg Receiver.loop stays).trans loop).symm
    · split
      · intro there
        refine ⟨[], recordsSpans_nothing ?_ rfl ?_⟩
        · simp [World.marked_emit, Event.mark?]
        · rw [World.length_modifyReceiver] at there
          rw [World.receiver_modifyReceiver there]
          rfl
      · intro there
        exact ⟨[], recordsSpans_nothing rfl rfl (by rw [loop])⟩

/-- What a loop records in a step. -/
theorem World.runReceiver_spans (there : r < (w.runReceiver r).receivers.length) : ∃ news,
    RecordsSpans w.propagation w (w.runReceiver r) (w.receiver r).loop
      ((w.runReceiver r).receiver r).loop news := by
  cases loop : (w.receiver r).loop with
  | receiving =>
    have run : w.runReceiver r = w.receive r := by simp only [runReceiver, loop]
    rw [run] at there ⊢
    exact recordsSpans_receive loop there
  | processing p =>
    have run : w.runReceiver r = (p.resume r (w.receiver r).mode w).1.processed r
        (p.resume r (w.receiver r).mode w).2 := by simp only [runReceiver, loop]
    rw [run] at there ⊢
    rw [loop_processed there]
    obtain ⟨news, marked, ⟨k, counted, fresh⟩, spans⟩ :=
      recordsSpans_resume (w := w) (r := r) w.propagation (w.receiver r).mode p
    exact ⟨news, (marked_processed ..).trans marked,
      ⟨k, (keptByJobs_spans.processed _ r _).trans counted, fresh⟩, spans⟩
  | _ =>
    have run : w.runReceiver r = w := by simp only [runReceiver, loop]
    rw [run, loop]
    exact ⟨[], recordsSpans_nothing rfl rfl rfl⟩

end Steps

/-! ## Spans in a row -/

namespace Span

/-- What is recorded after the delivery has been handed over starts no span. -/
def Going (s : Span) : Prop := s.rest.any isStart = false

theorem Whole.going {s : Span} (h : s.Whole) : s.Going := by
  obtain ⟨failed, y, rest⟩ := h
  rw [Going, rest]
  rcases failed with _ | f <;> rcases y with _ | _ | _ | _ <;> rfl

theorem Whole.ended {s : Span} (h : s.Whole) : .record s.number .ended ∈ s.marks := by
  obtain ⟨failed, y, rest⟩ := h
  have last : .ended ∈ closed failed y := by
    rcases failed with _ | f <;> rcases y with _ | _ | _ | _ <;> simp [closed]
  have mem : .record s.number .ended ∈ s.rest.map (Mark.record s.number) := by
    rw [rest]
    exact List.mem_map_of_mem (List.mem_append_right _ last)
  exact List.mem_append_right _ (List.mem_cons_of_mem _ mem)

/-- What is recorded on a span goes under its number. -/
theorem number_of_mem {s : Span} {n : Nat} {x : SpanRecord} (h : .record n x ∈ s.marks) :
    n = s.number := by
  simp only [marks, List.mem_append, List.mem_map, List.mem_cons] at h
  rcases h with ⟨_, -, same⟩ | same | ⟨_, -, same⟩ <;> cases same <;> rfl

/-- A span is started once, at its beginning. -/
theorem marks_eq (s : Span) (going : s.Going) : ∃ more, s.marks =
    .record s.number (@started .consumer s.delivery.routingKey s.context) :: more ∧
      startedIn more = [] := by
  refine ⟨_, rfl, ?_⟩
  have later : startedIn (s.rest.map (.record s.number)) = [] := startedIn_map going
  exact later

end Span

section Rows

variable {l : List Span}

theorem startedIn_flatMap (going : ∀ s ∈ l, s.Going) :
    startedIn (l.flatMap Span.marks) = l.map Span.number := by
  induction l with
  | nil => rfl
  | cons s l ih =>
    obtain ⟨first, others⟩ := List.forall_mem_cons.mp going
    obtain ⟨more, begins, none⟩ := s.marks_eq first
    rw [List.flatMap_cons, startedIn_append, ih others, begins, List.map_cons]
    exact congrArg (s.number :: · ++ _) none

/-- Where a span is started, those in front of it are complete. -/
theorem split_of_started (going : ∀ s ∈ l, s.Going) {before rest : List Mark} {n : Nat}
    {kind : SpanKind} {name : String} {parent : TraceContext}
    (split : l.flatMap Span.marks = before ++ .record n (@started kind name parent) :: rest) :
    ∃ l₁ s l₂, l = l₁ ++ s :: l₂ ∧ before = l₁.flatMap Span.marks ∧ s.number = n ∧
      rest ⊆ (s :: l₂).flatMap Span.marks := by
  induction l generalizing before with
  | nil => simp at split
  | cons s l ih =>
    obtain ⟨first, others⟩ := List.forall_mem_cons.mp going
    have later : ∀ a', before = s.marks ++ a' →
        l.flatMap Span.marks = a' ++ .record n (@started kind name parent) :: rest →
        ∃ l₁ s' l₂, s :: l = l₁ ++ s' :: l₂ ∧ before = l₁.flatMap Span.marks ∧ s'.number = n ∧
          rest ⊆ (s' :: l₂).flatMap Span.marks := by
      rintro a' rfl split'
      obtain ⟨l₁, s', l₂, rfl, rfl, number, rest⟩ := ih others split'
      exact ⟨s :: l₁, s', l₂, rfl, rfl, number, rest⟩
    rw [List.flatMap_cons] at split
    rcases List.append_eq_append_iff.mp split with ⟨a', same, split'⟩ | ⟨c', same, split'⟩
    · exact later a' same split'
    · obtain ⟨more, begins, none⟩ := s.marks_eq first
      cases c' with
      | nil => exact later [] (by simpa using same.symm) split'.symm
      | cons m c' =>
        obtain ⟨rfl, rfl⟩ := List.cons.inj split'
        cases before with
        | nil =>
          rw [begins] at same
          obtain ⟨start, rfl⟩ := List.cons.inj same
          cases start
          refine ⟨[], s, l, rfl, rfl, rfl, ?_⟩
          rw [List.flatMap_cons, begins, List.cons_append]
          exact List.subset_cons_self _ _
        | cons m before =>
          rw [begins] at same
          obtain ⟨-, rfl⟩ := List.cons.inj same
          -- no span is started while one is open
          simp [startedIn] at none

end Rows

/-! ## The spans of a system -/

/-- What one has done is part of what all have done. -/
theorem eventsBy_sublist (who : Actor) (deeds : List (Actor × Event)) :
    (eventsBy who deeds).Sublist (deeds.map (·.2)) := by
  induction deeds with
  | nil => exact .slnil
  | cons d deeds ih =>
    obtain ⟨a, e⟩ := d
    by_cases own : a = who
    · subst own
      rw [eventsBy_cons_self]
      exact ih.cons_cons e
    · rw [eventsBy_cons_of_ne own]
      exact ih.cons e

namespace System

/-- What the loops of a system record, seen from one of them. -/
structure Traces (s : System) (h : List Move) (r : Nat) : Prop where
  /-- A loop records whole spans, and then one that is open while a delivery is under way. Each is
  for a delivery that is handed over in it, under the context of its headers. -/
  spans : ∃ (done : List Span) (last : Option Span),
    marks (eventsBy (.receiver r) (s.deeds h)) = (done ++ last.toList).flatMap Span.marks ∧
    (∀ x ∈ done, x.Whole) ∧
    (∀ x ∈ last, x.Going ∧ ∃ p, ((s.after h).world.receiver r).loop = .processing p) ∧
    (∀ x ∈ done ++ last.toList, x.context = x.delivery.headers.carried s.world.propagation) ∧
    (done ++ last.toList).map Span.delivery = invocations r (s.after h).world.trace
  /-- A span that is started is a new one, and all those in front of it have ended for good. -/
  ordered : ∀ before n kind name parent rest,
    marks (eventsBy (.receiver r) (s.deeds h)) =
      before ++ .record n (@SpanRecord.started kind name parent) :: rest →
    ∀ n' x, .record n' x ∈ before →
      n' ≠ n ∧ .record n' .ended ∈ before ∧ ∀ x', .record n' x' ∉ rest
  /-- In the whole system spans are numbered in the order in which they are started. -/
  fresh : startedIn (s.after h).world.marked = List.range' 1 (s.after h).world.spans

variable {s : System} {r : Nat}

theorem there_of_runnable (ready : s.isRunnable (.receiver r) = true) :
    r < s.world.receivers.length := by
  by_contra absent
  have none : s.world.receivers[r]? = none := List.getElem?_eq_none (by omega)
  have ended : (s.world.receiver r).loop = .ended := by
    rw [World.receiver, none]
    rfl
  simp [isRunnable, waitOf, Receiver.wait?, ended] at ready

/-- What an actor does in its own move is what is marked. -/
theorem marked_own {m : Move} {a : Actor} (own : s.actorOf m = some a) :
    (s.move m).world.marked = s.world.marked ++ marks (eventsBy a (s.doing m)) := by
  obtain ⟨news, added, -⟩ := s.adds m
  rw [eventsBy_doing_own own, added_of_trace added, World.marked, added, marks_append]
  rfl

/-- What a loop records in its own move. -/
theorem records_move (ready : s.isRunnable (.receiver r) = true) :
    RecordsSpans s.world.propagation s.world (s.move (.act (.receiver r))).world
      (s.world.receiver r).loop ((s.move (.act (.receiver r))).world.receiver r).loop
      (marks (eventsBy (.receiver r) (s.doing (.act (.receiver r))))) := by
  have run : (s.move (.act (.receiver r))).world = s.world.runReceiver r := by
    simp [move, act, step, ready]
  have own := marked_own (s := s) (m := .act (.receiver r)) rfl
  obtain ⟨there, -⟩ := s.follows (.act (.receiver r)) (there_of_runnable ready)
  rw [run] at there own ⊢
  obtain ⟨news, records⟩ := s.world.runReceiver_spans there
  rwa [List.append_cancel_left (own.symm.trans records.marked)]

/-- A turn of a job records nothing. -/
theorem marked_takes {m : Move} {n : Nat} {t : Turn Task Outcome} (takes : s.Takes m n t) :
    t.1.marked = s.world.marked := by
  obtain ⟨stages, heard, told, htold, trace⟩ := takes.speaks
  have none : marks ((heard.map Pending.heard).toList ++ told ++ t.2.calls Task.pending?) = [] := by
    rw [marks, List.filterMap_eq_nil_iff]
    intro e he
    rcases List.mem_append.mp he with he | he
    · rcases List.mem_append.mp he with he | he
      · obtain ⟨p, -, rfl⟩ : ∃ p, heard = some p ∧ Pending.heard p = e := by simpa using he
        rfl
      · have hears := htold e he
        cases e <;> first | rfl | exact hears.elim
    · obtain ⟨c, rfl⟩ : ∃ c, e = .called c := by
        cases ht : t.2 <;> simp [Progress.calls, ht] at he
        obtain ⟨p, -, rfl⟩ := he
        exact ⟨_, rfl⟩
      rfl
  rw [World.marked, trace, marks_append, none, List.append_nil]
  rfl

/-- Spans are numbered in the order in which they are started. -/
theorem fresh_move (h : startedIn s.world.marked = List.range' 1 s.world.spans) (m : Move) :
    startedIn (s.move m).world.marked = List.range' 1 (s.move m).world.spans := by
  cases own : s.actorOf m with
  | none => cases m <;> first | exact h | cases own
  | some a =>
    cases a with
    | job n =>
      by_cases turn : ∃ t, s.Takes m n t
      · obtain ⟨t, takes⟩ := turn
        rw [takes.turned.world, marked_takes takes, keptByJobs_spans.takes takes]
        exact h
      · rw [move_of_no_turn own (not_exists.mp turn)]
        exact h
    | observer i =>
      obtain rfl : m = .act (.observer i) := by cases m <;> simp_all [actorOf]
      simp only [move, act]
      split <;> exact h
    | receiver r =>
      obtain rfl : m = .act (.receiver r) := by cases m <;> simp_all [actorOf]
      by_cases ready : s.isRunnable (.receiver r) = true
      · obtain ⟨k, counted, started⟩ := (records_move ready).fresh
        rw [(records_move ready).marked, startedIn_append, started, h, counted, Nat.add_comm _ 1]
        exact List.range'_append_1
      · have same : s.move (.act (.receiver r)) = s := by simp [move, act, ready]
        rw [same]
        exact h

theorem fresh_after (h : startedIn s.world.marked = List.range' 1 s.world.spans)
    (history : List Move) : startedIn (s.after history).world.marked =
      List.range' 1 (s.after history).world.spans := by
  induction history generalizing s with
  | nil => exact h
  | cons m history ih => exact ih (fresh_move h m)

/-- A loop has recorded whole spans, and the one that is open. -/
theorem spans_after (empty : s.world.receivers = []) (h : List Move)
    (there : r < (s.after h).world.receivers.length) : ∃ done : List Span,
      (∀ x ∈ done, x.Whole ∧ x.context = x.delivery.headers.carried s.world.propagation) ∧
      marks (eventsBy (.receiver r) (s.deeds h)) = (done ++
        (((s.after h).world.receiver r).loop.span? s.world.propagation).toList).flatMap
          Span.marks := by
  induction h using List.reverseRecOn with
  | nil => simp [empty] at there
  | append_singleton h m ih =>
    rw [eventsBy_deeds_concat, after_concat] at *
    by_cases before : r < (s.after h).world.receivers.length
    · obtain ⟨done, whole, recorded⟩ := ih before
      by_cases acts : m = .act (.receiver r) ∧ (s.after h).isRunnable (.receiver r) = true
      · obtain ⟨rfl, ready⟩ := acts
        obtain ⟨-, -, done', whole', goes⟩ := records_move ready
        rw [propagation_after] at goes whole'
        refine ⟨done ++ done', List.forall_mem_append.mpr ⟨whole, whole'⟩, ?_⟩
        rw [marks_append, recorded, List.flatMap_append, List.append_assoc, goes,
          ← List.flatMap_append, List.append_assoc]
      · have idle : eventsBy (.receiver r) ((s.after h).doing m) = [] := by
          by_cases own : (s.after h).actorOf m = some (.receiver r)
          · obtain rfl : m = .act (.receiver r) := by cases m <;> simp_all [actorOf]
            have rests : (s.after h).isRunnable (.receiver r) = false := by simpa using acts
            simp [doing, actorOf, added, move, act, rests]
          · exact eventsBy_doing_other own
        rw [idle, List.append_nil, loop_of_idle before idle]
        exact ⟨done, whole, recorded⟩
    · have gone : (s.after h).world.receivers.length ≤ r := by omega
      obtain ⟨none, -, new⟩ := (s.after h).appears m gone
      obtain ⟨n, t, g, tag, -, -, -, -, opened⟩ := new _ (World.getElem?_receivers there)
      rw [(absent_after h gone).1, none, opened]
      exact ⟨[], by simp, rfl⟩

/-- The handler is given what is handed over. -/
theorem handed_eq (es : List Event) : begunIn (beats es) = (marks es).filterMap fun
    | .handed d _ => some d
    | _ => none := by
  rw [begunIn, beats, marks, List.filterMap_filterMap, List.filterMap_filterMap]
  congr 1
  funext e
  cases e <;> try rfl
  simp only [Event.beat?, Event.mark?]
  split <;> rfl

theorem handed_flatMap (l : List Span) : (l.flatMap Span.marks).filterMap (fun
    | .handed d _ => some d
    | _ => none) = l.map Span.delivery := by
  induction l with
  | nil => rfl
  | cons s l ih =>
    rw [List.flatMap_cons, List.filterMap_append, ih, List.map_cons, Span.marks,
      List.filterMap_append, List.filterMap_cons]
    have none : ∀ l' : List SpanRecord, (l'.map (Mark.record s.number)).filterMap (fun
        | .handed d _ => some d
        | _ => none) = [] := by
      intro l'
      rw [List.filterMap_map]
      exact List.filterMap_eq_nil_iff.mpr fun _ _ => rfl
    rw [none, none]
    rfl

/-- What a loop has recorded, and how the spans of the system are numbered. -/
theorem traces_after (setup : Setup) (h : List Move)
    (there : r < (setup.system.after h).world.receivers.length) : setup.system.Traces h r := by
  obtain ⟨done, whole, recorded⟩ := spans_after (s := setup.system) rfl h there
  generalize hlast : ((setup.system.after h).world.receiver r).loop.span?
    setup.system.world.propagation = last at recorded
  have open' : ∀ x ∈ last, ∃ p, ((setup.system.after h).world.receiver r).loop = .processing p ∧
      x = p.span setup.system.world.propagation := by
    rintro x hx
    rw [hx] at hlast
    cases hloop : ((setup.system.after h).world.receiver r).loop with
    | processing p =>
      rw [hloop] at hlast
      exact ⟨p, rfl, (Option.some.inj hlast).symm⟩
    | _ =>
      rw [hloop] at hlast
      cases hlast
  have goingLast : ∀ x ∈ last, x.Going := by
    intro x hx
    obtain ⟨p, -, rfl⟩ := open' x hx
    rcases p with _ | ⟨d, n, _ | f, p⟩ <;> rfl
  have going : ∀ x ∈ done ++ last.toList, x.Going := by
    intro x hx
    rcases List.mem_append.mp hx with hx | hx
    · exact (whole x hx).1.going
    · exact goingLast x (Option.mem_toList.mp hx)
  have fresh := fresh_after (s := setup.system) rfl h
  have trace := trace_deeds (s := setup.system) rfl h
  -- the numbers of one loop are some of those of the system
  have distinct : ((done ++ last.toList).map Span.number).Nodup := by
    have own : (eventsBy (.receiver r) (setup.system.deeds h)).Sublist
        (setup.system.after h).world.trace := by
      rw [trace]
      exact eventsBy_sublist ..
    have among := (own.filterMap Event.mark?).filterMap fun
      | Mark.record n (.started ..) => some n
      | _ => none
    have among' : ((done ++ last.toList).map Span.number).Sublist
        (List.range' 1 (setup.system.after h).world.spans) := by
      rw [← startedIn_flatMap going, ← recorded, ← fresh]
      exact among
    exact among'.nodup List.nodup_range'
  refine ⟨⟨done, last, recorded, fun x hx => (whole x hx).1, fun x hx => ⟨goingLast x hx, ?_⟩, ?_,
    ?_⟩, ?_, fresh⟩
  · obtain ⟨p, loop, -⟩ := open' x hx
    exact ⟨p, loop⟩
  · intro x hx
    rcases List.mem_append.mp hx with hx | hx
    · exact (whole x hx).2
    · obtain ⟨p, -, rfl⟩ := open' x (Option.mem_toList.mp hx)
      cases p <;> rfl
  · rw [trace, invocations_deeds (wellNamed_deeds setup.system h), handed_eq, recorded,
      handed_flatMap]
  · intro before n kind name parent rest split n' x hx
    rw [recorded] at split
    obtain ⟨l₁, y, l₂, row, rfl, rfl, later⟩ := split_of_started going split
    obtain ⟨z, hz, mem⟩ := List.mem_flatMap.mp hx
    obtain rfl := Span.number_of_mem mem
    rw [row, List.map_append, List.nodup_append] at distinct
    have apart : ∀ y' ∈ y :: l₂, z.number ≠ y'.number := fun y' hy' =>
      distinct.2.2 _ (List.mem_map_of_mem hz) _ (List.mem_map_of_mem hy')
    -- what stands in front of another span is not the last one
    have past : z ∈ done := by
      have front : l₁ <+: done := by
        have within : l₁ <+: done ++ last.toList := row ▸ List.prefix_append _ _
        refine List.prefix_of_prefix_length_le within (List.prefix_append _ _) ?_
        have length := congrArg List.length row
        have one : last.toList.length ≤ 1 := by cases last <;> simp
        simp only [List.length_append, List.length_cons] at length
        omega
      exact front.subset hz
    refine ⟨apart y List.mem_cons_self, ?_, fun x' hx' => ?_⟩
    · exact List.mem_flatMap.mpr ⟨z, hz, (whole z past).1.ended⟩
    · obtain ⟨y', hy', mem'⟩ := List.mem_flatMap.mp (later hx')
      exact apart y' hy' (Span.number_of_mem mem')

end System

/-- A number of 64 bits, read in two's complement. -/
theorem toInt_toInt64 (n : UInt64) : n.toInt64.toInt =
    if n.toNat < 2 ^ 63 then (n.toNat : Int) else (n.toNat : Int) - 2 ^ 64 := by
  have bits : n.toInt64.toInt = n.toBitVec.toInt := rfl
  rw [bits, BitVec.toInt_eq_toNat_cond]
  simp only [UInt64.toNat_toBitVec]
  split <;> split <;> first | rfl | omega

/-- Whatever the handler does, and whoever settles, a delivery is told of by one new span from its
beginning on. The handler works under the same context, which is the one that a propagator has read
from the headers; for the propagator of a worker it is the one that they carry. When the delivery is
done with, the span says how. The tag is on it in two's complement, so that no two tags are
confused. The turns of the worker are those of such a consumption, and its receive loops never have
two spans open. -/
theorem traced_one_by_one (P : Propagator γ) (parent : γ → TraceContext)
    (h : γ → Delivery → Activity η HandlerResult) (h' : Handler η) (a : Acknowledger σ)
    (mode : AckMode) (d : Delivery) (w : World) :
    ((openingBy P parent d w).2.1 = P.context d.headers ∧
      OneSpan (openingBy P parent d) (openingBy_grows P parent d) h a mode d w
        (parent (P.context d.headers))) ∧
    ((Consumption.opening d w).2.1 = d.headers.carried w.propagation ∧
      OneSpan (Consumption.opening d) (Consumption.opening_grows d) h' a mode d w
        (d.headers.carried w.propagation)) ∧
    (∀ tag : UInt64, tag.toInt64.toInt =
      if tag.toNat < 2 ^ 63 then (tag.toNat : Int) else (tag.toNat : Int) - 2 ^ 64) ∧
    (∀ tag tag' : UInt64, tag.toInt64 = tag'.toInt64 → tag = tag') ∧
    (∀ (kind : HandlerKind) (receiver : Nat) (cue : Cue),
      ((consume (kind.handler receiver cue) channel mode d).start w).within (Consumption.stage d) =
        Processing.start receiver kind d cue w ∧
      ∀ es v s w', (consume (kind.handler receiver cue) channel mode d).Runs w es (v, .waiting s) →
        ((consume (kind.handler receiver cue) channel mode d).resume s w').within
            (Consumption.stage d) = Processing.resume receiver mode (Consumption.stage d s) w') ∧
    ∀ (setup : Setup) (history : List Move) (r : Nat),
      r < (setup.system.after history).world.receivers.length → setup.system.Traces history r := by
  refine ⟨⟨congrArg Prod.fst (openingBy_eq P parent d w),
      (opensSpan_openingBy P parent d w).oneSpan⟩,
    ⟨context_opening d w, (opensSpan_opening d w).oneSpan⟩, toInt_toInt64,
    fun tag tag' same => congrArg Int64.toUInt64 same,
    fun kind receiver cue => ⟨Consumption.start_of_consume .., fun es v s w' run => ?_⟩,
    fun setup history r there => System.traces_after setup history there⟩
  exact Consumption.turn_of_consume _ _ _ _ _ run w'

/-- A handler that succeeds at once. -/
def prompt : Handler Unit := fun _ _ => .done .succeeded

/-- A message whose trace context is a text, and with a state of the trace beside it. -/
def continued : Delivery :=
  { headers := .ofList [("traceparent", .longString [0x30, 0x30]),
      ("tracestate", .longString [0x31])] }

theorem traced_one_by_one_panicHistory :
    (∃ es v r y own l,
      (consumeBy chained (⟨·.1⟩) (fun context => prompt ⟨context.2⟩) refusing (.manual true)
        continued).Ends default es (.ok (.error .acknowledgement)) v ∧
      Consumed (openingBy chained (⟨·.1⟩) continued) (fun context => prompt ⟨context.2⟩) refusing
        continued default (.manual true) r y own es ∧
      Traced ⟨some "00"⟩ continued r y (.error .acknowledgement) l) ∧
    (∃ es v r y own l,
      (consume prompt refusing (.manual true) default).Ends default es
        (.ok (.error .acknowledgement)) v ∧
      Consumed (Consumption.opening default) prompt refusing default default (.manual true) r y own
        es ∧
      Traced {} default r y (.error .acknowledgement) l) ∧
    0 < (Setup.system { connected := true } |>.after System.panicHistory).world.receivers.length ∧
      (Setup.system { connected := true }).Traces System.panicHistory 0 := by
  have refused : ∀ (d : Delivery) (w : World),
      (Consumption.due refusing d true none).Ends w [] (.ok (.error .acknowledgement)) w :=
    fun _ _ => Activity.ends_done.mpr ⟨rfl, rfl, rfl⟩
  have ready : ∀ context d w, (prompt context d).Ends w [] (.ok .succeeded) w :=
    fun _ _ _ => Activity.ends_done.mpr ⟨rfl, rfl, rfl⟩
  obtain ⟨⟨-, byAny⟩, -⟩ := traced_one_by_one chained (⟨·.1⟩)
    (fun context => prompt ⟨context.2⟩) prompt refusing (.manual true) continued default
  obtain ⟨-, ⟨-, byOwn⟩, -, -, -, led⟩ := traced_one_by_one chained (⟨·.1⟩)
    (fun context => prompt ⟨context.2⟩) prompt refusing (.manual true) default default
  refine ⟨?_, ?_, by decide, led { connected := true } System.panicHistory 0 (by decide)⟩
  · have parts : Consumed (openingBy chained (⟨·.1⟩) continued) (fun context => prompt ⟨context.2⟩)
        refusing continued default (.manual true) .succeeded (some (.error .acknowledgement)) _ _ :=
      .manual (List.nil_append _).symm (ready _ _ _) rfl (refused _ _)
    obtain ⟨v, ends⟩ := parts.ends (openingBy_grows chained (⟨·.1⟩) continued)
    obtain ⟨r, y, own, l, consumed, -, -, traced⟩ := byAny.told _ _ _ ends
    have read : chained.context continued.headers = (some "00", some "1") := by decide
    rw [read] at traced
    exact ⟨_, v, r, y, own, l, ends, consumed, traced⟩
  · have parts : Consumed (Consumption.opening default) prompt refusing default default
        (.manual true) .succeeded (some (.error .acknowledgement)) _ _ :=
      .manual (List.nil_append _).symm (ready _ _ _) rfl (refused _ _)
    obtain ⟨v, ends⟩ := parts.ends (Consumption.opening_grows default)
    obtain ⟨r, y, own, l, consumed, -, -, traced⟩ := byOwn.told _ _ _ ends
    exact ⟨_, v, r, y, own, l, ends, consumed, traced⟩

end TopicWorker
