import TopicWorker.World

/-!
# Processing a delivery

One delivery is processed at a time: a span is opened under the context found in its headers,
the handler is called, and in manual mode the delivery is settled by what the handler did.
Whatever the handler does, a panic included, comes out as a result; only a broker client that
breaks down in a settlement takes the receive loop along.

## Main definitions

* `Processing.start`: opens the span and calls the handler.
* `Processing.resume`: goes on when the handler has ended or the settlement is answered.
* `Settlement.ack`, `Settlement.reject`: the two settlements by themselves.
-/

namespace TopicWorker

/-- An entry of the component that processes deliveries. -/
def processingEntry (level : Level) (message : String) (fields : List (String × Field) := []) :
    LogEntry :=
  { level, component := .processing, message, fields }

namespace Settlement

/-- Acknowledges one delivery. -/
def ack (tag : UInt64) (w : World) : World × Pending := w.call (.basicAck tag false)

/-- Rejects one delivery, which the broker may be asked to queue again. -/
def reject (tag : UInt64) (requeue : Bool) (w : World) : World × Pending :=
  w.call (.basicReject tag requeue)

/-- What is told about an acknowledgement that failed. -/
def ackFault (tag : UInt64) : Fault → LogEntry :=
  faultEntry .delivery "error whiling ack msg" [("delivery_tag", .number tag.toNat)]

/-- What is told about a rejection that failed. -/
def rejectFault (tag : UInt64) (requeue : Bool) : Fault → LogEntry :=
  faultEntry .delivery "error whiling reject msg"
    [("delivery_tag", .number tag.toNat), ("requeue", .flag requeue)]

/-- Takes the answer to an acknowledgement. -/
def ackAnswered (tag : UInt64) (p : Pending) (w : World) : Turn σ (Except Failure Unit) :=
  p.resolve w (ackFault tag)
    (fun _ w => (w, .finished (.ok ())))
    (fun _ w => (w, .finished (.error .acknowledgement)))

/-- Takes the answer to a rejection. -/
def rejectAnswered (tag : UInt64) (requeue : Bool) (p : Pending) (w : World) :
    Turn σ (Except Failure Unit) :=
  p.resolve w (rejectFault tag requeue)
    (fun _ w => (w, .finished (.ok ())))
    (fun _ w => (w, .finished (.error .rejection)))

end Settlement

namespace World

/-- Reads the trace context of a delivery, where a propagator is installed. The propagator
reads all its names, and then the first of them once more for the context. -/
def extract (w : World) (h : Headers) : World × TraceContext :=
  match w.propagation with
  | none => (w, {})
  | some names =>
    let e := h.extract names
    let w := ((h.extractEntries names).foldl log w).emit (.extracted e)
    ((h.extractEntries (names.take 1)).foldl log w, e.context)

/-- Opens the span of a delivery under a context. -/
def openSpan (w : World) (d : Delivery) (parent : TraceContext) : World × Nat :=
  let n := w.spans + 1
  let w := { w with spans := n }
  let w := w.emit (.span n (@SpanRecord.started .consumer d.routingKey parent))
  let w := w.emit (.span n
    (.attribute "messaging.rabbitmq.destination.routing_key" (.text d.routingKey)))
  let w := w.emit (.span n (.attribute "messaging.message.delivery_tag" (.number d.tag.toInt64)))
  (w, n)

/-- Puts a failure on a span. -/
def recordFailure (w : World) (span : Nat) (f : Failure) : World :=
  w.emit (.span span (.failure f))

/-- Sets the status of a span. -/
def setStatus (w : World) (span : Nat) (s : SpanStatus) : World := w.emit (.span span (.status s))

/-- Ends a span. -/
def endSpan (w : World) (span : Nat) : World := w.emit (.span span .ended)

end World

/-- What is told about a delivery whose handler failed. -/
def failureEntry (mode : AckMode) (d : Delivery) (f : Failure) : LogEntry :=
  let fields := [("error", .text f.message), ("routing_key", .plain d.routingKey)]
  match mode with
  | .auto =>
    -- the broker has settled it already, so the message is gone
    processingEntry .error "handler failure, message dropped"
      (fields ++ [("delivery_tag", .number d.tag.toNat)])
  | .manual true => processingEntry .warn "handler failure, requeuing message" fields
  | .manual false => processingEntry .error "handler failure, rejecting message" fields

namespace Processing

/-- What the processing waits for: the handler's gate, or the answer to the settlement. -/
def wait : Processing → Wait
  | handling _ _ cue => .gate cue.gate
  | settling _ _ _ p => p.wait

/-- Opens the span of a delivery and calls the handler with the context of its headers. The
logging handler ends at once and well; another one follows its cue. -/
def start (receiver : Nat) (kind : HandlerKind) (d : Delivery) (cue : Cue) (w : World) :
    Turn Processing (Except Failure Unit) :=
  let (w, context) := w.extract d.headers
  let (w, span) := w.openSpan d context
  let w := w.log (processingEntry .debug "received"
    [("routing_key", .plain d.routingKey), ("exchange", .plain d.exchange),
      ("delivery_tag", .number d.tag.toNat), ("redelivered", .flag d.redelivered)])
  let w := w.emit (.dispatched receiver kind d context)
  match kind with
  | .logging => (w.log d.announcement, .waiting (.handling d span {}))
  | .cued => (w, .waiting (.handling d span cue))

/-- The handler has succeeded. -/
def succeeded (mode : AckMode) (d : Delivery) (span : Nat) (w : World) :
    Turn Processing (Except Failure Unit) :=
  let w := w.log (processingEntry .debug "message successfully processed")
  match mode with
  | .auto => ((w.setStatus span .ok).endSpan span, .finished (.ok ()))
  | .manual _ =>
    let (w, p) := Settlement.ack d.tag w
    (w, .waiting (.settling d span none p))

/-- The handler has failed. -/
def failed (mode : AckMode) (d : Delivery) (span : Nat) (f : Failure) (w : World) :
    Turn Processing (Except Failure Unit) :=
  let w := (w.recordFailure span f).setStatus span (.error f.message)
  let w := w.log (failureEntry mode d f)
  match mode with
  | .auto => (w.endSpan span, .finished (.error f))
  | .manual requeue =>
    let (w, p) := Settlement.reject d.tag requeue w
    (w, .waiting (.settling d span (some f) p))

/-- The acknowledgement has been answered; one that failed is the result. -/
def acknowledged (span : Nat) (result : Except Failure Unit) (w : World) :
    Turn Processing (Except Failure Unit) :=
  let w := match result with
    | .ok () => w.setStatus span .ok
    | .error f => (w.recordFailure span f).setStatus span (.error "error to ack msg")
  (w.endSpan span, .finished result)

/-- The rejection has been answered; the result is the handler's failure all the same. -/
def rejected (span : Nat) (f : Failure) (result : Except Failure Unit) (w : World) :
    Turn Processing (Except Failure Unit) :=
  let w := match result with
    | .ok () => w
    | .error g => w.recordFailure span g
  (w.endSpan span, .finished (.error f))

/-- A settlement that takes the loop along still ends the span. -/
def closing (span : Nat) (t : Turn Processing ρ) : Turn Processing ρ :=
  match t with
  | (w, .crashed payload) => (w.endSpan span, .crashed payload)
  | t => t

/-- Goes on when the handler has ended or the settlement is answered. -/
def resume (receiver : Nat) (mode : AckMode) (s : Processing) (w : World) :
    Turn Processing (Except Failure Unit) :=
  match s with
  | handling d span cue =>
    let w := w.emit (.handled receiver d cue.result)
    match cue.result.failure? with
    | none => succeeded mode d span w
    | some f => failed mode d span f w
  | settling d span none p =>
    closing span ((Settlement.ackAnswered d.tag p w).andThen id (acknowledged span))
  | settling d span (some f) p =>
    closing span ((Settlement.rejectAnswered d.tag (mode == .manual true) p w).andThen id
      (rejected span f))

end Processing

end TopicWorker
