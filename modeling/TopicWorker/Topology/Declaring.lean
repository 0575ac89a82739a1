import TopicWorker.Topology.Subscription
import TopicWorker.World

/-!
# Declaring a topology on the broker

Each declaration is one broker call. A declaration that conflicts with something of the same
name is told apart from every other refusal. A subscription makes three declarations in
order, and its queue is known by the name that the broker answers.

## Main definitions

* `Declaring.exchange`, `Declaring.queue`, `Declaring.binding`: make the call.
* `Declaring.exchangeAnswered`, `Declaring.queueAnswered`, `Declaring.bindingAnswered`: take
  the answer.
* `Subscribing.start`, `Subscribing.resume`: the three in order.
-/

namespace TopicWorker

open Text (quoted)

/-- An entry of the component that declares the topology. -/
def topologyEntry (level : Level) (message : String) (fields : List (String × Field) := []) :
    LogEntry :=
  { level, component := .topology, message, fields }

namespace Declaring

/-- Declares an exchange. -/
def exchange (x : Exchange) (w : World) : World × Pending :=
  (w.log (topologyEntry .debug ("creating exchange: " ++ x.name))).call (.declareExchange x)

/-- Declares a queue. -/
def queue (q : Queue) (w : World) : World × Pending :=
  (w.log (topologyEntry .debug ("creating queue: " ++ quoted q.name))).call (.declareQueue q)

/-- Binds a queue. -/
def binding (b : Binding) (w : World) : World × Pending :=
  (w.log (topologyEntry .debug ("binding queue: " ++ b.queue ++ " to the exchange: " ++ b.exchange
    ++ " with the key: " ++ b.routingKey))).call (.bind b)

/-- Takes the answer to the declaration of an exchange. -/
def exchangeAnswered (x : Exchange) (p : Pending) (w : World) : Turn σ (Except Failure Unit) :=
  p.resolve w (faultEntry .topology "error to declare the exchange" [("name", .text x.name)])
    (fun _ w => (w.log (topologyEntry .debug ("exchange: " ++ x.name ++ " was created")),
      .finished (.ok ())))
    (fun fault w => (w, .finished (.error
      (if fault.isPreconditionFailed then .topologyMismatch x.name
        else .exchangeDeclaration x.name))))

/-- Takes the answer to the declaration of a queue: the queue's name. -/
def queueAnswered (q : Queue) (p : Pending) (w : World) : Turn σ (Except Failure String) :=
  p.resolve w (faultEntry .topology "failure to declare queue" [])
    (fun given w =>
      let name := assignedName q.name given
      (w.log (topologyEntry .debug ("queue: " ++ name ++ " was created")), .finished (.ok name)))
    (fun fault w => (w, .finished (.error
      (if fault.isPreconditionFailed then .topologyMismatch q.name
        else .queueDeclaration q.name))))

/-- Takes the answer to a binding. -/
def bindingAnswered (b : Binding) (p : Pending) (w : World) : Turn σ (Except Failure Unit) :=
  p.resolve w (faultEntry .topology "error to bind queue to exchange" [])
    (fun _ w => (w.log (topologyEntry .debug "queue was bounded"), .finished (.ok ())))
    (fun _ w => (w, .finished (.error (.binding b.exchange b.queue))))

end Declaring

/-- What is told about a subscription that stands. -/
def Subscription.entry (s : Subscription) : LogEntry :=
  topologyEntry .info "subscription declared"
    [("exchange", .text s.exchange), ("queue", .text s.queue), ("pattern", .text s.pattern)]

/-- A subscription being declared. -/
inductive Subscribing where
  | exchange (p : Pending)
  | queue (p : Pending)
  /-- The binding that makes it a subscription has been asked for. -/
  | binding (s : Subscription) (p : Pending)
  deriving DecidableEq, Repr

namespace Subscribing

/-- What the subscription waits for. -/
def wait : Subscribing → Wait
  | exchange p | queue p | binding _ p => p.wait

/-- Declares the exchange. -/
def start (x : Exchange) (w : World) : Turn Subscribing (Except Failure Subscription) :=
  let (w, p) := Declaring.exchange x w
  (w, .waiting (.exchange p))

/-- Goes on when an answer is there; the first failure ends it. -/
def resume (x : Exchange) (pattern : String) (s : Subscribing) (w : World) :
    Turn Subscribing (Except Failure Subscription) :=
  match s with
  | exchange p =>
    (Declaring.exchangeAnswered x p w).andThen id fun
      | .error f, w => (w, .finished (.error f))
      | .ok (), w =>
        let (w, p) := Declaring.queue .anonymous w
        (w, .waiting (.queue p))
  | queue p =>
    (Declaring.queueAnswered .anonymous p w).andThen id fun
      | .error f, w => (w, .finished (.error f))
      | .ok name, w =>
        let s : Subscription := { exchange := x.name, queue := name, pattern }
        let (w, p) := Declaring.binding s.binding w
        (w, .waiting (.binding s p))
  | binding s p =>
    (Declaring.bindingAnswered s.binding p w).andThen id fun
      | .error f, w => (w, .finished (.error f))
      | .ok (), w => (w.log s.entry, .finished (.ok s))

end Subscribing

end TopicWorker
