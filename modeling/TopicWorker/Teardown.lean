import TopicWorker.Linking
import TopicWorker.Receiving

/-!
# Teardown

A worker blocks until a shutdown is requested and is then taken down in order: what receives
is stopped and drained, and after that what holds the connection is closed, also when
stopping has failed. Progress is published stage by stage, and observers get their turn
before the teardown begins.

What is stopped and what is closed may be a receiver and a link, or operations given from
outside.

## Main definitions

* `Operation`: an operation given from outside.
* `Stopper`, `Closer`: what is stopped, what is closed.
* `Teardown.start`, `Teardown.resume`: the whole, from blocking to the counters.
-/

namespace TopicWorker

/-- An entry of the component that shuts down. -/
def shutdownEntry (level : Level) (message : String) (fields : List (String × Field) := []) :
    LogEntry :=
  { level, component := .shutdown, message, fields }

/-- How an operation given from outside ends. -/
inductive Ending (α : Type) where
  | returned (result : Except Failure α)
  | crashed (payload : Option String)

/-- An operation given from outside: it may wait for a gate, and then it ends. -/
structure Operation (α : Type) where
  gate : Option String := none
  ending : Ending α

/-- What stops receiving work and waits for work in flight. -/
inductive Stopper where
  | receiver (r : Nat)
  | given (op : Operation Stats)

/-- What releases the connection. -/
inductive Closer where
  | link (l : Nat)
  | given (op : Operation Unit)

/-- A teardown under way. -/
inductive Teardown where
  /-- No shutdown has been requested. -/
  | blocked (stopper : Stopper) (closer : Closer)
  /-- The request is published and observers have their turn. -/
  | yielding (stopper : Stopper) (closer : Closer)
  /-- A receiver is being stopped. -/
  | stopping (r : Nat) (closer : Closer) (s : Stopping)
  /-- A given stop operation is under way. -/
  | stoppingGiven (op : Operation Stats) (closer : Closer)
  /-- A link is being closed; stopping has ended before. -/
  | closing (l : Nat) (stopped : Except Failure Stats) (s : Closing)
  /-- A given close operation is under way; stopping has ended before. -/
  | closingGiven (op : Operation Unit) (stopped : Except Failure Stats)

namespace World

/-- Publishes the next stage and tells about it. -/
def transition (w : World) (next : Lifecycle) : World :=
  let entry := shutdownEntry .info
    ("shutdown state: " ++ w.lifecycle.label ++ " -> " ++ next.label)
  (w.publish next).log entry

end World

namespace Ending

/-- Goes on with what a given operation returned; one that crashed takes its caller along. -/
def andThen (e : Ending α) (w : World) (next : Except Failure α → World → Turn σ ρ) : Turn σ ρ :=
  match e with
  | returned result => next result w
  | crashed payload => (w, .crashed payload)

end Ending

namespace Teardown

/-- What the teardown waits for. -/
def wait : Teardown → Wait
  | blocked _ _ => .shutdown
  | yielding _ _ => .turn
  | stopping r _ s => s.wait r
  | stoppingGiven op _ => .gate op.gate
  | closing _ _ s => s.wait
  | closingGiven op _ => .gate op.gate

/-- Blocks until a shutdown is requested. -/
def start (stopper : Stopper) (closer : Closer) (w : World) :
    Turn Teardown (Except Failure Stats) :=
  (w, .waiting (.blocked stopper closer))

/-- What the two results amount to: the first failure, else the counters. -/
def outcome : Except Failure Stats → Except Failure Unit → Except Failure Stats
  | .error f, _ => .error f
  | .ok _, .error f => .error f
  | .ok stats, .ok () => .ok stats

/-- Closing has ended. -/
def closed (stopped : Except Failure Stats) (result : Except Failure Unit) (w : World) :
    Turn Teardown (Except Failure Stats) :=
  let w := w.transition .closed
  match outcome stopped result with
  | .error f => (w, .finished (.error f))
  | .ok stats =>
    (w.log (shutdownEntry .info "consumer shut down"
      [("dispatched", .number stats.dispatched), ("failed", .number stats.failed)]),
      .finished (.ok stats))

/-- Stopping has ended; closing follows whatever came of it. -/
def stopped (closer : Closer) (result : Except Failure Stats) (w : World) :
    Turn Teardown (Except Failure Stats) :=
  let w := match result with
    | .ok _ => w
    | .error f =>
      w.log (shutdownEntry .error "failure to stop the consumer" [("error", .text f.message)])
  match closer with
  | .link l => (Closing.start l w).andThen (.closing l result) (closed result)
  | .given op => (w.emit (.closeCalled w.lifecycle), .waiting (.closingGiven op result))

/-- Begins to stop. -/
def drain (stopper : Stopper) (closer : Closer) (w : World) :
    Turn Teardown (Except Failure Stats) :=
  match stopper with
  | .receiver r => (Stopping.start r w).andThen (.stopping r closer) (stopped closer)
  | .given op => (w.emit (.stopCalled w.lifecycle), .waiting (.stoppingGiven op closer))

/-- Goes on when what the teardown waits for is there. -/
def resume (s : Teardown) (w : World) : Turn Teardown (Except Failure Stats) :=
  match s with
  | blocked stopper closer =>
    (w.transition .shutdownRequested, .waiting (.yielding stopper closer))
  | yielding stopper closer => drain stopper closer (w.transition .draining)
  | stopping r closer s => (Stopping.resume r s w).andThen (.stopping r closer) (stopped closer)
  | stoppingGiven op closer => op.ending.andThen w (stopped closer)
  | closing l result s => (Closing.resume l s w).andThen (.closing l result) (closed result)
  | closingGiven op result => op.ending.andThen w (closed result)

end Teardown

end TopicWorker
