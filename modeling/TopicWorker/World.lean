import TopicWorker.Broker.Call
import TopicWorker.Delivery
import TopicWorker.Tracing

/-!
# The world of a worker

Everything that the activities of a worker share: the broker with the replies it is going to
give, the links to it, the receivers with their feeds, the shutdown request and the published
lifecycle, and the trace of all that has happened. A world is plain data. Activities change
it only through the operations below, between two moments at which they wait.

A worker runs until a shutdown is requested, then drains what is in flight, then closes. The two
signals that request a shutdown are listened for one by one: either of them may be unavailable.

## Main definitions

* `Lifecycle`: the four stages, in order.
* `Signal`, `SignalFaults`: the signals, and which of them cannot be listened for.
* `Preference`: what a listener looks for first, where it may find several things.
* `Event`: what can happen.
* `Link`, `Receiver`, `Observer`: the parts of a world.
* `World`: the whole, with `World.emit`, `World.log`, `World.call` and the updates.
* `Wait`, `World.ready`: what an activity may wait for, and when it may go on.
-/

namespace TopicWorker

/-! ## The lifecycle and the signals -/

/-- The stage a worker is in. -/
inductive Lifecycle where
  | running | shutdownRequested | draining | closed
  deriving DecidableEq, Repr, Inhabited

namespace Lifecycle

/-- The printed name. -/
def label : Lifecycle → String
  | running => "Running"
  | shutdownRequested => "ShutdownRequested"
  | draining => "Draining"
  | closed => "Closed"

/-- The place of a stage in the order of a shutdown. -/
def rank : Lifecycle → Nat
  | running => 0
  | shutdownRequested => 1
  | draining => 2
  | closed => 3

end Lifecycle

/-- A signal that asks the process to end. -/
inductive Signal where
  | interrupt | terminate
  deriving DecidableEq, Repr

/-- The name of a signal, which is also the gate that stands for its arrival. -/
def Signal.label : Signal → String
  | interrupt => "SIGINT"
  | terminate => "SIGTERM"

/-- For each signal, why it cannot be listened for, if it cannot. -/
structure SignalFaults where
  interrupt : Option String := none
  terminate : Option String := none
  deriving DecidableEq, Repr, Inhabited

/-- What a listener looks for first. Nobody decides that: it may be another thing each time. -/
structure Preference where
  /-- Whether it looks for a request to shut down before it looks for signals. -/
  request : Bool := true
  /-- Whether it looks for the interrupt before it looks for the termination signal. -/
  interrupt : Bool := true
  deriving DecidableEq, Repr, Inhabited

/-! ## Events -/

/-- Counters of a receive loop. -/
structure Stats where
  /-- Deliveries handed to the handler. -/
  dispatched : Nat := 0
  /-- Deliveries whose handler failed, or whose acknowledgement did. -/
  failed : Nat := 0
  /-- Whether the feed ended before a stop was asked for. -/
  connectionLost : Bool := false
  deriving DecidableEq, Repr, Inhabited

/-- What a consumer's feed holds: a delivery with the cue for its handler, or a fault. -/
inductive Item where
  | delivery (d : Delivery) (cue : Cue)
  | fault (f : Fault)
  deriving DecidableEq, Repr

/-- What can happen in a world. -/
inductive Event where
  /-- An entry was written to the journal. -/
  | logged (e : LogEntry)
  /-- A broker call was made. -/
  | called (c : Call)
  /-- A broker call was answered. -/
  | answered (c : Call) (a : Answer)
  /-- A receiver took an item from its feed. -/
  | pulled (receiver : Nat) (item : Item)
  /-- A receiver found its feed at an end. -/
  | feedEnded (receiver : Nat)
  /-- A delivery was handed to the handler of a receiver. -/
  | dispatched (receiver : Nat) (kind : HandlerKind) (d : Delivery) (context : TraceContext)
  /-- The handler of a delivery ended. -/
  | handled (receiver : Nat) (d : Delivery) (result : HandlerResult)
  /-- The context of a delivery was read from its headers. -/
  | extracted (e : Extraction)
  /-- Something happened to a span. -/
  | span (n : Nat) (r : SpanRecord)
  /-- A stage of the lifecycle was published. -/
  | published (s : Lifecycle)
  /-- A given stop operation was called. -/
  | stopCalled (s : Lifecycle)
  /-- A given close operation was called. -/
  | closeCalled (s : Lifecycle)
  deriving DecidableEq, Repr

/-- The stage that an event publishes. -/
def Event.stage? : Event → Option Lifecycle
  | .published s => some s
  | _ => none

/-- A connection and its one channel. The two statuses are the broker's, the flag is the
worker's. -/
structure Link where
  channelUp : Bool := false
  connectionUp : Bool := false
  /-- Whether closing has been asked for. -/
  closed : Bool := false
  deriving DecidableEq, Repr, Inhabited

/-- A delivery under way. -/
inductive Processing where
  /-- Its handler has been called. -/
  | handling (d : Delivery) (span : Nat) (cue : Cue)
  /-- Its handler has ended, with a failure or without, and the settlement has been sent. -/
  | settling (d : Delivery) (span : Nat) (failure : Option Failure) (pending : Pending)
  deriving DecidableEq, Repr

/-- Where a receive loop is. -/
inductive Loop where
  /-- It waits for the next item. -/
  | receiving
  /-- It waits for a delivery to be processed. -/
  | processing (p : Processing)
  /-- It has ended. -/
  | ended
  /-- It has died, with a text or with something else. -/
  | crashed (payload : Option String)
  deriving DecidableEq, Repr

namespace Loop

/-- Whether nothing more happens in the loop. -/
def isOver : Loop → Bool
  | receiving | processing _ => false
  | ended | crashed _ => true

end Loop

/-- A consumer registration and its receive loop. -/
structure Receiver where
  tag : String := ""
  /-- The link whose channel carries the registration. -/
  link : Nat := 0
  mode : AckMode := .auto
  kind : HandlerKind := .cued
  /-- The items that have arrived and have not been taken. -/
  feed : List Item := []
  /-- Whether nothing more arrives. -/
  feedClosed : Bool := false
  /-- Whether the loop has been told to stop. -/
  cancelled : Bool := false
  loop : Loop := .ended
  stats : Stats := {}
  /-- Whether nobody has taken charge of the loop's end. -/
  joinable : Bool := false
  /-- The number of the loop's task. -/
  task : Nat := 0
  deriving DecidableEq, Repr, Inhabited

/-- Somebody who watches the lifecycle, and sees the latest stage whenever it is his turn. -/
structure Observer where
  /-- How many stages had been published when he looked last, or began to watch. -/
  version : Nat := 0
  seen : List Lifecycle := []
  deriving DecidableEq, Repr, Inhabited

/-- The shared state of all activities. -/
structure World where
  /-- The replies that the broker is going to give. -/
  script : Script := []
  /-- The gates that are open. -/
  gates : List String := []
  signalFaults : SignalFaults := {}
  preference : Preference := {}
  /-- The names that the propagator asks for, where one is installed. -/
  propagation : Option (List String) := none
  links : List Link := []
  receivers : List Receiver := []
  /-- Whether a shutdown has been requested. -/
  shutdownRequested : Bool := false
  lifecycle : Lifecycle := .running
  observers : List Observer := []
  /-- The number of registrations asked for. -/
  registrations : Nat := 0
  /-- The number of spans opened. -/
  spans : Nat := 0
  /-- The number of the next task. -/
  nextTask : Nat := 1
  trace : List Event := []
  deriving DecidableEq, Repr, Inhabited

/-- What an activity may wait for. -/
inductive Wait where
  /-- A gate, or nothing. -/
  | gate (name : Option String)
  /-- The request to shut down. -/
  | shutdown
  /-- Its turn, once everything else that can run has run. -/
  | turn
  /-- An item for a receiver, the end of its feed, or its cancellation. -/
  | items (receiver : Nat)
  /-- The end of a receive loop. -/
  | loopEnd (receiver : Nat)
  /-- The request to shut down, or one of the signals that are listened for. -/
  | signal (terminate : Bool)
  /-- A change of the lifecycle that an observer has not seen. -/
  | change (observer : Nat)
  /-- The end of a job. -/
  | job (n : Nat)
  deriving DecidableEq, Repr

namespace World

/-- The link with a number. -/
def link (w : World) (l : Nat) : Link := w.links[l]?.getD default

/-- The receiver with a number. -/
def receiver (w : World) (r : Nat) : Receiver := w.receivers[r]?.getD default

/-- The observer with a number. -/
def observer (w : World) (i : Nat) : Observer := w.observers[i]?.getD default

/-- The world with one more event at the end of its trace. -/
def emit (w : World) (e : Event) : World := { w with trace := w.trace ++ [e] }

/-- The world with one more entry in its journal. -/
def log (w : World) (e : LogEntry) : World := w.emit (.logged e)

/-- Makes a broker call; the reply that is coming is the next one of the script. -/
def call (w : World) (c : Call) : World × Pending :=
  ({ w.emit (.called c) with script := w.script.advance c.method }, ⟨c, w.script.next c.method⟩)

/-- Changes a link. -/
def modifyLink (w : World) (l : Nat) (f : Link → Link) : World :=
  { w with links := w.links.modify l f }

/-- Changes a receiver. -/
def modifyReceiver (w : World) (r : Nat) (f : Receiver → Receiver) : World :=
  { w with receivers := w.receivers.modify r f }

/-- Requests a shutdown; a request is never taken back. -/
def requestShutdown (w : World) : World := { w with shutdownRequested := true }

/-- Opens a gate; it stays open. -/
def openGate (w : World) (name : String) : World := { w with gates := name :: w.gates }

/-- Puts an item into a receiver's feed. Nothing arrives in a feed that has ended. -/
def deliver (w : World) (r : Nat) (item : Item) : World :=
  w.modifyReceiver r fun v => if v.feedClosed then v else { v with feed := v.feed ++ [item] }

/-- Ends a receiver's feed after what it holds. -/
def endFeed (w : World) (r : Nat) : World :=
  w.modifyReceiver r fun v => { v with feedClosed := true }

/-- Publishes a stage of the lifecycle. -/
def publish (w : World) (s : Lifecycle) : World :=
  { w.emit (.published s) with lifecycle := s }

/-- How many stages have been published. -/
def version (w : World) : Nat := (w.trace.filterMap Event.stage?).length

/-- Somebody begins to watch; the stage that is current is no news to him. -/
def subscribe (w : World) : World :=
  { w with observers := w.observers ++ [{ version := w.version }] }

/-- Whether a stage has been published that an observer has not seen. -/
def isBehind (w : World) (i : Nat) : Bool := (w.observer i).version != w.version

/-- An observer reads the stage that is current at his turn; those before it are lost to him. -/
def observe (w : World) (i : Nat) : World :=
  { w with observers := w.observers.modify i fun o =>
      { version := w.version, seen := o.seen ++ [w.lifecycle] } }

/-- Whether a gate is open; no gate is always open. -/
def isOpen (w : World) : Option String → Bool
  | none => true
  | some g => w.gates.contains g

/-- Whether a signal has arrived. -/
def hasArrived (w : World) (s : Signal) : Bool := w.gates.contains s.label

/-- Whether somebody who waits may go on. Jobs are not part of the world. -/
def ready (w : World) : Wait → Bool
  | .gate g => w.isOpen g
  | .shutdown => w.shutdownRequested
  | .turn => true
  | .items r =>
    let v := w.receiver r
    v.cancelled || !v.feed.isEmpty || v.feedClosed
  | .loopEnd r => (w.receiver r).loop.isOver
  | .signal terminate =>
    w.shutdownRequested || w.hasArrived .interrupt || (terminate && w.hasArrived .terminate)
  | .change i => w.isBehind i
  | .job _ => false

@[simp] theorem trace_emit (w : World) (e : Event) : (w.emit e).trace = w.trace ++ [e] := rfl

@[simp] theorem trace_log (w : World) (e : LogEntry) :
    (w.log e).trace = w.trace ++ [.logged e] := rfl

@[simp] theorem trace_call (w : World) (c : Call) :
    (w.call c).1.trace = w.trace ++ [.called c] := rfl

@[simp] theorem trace_requestShutdown (w : World) : w.requestShutdown.trace = w.trace := rfl

@[simp] theorem trace_modifyLink (w : World) (l : Nat) (f : Link → Link) :
    (w.modifyLink l f).trace = w.trace := rfl

@[simp] theorem trace_modifyReceiver (w : World) (r : Nat) (f : Receiver → Receiver) :
    (w.modifyReceiver r f).trace = w.trace := rfl

end World

/-- How far an operation has come: it waits at a stage, it has a result, or it has died, with a
text or with something else. -/
inductive Progress (σ ρ : Type) where
  | waiting (stage : σ)
  | finished (result : ρ)
  | crashed (payload : Option String)
  deriving DecidableEq, Repr

/-- What an operation leaves behind when it stops running: the world, and how far it has
come. -/
abbrev Turn (σ ρ : Type) := World × Progress σ ρ

/-! ## Turns -/

namespace Turn

/-- Goes on with a further operation once a result is there. -/
def andThen (t : Turn σ ρ) (embed : σ → τ) (next : ρ → World → Turn τ ρ') : Turn τ ρ' :=
  match t with
  | (w, .waiting s) => (w, .waiting (embed s))
  | (w, .finished r) => next r w
  | (w, .crashed payload) => (w, .crashed payload)

end Turn

namespace Pending

/-- When the answer is there. -/
def wait (p : Pending) : Wait := .gate p.reply.gate

/-- Takes the answer of a call. A fault is told with the entry `report` gives it, before
anything else is done about it; a crash takes the caller along. -/
def resolve (p : Pending) (w : World) (report : Fault → LogEntry)
    (onDone : Option String → World → Turn σ ρ) (onFault : Fault → World → Turn σ ρ) :
    Turn σ ρ :=
  let w := w.emit (.answered p.call p.reply.answer)
  match p.reply.answer with
  | .done name => onDone name w
  | .refused fault => onFault fault (w.log (report fault))
  | .crashed payload => (w, .crashed payload)

end Pending

/-- The entry about a failed broker call: an error with the fault's text, and what else is
known. -/
def faultEntry (component : Component) (message : String) (more : List (String × Field))
    (fault : Fault) : LogEntry :=
  { level := .error, component, message, fields := ("error", .text fault.message) :: more }

end TopicWorker
