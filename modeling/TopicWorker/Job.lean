import TopicWorker.App
import TopicWorker.Listening

/-!
# Jobs

A job is one operation of the worker's public interface under way, with the value it is going
to yield. Operations that act on the broker use the channel of one link, and a consumer is
known by its number among those that have been asked for.

## Main definitions

* `Value`, `Outcome`: what a job ends with.
* `Handles`: what earlier jobs have obtained for later ones.
* `Task`, `Task.wait`, `Task.resume`: a job under way.
* `Request`, `Request.start`: what can be asked for.
-/

namespace TopicWorker

/-- What an operation yields. -/
inductive Value where
  | nothing
  /-- A link that has been opened, and whether its connection is up. -/
  | opened (link : Nat) (connected : Bool)
  /-- The statuses of a link. -/
  | status (channel connection : Bool)
  | queue (name : String)
  | subscription (s : Subscription)
  /-- The receiver of a consumer that has been registered. -/
  | consumer (r : Nat)
  | stats (s : Stats)
  /-- The exit code of the program. -/
  | exit (code : Nat)
  deriving DecidableEq, Repr

/-- How a job ends. -/
inductive Outcome where
  | ok (v : Value)
  | failed (f : Failure)
  /-- The job has died; the text is what it has left, if it has left one. -/
  | crashed (text : String)
  /-- What the job acts on is not there. -/
  | unavailable (what : String)
  deriving DecidableEq, Repr

/-- The outcome of a result. -/
def Outcome.ofResult (value : α → Value) : Except Failure α → Outcome
  | .ok a => .ok (value a)
  | .error f => .failed f

/-- What earlier jobs have obtained for later ones. -/
structure Handles where
  /-- The link that broker operations go over: the last that has been opened. -/
  link : Option Nat := none
  /-- The receivers of the consumers that have been asked for, in order. One that an
  application registers for itself is not among them. -/
  consumers : List Nat := []
  deriving DecidableEq, Repr, Inhabited

namespace Handles

/-- The handles after a job has ended. -/
def gain (h : Handles) : Outcome → Handles
  | .ok (.opened l _) => { h with link := some l }
  | .ok (.consumer r) => { h with consumers := h.consumers ++ [r] }
  | _ => h

/-- The number of a consumer that has been asked for. -/
def numberOf (h : Handles) (r : Nat) : Nat := h.consumers.idxOf r

end Handles

/-- The whole program under way. -/
inductive Program where
  /-- The application runs beside the listener, which is a job of its own. -/
  | running (a : AppSetup) (listener : Nat) (s : App)
  /-- The application has ended and the listener is awaited. -/
  | joining (listener : Nat) (result : Except Failure Stats)

/-- A job under way. -/
inductive Task where
  | opening (s : Opening)
  | closing (link : Nat) (s : Closing)
  | declaringExchange (x : Exchange) (p : Pending)
  | declaringQueue (q : Queue) (p : Pending)
  | binding (b : Binding) (p : Pending)
  | subscribing (x : Exchange) (pattern : String) (s : Subscribing)
  | starting (g : Registration) (s : Starting)
  | stopping (r : Nat) (s : Stopping)
  | acknowledging (tag : UInt64) (p : Pending)
  | rejecting (tag : UInt64) (requeue : Bool) (p : Pending)
  | cancelling (tag : String) (p : Pending)
  | teardown (s : Teardown)
  | app (a : AppSetup) (s : App)
  | listening (s : Listening)
  | program (s : Program)

/-- An operation of a world that a job is made of, with its results as outcomes. -/
def Turn.asJob (t : Turn σ (Except Failure α)) (embed : σ → Task) (value : α → Value) :
    Turn Task Outcome :=
  t.andThen embed fun result w => (w, .finished (.ofResult value result))

namespace Task

/-- What a job waits for. -/
def wait : Task → Wait
  | opening s => s.wait
  | closing _ s => s.wait
  | declaringExchange _ p | declaringQueue _ p | binding _ p => p.wait
  | subscribing _ _ s => s.wait
  | starting _ s => s.wait
  | stopping r s => s.wait r
  | acknowledging _ p | rejecting _ _ p | cancelling _ p => p.wait
  | teardown s => s.wait
  | app _ s => s.wait
  | listening s => s.wait
  | program (.running _ _ s) => s.wait
  | program (.joining listener _) => .job listener

/-- The end of the application inside the program: a shutdown is requested, so that the
listener cannot keep the process waiting, and the listener is joined. -/
def appEnded (listener : Nat) (result : Except Failure Stats) (w : World) : Turn Task Outcome :=
  (w.requestShutdown, .waiting (.program (.joining listener result)))

/-- The value of a link that has been opened. -/
def openedIn (w : World) (l : Nat) : Value := .opened l (w.link l).connectionUp

/-- Goes on when what a job waits for is there. -/
def resume (t : Task) (w : World) : Turn Task Outcome :=
  match t with
  | opening s =>
    (s.resume w).andThen .opening fun result w =>
      (w, .finished (.ofResult (openedIn w) result))
  | closing l s => (s.resume l w).asJob (.closing l) fun () => .nothing
  | declaringExchange x p =>
    (Declaring.exchangeAnswered x p w).asJob (.declaringExchange x) fun () => .nothing
  | declaringQueue q p => (Declaring.queueAnswered q p w).asJob (.declaringQueue q) .queue
  | binding b p => (Declaring.bindingAnswered b p w).asJob (.binding b) fun () => .nothing
  | subscribing x pattern s =>
    (s.resume x pattern w).asJob (.subscribing x pattern) .subscription
  | starting g s => (s.resume g w).asJob (.starting g) .consumer
  | stopping r s => (s.resume r w).asJob (.stopping r) .stats
  | acknowledging tag p =>
    (Settlement.ackAnswered tag p w).asJob (.acknowledging tag) fun () => .nothing
  | rejecting tag requeue p =>
    (Settlement.rejectAnswered tag requeue p w).asJob (.rejecting tag requeue) fun () => .nothing
  | cancelling tag p => (Cancelling.answered tag p w).asJob (.cancelling tag) fun () => .nothing
  | teardown s => s.resume w |>.asJob .teardown .stats
  | app a s => (s.resume a w).asJob (.app a) .stats
  | listening s => (s.resume w).asJob .listening fun () => .nothing
  | program (.running a listener s) =>
    (s.resume a w).andThen (fun s => .program (.running a listener s)) (appEnded listener)
  | program (.joining _ _) => (w, .waiting t)

end Task

/-- What can be asked for. -/
inductive Request where
  | opening (name : String) (endpoint : Endpoint)
  | close
  | status
  | declareExchange (x : Exchange)
  | declareQueue (q : Queue)
  | bind (b : Binding)
  | subscribe (x : Exchange) (pattern : String)
  | start (queue : String) (mode : AckMode) (prefetch : Option UInt16) (kind : HandlerKind)
  | stop (consumer : Nat)
  | ack (tag : UInt64)
  | reject (tag : UInt64) (requeue : Bool)
  | cancelConsumer (tag : String)
  /-- Blocks until shutdown, over a consumer and the link, or over given operations in their
  place. -/
  | run (consumer : Nat) (stop : Option (Operation Stats)) (close : Option (Operation Unit))
  | app (lookup : Lookup) (kind : HandlerKind)
  | listen

namespace Request

/-- A job that ends at once. -/
def done (o : Outcome) (w : World) : Turn Task Outcome := (w, .finished o)

/-- A job on the link. -/
def onLink (h : Handles) (w : World) (job : Nat → Turn Task Outcome) :
    Turn Task Outcome :=
  match h.link with
  | some l => job l
  | none => done (.unavailable "no connection") w

/-- A job on the receiver of a consumer. -/
def onConsumer (h : Handles) (consumer : Nat) (w : World) (job : Nat → Turn Task Outcome) :
    Turn Task Outcome :=
  match h.consumers[consumer]? with
  | some r => job r
  | none => done (.unavailable "no consumer") w

/-- A job whose first call has been made. -/
def calling (t : World × Pending) (task : Pending → Task) : Turn Task Outcome :=
  (t.1, .waiting (task t.2))

/-- Starts an application from variables; one that cannot be configured fails at once. -/
def startApp (lookup : Lookup) (kind : HandlerKind) (w : World) : Turn Task Outcome :=
  match Config.load lookup with
  | .error problem => done (.failed problem.failure) (w.log problem.entry)
  | .ok config =>
    let a : AppSetup := { config, kind }
    (App.start a w).asJob (.app a) .stats

/-- Starts what is asked for, on what earlier jobs have obtained. -/
def begin (q : Request) (h : Handles) (w : World) : Turn Task Outcome :=
  match q with
  | opening name endpoint =>
    (Opening.start name endpoint w).andThen .opening fun result w =>
      (w, .finished (.ofResult (Task.openedIn w) result))
  | close => onLink h w fun l => (Closing.start l w).asJob (.closing l) fun () => .nothing
  | status =>
    let link := (h.link.map w.link).getD {}
    done (.ok (.status link.channelUp link.connectionUp)) w
  | declareExchange x =>
    onLink h w fun _ => calling (Declaring.exchange x w) (.declaringExchange x)
  | declareQueue q => onLink h w fun _ => calling (Declaring.queue q w) (.declaringQueue q)
  | bind b => onLink h w fun _ => calling (Declaring.binding b w) (.binding b)
  | subscribe x pattern =>
    onLink h w fun _ =>
      (Subscribing.start x w).asJob (.subscribing x pattern) .subscription
  | start queue mode prefetch kind =>
    onLink h w fun link =>
      let g : Registration := { link, queue, mode, prefetch, kind }
      (Starting.start g w).asJob (.starting g) .consumer
  | stop consumer =>
    onConsumer h consumer w fun r => (Stopping.start r w).asJob (.stopping r) .stats
  | ack tag => onLink h w fun _ => calling (Settlement.ack tag w) (.acknowledging tag)
  | reject tag requeue =>
    onLink h w fun _ => calling (Settlement.reject tag requeue w) (.rejecting tag requeue)
  | cancelConsumer tag =>
    onLink h w fun l =>
      match Cancelling.start l tag w with
      | (w, some p) => (w, .waiting (.cancelling tag p))
      | (w, none) => done (.ok .nothing) w
  | run consumer given givenClose =>
    let teardown (stopper : Stopper) (closer : Closer) : Turn Task Outcome :=
      (Teardown.start stopper closer w).asJob .teardown .stats
    let closing (stopper : Stopper) : Turn Task Outcome :=
      match givenClose with
      | some op => teardown stopper (.given op)
      | none => onLink h w fun l => teardown stopper (.link l)
    match given with
    | some op => closing (.given op)
    | none => onConsumer h consumer w fun r => closing (.receiver r)
  | app lookup kind => startApp lookup kind w
  | listen => ({ w with nextTask := w.nextTask + 1 }, .waiting (.listening .fresh))

end Request

end TopicWorker
