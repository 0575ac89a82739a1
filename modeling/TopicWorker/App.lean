import TopicWorker.Teardown
import TopicWorker.Topology.Declaring

/-!
# The application

A worker is put together at startup and taken down in the opposite order: it opens its link,
declares its subscription, registers its consumer, and then blocks until it is asked to shut
down. A failure during startup closes the link, if there is one, and is the result.

## Main definitions

* `App`: how far an application has come.
* `App.start`, `App.resume`: from a configuration to the counters of the run.
-/

namespace TopicWorker

/-- What an application runs with. -/
structure AppSetup where
  config : Config
  kind : HandlerKind
  deriving DecidableEq, Repr

namespace AppSetup

/-- The registration of the application on the queue of its subscription. -/
def registration (a : AppSetup) (link : Nat) (s : Subscription) : Registration :=
  { link, queue := s.queue, mode := a.config.ackMode, prefetch := a.config.prefetch
    kind := a.kind }

end AppSetup

/-- An application under way. -/
inductive App where
  | opening (s : Opening)
  | subscribing (link : Nat) (s : Subscribing)
  | starting (link : Nat) (subscription : Subscription) (s : Starting)
  | running (s : Teardown)
  /-- Startup has failed and the link is being closed. -/
  | abandoning (link : Nat) (failure : Failure) (s : Closing)

namespace App

/-- What the application waits for. -/
def wait : App → Wait
  | opening s => s.wait
  | subscribing _ s => s.wait
  | starting _ _ s => s.wait
  | running s => s.wait
  | abandoning _ _ s => s.wait

/-- Closes the link after a failure of startup, which is the result however closing ends. -/
def abandon (link : Nat) (f : Failure) (w : World) : Turn App (Except Failure Stats) :=
  (Closing.start link w).andThen (.abandoning link f) fun _ w => (w, .finished (.error f))

/-- The consumer is registered, or not. -/
def started (link : Nat) (subscription : Subscription) (result : Except Failure Nat) (w : World) :
    Turn App (Except Failure Stats) :=
  match result with
  | .error f => abandon link f w
  | .ok r =>
    let entry : LogEntry :=
      { level := .info, component := .app
        message := "waiting for messages, press Ctrl+C to exit"
        fields := [("exchange", .text subscription.exchange),
          ("pattern", .text subscription.pattern)] }
    (Teardown.start (.receiver r) (.link link) (w.log entry)).andThen .running fun result w =>
      (w, .finished result)

/-- The subscription is declared, or not. -/
def subscribed (a : AppSetup) (link : Nat) (result : Except Failure Subscription) (w : World) :
    Turn App (Except Failure Stats) :=
  match result with
  | .error f => abandon link f w
  | .ok s =>
    (Starting.start (a.registration link s) w).andThen (.starting link s) (started link s)

/-- The link is open, or not. -/
def opened (a : AppSetup) (result : Except Failure Nat) (w : World) :
    Turn App (Except Failure Stats) :=
  match result with
  | .error f => (w, .finished (.error f))
  | .ok link =>
    (Subscribing.start usersExchange w).andThen (.subscribing link) (subscribed a link)

/-- Starts an application. -/
def start (a : AppSetup) (w : World) : Turn App (Except Failure Stats) :=
  (Opening.start a.config.name a.config.endpoint w).andThen .opening (opened a)

/-- Goes on when what the application waits for is there. -/
def resume (a : AppSetup) (s : App) (w : World) : Turn App (Except Failure Stats) :=
  match s with
  | opening s => (s.resume w).andThen .opening (opened a)
  | subscribing link s =>
    (s.resume usersExchange userEventPattern w).andThen (.subscribing link) (subscribed a link)
  | starting link subscription s =>
    (Starting.resume (a.registration link subscription) s w).andThen
      (.starting link subscription) (started link subscription)
  | running s => (s.resume w).andThen .running fun result w => (w, .finished result)
  | abandoning link f s =>
    (Closing.resume link s w).andThen (.abandoning link f) fun _ w => (w, .finished (.error f))

end App

end TopicWorker
