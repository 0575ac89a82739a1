import TopicWorker.Teardown

/-!
# Listening for signals

A listener turns the first signal that arrives into a request to shut down. The termination
signal may be unavailable; the interrupt has to be available, for without it the listener
asks for a shutdown at once and fails. A shutdown that is requested otherwise ends the
listener well.

A listener that finds several things at once takes the first one that it looks for. Which one that
is, is up to the preference of the world, which may be any and may change at any time: a request may
come before the signals or after them, and so may one signal before the other. This also counts for
a listener that has not run yet. Where the interrupt is unavailable it ends well if it looks for a
request first and there is one, and fails otherwise.

## Main definitions

* `Listening`: a listener that has not ended.
* `Finding`, `Preference.order`: what a listener looks for, and in which order.
* `Listening.resume`: installs the listener, or goes on when something has arrived.
-/

namespace TopicWorker

/-- What a listener may find. -/
inductive Finding where
  | request
  | signal (s : Signal)
  deriving DecidableEq, Repr

/-- The order in which a listener looks. The signals come one after the other. -/
def Preference.order (p : Preference) : List Finding :=
  let signals := if p.interrupt then [.signal .interrupt, .signal .terminate]
    else [.signal .terminate, .signal .interrupt]
  if p.request then .request :: signals else signals ++ [.request]

/-- A listener under way. -/
inductive Listening where
  /-- It has been started and has not run yet. -/
  | fresh
  /-- It listens for the interrupt, and for the termination signal if that is available. -/
  | installed (terminate : Bool)
  deriving DecidableEq, Repr

namespace Listening

/-- What the listener waits for. -/
def wait : Listening → Wait
  | fresh => .turn
  | installed terminate => .signal terminate

/-- A signal has arrived. -/
def received (s : Signal) (w : World) : Turn Listening (Except Failure Unit) :=
  let w := w.log (shutdownEntry .info "termination signal received" [("source", .text s.label)])
  (w.requestShutdown, .finished (.ok ()))

/-- The interrupt cannot be listened for. Nothing else would release a worker that is
blocked, so a shutdown is requested. -/
def unavailable (reason : String) (w : World) : Turn Listening (Except Failure Unit) :=
  let w := w.log (shutdownEntry .error "failure to listen for signals, shutting down"
    [("error", .text reason)])
  (w.requestShutdown, .finished (.error (.signals reason)))

/-- The termination signal cannot be listened for. -/
def terminateEntry (reason : String) : LogEntry :=
  shutdownEntry .warn "failure to listen for SIGTERM, only Ctrl+C stops the consumer"
    [("error", .text reason)]

/-- Looks for the termination signal for the first time, which may turn out to be unavailable. -/
def probe (w : World) : World :=
  match w.signalFaults.terminate with
  | some reason => w.log (terminateEntry reason)
  | none => w

/-- Whether there is something to find. -/
def isThere (terminate : Bool) (w : World) : Finding → Bool
  | .request => w.shutdownRequested
  | .signal .interrupt => w.hasArrived .interrupt
  | .signal .terminate => terminate && w.hasArrived .terminate

/-- Takes the first thing that there is. -/
def look (terminate : Bool) (w : World) : Turn Listening (Except Failure Unit) :=
  match w.preference.order.find? (isThere terminate w) with
  | some .request => (w, .finished (.ok ()))
  | some (.signal s) => received s w
  | none => (w, .waiting (.installed terminate))

/-- Installs the listener, unless it looks for a request first and finds one. One that is not
needed any more has looked for the signals all the same. -/
def install (w : World) : Turn Listening (Except Failure Unit) :=
  if w.preference.request && w.shutdownRequested then (w, .finished (.ok ()))
  else
    let terminate := w.signalFaults.terminate.isNone
    match w.signalFaults.interrupt with
    | some reason =>
      if w.preference.interrupt then unavailable reason w
      else if terminate && w.hasArrived .terminate then received .terminate w
      else unavailable reason (probe w)
    | none =>
      let w := if w.preference.interrupt && w.hasArrived .interrupt then w else probe w
      if w.shutdownRequested then look terminate w else (w, .waiting (.installed terminate))

/-- Goes on when something has arrived. -/
def resume (s : Listening) (w : World) : Turn Listening (Except Failure Unit) :=
  match s with
  | fresh => install w
  | installed terminate => look terminate w

end Listening

end TopicWorker
