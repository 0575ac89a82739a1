import TopicWorker.Job

/-!
# Systems

A system is a world with the jobs that act in it. Its actors are the jobs, the receive loops
and the observers; a step lets one actor go on from one moment at which it waits to the next.
Nobody else acts in between: actors take turns only where they wait, so that what one of them does
from one wait to the next is undisturbed. Where a statement says that something does not happen any
more after something else, this is what it rests on.

Nothing else changes a system from inside. What changes it from outside is an item that
arrives, a gate that opens, a request, and the like. It comes between two steps, and so does a
change of what listeners look for first, which is how it is left open what they find where there is
more than one thing. A list of all this is a history, and a statement about all histories is a
statement about all interleavings.

## Main definitions

* `System`, `Actor`: the parts.
* `System.waitOf`, `System.isRunnable`: what an actor waits for, and whether it may go on.
* `System.step`: one actor goes on.
* `System.begin`, `System.launch`: a new job, and the whole program as two jobs.
* `Move`, `System.move`, `System.after`: histories.
-/

namespace TopicWorker

/-- A world with its jobs. -/
structure System where
  world : World := {}
  jobs : List (Progress Task Outcome) := []
  handles : Handles := {}

/-- Somebody who acts in a system. -/
inductive Actor where
  | job (n : Nat)
  | receiver (r : Nat)
  | observer (i : Nat)
  deriving DecidableEq, Repr

/-- An entry of the program itself. -/
def programEntry (level : Level) (message : String) (fields : List (String × Field) := []) :
    LogEntry :=
  { level, component := .program, message, fields }

namespace Program

/-- What came of the listener. -/
def listened : Outcome → World → Except Failure Unit × World
  | .ok _, w => (.ok (), w)
  | .failed f, w => (.error f, w)
  | .crashed text, w | .unavailable text, w =>
    (.error .internal, w.log (programEntry .error "tokio process error" [("error", .text text)]))

/-- The end of the program: the application's failure comes before the listener's. -/
def conclude (result : Except Failure Stats) (listener : Outcome) (w : World) :
    Turn Task Outcome :=
  let (listened, w) := listened listener w
  match Teardown.outcome result listened with
  | .ok stats =>
    (w.log (programEntry .info "goodbye"
      [("dispatched", .number stats.dispatched), ("failed", .number stats.failed)]),
      .finished (.ok (.exit 0)))
  | .error f =>
    (w.log (programEntry .error "consumer terminated with error" [("error", .text f.message)]),
      .finished (.ok (.exit 1)))

end Program

namespace System

/-- The outcome of a job that is over. -/
def outcome? (s : System) (n : Nat) : Option Outcome :=
  match s.jobs[n]? with
  | some (.finished o) => some o
  | some (.crashed payload) => some (.crashed (payload.getD ""))
  | _ => none

/-- Whether what is waited for is there. -/
def ready (s : System) : Wait → Bool
  | .job n => (s.outcome? n).isSome
  | wait => s.world.ready wait

/-- What an actor waits for, unless it is over. -/
def waitOf (s : System) : Actor → Option Wait
  | .job n =>
    match s.jobs[n]? with
    | some (.waiting t) => some t.wait
    | _ => none
  | .receiver r => (s.world.receiver r).wait? r
  | .observer i => if i < s.world.observers.length then some (.change i) else none

/-- Whether an actor may go on. -/
def isRunnable (s : System) (a : Actor) : Bool := (s.waitOf a).any s.ready

/-- Takes in how far a job has come, and what it has obtained. -/
def settleJob (s : System) (n : Nat) (t : Turn Task Outcome) : System :=
  { world := t.1
    jobs := s.jobs.set n t.2
    handles := match t.2 with
      | .finished o => s.handles.gain o
      | _ => s.handles }

/-- A job goes on. -/
def stepJob (s : System) (n : Nat) : Task → System
  | .program (.joining listener result) =>
    match s.outcome? listener with
    | some o => s.settleJob n (Program.conclude result o s.world)
    | none => s
  | t => s.settleJob n (t.resume s.world)

/-- An actor goes on; one that is over does nothing. -/
def step (s : System) : Actor → System
  | .job n =>
    match s.jobs[n]? with
    | some (.waiting t) => s.stepJob n t
    | _ => s
  | .receiver r => { s with world := s.world.runReceiver r }
  | .observer i => { s with world := s.world.observe i }

/-- Adds a job that has come so far. -/
def addJob (s : System) (t : Turn Task Outcome) : System :=
  let n := s.jobs.length
  { s with jobs := s.jobs ++ [t.2] }.settleJob n t

/-- Starts what is asked for, as a new job. -/
def begin (s : System) (q : Request) : System := s.addJob (q.begin s.handles s.world)

/-- Starts the whole program on its environment. The program is the first job; where its
configuration can be loaded, a listener for signals is the second. -/
def launch (s : System) (env : Environment) : System :=
  let w := s.world.log (programEntry .info "starting topic consumer...")
  match Config.load env.lookup with
  | .error problem =>
    let w := w.log problem.entry
    let w := w.log (programEntry .error "invalid configuration"
      [("error", .text problem.failure.message)])
    s.addJob (w, .finished (.ok (.exit 1)))
  | .ok config =>
    let w := w.log (programEntry .info "configuration loaded"
      [("name", .text config.name), ("endpoint", .plain config.endpoint.shape)])
    let listener := s.jobs.length + 1
    let a : AppSetup := { config, kind := .logging }
    let w := { w with nextTask := w.nextTask + 1 }
    let s := s.addJob ((App.start a w).andThen
      (fun t => .program (.running a listener t)) (Task.appEnded listener))
    { s with jobs := s.jobs ++ [.waiting (.listening .fresh)] }

/-- An actor goes on, if it may. -/
def act (s : System) (a : Actor) : System := if s.isRunnable a then s.step a else s

/-- Changes the world from outside. -/
def disturb (s : System) (f : World → World) : System := { s with world := f s.world }

end System

/-! ## Histories -/

/-- One thing that happens in a system or to it. -/
inductive Move where
  /-- An actor goes on, if it may. -/
  | act (a : Actor)
  /-- Somebody asks for an operation. -/
  | begin (q : Request)
  /-- The whole program is started on its environment. -/
  | launch (env : Environment)
  /-- An item arrives in the feed of a receiver. -/
  | deliver (r : Nat) (item : Item)
  /-- A feed ends after what it holds. -/
  | endFeed (r : Nat)
  /-- The broker changes the statuses of a link. -/
  | setStatus (link : Nat) (channel connection : Bool)
  /-- A shutdown is requested. -/
  | shutdown
  /-- Somebody begins to watch the lifecycle. -/
  | subscribe
  /-- A gate is opened: an answer, the end of a handler or a signal arrives. -/
  | openGate (name : String)
  /-- The broker learns further replies. -/
  | learn (script : Script)
  /-- It changes what listeners look for first. -/
  | prefer (p : Preference)

namespace System

/-- The system after a move. -/
def move (s : System) : Move → System
  | .act a => s.act a
  | .begin q => s.begin q
  | .launch env => s.launch env
  | .deliver r item => s.disturb fun w => w.deliver r item
  | .endFeed r => s.disturb fun w => w.endFeed r
  | .setStatus l channel connection => s.disturb fun w =>
    w.modifyLink l fun v => { v with channelUp := channel, connectionUp := connection }
  | .shutdown => s.disturb World.requestShutdown
  | .subscribe => s.disturb World.subscribe
  | .openGate name => s.disturb fun w => w.openGate name
  | .learn script => s.disturb fun w => { w with script := w.script ++ script }
  | .prefer p => s.disturb fun w => { w with preference := p }

/-- The system after a history. Every interleaving of the actors with what comes from outside
is one. -/
def after (s : System) (history : List Move) : System := history.foldl move s

@[simp] theorem after_nil (s : System) : s.after [] = s := rfl

@[simp] theorem after_cons (s : System) (m : Move) (history : List Move) :
    s.after (m :: history) = (s.move m).after history := rfl

/-- Histories compose. -/
@[simp] theorem after_append (s : System) (h h' : List Move) :
    s.after (h ++ h') = (s.after h).after h' := by
  simp [after, List.foldl_append]

end System

end TopicWorker
