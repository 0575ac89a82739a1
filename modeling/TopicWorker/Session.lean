import TopicWorker.Schedule

/-!
# Sessions

A session is a worker played through step by step: operations are asked for, items arrive,
gates open, statuses change. After each step everybody runs until everybody waits, and a
report says what has happened in it. A batch does several things before anybody else runs.

## Main definitions

* `Setup`: what a session begins with.
* `Action`, `Session.Step`: what can be done.
* `Report`: what is known after a step.
* `Session.play`: the reports of a list of steps.
-/

namespace TopicWorker

/-- What a session begins with. -/
structure Setup where
  /-- Whether a link is open from the start. -/
  connected : Bool := false
  script : Script := []
  signalFaults : SignalFaults := {}
  propagation : Option (List String) := none
  /-- Whether the observer is a task of its own. -/
  observed : Bool := false
  /-- The number of the first task. -/
  firstTask : Nat := 1

/-- The system that a session begins with. One observer watches from the start. -/
def Setup.system (s : Setup) : System :=
  { world :=
      { script := s.script, signalFaults := s.signalFaults, propagation := s.propagation
        links := if s.connected then [{ channelUp := true, connectionUp := true }] else []
        observers := [{}]
        nextTask := s.firstTask + (if s.observed then 1 else 0) }
    handles := { link := if s.connected then some 0 else none } }

/-- What can be done in a session. -/
inductive Action where
  | request (q : Request)
  /-- A delivery arrives for a consumer, with a cue for its handler. -/
  | deliver (consumer : Nat) (d : Delivery) (cue : Cue)
  /-- The broker changes the statuses of the link. -/
  | setStatus (channel connection : Bool)
  /-- Anything else that comes from outside. -/
  | move (m : Move)

/-- A session under way. -/
structure Session where
  schedule : Schedule
  /-- For each job, the number of the step that asked for it. -/
  owners : List Nat := []
  /-- The cues that have been given, each for the handler of a consumer. -/
  cues : List (Nat × Cue) := []
  /-- The consumers whose feeds deliveries have gone into. -/
  fed : List Nat := []

/-- What is known after a step. -/
structure Report where
  /-- The jobs that have ended in it, each with the step that asked for it. -/
  done : List (Nat × Outcome)
  /-- The steps whose jobs are still under way. -/
  pending : List Nat
  /-- What has happened in it. -/
  events : List Event
  state : Lifecycle
  /-- The stages that the first observer has seen in it. -/
  observed : List Lifecycle

namespace Session

/-- A step: one action, or several before anybody else runs. -/
abbrev Step := List Action

/-- A session that begins. -/
def ofSetup (s : Setup) : Session :=
  { schedule := { system := s.system, parked := [.observer 0] } }

/-- The world of a session. -/
def world (s : Session) : World := s.schedule.system.world

/-- Something comes from outside. -/
def move (s : Session) (m : Move) : Session := { s with schedule := s.schedule.move m }

/-- The handler of a consumer follows the cues given for it in order: its n-th call the n-th
cue. Deliveries that come before their consumer is registered are lost, their cues are not. -/
def deliver (s : Session) (consumer : Nat) (d : Delivery) (cue : Cue) : Session :=
  let s := { s with cues := s.cues ++ [(consumer, cue)] }
  if consumer < s.world.receivers.length then
    let mine := (s.cues.filter fun (c, _) => c == consumer).map (·.2)
    let cue := mine[s.fed.count consumer]?.getD cue
    { s with fed := consumer :: s.fed }.move (.deliver consumer (.delivery d cue))
  else s

/-- Does one thing in the step with a number. -/
def act (s : Session) (step : Nat) : Action → Session
  | .request q => { s with schedule := s.schedule.begin q, owners := s.owners ++ [step] }
  | .deliver consumer d cue => s.deliver consumer d cue
  | .setStatus channel connection =>
    match s.schedule.system.handles.link with
    | some l => s.move (.setStatus l channel connection)
    | none => s
  | .move m => s.move m

/-- Does what a step says and runs everybody until everybody waits. -/
def perform (s : Session) (step : Nat) (actions : Step) : Session :=
  let s := actions.foldl (fun s a => s.act step a) s
  { s with schedule := s.schedule.settle }

/-- The jobs that are over, by number. -/
def isOver (s : Session) (n : Nat) : Bool := (s.schedule.system.outcome? n).isSome

/-- An outcome as it is told: a consumer goes by its number. -/
def told (s : Session) : Outcome → Outcome
  | .ok (.consumer r) => .ok (.consumer (s.schedule.system.handles.numberOf r))
  | o => o

/-- What a step has brought, given the session before it. -/
def report (before after : Session) : Report :=
  let jobs := after.owners.zipIdx
  { done := jobs.filterMap fun (step, n) =>
      if before.isOver n then none
      else (after.schedule.system.outcome? n).map fun o => (step, after.told o)
    pending := jobs.filterMap fun (step, n) => if after.isOver n then none else some step
    events := after.world.trace.drop before.world.trace.length
    state := after.world.lifecycle
    observed := (after.world.observer 0).seen.drop (before.world.observer 0).seen.length }

/-- The reports of a list of steps, of which the first has a given number. -/
def playFrom (number : Nat) (s : Session) : List Step → List Report
  | [] => []
  | step :: rest =>
    let after := s.perform number step
    report s after :: playFrom (number + 1) after rest

/-- The session after a list of steps, of which the first has a given number. -/
def after (number : Nat) (s : Session) : List Step → Session
  | [] => s
  | step :: rest => after (number + 1) (s.perform number step) rest

/-- The reports of a session. -/
def play (s : Setup) (steps : List Step) : List Report := playFrom 0 (ofSetup s) steps

end Session

end TopicWorker
