import TopicWorker.System

/-!
# The schedule

Actors run on a single thread. One that is started or woken runs until it has to wait; those
that its steps wake queue up behind the others in the order in which they began to wait, and
an actor that gives up its turn comes after everybody who can run. This is one of the
interleavings of a system, and it is run until everybody waits.

The number of steps that a system can still make by itself is bounded by `System.remaining`:
each job and receive loop has a rank that a step of its own lowers, and every such step may give
each observer one to make. It is the fuel of the runs below.

## Main definitions

* `System.remaining`: how many steps can still be made.
* `Schedule`: a system with its queue.
* `Schedule.drive`, `Schedule.settle`: runs one actor until it waits, and all of them.
-/

namespace TopicWorker

/-! ## Ranks -/

/-- The sum of the ranks of some things. -/
def total (rank : α → Nat) (l : List α) : Nat := l.foldr (fun a n => rank a + n) 0

namespace Opening

/-- Steps that an opening can still make. -/
def rank : Opening → Nat
  | connecting _ => 2
  | openingChannel _ _ => 1

end Opening

namespace Closing

/-- Steps that a closing can still make. -/
def rank : Closing → Nat
  | channel _ => 2
  | connection _ _ => 1

end Closing

namespace Subscribing

/-- Steps that a subscription can still make. -/
def rank : Subscribing → Nat
  | exchange _ => 3
  | queue _ => 2
  | binding _ _ => 1

end Subscribing

namespace Starting

/-- Steps that a registration can still make, with the end of the loop that it opens. -/
def rank : Starting → Nat
  | bounding _ => 3
  | registering _ _ => 2

end Starting

namespace Stopping

/-- Steps that a stop can still make. -/
def rank : Stopping → Nat
  | cancelling _ => 2
  | joining => 1

end Stopping

namespace Teardown

/-- Steps that a teardown can still make, and one for every stage that it publishes. -/
def rank : Teardown → Nat
  | closingGiven _ _ => 2
  | closing _ _ s => s.rank + 1
  | stoppingGiven _ _ => 4
  | stopping _ _ s => s.rank + 3
  | yielding _ _ => 7
  | blocked _ _ => 9

end Teardown

namespace App

/-- Steps that an application can still make. -/
def rank : App → Nat
  | abandoning _ _ s => s.rank
  | running s => s.rank
  | starting _ _ s => s.rank + 9
  | subscribing _ s => s.rank + 12
  | opening s => s.rank + 15

end App

namespace Listening

/-- Steps that a listener can still make. -/
def rank : Listening → Nat
  | fresh => 2
  | installed _ => 1

end Listening

namespace Task

/-- Steps that a job can still make. -/
def rank : Task → Nat
  | opening s => s.rank
  | closing _ s => s.rank
  | declaringExchange _ _ | declaringQueue _ _ | binding _ _ => 1
  | subscribing _ _ s => s.rank
  | starting _ s => s.rank
  | stopping _ s => s.rank
  | acknowledging _ _ | rejecting _ _ _ | cancelling _ _ => 1
  | teardown s => s.rank
  | app _ s => s.rank
  | listening s => s.rank
  | program (.running _ _ s) => s.rank + 1
  | program (.joining _ _) => 1

end Task

namespace Item

/-- Steps that an item takes. -/
def rank : Item → Nat
  | delivery _ _ => 3
  | fault _ => 1

end Item

namespace Loop

/-- Steps that a receive loop can still make on the delivery it has taken, and its end. -/
def rank : Loop → Nat
  | receiving => 1
  | processing (.handling _ _ _) => 3
  | processing (.settling _ _ _ _) => 2
  | ended | crashed _ => 0

end Loop

namespace Receiver

/-- Steps that a receive loop can still make. -/
def rank (v : Receiver) : Nat :=
  if v.loop.isOver then 0 else v.loop.rank + total Item.rank v.feed

end Receiver

namespace System

/-- Steps that a job can still make. -/
def jobRank : Progress Task Outcome → Nat
  | .waiting t => t.rank
  | .finished _ | .crashed _ => 0

/-- Steps that a system can still make by itself. -/
def remaining (s : System) : Nat :=
  let observers := List.range s.world.observers.length
  (total jobRank s.jobs + total Receiver.rank s.world.receivers) * (observers.length + 1)
    + observers.countP s.world.isBehind

end System

/-! ## Runs -/

/-- A system on a single thread. -/
structure Schedule where
  system : System := {}
  /-- Those who can run, in turn. -/
  queue : List Actor := []
  /-- Those who wait, in the order in which they began to. -/
  parked : List Actor := []
  /-- Those who have given up their turn. -/
  yielded : List Actor := []

namespace Schedule

/-- Moves those who may go on from waiting into the queue. -/
def wake (s : Schedule) : Schedule :=
  let (woken, parked) := s.parked.partition s.system.isRunnable
  { s with queue := s.queue ++ woken, parked }

/-- Those who are new in a later state of a system: receive loops and observers. -/
def fresh (old new : World) : List Actor :=
  ((List.range new.receivers.length).drop old.receivers.length).map .receiver ++
    ((List.range new.observers.length).drop old.observers.length).map .observer

/-- Takes in a later state of the system: those who are new join the queue, and so do those who
may go on now. -/
def take (s : Schedule) (system : System) : Schedule :=
  { s with system, queue := s.queue ++ fresh s.system.world system.world }.wake

/-- Something comes from outside. -/
def move (s : Schedule) (m : Move) : Schedule := s.take (s.system.move m)

/-- Puts an actor where it waits, or lets it go on. -/
def place (s : Schedule) (a : Actor) (goOn : Schedule → Schedule) : Schedule :=
  match s.system.waitOf a with
  | none => s
  | some .turn => { s with yielded := s.yielded ++ [a] }
  | some wait => if s.system.ready wait then goOn s else { s with parked := s.parked ++ [a] }

/-- Runs an actor until it has to wait. -/
def drive (a : Actor) : Nat → Schedule → Schedule
  | 0, s => s
  | fuel + 1, s => (s.take (s.system.step a)).place a (drive a fuel)

/-- Runs an actor that has just been put there until it has to wait. -/
def enter (s : Schedule) (a : Actor) : Schedule := s.place a (drive a s.system.remaining)

/-- Runs an actor from the queue. One whose turn has come runs even if it had given it up. -/
def run (s : Schedule) (a : Actor) : Schedule :=
  if s.system.isRunnable a then drive a (s.system.remaining + 1) s
  else s.place a id

/-- Runs those in the queue, then those who gave up their turn, and so on. -/
def rounds : Nat → Schedule → Schedule
  | 0, s => s
  | fuel + 1, s =>
    match s.queue, s.yielded with
    | a :: rest, _ => rounds fuel ({ s with queue := rest }.run a)
    | [], [] => s
    | [], yielded => rounds fuel { s with queue := yielded, yielded := [] }

/-- Runs everybody until everybody waits. -/
def settle (s : Schedule) : Schedule :=
  rounds (4 * s.system.remaining + 2 * (s.queue.length + s.yielded.length) + 2) s

/-- Starts a job and runs it until it has to wait. A listener waits for its turn first. -/
def begin (s : Schedule) (q : Request) : Schedule :=
  let a := Actor.job s.system.jobs.length
  let s := s.take (s.system.begin q)
  match s.system.waitOf a with
  | some .turn => { s with queue := s.queue ++ [a] }
  | _ => s.enter a

/-- Starts the whole program and runs it until it has to wait. Its listener, if there is one,
waits for its turn first. -/
def launch (s : Schedule) (env : Environment) : Schedule :=
  let program := Actor.job s.system.jobs.length
  let listener := Actor.job (s.system.jobs.length + 1)
  let s := s.take (s.system.launch env)
  match s.system.waitOf listener with
  | some .turn => { s with queue := s.queue ++ [listener] }.enter program
  | _ => s.enter program

end Schedule

end TopicWorker
