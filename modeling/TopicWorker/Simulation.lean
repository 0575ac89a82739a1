import TopicWorker.Schedule

/-!
# The program against a simulated broker

The whole program, from its environment to its exit code and the lines it prints, against a
broker that follows a script. What the broker delivers arrives once the consumer is
registered; the signal that ends the run is raised when all of it has been processed.

## Main definitions

* `Simulation`: what the broker and the operating system do.
* `Simulation.run`: the system after the run.
* `Simulation.exitCode`, `Simulation.lines`: what is left of it.
-/

namespace TopicWorker

/-- What the surroundings of the program do. -/
structure Simulation where
  script : Script := []
  /-- What the consumer's feed is going to hold. -/
  items : List Item := []
  /-- Whether the feed ends after that. -/
  ends : Bool := false
  /-- The signal that is raised when the feed has been worked off. -/
  signal : Option Signal := some .interrupt
  signalFaults : SignalFaults := {}

namespace Simulation

/-- The world that the program is started in. -/
def world (m : Simulation) : World := { script := m.script, signalFaults := m.signalFaults }

/-- The feed of the one consumer that the program registers is filled. -/
def feed (m : Simulation) : List Move :=
  m.items.map (.deliver 0) ++ if m.ends then [.endFeed 0] else []

/-- The signal is raised, if one is to be. -/
def raise (m : Simulation) : List Move := (m.signal.map fun s => .openGate s.label).toList

/-- The system after the program has run as far as it can. -/
def run (m : Simulation) (env : Environment) : System :=
  let s : Schedule := { system := { world := m.world } }
  let s := (s.launch env).settle
  let s := (m.feed.foldl Schedule.move s).settle
  let s := (m.raise.foldl Schedule.move s).settle
  s.system

/-- The exit code of a program that dies. -/
def crashCode : Nat := 101

/-- The exit code of the program, if it has ended. -/
def exitCode (s : System) : Option Nat :=
  match s.outcome? 0 with
  | some (.ok (.exit code)) => some code
  | some _ => some crashCode
  | none => none

/-- The journal of a system. -/
def journal (s : System) : List LogEntry :=
  s.world.trace.filterMap fun
    | .logged e => some e
    | _ => none

/-- The variable that sets the threshold of what is printed. -/
def thresholdVariable : String := "RUST_LOG"

/-- The entries that the program prints in its environment. -/
def printed (env : Environment) (s : System) : List LogEntry :=
  let threshold := Threshold.ofRequest (env.lookup thresholdVariable)
  (journal s).filter fun e => threshold.admits e.level

/-- The printed lines of the program itself, or of all its components. -/
def lines (allComponents : Bool) (env : Environment) (s : System) : List String :=
  ((printed env s).filter fun e => allComponents || e.component == .program).map LogEntry.line

end Simulation

end TopicWorker
