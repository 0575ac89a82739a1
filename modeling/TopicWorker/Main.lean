import TopicWorker.Simulation

/-!
# Command line

Runs the program on the variables of the process. There is no network here: the broker
accepts everything, delivers nothing, and the run is interrupted as soon as it blocks.
-/

namespace TopicWorker

/-- The variables that the program looks at, as they are set for this process. -/
def readEnvironment : IO Environment := do
  let names := Setting.all.map Setting.key ++ [Simulation.thresholdVariable]
  let mut texts : List (String × String) := []
  for name in names do
    if let some value ← IO.getEnv name then
      texts := texts ++ [(name, value)]
  return Environment.ofTexts texts

end TopicWorker

/-- Prints the journal of the run and ends with its exit code. -/
def main : IO UInt32 := do
  let env ← TopicWorker.readEnvironment
  let system := TopicWorker.Simulation.run {} env
  for line in TopicWorker.Simulation.lines true env system do
    IO.println line
  return ((TopicWorker.Simulation.exitCode system).getD
    TopicWorker.Simulation.crashCode).toUInt32
