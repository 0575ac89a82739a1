import TopicWorker.Text.Literal

/-!
# The journal

Every part of the worker tells what it does in entries with a level, a sentence and fields.
An entry is a value here; `LogEntry.line` is how the program prints one.

## Main definitions

* `Level`, `Component`, `Field`, `LogEntry`: an entry and its parts.
* `LogEntry.line`: the printed form.
* `Level.admits`: which entries a threshold lets through.
-/

namespace TopicWorker

open Text (quoted truthText)

/-- How serious an entry is. -/
inductive Level where
  | debug | info | warn | error
  deriving DecidableEq, Repr

namespace Level

/-- The printed name. -/
def label : Level → String
  | debug => "DEBUG"
  | info => "INFO"
  | warn => "WARN"
  | error => "ERROR"

/-- More serious levels have higher ranks. -/
def rank : Level → Nat
  | debug => 0
  | info => 1
  | warn => 2
  | error => 3

end Level

/-- The part of the worker that speaks. -/
inductive Component where
  | program | configuration | link | topology | receiver | processing | delivery | handling
  | tracing | shutdown | app
  deriving DecidableEq, Repr

/-- The path under which a component's entries are printed. -/
def Component.target : Component → String
  | program => "topic_consumer"
  | configuration => "topic_consumer::config"
  | link => "topic_consumer::channel"
  | topology => "topic_consumer::topology"
  | receiver => "topic_consumer::dispatcher"
  | processing => "topic_consumer::consumer"
  | delivery => "topic_consumer::delivery"
  | handling => "topic_consumer::handler"
  | tracing => "topic_consumer::otel"
  | shutdown => "topic_consumer::shutdown"
  | app => "topic_consumer::app"

/-- The value of a field. -/
inductive Field where
  /-- A text that is quoted when printed. -/
  | text (s : String)
  /-- A text that is printed as it is. -/
  | plain (s : String)
  | number (n : Nat)
  | flag (b : Bool)
  deriving DecidableEq, Repr

/-- A field's value as it is printed. -/
def Field.print : Field → String
  | text s => quoted s
  | plain s => s
  | number n => toString n
  | flag b => truthText b

/-- One entry. -/
structure LogEntry where
  level : Level
  component : Component
  message : String
  fields : List (String × Field) := []
  deriving DecidableEq, Repr

namespace LogEntry

/-- An entry on one line: level, component and sentence, then the fields in order. -/
def line (e : LogEntry) : String :=
  e.level.label ++ " " ++ e.component.target ++ ": " ++ e.message
    ++ String.join (e.fields.map fun (name, value) => " " ++ name ++ "=" ++ value.print)

/-- The value of a field of an entry. -/
def field? (e : LogEntry) (name : String) : Option Field := e.fields.lookup name

end LogEntry

/-- The least serious level that is printed; `none` prints nothing. -/
abbrev Threshold := Option Level

namespace Threshold

/-- Whether entries of a level are printed. -/
def admits (t : Threshold) (l : Level) : Bool :=
  match t with
  | none => false
  | some least => least.rank ≤ l.rank

/-- A threshold by name, in any case. -/
def ofName? (name : String) : Option Threshold :=
  match name.toLower with
  | "debug" | "trace" => some (some .debug)
  | "info" => some (some .info)
  | "warn" => some (some .warn)
  | "error" => some (some .error)
  | "off" => some none
  | _ => none

/-- The threshold of a run: the one that is asked for, `error` where the request is empty, and
`info` where nothing readable is asked for. -/
def ofRequest : Option String → Threshold
  | none => some .info
  | some "" => some .error
  | some name => (ofName? name).getD (some .info)

end Threshold

end TopicWorker
