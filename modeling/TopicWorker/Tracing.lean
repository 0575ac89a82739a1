import TopicWorker.Delivery

/-!
# Tracing

Every delivery is processed inside a span of its own, whose parent is the trace context that
the publisher put into the message's headers. What a propagator reads from the headers is a
list of names; the context carries the value of the first one.

## Main definitions

* `TraceContext`, `SpanKind`, `SpanRecord`: contexts, and what happens to a span.
* `Extraction`, `Headers.extract`: the context found in a header table.
-/

namespace TopicWorker

/-- A trace context: the value that was propagated with the message, if any. -/
structure TraceContext where
  propagated : Option String := none
  deriving DecidableEq, Repr, Inhabited

/-- The value of a span's attribute. -/
inductive AttributeValue where
  | text (s : String)
  | number (n : Int64)
  deriving DecidableEq, Repr

/-- How a span ended. -/
inductive SpanStatus where
  | ok
  | error (description : String)
  deriving DecidableEq, Repr

/-- What a span stands for. -/
inductive SpanKind where
  | internal | server | client | producer
  /-- The work on a message that somebody else has sent. -/
  | consumer
  deriving DecidableEq, Repr

/-- The printed name. -/
def SpanKind.label : SpanKind → String
  | internal => "Internal"
  | server => "Server"
  | client => "Client"
  | producer => "Producer"
  | consumer => "Consumer"

/-- What happens to a span. -/
inductive SpanRecord where
  | started {kind : SpanKind} (name : String) (parent : TraceContext)
  | attribute (key : String) (value : AttributeValue)
  /-- An event with one attribute. -/
  | occurred (name key value : String)
  | status (s : SpanStatus)
  | ended
  deriving DecidableEq, Repr

namespace SpanRecord

/-- The tracer that opens the spans. -/
def tracer : String := "amqp consumer"

/-- A failure that is recorded on a span. -/
def failure (f : Failure) : SpanRecord := .occurred "exception" "exception.message" f.message

end SpanRecord

/-- What a propagator found in a header table. -/
structure Extraction where
  keys : List String
  got : List (String × Option String)
  deriving DecidableEq, Repr

/-- The context that an extraction yields. -/
def Extraction.context (e : Extraction) : TraceContext :=
  ⟨(e.got.head?).bind (·.2)⟩

/-- What is told about a header text that is not UTF-8. -/
def Text.Utf8.Fault.entry (f : Text.Utf8.Fault) : LogEntry :=
  { level := .error, component := .tracing
    message := "Error decoding header value "
      ++ Text.Shape.record "Utf8Error"
        [("valid_up_to", toString f.validUpTo),
          ("error_len", Text.Shape.optional (f.length.map toString))] }

namespace Headers

/-- Reads one name: its value, and what is told where it cannot be read. -/
def read (h : Headers) (name : String) : Option String × List LogEntry :=
  match h.text? name with
  | .ok value => (value, [])
  | .error fault => (none, [fault.entry])

/-- Reads the names a propagator asks for. -/
def extract (h : Headers) (names : List String) : Extraction :=
  { keys := h.keys, got := names.map fun n => (n, (h.read n).1) }

/-- What is told while the names are read. -/
def extractEntries (h : Headers) (names : List String) : List LogEntry :=
  names.flatMap fun n => (h.read n).2

end Headers

end TopicWorker
