import TopicWorker.Text.Literal

/-!
# Failures

One type for whatever can go wrong in a worker's life: loading the settings, connecting,
declaring the topology, consuming, and shutting down. Startup failures end the run; the
failure of a handler is contained at its delivery.

## Main definitions

* `Failure`: the causes.
* `Failure.message`: the sentence shown to an operator.
* `Failure.kind`, `Failure.details`, `Failure.shape`: the cause as a value.
-/

namespace TopicWorker

open Text (quoted)

/-- What went wrong. -/
inductive Failure where
  /-- Something that has no better name, such as the receive loop dying. -/
  | internal
  /-- The named setting is missing or cannot be read. -/
  | configuration (key : String)
  /-- The broker could not be reached. -/
  | connection (reason : String)
  /-- No channel could be opened on the connection. -/
  | channel
  /-- An exchange or queue of this name exists with other attributes. -/
  | topologyMismatch (name : String)
  /-- The exchange could not be declared. -/
  | exchangeDeclaration (name : String)
  /-- The queue could not be declared. -/
  | queueDeclaration (name : String)
  /-- The queue could not be bound to the exchange. -/
  | binding (exchange queue : String)
  /-- No consumer could be registered on the queue. -/
  | registration (queue : String)
  /-- The bound on unsettled deliveries was refused. -/
  | prefetch (reason : String)
  /-- The consumer with this tag could not be cancelled. -/
  | cancellation (tag : String)
  /-- A delivery could not be acknowledged. -/
  | acknowledgement
  /-- A delivery could not be rejected. -/
  | rejection
  /-- The handler of a delivery failed or panicked. -/
  | handler (reason : String)
  /-- The broker link dropped after startup. -/
  | connectionLost
  /-- No termination signal can be listened for. -/
  | signals (reason : String)
  /-- The channel or the connection could not be closed. -/
  | closing (reason : String)
  deriving DecidableEq, Repr, Inhabited

namespace Failure

/-- The label of the cause. -/
def kind : Failure → String
  | internal => "InternalError"
  | configuration _ => "ConfigError"
  | connection _ => "ConnectionError"
  | channel => "ChannelError"
  | topologyMismatch _ => "TopologyMismatch"
  | exchangeDeclaration _ => "DeclareExchangeError"
  | queueDeclaration _ => "DeclareQueueError"
  | binding _ _ => "BindingExchangeToQueueError"
  | registration _ => "BindingConsumerError"
  | prefetch _ => "QoSDeclarationError"
  | cancellation _ => "ConsumerCancelError"
  | acknowledgement => "AckMessageError"
  | rejection => "RejectMessageError"
  | handler _ => "HandlerFailure"
  | connectionLost => "ConnectionLost"
  | signals _ => "SignalError"
  | closing _ => "CloseError"

/-- What the cause says besides its label. -/
def details : Failure → List String
  | internal | channel | acknowledgement | rejection | connectionLost => []
  | configuration a | connection a | topologyMismatch a | exchangeDeclaration a
  | queueDeclaration a | registration a | prefetch a | cancellation a | handler a
  | signals a | closing a => [a]
  | binding a b => [a, b]

/-- The sentence shown to an operator. -/
def message : Failure → String
  | internal => "internal error"
  | configuration key => "missing or invalid configuration `" ++ key ++ "`"
  | connection reason => "failure to connect: " ++ reason
  | channel => "failure to create a channel"
  | topologyMismatch name =>
    "topology mismatch for `" ++ name ++ "`: already declared with incompatible attributes"
  | exchangeDeclaration name => "failure to declare an exchange `" ++ name ++ "`"
  | queueDeclaration name => "failure to declare a queue `" ++ name ++ "`"
  | binding exchange queue =>
    "failure to bind exchange `" ++ exchange ++ "` to queue `" ++ queue ++ "`"
  | registration queue => "failure to declare consumer `" ++ queue ++ "`"
  | prefetch reason => "failure to configure qos `" ++ reason ++ "`"
  | cancellation tag => "failure to cancel consumer `" ++ tag ++ "`"
  | acknowledgement => "failure to ack message"
  | rejection => "failure to reject message"
  | handler reason => "handler failure: " ++ reason
  | connectionLost => "connection lost"
  | signals reason => "failure to listen for termination signals: " ++ reason
  | closing reason => "failure to close: " ++ reason

/-- The cause as a value: its label and its details in quotes. -/
def shape (f : Failure) : String := Text.Shape.case f.kind (f.details.map quoted)

/-- The cause with a given label and details; a detail that is not given is empty. -/
def ofKind? (kind : String) (details : List String) : Option Failure :=
  let first := details.headD ""
  let second := (details.drop 1).headD ""
  match kind with
  | "InternalError" => some internal
  | "ConfigError" => some (configuration first)
  | "ConnectionError" => some (connection first)
  | "ChannelError" => some channel
  | "TopologyMismatch" => some (topologyMismatch first)
  | "DeclareExchangeError" => some (exchangeDeclaration first)
  | "DeclareQueueError" => some (queueDeclaration first)
  | "BindingExchangeToQueueError" => some (binding first second)
  | "BindingConsumerError" => some (registration first)
  | "QoSDeclarationError" => some (prefetch first)
  | "ConsumerCancelError" => some (cancellation first)
  | "AckMessageError" => some acknowledgement
  | "RejectMessageError" => some rejection
  | "HandlerFailure" => some (handler first)
  | "ConnectionLost" => some connectionLost
  | "SignalError" => some (signals first)
  | "CloseError" => some (closing first)
  | _ => none

/-- A failure is the one its label and details name. -/
theorem ofKind?_kind_details (f : Failure) : ofKind? f.kind f.details = some f := by
  cases f <;> rfl

/-- A handler's failure as the worker reports it: what the handler reported as such keeps its
text, every other failure is wrapped once. -/
def ofHandler : Failure → Failure
  | handler reason => handler reason
  | other => handler other.message

end Failure

end TopicWorker
