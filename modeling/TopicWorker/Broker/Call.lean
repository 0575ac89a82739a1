import TopicWorker.Broker.Fault
import TopicWorker.Config
import TopicWorker.Topology.Definition

/-!
# Broker calls

The calls a worker makes on its broker, with everything that is sent along, and the answers
to them. A reply may be held back behind a named gate, so that other things can happen while
a call is under way.

## Main definitions

* `Call`, `Method`: a call, and which of the twelve methods it is.
* `Answer`, `Reply`: what comes back, and when.
* `Script`: the replies a broker is going to give, a queue for each method.
-/

namespace TopicWorker

/-- The methods of the broker. -/
inductive Method where
  | connect | createChannel | channelClose | connectionClose
  | exchangeDeclare | queueDeclare | queueBind
  | basicQos | basicConsume | basicCancel | basicAck | basicReject
  deriving DecidableEq, Repr

namespace Method

/-- All methods. -/
def all : List Method :=
  [connect, createChannel, channelClose, connectionClose, exchangeDeclare, queueDeclare,
    queueBind, basicQos, basicConsume, basicCancel, basicAck, basicReject]

/-- The name of the method. -/
def label : Method → String
  | connect => "connect"
  | createChannel => "create_channel"
  | channelClose => "channel_close"
  | connectionClose => "connection_close"
  | exchangeDeclare => "exchange_declare"
  | queueDeclare => "queue_declare"
  | queueBind => "queue_bind"
  | basicQos => "basic_qos"
  | basicConsume => "basic_consume"
  | basicCancel => "basic_cancel"
  | basicAck => "basic_ack"
  | basicReject => "basic_reject"

/-- The method of a given name. -/
def ofLabel? (s : String) : Option Method := all.find? fun m => m.label == s

end Method

/-- How an exchange is declared. -/
structure ExchangeOptions where
  passive : Bool := false
  durable : Bool := false
  autoDelete : Bool := false
  forBroker : Bool := false
  nowait : Bool := false
  deriving DecidableEq, Repr

/-- How a queue is declared. -/
structure QueueOptions where
  passive : Bool := false
  durable : Bool := false
  exclusive : Bool := false
  autoDelete : Bool := false
  nowait : Bool := false
  deriving DecidableEq, Repr

/-- How a consumer is registered. -/
structure ConsumeOptions where
  noLocal : Bool := false
  noAck : Bool := false
  exclusive : Bool := false
  nowait : Bool := false
  deriving DecidableEq, Repr

/-- A call on the broker. -/
inductive Call where
  /-- Connects to an endpoint under a name that the broker shows. -/
  | connect (endpoint : Endpoint) (name : String)
  | createChannel
  | channelClose (code : UInt16) (text : String)
  | connectionClose (code : UInt16) (text : String)
  | exchangeDeclare (exchange : String) (kind : ExchangeKind) (options : ExchangeOptions)
  | queueDeclare (queue : String) (options : QueueOptions)
  | queueBind (queue exchange routingKey : String) (nowait : Bool)
  /-- Bounds the unsettled deliveries, of the whole connection or of each consumer. -/
  | basicQos (count : UInt16) (wholeConnection : Bool)
  | basicConsume (queue tag : String) (options : ConsumeOptions)
  | basicCancel (tag : String) (nowait : Bool)
  | basicAck (deliveryTag : UInt64) (multiple : Bool)
  | basicReject (deliveryTag : UInt64) (requeue : Bool)
  deriving DecidableEq, Repr

namespace Call

/-- The method that is called. -/
def method : Call → Method
  | connect .. => .connect
  | createChannel => .createChannel
  | channelClose .. => .channelClose
  | connectionClose .. => .connectionClose
  | exchangeDeclare .. => .exchangeDeclare
  | queueDeclare .. => .queueDeclare
  | queueBind .. => .queueBind
  | basicQos .. => .basicQos
  | basicConsume .. => .basicConsume
  | basicCancel .. => .basicCancel
  | basicAck .. => .basicAck
  | basicReject .. => .basicReject

/-- The declaration of an exchange. -/
def declareExchange (x : Exchange) : Call := .exchangeDeclare x.name x.kind { durable := x.durable }

/-- The declaration of a queue. -/
def declareQueue (q : Queue) : Call :=
  .queueDeclare q.name { exclusive := q.exclusive, autoDelete := q.autoDelete }

/-- The binding of a queue. -/
def bind (b : Binding) : Call := .queueBind b.queue b.exchange b.routingKey false

/-- The registration of an exclusive consumer; in auto mode the broker awaits no
acknowledgement. -/
def consume (queue tag : String) (mode : AckMode) : Call :=
  .basicConsume queue tag { noAck := mode.isAuto, exclusive := true }

end Call

/-- How a call ends. -/
inductive Answer where
  /-- It succeeds. A declared queue may be given a name. -/
  | done (name : Option String)
  /-- It fails. -/
  | refused (fault : Fault)
  /-- The client breaks down in it, with a text or with something else, and takes its caller
  along. -/
  | crashed (payload : Option String)
  deriving DecidableEq, Repr

/-- An answer, and the gate behind which it is held back. -/
structure Reply where
  gate : Option String := none
  answer : Answer := .done none
  deriving DecidableEq, Repr

/-- The name of a queue whose declaration has succeeded: the one the broker gives, else the
one asked for, else one that the broker makes up. -/
def assignedName (asked : String) : Option String → String
  | some name => name
  | none => if asked.isEmpty then "amq.gen-default" else asked

/-- The replies a broker is going to give, in order, each for a method. -/
abbrev Script := List (Method × Reply)

namespace Script

/-- The next reply to a method; where none is left the call succeeds at once. -/
def next (script : Script) (m : Method) : Reply := (script.lookup m).getD {}

/-- The script without the next reply to a method. -/
def advance (script : Script) (m : Method) : Script := script.eraseP fun (n, _) => n == m

end Script

/-- A call that has been made, and the reply that is coming. -/
structure Pending where
  call : Call
  reply : Reply
  deriving DecidableEq, Repr

end TopicWorker
