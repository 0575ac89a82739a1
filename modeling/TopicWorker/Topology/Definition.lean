import TopicWorker.Text.Literal

/-!
# Exchanges, queues and bindings

What a worker asks a broker to have: an exchange that routes messages, a queue that holds
them, and a binding with a routing pattern between the two. A queue without a name is private
to the connection; the broker finds a name for it.

## Main definitions

* `ExchangeKind`, `Exchange`, `Queue`, `Binding`.
* `usersExchange`, `userEventPattern`: the subscription of this worker.
-/

namespace TopicWorker

open Text (quoted truthText)

/-- How an exchange picks the queues that receive a message. -/
inductive ExchangeKind where
  /-- By equality of the routing key. -/
  | direct
  /-- All bound queues. -/
  | fanout
  /-- By a pattern of words. -/
  | topic
  /-- By header values. -/
  | headers
  deriving DecidableEq, Repr, Inhabited

namespace ExchangeKind

/-- The label of the kind. -/
def label : ExchangeKind → String
  | direct => "Direct"
  | fanout => "Fanout"
  | topic => "Topic"
  | headers => "Headers"

/-- The kind with a given label. -/
def ofLabel? : String → Option ExchangeKind
  | "Direct" => some direct
  | "Fanout" => some fanout
  | "Topic" => some topic
  | "Headers" => some headers
  | _ => none

end ExchangeKind

/-- An exchange to declare. -/
structure Exchange where
  name : String
  kind : ExchangeKind := .direct
  durable : Bool := false
  deriving DecidableEq, Repr, Inhabited

namespace Exchange

/-- The exchange as one that routes by patterns. -/
def topic (x : Exchange) : Exchange := { x with kind := .topic }

/-- The exchange as one that outlives a restart of the broker. -/
def persistent (x : Exchange) : Exchange := { x with durable := true }

/-- The exchange as a value. -/
def shape (x : Exchange) : String :=
  Text.Shape.record "ExchangeDefinition"
    [("name", quoted x.name), ("kind", x.kind.label), ("durable", truthText x.durable)]

end Exchange

/-- A queue to declare. -/
structure Queue where
  /-- Empty where the broker is to find a name. -/
  name : String := ""
  /-- Whether the queue goes when nobody uses it any more. -/
  autoDelete : Bool := false
  /-- Whether the queue belongs to the connection that declares it. -/
  exclusive : Bool := false
  deriving DecidableEq, Repr, Inhabited

namespace Queue

/-- The private queue of a subscription. -/
def anonymous : Queue := { autoDelete := true, exclusive := true }

/-- Whether the broker is to find a name. -/
def isAnonymous (q : Queue) : Bool := q.name.isEmpty

/-- The queue as a value. -/
def shape (q : Queue) : String :=
  Text.Shape.record "QueueDefinition"
    [("name", quoted q.name), ("delete", truthText q.autoDelete),
      ("exclusive", truthText q.exclusive)]

end Queue

/-- A queue that is to receive what an exchange routes by a pattern. -/
structure Binding where
  queue : String
  exchange : String := ""
  routingKey : String := ""
  deriving DecidableEq, Repr, Inhabited

/-- The binding as a value. -/
def Binding.shape (b : Binding) : String :=
  Text.Shape.record "QueueBinding"
    [("queue_name", quoted b.queue), ("exchange_name", quoted b.exchange),
      ("routing_key", quoted b.routingKey)]

/-- The exchange with the events of users. -/
def usersExchange : Exchange := ({ name := "users" } : Exchange).topic.persistent

/-- The pattern of the events of users: two fixed words and exactly one more. -/
def userEventPattern : String := "user.event.*"

end TopicWorker
