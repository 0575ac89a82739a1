import TopicWorker.Failure
import TopicWorker.Topology.Definition

/-!
# Subscriptions

A subscription is an exchange, a private queue and a binding between them, declared in this
order. The order and the use of the broker's name for the queue do not depend on how the
declarations are carried out, so they are written once over any `Topology`.

## Main definitions

* `Subscription`: what has been bound.
* `Topology`: the three declarations over some state.
* `Topology.subscribe`: the three of them in order, up to the first that fails.
* `Declaration`, `Topology.recording`: a topology that answers as it is told and keeps a list
  of what it was asked for.
-/

namespace TopicWorker

/-- A queue that receives what an exchange routes by a pattern. -/
structure Subscription where
  exchange : String
  queue : String
  pattern : String
  deriving DecidableEq, Repr, Inhabited

/-- The binding of a subscription. -/
def Subscription.binding (s : Subscription) : Binding :=
  { queue := s.queue, exchange := s.exchange, routingKey := s.pattern }

/-- A way to carry out declarations over a state. A declared queue answers with its name. -/
structure Topology (σ : Type) where
  declareExchange : Exchange → σ → Except Failure Unit × σ
  declareQueue : Queue → σ → Except Failure String × σ
  bind : Binding → σ → Except Failure Unit × σ

/-- Declares an exchange and a private queue and binds the queue by a pattern; the first
failure ends it. -/
def Topology.subscribe (t : Topology σ) (x : Exchange) (pattern : String) (s : σ) :
    Except Failure Subscription × σ :=
  match t.declareExchange x s with
  | (.error f, s) => (.error f, s)
  | (.ok (), s) =>
    match t.declareQueue .anonymous s with
    | (.error f, s) => (.error f, s)
    | (.ok queue, s) =>
      let subscription : Subscription := { exchange := x.name, queue, pattern }
      match t.bind subscription.binding s with
      | (.error f, s) => (.error f, s)
      | (.ok (), s) => (.ok subscription, s)

/-- What a topology can be asked for. -/
inductive Declaration where
  | exchange (x : Exchange)
  | queue (q : Queue)
  | binding (b : Binding)
  deriving DecidableEq, Repr

namespace Declaration

/-- The name of the declaration. -/
def label : Declaration → String
  | exchange _ => "exchange"
  | queue _ => "queue"
  | binding _ => "bind"

/-- What is declared, as a value. -/
def shape : Declaration → String
  | exchange x => x.shape
  | queue q => q.shape
  | binding b => b.shape

end Declaration

/-- A topology with fixed answers that keeps a list of what it was asked for. -/
def Topology.recording (exchange : Except Failure Unit) (queue : Except Failure String)
    (binding : Except Failure Unit) : Topology (List Declaration) where
  declareExchange x asked := (exchange, asked ++ [.exchange x])
  declareQueue q asked := (queue, asked ++ [.queue q])
  bind b asked := (binding, asked ++ [.binding b])

end TopicWorker
