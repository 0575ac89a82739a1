import TopicWorker.Processing

/-!
# Receiving

A receiver is a consumer registration with a loop that takes the items of its feed one at a
time, in order. The next item is not taken before the last delivery has been processed.
Stopping is cooperative: it forbids the loop to take anything more, cancels the registration,
and then waits for the loop's end, so that a delivery in flight is finished.

## Main definitions

* `Starting.start`, `Starting.resume`: registers a consumer and opens its receiver.
* `World.runReceiver`: one step of a receive loop.
* `Cancelling.start`, `Cancelling.answered`: cancels a registration on a channel.
* `Stopping.start`, `Stopping.resume`: stops a receiver and yields its counters.
-/

namespace TopicWorker

/-- An entry of the component that receives. -/
def receiverEntry (level : Level) (message : String) (fields : List (String × Field) := []) :
    LogEntry :=
  { level, component := .receiver, message, fields }

/-! ## Registration -/

/-- What a registration is asked for with. -/
structure Registration where
  link : Nat
  queue : String
  mode : AckMode
  prefetch : Option UInt16
  kind : HandlerKind
  deriving DecidableEq, Repr

/-- A registration being made. -/
inductive Starting where
  /-- The bound on unsettled deliveries has been asked for. -/
  | bounding (p : Pending)
  /-- The consumer has been asked for under a tag. -/
  | registering (tag : String) (p : Pending)
  deriving DecidableEq, Repr

/-- The tag of the `n`-th registration of a world, counted from 1. -/
def consumerTag (n : Nat) : String := "consumer-#" ++ toString n

namespace Starting

/-- What the registration waits for. -/
def wait : Starting → Wait
  | bounding p | registering _ p => p.wait

/-- Asks for the consumer, under a tag that has not been used before. -/
def register (g : Registration) (w : World) : Turn Starting (Except Failure Nat) :=
  let tag := consumerTag (w.registrations + 1)
  let w := { w with registrations := w.registrations + 1 }
  let (w, p) := w.call (.consume g.queue tag g.mode)
  (w, .waiting (.registering tag p))

/-- Starts a registration. In manual mode a given prefetch count bounds the unsettled
deliveries of this consumer first. -/
def start (g : Registration) (w : World) : Turn Starting (Except Failure Nat) :=
  match g.mode, g.prefetch with
  | .manual _, some count =>
    let (w, p) := w.call (.basicQos count false)
    (w, .waiting (.bounding p))
  | _, _ => register g w

/-- Opens the receiver of a registration that has succeeded. -/
def registered (g : Registration) (tag : String) (w : World) :
    Turn Starting (Except Failure Nat) :=
  let w := w.log (receiverEntry .info "consumer registered, waiting for messages"
    [("tag", .text tag), ("queue", .text g.queue), ("ack_mode", .plain g.mode.shape)])
  let r : Receiver :=
    { tag, link := g.link, mode := g.mode, kind := g.kind, loop := .receiving, joinable := true
      task := w.nextTask }
  ({ w with receivers := w.receivers ++ [r], nextTask := w.nextTask + 1 },
    .finished (.ok w.receivers.length))

/-- Goes on when an answer is there. -/
def resume (g : Registration) (s : Starting) (w : World) : Turn Starting (Except Failure Nat) :=
  match s with
  | bounding p =>
    p.resolve w (faultEntry .receiver "failure to configure qos" [])
      (fun _ w => register g w)
      (fun fault w => (w, .finished (.error (.prefetch fault.message))))
  | registering tag p =>
    p.resolve w (faultEntry .receiver "error to create the consumer" [])
      (fun _ w => registered g tag w)
      (fun _ w => (w, .finished (.error (.registration g.queue))))

end Starting

/-! ## The receive loop -/

namespace World

/-- Sets where a receive loop is. -/
def setLoop (w : World) (r : Nat) (loop : Loop) : World :=
  w.modifyReceiver r fun v => { v with loop }

/-- Takes in how far the processing of a delivery has come: the loop waits on, dies, or
receives again, and a failure is counted. -/
def processed (w : World) (r : Nat) : Progress Processing (Except Failure Unit) → World
  | .waiting p => w.setLoop r (.processing p)
  | .crashed payload => w.setLoop r (.crashed payload)
  | .finished (.ok ()) => w.setLoop r .receiving
  | .finished (.error _) =>
    w.modifyReceiver r fun v =>
      { v with loop := .receiving, stats := { v.stats with failed := v.stats.failed + 1 } }

/-- A loop that waits for an item looks for its cancellation first, so that nothing is taken
once it has been told to stop. -/
def receive (w : World) (r : Nat) : World :=
  let v := w.receiver r
  if v.cancelled then
    (w.log (receiverEntry .debug "consumer cancelled, no new deliveries are dispatched")).setLoop
      r .ended
  else
    match v.feed with
    | .delivery d cue :: rest =>
      let w := w.emit (.pulled r (.delivery d cue))
      let w := w.modifyReceiver r fun v =>
        { v with feed := rest, stats := { v.stats with dispatched := v.stats.dispatched + 1 } }
      let (w, p) := Processing.start r v.kind d cue w
      w.processed r p
    | .fault fault :: rest =>
      let w := w.emit (.pulled r (.fault fault))
      let w := w.modifyReceiver r fun v => { v with feed := rest }
      w.log (faultEntry .receiver "errors consume msg" [] fault)
    | [] =>
      if v.feedClosed then
        let w := w.emit (.feedEnded r)
        let w := w.log (receiverEntry .warn "delivery stream ended"
          [("error", .plain Failure.connectionLost.message)])
        w.modifyReceiver r fun v =>
          { v with loop := .ended, stats := { v.stats with connectionLost := true } }
      else w

/-- One step of a receive loop. -/
def runReceiver (w : World) (r : Nat) : World :=
  let v := w.receiver r
  match v.loop with
  | .receiving => w.receive r
  | .processing p =>
    let (w, progress) := Processing.resume r v.mode p w
    w.processed r progress
  | .ended | .crashed _ => w

end World

/-- What a receive loop waits for, unless it is over. -/
def Receiver.wait? (v : Receiver) (r : Nat) : Option Wait :=
  match v.loop with
  | .receiving => some (.items r)
  | .processing p => some p.wait
  | .ended | .crashed _ => none

/-! ## Stopping -/

namespace Cancelling

/-- Cancels a registration. A channel that is down has nothing to cancel. -/
def start (l : Nat) (tag : String) (w : World) : World × Option Pending :=
  if (w.link l).channelUp then
    let (w, p) := w.call (.basicCancel tag false)
    (w, some p)
  else (w, none)

/-- Takes the answer to a cancellation. -/
def answered (tag : String) (p : Pending) (w : World) : Turn σ (Except Failure Unit) :=
  p.resolve w (faultEntry .receiver "failure to cancel consumer" [("tag", .text tag)])
    (fun _ w => (w, .finished (.ok ())))
    (fun _ w => (w, .finished (.error (.cancellation tag))))

end Cancelling

/-- A receiver being stopped. -/
inductive Stopping where
  /-- The registration has been asked to end. -/
  | cancelling (p : Pending)
  /-- The loop's end is awaited. -/
  | joining
  deriving DecidableEq, Repr

namespace Stopping

/-- What the stop of a receiver waits for. -/
def wait (r : Nat) : Stopping → Wait
  | cancelling p => p.wait
  | joining => .loopEnd r

/-- Stops a receiver: nothing more is taken from its feed from here on. Whoever comes later
finds it stopped. -/
def start (r : Nat) (w : World) : Turn Stopping (Except Failure Stats) :=
  let v := w.receiver r
  if v.joinable then
    let w := w.modifyReceiver r fun v => { v with joinable := false, cancelled := true }
    match Cancelling.start v.link v.tag w with
    | (w, some p) => (w, .waiting (.cancelling p))
    | (w, none) => (w, .waiting .joining)
  else
    (w.log (receiverEntry .debug "consumer already stopped" [("tag", .text v.tag)]),
      .finished (.ok {}))

/-- The end of a loop that died, by the number of its task, and with the text that it left. -/
def crashEntry (task : Nat) (payload : Option String) : LogEntry :=
  let message := match payload with
    | some text => " with message " ++ Text.quoted text
    | none => ""
  receiverEntry .error "tokio process error"
    [("error", .text ("task " ++ toString task ++ " panicked" ++ message))]

/-- Takes the counters of a loop that is over. -/
def joined (r : Nat) (w : World) : Turn Stopping (Except Failure Stats) :=
  let v := w.receiver r
  match v.loop with
  | .crashed payload => (w.log (crashEntry v.task payload), .finished (.error .internal))
  | _ =>
    (w.log (receiverEntry .info "consumer stopped"
      [("tag", .text v.tag), ("dispatched", .number v.stats.dispatched),
        ("failed", .number v.stats.failed)]), .finished (.ok v.stats))

/-- Goes on when the cancellation is answered or the loop is over. A cancellation that failed
is told and nothing more: the loop has been stopped already, and the broker drops the
registration with the channel. -/
def resume (r : Nat) (s : Stopping) (w : World) : Turn Stopping (Except Failure Stats) :=
  match s with
  | cancelling p =>
    let tag := (w.receiver r).tag
    (Cancelling.answered tag p w).andThen id fun
      | .ok (), w => (w, .waiting .joining)
      | .error f, w =>
        (w.log (receiverEntry .warn "draining without basic.cancel"
          [("error", .text f.message), ("tag", .text tag)]), .waiting .joining)
  | joining => joined r w

end Stopping

end TopicWorker
