import TopicWorker.World

/-!
# Opening and closing links

A link is a connection to the broker with one channel on it. Opening connects and then opens
the channel; there is no second try. Closing may be asked for any number of times and does
its work once: the channel first, then the connection, each only if it is still up.

## Main definitions

* `Opening.start`, `Opening.resume`: from an endpoint to the number of an open link.
* `Closing.start`, `Closing.resume`: releases a link.
-/

namespace TopicWorker

/-- An entry of the component that looks after links. -/
def linkEntry (level : Level) (message : String) (fields : List (String × Field) := []) :
    LogEntry :=
  { level, component := .link, message, fields }

/-- A link being opened. -/
inductive Opening where
  /-- The connection has been asked for. -/
  | connecting (p : Pending)
  /-- The connection stands and its channel has been asked for. -/
  | openingChannel (link : Nat) (p : Pending)
  deriving DecidableEq, Repr

namespace Opening

/-- What the opening waits for. -/
def wait : Opening → Wait
  | connecting p | openingChannel _ p => p.wait

/-- Asks for a connection under a name. The credentials go into the call and nowhere else. -/
def start (name : String) (endpoint : Endpoint) (w : World) : Turn Opening (Except Failure Nat) :=
  let w := w.log (linkEntry .debug "creating amqp connection..."
    [("host", .plain endpoint.host), ("port", .number endpoint.port.toNat),
      ("vhost", .plain endpoint.vhost)])
  let (w, p) := w.call (.connect endpoint name)
  (w, .waiting (.connecting p))

/-- Asks for the channel of a connection that has been made. -/
def connected (w : World) : Turn Opening (Except Failure Nat) :=
  let l := w.links.length
  let w := { w with links := w.links ++ [({ connectionUp := true } : Link)] }
  let w := w.log (linkEntry .debug "amqp connected")
  let w := w.log (linkEntry .debug "creating amqp channel...")
  let (w, p) := w.call .createChannel
  (w, .waiting (.openingChannel l p))

/-- Goes on when an answer is there. -/
def resume (s : Opening) (w : World) : Turn Opening (Except Failure Nat) :=
  match s with
  | connecting p =>
    p.resolve w (faultEntry .link "failure to connect" [])
      (fun _ w => connected w)
      (fun fault w => (w, .finished (.error (.connection fault.message))))
  | openingChannel l p =>
    p.resolve w (faultEntry .link "error to create the channel" [])
      (fun _ w =>
        let w := w.modifyLink l fun v => { v with channelUp := true }
        (w.log (linkEntry .debug "channel created"), .finished (.ok l)))
      (fun _ w => (w, .finished (.error .channel)))

end Opening

/-- A link being closed. -/
inductive Closing where
  /-- The channel has been asked to close. -/
  | channel (p : Pending)
  /-- The connection has been asked to close; the channel may have failed to. -/
  | connection (failure : Option Failure) (p : Pending)
  deriving DecidableEq, Repr

namespace Closing

/-- The reply code of a close that is no error. -/
def success : UInt16 := 200

/-- The reason that the broker is given. -/
def reason : String := "consumer shutdown"

/-- What the closing waits for. -/
def wait : Closing → Wait
  | channel p | connection _ p => p.wait

/-- Ends the closing with the first failure, if there was one. -/
def conclude (failure : Option Failure) (w : World) : Turn Closing (Except Failure Unit) :=
  let w := w.log (linkEntry .info "amqp connection closed")
  match failure with
  | none => (w, .finished (.ok ()))
  | some f => (w, .finished (.error f))

/-- Closes the connection, if it is still up. -/
def closeConnection (l : Nat) (failure : Option Failure) (w : World) :
    Turn Closing (Except Failure Unit) :=
  if (w.link l).connectionUp then
    let w := w.log (linkEntry .debug "closing amqp connection...")
    let (w, p) := w.call (.connectionClose success reason)
    (w, .waiting (.connection failure p))
  else conclude failure w

/-- Closes a link, unless that has been asked for before. -/
def start (l : Nat) (w : World) : Turn Closing (Except Failure Unit) :=
  if (w.link l).closed then
    (w.log (linkEntry .debug "connection already closed"), .finished (.ok ()))
  else
    let w := w.modifyLink l fun v => { v with closed := true }
    if (w.link l).channelUp then
      let w := w.log (linkEntry .debug "closing amqp channel...")
      let (w, p) := w.call (.channelClose success reason)
      (w, .waiting (.channel p))
    else closeConnection l none w

/-- Goes on when an answer is there. The connection is closed whether or not the channel
could be. -/
def resume (l : Nat) (s : Closing) (w : World) : Turn Closing (Except Failure Unit) :=
  match s with
  | channel p =>
    p.resolve w (faultEntry .link "failure to close the channel" [])
      (fun _ w => closeConnection l none (w.modifyLink l fun v => { v with channelUp := false }))
      (fun fault w => closeConnection l (some (.closing fault.message)) w)
  | connection failure p =>
    p.resolve w (faultEntry .link "failure to close the connection" [])
      (fun _ w => conclude failure
        (w.modifyLink l fun v => { v with channelUp := false, connectionUp := false }))
      (fun fault w => conclude (failure <|> some (.closing fault.message)) w)

end Closing

end TopicWorker
