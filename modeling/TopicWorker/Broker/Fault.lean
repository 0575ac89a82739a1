/-!
# Faults of the broker

What a broker call can fail with, as the client reports it. A protocol fault carries one of
the reply codes of AMQP 0-9-1; soft codes close the channel, hard codes close the
connection.

## Main definitions

* `ReplyCode`: the codes, with number, name and severity.
* `Fault`, `Fault.message`: a failed call and its text.
-/

namespace TopicWorker

/-- The reply codes that report an error. -/
inductive ReplyCode where
  | contentTooLarge | noConsumers | accessRefused | notFound | resourceLocked
  | preconditionFailed
  | connectionForced | invalidPath | frameError | syntaxError | commandInvalid | channelError
  | unexpectedFrame | resourceError | notAllowed | notImplemented | internalError
  deriving DecidableEq, Repr

namespace ReplyCode

/-- The codes that close the channel only. -/
def soft : List ReplyCode :=
  [contentTooLarge, noConsumers, accessRefused, notFound, resourceLocked, preconditionFailed]

/-- The codes that close the connection. -/
def hard : List ReplyCode :=
  [connectionForced, invalidPath, frameError, syntaxError, commandInvalid, channelError,
    unexpectedFrame, resourceError, notAllowed, notImplemented, internalError]

/-- Whether the code closes the channel only. -/
def isSoft (c : ReplyCode) : Bool := soft.contains c

/-- The number of the code. -/
def number : ReplyCode → Nat
  | contentTooLarge => 311
  | noConsumers => 313
  | accessRefused => 403
  | notFound => 404
  | resourceLocked => 405
  | preconditionFailed => 406
  | connectionForced => 320
  | invalidPath => 402
  | frameError => 501
  | syntaxError => 502
  | commandInvalid => 503
  | channelError => 504
  | unexpectedFrame => 505
  | resourceError => 506
  | notAllowed => 530
  | notImplemented => 540
  | internalError => 541

/-- The name of the code. -/
def label : ReplyCode → String
  | contentTooLarge => "CONTENT-TOO-LARGE"
  | noConsumers => "NO-CONSUMERS"
  | accessRefused => "ACCESS-REFUSED"
  | notFound => "NOT-FOUND"
  | resourceLocked => "RESOURCE-LOCKED"
  | preconditionFailed => "PRECONDITION-FAILED"
  | connectionForced => "CONNECTION-FORCED"
  | invalidPath => "INVALID-PATH"
  | frameError => "FRAME-ERROR"
  | syntaxError => "SYNTAX-ERROR"
  | commandInvalid => "COMMAND-INVALID"
  | channelError => "CHANNEL-ERROR"
  | unexpectedFrame => "UNEXPECTED-FRAME"
  | resourceError => "RESOURCE-ERROR"
  | notAllowed => "NOT-ALLOWED"
  | notImplemented => "NOT-IMPLEMENTED"
  | internalError => "INTERNAL-ERROR"

/-- The code with a given number. -/
def ofNumber? (n : Nat) : Option ReplyCode := (soft ++ hard).find? fun c => c.number == n

/-- Every code is found by its number. -/
theorem ofNumber?_number (c : ReplyCode) : ofNumber? c.number = some c := by
  cases c <;> decide

end ReplyCode

/-- Why a broker call failed. -/
inductive Fault where
  /-- The broker answered with an error. -/
  | protocol (code : ReplyCode) (text : String)
  /-- The socket failed. -/
  | io (text : String)
  /-- The channel is in a state that does not allow the call. -/
  | channelState (state : String)
  /-- The connection is in a state that does not allow the call. -/
  | connectionState (state : String)
  /-- There is no channel of this number. -/
  | invalidChannel (number : Nat)
  /-- The broker has been silent for too long. -/
  | heartbeat
  /-- No further channel may be opened. -/
  | channelLimit
  /-- Anything else that goes wrong in the client, by its text: what the broker sends cannot be
  read, what the worker sends cannot be written, or the two speak different versions. -/
  | other (text : String)
  deriving DecidableEq, Repr

namespace Fault

/-- The text of a fault. -/
def message : Fault → String
  | protocol code text =>
    "protocol error: AMQP " ++ (if code.isSoft then "soft" else "hard") ++ " error: "
      ++ code.label ++ ": " ++ text
  | io text => "IO error: " ++ text
  | channelState state => "invalid channel state: " ++ state
  | connectionState state => "invalid connection state: " ++ state
  | invalidChannel number => "invalid channel: " ++ toString number
  | heartbeat => "no heartbeat received from server for too long"
  | channelLimit => "the maximum number of channels for this connection has been reached"
  | other text => text

/-- Whether the broker refused a declaration because something of the same name exists with
other attributes. -/
def isPreconditionFailed : Fault → Bool
  | protocol .preconditionFailed _ => true
  | _ => false

end Fault

end TopicWorker
