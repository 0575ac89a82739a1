import TopicWorker.Delivery

/-!
# Configuration

A worker is configured by nine environment variables. The broker's host and the password
have to be given; everything else has a default. A variable that holds white space only
counts as not given. Texts are taken as they are, numbers and truth values are read without
the white space around them.

## Main definitions

* `Setting`: the nine variables.
* `Endpoint`, `Config`: what they say.
* `Config.load`: reads a configuration from a look-up, or names the first variable that is
  bad.
* `Config.settings`: writes a configuration back as the values of settings.
* `Environment`: variables whose values are bytes.
-/

namespace TopicWorker

open Text (quoted allBlank trim word16? truth? truthText)

/-- The variables that configure a worker. -/
inductive Setting where
  | host | user | password | port | vhost | name | autoAck | requeue | prefetch
  deriving DecidableEq, Repr

namespace Setting

/-- The name of the variable. -/
def key : Setting → String
  | host => "RABBITMQ_HOST"
  | user => "RABBITMQ_USER"
  | password => "RABBITMQ_PASSWORD"
  | port => "RABBITMQ_PORT"
  | vhost => "RABBITMQ_VHOST"
  | name => "CONSUMER_NAME"
  | autoAck => "CONSUMER_AUTO_ACK"
  | requeue => "CONSUMER_REQUEUE_ON_FAILURE"
  | prefetch => "CONSUMER_PREFETCH"

/-- All settings, in the order of the manual. -/
def all : List Setting :=
  [host, user, password, port, vhost, name, autoAck, requeue, prefetch]

/-- No two settings share a variable. -/
theorem key_injective {s t : Setting} (h : s.key = t.key) : s = t := by
  revert h
  cases s <;> cases t <;> decide

end Setting

/-- Where the broker is and how to log in there. -/
structure Endpoint where
  host : String
  user : String
  password : String
  port : UInt16
  vhost : String
  deriving DecidableEq, Repr, Inhabited

namespace Endpoint

/-- The endpoint as a value; the password is never shown. -/
def shape (e : Endpoint) : String :=
  Text.Shape.record "BrokerEndpoint"
    [("host", quoted e.host), ("user", quoted e.user), ("password", quoted "***"),
      ("port", toString e.port.toNat), ("vhost", quoted e.vhost)]

end Endpoint

/-- Everything that a worker needs to start. -/
structure Config where
  name : String
  endpoint : Endpoint
  ackMode : AckMode
  prefetch : Option UInt16
  deriving DecidableEq, Repr, Inhabited

/-- Variables by name. -/
abbrev Lookup := String → Option String

/-- The value of a setting, where it holds more than white space. -/
def Lookup.given (lookup : Lookup) (s : Setting) : Option String :=
  (lookup s.key).filter fun v => !allBlank v.toList

namespace Config

/-- The user when none is given. -/
def defaultUser : String := "guest"

/-- The port when none is given. -/
def defaultPort : UInt16 := 5672

/-- The virtual host when none is given. -/
def defaultVhost : String := "/"

/-- The name of the connection when none is given. -/
def defaultName : String := "topic-consumer"

/-- Why a configuration cannot be loaded. -/
inductive Problem where
  /-- A required setting is not given. -/
  | missing (s : Setting)
  /-- A setting is given and cannot be read. -/
  | unreadable (s : Setting) (raw : String)
  deriving DecidableEq, Repr

namespace Problem

/-- The setting at fault. -/
def setting : Problem → Setting
  | missing s | unreadable s _ => s

/-- The failure that loading ends with. -/
def failure (p : Problem) : Failure := .configuration p.setting.key

/-- What is told about the problem. -/
def entry : Problem → LogEntry
  | missing s =>
    { level := .error, component := .configuration, message := "missing required configuration"
      fields := [("key", .text s.key)] }
  | unreadable s raw =>
    { level := .error, component := .configuration, message := "invalid configuration value"
      fields := [("key", .text s.key), ("value", .plain raw)] }

end Problem

/-- A setting that has to be given. -/
def required (lookup : Lookup) (s : Setting) : Except Problem String :=
  match lookup.given s with
  | some v => .ok v
  | none => .error (.missing s)

/-- A setting that is read as a value, where it is given. -/
def parsed (lookup : Lookup) (read : List Char → Option α) (s : Setting) :
    Except Problem (Option α) :=
  match lookup.given s with
  | none => .ok none
  | some raw =>
    match read (trim raw.toList) with
    | some v => .ok (some v)
    | none => .error (.unreadable s raw)

/-- The acknowledgement mode; the wish to queue failed messages again is looked at in manual
mode only. -/
def loadAckMode (lookup : Lookup) : Except Problem AckMode := do
  let autoAck ← parsed lookup truth? .autoAck
  if autoAck.getD true then
    return .auto
  let requeue ← parsed lookup truth? .requeue
  return .manual (requeue.getD false)

/-- The configuration that the variables describe, or the first problem in reading it. -/
def load (lookup : Lookup) : Except Problem Config := do
  let host ← required lookup .host
  let password ← required lookup .password
  let port ← parsed lookup word16? .port
  let ackMode ← loadAckMode lookup
  let prefetch ← parsed lookup word16? .prefetch
  return {
    name := (lookup.given .name).getD defaultName
    endpoint := {
      host
      user := (lookup.given .user).getD defaultUser
      password
      port := port.getD defaultPort
      vhost := (lookup.given .vhost).getD defaultVhost }
    ackMode
    prefetch }

/-- The settings that describe a configuration. -/
def settings (c : Config) : List (Setting × String) :=
  [(.host, c.endpoint.host), (.user, c.endpoint.user), (.password, c.endpoint.password),
    (.port, toString c.endpoint.port.toNat), (.vhost, c.endpoint.vhost), (.name, c.name),
    (.autoAck, truthText c.ackMode.isAuto)]
  ++ (match c.ackMode with
    | .auto => []
    | .manual requeue => [(.requeue, truthText requeue)])
  ++ (match c.prefetch with
    | none => []
    | some count => [(.prefetch, toString count.toNat)])

/-- The look-up in the settings that describe a configuration. -/
def render (c : Config) : Lookup := fun key =>
  (c.settings.find? fun (s, _) => s.key == key).map (·.2)

/-- The configuration as a value. -/
def shape (c : Config) : String :=
  Text.Shape.record "ConsumerConfig"
    [("name", quoted c.name), ("endpoint", c.endpoint.shape), ("ack_mode", c.ackMode.shape),
      ("prefetch", Text.Shape.optional (c.prefetch.map fun n => toString n.toNat))]

end Config

/-- The variables of a process. Values are bytes; the first of two with one name counts. -/
abbrev Environment := List (String × List UInt8)

namespace Environment

/-- A variable that holds UTF-8. One that does not counts as not set. -/
def lookup (env : Environment) : Lookup := fun key =>
  (List.lookup key env).bind Text.Utf8.decode?

/-- The environment that holds the given texts. -/
def ofTexts (vars : List (String × String)) : Environment :=
  vars.map fun (key, value) => (key, Text.Utf8.bytes value)

end Environment

end TopicWorker
