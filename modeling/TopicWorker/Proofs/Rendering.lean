import TopicWorker.Proofs.Loading

/-!
# Writing a configuration

A configuration can be written to the variables that it may be loaded from. What is loaded then is
the configuration again, provided that there is more than white space in each of its texts. There is
some freedom in writing a number or a truth value, and none of it matters. Every configuration that
is ever loaded can be written like this: a text of white space only counts as not given, so that no
configuration has such a text.

## Main definitions

* `Config.Complete`: a configuration without a text that is blank.
* `Config.Writes`: variables to which a configuration is written, with or without additions.

## Main results

* `Config.writes_render`: rendering a configuration writes it.
* `Config.load_of_writes`: what has been written is loaded.
* `Config.roundTrips`: loading and rendering undo each other.
-/

namespace TopicWorker

open Text (isBlank allBlank Trims IsNumber IsTruth)

/-- A text is written somewhere with white space around it, or without. -/
def WrittenAround (t : List Char) (v : String) : Prop :=
  ∃ before after, v.toList = before ++ t ++ after ∧ allBlank before = true ∧ allBlank after = true

/-- A number is written in decimal, with white space around it or without. Zeros may stand before
its digits, and a plus sign before these. -/
def WritesNumber (n : Nat) (v : String) : Prop :=
  ∃ plus zeros, (plus = [] ∨ plus = ['+']) ∧ (∀ c ∈ zeros, c = '0') ∧
    WrittenAround (plus ++ (zeros ++ Nat.toDigits 10 n)) v

/-- A truth value is written with white space around it or without. -/
def WritesTruth (b : Bool) (v : String) : Prop := WrittenAround (Text.truthText b).toList v

namespace Config

variable {c : Config} {l : Lookup}

/-- There is more than white space in every text of a configuration. -/
structure Complete (c : Config) : Prop where
  name : allBlank c.name.toList = false
  host : allBlank c.endpoint.host.toList = false
  user : allBlank c.endpoint.user.toList = false
  password : allBlank c.endpoint.password.toList = false
  vhost : allBlank c.endpoint.vhost.toList = false

/-- A configuration is written to variables. What else they hold is open. -/
structure Writes (c : Config) (l : Lookup) : Prop where
  /-- Texts are written as they are. -/
  name : l Setting.name.key = some c.name
  host : l Setting.host.key = some c.endpoint.host
  user : l Setting.user.key = some c.endpoint.user
  password : l Setting.password.key = some c.endpoint.password
  vhost : l Setting.vhost.key = some c.endpoint.vhost
  port : ∃ v, l Setting.port.key = some v ∧ WritesNumber c.endpoint.port.toNat v
  /-- A prefetch count that there is not is left out. -/
  prefetch : match c.prefetch with
    | some n => ∃ v, l Setting.prefetch.key = some v ∧ WritesNumber n.toNat v
    | none => l Setting.prefetch.key = none
  autoAck : ∃ v, l Setting.autoAck.key = some v ∧ WritesTruth c.ackMode.isAuto v
  /-- Only in manual mode is there a wish to queue messages again. -/
  requeue : ∀ requeue, c.ackMode = .manual requeue →
    ∃ v, l Setting.requeue.key = some v ∧ WritesTruth requeue v

/-! ## What is rendered -/

/-- A setting is rendered to its own variable. -/
theorem render_key (c : Config) (s : Setting) :
    c.render s.key = (c.settings.find? fun p => p.1 == s).map (·.2) := by
  have same : ∀ p : Setting × String, (p.1.key == s.key) = (p.1 == s) := by
    intro p
    rw [Bool.eq_iff_iff, beq_iff_eq, beq_iff_eq]
    exact ⟨Setting.key_injective, congrArg Setting.key⟩
  simp only [render, same]

theorem writtenAround_self (v : String) : WrittenAround v.toList v :=
  ⟨[], [], by simp, rfl, rfl⟩

/-- In decimal a number is written, without anything before it or around it. -/
theorem writesNumber_toString (n : Nat) : WritesNumber n (toString n) := by
  refine ⟨[], [], .inl rfl, by simp, ?_⟩
  have digits : (toString n).toList = Nat.toDigits 10 n := by
    rw [Nat.toString_eq_repr, Nat.toList_repr]
  simpa [digits] using writtenAround_self (toString n)

/-- Rendering a configuration writes it. -/
theorem writes_render (c : Config) : c.Writes c.render := by
  obtain ⟨name, ⟨host, user, password, port, vhost⟩, mode, prefetch⟩ := c
  constructor
  case port => exact ⟨_, render_key _ _, writesNumber_toString _⟩
  case prefetch =>
    cases prefetch with
    | none => cases mode <;> exact render_key _ _
    | some n =>
      cases mode <;> exact ⟨_, render_key _ _, writesNumber_toString _⟩
  case autoAck => exact ⟨_, render_key _ _, writtenAround_self _⟩
  case requeue =>
    rintro requeue rfl
    exact ⟨_, render_key _ _, writtenAround_self _⟩
  all_goals exact render_key _ _

/-! ## What is loaded from it -/

/-- A literal without white space in it says what it denotes, also with white space around it. -/
theorem says_of_writtenAround {s : Setting} {literal : List Char → α → Prop} {a : α} {v : String}
    {t : List Char} (value : l s.key = some v) (written : WrittenAround t v)
    (solid : ∀ c ∈ t, isBlank c = false) (some : t ≠ []) (denotes : literal t a) :
    l.Says s literal a := by
  obtain ⟨before, after, split, hb, ha⟩ := written
  refine ⟨v, t, ⟨value, ?_⟩, split ▸ Text.trims_of_solid solid hb ha, denotes⟩
  obtain ⟨c, hc⟩ := List.exists_mem_of_ne_nil t some
  exact ⟨c, by simp [split, hc], solid c hc⟩

theorem says_of_writesNumber {s : Setting} {n : Nat} {v : String} (value : l s.key = some v)
    (writes : WritesNumber n v) : l.Says s IsNumber n := by
  obtain ⟨plus, zeros, sign, zero, written⟩ := writes
  have number := Text.isNumber_toDigits n sign zero
  exact says_of_writtenAround value written number.solid (by simp [Nat.toDigits_ne_nil]) number

theorem says_of_writesTruth {s : Setting} {b : Bool} {v : String} (value : l s.key = some v)
    (writes : WritesTruth b v) : l.Says s IsTruth b := by
  have truth : IsTruth (Text.truthText b).toList b := by cases b <;> rfl
  exact says_of_writtenAround value writes truth.solid (by cases b <;> decide) truth

/-- Variables to which a configuration is written describe it. -/
theorem describes_of_writes (complete : c.Complete) (writes : c.Writes l) : l.Describes c := by
  have gives : ∀ {s : Setting} {v : String}, l s.key = some v → allBlank v.toList = false →
      l.Gives s v := fun value some => ⟨value, Text.allBlank_eq_false.mp some⟩
  constructor
  case host => exact gives writes.host complete.host
  case user => exact .inl (gives writes.user complete.user)
  case password => exact gives writes.password complete.password
  case vhost => exact .inl (gives writes.vhost complete.vhost)
  case name => exact .inl (gives writes.name complete.name)
  case port =>
    obtain ⟨v, value, number⟩ := writes.port
    exact .inl (says_of_writesNumber value number)
  case prefetch =>
    have written := writes.prefetch
    cases hp : c.prefetch with
    | some n =>
      rw [hp] at written
      obtain ⟨v, value, number⟩ := written
      exact says_of_writesNumber value number
    | none =>
      rw [hp] at written
      intro v value
      rw [written] at value
      cases value
  case mode =>
    obtain ⟨v, value, truth⟩ := writes.autoAck
    have auto := says_of_writesTruth value truth
    cases hm : c.ackMode with
    | auto =>
      rw [hm] at auto
      exact .inl auto
    | manual requeue =>
      rw [hm] at auto
      obtain ⟨v', value', truth'⟩ := writes.requeue requeue hm
      exact ⟨auto, .inl (says_of_writesTruth value' truth')⟩

/-- What has been written is loaded. -/
theorem load_of_writes (complete : c.Complete) (writes : c.Writes l) : load l = .ok c :=
  load_eq_ok_iff.mpr (describes_of_writes complete writes)

/-- A configuration that variables describe is complete: no text is given that is blank, and no text
is blank by default. -/
theorem complete_of_describes (h : l.Describes c) : c.Complete := by
  have given : ∀ {s : Setting} {v : String}, l.Gives s v → allBlank v.toList = false :=
    fun gives => Text.allBlank_eq_false.mpr gives.2
  constructor
  case host => exact given h.host
  case password => exact given h.password
  case name =>
    rcases h.name with gives | ⟨-, default⟩
    · exact given gives
    · rw [default]
      decide
  case user =>
    rcases h.user with gives | ⟨-, default⟩
    · exact given gives
    · rw [default]
      decide
  case vhost =>
    rcases h.vhost with gives | ⟨-, default⟩
    · exact given gives
    · rw [default]
      decide

/-- Loading and rendering undo each other. A configuration whose texts are not blank is loaded from
what it is rendered to, and from any other way of writing it. One that has been loaded is such a
configuration. -/
theorem roundTrips (c : Config) :
    (c.Complete → load c.render = .ok c ∧ ∀ l, c.Writes l → load l = .ok c) ∧
      ∀ l, load l = .ok c → c.Complete ∧ load c.render = .ok c := by
  have rendered : c.Complete → load c.render = .ok c := fun complete =>
    load_of_writes complete (writes_render c)
  refine ⟨fun complete => ⟨rendered complete, fun l => load_of_writes complete⟩, fun l loaded => ?_⟩
  have complete := complete_of_describes (load_eq_ok_iff.mp loaded)
  exact ⟨complete, rendered complete⟩

/-- A configuration with the greatest port and no prefetch count. -/
def plainConfig : Config :=
  { name := " audit "
    endpoint :=
      { host := "broker", user := "guest", password := "secret", port := 65535, vhost := "/" }
    ackMode := .manual true
    prefetch := none }

/-- The same with white space wherever it may stand, and with more than the digits of the port. -/
def plainVariables : Lookup := fun key => List.lookup key
  [("RABBITMQ_HOST", "broker"), ("RABBITMQ_USER", "guest"), ("RABBITMQ_PASSWORD", "secret"),
    ("RABBITMQ_PORT", "\u2003+00065535\n"), ("RABBITMQ_VHOST", "/"), ("CONSUMER_NAME", " audit "),
    ("CONSUMER_AUTO_ACK", "\tfalse\u00A0"), ("CONSUMER_REQUEUE_ON_FAILURE", "true "),
    ("PATH", "/bin")]

theorem roundTrips_plainConfig : plainConfig.Complete ∧ plainConfig.Writes plainVariables ∧
    load plainVariables = .ok plainConfig ∧ load plainConfig.render = .ok plainConfig := by
  have complete : plainConfig.Complete := by
    constructor <;> decide
  have writes : plainConfig.Writes plainVariables := by
    constructor
    case port =>
      exact ⟨_, rfl, ['+'], ['0', '0', '0'], .inr rfl, by simp,
        ['\u2003'], ['\n'], by decide, by decide, by decide⟩
    case autoAck => exact ⟨_, rfl, ['\t'], ['\u00A0'], by decide, by decide, by decide⟩
    case requeue =>
      intro requeue mode
      cases mode
      exact ⟨_, rfl, [], [' '], by decide, by decide, by decide⟩
    all_goals rfl
  have loaded := ((roundTrips plainConfig).1 complete).2 _ writes
  exact ⟨complete, writes, loaded, ((roundTrips plainConfig).2 _ loaded).2⟩

end Config

end TopicWorker
