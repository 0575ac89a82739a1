import TopicWorker.Proofs.Literals
import TopicWorker.System

/-!
# Loading a configuration

The settings are looked at one after another, and the first one that is bad is what loading fails
with. What makes a setting bad does not depend on the others, but for one: whether failed messages
go back into the queue is looked at only where the worker has been told to settle its deliveries
itself. Where no setting is bad the configuration says what the variables say. A text is taken as it
is given, with its white space; a number is the one that is denoted; and what is not given is as it
is by default.

## Main definitions

* `Lookup.Absent`, `Lookup.Gives`, `Lookup.Says`: what the variables have to say on a setting.
* `Lookup.Bad`, `Lookup.FirstBad`: a setting that cannot be accepted, and the first of them.
* `Lookup.Describes`: the configuration that the variables describe.

## Main results

* `load_eq_ok_iff`: what is loaded is what the variables describe.
* `load_eq_error_iff`: loading fails with the first setting that is bad.
* `Lookup.loaded_as_given`: what becomes of the variables, whatever they say, and what is told of
  it.
-/

namespace TopicWorker

open Text (isBlank allBlank trim word16? truth? Trims IsNumber IsTruth)

variable {α β : Type}

/-! ## What the variables say -/

namespace Lookup

/-- A setting is not given: there is no such variable, or there is white space in it and nothing
else. -/
def Absent (l : Lookup) (s : Setting) : Prop :=
  ∀ v, l s.key = some v → ∀ c ∈ v.toList, isBlank c = true

/-- A setting is given. -/
def Gives (l : Lookup) (s : Setting) (v : String) : Prop :=
  l s.key = some v ∧ ∃ c ∈ v.toList, isBlank c = false

/-- A setting is given by a literal, with white space around it or without. -/
def Says (l : Lookup) (s : Setting) (literal : List Char → α → Prop) (a : α) : Prop :=
  ∃ v t, l.Gives s v ∧ Trims v.toList t ∧ literal t a

end Lookup

namespace Setting

/-- Whether a setting has to be given. -/
def isRequired : Setting → Bool
  | host | password => true
  | user | port | vhost | name | autoAck | requeue | prefetch => false

/-- What a setting accepts, once the white space around it is gone. -/
def Accepts : Setting → List Char → Prop
  | port, t | prefetch, t => ∃ n, IsNumber t n ∧ n ≤ 65535
  | autoAck, t | requeue, t => ∃ b, IsTruth t b
  | host, _ | user, _ | password, _ | vhost, _ | name, _ => True

/-- The settings that can be bad, in the order in which they are looked at. -/
def order : List Setting := [host, password, port, autoAck, requeue, prefetch]

end Setting

namespace Lookup

/-- A setting is bad: it has to be given and is not, or what is given is nothing that it accepts.
Whether failed messages go back into the queue is considered in manual mode only. -/
inductive Bad (l : Lookup) (s : Setting) : Prop where
  | missing (required : s.isRequired = true) (absent : l.Absent s)
  | unreadable {v : String} {t : List Char}
    (considered : s = .requeue → l.Says .autoAck IsTruth false) (given : l.Gives s v)
    (trims : Trims v.toList t) (unfit : ¬ s.Accepts t)

/-- The first setting that is bad. -/
def FirstBad (l : Lookup) (s : Setting) : Prop :=
  ∃ before after, Setting.order = before ++ s :: after ∧ l.Bad s ∧ ∀ t ∈ before, ¬ l.Bad t

/-- The variables describe a configuration. -/
structure Describes (l : Lookup) (c : Config) : Prop where
  /-- The texts are given as they are, or stand by default. -/
  host : l.Gives .host c.endpoint.host
  user : l.Gives .user c.endpoint.user ∨ l.Absent .user ∧ c.endpoint.user = Config.defaultUser
  password : l.Gives .password c.endpoint.password
  vhost : l.Gives .vhost c.endpoint.vhost ∨ l.Absent .vhost ∧ c.endpoint.vhost = Config.defaultVhost
  name : l.Gives .name c.name ∨ l.Absent .name ∧ c.name = Config.defaultName
  /-- So are the numbers, -/
  port : l.Says .port IsNumber c.endpoint.port.toNat ∨
    l.Absent .port ∧ c.endpoint.port = Config.defaultPort
  prefetch : match c.prefetch with
    | some n => l.Says .prefetch IsNumber n.toNat
    | none => l.Absent .prefetch
  /-- and the mode. -/
  mode : match c.ackMode with
    | .auto => l.Says .autoAck IsTruth true ∨ l.Absent .autoAck
    | .manual requeue => l.Says .autoAck IsTruth false ∧
      (l.Says .requeue IsTruth requeue ∨ l.Absent .requeue ∧ requeue = false)

/-! ## What is given -/

section Given

variable {l : Lookup} {s : Setting} {v d x : String}

theorem given_eq_some_iff : l.given s = some v ↔ l.Gives s v := by
  rw [given, Option.filter_eq_some_iff, Gives, Bool.not_eq_true', Text.allBlank_eq_false]

theorem given_eq_none_iff : l.given s = none ↔ l.Absent s := by
  simp only [given, Option.filter_eq_none_iff, Absent, Bool.not_eq_true', Bool.not_eq_false,
    Text.allBlank_eq_true]

/-- A text that stands by default. -/
theorem given_getD_eq_iff : (l.given s).getD d = x ↔ l.Gives s x ∨ l.Absent s ∧ x = d := by
  rw [← given_eq_some_iff, ← given_eq_none_iff]
  cases l.given s with
  | none => simp [eq_comm]
  | some v => simp

end Given

end Lookup

namespace Config

section Reading

variable {l : Lookup} {s : Setting} {v : String} {p : Problem} {a : α} {read : List Char → Option α}
  {literal : List Char → α → Prop}

theorem required_eq_ok_iff : required l s = .ok v ↔ l.Gives s v := by
  rw [required, ← Lookup.given_eq_some_iff]
  cases l.given s <;> simp

theorem required_eq_error_iff : required l s = .error p ↔ l.Absent s ∧ p = .missing s := by
  rw [required, ← Lookup.given_eq_none_iff]
  cases l.given s <;> simp [eq_comm]

theorem parsed_eq_none_iff : parsed l read s = .ok none ↔ l.Absent s := by
  rw [parsed, ← Lookup.given_eq_none_iff]
  cases l.given s with
  | none => simp
  | some raw => cases hr : read (trim raw.toList) <;> simp [hr]

/-- What a setting is read as is what it says. -/
theorem parsed_eq_some_iff (reads : ∀ {t a}, read t = some a ↔ literal t a) :
    parsed l read s = .ok (some a) ↔ l.Says s literal a := by
  have given : parsed l read s = .ok (some a) ↔
      ∃ v, l.Gives s v ∧ read (trim v.toList) = some a := by
    simp only [parsed, ← Lookup.given_eq_some_iff]
    cases l.given s with
    | none => simp
    | some raw => cases hr : read (trim raw.toList) <;> simp [hr]
  rw [given]
  constructor
  · rintro ⟨v, gives, hr⟩
    exact ⟨v, _, gives, Text.trims_trim _, reads.mp hr⟩
  · rintro ⟨v, t, gives, trims, hl⟩
    exact ⟨v, gives, (Text.trim_eq_iff.mpr trims).symm ▸ reads.mpr hl⟩

theorem parsed_eq_error_iff : parsed l read s = .error p ↔
    ∃ v, l.Gives s v ∧ read (trim v.toList) = none ∧ p = .unreadable s v := by
  simp only [parsed, ← Lookup.given_eq_some_iff]
  cases l.given s with
  | none => simp
  | some raw => cases hr : read (trim raw.toList) <;> simp [hr, eq_comm]

end Reading

/-! ## The first setting that is bad -/

/-- What is wrong when something cannot be read. -/
def Problem.of? : Except Problem α → Option Problem
  | .ok _ => none
  | .error p => some p

/-- What is wrong with a setting, looked at by itself. -/
def problem? (l : Lookup) : Setting → Option Problem
  | .host => Problem.of? (required l .host)
  | .password => Problem.of? (required l .password)
  | .port => Problem.of? (parsed l word16? .port)
  | .autoAck => Problem.of? (parsed l truth? .autoAck)
  | .requeue =>
    match parsed l truth? .autoAck with
    | .ok (some false) => Problem.of? (parsed l truth? .requeue)
    | _ => none
  | .prefetch => Problem.of? (parsed l word16? .prefetch)
  | .user | .vhost | .name => none

theorem Problem.of?_eq_some_iff {e : Except Problem α} {p : Problem} :
    Problem.of? e = some p ↔ e = .error p := by
  cases e <;> simp [Problem.of?]

/-- Loading fails with what is wrong with the first setting with which something is wrong. -/
theorem load_problem (l : Lookup) :
    Problem.of? (load l) = Setting.order.findSome? (problem? l) := by
  simp only [Setting.order, List.findSome?_cons, List.findSome?_nil, problem?, load, loadAckMode]
  cases required l .host with
  | error p => rfl
  | ok host =>
    cases required l .password with
    | error p => rfl
    | ok password =>
      cases parsed l word16? .port with
      | error p => rfl
      | ok port =>
        cases parsed l truth? .autoAck with
        | error p => rfl
        | ok auto =>
          cases parsed l word16? .prefetch <;> cases parsed l truth? .requeue <;>
            rcases auto with _ | _ | _ <;> rfl

section Problems

variable {l : Lookup} {s : Setting} {p : Problem}

/-- A setting is bad in one of two ways. -/
theorem bad_iff : l.Bad s ↔ s.isRequired = true ∧ l.Absent s ∨
    (s = .requeue → l.Says .autoAck IsTruth false) ∧
      ∃ v, l.Gives s v ∧ ¬ s.Accepts (trim v.toList) := by
  constructor
  · rintro (⟨required, absent⟩ | ⟨considered, given, trims, unfit⟩)
    · exact .inl ⟨required, absent⟩
    · exact .inr ⟨considered, _, given, (Text.trim_eq_iff.mpr trims).symm ▸ unfit⟩
  · rintro (⟨required, absent⟩ | ⟨considered, v, given, unfit⟩)
    · exact .missing required absent
    · exact .unreadable considered given (Text.trims_trim _) unfit

theorem required_fails_iff : (∃ p, required l s = .error p) ↔ l.Absent s := by
  simp [required_eq_error_iff]

theorem parsed_fails_iff {read : List Char → Option α}
    (unread : ∀ t, read t = none ↔ ¬ s.Accepts t) :
    (∃ p, parsed l read s = .error p) ↔ ∃ v, l.Gives s v ∧ ¬ s.Accepts (trim v.toList) := by
  simp only [parsed_eq_error_iff, unread]
  constructor
  · rintro ⟨_, v, given, unfit, rfl⟩
    exact ⟨v, given, unfit⟩
  · rintro ⟨v, given, unfit⟩
    exact ⟨_, v, given, unfit, rfl⟩

/-- Something is wrong with a setting exactly when it is bad. -/
theorem problem?_iff_bad : (∃ p, problem? l s = some p) ↔ l.Bad s := by
  rw [bad_iff]
  cases s with
  | host | password =>
    simp [problem?, Problem.of?_eq_some_iff, required_fails_iff, Setting.isRequired,
      Setting.Accepts]
  | user | vhost | name => simp [problem?, Setting.isRequired, Setting.Accepts]
  | port | prefetch =>
    simp only [problem?, Problem.of?_eq_some_iff]
    rw [parsed_fails_iff fun t => Text.word16?_eq_none_iff]
    simp [Setting.isRequired]
  | autoAck =>
    simp only [problem?, Problem.of?_eq_some_iff]
    rw [parsed_fails_iff fun t => Text.truth?_eq_none_iff]
    simp [Setting.isRequired]
  | requeue =>
    rw [← parsed_fails_iff fun t => Text.truth?_eq_none_iff,
      ← parsed_eq_some_iff Text.truth?_eq_some_iff]
    simp only [problem?]
    split
    · next manual => simp [manual, Problem.of?_eq_some_iff, Setting.isRequired]
    · next other =>
      have auto : parsed l truth? .autoAck ≠ .ok (some false) := other
      simp [auto, Setting.isRequired]

/-- What is wrong with a setting names it. -/
theorem setting_of_problem? (h : problem? l s = some p) : p.setting = s := by
  have missing : ∀ s, Problem.of? (required l s) = some p → p.setting = s := fun s hp => by
    obtain ⟨-, rfl⟩ := required_eq_error_iff.mp (Problem.of?_eq_some_iff.mp hp)
    rfl
  have unreadable : ∀ {α : Type} (read : List Char → Option α) (s : Setting),
      Problem.of? (parsed l read s) = some p → p.setting = s := fun read s hp => by
    obtain ⟨v, -, -, rfl⟩ := parsed_eq_error_iff.mp (Problem.of?_eq_some_iff.mp hp)
    rfl
  cases s with
  | host | password => exact missing _ h
  | user | vhost | name => cases h
  | port | prefetch | autoAck => exact unreadable _ _ h
  | requeue =>
    simp only [problem?] at h
    split at h
    · exact unreadable _ _ h
    · cases h

/-- Loading fails with the first setting that is bad. -/
theorem load_eq_error_iff : (∃ p, load l = .error p ∧ p.setting = s) ↔ l.FirstBad s := by
  simp only [← Problem.of?_eq_some_iff, load_problem, List.findSome?_eq_some_iff]
  constructor
  · rintro ⟨p, ⟨before, t, after, split, wrong, fine⟩, rfl⟩
    rw [setting_of_problem? wrong]
    refine ⟨before, after, split, problem?_iff_bad.mp ⟨p, wrong⟩, fun u hu bad => ?_⟩
    obtain ⟨q, hq⟩ := problem?_iff_bad.mpr bad
    rw [fine u hu] at hq
    cases hq
  · rintro ⟨before, after, split, bad, fine⟩
    obtain ⟨p, wrong⟩ := problem?_iff_bad.mpr bad
    refine ⟨p, ⟨before, s, after, split, wrong, fun u hu => ?_⟩, setting_of_problem? wrong⟩
    cases hq : problem? l u with
    | none => rfl
    | some q => exact absurd (problem?_iff_bad.mp ⟨q, hq⟩) (fine u hu)

/-- Of two numbers that cannot be read, the port comes first. -/
example : load (fun key => List.lookup key [("RABBITMQ_HOST", "broker"),
    ("RABBITMQ_PASSWORD", " secret"), ("CONSUMER_PREFETCH", "1 0"), ("RABBITMQ_PORT", "65536")]) =
      .error (.unreadable .port "65536") := rfl

end Problems

/-! ## The configuration that is loaded -/

section Loaded

variable {l : Lookup} {c : Config}

theorem bind_eq_ok_iff {e : Except Problem α} {f : α → Except Problem β} {b : β} :
    (e >>= f) = .ok b ↔ ∃ a, e = .ok a ∧ f a = .ok b := by
  cases e <;> simp [bind, Except.bind]

/-- A number that is loaded, or that stands by default. -/
theorem parsed_getD_eq_iff {s : Setting} {d n : UInt16} :
    (∃ o, parsed l word16? s = .ok o ∧ o.getD d = n) ↔
      l.Says s IsNumber n.toNat ∨ l.Absent s ∧ n = d := by
  have some : parsed l word16? s = .ok (some n) ↔ l.Says s IsNumber n.toNat :=
    parsed_eq_some_iff Text.word16?_eq_some_iff
  rw [← some, ← @parsed_eq_none_iff _ l s word16?]
  generalize parsed l word16? s = number
  rcases number with p | _ | m <;> simp [eq_comm]

/-- The mode that is loaded. -/
theorem loadAckMode_eq_ok_iff {mode : AckMode} : loadAckMode l = .ok mode ↔ match mode with
    | .auto => l.Says .autoAck IsTruth true ∨ l.Absent .autoAck
    | .manual requeue => l.Says .autoAck IsTruth false ∧
      (l.Says .requeue IsTruth requeue ∨ l.Absent .requeue ∧ requeue = false) := by
  have given : ∀ {s b}, l.Says s IsTruth b ↔ parsed l truth? s = .ok (some b) :=
    (parsed_eq_some_iff Text.truth?_eq_some_iff).symm
  have absent : ∀ {s}, l.Absent s ↔ parsed l truth? s = .ok none := parsed_eq_none_iff.symm
  simp only [loadAckMode, given, absent]
  generalize parsed l truth? .autoAck = auto
  generalize parsed l truth? .requeue = wish
  cases mode with
  | auto =>
    rcases auto with p | _ | _ | _ <;> cases wish <;> simp [bind, Except.bind, pure, Except.pure]
  | manual requeue =>
    rcases auto with p | _ | _ | _ <;> rcases wish with p | _ | b <;>
      simp [bind, Except.bind, pure, Except.pure, eq_comm]

/-- What is loaded is what the variables describe. -/
theorem load_eq_ok_iff : load l = .ok c ↔ l.Describes c := by
  simp only [load, bind_eq_ok_iff]
  constructor
  · rintro ⟨host, hhost, password, hpassword, port, hport, mode, hmode, prefetch, hprefetch, hc⟩
    cases hc
    constructor
    case host => exact required_eq_ok_iff.mp hhost
    case user => exact Lookup.given_getD_eq_iff.mp rfl
    case password => exact required_eq_ok_iff.mp hpassword
    case vhost => exact Lookup.given_getD_eq_iff.mp rfl
    case name => exact Lookup.given_getD_eq_iff.mp rfl
    case port => exact parsed_getD_eq_iff.mp ⟨port, hport, rfl⟩
    case mode => exact loadAckMode_eq_ok_iff.mp hmode
    case prefetch =>
      cases prefetch with
      | none => exact parsed_eq_none_iff.mp hprefetch
      | some n => exact (parsed_eq_some_iff Text.word16?_eq_some_iff).mp hprefetch
  · intro h
    obtain ⟨port, hport, port_eq⟩ := parsed_getD_eq_iff.mpr h.port
    have hprefetch : parsed l word16? .prefetch = .ok c.prefetch := by
      have described := h.prefetch
      cases hp : c.prefetch with
      | none =>
        rw [hp] at described
        exact parsed_eq_none_iff.mpr described
      | some n =>
        rw [hp] at described
        exact (parsed_eq_some_iff Text.word16?_eq_some_iff).mpr described
    refine ⟨_, required_eq_ok_iff.mpr h.host, _, required_eq_ok_iff.mpr h.password, port, hport,
      _, loadAckMode_eq_ok_iff.mpr h.mode, _, hprefetch, ?_⟩
    rw [Lookup.given_getD_eq_iff.mpr h.name, Lookup.given_getD_eq_iff.mpr h.user,
      Lookup.given_getD_eq_iff.mpr h.vhost, port_eq]
    rfl

end Loaded

end Config

/-! ## Starting on what the variables say -/

/-- An entry on the configuration. -/
def Event.settingEntry? : Event → Option LogEntry
  | .logged e => if e.component = .configuration then some e else none
  | _ => none

/-- What has been told of the configuration so far. -/
def World.settingEntries (w : World) : List LogEntry := w.trace.filterMap Event.settingEntry?

theorem World.settingEntries_log (w : World) (e : LogEntry) : (w.log e).settingEntries =
    w.settingEntries ++ if e.component = .configuration then [e] else [] := by
  rw [settingEntries, log, emit, List.filterMap_append, settingEntries]
  by_cases own : e.component = .configuration
  · simp [Event.settingEntry?, own]
  · simp [Event.settingEntry?, own]

namespace Lookup

/-- What becomes of variables when a worker is started on them. -/
structure Loads (l : Lookup) : Prop where
  /-- Loading fails, with the name of a variable, exactly when this is the first one that is bad. -/
  fails : ∀ k, (∃ p, Config.load l = .error p ∧ p.failure = .configuration k) ↔
    ∃ s, l.FirstBad s ∧ s.key = k
  /-- There is one entry then, which is an error and names the variable. It is all that an
  application does, and all that the program tells of its configuration. -/
  told : ∀ s, l.FirstBad s → ∃ e : LogEntry, e.level = .error ∧
    e.field? "key" = some (.text s.key) ∧
    (∀ kind w, Request.startApp l kind w =
      (w.log e, .finished (.failed (.configuration s.key)))) ∧
    ∀ env sys, env.lookup = l →
      (System.launch sys env).world.settingEntries = sys.world.settingEntries ++ [e]
  /-- Where no variable is bad a configuration is loaded, which is the one that they describe. -/
  succeeds : (∀ s, ¬ l.Bad s) → ∃ c, Config.load l = .ok c ∧ l.Describes c

variable {l : Lookup} {s : Setting}

theorem FirstBad.of_problem {p : Config.Problem} (h : Config.load l = .error p) :
    l.FirstBad p.setting :=
  Config.load_eq_error_iff.mp ⟨p, h, rfl⟩

/-- The entry on a problem is one on the configuration. It is an error and names the setting. -/
theorem entry_of_problem (p : Config.Problem) : p.entry.level = .error ∧
    p.entry.field? "key" = some (.text p.setting.key) ∧ p.entry.component = .configuration := by
  cases p <;> exact ⟨rfl, rfl, rfl⟩

/-- Of a configuration that cannot be loaded the program tells what the problem is. -/
theorem settingEntries_launch {env : Environment} {p : Config.Problem}
    (h : Config.load env.lookup = .error p) (sys : System) :
    (System.launch sys env).world.settingEntries = sys.world.settingEntries ++ [p.entry] := by
  have own := (entry_of_problem p).2.2
  have other : ∀ level message fields,
      (programEntry level message fields).component ≠ .configuration := fun _ _ _ => by
    simp [programEntry]
  simp only [System.launch, h, System.addJob, System.settleJob]
  rw [World.settingEntries_log, World.settingEntries_log, World.settingEntries_log,
    if_neg (other _ _ _), if_pos own, if_neg (other _ _ _), List.append_nil, List.append_nil]

/-- What becomes of the variables of any environment. -/
theorem loaded_as_given (l : Lookup) : l.Loads where
  fails k := by
    constructor
    · rintro ⟨p, fails, key⟩
      exact ⟨p.setting, .of_problem fails, Failure.configuration.inj key⟩
    · rintro ⟨s, first, rfl⟩
      obtain ⟨p, fails, rfl⟩ := Config.load_eq_error_iff.mpr first
      exact ⟨p, fails, rfl⟩
  told s first := by
    obtain ⟨p, fails, rfl⟩ := Config.load_eq_error_iff.mpr first
    obtain ⟨level, key, -⟩ := entry_of_problem p
    refine ⟨p.entry, level, key, fun kind w => ?_, fun env sys same => ?_⟩
    · rw [Request.startApp, fails]
      rfl
    · subst same
      exact settingEntries_launch fails sys
  succeeds fine := by
    cases hl : Config.load l with
    | ok c => exact ⟨c, rfl, Config.load_eq_ok_iff.mp hl⟩
    | error p =>
      obtain ⟨-, -, -, bad, -⟩ := FirstBad.of_problem hl
      exact absurd bad (fine p.setting)

end Lookup

end TopicWorker
