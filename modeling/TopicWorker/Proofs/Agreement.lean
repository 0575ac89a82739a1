import TopicWorker.Proofs.Encoding
import TopicWorker.Proofs.Loading

/-!
# What loading depends on

Loading looks at nine variables, and does not see all of these either. A variable in which there is
white space only is not told from one that there is not. Where deliveries are settled by the broker
it does not matter what is wished for failed messages, not even whether that can be read. And of the
variables of a process, whose values are bytes, only those count that are texts. The prefetch count
is no such case: it is read in both modes.

## Main definitions

* `Lookup.Agree`: variables between which loading does not distinguish.
* `Lookup.Reads`: the variables of a process that are texts.

## Main results

* `load_of_agree`, `load_of_reads`: what is loaded is the same.
* `load_depends`: all that, and what has to be readable.
-/

namespace TopicWorker

open Text (Trims IsNumber IsTruth word16? truth?)

/-- A variable of a process is looked up where its bytes are those of a text. -/
theorem Environment.lookup_eq_some_iff {env : Environment} {key v : String} :
    env.lookup key = some v ↔ List.lookup key env = some v.toUTF8.data.toList := by
  rw [Environment.lookup, Option.bind_eq_some_iff]
  constructor
  · rintro ⟨bs, held, read⟩
    rw [held, Text.Utf8.decode?_eq_some_iff.mp read]
  · intro held
    exact ⟨_, held, Text.Utf8.decode?_eq_some_iff.mpr rfl⟩

namespace Lookup

/-- Two look-ups have the same to say on a setting, or neither gives it. -/
def Alike (l l' : Lookup) (s : Setting) : Prop := l s.key = l' s.key ∨ l.Absent s ∧ l'.Absent s

/-- The broker is to settle deliveries: it is said so, or nothing is said. -/
def Automatic (l : Lookup) : Prop := l.Says .autoAck IsTruth true ∨ l.Absent .autoAck

/-- Two look-ups agree on the settings. On what becomes of failed messages they need not, where the
broker settles deliveries. -/
structure Agree (l l' : Lookup) : Prop where
  alike : ∀ s, s ≠ .requeue → l.Alike l' s
  requeue : l.Alike l' .requeue ∨ l.Automatic

/-- A look-up holds the variables of a process whose values are UTF-8, and no others. -/
def Reads (l : Lookup) (env : Environment) : Prop :=
  ∀ key v, l key = some v ↔ List.lookup key env = some v.toUTF8.data.toList

variable {l l' : Lookup} {s : Setting}

theorem Alike.given (h : l.Alike l' s) : l.given s = l'.given s := by
  rcases h with same | ⟨absent, absent'⟩
  · rw [Lookup.given, same, Lookup.given]
  · rw [given_eq_none_iff.mpr absent, given_eq_none_iff.mpr absent']

/-- One look-up holds the texts among the variables of a process, which is the look-up of it. -/
theorem reads_iff {env : Environment} : l.Reads env ↔ env.lookup = l := by
  constructor
  · intro reads
    funext key
    exact Option.ext fun v => by rw [Environment.lookup_eq_some_iff, reads key v]
  · rintro rfl key v
    exact Environment.lookup_eq_some_iff

end Lookup

namespace Config

variable {l l' : Lookup} {s : Setting}

theorem required_of_alike (h : l.Alike l' s) : required l s = required l' s := by
  rw [required, h.given, required]

theorem parsed_of_alike {read : List Char → Option α} (h : l.Alike l' s) :
    parsed l read s = parsed l' read s := by
  rw [parsed, h.given, parsed]

/-- The mode does not depend on what it is not read from. -/
theorem loadAckMode_of_agree (h : l.Agree l') : loadAckMode l = loadAckMode l' := by
  have auto : parsed l truth? .autoAck = parsed l' truth? .autoAck :=
    parsed_of_alike (h.alike .autoAck (by decide))
  rcases h.requeue with alike | automatic
  · rw [loadAckMode, auto, parsed_of_alike alike, loadAckMode]
  · have mode : loadAckMode l = .ok .auto := loadAckMode_eq_ok_iff.mpr automatic
    have read : parsed l truth? .autoAck = .ok (some true) ∨ parsed l truth? .autoAck = .ok none :=
      automatic.imp (parsed_eq_some_iff Text.truth?_eq_some_iff).mpr parsed_eq_none_iff.mpr
    rw [auto] at read
    rw [mode, loadAckMode]
    rcases read with read | read <;> rw [read] <;> rfl

/-- Look-ups that agree are not told from each other. -/
theorem load_of_agree (h : l.Agree l') : load l = load l' := by
  have given : ∀ s, s ≠ .requeue → l.given s = l'.given s := fun s hs => (h.alike s hs).given
  simp only [load]
  rw [required_of_alike (h.alike .host (by decide)),
    required_of_alike (h.alike .password (by decide)),
    parsed_of_alike (h.alike .port (by decide)), loadAckMode_of_agree h,
    parsed_of_alike (h.alike .prefetch (by decide)), given .name (by decide),
    given .user (by decide), given .vhost (by decide)]

/-- With a setting that is bad there is nothing to load. If it is the only one, it is what loading
fails with. -/
theorem load_of_bad (bad : l.Bad s) (looked : s ∈ Setting.order) : ∃ p, load l = .error p ∧
    ((∀ t, t ≠ s → ¬ l.Bad t) → p.setting = s) := by
  cases hl : load l with
  | ok c =>
    have fine := load_problem l
    rw [hl] at fine
    obtain ⟨p, wrong⟩ := problem?_iff_bad.mpr bad
    rw [List.findSome?_eq_none_iff.mp fine.symm s looked] at wrong
    cases wrong
  | error p =>
    refine ⟨p, rfl, fun others => ?_⟩
    obtain ⟨-, -, -, first, -⟩ := Lookup.FirstBad.of_problem hl
    exact Decidable.byContradiction fun other => others _ other first

/-- What loading depends on: the settings that agree, and of a process the variables that are texts.
A prefetch count has to be a number that fits, whatever the mode. -/
theorem load_depends :
    (∀ l l' : Lookup, l.Agree l' → load l = load l') ∧
    (∀ (env : Environment) (l : Lookup), l.Reads env → load env.lookup = load l) ∧
    (∀ env : Environment, env.lookup.Reads env) ∧
    ∀ (l : Lookup) v t, l.Gives .prefetch v → Trims v.toList t →
      (¬ ∃ n, IsNumber t n ∧ n ≤ 65535) →
      ∃ p, load l = .error p ∧ ((∀ s, s ≠ .prefetch → ¬ l.Bad s) → p.setting = .prefetch) := by
  refine ⟨fun l l' => load_of_agree, fun env l reads => ?_, fun env => ?_, ?_⟩
  · rw [Lookup.reads_iff.mp reads]
  · exact Lookup.reads_iff.mpr rfl
  · intro l v t gives trims unfit
    exact load_of_bad (.unreadable (by simp) gives trims unfit) (by decide)

/-- Variables that say what has to be said. -/
def scantVariables : Lookup := fun key => List.lookup key
  [("RABBITMQ_HOST", "broker"), ("RABBITMQ_PASSWORD", "secret")]

/-- The same with others beside them, one that is blank, and one that cannot be read. -/
def litteredVariables : Lookup := fun key => List.lookup key
  [("PATH", "/bin"), ("RABBITMQ_HOST", "broker"), ("RABBITMQ_PASSWORD", "secret"),
    ("RABBITMQ_USER", " \u3000"), ("CONSUMER_REQUEUE_ON_FAILURE", "perhaps")]

/-- The same with a prefetch count that does not fit. -/
def unfitVariables : Lookup := fun key => List.lookup key
  [("RABBITMQ_HOST", "broker"), ("RABBITMQ_PASSWORD", "secret"), ("CONSUMER_PREFETCH", "65536")]

/-- A process whose only variable is no text. -/
def illFormed : Environment := [("RABBITMQ_HOST", [0x62, 0xFF])]

theorem load_depends_scantVariables : scantVariables.Agree litteredVariables ∧
    load scantVariables = load litteredVariables ∧
    load illFormed.lookup = load (fun _ => none) ∧
    unfitVariables.Automatic ∧ ∃ p, load unfitVariables = .error p ∧ p.setting = .prefetch := by
  obtain ⟨agrees, reads, -, unfit⟩ := load_depends
  have silent : ∀ {l : Lookup} {s : Setting}, l s.key = none → l.Absent s := fun none v some => by
    rw [none] at some
    cases some
  have agree : scantVariables.Agree litteredVariables := by
    refine ⟨fun s hs => ?_, .inr (.inr (silent rfl))⟩
    cases s with
    | requeue => exact absurd rfl hs
    | user =>
      refine .inr ⟨silent rfl, fun v some => ?_⟩
      cases some
      exact Text.allBlank_eq_true.mp rfl
    | host | password | port | vhost | name | autoAck | prefetch => exact .inl rfl
  have nothing : Lookup.Reads (fun _ => none) illFormed := by
    refine Lookup.reads_iff.mpr (funext fun key => ?_)
    rw [Environment.lookup, illFormed, List.lookup_cons]
    split
    · decide
    · rfl
  refine ⟨agree, agrees _ _ agree, reads _ _ nothing, .inr (silent rfl), ?_⟩
  obtain ⟨p, fails, only⟩ := unfit unfitVariables "65536" "65536".toList
    ⟨rfl, '6', by decide, by decide⟩ (Text.trim_eq_iff.mp (by decide))
    (Text.word16?_eq_none_iff.mp (by decide))
  refine ⟨p, fails, only fun s other bad => ?_⟩
  have fine : ∀ s ∈ Setting.all, s ≠ .prefetch → problem? unfitVariables s = none := by decide
  obtain ⟨q, wrong⟩ := problem?_iff_bad.mpr bad
  rw [fine s (by cases s <;> decide) other] at wrong
  cases wrong

end Config

end TopicWorker
