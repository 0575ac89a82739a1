import TopicWorker.Proofs.Watching
import TopicWorker.Session

/-!
# Schedules, occurrence by occurrence

A system on a single thread goes on by occurrences: something comes from outside, something is
asked for and runs until it has to wait, or the first in the queue runs until he has to wait. What
anybody does in one of these occurrences is done without a break, so that nobody else sees what
stands in between.

Who publishes comes after everybody who has not yet seen what has been published before: an
observer is woken at once and stands in the queue, and a job that is woken later or gives up its
turn comes behind him. This is the order that `Schedule.Orderly` keeps.

## Main definitions

* `Occurrence`, `Schedule.occur`, `Schedule.after`: what happens to a schedule, and courses of it.
* `Schedule.goesOn`: whether a running actor goes on without a break.
* `Schedule.Orderly`: observers who have not seen the latest stage come before the job that
  publishes.

## Main results

* `Schedule.settle_advances`: everybody runs until everybody waits in a number of occurrences.
* `Schedule.place_drive`: what every step of a running actor keeps is so when he stops.
* `Schedule.Orderly.take`, `Schedule.Orderly.drive`, `Schedule.Orderly.run`: the order is kept.
-/

namespace TopicWorker

/-- Whether a move is made by nobody in the system. -/
def Move.isOutside : Move → Bool
  | .act _ | .begin _ | .launch _ => false
  | _ => true

/-- What happens to a schedule. -/
inductive Occurrence where
  /-- Something comes from outside. -/
  | comes (m : Move) (outside : m.isOutside = true)
  /-- Somebody asks for an operation. -/
  | begins (q : Request)
  /-- The whole program is started on its environment. -/
  | launches (env : Environment)
  /-- The first in the queue runs until he has to wait. -/
  | advances

namespace System

/-- A step that somebody may make is a move. -/
theorem step_eq_move {s : System} {a : Actor} (ready : s.isRunnable a = true) :
    s.step a = s.move (.act a) := by
  simp [move, act, ready]

/-- What has been published stays published. -/
theorem version_le_move (s : System) (m : Move) :
    s.world.version ≤ (s.move m).world.version :=
  (stagesIn_lasting s [] [m]).length_le

end System

namespace Schedule

/-- The first in the queue runs until he has to wait. When the queue is empty, those get into it who
have given up their turn. -/
def advance (s : Schedule) : Schedule :=
  match s.queue with
  | a :: rest => { s with queue := rest }.run a
  | [] => { s with queue := s.yielded, yielded := [] }

/-- The schedule after an occurrence. -/
def occur (s : Schedule) : Occurrence → Schedule
  | .comes m _ => s.move m
  | .begins q => s.begin q
  | .launches env => s.launch env
  | .advances => s.advance

/-- The schedule after a course of occurrences. -/
def after (s : Schedule) (course : List Occurrence) : Schedule := course.foldl occur s

variable {s : Schedule} {a : Actor}

@[simp] theorem after_nil : s.after [] = s := rfl

@[simp] theorem after_cons (o : Occurrence) (course : List Occurrence) :
    s.after (o :: course) = (s.occur o).after course := rfl

@[simp] theorem after_append (course course' : List Occurrence) :
    s.after (course ++ course') = (s.after course).after course' := by
  simp [after, List.foldl_append]

/-- Rounds are a number of occurrences, -/
theorem rounds_advances (fuel : Nat) (s : Schedule) :
    ∃ k, rounds fuel s = s.after (.replicate k .advances) := by
  induction fuel generalizing s with
  | zero => exact ⟨0, rfl⟩
  | succ fuel ih =>
    obtain ⟨system, queue, parked, yielded⟩ := s
    cases queue with
    | cons a rest =>
      obtain ⟨k, hk⟩ := ih (({ system, queue := rest, parked, yielded } : Schedule).run a)
      exact ⟨k + 1, hk⟩
    | nil =>
      cases yielded with
      | nil => exact ⟨0, rfl⟩
      | cons a rest =>
        obtain ⟨k, hk⟩ := ih { system, queue := a :: rest, parked }
        exact ⟨k + 1, hk⟩

/-- and so it is that everybody runs until everybody waits. -/
theorem settle_advances (s : Schedule) : ∃ k, s.settle = s.after (.replicate k .advances) :=
  rounds_advances _ s

/-! ## Runs of an actor -/

/-- Whether a running actor goes on without a break. -/
def goesOn (s : Schedule) (a : Actor) : Prop :=
  ∃ wait, s.system.waitOf a = some wait ∧ wait ≠ .turn ∧ s.system.ready wait = true

theorem place_of_goesOn (h : s.goesOn a) (goOn : Schedule → Schedule) :
    s.place a goOn = goOn s := by
  obtain ⟨wait, waits, notTurn, ready⟩ := h
  unfold place
  split
  · simp_all
  · simp_all
  · simp_all

/-- One who does not go on is put where he waits. -/
theorem place_of_halts (h : ¬ s.goesOn a) (goOn goOn' : Schedule → Schedule) :
    s.place a goOn = s.place a goOn' := by
  unfold place
  split
  · rfl
  · rfl
  · next wait notTurn waits =>
    have blocked : s.system.ready wait = false := by
      cases ready : s.system.ready wait with
      | false => rfl
      | true => exact absurd ⟨wait, waits, notTurn, ready⟩ h
    simp [blocked]

theorem isRunnable_of_goesOn (h : s.goesOn a) : s.system.isRunnable a = true := by
  obtain ⟨wait, waits, -, ready⟩ := h
  simp [System.isRunnable, waits, ready]

/-- What every step of a running actor keeps is so when he stops. -/
theorem place_drive {P : Schedule → Prop}
    (next : ∀ u : Schedule, u.goesOn a → P u → P (u.take (u.system.step a))) (fuel : Nat)
    {s : Schedule} (h : P s) : ∃ u : Schedule, P u ∧ s.place a (drive a fuel) = u.place a id := by
  induction fuel generalizing s with
  | zero =>
    refine ⟨s, h, ?_⟩
    rfl
  | succ fuel ih =>
    by_cases on : s.goesOn a
    · obtain ⟨u, hu, placed⟩ := ih (next s on h)
      exact ⟨u, hu, (place_of_goesOn on _).trans placed⟩
    · exact ⟨s, h, place_of_halts on _ _⟩

/-- So it is after a run from the queue, if his first step brings it about. -/
theorem run_drive {P : Schedule → Prop}
    (next : ∀ u : Schedule, u.goesOn a → P u → P (u.take (u.system.step a)))
    (first : s.system.isRunnable a = true → P (s.take (s.system.step a)))
    (idle : s.system.isRunnable a = false → P s) :
    ∃ u : Schedule, P u ∧ s.run a = u.place a id := by
  unfold run
  split
  · next ready => exact place_drive next _ (first ready)
  · next halts => exact ⟨s, idle (Bool.eq_false_iff.mpr halts), rfl⟩

/-! ## What is put where -/

@[simp] theorem system_take (t : System) : (s.take t).system = t := rfl

/-- Those who may go on now come behind all others. -/
theorem queue_take (t : System) : (s.take t).queue =
    s.queue ++ fresh s.system.world t.world ++ s.parked.filter t.isRunnable := by
  simp [take, wake]

theorem parked_take (t : System) :
    (s.take t).parked = s.parked.filter fun a => !t.isRunnable a := by
  simp [take, wake, Function.comp_def]

@[simp] theorem yielded_take (t : System) : (s.take t).yielded = s.yielded := rfl

@[simp] theorem system_place : (s.place a id).system = s.system := by
  unfold place
  split
  · rfl
  · rfl
  · split <;> rfl

theorem mem_fresh {old new : World} : a ∈ fresh old new ↔
    (∃ r, old.receivers.length ≤ r ∧ r < new.receivers.length ∧ a = .receiver r) ∨
      ∃ i, old.observers.length ≤ i ∧ i < new.observers.length ∧ a = .observer i := by
  have ranged : ∀ {m n k : Nat}, k ∈ (List.range n).drop m ↔ m ≤ k ∧ k < n := by
    intro m n k
    rw [List.range_eq_range', List.drop_range']
    simp only [List.mem_range', Nat.zero_add, Nat.mul_one, Nat.one_mul]
    constructor
    · rintro ⟨i, hi, rfl⟩
      omega
    · rintro ⟨hm, hn⟩
      exact ⟨k - m, by omega, by omega⟩
  simp only [fresh, List.mem_append, List.mem_map, ranged]
  constructor
  · rintro (⟨r, ⟨h, h'⟩, rfl⟩ | ⟨i, ⟨h, h'⟩, rfl⟩)
    · exact .inl ⟨r, h, h', rfl⟩
    · exact .inr ⟨i, h, h', rfl⟩
  · rintro (⟨r, h, h', rfl⟩ | ⟨i, h, h', rfl⟩)
    · exact .inl ⟨r, ⟨h, h'⟩, rfl⟩
    · exact .inr ⟨i, ⟨h, h'⟩, rfl⟩

/-- No job is new. -/
theorem job_not_fresh (old new : World) (n : Nat) : .job n ∉ fresh old new := by
  simp [mem_fresh]

/-! ## The order of those who watch and the one who publishes -/

/-- The order in a schedule in which a job publishes, and some are running: every observer who has
not seen the latest stage comes before that job. -/
structure Orderly (s : Schedule) (n : Nat) (on : List Actor) : Prop where
  /-- The job stands in one place, -/
  single : (on ++ s.queue ++ s.parked ++ s.yielded).count (.job n) ≤ 1
  /-- and only once it has been asked for. -/
  listed : .job n ∈ s.queue ++ s.parked ++ s.yielded → n < s.system.jobs.length
  /-- Every observer stands somewhere. -/
  watching : ∀ i < s.system.world.observers.length, .observer i ∈ on ++ s.queue ++ s.parked
  /-- Nobody waits who may go on. -/
  idle : ∀ a ∈ s.parked, s.system.isRunnable a = false
  /-- Who is behind has his turn before the job. -/
  ahead : ∀ i < s.system.world.observers.length, s.system.world.isBehind i = true →
    .observer i ∈ on ∨ ∃ l r, s.queue = l ++ .observer i :: r ∧ .job n ∉ l

namespace Orderly

variable {n : Nat} {on : List Actor}

/-- A later state of the system is taken in, in which only the job, if it is running, has
published. -/
theorem take (h : s.Orderly n on) {t : System} (jobs : s.system.jobs.length ≤ t.jobs.length)
    (news : .job n ∈ on ∨ ∀ i < t.world.observers.length, t.world.isBehind i = true →
      i < s.system.world.observers.length ∧ s.system.world.isBehind i = true) :
    (s.take t).Orderly n on := by
  have single : (on ++ (s.take t).queue ++ (s.take t).parked ++ (s.take t).yielded).count
      (.job n) ≤ 1 := by
    have split := (List.filter_append_perm t.isRunnable s.parked).count_eq (.job n)
    have none := List.count_eq_zero.mpr (job_not_fresh s.system.world t.world n)
    have := h.single
    simp only [queue_take, parked_take, yielded_take, List.count_append] at split this ⊢
    omega
  have watching : ∀ i < t.world.observers.length,
      .observer i ∈ on ++ (s.take t).queue ++ (s.take t).parked := by
    intro i hi
    rw [queue_take, parked_take]
    by_cases old : i < s.system.world.observers.length
    · have := h.watching i old
      simp only [List.mem_append, List.mem_filter] at this ⊢
      cases t.isRunnable (.observer i) <;> simp <;> tauto
    · have new : .observer i ∈ fresh s.system.world t.world :=
        mem_fresh.mpr (.inr ⟨i, Nat.not_lt.mp old, hi, rfl⟩)
      simp [new]
  have idle : ∀ a ∈ (s.take t).parked, t.isRunnable a = false := by
    intro a ha
    rw [parked_take] at ha
    simpa using (List.mem_filter.mp ha).2
  refine ⟨single, ?listed, watching, idle, ?ahead⟩
  case listed =>
    intro mem
    refine Nat.lt_of_lt_of_le (h.listed ?_) jobs
    have := job_not_fresh s.system.world t.world n
    simp only [queue_take, parked_take, yielded_take, List.mem_append, List.mem_filter] at mem ⊢
    tauto
  case ahead =>
    intro i hi behind
    rcases news with running | news
    · -- nobody comes behind the job while it is running
      have apart : .job n ∉ (s.take t).queue := fun mem => by
        have once : 0 < on.count (.job n) := List.count_pos_iff.mpr running
        have twice : 0 < (s.take t).queue.count (.job n) := List.count_pos_iff.mpr mem
        simp only [List.count_append] at single
        omega
      simp only [system_take] at hi behind
      have ready : t.isRunnable (.observer i) = true := by
        simp [System.isRunnable_observer, hi, behind]
      rcases List.mem_append.mp (watching i hi) with mem | mem
      · rcases List.mem_append.mp mem with mem | mem
        · exact .inl mem
        · obtain ⟨l, r, hqueue⟩ := List.append_of_mem mem
          refine .inr ⟨l, r, hqueue, fun before => apart ?_⟩
          rw [hqueue]
          exact List.mem_append_left _ before
      · rw [idle _ mem] at ready
        cases ready
    · obtain ⟨old, before⟩ := news i hi behind
      rcases h.ahead i old before with mem | ⟨l, r, hqueue, hl⟩
      · exact .inl mem
      · exact .inr ⟨l, r ++ fresh s.system.world t.world ++ s.parked.filter t.isRunnable, by
          simp [queue_take, hqueue], hl⟩

/-- A running actor who is no observer is gone. -/
theorem leave (h : s.Orderly n (a :: on))
    (apart : ∀ i < s.system.world.observers.length, a ≠ .observer i) : s.Orderly n on where
  single := by
    have := h.single
    rw [← List.singleton_append] at this
    simp only [List.count_append] at this ⊢
    omega
  listed := h.listed
  watching i hi := by
    rcases List.mem_cons.mp (h.watching i hi) with eq | mem
    · exact absurd eq.symm (apart i hi)
    · exact mem
  idle := h.idle
  ahead i hi behind := by
    rcases h.ahead i hi behind with mem | before
    · exact .inl ((List.mem_cons.mp mem).resolve_left fun eq => apart i hi eq.symm)
    · exact .inr before

/-- A running actor gives up his turn. -/
theorem yield (h : s.Orderly n [a]) (there : a = .job n → n < s.system.jobs.length)
    (apart : ∀ i < s.system.world.observers.length, a ≠ .observer i) :
    ({ s with yielded := s.yielded ++ [a] } : Schedule).Orderly n [] where
  single := by
    have := h.single
    simp only [List.count_append, List.count_nil] at this ⊢
    omega
  listed mem := by
    rw [← List.append_assoc] at mem
    rcases List.mem_append.mp mem with mem | mem
    · exact h.listed mem
    · exact there (List.mem_singleton.mp mem).symm
  watching := (h.leave apart).watching
  idle := h.idle
  ahead := (h.leave apart).ahead

/-- A running actor waits. -/
theorem park (h : s.Orderly n [a]) (there : a = .job n → n < s.system.jobs.length)
    (blocked : s.system.isRunnable a = false) :
    ({ s with parked := s.parked ++ [a] } : Schedule).Orderly n [] where
  single := by
    have := h.single
    simp only [List.count_append, List.count_nil] at this ⊢
    omega
  listed mem := by
    rcases (by simpa using mem :
        .job n ∈ s.queue ∨ .job n ∈ s.parked ∨ .job n = a ∨ .job n ∈ s.yielded) with
      mem | mem | eq | mem
    · exact h.listed (by simp [mem])
    · exact h.listed (by simp [mem])
    · exact there eq.symm
    · exact h.listed (by simp [mem])
  watching i hi := by
    have := h.watching i hi
    simp only [List.mem_append] at this ⊢
    tauto
  idle b hb := by
    rcases List.mem_append.mp hb with hb | hb
    · exact h.idle b hb
    · rw [List.mem_singleton.mp hb]
      exact blocked
  ahead i hi behind := by
    rcases h.ahead i hi behind with mem | before
    · -- one who waits is not behind
      rw [← List.mem_singleton.mp mem, System.isRunnable_observer] at blocked
      simp_all
    · exact .inr before

/-- Who has run stands where he waits, unless he is an observer who goes on. -/
theorem place (h : s.Orderly n [a]) (watches : ∀ i, a = .observer i → ¬ s.goesOn a) :
    (s.place a id).Orderly n [] := by
  have there : (s.system.waitOf a).isSome = true → a = .job n → n < s.system.jobs.length := by
    rintro waits rfl
    refine Nat.lt_of_not_le fun beyond => ?_
    simp [System.waitOf, List.getElem?_eq_none beyond] at waits
  by_cases on : s.goesOn a
  · rw [place_of_goesOn on]
    exact h.leave fun i _ eq => watches i eq on
  · unfold Schedule.place
    split
    · next gone =>
      refine h.leave fun i hi eq => ?_
      subst eq
      simp [System.waitOf, hi] at gone
    · next turn =>
      refine h.yield (there (by simp [turn])) fun i hi eq => ?_
      subst eq
      simp [System.waitOf, hi] at turn
    · next wait notTurn waits =>
      have blocked : s.system.ready wait = false :=
        Bool.eq_false_iff.mpr fun ready => on ⟨wait, waits, notTurn, ready⟩
      rw [if_neg (by simp [blocked])]
      exact h.park (there (by simp [waits])) (by simp [System.isRunnable, waits, blocked])

/-- The first in the queue begins to run. -/
theorem pop {rest : List Actor} (h : s.Orderly n []) (hqueue : s.queue = a :: rest) :
    ({ s with queue := rest } : Schedule).Orderly n [a] where
  single := by
    have := h.single
    rw [hqueue] at this
    simpa using this
  listed mem := h.listed (by
    rw [hqueue]
    exact List.mem_cons_of_mem _ mem)
  watching i hi := by
    have := h.watching i hi
    rw [hqueue] at this
    simpa using this
  idle := h.idle
  ahead i hi behind := by
    obtain ⟨l, r, split, hl⟩ := (h.ahead i hi behind).resolve_left List.not_mem_nil
    rw [hqueue] at split
    cases l with
    | nil => exact .inl (List.mem_singleton.mpr (List.cons.inj split).1.symm)
    | cons b l =>
      obtain ⟨rfl, rfl⟩ := List.cons.inj split
      exact .inr ⟨l, r, rfl, fun mem => hl (List.mem_cons_of_mem _ mem)⟩

/-- When the first in the queue is the job, nobody is behind. -/
theorem caughtUp {rest : List Actor} (h : s.Orderly n []) (hqueue : s.queue = .job n :: rest) :
    ∀ i < s.system.world.observers.length, s.system.world.isBehind i = false := by
  intro i hi
  refine Bool.eq_false_iff.mpr fun behind => ?_
  obtain ⟨l, r, split, hl⟩ := (h.ahead i hi behind).resolve_left List.not_mem_nil
  rw [hqueue] at split
  cases l with
  | nil => cases (List.cons.inj split).1
  | cons b l => exact hl ((List.cons.inj split).1 ▸ List.mem_cons_self)

/-- Those get into the queue who have given up their turn. -/
theorem rotate (h : s.Orderly n []) (hqueue : s.queue = []) :
    ({ s with queue := s.yielded, yielded := [] } : Schedule).Orderly n [] where
  single := by
    have := h.single
    rw [hqueue] at this
    simp only [List.count_append, List.count_nil] at this ⊢
    omega
  listed mem := h.listed (by
    simp only [List.mem_append] at mem ⊢
    tauto)
  watching i hi := by
    have := h.watching i hi
    rw [hqueue] at this
    simp only [List.nil_append] at this ⊢
    exact List.mem_append_right _ this
  idle := h.idle
  ahead i hi behind := by
    obtain ⟨l, r, split, -⟩ := (h.ahead i hi behind).resolve_left List.not_mem_nil
    simp [hqueue] at split

/-- Somebody new begins to run: the job itself only when it has not been asked for before. -/
theorem enrol (h : s.Orderly n on) (new : a = .job n → .job n ∉ on ∧ s.system.jobs.length ≤ n) :
    s.Orderly n (a :: on) where
  single := by
    by_cases eq : a = .job n
    · obtain ⟨off, beyond⟩ := new eq
      have nowhere : .job n ∉ s.queue ++ s.parked ++ s.yielded := fun mem =>
        absurd (h.listed mem) (Nat.not_lt.mpr beyond)
      have none := List.count_eq_zero.mpr nowhere
      have none' := List.count_eq_zero.mpr off
      subst eq
      simp only [List.count_append, List.cons_append, List.count_cons_self] at none ⊢
      omega
    · have := h.single
      simp only [List.count_append, List.count_cons_of_ne eq] at this ⊢
      exact this
  listed := h.listed
  watching i hi := List.mem_cons_of_mem _ (h.watching i hi)
  idle := h.idle
  ahead i hi behind := (h.ahead i hi behind).imp_left (List.mem_cons_of_mem _)

/-- A running job gets into the queue. -/
theorem enqueue {k : Nat} (h : s.Orderly n (.job k :: on)) (there : k < s.system.jobs.length) :
    ({ s with queue := s.queue ++ [.job k] } : Schedule).Orderly n on where
  single := by
    have := h.single
    rw [← List.singleton_append] at this
    simp only [List.count_append] at this ⊢
    omega
  listed mem := by
    rcases (by simpa using mem :
        .job n ∈ s.queue ∨ n = k ∨ .job n ∈ s.parked ∨ .job n ∈ s.yielded) with
      mem | rfl | mem | mem
    · exact h.listed (by simp [mem])
    · exact there
    · exact h.listed (by simp [mem])
    · exact h.listed (by simp [mem])
  watching i hi := by
    have := h.watching i hi
    simp only [List.cons_append, List.mem_cons, List.mem_append, reduceCtorEq, false_or] at this ⊢
    tauto
  idle := h.idle
  ahead i hi behind := by
    rcases h.ahead i hi behind with mem | ⟨l, r, split, hl⟩
    · exact .inl (by simpa using mem)
    · exact .inr ⟨l, r ++ [.job k], by simp [split], hl⟩

/-! ## The order is kept -/

/-- A step keeps it, if only the job has published in it. -/
theorem step (h : s.Orderly n [a]) (ready : s.system.isRunnable a = true)
    (own : a = .job n ∨ (s.system.step a).world.version = s.system.world.version) :
    (s.take (s.system.step a)).Orderly n [a] := by
  rw [System.step_eq_move ready] at own ⊢
  refine h.take (System.length_jobs_le _ _) ?_
  rcases own with rfl | quiet
  · exact .inl List.mem_cons_self
  · exact .inr fun i hi behind => System.isBehind_of_quiet quiet hi behind

/-- A running actor keeps it from a version on, as long as only the job has published since. -/
structure KeptFrom (n : Nat) (a : Actor) (version : Nat) (s : Schedule) : Prop where
  grown : version ≤ s.system.world.version
  order : a = .job n ∨ s.system.world.version = version → s.Orderly n [a]
  looks : ∀ i, a = .observer i → ¬ s.goesOn a

theorem KeptFrom.step {version : Nat} (ready : s.system.isRunnable a = true)
    (grown : version ≤ s.system.world.version)
    (order : a = .job n ∨ s.system.world.version = version → s.Orderly n [a]) :
    KeptFrom n a version (s.take (s.system.step a)) := by
  have grows : s.system.world.version ≤ (s.system.step a).world.version :=
    System.step_eq_move ready ▸ System.version_le_move _ _
  refine ⟨Nat.le_trans grown grows, fun own => ?_, ?_⟩
  · rcases own with running | same
    · exact (order (.inl running)).step ready (.inl running)
    · -- nothing has been published up to here, nor is it in this step
      have same : (s.system.step a).world.version = version := same
      exact (order (.inr (by omega))).step ready (.inr (by omega))
  · rintro i rfl on
    have again := isRunnable_of_goesOn on
    rw [System.isRunnable_observer] at ready again
    have watches := (Bool.and_eq_true_iff.mp ready).1
    have behind := (Bool.and_eq_true_iff.mp again).2
    have looked : (s.system.world.observe i).isBehind i = true := behind
    rw [World.isBehind_observe (of_decide_eq_true watches)] at looked
    simp at looked

/-- In the end he stands where he waits. -/
theorem KeptFrom.place {version : Nat} (h : KeptFrom n a version s)
    (own : a = .job n ∨ s.system.world.version = version) : (s.place a id).Orderly n [] :=
  (h.order own).place h.looks

/-- Who begins to run keeps it, if only the job has published. -/
theorem drive (h : s.Orderly n [a]) (apart : ∀ i, a ≠ .observer i) (fuel : Nat)
    (own : a = .job n ∨
      (s.place a (Schedule.drive a fuel)).system.world.version = s.system.world.version) :
    (s.place a (Schedule.drive a fuel)).Orderly n [] := by
  have start : KeptFrom n a s.system.world.version s :=
    ⟨Nat.le_refl _, fun _ => h, fun i eq => absurd eq (apart i)⟩
  obtain ⟨u, kept, placed⟩ := place_drive (fun u on hu =>
    KeptFrom.step (isRunnable_of_goesOn on) hu.grown hu.order) fuel start
  rw [placed, system_place] at own
  exact placed ▸ kept.place own

/-- So does the first in the queue. -/
theorem run (h : s.Orderly n [a])
    (own : a = .job n ∨ (s.run a).system.world.version = s.system.world.version) :
    (s.run a).Orderly n [] := by
  obtain ⟨u, kept, placed⟩ := run_drive (s := s) (a := a)
    (P := KeptFrom n a s.system.world.version)
    (fun u on hu => KeptFrom.step (isRunnable_of_goesOn on) hu.grown hu.order)
    (fun ready => KeptFrom.step ready (Nat.le_refl _) fun _ => h)
    (fun idle => ⟨Nat.le_refl _, fun _ => h, fun i _ on => by
      rw [isRunnable_of_goesOn on] at idle
      cases idle⟩)
  rw [placed, system_place] at own
  exact placed ▸ kept.place own

end Orderly

end Schedule

end TopicWorker
