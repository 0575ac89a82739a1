import Mathlib.Data.List.Sort
import TopicWorker.Proofs.Leading
import TopicWorker.Proofs.Occurrences

/-!
# What observers see

A watched value keeps only the latest stage, so an observer sees a stage only if he has his turn
before the next one is published. Whoever is behind stands in the queue ahead of the job that
publishes (`Schedule.Orderly`), and so has his turn before this job goes on after it has had to
wait. After the request it gives up its turn, so that nobody misses the request; nobody misses that
all is closed, since nothing is published after it; and an observer sees that the worker drains if
the stop or the close has had to wait.

What an observer has been told, in what he has seen and in what he is going to see when it is his
turn, is followed from occurrence to occurrence. In each one the job either does not go on, or it
goes on when nobody is behind, and of all that it publishes then only the last stage is told.

## Main definitions

* `Schedule.Sole`, `Schedule.Alone`: one job alone carries out a teardown, now and all along a
  course.
* `Schedule.Happens`: what an occurrence is to the job that publishes.
* `World.Told`: what an observer has been told.
* `Schedule.Steered`: a schedule in which one job publishes, and those who watch come first.
* `Schedule.Sees`: what an observer sees who has begun to watch before the request.

## Main results

* `Schedule.happens_occur`: in every occurrence the order is kept.
* `Schedule.Steered.told`: in every course an observer goes on to be told the stages in order.
* `Schedule.Steered.catchesUp`: an observer has his turn.
* `Schedule.stages_seen`: every observer sees the request and the end, and all stages if the stop or
  the close has had to wait.
-/

namespace TopicWorker

namespace Schedule

variable {s : Schedule} {a : Actor} {n : Nat}

/-! ## Runs -/

theorem place_moves (a : Actor) (fuel : Nat) (s : Schedule) :
    ∃ k, (s.place a (drive a fuel)).system = s.system.after (.replicate k (.act a)) := by
  obtain ⟨u, ⟨k, moved⟩, placed⟩ := place_drive (a := a) (s := s)
    (P := fun u => ∃ k, u.system = s.system.after (.replicate k (.act a)))
    (fun u on ⟨k, hu⟩ => ⟨k + 1, by
      rw [List.replicate_succ', System.after_concat, ← hu]
      exact System.step_eq_move (isRunnable_of_goesOn on)⟩) fuel ⟨0, rfl⟩
  exact ⟨k, by rw [placed, system_place, moved]⟩

theorem run_moves (a : Actor) (s : Schedule) :
    ∃ k, (s.run a).system = s.system.after (.replicate k (.act a)) := by
  obtain ⟨u, ⟨k, moved⟩, placed⟩ := run_drive (a := a) (s := s)
    (P := fun u => ∃ k, u.system = s.system.after (.replicate k (.act a)))
    (fun u on ⟨k, hu⟩ => ⟨k + 1, by
      rw [List.replicate_succ', System.after_concat, ← hu]
      exact System.step_eq_move (isRunnable_of_goesOn on)⟩)
    (fun ready => ⟨1, System.step_eq_move ready⟩) fun _ => ⟨0, rfl⟩
  exact ⟨k, by rw [placed, system_place, moved]⟩

theorem enter_moves (a : Actor) (s : Schedule) :
    ∃ k, (s.enter a).system = s.system.after (.replicate k (.act a)) :=
  place_moves a _ s

/-- Whatever happens, the system has made some moves. -/
theorem occur_moves (s : Schedule) (o : Occurrence) :
    ∃ ms, (s.occur o).system = s.system.after ms := by
  have entered : ∀ (m : Move) (a : Actor) (t : Schedule), t.system = s.system.move m →
      ∃ ms, (t.enter a).system = s.system.after ms := fun m a t first => by
    obtain ⟨k, runs⟩ := enter_moves a t
    exact ⟨m :: .replicate k (.act a), by rw [runs, first]; rfl⟩
  cases o with
  | comes m _ => exact ⟨[m], rfl⟩
  | begins q =>
    show ∃ ms, (s.begin q).system = _
    unfold begin
    dsimp only
    split
    · exact ⟨[.begin q], rfl⟩
    · exact entered (.begin q) _ _ rfl
  | launches env =>
    show ∃ ms, (s.launch env).system = _
    unfold launch
    dsimp only
    split
    · exact entered (.launch env) _ _ rfl
    · exact entered (.launch env) _ _ rfl
  | advances =>
    show ∃ ms, s.advance.system = _
    unfold advance
    split
    · next a rest _ =>
      obtain ⟨k, runs⟩ := run_moves a ({ s with queue := rest } : Schedule)
      exact ⟨_, runs⟩
    · exact ⟨[], rfl⟩

theorem after_moves (s : Schedule) (course : List Occurrence) :
    ∃ ms, (s.after course).system = s.system.after ms := by
  induction course generalizing s with
  | nil => exact ⟨[], rfl⟩
  | cons o course ih =>
    obtain ⟨ms, moves⟩ := s.occur_moves o
    obtain ⟨ms', moves'⟩ := ih (s.occur o)
    exact ⟨ms ++ ms', by rw [after_cons, moves', moves, System.after_append]⟩

/-- A job that has requested the shutdown stops. -/
theorem halts_of_yielding {stopper : Stopper} {closer : Closer}
    (yields : s.system.teardown? n = some (.yielding stopper closer)) : ¬ s.goesOn (.job n) := by
  rintro ⟨wait, waits, notTurn, -⟩
  obtain ⟨host, job⟩ := System.host_of_teardown? yields
  simp only [System.waitOf, job, Host.wait_task, Option.some.injEq] at waits
  exact notTurn waits.symm

/-- What becomes of a job that has published nothing is so after each of its steps. -/
theorem onset_step {stages : List Lifecycle} (on : s.goesOn (.job n))
    (onset : s.system.Onset n stages) : (s.system.step (.job n)).Onset n stages := by
  cases onset with
  | quiet same early =>
    have ready := isRunnable_of_goesOn on
    rw [System.step_eq_move ready, ← same]
    exact System.onset_act early ready
  | opens _ yields =>
    obtain ⟨stopper, closer, yields⟩ := yields
    exact absurd on (halts_of_yielding yields)

theorem place_onset (early : s.system.HasPublished n []) (fuel : Nat) :
    (s.place (.job n) (drive (.job n) fuel)).system.Onset n
      (stagesIn s.system.world.trace) := by
  obtain ⟨u, onset, placed⟩ := place_drive (a := .job n) (s := s)
    (P := fun u => u.system.Onset n (stagesIn s.system.world.trace))
    (fun u on hu => onset_step on hu) fuel (.quiet rfl early)
  rwa [placed, system_place]

theorem run_onset (early : s.system.HasPublished n []) :
    (s.run (.job n)).system.Onset n (stagesIn s.system.world.trace) := by
  obtain ⟨u, onset, placed⟩ := run_drive (a := .job n) (s := s)
    (P := fun u => u.system.Onset n (stagesIn s.system.world.trace))
    (fun u on hu => onset_step on hu)
    (fun ready => by
      rw [system_take, System.step_eq_move ready]
      exact System.onset_act early ready)
    fun _ => .quiet rfl early
  rwa [placed, system_place]

/-! ## What an occurrence is to the job that publishes -/

/-- One job alone carries out a teardown. -/
def Sole (s : Schedule) (n : Nat) : Prop := ∀ j b, s.system.teardown? j = some b → j = n

/-- Only the jobs that have been asked for have to be looked at. -/
theorem sole_iff : s.Sole n ↔
    ∀ j < s.system.jobs.length, (s.system.teardown? j).isSome = true → j = n := by
  constructor
  · intro sole j _ under
    obtain ⟨b, under⟩ := Option.isSome_iff_exists.mp under
    exact sole j b under
  · intro all j b under
    obtain ⟨host, job⟩ := System.host_of_teardown? under
    exact all j (List.getElem?_eq_some_iff.mp job).1 (under ▸ rfl)

instance (s : Schedule) (n : Nat) : Decidable (s.Sole n) := decidable_of_iff' _ sole_iff

/-- What an occurrence is to the job that publishes. -/
inductive Happens (n : Nat) (s s' : Schedule) : Prop where
  /-- The job does not go on, and nothing is published. -/
  | aside (ms : List Move) (others : ∀ m ∈ ms, m ≠ .act (.job n))
    (moves : s'.system = s.system.after ms)
    (quiet : stagesIn s'.system.world.trace = stagesIn s.system.world.trace)
  /-- The job goes on when nobody is behind. It may have been asked for just now. -/
  | own (first : List Move) (k : Nat) (new : first = [] ∨ s.system.jobs[n]? = none)
    (quiet : stagesIn (s.system.after first).world.trace = stagesIn s.system.world.trace)
    (observers : (s.system.after first).world.observers = s.system.world.observers)
    (caughtUp : ∀ i < s.system.world.observers.length, s.system.world.isBehind i = false)
    (moves : s'.system = (s.system.after first).after (.replicate k (.act (.job n))))
    (onset : stagesIn s.system.world.trace = [] →
      stagesIn s'.system.world.trace <+: [.shutdownRequested])

/-- The first stage is published alone. -/
theorem onset_prefix {s' : Schedule} {stages : List Lifecycle} (onset : s'.system.Onset n stages)
    (none : stages = []) : stagesIn s'.system.world.trace <+: [.shutdownRequested] := by
  cases onset with
  | quiet same early => rw [same, none]; exact List.nil_prefix
  | opens requested yields => rw [requested, none]; exact List.prefix_rfl

/-- Nobody but a job publishes when he runs. -/
theorem stages_of_acts (t : System) (other : ∀ j, a ≠ .job j) (k : Nat) :
    stagesIn (t.after (.replicate k (.act a))).world.trace = stagesIn t.world.trace := by
  induction k with
  | zero => rfl
  | succ k ih =>
    rw [List.replicate_succ', System.after_concat, ← ih]
    exact System.quiet_of_no_job fun j h => other j (Move.act.inj h)

theorem happens_comes (orderly : s.Orderly n []) {m : Move} (outside : m.isOutside = true) :
    (s.move m).Orderly n [] ∧ Happens n s (s.move m) := by
  have idle : ∀ j, m ≠ .act (.job j) := by
    rintro j rfl
    cases outside
  have quiet : s.system.Quiet m := System.quiet_of_no_job idle
  refine ⟨orderly.take (System.length_jobs_le _ _) (.inr fun i hi behind => ?_),
    .aside [m] ?_ rfl quiet⟩
  · exact System.isBehind_of_quiet quiet.version hi behind
  · simpa using idle n

/-- The first in the queue runs. -/
theorem happens_run (orderly : s.Orderly n []) (led : s.system.Led n) {rest : List Actor}
    (hqueue : s.queue = a :: rest) (sole : s.Sole n)
    (sole' : (({ s with queue := rest } : Schedule).run a).Sole n) :
    (({ s with queue := rest } : Schedule).run a).Orderly n [] ∧
      Happens n s (({ s with queue := rest } : Schedule).run a) := by
  have popped := orderly.pop hqueue
  obtain ⟨k, moves⟩ := run_moves a ({ s with queue := rest } : Schedule)
  by_cases mine : a = .job n
  · subst mine
    refine ⟨popped.run (.inl rfl), .own [] k (.inl rfl) rfl rfl (orderly.caughtUp hqueue) moves ?_⟩
    intro none
    have early : s.system.HasPublished n [] := none ▸ led.hasPublished
    exact onset_prefix (run_onset (s := { s with queue := rest }) early) none
  · have quiet : stagesIn (({ s with queue := rest } : Schedule).run a).system.world.trace =
        stagesIn s.system.world.trace := by
      cases a with
      | job j =>
        have apart : j ≠ n := fun h => mine (h ▸ rfl)
        have early : s.system.HasPublished j [] :=
          System.hasPublished_nil fun b under => absurd (sole j b under) apart
        cases run_onset (s := { s with queue := rest }) early with
        | quiet same early => exact same
        | opens _ yields =>
          obtain ⟨stopper, closer, yields⟩ := yields
          exact absurd (sole' j _ yields) apart
      | receiver r => rw [moves]; exact stages_of_acts s.system (by simp) k
      | observer i => rw [moves]; exact stages_of_acts s.system (by simp) k
    refine ⟨popped.run (.inr (congrArg List.length quiet)), .aside _ ?_ moves quiet⟩
    intro m hm
    rw [List.eq_of_mem_replicate hm]
    exact fun h => mine (Move.act.inj h)

/-- A new job runs. -/
theorem happens_enter (led : s.system.Led n) {m : Move} {u : Turn Task Outcome}
    (takes : s.system.Takes m s.system.jobs.length u) (asked : ∀ j, m ≠ .act (.job j))
    {t : Schedule} (system : t.system = s.system.move m)
    (orderly : t.Orderly n [.job s.system.jobs.length])
    (sole' : (t.enter (.job s.system.jobs.length)).Sole n) :
    (t.enter (.job s.system.jobs.length)).Orderly n [] ∧
      Happens n s (t.enter (.job s.system.jobs.length)) := by
  have absent : s.system.jobs[s.system.jobs.length]? = none := by simp
  have quiet : s.system.Quiet m := System.quiet_of_no_job asked
  have early : t.system.HasPublished s.system.jobs.length [] := by
    have hasPublished := System.hasPublished_move ((System.hasPublished_of_none absent).mpr rfl) m
    rw [System.stagesIn_of_absent absent] at hasPublished
    rw [system]
    exact hasPublished
  have onset := place_onset early t.system.remaining
  obtain ⟨k, runs⟩ := enter_moves (.job s.system.jobs.length) t
  have moves : (t.enter (.job s.system.jobs.length)).system = (s.system.move m).after
      (.replicate k (.act (.job s.system.jobs.length))) := by
    rw [← system]
    exact runs
  have stages : stagesIn t.system.world.trace = stagesIn s.system.world.trace := system ▸ quiet
  by_cases mine : s.system.jobs.length = n
  · subst mine
    have none : stagesIn s.system.world.trace = [] :=
      (System.hasPublished_of_none absent).mp led.hasPublished
    refine ⟨orderly.drive (by simp) _ (.inl rfl), .own [m] k (.inr absent) quiet ?_ ?_ moves ?_⟩
    · show (s.system.move m).world.observers = _
      rw [takes.turned.world]
      exact keptByJobs_observers.takes takes
    · intro i hi
      refine Bool.eq_false_iff.mpr fun behind => ?_
      have blank := led.blank none i hi
      rw [World.reading_of_behind behind] at blank
      simp at blank
    · exact fun _ => onset_prefix onset (stages.trans none)
  · cases onset with
    | opens _ yields =>
      obtain ⟨stopper, closer, yields⟩ := yields
      exact absurd (sole' _ _ yields) mine
    | quiet same _ =>
      refine ⟨orderly.drive (by simp) _ (.inr (congrArg List.length same)),
        .aside (m :: .replicate k (.act (.job s.system.jobs.length))) ?_ moves
          (same.trans stages)⟩
      intro m' hm
      rcases List.mem_cons.mp hm with rfl | hm
      · exact asked n
      · rw [List.eq_of_mem_replicate hm]
        exact fun h => mine (Actor.job.inj (Move.act.inj h))

/-- Those who have just been asked for begin to run. -/
theorem orderly_asked (orderly : s.Orderly n []) (m : Move) (asked : ∀ j, m ≠ .act (.job j)) :
    (s.take (s.system.move m)).Orderly n [.job s.system.jobs.length] ∧
      (s.take (s.system.move m)).Orderly n
        [.job (s.system.jobs.length + 1), .job s.system.jobs.length] := by
  have quiet : s.system.Quiet m := System.quiet_of_no_job asked
  have first := orderly.enrol (a := .job s.system.jobs.length) fun h => by
    simp [Actor.job.inj h]
  have second := first.enrol (a := .job (s.system.jobs.length + 1)) fun h => by
    simp [← Actor.job.inj h]
  have news : ∀ i < (s.system.move m).world.observers.length,
      (s.system.move m).world.isBehind i = true →
        i < s.system.world.observers.length ∧ s.system.world.isBehind i = true :=
    fun i hi behind => System.isBehind_of_quiet quiet.version hi behind
  exact ⟨first.take (System.length_jobs_le _ _) (.inr news),
    second.take (System.length_jobs_le _ _) (.inr news)⟩

theorem happens_begin (orderly : s.Orderly n []) (led : s.system.Led n) (q : Request)
    (sole' : (s.begin q).Sole n) : (s.begin q).Orderly n [] ∧ Happens n s (s.begin q) := by
  have asked : ∀ j, Move.begin q ≠ .act (.job j) := by simp
  obtain ⟨orderly, -⟩ := orderly_asked orderly (.begin q) asked
  have there : s.system.jobs.length < (s.system.begin q).jobs.length := by
    have job := (System.Takes.begins (s := s.system) q).turned.job
    exact (List.getElem?_eq_some_iff.mp job).1
  unfold begin at sole' ⊢
  dsimp only at sole' ⊢
  split at sole'
  · exact ⟨orderly.enqueue there, .aside [.begin q] (by simp) rfl (System.quiet_of_no_job asked)⟩
  · exact happens_enter led (.begins q) asked rfl orderly sole'

theorem happens_launch (orderly : s.Orderly n []) (led : s.system.Led n) (env : Environment)
    (sole' : (s.launch env).Sole n) : (s.launch env).Orderly n [] ∧ Happens n s (s.launch env) := by
  have asked : ∀ j, Move.launch env ≠ .act (.job j) := by simp
  obtain ⟨alone, both⟩ := orderly_asked orderly (.launch env) asked
  unfold launch at sole' ⊢
  dsimp only at sole' ⊢
  split at sole'
  · next listens =>
    have there : s.system.jobs.length + 1 < (s.system.launch env).jobs.length := by
      by_contra beyond
      simp [System.waitOf, List.getElem?_eq_none (Nat.not_lt.mp beyond)] at listens
    exact happens_enter led (.launches env) asked rfl (both.enqueue there) sole'
  · exact happens_enter led (.launches env) asked rfl alone sole'

/-- Every occurrence keeps the order. -/
theorem happens_occur (orderly : s.Orderly n []) (led : s.system.Led n) (o : Occurrence)
    (sole : s.Sole n) (sole' : (s.occur o).Sole n) :
    (s.occur o).Orderly n [] ∧ Happens n s (s.occur o) := by
  cases o with
  | comes m outside => exact happens_comes orderly outside
  | begins q => exact happens_begin orderly led q sole'
  | launches env => exact happens_launch orderly led env sole'
  | advances =>
    cases hqueue : s.queue with
    | nil =>
      have rotated : s.occur .advances = { s with queue := s.yielded, yielded := [] } := by
        simp only [occur, advance, hqueue]
      rw [rotated]
      exact ⟨orderly.rotate hqueue, .aside [] (by simp) rfl rfl⟩
    | cons a rest =>
      have runs : s.occur .advances = ({ s with queue := rest } : Schedule).run a := by
        simp only [occur, advance, hqueue]
      rw [runs] at sole' ⊢
      exact happens_run orderly led hqueue sole sole'

/-! ## What an occurrence shows -/

theorem Happens.goes {s' : Schedule} (h : Happens n s s') : System.Goes n s.system s'.system := by
  cases h with
  | aside ms _ moves quiet =>
    rw [moves] at quiet ⊢
    exact System.goes_of_quiet ms quiet
  | own first k _ quiet _ _ moves _ =>
    rw [moves]
    exact (System.goes_of_quiet first quiet).trans (System.goes_of_acts _ n k)

/-- The turns of a job leave those alone who watch. -/
theorem observers_of_acts (t : System) (n k : Nat) :
    (t.after (.replicate k (.act (.job n)))).world.observers = t.world.observers := by
  induction k with
  | zero => rfl
  | succ k ih =>
    rw [List.replicate_succ', System.after_concat]
    generalize t.after (.replicate k (.act (.job n))) = u at ih
    by_cases ready : u.isRunnable (.job n) = true
    · obtain ⟨task, job, ready⟩ := (System.isRunnable_job u n).mp ready
      have takes := System.Takes.goesOn job ready
      rw [takes.turned.world, keptByJobs_observers.takes takes, ih]
    · have still : u.move (.act (.job n)) = u := by simp [System.move, System.act, ready]
      rw [still, ih]

end Schedule

/-- What an observer is shown between two moments: nothing, or one stage after the one before. -/
inductive World.Shows (i : Nat) (w w' : World) : Prop where
  | nothing (kept : w'.lifecycle = w.lifecycle) (reading : w'.reading i = w.reading i)
  | next (reading : w'.reading i = w.reading i ++ [w'.lifecycle])
    (later : w.lifecycle.rank < w'.lifecycle.rank)
    (first : w.lifecycle = .running → w'.lifecycle = .shutdownRequested)

/-- What an observer has been told who has begun to watch while the worker was running. -/
structure World.Told (w : World) (i : Nat) : Prop where
  /-- The stages are in order, and none comes twice, -/
  ascends : (.running :: w.reading i).Pairwise fun a b : Lifecycle => a.rank < b.rank
  /-- the last one is current, -/
  latest : (w.reading i).getLast?.getD .running = w.lifecycle
  /-- and the request is among them. -/
  requested : w.lifecycle ≠ .running → .shutdownRequested ∈ w.reading i

/-- A stage after the last one comes after all. -/
theorem pairwise_concat_of_last {l : List Lifecycle} {last next : Lifecycle}
    (ascends : (.running :: l).Pairwise fun a b : Lifecycle => a.rank < b.rank)
    (latest : l.getLast?.getD .running = last) (later : last.rank < next.rank) :
    (.running :: (l ++ [next])).Pairwise fun a b : Lifecycle => a.rank < b.rank := by
  rw [← List.cons_append]
  refine List.pairwise_append.mpr ⟨ascends, List.pairwise_singleton _ _, fun a ha b hb => ?_⟩
  obtain rfl := List.mem_singleton.mp hb
  have weakly : (.running :: l).Pairwise fun a b : Lifecycle => a.rank ≤ b.rank :=
    ascends.imp Nat.le_of_lt
  have last_of : (Lifecycle.running :: l).getLast?.getD .running = last := by
    rw [← latest]
    cases l with
    | nil => rfl
    | cons b l => rw [List.getLast?_cons_cons]
  exact Nat.lt_of_le_of_lt (last_of ▸ System.rank_le_last weakly ha) later

namespace World.Told

variable {w w' : World} {i : Nat}

/-- Where nothing has been published an observer has been told nothing. -/
theorem of_blank (running : w.lifecycle = .running) (blank : w.reading i = []) : w.Told i where
  ascends := by rw [blank]; exact List.pairwise_singleton _ _
  latest := by rw [blank, running]; rfl
  requested later := absurd running later

/-- He goes on to be told what he is shown. -/
theorem shows (h : w.Told i) (shows : World.Shows i w w') :
    w'.Told i ∧ w.reading i <+: w'.reading i := by
  cases shows with
  | nothing kept reading =>
    refine ⟨⟨?_, ?_, ?_⟩, reading ▸ List.prefix_rfl⟩
    · rw [reading]; exact h.ascends
    · rw [reading, kept]; exact h.latest
    · rw [reading, kept]; exact h.requested
  | next reading later first =>
    refine ⟨⟨?_, ?_, fun _ => ?_⟩, reading ▸ List.prefix_append _ _⟩
    · rw [reading]
      exact pairwise_concat_of_last h.ascends h.latest later
    · rw [reading, List.getLast?_concat]
      rfl
    · rw [reading]
      by_cases running : w.lifecycle = .running
      · simp [first running]
      · exact List.mem_append_left _ (h.requested running)

end World.Told

namespace Schedule

variable {s : Schedule} {n : Nat}

/-- What an occurrence shows to an observer. -/
theorem Happens.shows {s' : Schedule} (h : Happens n s s') (led : s.system.Led n) {i : Nat}
    (hi : i < s.system.world.observers.length) :
    World.Shows i s.system.world s'.system.world := by
  have goes := h.goes
  have led' := led.goes goes
  have latest := led.latest
  have latest' := led'.latest
  unfold World.UpToDate at latest latest'
  by_cases quiet : stagesIn s'.system.world.trace = stagesIn s.system.world.trace
  · exact .nothing (by rw [latest, latest', quiet]) (goes.reading led quiet hi)
  · cases h with
    | aside _ _ _ same => exact absurd same quiet
    | own first k _ _ observers caughtUp moves onset =>
      have watching : s'.system.world.observers = s.system.world.observers := by
        rw [moves, observers_of_acts, observers]
      have same : s'.system.world.observer i = s.system.world.observer i := by
        rw [World.observer, watching]
        rfl
      have more : s.system.world.version < s'.system.world.version :=
        Nat.lt_of_le_of_ne goes.lasting.length_le fun h => quiet
          (goes.lasting.eq_of_length h).symm
      have before := caughtUp i hi
      have behind : s'.system.world.isBehind i = true := by
        have read : (s.system.world.observer i).version = s.system.world.version := by
          simpa [World.isBehind] using before
        rw [World.isBehind, same, read]
        simp only [bne_iff_ne]
        omega
      refine .next ?_ ?_ fun running => ?_
      · rw [World.reading_of_behind behind, World.reading_of_caughtUp before, same]
      · rw [led.rank, led'.rank]
        exact more
      · have none : stagesIn s.system.world.trace = [] := by
          have rank := led.rank
          rw [running] at rank
          exact List.length_eq_zero_iff.mp rank.symm
        have one := onset none
        rw [none] at quiet
        have all := one.eq_of_length_le (List.length_pos_iff.mpr quiet)
        rw [latest', all]
        rfl

/-! ## Courses -/

/-- All along a course one job alone carries out a teardown. -/
def Alone (s : Schedule) (course : List Occurrence) (n : Nat) : Prop :=
  ∀ c, c <+: course → (s.after c).Sole n

section Alone

variable {course c d : List Occurrence}

theorem Alone.here (h : s.Alone course n) : s.Sole n := h [] List.nil_prefix

theorem Alone.there (h : s.Alone course n) : (s.after course).Sole n := h course List.prefix_rfl

/-- So it is along every beginning of the course, -/
theorem Alone.initial (h : s.Alone course n) (hc : c <+: course) : s.Alone c n :=
  fun c' hc' => h c' (hc'.trans hc)

/-- and along what is left of it. -/
theorem Alone.rest (h : s.Alone (c ++ d) n) : (s.after c).Alone d n := fun d' hd => by
  rw [← after_append]
  exact h _ ((List.prefix_append_right_inj c).mpr hd)

theorem alone_iff :
    s.Alone course n ↔ ∀ k < course.length + 1, (s.after (course.take k)).Sole n := by
  constructor
  · exact fun h k _ => h _ (List.take_prefix k course)
  · intro h c hc
    exact List.prefix_iff_eq_take.mp hc ▸ h c.length (Nat.lt_succ_of_le hc.length_le)

instance (s : Schedule) (course : List Occurrence) (n : Nat) : Decidable (s.Alone course n) :=
  decidable_of_iff' _ alone_iff

end Alone

/-- A schedule in which one job publishes, and those who watch come first. -/
structure Steered (s : Schedule) (n : Nat) : Prop where
  orderly : s.Orderly n []
  led : s.system.Led n

/-- A session begins so. -/
theorem steered_ofSetup (setup : Setup) (n : Nat) : (Session.ofSetup setup).schedule.Steered n where
  orderly :=
    { single := by simp [Session.ofSetup]
      listed := by simp [Session.ofSetup]
      watching := by simp [Session.ofSetup, Setup.system]
      idle := by
        intro a ha
        obtain rfl : a = .observer 0 := by simpa [Session.ofSetup] using ha
        rfl
      ahead := by
        intro i hi behind
        obtain rfl : i = 0 := by simpa [Session.ofSetup, Setup.system] using hi
        cases behind }
  led :=
    { hasPublished := rfl
      latest := rfl
      requested := fun h => absurd rfl h
      blank := by
        intro _ i hi
        obtain rfl : i = 0 := by simpa [Session.ofSetup, Setup.system] using hi
        rfl }

namespace Steered

variable {i : Nat}

theorem occur (h : s.Steered n) (o : Occurrence) (sole : s.Sole n) (sole' : (s.occur o).Sole n) :
    (s.occur o).Steered n ∧ Happens n s (s.occur o) := by
  obtain ⟨orderly, happens⟩ := happens_occur h.orderly h.led o sole sole'
  exact ⟨⟨orderly, h.led.goes happens.goes⟩, happens⟩

/-- It stays so in every course in which one job alone carries out a teardown. -/
theorem after (h : s.Steered n) {course : List Occurrence} (alone : s.Alone course n) :
    (s.after course).Steered n ∧ System.Goes n s.system (s.after course).system := by
  induction course generalizing s with
  | nil => exact ⟨h, .stays⟩
  | cons o course ih =>
    have first : s.Alone [o] n := alone.initial ⟨course, rfl⟩
    obtain ⟨steered, happens⟩ := h.occur o alone.here first.there
    obtain ⟨steered', goes⟩ := ih steered (alone.rest (c := [o]))
    exact ⟨steered', happens.goes.trans goes⟩

/-- In every such course an observer goes on to be told what he is shown. -/
theorem told (h : s.Steered n) (hi : i < s.system.world.observers.length)
    (told : s.system.world.Told i) {course : List Occurrence} (alone : s.Alone course n) :
    (s.after course).system.world.Told i ∧
      s.system.world.reading i <+: (s.after course).system.world.reading i := by
  induction course generalizing s with
  | nil => exact ⟨told, List.prefix_rfl⟩
  | cons o course ih =>
    have first : s.Alone [o] n := alone.initial ⟨course, rfl⟩
    obtain ⟨steered, happens⟩ := h.occur o alone.here first.there
    obtain ⟨told', grows⟩ := told.shows (happens.shows h.led hi)
    have hi' := Nat.lt_of_lt_of_le hi happens.goes.watching
    obtain ⟨told'', grows'⟩ := ih steered hi' told' (alone.rest (c := [o]))
    exact ⟨told'', grows.trans grows'⟩

end Steered

/-! ## The turn of an observer -/

section Turn

variable {a : Actor} {i : Nat}

/-- Those who run let everybody keep his place in the queue. -/
theorem queue_run (s : Schedule) (a : Actor) : s.queue <+: (s.run a).queue := by
  have grows : ∀ (u : Schedule) (t : System), s.queue <+: u.queue → s.queue <+: (u.take t).queue :=
    fun u t h => by
      rw [queue_take, List.append_assoc]
      exact h.trans (List.prefix_append _ _)
  obtain ⟨u, kept, placed⟩ := run_drive (s := s) (a := a) (P := fun u => s.queue <+: u.queue)
    (fun u _ h => grows u _ h) (fun _ => grows s _ List.prefix_rfl) fun _ => List.prefix_rfl
  have same : (u.place a id).queue = u.queue := by
    unfold place
    split
    · rfl
    · rfl
    · split <;> rfl
  rw [placed, same]
  exact kept

/-- An observer who has had his turn is not behind. -/
theorem isBehind_run (hi : i < s.system.world.observers.length) :
    (s.run (.observer i)).system.world.isBehind i = false := by
  obtain ⟨u, looked, placed⟩ := run_drive (s := s) (a := .observer i)
    (P := fun u => u.system.world.isBehind i = false)
    (fun u on looked => by
      have ready := isRunnable_of_goesOn on
      rw [System.isRunnable_observer, looked, Bool.and_false] at ready
      cases ready)
    (fun _ => by
      show (s.system.world.observe i).isBehind i = false
      simp [World.isBehind_observe hi])
    fun idle => by
      rw [System.isRunnable_observer, decide_eq_true hi, Bool.true_and] at idle
      exact idle
  rw [placed, system_place]
  exact looked

/-- Whoever is in the queue has his turn. -/
theorem isBehind_of_queue (hi : i < s.system.world.observers.length) (l : List Actor) :
    ∀ r, s.queue = l ++ .observer i :: r →
      ∃ k, (s.after (.replicate k .advances)).system.world.isBehind i = false := by
  induction l generalizing s with
  | nil =>
    intro r hqueue
    have runs : s.occur .advances = ({ s with queue := r } : Schedule).run (.observer i) := by
      simp only [occur, advance, hqueue, List.nil_append]
    refine ⟨1, ?_⟩
    show (s.occur .advances).system.world.isBehind i = false
    rw [runs]
    exact isBehind_run hi
  | cons a l ih =>
    intro r hqueue
    have runs : s.occur .advances =
        ({ s with queue := l ++ .observer i :: r } : Schedule).run a := by
      simp only [occur, advance, hqueue, List.cons_append]
    obtain ⟨more, kept⟩ := queue_run ({ s with queue := l ++ .observer i :: r } : Schedule) a
    obtain ⟨j, moves⟩ := run_moves a ({ s with queue := l ++ .observer i :: r } : Schedule)
    have still : i < (s.occur .advances).system.world.observers.length := by
      rw [runs, moves]
      exact Nat.lt_of_lt_of_le hi (System.length_observers_after _ _)
    obtain ⟨k, looked⟩ := ih still (r ++ more) (by rw [runs, ← kept]; simp)
    exact ⟨k + 1, looked⟩

/-- An observer catches up when those before him have had their turn. -/
theorem Steered.catchesUp (h : s.Steered n) (hi : i < s.system.world.observers.length) :
    ∃ k, (s.after (.replicate k .advances)).system.world.isBehind i = false := by
  cases behind : s.system.world.isBehind i with
  | false => exact ⟨0, behind⟩
  | true =>
    obtain ⟨l, r, hqueue, -⟩ := (h.orderly.ahead i hi behind).resolve_left List.not_mem_nil
    exact isBehind_of_queue hi l r hqueue

end Turn

/-! ## What observers see -/

/-- What an observer has seen, from the stage that he starts with. -/
def seenBy (s : Schedule) (i : Nat) : List Lifecycle :=
  .running :: (s.system.world.observer i).seen

/-- In a course the teardown of a job has returned. -/
def Returned (s : Schedule) (course : List Occurrence) (n : Nat) : Prop :=
  (∃ c, c <+: course ∧ ∃ b, (s.after c).system.teardown? n = some b) ∧
    (s.after course).system.teardown? n = none ∧
    ∀ payload, (s.after course).system.jobs[n]? ≠ some (.crashed payload)

/-- In a course the stop or the close of a job's teardown has had to wait. -/
def Suspended (s : Schedule) (course : List Occurrence) (n : Nat) : Prop :=
  ∃ c, c <+: course ∧ ∃ b, (s.after c).system.teardown? n = some b ∧ b.next = .closed

/-- In a course the teardown of a job has come to stop a consumer that nobody has stopped before,
and whose loop goes on. -/
def StopsConsumer (s : Schedule) (course : List Occurrence) (n : Nat) : Prop :=
  ∃ c o, c ++ [o] <+: course ∧ ∃ r closer,
    (s.after c).system.teardown? n = some (.yielding (.receiver r) closer) ∧
    ((s.after c).system.world.receiver r).joinable = true ∧
    ((s.after c).system.world.receiver r).loop.isOver = false ∧
    (s.after (c ++ [o])).system.teardown? n ≠ some (.yielding (.receiver r) closer)

/-- What is said of an observer who watches since a moment of a course. -/
structure Sees (s : Schedule) (n : Nat) (course course' : List Occurrence) (i : Nat) : Prop where
  /-- The worker is running when he begins to watch, and he has seen nothing else. -/
  starts : (s.after course).system.world.lifecycle = .running ∧
    (s.after course).seenBy i = [.running]
  /-- The stages that he sees are strictly in order. -/
  ascends : ((s.after (course ++ course')).seenBy i).Pairwise fun a b => a.rank < b.rank
  /-- When the teardown has returned and he has had his turn, he has seen the request and, at last,
  that all is closed. -/
  ends : s.Returned (course ++ course') n →
    (s.after (course ++ course')).system.world.isBehind i = false →
      (s.after (course ++ course')).seenBy i = [.running, .shutdownRequested, .closed] ∨
      (s.after (course ++ course')).seenBy i =
        [.running, .shutdownRequested, .draining, .closed]
  /-- If the stop or the close has had to wait, he has seen every stage. -/
  suspended : s.Suspended (course ++ course') n → s.Returned (course ++ course') n →
    (s.after (course ++ course')).system.world.isBehind i = false →
      (s.after (course ++ course')).seenBy i =
        [.running, .shutdownRequested, .draining, .closed]
  /-- So he has if a consumer has been stopped whose loop went on. -/
  consumer : s.StopsConsumer (course ++ course') n → s.Returned (course ++ course') n →
    (s.after (course ++ course')).system.world.isBehind i = false →
      (s.after (course ++ course')).seenBy i =
        [.running, .shutdownRequested, .draining, .closed]
  /-- He has his turn when those before him have had theirs, -/
  turn : ∃ k, (s.after (course ++ course' ++ .replicate k .advances)).system.world.isBehind i =
    false
  /-- and a teardown that has returned has returned for good. -/
  stays : s.Returned (course ++ course') n → ∀ more, s.Returned (course ++ course' ++ more) n

/-- Stages that are strictly in order are known by which they are. -/
theorem eq_of_ascends {l l' : List Lifecycle} (h : l.Pairwise fun a b => a.rank < b.rank)
    (h' : l'.Pairwise fun a b => a.rank < b.rank) (same : ∀ stage, stage ∈ l ↔ stage ∈ l') :
    l = l' := by
  have : Std.Irrefl fun a b : Lifecycle => a.rank < b.rank := ⟨fun a => Nat.lt_irrefl a.rank⟩
  have : Std.Antisymm fun a b : Lifecycle => a.rank < b.rank :=
    ⟨fun a b before after => absurd after (Nat.lt_asymm before)⟩
  exact h.eq_of_mem_iff h' same

/-- Whoever has been told of the request and of the end has been told of these two, or of all
stages. -/
theorem eq_of_told {l : List Lifecycle}
    (ascends : (.running :: l).Pairwise fun a b : Lifecycle => a.rank < b.rank)
    (requested : .shutdownRequested ∈ l) (closed : .closed ∈ l) :
    (.draining ∉ l ∧ .running :: l = [.running, .shutdownRequested, .closed]) ∨
      .running :: l = [.running, .shutdownRequested, .draining, .closed] := by
  by_cases drains : .draining ∈ l
  · refine .inr (eq_of_ascends ascends (by decide) fun stage => ?_)
    cases stage <;> simp [requested, drains, closed]
  · refine .inl ⟨drains, eq_of_ascends ascends (by decide) fun stage => ?_⟩
    cases stage <;> simp [requested, drains, closed]

section Course

variable {course course' : List Occurrence} {i : Nat}

/-- When a teardown has returned, the lifecycle is closed, and it has returned for good. -/
theorem Returned.closed (h : s.Returned course n) (steered : s.Steered n)
    (alone : s.Alone course n) : (s.after course).system.world.lifecycle = .closed ∧
      ∀ more, s.Returned (course ++ more) n := by
  obtain ⟨⟨c, ⟨rest, rfl⟩, b, under⟩, ended, alive⟩ := h
  have before := (steered.after (alone.initial (List.prefix_append c rest))).1
  obtain ⟨later, goes⟩ := before.after alone.rest
  rw [after_append] at ended alive
  obtain ⟨through, closed⟩ := (System.Engaged.goes (.inl ⟨b, under⟩) before.led goes).closed
    later.led ended alive
  rw [after_append]
  refine ⟨closed, fun more => ⟨⟨c, ?_, b, under⟩, ?_⟩⟩
  · exact (List.prefix_append _ _).trans (List.prefix_append _ _)
  · obtain ⟨ms, moves⟩ := after_moves ((s.after c).after rest) more
    rw [after_append, after_append, moves]
    exact ⟨(through.after ms).teardown?, (through.after ms).alive⟩

/-- When the stop of a consumer whose loop goes on has begun, the worker is draining. -/
theorem draining_of_stop (steered : s.Steered n) {o : Occurrence} (sole : s.Sole n)
    (sole' : (s.occur o).Sole n) {r : Nat} {closer : Closer}
    (under : s.system.teardown? n = some (.yielding (.receiver r) closer))
    (unstopped : (s.system.world.receiver r).joinable = true)
    (alive : (s.system.world.receiver r).loop.isOver = false)
    (goesOn : (s.occur o).system.teardown? n ≠ some (.yielding (.receiver r) closer)) :
    (s.occur o).system.world.lifecycle = .draining := by
  obtain ⟨later, happens⟩ := steered.occur o sole sole'
  obtain ⟨host, job⟩ := System.host_of_teardown? under
  cases happens with
  | aside ms others moves _ =>
    refine absurd ?_ goesOn
    rw [moves, System.teardown?, System.job_of_others job ms others, ← job, ← System.teardown?,
      under]
  | own first k new _ _ _ moves _ =>
    obtain rfl : first = [] := new.resolve_right fun absent => by
      rw [job] at absent
      cases absent
    cases k with
    | zero => exact absurd (moves ▸ under) goesOn
    | succ k =>
      have drains := System.drains_of_acts steered.led under unstopped alive k
      have system : (s.occur o).system = s.system.after (.replicate (k + 1) (.act (.job n))) :=
        moves
      rw [← system] at drains
      exact drains.lifecycle later.led

/-- Before a shutdown has been requested there has been nothing to tell. -/
theorem Steered.running (h : s.Steered n) (early : s.system.world.shutdownRequested = false) :
    stagesIn s.system.world.trace = [] ∧ s.system.world.lifecycle = .running := by
  have none : stagesIn s.system.world.trace = [] := by
    by_contra published
    rw [h.led.requested published] at early
    cases early
  have latest := h.led.latest
  unfold World.UpToDate at latest
  exact ⟨none, by rw [latest, none]; rfl⟩

/-- While the stop or the close has to wait, the worker is draining. -/
theorem Suspended.draining (h : s.Suspended course n) (steered : s.Steered n)
    (alone : s.Alone course n) :
    ∃ c, c <+: course ∧ (s.after c).system.world.lifecycle = .draining := by
  obtain ⟨c, hc, b, under, next⟩ := h
  have there := (steered.after (alone.initial hc)).1
  refine ⟨c, hc, ?_⟩
  rw [there.led.lifecycle under, Teardown.published, next]
  rfl

/-- So it is when a consumer has been stopped whose loop went on. -/
theorem StopsConsumer.draining (h : s.StopsConsumer course n) (steered : s.Steered n)
    (alone : s.Alone course n) :
    ∃ c, c <+: course ∧ (s.after c).system.world.lifecycle = .draining := by
  obtain ⟨c, o, hc, r, closer, under, unstopped, alive, goesOn⟩ := h
  have along := alone.initial hc
  have before := along.initial (List.prefix_append c [o])
  have there := (steered.after before).1
  refine ⟨c ++ [o], hc, ?_⟩
  rw [after_append] at goesOn ⊢
  exact draining_of_stop there before.there along.rest.there under unstopped alive goesOn

/-- Who is not behind has seen what he has been told. -/
theorem seenBy_of_caughtUp (caughtUp : s.system.world.isBehind i = false) :
    s.seenBy i = .running :: s.system.world.reading i := by
  rw [seenBy, World.reading_of_caughtUp caughtUp]

section Watching

variable (steered : s.Steered n) (alone : s.Alone (course ++ course') n)
  (watches : i < (s.after course).system.world.observers.length)
  (early : (s.after course).system.world.shutdownRequested = false)

include steered alone

/-- So the schedule is at the moment when somebody begins to watch. -/
theorem steered_then : (s.after course).Steered n :=
  (steered.after (alone.initial (List.prefix_append _ _))).1

include early

/-- Before the request nothing has been published. -/
theorem running_before {c : List Occurrence} (hc : c <+: course) :
    (s.after c).system.world.lifecycle = .running := by
  obtain ⟨none, -⟩ := (steered_then steered alone).running early
  obtain ⟨d, rfl⟩ := hc
  have before := alone.initial (List.prefix_append _ _)
  have there := (steered.after (before.initial (List.prefix_append c d))).1
  have lasts := (there.after before.rest).2.lasting
  rw [← after_append, none] at lasts
  have latest := there.led.latest
  unfold World.UpToDate at latest
  rw [latest, List.prefix_nil.mp lasts]
  rfl

include watches

/-- Who watches before the request is told of every stage from there on. -/
theorem told_then {d : List Occurrence} (hd : d <+: course') :
    (s.after (course ++ d)).Steered n ∧
      i < (s.after (course ++ d)).system.world.observers.length ∧
      (s.after (course ++ d)).system.world.Told i := by
  have now := steered_then steered alone
  obtain ⟨none, running⟩ := now.running early
  have aloneThen := alone.rest.initial hd
  obtain ⟨later, goes⟩ := now.after aloneThen
  have told : (s.after course).system.world.Told i :=
    .of_blank running (now.led.blank none i watches)
  rw [after_append]
  exact ⟨later, Nat.lt_of_lt_of_le watches goes.watching, (now.told watches told aloneThen).1⟩

/-- The stage that is current at some moment is among those that he is told of. -/
theorem mem_reading {c : List Occurrence} (hc : c <+: course ++ course')
    (later : (s.after c).system.world.lifecycle ≠ .running) :
    (s.after c).system.world.lifecycle ∈
      (s.after (course ++ course')).system.world.reading i := by
  rcases List.prefix_or_prefix_of_prefix hc (List.prefix_append course course') with
    before | ⟨d, rfl⟩
  · exact absurd (running_before steered alone early before) later
  · obtain ⟨rest, rfl⟩ := (List.prefix_append_right_inj course).mp hc
    obtain ⟨there, watching, told⟩ := told_then steered alone watches early
      (List.prefix_append d rest)
    rw [← List.append_assoc] at alone ⊢
    have grows := (there.told watching told alone.rest).2
    rw [← after_append] at grows
    refine grows.subset ?_
    have latest := told.latest
    cases last : ((s.after (course ++ d)).system.world.reading i).getLast? with
    | none =>
      rw [last] at latest
      exact absurd latest.symm later
    | some stage =>
      rw [last] at latest
      rw [← latest]
      exact List.mem_of_getLast? last

section Returned

variable (returned : s.Returned (course ++ course') n)

include returned

/-- When the teardown has returned he has been told of the request and of the end, and perhaps that
the worker drains. -/
theorem told_of_returned :
    (.draining ∉ (s.after (course ++ course')).system.world.reading i ∧
      .running :: (s.after (course ++ course')).system.world.reading i =
        [.running, .shutdownRequested, .closed]) ∨
    .running :: (s.after (course ++ course')).system.world.reading i =
      [.running, .shutdownRequested, .draining, .closed] := by
  obtain ⟨-, -, told⟩ := told_then steered alone watches early List.prefix_rfl
  have closed := (returned.closed steered alone).1
  have past : (s.after (course ++ course')).system.world.lifecycle ≠ .running := by
    rw [closed]
    simp
  exact eq_of_told told.ascends (told.requested past)
    (closed ▸ mem_reading steered alone watches early List.prefix_rfl past)

/-- If the worker has been draining at some moment, he sees every stage. -/
theorem seenBy_of_draining
    (drains : ∃ c, c <+: course ++ course' ∧ (s.after c).system.world.lifecycle = .draining)
    (caughtUp : (s.after (course ++ course')).system.world.isBehind i = false) :
    (s.after (course ++ course')).seenBy i =
      [.running, .shutdownRequested, .draining, .closed] := by
  obtain ⟨c, hc, drains⟩ := drains
  have drained := mem_reading steered alone watches early hc (by simp [drains])
  rw [drains] at drained
  rw [seenBy_of_caughtUp caughtUp]
  exact (told_of_returned steered alone watches early returned).resolve_left fun h => h.1 drained

end Returned

end Watching

end Course

/-- Every observer who watches before a shutdown is requested sees the stages in order, the request
and the end among them, and sees that the worker drains if the stop or the close has to wait. -/
theorem stages_seen (setup : Setup) (n : Nat) (course course' : List Occurrence)
    (alone : (Session.ofSetup setup).schedule.Alone (course ++ course') n) (i : Nat)
    (watches : i < ((Session.ofSetup setup).schedule.after course).system.world.observers.length)
    (early : ((Session.ofSetup setup).schedule.after course).system.world.shutdownRequested =
      false) : (Session.ofSetup setup).schedule.Sees n course course' i := by
  have steered := steered_ofSetup setup n
  generalize (Session.ofSetup setup).schedule = s at *
  obtain ⟨later, watching, told⟩ := told_then steered alone watches early List.prefix_rfl
  refine { starts := ?starts, ascends := ?ascends, ends := ?ends, suspended := ?suspended
           consumer := ?consumer, turn := ?turn, stays := ?stays }
  case starts =>
    have now := steered_then steered alone
    obtain ⟨none, running⟩ := now.running early
    have blank := now.led.blank none i watches
    rw [World.reading] at blank
    refine ⟨running, ?_⟩
    rw [seenBy, (List.append_eq_nil_iff.mp blank).1]
  case ascends =>
    have seen : ((s.after (course ++ course')).system.world.observer i).seen <+:
        (s.after (course ++ course')).system.world.reading i := List.prefix_append _ _
    exact told.ascends.sublist (.cons_cons _ seen.sublist)
  case ends =>
    intro returned caughtUp
    rw [seenBy_of_caughtUp caughtUp]
    exact (told_of_returned steered alone watches early returned).imp_left And.right
  case suspended =>
    intro suspended returned caughtUp
    exact seenBy_of_draining steered alone watches early returned
      (suspended.draining steered alone) caughtUp
  case consumer =>
    intro stops returned caughtUp
    exact seenBy_of_draining steered alone watches early returned
      (stops.draining steered alone) caughtUp
  case turn =>
    obtain ⟨k, looked⟩ := later.catchesUp watching
    exact ⟨k, by rw [after_append]; exact looked⟩
  case stays => exact fun returned => (returned.closed steered alone).2

/-- A consumer is started, somebody begins to watch, and the worker runs. -/
def watchedCourse : List Occurrence :=
  [.begins (.start "orders" .auto none .cued), .comes .subscribe rfl, .begins (.run 0 none none),
    .advances, .advances]

/-- A shutdown is requested, and everybody has his turn. -/
def shutdownCourse : List Occurrence := .comes .shutdown rfl :: .replicate 11 .advances

theorem stages_seen_shutdownCourse :
    (Session.ofSetup { connected := true }).schedule.Sees 1 watchedCourse shutdownCourse 1 ∧
      (Session.ofSetup { connected := true }).schedule.Returned (watchedCourse ++ shutdownCourse)
        1 ∧
      (Session.ofSetup { connected := true }).schedule.StopsConsumer
        (watchedCourse ++ shutdownCourse) 1 ∧
      ((Session.ofSetup { connected := true }).schedule.after
        (watchedCourse ++ shutdownCourse)).seenBy 1 =
          [.running, .shutdownRequested, .draining, .closed] := by
  obtain ⟨o, ended⟩ : ∃ o, ((Session.ofSetup { connected := true }).schedule.after
      (watchedCourse ++ shutdownCourse)).system.jobs[1]? = some (.finished o) := ⟨_, rfl⟩
  refine ⟨stages_seen { connected := true } 1 watchedCourse shutdownCourse (by decide +kernel) 1
    (by decide +kernel) (by decide +kernel), ⟨⟨watchedCourse, ?_, ?_⟩, ?_⟩, ?_, ?_⟩
  · exact List.prefix_append _ _
  · exact ⟨_, rfl⟩
  · exact ⟨rfl, fun payload died => by cases ended.symm.trans died⟩
  · exact ⟨watchedCourse ++ .comes .shutdown rfl :: .replicate 4 .advances, .advances,
      ⟨.replicate 6 .advances, rfl⟩, 0, _, rfl, rfl, rfl,
      fun kept => absurd (congrArg (Option.map Teardown.next) kept) (by decide +kernel)⟩
  · rfl

end Schedule

end TopicWorker
