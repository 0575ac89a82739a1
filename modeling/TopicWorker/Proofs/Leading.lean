import TopicWorker.Proofs.Requests
import TopicWorker.Proofs.Stopping
import TopicWorker.Proofs.Watching

/-!
# One job publishes

Where one job alone publishes, the stages that have been published are its own: they are a beginning
of the way of a teardown, and what the teardown is going to do next says how far they have come. The
first one is published only when a shutdown has been requested, and then the job gives up its turn
before it publishes the next one.

## Main definitions

* `System.teardown?`: the teardown that a job carries out.
* `System.Led`: a system in which the stages that have been published are those of one job.
* `System.Goes`: a system goes on, and only that job publishes.
* `System.Onset`: what becomes of a job that has published nothing.

## Main results

* `System.Led.goes`: the stages stay those of the one job.
* `System.Led.rank`: the lifecycle is as far as the number of stages that have been published.
* `System.onset_act`: after its first stage a job gives up its turn.
* `System.Engaged.goes`: a teardown that has returned has published all stages.
-/

namespace TopicWorker

/-- The rank of a stage is its place on the way. -/
theorem Teardown.rank_of_along {l : List Lifecycle} (h : l <+: Teardown.way) :
    (l.getLast?.getD .running).rank = l.length := by
  have short : l.length ≤ 3 := h.length_le
  have taken := List.prefix_iff_eq_take.mp h
  generalize l.length = k at short taken
  subst taken
  match k with
  | 0 | 1 | 2 | 3 => rfl

/-- A teardown that has published nothing blocks. -/
theorem Teardown.blocked_of_published {b : Teardown} (h : b.published = []) :
    ∃ stopper closer, b = .blocked stopper closer := by
  cases b with
  | blocked stopper closer => exact ⟨stopper, closer, rfl⟩
  | _ => cases h

theorem Host.teardown?_task (host : Host) (b : Teardown) :
    (host.task b).teardown? = some b := by
  cases host <;> rfl

section Hosts

variable (host : Host) {part : Turn Teardown (Except Failure Stats)}

/-- The job waits where its teardown waits. -/
theorem Host.turn_waiting {b : Teardown} (h : part.2 = .waiting b) :
    (host.turn part).2 = .waiting (host.task b) := by
  obtain ⟨w, p⟩ := part
  subst h
  cases host <;> rfl

/-- The teardown is over in the job when it has returned. -/
theorem Host.turn_finished {result : Except Failure Stats} (h : part.2 = .finished result) :
    host.Over result (host.turn part).2 := by
  obtain ⟨w, p⟩ := part
  subst h
  cases host with
  | own => cases result <;> exact .own
  | app a => cases result <;> exact .app a
  | program a listener => exact .joining a listener

/-- The job dies with its teardown. -/
theorem Host.turn_crashed {payload : Option String} (h : part.2 = .crashed payload) :
    (host.turn part).2 = .crashed payload := by
  obtain ⟨w, p⟩ := part
  subst h
  cases host <;> rfl

end Hosts

namespace System

variable {s t : System} {n : Nat} {m : Move}

/-- The teardown that a job carries out. -/
def teardown? (s : System) (n : Nat) : Option Teardown :=
  match s.jobs[n]? with
  | some (.waiting t) => t.teardown?
  | _ => none

theorem teardown?_of_waiting {task : Task} (job : s.jobs[n]? = some (.waiting task)) :
    s.teardown? n = task.teardown? := by
  rw [teardown?, job]

/-- Where a job carries out a teardown, it does so somewhere. -/
theorem host_of_teardown? {b : Teardown} (h : s.teardown? n = some b) :
    ∃ host : Host, s.jobs[n]? = some (.waiting (host.task b)) := by
  unfold teardown? at h
  split at h
  · next t job =>
    obtain ⟨host, rfl⟩ := Host.of_teardown? h
    exact ⟨host, job⟩
  · cases h

/-- The moves of others leave a job where it is. -/
theorem job_of_others {p : Progress Task Outcome} (job : s.jobs[n]? = some p) (ms : List Move)
    (others : ∀ m ∈ ms, m ≠ .act (.job n)) : (s.after ms).jobs[n]? = some p := by
  induction ms generalizing s with
  | nil => exact job
  | cons m ms ih =>
    rcases move_of_job job m with ⟨-, same⟩ | ⟨t, -, -, rfl⟩
    · exact ih same fun m' hm => others m' (List.mem_cons_of_mem _ hm)
    · exact absurd rfl (others _ List.mem_cons_self)

/-- What a job has published, where its teardown has come so far. -/
theorem HasPublished.published {own : List Lifecycle} (h : s.HasPublished n own) {b : Teardown}
    (under : s.teardown? n = some b) : own = b.published := by
  obtain ⟨host, job⟩ := host_of_teardown? under
  exact (host.published_task b own).mp ((hasPublished_of_some job).mp h)

/-- A job that carries out no teardown, or one that blocks, may have published nothing. -/
theorem hasPublished_nil (h : ∀ b, s.teardown? n = some b → b.published = []) :
    s.HasPublished n [] := by
  cases job : s.jobs[n]? with
  | none => exact (hasPublished_of_none job).mpr rfl
  | some p =>
    refine (hasPublished_of_some job).mpr ?_
    cases p with
    | waiting task =>
      rw [teardown?_of_waiting job] at h
      show task.Published []
      unfold Task.Published
      split
      · exact List.nil_prefix
      · cases under : task.teardown? with
        | none => rfl
        | some b => exact (h b under).symm
    | finished o => exact List.nil_prefix
    | crashed payload => exact List.nil_prefix

/-! ## The stages of one job -/

/-- A move publishes nothing. -/
def Quiet (s : System) (m : Move) : Prop :=
  stagesIn (s.move m).world.trace = stagesIn s.world.trace

theorem Quiet.version (h : s.Quiet m) : (s.move m).world.version = s.world.version :=
  congrArg List.length h

/-- Only actors publish, and only jobs among them. -/
theorem quiet_of_no_job (h : ∀ k, m ≠ .act (.job k)) : s.Quiet m := by
  rcases s.publishes_move m with quiet | ⟨k, -, -, -, rfl, -⟩
  · exact quiet
  · exact absurd rfl (h k)

/-- What is published in a move its actor publishes. -/
theorem stagesIn_move (s : System) (m : Move) : stagesIn (s.move m).world.trace =
    stagesIn s.world.trace ++ stagesIn (s.added m) := by
  obtain ⟨news, htrace, -⟩ := s.adds m
  rw [added_of_trace htrace, htrace, stagesIn_append]

theorem stagesIn_added_of_quiet (h : s.Quiet m) : stagesIn (s.added m) = [] := by
  rw [Quiet, stagesIn_move] at h
  exact List.append_right_eq_self.mp h

/-- A system in which the stages that have been published are those of one job. -/
structure Led (s : System) (n : Nat) : Prop where
  /-- They are what its progress says, -/
  hasPublished : s.HasPublished n (stagesIn s.world.trace)
  /-- and the last one is current. -/
  latest : s.world.UpToDate
  /-- The first one has been published after a shutdown has been requested. -/
  requested : stagesIn s.world.trace ≠ [] → s.world.shutdownRequested = true
  /-- Before that there has been nothing to see. -/
  blank : stagesIn s.world.trace = [] → ∀ i < s.world.observers.length, s.world.reading i = []

/-- Only the one job publishes in a move. -/
def Own (s : System) (n : Nat) (m : Move) : Prop := m = .act (.job n) ∨ s.Quiet m

theorem lifecycle_of_quiet (h : s.world.UpToDate) (quiet : s.Quiet m) :
    (s.move m).world.lifecycle = s.world.lifecycle := by
  have after := upToDate_move h m
  unfold World.UpToDate at h after
  rw [h, after, quiet]

namespace Led

/-- The lifecycle is as far as the number of stages that have been published. -/
theorem rank (h : s.Led n) : s.world.lifecycle.rank = s.world.version := by
  have latest := h.latest
  unfold World.UpToDate at latest
  rw [latest, Teardown.rank_of_along h.hasPublished.along]
  rfl

/-- The lifecycle, where the teardown has come so far. -/
theorem lifecycle (h : s.Led n) {b : Teardown} (under : s.teardown? n = some b) :
    s.world.lifecycle = b.published.getLast?.getD .running := by
  rw [← h.hasPublished.published under]
  exact h.latest

/-- The stages stay those of the one job. -/
theorem move (h : s.Led n) (own : s.Own n m) : (s.move m).Led n where
  hasPublished := by
    rw [stagesIn_move]
    have mine : stagesIn (s.added m) = stagesIn (eventsBy (.job n) (s.doing m)) := by
      rcases own with rfl | quiet
      · rw [eventsBy_doing_own rfl]
      · rw [stagesIn_added_of_quiet quiet]
        by_cases actor : s.actorOf m = some (.job n)
        · rw [eventsBy_doing_own actor, stagesIn_added_of_quiet quiet]
        · rw [eventsBy_doing_other actor]
          rfl
    exact mine ▸ hasPublished_move h.hasPublished m
  latest := upToDate_move h.latest m
  requested published := by
    by_cases before : stagesIn s.world.trace = []
    · rcases s.publishes_move m with quiet | ⟨k, host, b, more, rfl, job, ready, -⟩
      · exact absurd (quiet.trans before) published
      · rcases own with same | quiet
        · obtain rfl := Actor.job.inj (Move.act.inj same)
          have under : s.teardown? k = some b :=
            (teardown?_of_waiting job).trans (Host.teardown?_task host b)
          obtain ⟨stopper, closer, rfl⟩ := Teardown.blocked_of_published
            ((h.hasPublished.published under).symm.trans before)
          exact requested_move ready _
        · exact absurd (quiet.trans before) published
    · exact requested_move (h.requested before) m
  blank none := by
    have before : stagesIn s.world.trace = [] := by
      have lasts := stagesIn_lasting s [] [m]
      exact List.prefix_nil.mp (none ▸ lasts)
    have quiet : s.Quiet m := none.trans before.symm
    intro i hi
    by_cases old : i < s.world.observers.length
    · rw [reading_of_quiet quiet.version (lifecycle_of_quiet h.latest quiet) old]
      exact h.blank before i old
    · rcases s.observers_move m with same | subscribes | ⟨j, -, -, looks⟩
      · exact absurd (same ▸ hi) old
      · rw [subscribes] at hi ⊢
        obtain rfl : i = s.world.observers.length := by
          have : i < s.world.observers.length + 1 := by simpa [World.subscribe] using hi
          omega
        exact World.reading_subscriber
      · rw [looks] at hi
        exact absurd (by simpa [World.observe] using hi) old

end Led

/-! ## Moves in which only the one job publishes -/

/-- A system goes on, and only the one job publishes. -/
inductive Goes (n : Nat) (s : System) : System → Prop where
  | stays : Goes n s s
  | moves {t : System} {m : Move} (before : Goes n s t) (own : t.Own n m) : Goes n s (t.move m)

theorem Goes.trans {u : System} (h : Goes n s t) (h' : Goes n t u) : Goes n s u := by
  induction h' with
  | stays => exact h
  | moves _ own ih => exact ih.moves own

/-- Where nothing has been published in the end, nothing has been published in between. -/
theorem goes_of_quiet (ms : List Move)
    (quiet : stagesIn (s.after ms).world.trace = stagesIn s.world.trace) :
    Goes n s (s.after ms) := by
  induction ms using List.reverseRecOn with
  | nil => exact .stays
  | append_singleton ms m ih =>
    have lasts := stagesIn_lasting s ms [m]
    rw [quiet] at lasts
    have before : stagesIn (s.after ms).world.trace = stagesIn s.world.trace :=
      lasts.eq_of_length_le (stagesIn_lasting s [] ms).length_le
    rw [after_concat] at quiet ⊢
    exact (ih before).moves (.inr (quiet.trans before.symm))

/-- The turns of the job itself. -/
theorem goes_of_acts (s : System) (n k : Nat) :
    Goes n s (s.after (.replicate k (.act (.job n)))) := by
  induction k with
  | zero => exact .stays
  | succ k ih =>
    rw [List.replicate_succ', after_concat]
    exact ih.moves (.inl rfl)

/-- The stages stay those of the one job. -/
theorem Led.goes (h : s.Led n) (goes : Goes n s t) : t.Led n := by
  induction goes with
  | stays => exact h
  | moves _ own ih => exact ih.move own

/-- What has been published stays published. -/
theorem Goes.lasting (h : Goes n s t) : stagesIn s.world.trace <+: stagesIn t.world.trace := by
  induction h with
  | stays => exact List.prefix_rfl
  | @moves t m _ _ ih => exact ih.trans (stagesIn_lasting t [] [m])

/-- Nobody stops watching. -/
theorem Goes.watching (h : Goes n s t) :
    s.world.observers.length ≤ t.world.observers.length := by
  induction h with
  | stays => exact Nat.le_refl _
  | moves _ _ ih => exact Nat.le_trans ih (length_observers_move _ _)

/-- Where nothing has been published, every reading has stayed the same. -/
theorem Goes.reading (h : Goes n s t) (led : s.Led n)
    (quiet : stagesIn t.world.trace = stagesIn s.world.trace) {i : Nat}
    (hi : i < s.world.observers.length) : t.world.reading i = s.world.reading i := by
  induction h with
  | stays => rfl
  | @moves t m before own ih =>
    have lasts := stagesIn_lasting t [] [m]
    have same : stagesIn t.world.trace = stagesIn s.world.trace :=
      (before.lasting.eq_of_length_le (quiet ▸ lasts.length_le)).symm
    have still : t.Quiet m := quiet.trans same.symm
    rw [reading_of_quiet still.version (lifecycle_of_quiet (led.goes before).latest still)
      (Nat.lt_of_lt_of_le hi before.watching), ih same]

/-! ## The end of a teardown -/

/-- The teardown of a job is over: the job has ended, or it is a program that awaits its
listener. -/
def Through (s : System) (n : Nat) : Prop :=
  ∃ (host : Host) (result : Except Failure Stats) (p : Progress Task Outcome),
    s.jobs[n]? = some p ∧ host.Over result p

/-- It stays over. -/
theorem Through.move (h : s.Through n) (m : Move) : (s.move m).Through n := by
  obtain ⟨host, result, p, job, past⟩ := h
  rcases move_of_job job m with ⟨-, same⟩ | ⟨t, rfl, ready, rfl⟩
  · exact ⟨host, result, p, same, past⟩
  · have turned := (Takes.goesOn job ready).turned
    cases past with
    | joining a listener =>
      obtain ⟨o, ho⟩ := Option.isSome_iff_exists.mp
        (show (s.outcome? listener).isSome from ready)
      obtain ⟨o', ended⟩ := conclude_finished s.world result o
      refine ⟨.program a listener, result, _, turned.job, ?_⟩
      simp only [System.turn, ho, ended]
      exact .program a listener o'

theorem Through.after (h : s.Through n) (ms : List Move) : (s.after ms).Through n := by
  induction ms generalizing s with
  | nil => exact h
  | cons m ms ih => exact ih (h.move m)

/-- A job whose teardown is over carries out none, -/
theorem Through.teardown? (h : s.Through n) : s.teardown? n = none := by
  obtain ⟨host, result, p, job, past⟩ := h
  rw [System.teardown?, job]
  cases past <;> rfl

/-- and it has not died. -/
theorem Through.alive (h : s.Through n) (payload : Option String) :
    s.jobs[n]? ≠ some (.crashed payload) := by
  obtain ⟨host, result, p, job, past⟩ := h
  rw [job]
  cases past <;> simp

/-- A teardown is under way in a job, or the job has died, or the teardown is over and all stages
have been published. -/
def Engaged (s : System) (n : Nat) : Prop :=
  (∃ b, s.teardown? n = some b) ∨ (∃ payload, s.jobs[n]? = some (.crashed payload)) ∨
    s.Through n ∧ stagesIn s.world.trace = Teardown.way

/-- After a turn of its teardown a job has published what the teardown has published. -/
theorem Led.turn (led : s.Led n) {host : Host} {b : Teardown}
    (job : s.jobs[n]? = some (.waiting (host.task b))) (ready : s.ready b.wait = true) :
    (s.move (.act (.job n))).jobs[n]? = some (host.turn (b.resume s.world)).2 ∧
      stagesIn (s.move (.act (.job n))).world.trace =
        Teardown.publishedBy (b.resume s.world).2 := by
  have turned := (Takes.goesOn job ((host.wait_task b).symm ▸ ready)).turned
  obtain ⟨more, hmore, hpublished, -⟩ := host.published_turn (publishes_teardownResume b s.world)
  have under := (teardown?_of_waiting job).trans (Host.teardown?_task host b)
  rw [Host.turn_task] at turned
  refine ⟨turned.job, ?_⟩
  rw [turned.world, hmore, led.hasPublished.published under, hpublished]

/-- After its last stage a teardown has returned, and not before. -/
theorem Engaged.move (h : s.Engaged n) (led : s.Led n) (own : s.Own n m) :
    (s.move m).Engaged n := by
  rcases h with ⟨b, under⟩ | ⟨payload, dead⟩ | ⟨through, all⟩
  · obtain ⟨host, job⟩ := host_of_teardown? under
    rcases move_of_job job m with ⟨-, same⟩ | ⟨t, ht, ready, rfl⟩
    · exact .inl ⟨b, (teardown?_of_waiting same).trans (Host.teardown?_task host b)⟩
    · obtain rfl := Progress.waiting.inj ht
      obtain ⟨job', stages⟩ := led.turn job (host.wait_task b ▸ ready)
      cases part : (b.resume s.world).2 with
      | waiting b' =>
        rw [host.turn_waiting part] at job'
        exact .inl ⟨b', (teardown?_of_waiting job').trans (Host.teardown?_task host b')⟩
      | finished result =>
        exact .inr (.inr ⟨⟨host, result, _, job', host.turn_finished part⟩,
          stages.trans (congrArg Teardown.publishedBy part)⟩)
      | crashed payload => exact .inr (.inl ⟨payload, host.turn_crashed part ▸ job'⟩)
  · rcases move_of_job dead m with ⟨-, same⟩ | ⟨t, ht, -⟩
    · exact .inr (.inl ⟨payload, same⟩)
    · cases ht
  · refine .inr (.inr ⟨through.move m, ?_⟩)
    have lasts := stagesIn_lasting s [] [m]
    have along := (led.move own).hasPublished.along
    rw [after_nil, all] at lasts
    exact (lasts.eq_of_length_le along.length_le).symm

theorem Engaged.goes (h : s.Engaged n) (led : s.Led n) (goes : Goes n s t) : t.Engaged n := by
  induction goes with
  | stays => exact h
  | moves before own ih => exact ih.move (led.goes before) own

/-- Where a teardown has returned, the lifecycle is closed. -/
theorem Engaged.closed (h : s.Engaged n) (led : s.Led n) (ended : s.teardown? n = none)
    (alive : ∀ payload, s.jobs[n]? ≠ some (.crashed payload)) :
    s.Through n ∧ s.world.lifecycle = .closed := by
  rcases h with ⟨b, under⟩ | ⟨payload, dead⟩ | ⟨through, all⟩
  · rw [ended] at under
    cases under
  · exact absurd dead (alive payload)
  · have latest := led.latest
    unfold World.UpToDate at latest
    rw [latest, all]
    exact ⟨through, rfl⟩

/-! ## The stop of a receiver whose loop goes on -/

/-- A job drains: it stops a receiver whose loop goes on, or it has died in doing so. -/
structure Drains (s : System) (n r : Nat) : Prop where
  stages : stagesIn s.world.trace = Teardown.upTo .closed
  holds : (∃ closer st, s.teardown? n = some (.stopping r closer st)) ∧
      r < s.world.receivers.length ∧ (s.world.receiver r).loop.isOver = false ∨
    ∃ payload, s.jobs[n]? = some (.crashed payload)

/-- A job that drains is draining. -/
theorem Drains.lifecycle {r : Nat} (h : s.Drains n r) (led : s.Led n) :
    s.world.lifecycle = .draining := by
  have latest := led.latest
  unfold World.UpToDate at latest
  rw [latest, h.stages]
  rfl

section Drains

variable {r : Nat}

/-- What a job does leaves every loop where it is. -/
theorem loop_of_turn (there : r < s.world.receivers.length) :
    r < (s.move (.act (.job n))).world.receivers.length ∧
      ((s.move (.act (.job n))).world.receiver r).loop = (s.world.receiver r).loop :=
  ⟨(s.follows (.act (.job n)) there).1,
    loop_of_idle there (eventsBy_doing_other (by simp [actorOf]))⟩

/-- The stop of a receiver that nobody has stopped, and whose loop goes on, has to wait. -/
theorem drains_of_yielding (led : s.Led n) {closer : Closer}
    (under : s.teardown? n = some (.yielding (.receiver r) closer))
    (unstopped : (s.world.receiver r).joinable = true)
    (alive : (s.world.receiver r).loop.isOver = false) :
    (s.move (.act (.job n))).Drains n r := by
  obtain ⟨host, job⟩ := host_of_teardown? under
  obtain ⟨job', stages⟩ := led.turn job rfl
  have there : r < s.world.receivers.length := by
    by_contra absent
    rw [World.receiver, List.getElem?_eq_none (Nat.not_lt.mp absent)] at unstopped
    cases unstopped
  obtain ⟨there', loop⟩ := loop_of_turn (n := n) there
  obtain ⟨st, waits⟩ := stoppingStart_waits (w := s.world.transition .draining) unstopped
  have part : ((Teardown.yielding (.receiver r) closer).resume s.world).2 =
      .waiting (.stopping r closer st) := by
    show (Turn.andThen (Stopping.start r _) _ _).2 = _
    rw [Turn.andThen_waiting waits]
  rw [part] at stages
  rw [host.turn_waiting part] at job'
  exact ⟨stages, .inl ⟨⟨closer, st,
    (teardown?_of_waiting job').trans (Host.teardown?_task host _)⟩, there', loop ▸ alive⟩⟩

/-- It waits as long as the loop does not go on. -/
theorem Drains.act (h : s.Drains n r) (led : s.Led n) : (s.move (.act (.job n))).Drains n r := by
  by_cases runs : s.isRunnable (.job n) = true
  · obtain ⟨t, waits, ready⟩ := (isRunnable_job s n).mp runs
    rcases h.holds with ⟨⟨closer, st, under⟩, there, alive⟩ | ⟨payload, dead⟩
    · obtain ⟨host, job⟩ := host_of_teardown? under
      obtain rfl : t = host.task (.stopping r closer st) := by simpa [waits] using job
      rw [Host.wait_task] at ready
      obtain ⟨job', stages⟩ := led.turn job ready
      obtain ⟨there', loop⟩ := loop_of_turn (n := n) there
      cases st with
      | joining =>
        have past : (s.world.receiver r).loop.isOver = true := ready
        rw [alive] at past
        cases past
      | cancelling p =>
        have answered := stage_of_cancelled p r s.world
        cases answer : p.reply.answer with
        | crashed payload =>
          rw [answer] at answered
          have part : ((Teardown.stopping r closer (.cancelling p)).resume s.world).2 =
              .crashed payload :=
            congrArg Prod.snd (Turn.andThen_crashed answered _ _)
          rw [part] at stages
          exact ⟨stages, .inr ⟨payload, host.turn_crashed part ▸ job'⟩⟩
        | _ =>
          rw [answer] at answered
          have part : ((Teardown.stopping r closer (.cancelling p)).resume s.world).2 =
              .waiting (.stopping r closer .joining) :=
            congrArg Prod.snd (Turn.andThen_waiting answered _ _)
          rw [part] at stages
          rw [host.turn_waiting part] at job'
          exact ⟨stages, .inl ⟨⟨closer, .joining,
            (teardown?_of_waiting job').trans (Host.teardown?_task host _)⟩, there', loop ▸ alive⟩⟩
    · rw [waits] at dead
      cases dead
  · have still : s.move (.act (.job n)) = s := by simp [System.move, System.act, runs]
    rw [still]
    exact h

/-- So it drains as soon as it has begun to stop, as long as nobody else goes on. -/
theorem drains_of_acts (led : s.Led n) {closer : Closer}
    (under : s.teardown? n = some (.yielding (.receiver r) closer))
    (unstopped : (s.world.receiver r).joinable = true)
    (alive : (s.world.receiver r).loop.isOver = false) (k : Nat) :
    (s.after (.replicate (k + 1) (.act (.job n)))).Drains n r := by
  induction k with
  | zero => exact drains_of_yielding led under unstopped alive
  | succ k ih =>
    rw [List.replicate_succ', after_concat]
    exact ih.act (led.goes (goes_of_acts s n (k + 1)))

end Drains

/-! ## The beginning of a teardown -/

/-- What becomes of a job that has published nothing, by the stages that had been published before:
it has still published nothing, or it has requested the shutdown and has given up its turn. -/
inductive Onset (n : Nat) (stages : List Lifecycle) (s : System) : Prop where
  | quiet (same : stagesIn s.world.trace = stages) (early : s.HasPublished n [])
  | opens (requested : stagesIn s.world.trace = stages ++ [.shutdownRequested])
    (yields : ∃ stopper closer, s.teardown? n = some (.yielding stopper closer))

/-- After its first stage a job gives up its turn. -/
theorem onset_act (early : s.HasPublished n []) (ready : s.isRunnable (.job n) = true) :
    (s.move (.act (.job n))).Onset n (stagesIn s.world.trace) := by
  obtain ⟨t, job, ready⟩ := (isRunnable_job s n).mp ready
  have turned := (Takes.goesOn job ready).turned
  rcases s.publishes_turn t with ⟨host, b, -, rfl, -⟩ | ⟨same, kept⟩
  · have none : [] = b.published :=
      (host.published_task b []).mp ((hasPublished_of_some job).mp early)
    obtain ⟨stopper, closer, rfl⟩ := Teardown.blocked_of_published none.symm
    rw [Host.turn_task] at turned
    have world : (s.move (.act (.job n))).world = s.world.transition .shutdownRequested := by
      rw [turned.world]
      cases host <;> rfl
    have hjob : (s.move (.act (.job n))).jobs[n]? =
        some (.waiting (host.task (.yielding stopper closer))) := by
      rw [turned.job]
      cases host <;> rfl
    refine .opens ?_ ⟨stopper, closer, ?_⟩
    · rw [world, stagesIn_transition]
    · exact (teardown?_of_waiting hjob).trans (Host.teardown?_task host _)
  · refine .quiet ?_ ?_
    · rw [turned.world, same]
    · exact (hasPublished_of_some turned.job).mpr (kept [] ((hasPublished_of_some job).mp early))

end System

end TopicWorker
