import TopicWorker.Proofs.Settlements
import TopicWorker.Proofs.Startup
import TopicWorker.Proofs.Stopping
import TopicWorker.Proofs.Rundown

/-!
# What a stop that returns has waited for

The stop that takes charge of a receiver waits for its loop. Every other stop of the receiver
returns at once, and it returns too early as long as the first one is still waiting: the loop
may be in the middle of a delivery. So a stop that returns leaves the receiver drained if no
other job has a stop of it under way, and if none has been taken along in one. The job that it
returns to has closed nothing before that.

## Main definitions

* `System.StopTurn`: a turn in which the stop of a receiver begins or goes on.
* `System.Drained`: a receiver whose loop is over, with nothing left to be done.
* `System.Unbroken`: no job has been taken along while it was stopping a receiver.

## Main results

* `System.claimed_after`: a receiver that can no longer be joined is being stopped, or its loop
  is over, or its stop has been broken off.
* `System.drained_of_returned`: what a stop that returns leaves behind.
* `System.overtaking_not_drained`: a stop that overtakes another one does not.
-/

namespace TopicWorker

/-- A job that is to stop a receiver, or is stopping it, has asked for nothing but the
cancellation. -/
theorem Task.method?_of_receiver? {t : Task} {r : Nat} (h : t.receiver? = some r) :
    t.method? = none ∨ t.method? = some .basicCancel := by
  have teardown : ∀ {s : Teardown}, s.receiver? = some r →
      s.method? = none ∨ s.method? = some .basicCancel := by
    intro s hs
    cases s with
    | stopping r' closer st => cases st <;> simp [Teardown.method?, Stopping.method?]
    | closing l result st => cases hs
    | _ => exact .inl rfl
  have app : ∀ {s : App}, s.receiver? = some r →
      s.method? = none ∨ s.method? = some .basicCancel := by
    intro s hs
    cases s with
    | running s => exact teardown hs
    | _ => cases hs
  cases t with
  | stopping r' st => cases st <;> simp [Task.method?, Stopping.method?]
  | teardown s => exact teardown h
  | app a s => exact app h
  | program p =>
    cases p with
    | running a listener s => exact app h
    | joining listener result => cases h
  | _ => cases h

/-- A job that calls for a stop is not carrying one out. -/
theorem Task.stopping?_of_stopCall? {t : Task} {r : Nat} (h : t.stopCall? = some r) :
    t.stopping? = none := by
  have teardown : ∀ {s : Teardown}, s.stopCall? = some r → s.stopping? = none := by
    intro s hs
    cases s with
    | stopping r' closer st => cases hs
    | _ => rfl
  have app : ∀ {s : App}, s.stopCall? = some r → s.stopping? = none := by
    intro s hs
    cases s with
    | running s => exact teardown hs
    | _ => rfl
  cases t with
  | stopping r' st => cases h
  | teardown s => exact teardown h
  | app a s => exact app h
  | program p =>
    cases p with
    | running a listener s => exact app h
    | joining listener result => rfl
  | _ => rfl

namespace System

/-- A turn in which the stop of a receiver begins or goes on, as part of the turn of some job. -/
inductive StopTurn (s : System) (r : Nat) :
    Move → Nat → Turn Stopping (Except Failure Stats) → Prop where
  | calls {m : Move} {n : Nat} (site : Site) (w : World) (call : s.stopCall? m = some r)
    (takes : s.Takes m n (site.turn r (Stopping.start r w)))
    (same : w.receiver r = s.world.receiver r) : StopTurn s r m n (Stopping.start r w)
  | goesOn {n : Nat} (t : Task) (st : Stopping) (job : s.jobs[n]? = some (.waiting t))
    (under : t.stopping? = some (r, st)) (ready : s.ready t.wait = true) :
    StopTurn s r (.act (.job n)) n (st.resume r s.world)

/-- A receiver that is drained after a history: its loop is over, its handler has ended with every
delivery that it has been called with, every settlement has been answered, and it does nothing
more, whatever else happens. -/
structure Drained (s : System) (h : List Move) (r : Nat) : Prop where
  ended : ((s.after h).world.receiver r).loop.isOver = true
  settled : Settled ((s.after h).world.receiver r).mode
    (beats (eventsBy (.receiver r) (s.deeds h)))
  silent : ∀ h', eventsBy (.receiver r) ((s.after h).deeds h') = []

/-- No job has been taken along while it was stopping a receiver. -/
def Unbroken (s : System) (h : List Move) (r : Nat) : Prop :=
  ∀ (h₁ h₂ : List Move) (n : Nat) (t : Task) (st : Stopping) (payload : Option String),
    h = h₁ ++ h₂ → (s.after h₁).jobs[n]? = some (.waiting t) → t.stopping? = some (r, st) →
    (s.after h).jobs[n]? ≠ some (.crashed payload)

variable {s : System} {h : List Move} {r : Nat}

/-- What becomes of the stop of a receiver that is under way: it is still so, or the job has been
taken along, or the loop is over. -/
theorem stopping_of_move {s : System} {n : Nat} {t : Task} {st : Stopping}
    (hr : r < s.world.receivers.length) (job : s.jobs[n]? = some (.waiting t))
    (under : t.stopping? = some (r, st)) (m : Move) :
    (∃ t' st', (s.move m).jobs[n]? = some (.waiting t') ∧ t'.stopping? = some (r, st')) ∨
      (∃ payload, (s.move m).jobs[n]? = some (.crashed payload)) ∨
      ((s.move m).world.receiver r).loop.isOver = true := by
  rcases move_of_job job m with ⟨-, hsame⟩ | ⟨t', ht, ready, rfl⟩
  · exact .inl ⟨t, st, hsame, under⟩
  · cases ht
    obtain ⟨site, rfl⟩ := Site.of_stopping under
    have takes := Takes.goesOn job ready
    rw [turn_eq_resume s (site.task_ne_joining st), Site.resume_task] at takes
    cases st with
    | cancelling p =>
      have hpart := stage_of_cancelled p r s.world
      cases ha : p.reply.answer with
      | crashed payload =>
        rw [ha] at hpart
        exact .inr (.inl ⟨payload, by rw [takes.turned.job, site.turn_crashed hpart]⟩)
      | _ =>
        rw [ha] at hpart
        exact .inl ⟨_, .joining, by rw [takes.turned.job, site.turn_waiting hpart],
          site.stopping?_task _⟩
    | joining =>
      have hover : (s.world.receiver r).loop.isOver = true := by
        simpa [Site.wait_task, Stopping.wait, System.ready, World.ready] using ready
      obtain ⟨-, hundergoes⟩ := s.follows (.act (.job n)) hr
      refine .inr (.inr ?_)
      rw [(hundergoes.of_over hover).1]
      exact hover

/-- A receiver that can no longer be joined is being stopped, or its loop is over, or its stop has
been broken off. -/
theorem claimed_after (h : List Move) (hr : r < (s.after h).world.receivers.length)
    (empty : s.world.receivers = [])
    (claimed : ((s.after h).world.receiver r).joinable = false) (unbroken : s.Unbroken h r) :
    ((s.after h).world.receiver r).loop.isOver = true ∨
      ∃ (n : Nat) (t : Task) (st : Stopping),
        (s.after h).jobs[n]? = some (.waiting t) ∧ t.stopping? = some (r, st) := by
  induction h using List.reverseRecOn with
  | nil => simp [empty] at hr
  | append_singleton h m ih =>
    rw [after_concat] at hr claimed ⊢
    by_cases hbefore : r < (s.after h).world.receivers.length
    · obtain ⟨-, hundergoes⟩ := (s.after h).follows m hbefore
      cases hj : ((s.after h).world.receiver r).joinable with
      | true =>
        -- the stop has just been called
        rw [hundergoes.joinable, hj, Bool.true_and] at claimed
        have hcall : (s.after h).stopCall? m = some r := by simpa using claimed
        obtain ⟨n, site, w, takes, hw⟩ := takes_of_stopCall hcall
        have hsame : w.receiver r = (s.after h).world.receiver r := by
          rcases hw with rfl | rfl <;> rfl
        obtain ⟨st, hst⟩ := stoppingStart_waits (hsame ▸ hj)
        exact .inr ⟨n, site.task r st, st, by rw [takes.turned.job, site.turn_waiting hst],
          site.stopping?_task st⟩
      | false =>
        have unbroken' : s.Unbroken h r := by
          intro h₁ h₂ n t st payload split job under broken
          refine unbroken h₁ (h₂ ++ [m]) n t st payload (by simp [split]) job under ?_
          rw [after_concat]
          rcases move_of_job broken m with ⟨-, hsame⟩ | ⟨t', ht, -, -⟩
          · exact hsame
          · cases ht
        rcases ih hbefore hj unbroken' with hover | ⟨n, t, st, job, under⟩
        · left
          rw [(hundergoes.of_over hover).1]
          exact hover
        · rcases stopping_of_move hbefore job under m with ⟨t', st', job', under'⟩ |
            ⟨payload, hcrashed⟩ | hover
          · exact .inr ⟨n, t', st', job', under'⟩
          · rw [← after_concat] at hcrashed
            exact absurd hcrashed (unbroken h [m] n t st payload rfl job under)
          · exact .inl hover
    · obtain ⟨-, -, hnew⟩ := (s.after h).appears m (r := r) (by omega)
      obtain ⟨-, -, g, tag, -, -, -, -, hv⟩ := hnew _ (World.getElem?_receivers hr)
      rw [hv] at claimed
      cases claimed

/-- A job that is to stop a receiver, or is stopping it, has closed nothing. -/
theorem unclosed_of_receiver {s : System} (hjobs : s.jobs = []) (h : List Move) {n : Nat} {t : Task}
    (job : (s.after h).jobs[n]? = some (.waiting t)) (hr : t.receiver? = some r) :
    ∀ c ∈ Closing.calls, .called c ∉ eventsBy (.job n) (s.deeds h) := by
  intro c hc
  have late : (Event.called c).setsUp = false ∧ c.method ≠ .basicCancel := by
    rcases List.mem_pair.mp hc with rfl | rfl <;> exact ⟨rfl, by decide⟩
  induction h using List.reverseRecOn generalizing t with
  | nil => simp [hjobs] at job
  | append_singleton h m ih =>
    rw [eventsBy_deeds_concat, List.mem_append, not_or]
    rw [after_concat] at job
    constructor
    · rcases job_of_move job with ⟨hsame, -⟩ | ⟨-, hnew⟩ | ⟨u, takes, hu, -⟩
      · exact ih hsame hr
      · cases hnew
        cases hr
      · cases takes with
        | @goesOn _ t₀ job₀ ready =>
          rcases ((s.after h).keeps_turn t₀).of_waiting hu r hr with
            ⟨hkept, -⟩ | ⟨-, -, -, -, l, hl⟩
          · exact ih job₀ hkept.named
          · -- an application that blocks has only set up what it needs
            rw [← after_concat] at job
            intro hmem
            have hearly := setUp_after hjobs _ job hl rfl (.called c)
              (by rw [eventsBy_deeds_concat]; exact List.mem_append_left _ hmem)
            rw [late.1] at hearly
            cases hearly
        | begins q =>
          rw [absent_job_after (s := s) h (by simp)]
          exact List.not_mem_nil
        | launches env =>
          rw [absent_job_after (s := s) h (by simp)]
          exact List.not_mem_nil
    · intro hmem
      obtain ⟨t', p, job', -, -, hmethod⟩ := waits_of_called (mem_eventsBy.mp hmem)
      rw [job, Option.some.injEq, Progress.waiting.injEq] at job'
      rw [← job'] at hmethod
      rcases Task.method?_of_receiver? hr with hnone | hcancel
      · rw [hnone] at hmethod
        cases hmethod
      · rw [hcancel, Option.some.injEq] at hmethod
        exact late.2 hmethod.symm

/-- The receiver of a stop that begins or goes on is there. -/
theorem StopTurn.lt (charged : s.Charged) {m : Move} {n : Nat}
    {part : Turn Stopping (Except Failure Stats)} (turn : s.StopTurn r m n part) :
    r < s.world.receivers.length := by
  cases turn with
  | calls site w call takes same => exact charged.stopCall_lt call
  | goesOn t st job under ready =>
    have hr := Task.receiver?_of_stopping? under
    cases happ : t.app? with
    | none => exact charged.consumers r (charged.given _ t r job happ hr)
    | some b => exact (charged.owned _ t r job (by simp [happ]) hr).1

/-- A job that calls for a stop has just been asked for, or has the call ahead. -/
theorem Takes.caller {m : Move} {n : Nat} {u : Turn Task Outcome} (takes : s.Takes m n u)
    (call : s.stopCall? m = some r) :
    s.jobs[n]? = none ∨ ∃ t, s.jobs[n]? = some (.waiting t) ∧ t.stopCall? = some r := by
  cases takes with
  | @goesOn _ t job ready =>
    refine .inr ⟨t, job, ?_⟩
    simpa [stopCall?, job, ready] using call
  | begins q => exact .inl (by simp)
  | launches env => cases call

/-- A stop that returns while no other job has one under way, and none has been broken off, returns
when the loop is over. -/
theorem over_of_returned (setup : Setup) (h : List Move) {m : Move} {n : Nat}
    {part : Turn Stopping (Except Failure Stats)} {result : Except Failure Stats}
    (turn : (setup.system.after h).StopTurn r m n part) (returned : part.2 = .finished result)
    (alone : ∀ n' t st, (setup.system.after h).jobs[n']? = some (.waiting t) →
      t.stopping? = some (r, st) → n' = n) (unbroken : setup.system.Unbroken h r) :
    ((setup.system.after h).world.receiver r).loop.isOver = true := by
  have hr := turn.lt (charged_after rfl rfl h)
  cases turn with
  | calls site w call takes same =>
    have hj : ((setup.system.after h).world.receiver r).joinable = false := by
      rw [← same]
      cases hj : (w.receiver r).joinable with
      | false => rfl
      | true =>
        obtain ⟨st, hst⟩ := stoppingStart_waits hj
        rw [hst] at returned
        cases returned
    rcases claimed_after h hr rfl hj unbroken with hover | ⟨n', t, st, job, under⟩
    · exact hover
    · -- the job that calls for a stop is not the one that is carrying it out
      obtain rfl := alone n' t st job under
      rcases takes.caller call with hnone | ⟨t', job', hcall⟩
      · rw [hnone] at job
        cases job
      · rw [job, Option.some.injEq, Progress.waiting.injEq] at job'
        rw [job', Task.stopping?_of_stopCall? hcall] at under
        cases under
  | goesOn t st job under ready =>
    obtain ⟨site, rfl⟩ := Site.of_stopping under
    cases st with
    | cancelling p =>
      have hpart := stage_of_cancelled p r (setup.system.after h).world
      rw [returned] at hpart
      cases ha : p.reply.answer <;> rw [ha] at hpart <;> cases hpart
    | joining => simpa [Site.wait_task, Stopping.wait, System.ready, World.ready] using ready

/-- A receiver whose loop is over is drained. -/
theorem drained_of_over (setup : Setup) (h : List Move)
    (hr : r < (setup.system.after h).world.receivers.length)
    (hover : ((setup.system.after h).world.receiver r).loop.isOver = true) :
    setup.system.Drained h r := by
  obtain ⟨laps, tail, hcourse⟩ := course_after (s := setup.system) rfl h hr
  exact ⟨hover, hcourse.settled hover, fun h' => (silent_of_over h' hr hover).1⟩

/-- A job to which a stop returns has closed nothing before. -/
theorem StopTurn.unclosed (hjobs : s.jobs = []) {m : Move} {n : Nat}
    {part : Turn Stopping (Except Failure Stats)} (turn : (s.after h).StopTurn r m n part) :
    ∀ c ∈ Closing.calls, .called c ∉ eventsBy (.job n) (s.deeds h) := by
  cases turn with
  | calls site w call takes same =>
    rcases takes.caller call with hnone | ⟨t, job, hcall⟩
    · rw [absent_job_after h hnone]
      exact fun _ _ => List.not_mem_nil
    · exact unclosed_of_receiver hjobs h job (Task.receiver?_of_stopCall? hcall)
  | goesOn t st job under ready =>
    exact unclosed_of_receiver hjobs h job (Task.receiver?_of_stopping? under)

/-- A stop that returns while no other job has a stop of the receiver under way, and after none has
been broken off, leaves the receiver drained; and its job closes nothing before that. -/
theorem drained_of_returned (setup : Setup) (h : List Move) {m : Move} {n r : Nat}
    {part : Turn Stopping (Except Failure Stats)} {result : Except Failure Stats}
    (turn : (setup.system.after h).StopTurn r m n part) (returned : part.2 = .finished result)
    (alone : ∀ n' t st, (setup.system.after h).jobs[n']? = some (.waiting t) →
      t.stopping? = some (r, st) → n' = n) (unbroken : setup.system.Unbroken h r) :
    setup.system.Drained h r ∧
      ∀ c ∈ Closing.calls, .called c ∉ eventsBy (.job n) (setup.system.deeds h) :=
  ⟨drained_of_over setup h (turn.lt (charged_after rfl rfl h))
    (over_of_returned setup h turn returned alone unbroken), turn.unclosed rfl⟩

/-- A consumer is stopped while its handler is at work, and its loop has ended. -/
def drainHistory : List Move :=
  [.begin (.start "users" .auto none .cued), .act (.job 0),
    .deliver 0 (.delivery { tag := 1 } {}), .act (.receiver 0), .begin (.stop 0), .act (.job 1),
    .act (.receiver 0), .act (.receiver 0)]

theorem drained_of_returned_drainHistory :
    ∃ part result, ((Setup.system { connected := true }).after drainHistory).StopTurn 0
        (.act (.job 1)) 1 part ∧ part.2 = .finished result ∧
      (Setup.system { connected := true }).Drained drainHistory 0 ∧
      ∀ c ∈ Closing.calls, .called c ∉
        eventsBy (.job 1) ((Setup.system { connected := true }).deeds drainHistory) := by
  have turn : ((Setup.system { connected := true }).after drainHistory).StopTurn 0
      (.act (.job 1)) 1 _ := .goesOn (.stopping 0 .joining) .joining rfl rfl rfl
  refine ⟨_, _, turn, rfl, drained_of_returned { connected := true } drainHistory turn rfl ?_ ?_⟩
  · intro n' t st job under
    rcases n' with _ | _ | n'
    · cases job
    · rfl
    · cases job
  · intro h₁ h₂ n t st payload split job under hcrashed
    rcases n with _ | _ | n <;> cases hcrashed

/-- The stop of a receiver that somebody else has taken charge of returns in the turn in which it is
called. -/
theorem returned_of_claimed {m : Move} (call : s.stopCall? m = some r)
    (claimed : (s.world.receiver r).joinable = false) :
    ∃ n part, s.StopTurn r m n part ∧ part.2 = .finished (.ok {}) := by
  obtain ⟨n, site, w, takes, hw⟩ := takes_of_stopCall call
  have same : w.receiver r = s.world.receiver r := by rcases hw with rfl | rfl <;> rfl
  refine ⟨n, _, .calls site w call takes same, ?_⟩
  rw [stoppingStart_of_not_joinable (same ▸ claimed)]

/-- While the handler is at work a stop is asked for, and then a shutdown over the same consumer. -/
def overtakingHistory : List Move :=
  [.begin (.start "users" (.manual false) none .cued), .act (.job 0),
    .deliver 0 (.delivery { tag := 1 } { gate := some "g" }), .act (.receiver 0),
    .begin (.stop 0), .begin (.run 0 none none), .shutdown, .act (.job 2)]

/-- A stop that overtakes another one returns while the handler is at work, and the channel is
closed in the same turn. -/
theorem overtaking_not_drained :
    ¬ (∀ (setup : Setup) (h : List Move) (m : Move) (n r : Nat)
      (part : Turn Stopping (Except Failure Stats)) (result : Except Failure Stats),
      (setup.system.after h).StopTurn r m n part → part.2 = .finished result →
        setup.system.Drained h r) ∧
    .called Closing.channelCall ∈ ((Setup.system { connected := true }).after
      overtakingHistory).added (.act (.job 2)) := by
  refine ⟨fun claim => ?_, by decide⟩
  obtain ⟨n, part, turn, returned⟩ := returned_of_claimed (r := 0) (m := .act (.job 2))
    (s := (Setup.system { connected := true }).after overtakingHistory) rfl rfl
  have ended := (claim { connected := true } overtakingHistory _ n 0 part _ turn returned).ended
  cases ended

end System

end TopicWorker
