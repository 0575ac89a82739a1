import TopicWorker.Proofs.Rundown
import TopicWorker.Proofs.Startup
import TopicWorker.Proofs.Publications
import TopicWorker.Proofs.Settlements
import TopicWorker.Proofs.Stopping

/-!
# The order of a teardown

An application that has got as far as its receiver is taken down in one order, whatever the
broker answers and whenever it does, and whatever the receiver is doing. Before it publishes
that it drains it only sets things up; with that stage no handler begins any more, because the
receiver is told to stop in the same step, before anybody else may go on; and nothing is closed
before the receive loop is over, with nothing left to be done and nothing more to be asked of the
broker.

The invariant that carries this follows the job and the receiver side by side: what the job
has done is a beginning of the whole, a receiver is told to stop when draining is published,
and its loop is over when the job has the stop behind it.

## Main definitions

* `System.Winding`: the invariant.
* `System.TearsDown`: what is said of the teardown of an application.

## Main results

* `System.winding_after`: the invariant holds from where the application blocks.
* `torn_down_in_order`: every application is taken down in order.
-/

namespace TopicWorker

namespace System

variable {s : System} {n r l : Nat} {tag : String} {done : List Event}

/-- An application that blocks comes to yield first. -/
theorem turn_of_blocked {t : Task} (s : System)
    (blocked : t.app? = some (.running (.blocked (.receiver r) (.link l)))) :
    ∃ t', (s.turn t).2 = .waiting t' ∧ t'.receiver? = some r := by
  rcases Task.of_app? blocked with ⟨a, rfl⟩ | ⟨a, listener, rfl⟩ <;> exact ⟨_, rfl, rfl⟩

/-- A job on its course goes on with its receiver, or is taken along by the broker client, until
it has waited for the loop's end; this takes for granted that the receiver can be joined when
its stop is called. -/
theorem behind_of_turn {t : Task} (h : JobCourse r l tag (.waiting t) done)
    (joinable : t.stopCall? = some r → (s.world.receiver r).joinable = true) :
    t.receiver? = none ∨ t.stopping? = some (r, .joining) ∨
      (∃ t', (s.turn t).2 = .waiting t' ∧ t'.receiver? = some r) ∨
      ∃ payload, (s.turn t).2 = .crashed payload := by
  rcases h.stage with behind | ⟨st, under⟩ | call | blocked
  · exact .inl behind
  · obtain ⟨site, rfl⟩ := Site.of_stopping under
    cases st with
    | joining => exact .inr (.inl under)
    | cancelling p =>
      have hpart := stage_of_cancelled p r s.world
      rw [turn_eq_resume s (site.task_ne_joining _), Site.resume_task]
      right
      right
      cases ha : p.reply.answer with
      | crashed payload =>
        rw [ha] at hpart
        exact .inr ⟨payload, site.turn_crashed hpart⟩
      | _ =>
        rw [ha] at hpart
        exact .inl ⟨_, site.turn_waiting hpart, site.receiver_task _⟩
  · obtain ⟨site, hsite⟩ := Site.of_stopCall call s.world
    have alone : ∀ listener result, t ≠ .program (.joining listener result) := by
      rintro listener result rfl
      cases call
    obtain ⟨st, hst⟩ := stoppingStart_waits (w := s.world.transition .draining) (joinable call)
    rw [turn_eq_resume s alone, hsite]
    exact .inr (.inr (.inl ⟨_, site.turn_waiting hst, site.receiver_task _⟩))
  · exact .inr (.inr (.inl (s.turn_of_blocked blocked)))

/-! ## The invariant -/

/-- A receiver that the job of an application is taking down, after the job has done something:
the job is on its course, the receiver has been told to stop if draining has been published,
and its loop is over if the job has the stop behind it. -/
structure Winding (s : System) (n r l : Nat) (tag : String) (done : List Event) : Prop where
  there : r < s.world.receivers.length
  named : (s.world.receiver r).tag = tag
  course : ∃ p, s.jobs[n]? = some p ∧ JobCourse r l tag p done
  told : .published .draining ∈ done → (s.world.receiver r).cancelled = true
  ended : ∀ t, s.jobs[n]? = some (.waiting t) → t.receiver? = none →
    (s.world.receiver r).loop.isOver = true

/-- A job publishes only what its stage lets it publish. -/
theorem stage_of_published {t : Task} {stage : Lifecycle} (job : s.jobs[n]? = some (.waiting t))
    (ready : s.ready t.wait = true)
    (h : .published stage ∈ eventsBy (.job n) (s.doing (.act (.job n)))) : stage ∈ t.stages := by
  have takes : s.Takes (.act (.job n)) n (s.turn t) := .goesOn job ready
  obtain ⟨told, htold, hdoing⟩ := doing_of_takes takes takes.turned.world (s.speaks_turn t)
  rw [hdoing, eventsBy_map_same] at h
  rcases List.mem_append.mp h with h | h
  · rcases List.mem_append.mp h with h | h
    · simp [Pending.heard] at h
    · exact htold _ h
  · unfold Progress.calls at h
    split at h <;> simp at h

/-- A job that has just got the stop behind it has waited for the loop's end. -/
theorem Winding.isOver_of_turn (h : s.Winding n r l tag done) {t t' : Task}
    (job : s.jobs[n]? = some (.waiting t)) (ready : s.ready t.wait = true)
    (joinable : t.stopCall? = some r → (s.world.receiver r).joinable = true)
    (turn : (s.turn t).2 = .waiting t') (behind : t'.receiver? = none) :
    (s.world.receiver r).loop.isOver = true := by
  obtain ⟨p, hp, hcourse⟩ := h.course
  rw [job, Option.some.injEq] at hp
  subst hp
  rcases behind_of_turn hcourse joinable with before | joining | ⟨t'', hwaits, hstill⟩ |
    ⟨payload, hcrashed⟩
  · exact h.ended t job before
  · obtain ⟨site, rfl⟩ := Site.of_stopping joining
    simpa [Site.wait_task, Stopping.wait, System.ready, World.ready] using ready
  · rw [turn, Progress.waiting.injEq] at hwaits
    rw [hwaits, hstill] at behind
    cases behind
  · rw [turn] at hcrashed
    cases hcrashed

/-- A move keeps the invariant, if a receiver whose stop has not begun can be joined. -/
theorem Winding.move (h : s.Winding n r l tag done)
    (charge : (s.world.receiver r).joinable = !(s.world.receiver r).cancelled)
    (ahead : ∀ t, s.jobs[n]? = some (.waiting t) → t.stopCall? = some r →
      (s.world.receiver r).joinable = true) (m : Move) :
    (s.move m).Winding n r l tag (done ++ acts (eventsBy (.job n) (s.doing m))) := by
  obtain ⟨p, job, hcourse⟩ := h.course
  obtain ⟨hthere, hundergoes⟩ := s.follows m h.there
  have hnamed : ((s.move m).world.receiver r).tag = tag := hundergoes.frame.1.trans h.named
  have hstill : (s.world.receiver r).loop.isOver = true →
      ((s.move m).world.receiver r).loop.isOver = true := fun hover => by
    rw [(hundergoes.of_over hover).1]
    exact hover
  have htold : .published .draining ∈ done → ((s.move m).world.receiver r).cancelled = true :=
    fun hd => (hundergoes.of_cancelled (h.told hd)).1
  rcases move_of_job job m with ⟨hno, hsame⟩ | ⟨t, rfl, ready, rfl⟩
  · have hquiet : acts (eventsBy (.job n) (s.doing m)) = [] := by
      rw [doing_of_no_turn hno]
      rfl
    rw [hquiet, List.append_nil]
    refine ⟨hthere, hnamed, ⟨p, hsame, hcourse⟩, htold, ?_⟩
    intro t ht behind
    rw [hsame] at ht
    exact hstill (h.ended t (job.trans ht) behind)
  · have takes : s.Takes (.act (.job n)) n (s.turn t) := .goesOn job ready
    have turned := takes.turned
    obtain ⟨more, hmore, hkept⟩ := keepsTo_turn s h.named hcourse
    refine ⟨hthere, hnamed, ⟨_, turned.job, ?_⟩, ?_, ?_⟩
    · rw [acts_of_takes takes hmore]
      exact hkept
    · intro hd
      rcases List.mem_append.mp hd with hd | hd
      · exact htold hd
      · -- the stage is published in the turn that calls for the stop
        have hstage := stage_of_published job ready (List.mem_filter.mp hd).1
        have hcall : s.stopCall? (.act (.job n)) = some r := by
          simp [stopCall?, job, ready, hcourse.stopCall_of_draining hstage]
        rw [hcall, beq_self_eq_true] at hundergoes
        exact (hundergoes.cancelled_of_called charge).1
    · intro t' job' behind
      rw [turned.job, Option.some.injEq] at job'
      exact hstill (h.isOver_of_turn job ready (ahead t job) job' behind)

/-- From where an application blocks on its receiver the invariant holds. -/
theorem winding_after (setup : Setup) (h : List Move) {t : Task}
    (job : (setup.system.after h).jobs[n]? = some (.waiting t))
    (blocked : t.app? = some (.running (.blocked (.receiver r) (.link l)))) (h' : List Move) :
    (setup.system.after (h ++ h')).Winding n r l ((setup.system.after h).world.receiver r).tag
      (acts (eventsBy (.job n) ((setup.system.after h).deeds h'))) := by
  have hr : t.receiver? = some r := Task.receiver?_of_app? blocked
  induction h' using List.reverseRecOn with
  | nil =>
    rw [List.append_nil]
    have charged := charged_after (s := setup.system) rfl rfl h
    refine ⟨(charged.owned n t r job (by simp [blocked]) hr).1, rfl,
      ⟨_, job, .under t _ [] blocked .blocked⟩, fun hd => (by cases hd), ?_⟩
    intro t' job' behind
    rw [job, Option.some.injEq, Progress.waiting.injEq] at job'
    rw [← job', hr] at behind
    cases behind
  | append_singleton h' m ih =>
    obtain ⟨laps, tail, hcourse⟩ :=
      course_after (s := setup.system) rfl (h ++ h') ih.there
    have hmoved := ih.move hcourse.charge (fun t' job' hcall => ?_) m
    · rw [← List.append_assoc, after_concat, deeds_concat, eventsBy_append, acts_append]
      rwa [after_append] at hmoved ⊢
    · obtain ⟨p, hp, hjob⟩ := ih.course
      rw [job', Option.some.injEq] at hp
      subst hp
      obtain ⟨happ, hahead⟩ := hjob.ahead_of_stopCall hcall
      exact joinable_of_ahead (s := setup.system) rfl rfl (h ++ h') job' happ
        (Task.receiver?_of_stopCall? hcall) hahead

/-! ## Reading the deeds -/

/-- What an actor has done beyond setting things up it has done after a history in which it has
only set things up. -/
theorem after_of_late {a : Actor} {e : Event} {h h' h₁ h₂ : List Move}
    (setUp : ∀ e ∈ eventsBy a (s.deeds h), e.setsUp = true) (late : e.setsUp = false)
    (split : h ++ h' = h₁ ++ h₂) (he : (a, e) ∈ s.deeds h₁) :
    ∃ h₃, h₁ = h ++ h₃ ∧ e ∈ eventsBy a ((s.after h).deeds h₃) := by
  have absent : (a, e) ∉ s.deeds h := fun hmem => by
    rw [setUp e (mem_eventsBy.mpr hmem)] at late
    cases late
  rcases List.append_eq_append_iff.mp split with ⟨h₃, rfl, -⟩ | ⟨h₃, rfl, -⟩
  · rw [deeds_append] at he
    rcases List.mem_append.mp he with he | he
    · exact absurd he absent
    · exact ⟨h₃, rfl, mem_eventsBy.mpr he⟩
  · rw [deeds_append] at absent
    exact absurd (List.mem_append_left _ he) absent

/-! ## The teardown of an application -/

/-- How an application takes its receiver down, in the course of a history that goes on from one
in which it blocks on it. -/
structure TearsDown (s : System) (h h' : List Move) (n r : Nat) : Prop where
  /-- So far the application has only set up what it needs, -/
  setUp : ∀ e ∈ eventsBy (.job n) (s.deeds h), e.setsUp = true
  /-- and it has asked for a consumer in the receiver's mode and under its tag. -/
  registered : ∃ queue, (.job n, .called (.consume queue ((s.after h).world.receiver r).tag
    ((s.after h).world.receiver r).mode)) ∈ s.deeds h
  /-- What it goes on to do is a beginning of the whole teardown, which cancels that tag, closes
  the channel and closes the connection, each at most once and in this order, and each when the
  call before it has been answered or skipped. -/
  order : ∃ cancel channel connection, acts (eventsBy (.job n) ((s.after h).deeds h')) <+:
    rundown ((s.after h).world.receiver r).tag cancel channel connection
  /-- When it has finished it has done the whole. -/
  whole : ∀ o, (s.after (h ++ h')).jobs[n]? = some (.finished o) →
    ∃ cancel channel connection, acts (eventsBy (.job n) ((s.after h).deeds h')) =
      rundown ((s.after h).world.receiver r).tag cancel channel connection
  /-- No handler begins after draining has been published. This rests on what a step is: a teardown
  publishes the stage and has the receiver told to stop in one, for it does not wait in between, and
  actors take turns only where they wait. -/
  drained : ∀ p q a kind d c, s.deeds (h ++ h') = p ++ (a, .dispatched r kind d c) :: q →
    (.job n, .published .draining) ∉ p
  /-- Nor does one begin while that, or the end, is the state of a lifecycle that nobody else moves
  on. -/
  state : (∀ a stage, (a, .published stage) ∈ s.deeds (h ++ h') → a = .job n) →
    (s.after (h ++ h')).world.lifecycle ∈ [.draining, .closed] → ∀ h'',
      invocations r (s.after (h ++ h' ++ h'')).world.trace =
        invocations r (s.after (h ++ h')).world.trace
  /-- When something is closed the receive loop has left nothing to be done: the handler has
  ended, and its settlement has been answered. From then on the loop does nothing, and the
  application calls for nothing but the close of the connection. -/
  closes : ∀ p q, ∀ c ∈ Closing.calls, s.deeds (h ++ h') = p ++ (.job n, .called c) :: q →
    Settled ((s.after h).world.receiver r).mode (beats (eventsBy (.receiver r) p)) ∧
      eventsBy (.receiver r) q = [] ∧ ∀ c', (.job n, .called c') ∈ q → c' = Closing.connectionCall

section Application

variable {setup : Setup} {h : List Move} {t : Task}
  (job : (setup.system.after h).jobs[n]? = some (.waiting t))
  (blocked : t.app? = some (.running (.blocked (.receiver r) (.link l))))

include job blocked

/-- An application that blocks has only set up what it needs. -/
theorem setUp_of_blocked : ∀ e ∈ eventsBy (.job n) (setup.system.deeds h), e.setsUp = true :=
  setUp_after rfl h job blocked rfl

/-- Once draining has been published the receiver has been told to stop. -/
theorem told_of_drained {h' h₁ h₂ : List Move} (split : h ++ h' = h₁ ++ h₂)
    (hd : (.job n, .published .draining) ∈ setup.system.deeds h₁) :
    r < (setup.system.after h₁).world.receivers.length ∧
      ((setup.system.after h₁).world.receiver r).cancelled = true := by
  obtain ⟨h₃, rfl, hmem⟩ := after_of_late (setUp_of_blocked job blocked) rfl split hd
  have winding := winding_after setup h job blocked h₃
  exact ⟨winding.there, winding.told (List.mem_filter.mpr ⟨hmem, rfl⟩)⟩

/-- What is handed over is handed over before draining is published. -/
theorem drained_of_blocked {h' : List Move} {p q : List (Actor × Event)} {a : Actor}
    {kind : HandlerKind} {d : Delivery} {c : TraceContext}
    (split : setup.system.deeds (h ++ h') = p ++ (a, .dispatched r kind d c) :: q) :
    (.job n, .published .draining) ∉ p := by
  intro hd
  obtain ⟨h₁, m, h₂, p', q', hsplit, hdoing, rfl, -⟩ := deeds_split split
  have hmem : (a, .dispatched r kind d c) ∈ (setup.system.after h₁).doing m := by simp [hdoing]
  have hname := eq_receiver_of_doing hmem rfl
  subst hname
  rcases List.mem_append.mp hd with hd | hd
  · obtain ⟨hr, htold⟩ := told_of_drained job blocked hsplit hd
    have hnone := begun_of_cancelled r [m] hr htold
    have hbegun : d ∈ begunIn (beats (eventsBy (.receiver r)
        ((setup.system.after h₁).deeds [m]))) := by
      refine List.mem_filterMap.mpr ⟨.began d, List.mem_filterMap.mpr
        ⟨.dispatched r kind d c, mem_eventsBy.mpr ?_, rfl⟩, rfl⟩
      exact List.mem_append_left _ hmem
    rw [hnone] at hbegun
    cases hbegun
  · -- the two would have been done in one move
    have hself := actor_of_doing hmem
    rw [actor_of_doing (d := (.job n, .published .draining)) (by simp [hdoing, hd])] at hself
    cases hself

/-- While the lifecycle is past draining nothing is handed over, if nobody else moves it on. -/
theorem invocations_of_draining {h' : List Move}
    (alone : ∀ a stage, (a, .published stage) ∈ setup.system.deeds (h ++ h') → a = .job n)
    (state : (setup.system.after (h ++ h')).world.lifecycle ∈ [.draining, .closed])
    (h'' : List Move) : invocations r (setup.system.after (h ++ h' ++ h'')).world.trace =
      invocations r (setup.system.after (h ++ h')).world.trace := by
  have winding := winding_after setup h job blocked h'
  have htrace := trace_deeds (s := setup.system) rfl
  generalize hlifecycle : (setup.system.after (h ++ h')).world.lifecycle = stage at state
  have hlast : .published stage ∈ (setup.system.after (h ++ h')).world.trace := by
    rw [← hlifecycle]
    refine (upToDate_after setup (h ++ h')).published ?_
    rw [hlifecycle]
    rintro rfl
    simp at state
  rw [htrace] at hlast
  obtain ⟨⟨a, e⟩, hmem, rfl⟩ := List.mem_map.mp hlast
  have ha := alone a stage hmem
  subst ha
  obtain ⟨h₃, heq, hlate⟩ :=
    after_of_late (setUp_of_blocked job blocked) rfl (List.append_nil _).symm hmem
  obtain rfl := List.append_cancel_left heq
  have hdone : .published stage ∈ acts (eventsBy (.job n) ((setup.system.after h).deeds h')) :=
    List.mem_filter.mpr ⟨hlate, rfl⟩
  obtain ⟨p, -, hcourse⟩ := winding.course
  obtain ⟨p', hteardown⟩ := hcourse.teardown
  have hother : Event.published stage ≠ .published .shutdownRequested := by
    rintro heq
    cases heq
    simp at state
  have htold := winding.told (hteardown.draining hdone hother)
  have named := wellNamed_deeds setup.system
  rw [htrace, htrace, invocations_deeds (named _), invocations_deeds (named _), deeds_append,
    eventsBy_append, beats_append, begunIn_append, begun_of_cancelled r h'' winding.there htold,
    List.append_nil]

/-- Everything that the application does is done in order. -/
theorem pairwise_acts (h' : List Move) :
    (acts (eventsBy (.job n) (setup.system.deeds (h ++ h')))).Pairwise Event.MayFollow := by
  obtain ⟨p, -, hcourse⟩ := (winding_after setup h job blocked h').course
  obtain ⟨p', hteardown⟩ := hcourse.teardown
  obtain ⟨cancel, channel, connection, hpre⟩ := hteardown.prefix_rundown
  have hsetUp := setUp_of_blocked job blocked
  have early : ∀ e ∈ acts (eventsBy (.job n) (setup.system.deeds h)), ∀ e', e.MayFollow e' := by
    rintro e he e' c hc rfl
    have := hsetUp _ (List.mem_filter.mp he).1
    rcases List.mem_pair.mp hc with rfl | rfl <;> cases this
  rw [deeds_append, eventsBy_append, acts_append, List.pairwise_append]
  refine ⟨List.Pairwise.imp_of_mem (fun he _ _ => early _ he _) (List.pairwise_of_forall fun _ _ =>
    trivial), ?_, fun e he e' _ => early e he e'⟩
  exact (pairwise_rundown _ cancel channel connection).sublist hpre.sublist

/-- When the application closes something its receiver's loop is over. -/
theorem over_of_closes {h' h₁ h₂ : List Move} {m : Move} {c : Call} (closes : c ∈ Closing.calls)
    (split : h ++ h' = h₁ ++ m :: h₂)
    (called : (.job n, .called c) ∈ (setup.system.after h₁).doing m) :
    r < (setup.system.after (h₁ ++ [m])).world.receivers.length ∧
      ((setup.system.after (h₁ ++ [m])).world.receiver r).loop.isOver = true ∧
      ((setup.system.after (h₁ ++ [m])).world.receiver r).mode =
        ((setup.system.after h).world.receiver r).mode := by
  have late : (Event.called c).setsUp = false ∧ ∀ tag, c ≠ .basicCancel tag false := by
    rcases List.mem_pair.mp closes with rfl | rfl <;> exact ⟨rfl, fun tag heq => by cases heq⟩
  have hmem : (.job n, .called c) ∈ setup.system.deeds (h₁ ++ [m]) := by
    rw [deeds_concat]
    exact List.mem_append_right _ called
  have hsplit : h ++ h' = h₁ ++ [m] ++ h₂ := by
    rw [split, List.append_assoc, List.singleton_append]
  obtain ⟨h₃, heq, -⟩ := after_of_late (setUp_of_blocked job blocked) late.1 hsplit hmem
  have winding := winding_after setup h job blocked h₃
  have winding₀ := winding_after setup h job blocked []
  have hframe := frame_after h₃ (List.append_nil h ▸ winding₀.there)
  rw [← heq] at winding
  obtain ⟨t', p, job', hpending, hc, -⟩ := waits_of_called called
  rw [← after_concat] at job'
  obtain ⟨p', hp', hcourse⟩ := winding.course
  rw [job', Option.some.injEq] at hp'
  subst hp'
  refine ⟨winding.there, winding.ended t' job' ?_, ?_⟩
  · exact hcourse.behind_of_pending hpending (hc ▸ late.2 _)
  · rw [heq, after_append]
    exact hframe.2.2

/-- What has happened when something is closed, and what happens from then on. -/
theorem closes_of_blocked {h' : List Move} {p q : List (Actor × Event)} {c : Call}
    (closes : c ∈ Closing.calls)
    (split : setup.system.deeds (h ++ h') = p ++ (.job n, .called c) :: q) :
    Settled ((setup.system.after h).world.receiver r).mode (beats (eventsBy (.receiver r) p)) ∧
      eventsBy (.receiver r) q = [] ∧
      ∀ c', (.job n, .called c') ∈ q → c' = Closing.connectionCall := by
  have hpairwise := pairwise_acts job blocked h'
  obtain ⟨h₁, m, h₂, p', q', hsplit, hdoing, rfl, rfl⟩ := deeds_split split
  have hmem : (.job n, .called c) ∈ (setup.system.after h₁).doing m := by simp [hdoing]
  obtain ⟨hthere, hover, hmode⟩ := over_of_closes job blocked closes hsplit hmem
  -- the loop does nothing in the move in which the call is made
  have hquiet : eventsBy (.receiver r) ((setup.system.after h₁).doing m) = [] :=
    eventsBy_doing_other (by rw [actor_of_doing hmem]; simp)
  have hparts := hquiet
  rw [hdoing, eventsBy_append, List.append_eq_nil_iff] at hparts
  obtain ⟨hbefore, hafter⟩ := hparts
  obtain ⟨laps, tail, hcourse⟩ := course_after (s := setup.system) rfl (h₁ ++ [m]) hthere
  have hsettled := hcourse.settled hover
  rw [eventsBy_deeds_concat, hquiet, List.append_nil, hmode] at hsettled
  refine ⟨?_, ?_, ?_⟩
  · rw [eventsBy_append, hbefore, List.append_nil]
    exact hsettled
  · rw [eventsBy_cons_of_ne (by simp)] at hafter
    rw [eventsBy_append, hafter, (silent_of_over h₂ hthere hover).1]
    rfl
  · intro c' hc'
    rw [split, eventsBy_append, eventsBy_cons_self, acts_append, List.pairwise_append] at hpairwise
    have hfollow := (List.pairwise_cons.mp hpairwise.2.1).1
    exact hfollow (.called c') (List.mem_filter.mpr ⟨mem_eventsBy.mpr hc', rfl⟩) c closes rfl c' rfl

end Application

/-- Every application that has got as far as blocking on its receiver is taken down in order. -/
theorem torn_down_in_order (setup : Setup) (h : List Move) {n r l : Nat} {t : Task}
    (job : (setup.system.after h).jobs[n]? = some (.waiting t))
    (blocked : t.app? = some (.running (.blocked (.receiver r) (.link l)))) (h' : List Move) :
    setup.system.TearsDown h h' n r := by
  have hr : t.receiver? = some r := Task.receiver?_of_app? blocked
  obtain ⟨p, hp, hcourse⟩ := (winding_after setup h job blocked h').course
  constructor
  case setUp => exact setUp_of_blocked job blocked
  case registered => exact asked_of_app rfl h rfl job (by simp [blocked]) hr
  case order =>
    obtain ⟨p', hteardown⟩ := hcourse.teardown
    exact hteardown.prefix_rundown
  case whole =>
    intro o ho
    rw [ho, Option.some.injEq] at hp
    subst hp
    exact hcourse.whole
  case drained => exact fun p q a kind d c split => drained_of_blocked job blocked split
  case state => exact invocations_of_draining job blocked
  case closes => exact fun p q c hc split => closes_of_blocked job blocked hc split

/-- The configuration of a worker in manual mode. -/
def manualConfig : Config where
  name := "worker"
  endpoint :=
    { host := "localhost", user := "guest", password := "guest", port := 5672, vhost := "/" }
  ackMode := .manual false
  prefetch := none

/-- An application sets itself up and blocks on its receiver. -/
def blockHistory : List Move :=
  .begin (.app manualConfig.render .cued) :: List.replicate 6 (.act (.job 0))

/-- A shutdown is requested while the handler of the application is at work. -/
def shutdownHistory : List Move :=
  [.deliver 0 (.delivery { tag := 1 } {}), .act (.receiver 0), .shutdown, .act (.job 0),
    .act (.job 0), .act (.receiver 0), .act (.receiver 0), .act (.receiver 0), .act (.job 0),
    .act (.job 0), .act (.job 0), .act (.job 0)]

theorem torn_down_in_order_shutdownHistory : ∃ t : Task,
    (Setup.system {} |>.after blockHistory).jobs[0]? = some (.waiting t) ∧
      t.app? = some (.running (.blocked (.receiver 0) (.link 0))) ∧
      (Setup.system {}).TearsDown blockHistory shutdownHistory 0 0 :=
  ⟨_, rfl, rfl, torn_down_in_order {} blockHistory rfl rfl shutdownHistory⟩

end System

end TopicWorker
