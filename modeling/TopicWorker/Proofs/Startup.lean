import TopicWorker.Proofs.Charges
import TopicWorker.Proofs.Registrations

/-!
# Before the teardown

Until an application is asked to shut down it only sets up what it needs. It cancels, settles
and closes nothing, it publishes no stage, and the receiver that it blocks on is the one that
it has registered for itself.

## Main definitions

* `Event.setsUp`: what an application may do before it is torn down.
* `App.isEarly`: an application that has not been asked to shut down.

## Main results

* `System.setUp_after`: an early application has only set up what it needs.
* `System.asked_of_app`: an application has asked for its receiver's consumer.
-/

namespace TopicWorker

/-- Whether a method sets something up. -/
def Method.setsUp : Method → Bool
  | connect | createChannel | exchangeDeclare | queueDeclare | queueBind | basicQos
  | basicConsume => true
  | _ => false

/-- What an application may do before it is torn down: it publishes nothing, and it asks the
broker only to set something up. -/
def Event.setsUp : Event → Bool
  | called c => c.method.setsUp
  | published _ => false
  | _ => true

/-- Whether an application has neither been asked to shut down nor given up. -/
def App.isEarly : App → Bool
  | opening _ | subscribing _ _ | starting _ _ _ | running (.blocked _ _) => true
  | _ => false

/-- An early application waits for the answer to a method that sets something up, if it waits for
one. -/
theorem App.setsUp_of_early {s : App} (early : s.isEarly = true) {m : Method}
    (h : s.method? = some m) : m.setsUp = true := by
  cases s with
  | opening s => cases s <;> cases h <;> rfl
  | subscribing l s => cases s <;> cases h <;> rfl
  | starting l sub s => cases s <;> cases h <;> rfl
  | running s =>
    cases s with
    | blocked stopper closer => cases h
    | _ => cases early
  | abandoning l f s => cases early

section Operations

variable (w : World)

theorem late_stopped (closer : Closer) (result : Except Failure Stats) :
    (Teardown.stopped closer result w).2.All fun s => (App.running s).isEarly = false := by
  refine stopped_induction (motive := fun _ t => t.2.All fun s => (App.running s).isEarly = false)
    (fun _ _ _ h => h) (fun w l _ => ?_) (fun _ _ _ => rfl) w
  exact all_andThen (all_true _) (fun _ _ => rfl) fun r w' => all_closed w' result r

/-- A teardown never goes back to where it has begun. -/
theorem late_teardownResume (s : Teardown) :
    (s.resume w).2.All fun s' => (App.running s').isEarly = false := by
  cases s with
  | blocked stopper closer => rfl
  | yielding stopper closer =>
    cases stopper with
    | receiver r =>
      exact all_andThen (all_true _) (fun _ _ => rfl) fun r w' => late_stopped w' closer r
    | given op => rfl
  | stopping r closer s =>
    exact all_andThen (all_true _) (fun _ _ => rfl) fun r w' => late_stopped w' closer r
  | stoppingGiven op closer => exact fits_ending w op.ending fun r w' => late_stopped w' closer r
  | closing l result s =>
    exact all_andThen (all_true _) (fun _ _ => rfl) fun r w' => all_closed w' result r
  | closingGiven op result => exact fits_ending w op.ending fun r w' => all_closed w' result r

/-- An application is early after a turn only if it has been so before, and then the turn has
published nothing. -/
theorem early_appResume (a : AppSetup) (s : App) :
    (s.resume a w).2.All fun s' => s'.isEarly = true → s.isEarly = true ∧ s.stages = [] := by
  cases s with
  | running s =>
    refine all_andThen (late_teardownResume w s) (fun s' hlate hearly => ?_) fun _ _ => trivial
    rw [hlate] at hearly
    cases hearly
  | abandoning l f s =>
    exact all_andThen (all_true _) (fun _ _ h => by cases h) fun _ _ => trivial
  | _ => exact (all_true _).mono fun _ _ _ => ⟨rfl, rfl⟩

/-- Only an application goes on to an application. -/
theorem app_taskResume (t : Task) :
    (t.resume w).2.All fun t' => ∀ s', t'.app? = some s' →
      ∃ a s, t.app? = some s ∧ t.stages = s.stages ∧
        s.resume a w = ((t.resume w).1, .waiting s') := by
  cases t with
  | app a s =>
    refine all_asJob (all_self _) fun s' hs s'' h => ?_
    cases h
    have hworld := congrArg Prod.fst (Turn.andThen_waiting hs (Task.app a)
      fun result w => (w, .finished (Outcome.ofResult .stats result)))
    exact ⟨a, s, rfl, rfl, Prod.ext hworld.symm hs⟩
  | program p =>
    cases p with
    | running a listener s =>
      refine all_andThen (all_self _) (fun s' hs s'' h => ?_) fun _ _ _ h => by cases h
      cases h
      have hworld := congrArg Prod.fst (Turn.andThen_waiting hs
        (fun s => Task.program (.running a listener s)) (Task.appEnded listener))
      exact ⟨a, s, rfl, rfl, Prod.ext hworld.symm hs⟩
    | joining listener result => exact fun _ h => by cases h
  | opening s => exact all_andThen (all_true _) (fun _ _ _ h => by cases h) fun _ _ => trivial
  | _ => exact all_asJob (all_true _) fun _ _ _ h => by cases h

end Operations

namespace System

variable {s : System}

theorem app_turn (s : System) (t : Task) :
    (s.turn t).2.All fun t' => ∀ b', t'.app? = some b' →
      ∃ a b, t.app? = some b ∧ t.stages = b.stages ∧
        b.resume a s.world = ((s.turn t).1, .waiting b') := by
  refine turn_induction s (motive := fun u => u.2.All fun t' => ∀ b', t'.app? = some b' →
    ∃ a b, t.app? = some b ∧ t.stages = b.stages ∧ b.resume a s.world = (u.1, .waiting b'))
    (app_taskResume s.world t) fun listener result o _ => ?_
  obtain ⟨o', ends⟩ := conclude_finished s.world result o
  rw [ends]
  trivial

/-- A turn that leaves an application early publishes nothing, and it is its first turn or the
application has been early before. -/
theorem Takes.early {m : Move} {n : Nat} {u : Turn Task Outcome} (h : s.Takes m n u) {t' : Task}
    {b' : App} (hu : u.2 = .waiting t') (app : t'.app? = some b') (early : b'.isEarly = true) :
    ((∃ t b, s.jobs[n]? = some (.waiting t) ∧ t.app? = some b ∧ b.isEarly = true) ∨
      s.jobs[n]? = none) ∧
    ∃ heard : Option Pending,
      u.Speaks [] Task.pending? s.world (heard.map Pending.heard).toList := by
  cases h with
  | @goesOn _ t job ready =>
    obtain ⟨a, b, hb, hstages, hresume⟩ := (s.app_turn t).of_waiting hu b' app
    obtain ⟨hb', hnone⟩ :=
      (early_appResume s.world a b).of_waiting (congrArg Prod.snd hresume) early
    refine ⟨.inl ⟨t, b, job, hb, hb'⟩, t.pending?, ?_⟩
    have speaks := s.speaks_turn t
    rwa [hstages, hnone] at speaks
  | begins q => exact ⟨.inr (by simp), none, speaks_begin s.world q s.handles⟩
  | launches env => exact ⟨.inr (by simp), none, s.speaks_launchTurn env⟩

/-- An early application has only set up what it needs. -/
theorem setUp_after (hjobs : s.jobs = []) (h : List Move) {n : Nat} {t : Task} {b : App}
    (job : (s.after h).jobs[n]? = some (.waiting t)) (app : t.app? = some b)
    (early : b.isEarly = true) : ∀ e ∈ eventsBy (.job n) (s.deeds h), e.setsUp = true := by
  induction h using List.reverseRecOn generalizing t b with
  | nil => simp [hjobs] at job
  | append_singleton h m ih =>
    rw [after_concat] at job
    rw [eventsBy_deeds_concat]
    intro e he
    rcases job_of_move job with ⟨hsame, hno⟩ | ⟨-, hnew⟩ | ⟨u, takes, hu, hworld⟩
    · rw [doing_of_no_turn hno, List.append_nil] at he
      exact ih hsame app early e he
    · cases hnew
      cases app
    · obtain ⟨hbefore, heard, speaks⟩ := takes.early hu app early
      have fits := takes.fits.of_waiting hu
      rcases List.mem_append.mp he with he | he
      · rcases hbefore with ⟨t₀, b₀, job₀, app₀, early₀⟩ | hnone
        · exact ih job₀ app₀ early₀ e he
        · rw [absent_job_after h hnone] at he
          cases he
      · obtain ⟨told, htold, hdoing⟩ := doing_of_takes takes hworld speaks
        rw [hdoing, eventsBy_map_same, hu] at he
        rcases List.mem_append.mp he with he | he
        · rcases List.mem_append.mp he with he | he
          · obtain ⟨p, -, rfl⟩ : ∃ p, heard = some p ∧ Pending.heard p = e := by simpa using he
            rfl
          · have := htold e he
            cases e <;> first | rfl | simp [Event.Told] at this
        · obtain ⟨p, hp, rfl⟩ : ∃ p, t.pending? = some p ∧ Event.called p.call = e := by
            simpa [Progress.calls] using he
          refine App.setsUp_of_early early (m := p.call.method) ?_
          have hfits : (t.pending?).map (·.call.method) = t.method? := fits
          rw [← Task.method?_of_app? app, ← hfits, hp]
          rfl

/-- An application has asked for the consumer of its receiver, in its mode and under its tag. -/
theorem asked_of_app (hjobs : s.jobs = []) (h : List Move) {n r : Nat} {t : Task}
    (hconsumers : s.handles.consumers = [])
    (job : (s.after h).jobs[n]? = some (.waiting t)) (happ : t.app?.isSome = true)
    (hr : t.receiver? = some r) : ∃ queue, (.job n, .called (.consume queue
      ((s.after h).world.receiver r).tag ((s.after h).world.receiver r).mode)) ∈ s.deeds h := by
  induction h using List.reverseRecOn generalizing t with
  | nil => simp [hjobs] at job
  | append_singleton h m ih =>
    rw [after_concat] at job ⊢
    rw [deeds_concat]
    rcases naming_of_move job hr with ⟨t₀, job₀, hr₀, happ₀⟩ | ⟨-, hnone⟩ |
      ⟨hfresh, hlength, ⟨u, takes, -⟩, -⟩
    · obtain ⟨queue, hasked⟩ := ih job₀ (happ₀ ▸ happ) hr₀
      have hlt := ((charged_after hjobs hconsumers h).owned n t₀ r job₀ (happ₀ ▸ happ) hr₀).1
      obtain ⟨htag, -, hmode, -⟩ := ((s.after h).follows m hlt).2.frame
      refine ⟨queue, List.mem_append_left _ ?_⟩
      rw [htag, hmode]
      exact hasked
    · rw [hnone] at happ
      cases happ
    · obtain ⟨-, -, hnew⟩ := (s.after h).appears m (r := r) (by omega)
      obtain ⟨n', t', g, tag, rfl, job', reg, -, hv⟩ :=
        hnew _ (World.getElem?_receivers (by omega))
      have hn : n' = n := by
        have := takes.actor
        cases this
        rfl
      subst hn
      refine ⟨g.queue, List.mem_append_left _ ?_⟩
      rw [hv]
      exact asked_after hjobs h job' reg

end System

end TopicWorker
