import TopicWorker.Proofs.Following

/-!
# A request to shut down stays

A shutdown may be requested from outside, by a signal, or by an application that has ended. Nothing
ever takes the request back: whoever waits for it finds it, however late he comes.

## Main results

* `System.requested_after`: a shutdown that has been requested stays requested.
-/

namespace TopicWorker

section Operations

variable {w : World}

/-- An application neither requests a shutdown nor takes the request back. -/
theorem requested_appResume (w : World) (a : AppSetup) (s : App) :
    (s.resume a w).1.shutdownRequested = w.shutdownRequested := by
  cases hup : s.isUp with
  | true =>
    cases s with
    | running s =>
      exact keeps_andThen (f := World.shutdownRequested)
        (keeps_teardownResume keptByCalls_shutdownRequested (fun _ _ => rfl) (fun _ _ => rfl)
          (fun _ _ => rfl) w s) fun _ _ => rfl
    | _ => cases hup
  | false =>
    exact keeps_appResume keptByCalls_shutdownRequested (fun _ _ => rfl) (fun _ _ => rfl) w a hup
      fun l sub st _ => keeps_startingResume keptByCalls_shutdownRequested (fun _ _ => rfl)
        (fun _ _ _ => rfl) w _ st

/-- A listener that finds a shutdown requested leaves it so. -/
theorem requested_listeningResume (requested : w.shutdownRequested = true) (s : Listening) :
    (s.resume w).1.shutdownRequested = true := by
  have comes := Listening.resumes w s
  generalize s.resume w = t at comes
  cases comes with
  | released looked => exact (looked.same fun _ => rfl).trans requested
  | received => rfl
  | unavailable => rfl
  | installs looked => exact (looked.same fun _ => rfl).trans requested
  | waits => exact requested

/-- After the application the program requests a shutdown. -/
theorem requested_running {t : Turn App (Except Failure Stats)}
    (requested : t.1.shutdownRequested = true) (embed : App → Task) (listener : Nat) :
    (t.andThen embed (Task.appEnded listener)).1.shutdownRequested = true := by
  obtain ⟨w', p⟩ := t
  cases p with
  | finished result => rfl
  | _ => exact requested

theorem requested_taskResume (requested : w.shutdownRequested = true) (t : Task) :
    (t.resume w).1.shutdownRequested = true := by
  have same : ∀ {u : Turn Task Outcome}, u.1.shutdownRequested = w.shutdownRequested →
      u.1.shutdownRequested = true := fun h => h.trans requested
  cases t with
  | starting g s =>
    exact same (keeps_asJob (f := World.shutdownRequested)
      (keeps_startingResume keptByCalls_shutdownRequested (fun _ _ => rfl) (fun _ _ _ => rfl) w g
        s))
  | teardown s =>
    exact same (keeps_asJob (f := World.shutdownRequested)
      (keeps_teardownResume keptByCalls_shutdownRequested (fun _ _ => rfl) (fun _ _ => rfl)
        (fun _ _ => rfl) w s))
  | app a s =>
    exact same (keeps_asJob (f := World.shutdownRequested) (requested_appResume w a s))
  | program p =>
    cases p with
    | running a listener s =>
      exact requested_running ((requested_appResume w a s).trans requested) _ _
    | joining listener result => exact requested
  | listening s =>
    have h := requested_listeningResume requested s
    exact same (keeps_asJob (f := World.shutdownRequested) (h.trans requested.symm))
  | _ =>
    exact same (keeps_plainResume keptByCalls_shutdownRequested (fun _ _ => rfl) w rfl
      fun _ hs => by cases hs)

end Operations

namespace System

variable {s : System}

theorem requested_turn (requested : s.world.shutdownRequested = true) (t : Task) :
    (s.turn t).1.shutdownRequested = true :=
  turn_induction s (motive := fun u => u.1.shutdownRequested = true)
    (requested_taskResume requested t) fun _ _ _ _ =>
      (keeps_programConclude keptByCalls_shutdownRequested _ _ _).trans requested

theorem requested_launchTurn (requested : s.world.shutdownRequested = true) (env : Environment) :
    (s.launchTurn env).1.shutdownRequested = true := by
  simp only [launchTurn]
  split
  · exact requested
  · refine requested_running ?_ _ _
    exact (keeps_appStart keptByCalls_shutdownRequested _ _).trans requested

/-- The turn of a job leaves a request as it is. -/
theorem Takes.requested {m : Move} {n : Nat} {u : Turn Task Outcome} (takes : s.Takes m n u)
    (requested : s.world.shutdownRequested = true) : u.1.shutdownRequested = true := by
  cases takes with
  | goesOn job ready => exact requested_turn requested _
  | begins q =>
    refine Eq.trans ?_ requested
    exact keeps_begin keptByCalls_shutdownRequested (fun _ _ => rfl) _ q _
      (fun _ r _ => keeps_stoppingStart keptByCalls_shutdownRequested (fun _ _ => rfl) _ r)
      fun l _ => keeps_closingStart keptByCalls_shutdownRequested (fun _ _ => rfl) _ l
  | launches env => exact requested_launchTurn requested env

/-- A move leaves a request as it is. -/
theorem requested_move (requested : s.world.shutdownRequested = true) (m : Move) :
    (s.move m).world.shutdownRequested = true := by
  by_cases hturn : ∃ n u, s.Takes m n u
  · obtain ⟨n, u, takes⟩ := hturn
    rw [takes.turned.world]
    exact takes.requested requested
  · have idle : ∀ {n : Nat}, s.actorOf m = some (.job n) → s.move m = s := fun own =>
      move_of_no_turn own fun u takes => hturn ⟨_, u, takes⟩
    cases m with
    | begin q => exact (idle rfl).symm ▸ requested
    | launch env => exact (idle rfl).symm ▸ requested
    | act a =>
      cases a with
      | job n => exact (idle rfl).symm ▸ requested
      | receiver r =>
        simp only [move, act]
        split
        · next ready =>
          obtain ⟨played, v, -, hplays⟩ := plays_of_runnable ready
          exact hplays.requested.trans requested
        · exact requested
      | observer i =>
        simp only [move, act]
        split <;> exact requested
    | shutdown => rfl
    | _ => exact requested

/-- A shutdown that has been requested stays requested. -/
theorem requested_after (requested : s.world.shutdownRequested = true) (h : List Move) :
    (s.after h).world.shutdownRequested = true := by
  induction h generalizing s with
  | nil => exact requested
  | cons m h ih => exact ih (requested_move requested m)

end System

end TopicWorker
