import TopicWorker.Proofs.Heeding
import TopicWorker.Proofs.Verdicts

/-!
# How the program exits

The program runs an application beside a listener for signals, and its exit code tells whether both
have ended well. When the application has ended, for whatever reason, a shutdown is requested, so
that nothing keeps the listener from ending as well, and then the program ends. Where both have
failed it is the application's failure that is told. The application fails when a call by which it
starts up or closes its link is refused, and in no other case, as long as the broker client does not
break down; the listener fails when the interrupt cannot be listened for and it has not found a
request first. So what becomes of deliveries, of the cancellation and of the connection does not
touch the exit code by itself.

## Main definitions

* `Program.exitCode`, `Program.farewell`: how the program ends.
* `System.Returned`: the application of the program has returned.
* `System.Broken`: the broker client has broken down in a call.
* `Program.Stands`: how far the program has come, with what is known then.

## Main results

* `System.stands_after`: how far the program has come after a history.
* `System.exits`: how the program exits.
-/

namespace TopicWorker

namespace Program

/-- The exit code, by what the application and its listener have come to. -/
def exitCode : Except Failure Stats → Outcome → Nat
  | .ok _, .ok _ => 0
  | _, _ => 1

/-- The last that the program tells, by what everything has come to. -/
def farewell : Except Failure Stats → LogEntry
  | .ok stats => programEntry .info "goodbye"
      [("dispatched", .number stats.dispatched), ("failed", .number stats.failed)]
  | .error f => programEntry .error "consumer terminated with error" [("error", .text f.message)]

theorem exitCode_eq (result : Except Failure Stats) (listened : Outcome) :
    exitCode result listened = 0 ∨ exitCode result listened = 1 := by
  cases result <;> cases listened <;> simp [exitCode]

/-- The exit code is 0 when both have ended well. -/
theorem exitCode_eq_zero {result : Except Failure Stats} {listened : Outcome} :
    exitCode result listened = 0 ↔ (∃ stats, result = .ok stats) ∧ ∃ v, listened = .ok v := by
  cases result <;> cases listened <;> simp [exitCode]

theorem conclude_eq (result : Except Failure Stats) (listened : Outcome) (w : World) :
    (conclude result listened w).2 = .finished (.ok (.exit (exitCode result listened))) := by
  cases result <;> cases listened <;> rfl

/-- Where the application has failed, that is what is told. -/
theorem conclude_failed (f : Failure) (listened : Except Failure Unit) (w : World) :
    conclude (.error f) (.ofResult (fun () => .nothing) listened) w =
      (w.log (farewell (.error f)), .finished (.ok (.exit 1))) := by
  cases listened <;> rfl

/-- Otherwise it is what has become of the listener. -/
theorem conclude_ok (stats : Stats) (listened : Except Failure Unit) (w : World) :
    conclude (.ok stats) (.ofResult (fun () => .nothing) listened) w =
      (w.log (farewell (listened.map fun _ => stats)),
        .finished (.ok (.exit
          (exitCode (.ok stats) (.ofResult (fun () => .nothing) listened))))) := by
  cases listened <;> rfl

end Program

namespace System

variable {s : System} {n : Nat}

/-- The broker client has broken down in a call. -/
def Broken (s : System) : Prop := ∃ c payload, Event.answered c (.crashed payload) ∈ s.world.trace

/-- The application of the program, which is a job of the system, has returned in the course of a
history, with a result. -/
def Returned (s : System) (n : Nat) (h : List Move) (result : Except Failure Stats) : Prop :=
  ∃ h₁ h₂ listener, h = h₁ ++ h₂ ∧
    (s.after h₁).jobs[n]? = some (.waiting (.program (.joining listener result)))

theorem returned_nil {result : Except Failure Stats} : s.Returned n [] result ↔
    ∃ listener, s.jobs[n]? = some (.waiting (.program (.joining listener result))) := by
  constructor
  · rintro ⟨h₁, h₂, listener, split, job⟩
    obtain ⟨rfl, rfl⟩ := List.append_eq_nil_iff.mp split.symm
    exact ⟨listener, job⟩
  · rintro ⟨listener, job⟩
    exact ⟨[], [], listener, rfl, job⟩

theorem returned_concat {h : List Move} {m : Move} {result : Except Failure Stats} :
    s.Returned n (h ++ [m]) result ↔ s.Returned n h result ∨ ∃ listener,
      (s.after (h ++ [m])).jobs[n]? = some (.waiting (.program (.joining listener result))) := by
  constructor
  · rintro ⟨h₁, h₂, listener, split, job⟩
    rcases List.eq_nil_or_concat h₂ with rfl | ⟨h₂, m', rfl⟩
    · rw [List.append_nil] at split
      exact .inr ⟨listener, split ▸ job⟩
    · rw [List.concat_eq_append, ← List.append_assoc] at split
      exact .inl ⟨h₁, h₂, listener, (List.append_inj' split rfl).1, job⟩
  · rintro (⟨h₁, h₂, listener, rfl, job⟩ | ⟨listener, job⟩)
    · exact ⟨h₁, h₂ ++ [m], listener, List.append_assoc _ _ _, job⟩
    · exact ⟨h ++ [m], [], listener, (List.append_nil _).symm, job⟩

/-- What has broken down stays so. -/
theorem Broken.move (h : s.Broken) (m : Move) : (s.move m).Broken := by
  obtain ⟨c, payload, mem⟩ := h
  exact ⟨c, payload, by rw [trace_move]; exact List.mem_append_left _ mem⟩

/-- A loop that has died has been taken along by the broker client. -/
theorem alive_of_unbroken (setup : Setup) {h : List Move}
    (unbroken : ¬ (setup.system.after h).Broken) (r : Nat) (payload : Option String) :
    ((setup.system.after h).world.receiver r).loop ≠ .crashed payload := by
  intro died
  by_cases hr : r < (setup.system.after h).world.receivers.length
  · obtain ⟨laps, tail, course⟩ := course_after (s := setup.system) rfl h hr
    obtain ⟨c, answered⟩ := course.died died
    refine unbroken ⟨c, payload, ?_⟩
    rw [trace_deeds rfl]
    exact List.mem_map.mpr ⟨_, mem_deeds_of_answered answered, rfl⟩
  · rw [World.receiver, List.getElem?_eq_none (Nat.le_of_not_lt hr)] at died
    cases died

/-- What is only told spoils nothing. -/
theorem spoils_of_told {stages : List Lifecycle} {told : List Event}
    (h : ∀ e ∈ told, e.Told stages) : told.any Event.spoils = false := by
  rw [List.any_eq_false]
  intro e he
  have htold := h e he
  cases e with
  | answered c a => exact htold.elim
  | _ => simp [Event.spoils]

/-- What spoils the result in the turn of a job is the answer that it hears. -/
theorem spoils_of_turn {t : Task} (job : s.jobs[n]? = some (.waiting t))
    (ready : s.ready t.wait = true) :
    (eventsBy (.job n) (s.doing (.act (.job n)))).any Event.spoils = spoilt t.pending? := by
  have takes := Takes.goesOn job ready
  obtain ⟨told, htold, hdoing⟩ := doing_of_takes takes takes.turned.world (s.speaks_turn t)
  have asks : ((s.turn t).2.calls Task.pending?).any Event.spoils = false := by
    cases (s.turn t).2 with
    | waiting t' => cases hp : t'.pending? <;> simp [Progress.calls, hp, Event.spoils]
    | _ => rfl
  rw [hdoing, eventsBy_map_same, List.any_append, List.any_append, spoils_of_told htold, asks]
  cases t.pending? <;> simp [spoilt]

/-- A job dies of the answer that it hears. -/
theorem broken_of_turn {t : Task} {payload : Option String} (job : s.jobs[n]? = some (.waiting t))
    (ready : s.ready t.wait = true) (breaks : Breaks t.pending? payload) :
    (s.move (.act (.job n))).Broken := by
  obtain ⟨p, hp, crashed⟩ := breaks
  have heard := heard_of_takes job ready hp
  refine ⟨p.call, payload, ?_⟩
  rw [trace_move, ← crashed]
  exact List.mem_append_right _ (List.mem_map.mpr ⟨_, heard, rfl⟩)

end System

/-- How far the program has come, with its own events and the results that its application has
returned. -/
inductive Program.Stands (a : AppSetup) (listener : Nat) (s : System) (own : List Event)
    (returned : Except Failure Stats → Prop) : Progress Task Outcome → Prop where
  /-- The application runs, and it is sound as long as no answer has spoilt it. -/
  | running (b : App) (fits : Fits App.pending? App.method? b) (none : ∀ result, ¬ returned result)
    (sound : ¬ s.Broken → b.sound? = some !own.any Event.spoils) :
    Stands a listener s own returned (.waiting (.program (.running a listener b)))
  /-- The application has returned, and a shutdown is requested. -/
  | joining (result : Except Failure Stats) (only : ∀ r, returned r ↔ r = result)
    (requested : s.world.shutdownRequested = true)
    (sound : ¬ s.Broken → result.isOk = !own.any Event.spoils) :
    Stands a listener s own returned (.waiting (.program (.joining listener result)))
  /-- The listener has ended as well, and the two results make the exit code. -/
  | concluded (result : Except Failure Stats) (listened : Outcome)
    (only : ∀ r, returned r ↔ r = result) (requested : s.world.shutdownRequested = true)
    (sound : ¬ s.Broken → result.isOk = !own.any Event.spoils)
    (ended : s.outcome? listener = some listened) :
    Stands a listener s own returned (.finished (.ok (.exit (exitCode result listened))))
  /-- The broker client has taken the program along. -/
  | died (payload : Option String) (none : ∀ result, ¬ returned result) (broken : s.Broken) :
    Stands a listener s own returned (.crashed payload)

namespace System

variable {a : AppSetup} {listener n : Nat} {s : System} {own : List Event}
  {returned returned' : Except Failure Stats → Prop}

/-- What is known when the application has returned. -/
theorem Stands.of_returned {q : Progress Task Outcome} {result : Except Failure Stats}
    (h : Program.Stands a listener s own returned q) (hr : returned result) :
    (∀ r, returned r ↔ r = result) ∧ s.world.shutdownRequested = true ∧
      (¬ s.Broken → result.isOk = !own.any Event.spoils) := by
  cases h with
  | running b fits none sound => exact absurd hr (none result)
  | joining result' only requested sound =>
    obtain rfl := (only result).mp hr
    exact ⟨only, requested, sound⟩
  | concluded result' listened only requested sound ended =>
    obtain rfl := (only result).mp hr
    exact ⟨only, requested, sound⟩
  | died payload none broken => exact absurd hr (none result)

/-- A program that has ended has put the two results together, or it has been taken along. -/
theorem Stands.of_ended {q : Progress Task Outcome} {o : Outcome}
    (h : Program.Stands a listener s own returned q) (job : s.jobs[n]? = some q)
    (ended : s.outcome? n = some o) :
    (s.Broken ∧ (∀ r, ¬ returned r) ∧ ∃ text, o = .crashed text) ∨
      ∃ result listened, (∀ r, returned r ↔ r = result) ∧
        s.outcome? listener = some listened ∧
        o = .ok (.exit (Program.exitCode result listened)) := by
  cases h with
  | running => simp [outcome?, job] at ended
  | joining => simp [outcome?, job] at ended
  | concluded result listened only requested sound lended =>
    rw [outcome?_of_finished job, Option.some.injEq] at ended
    exact .inr ⟨result, listened, only, lended, ended.symm⟩
  | died payload none broken =>
    refine .inl ⟨broken, none, payload.getD "", ?_⟩
    simpa [outcome?, job] using ended.symm

/-- The program stays where it is while others go on. -/
theorem Stands.rests {q : Progress Task Outcome} (h : Program.Stands a listener s own returned q)
    (m : Move) (same : ∀ result, returned' result ↔ returned result) :
    Program.Stands a listener (s.move m) own returned' q := by
  have kept : ¬ (s.move m).Broken → ¬ s.Broken := fun h broken => h (broken.move m)
  cases h with
  | running b fits none sound =>
    exact .running b fits (fun r hr => none r ((same r).mp hr)) fun h => sound (kept h)
  | joining result only requested sound =>
    exact .joining result (fun r => (same r).trans (only r)) (requested_move requested m)
      fun h => sound (kept h)
  | concluded result listened only requested sound ended =>
    exact .concluded result listened (fun r => (same r).trans (only r)) (requested_move requested m)
      (fun h => sound (kept h)) (outcome?_move ended m)
  | died payload none broken =>
    exact .died payload (fun r hr => none r ((same r).mp hr)) (broken.move m)

section Turns

variable {t : Task} (job : s.jobs[n]? = some (.waiting t)) (ready : s.ready t.wait = true)
  (next : ∀ result, returned' result ↔ returned result ∨ ∃ listener,
    (s.move (.act (.job n))).jobs[n]? = some (.waiting (.program (.joining listener result))))

include job ready next

/-- With a turn of its application the program goes on as it should. -/
theorem stands_running {b : App} (is : t = .program (.running a listener b))
    (fits : Fits App.pending? App.method? b) (none : ∀ result, ¬ returned result)
    (sound : ¬ s.Broken → b.sound? = some !own.any Event.spoils)
    (alive : ¬ s.Broken → ∀ r payload, (s.world.receiver r).loop ≠ .crashed payload) :
    ∃ q, (s.move (.act (.job n))).jobs[n]? = some q ∧
      Program.Stands a listener (s.move (.act (.job n)))
        (own ++ eventsBy (.job n) (s.doing (.act (.job n)))) returned' q := by
  subst is
  have turned := (Takes.goesOn job ready).turned
  have kept : ¬ (s.move (.act (.job n))).Broken → ¬ s.Broken := fun h broken => h (broken.move _)
  have spoils : (own ++ eventsBy (.job n) (s.doing (.act (.job n)))).any Event.spoils =
      (own.any Event.spoils || spoilt b.pending?) := by
    rw [List.any_append, spoils_of_turn job ready]
    rfl
  -- while the broker client does not break down the application's turn is sound
  have goesOn : ¬ (s.move (.act (.job n))).Broken → (b.resume a s.world).2.Sound App.sound?
      (Breaks b.pending?) (!(own ++ eventsBy (.job n) (s.doing (.act (.job n)))).any
        Event.spoils) := fun h => by
    rw [spoils, Bool.not_or]
    exact sound_appResume s.world a fits (alive (kept h)) (sound (kept h))
  have hturn : s.turn (.program (.running a listener b)) = (b.resume a s.world).andThen
      (fun b => .program (.running a listener b)) (Task.appEnded listener) := rfl
  rw [hturn] at turned
  have hfits := fits_appResume s.world a b
  generalize b.resume a s.world = u at turned goesOn hfits
  obtain ⟨w, p⟩ := u
  refine ⟨_, turned.job, ?_⟩
  rw [turned.job] at next
  cases p with
  | waiting b' =>
    refine .running b' hfits (fun r hr => ?_) goesOn
    rcases (next r).mp hr with before | ⟨_, now⟩
    · exact none r before
    · cases now
  | finished result =>
    have requested : (s.move (.act (.job n))).world.shutdownRequested = true := by
      rw [turned.world]
      rfl
    refine .joining result (fun r => (next r).trans ⟨?_, ?_⟩) requested goesOn
    · rintro (before | ⟨_, now⟩)
      · exact absurd before (none r)
      · cases now
        rfl
    · rintro rfl
      exact .inr ⟨listener, rfl⟩
  | crashed payload =>
    have broken : (s.move (.act (.job n))).Broken := by
      by_contra h
      exact h (broken_of_turn job ready (goesOn h))
    refine .died payload (fun r hr => ?_) broken
    rcases (next r).mp hr with before | ⟨_, now⟩
    · exact none r before
    · cases now

/-- When the listener has ended, too, the program ends with the exit code of the two. -/
theorem stands_joining {result : Except Failure Stats}
    (is : t = .program (.joining listener result)) (only : ∀ r, returned r ↔ r = result)
    (requested : s.world.shutdownRequested = true)
    (sound : ¬ s.Broken → result.isOk = !own.any Event.spoils) :
    ∃ q, (s.move (.act (.job n))).jobs[n]? = some q ∧
      Program.Stands a listener (s.move (.act (.job n)))
        (own ++ eventsBy (.job n) (s.doing (.act (.job n)))) returned' q := by
  subst is
  have turned := (Takes.goesOn job ready).turned
  obtain ⟨listened, ended⟩ : ∃ o, s.outcome? listener = some o :=
    Option.isSome_iff_exists.mp ready
  have spoils : (own ++ eventsBy (.job n) (s.doing (.act (.job n)))).any Event.spoils =
      own.any Event.spoils := by
    rw [List.any_append, spoils_of_turn job ready]
    exact Bool.or_false _
  have hturn : s.turn (.program (.joining listener result)) =
      Program.conclude result listened s.world := by simp only [turn, ended]
  have now := turned.job.trans (congrArg (some ·.2) hturn)
  rw [Program.conclude_eq] at now
  rw [now] at next
  refine ⟨_, now, .concluded result listened (fun r => (next r).trans ⟨?_, ?_⟩)
    (requested_move requested _) (fun h => ?_) (outcome?_move ended _)⟩
  · rintro (before | ⟨_, joins⟩)
    · exact (only r).mp before
    · cases joins
  · exact fun hr => .inl ((only r).mpr hr)
  · rw [spoils]
    exact sound fun broken => h (broken.move _)

end Turns

/-- With every move the program goes on as it should. -/
theorem stands_move {q : Progress Task Outcome} (job : s.jobs[n]? = some q)
    (h : Program.Stands a listener s own returned q)
    (alive : ¬ s.Broken → ∀ r payload, (s.world.receiver r).loop ≠ .crashed payload) (m : Move)
    (next : ∀ result, returned' result ↔ returned result ∨ ∃ listener,
      (s.move m).jobs[n]? = some (.waiting (.program (.joining listener result)))) :
    ∃ q', (s.move m).jobs[n]? = some q' ∧ Program.Stands a listener (s.move m)
      (own ++ eventsBy (.job n) (s.doing m)) returned' q' := by
  rcases move_of_job job m with ⟨hno, hsame⟩ | ⟨t, rfl, ready, rfl⟩
  · refine ⟨q, hsame, ?_⟩
    rw [doing_of_no_turn hno, List.append_nil]
    refine Stands.rests h m fun result => (next result).trans ⟨?_, .inl⟩
    rintro (before | ⟨listener', now⟩)
    · exact before
    · rw [hsame, Option.some.injEq] at now
      subst now
      cases h with
      | joining result only => exact (only _).mpr rfl
  · cases h with
    | running b fits none sound => exact stands_running job ready next rfl fits none sound alive
    | joining result only requested sound =>
      exact stands_joining job ready next rfl only requested sound

/-- The program begins with its application. -/
theorem stands_launch {env : Environment} {config : Config}
    (loads : Config.load env.lookup = .ok config) (s : System) :
    ∃ q, (s.move (.launch env)).jobs[s.jobs.length]? = some q ∧
      Program.Stands { config, kind := .logging } (s.jobs.length + 1) (s.move (.launch env))
        (eventsBy (.job s.jobs.length) (s.doing (.launch env)))
        (fun result => (s.move (.launch env)).Returned s.jobs.length [] result) q := by
  have takes : s.Takes (.launch env) s.jobs.length _ := .launches env
  have turned := takes.turned
  obtain ⟨told, htold, hdoing⟩ := doing_of_takes takes turned.world (s.speaks_launchTurn env)
  have hfits := takes.fits
  obtain ⟨b, hb, sound⟩ : ∃ b : App, (s.launchTurn env).2 =
      .waiting (.program (.running { config, kind := .logging } (s.jobs.length + 1) b)) ∧
        b.sound? = some true := by
    simp only [launchTurn, loads]
    exact ⟨_, rfl, rfl⟩
  rw [hb] at hfits
  refine ⟨_, turned.job, ?_⟩
  rw [hb]
  refine .running b hfits (fun result hr => ?_) fun _ => ?_
  · obtain ⟨listener, job⟩ := returned_nil.mp hr
    rw [turned.job, hb] at job
    cases job
  · rw [hdoing, eventsBy_map_same, hb, sound]
    cases hp : Task.pending?
      (.program (.running { config, kind := .logging } (s.jobs.length + 1) b)) <;>
      simp [Progress.calls, hp, spoils_of_told htold, Event.spoils]

/-- How far the program has come after a history. -/
theorem stands_after (setup : Setup) (before : List Move) {env : Environment} {config : Config}
    (loads : Config.load env.lookup = .ok config) (h : List Move) :
    let s := setup.system.after before
    ∃ q, (s.after (.launch env :: h)).jobs[s.jobs.length]? = some q ∧
      Program.Stands { config, kind := .logging } (s.jobs.length + 1) (s.after (.launch env :: h))
        (eventsBy (.job s.jobs.length) (s.deeds (.launch env :: h)))
        ((s.move (.launch env)).Returned s.jobs.length h) q := by
  intro s
  induction h using List.reverseRecOn with
  | nil =>
    have launched := stands_launch loads s
    have own : s.deeds [.launch env] = s.doing (.launch env) := by simp [deeds]
    rw [own]
    exact launched
  | append_singleton h m ih =>
    obtain ⟨q, job, stands⟩ := ih
    have alive : ¬ (s.after (.launch env :: h)).Broken → ∀ r payload,
        ((s.after (.launch env :: h)).world.receiver r).loop ≠ .crashed payload := by
      have all := alive_of_unbroken setup (h := before ++ .launch env :: h)
      rwa [after_append] at all
    rw [← List.cons_append, after_concat, eventsBy_deeds_concat]
    refine stands_move job stands alive m fun result => returned_concat.trans ?_
    rw [after_concat]
    rfl

/-- A program without a configuration has ended at once, and has made no call. -/
theorem invalid_after {env : Environment} {problem : Config.Problem}
    (fails : Config.load env.lookup = .error problem) (s : System) (h : List Move) :
    (s.after (.launch env :: h)).jobs[s.jobs.length]? = some (.finished (.ok (.exit 1))) ∧
      (∀ e ∈ eventsBy (.job s.jobs.length) (s.deeds (.launch env :: h)), ∃ x, e = .logged x) ∧
      ∀ result, ¬ (s.move (.launch env)).Returned s.jobs.length h result := by
  induction h using List.reverseRecOn with
  | nil =>
    have takes : s.Takes (.launch env) s.jobs.length _ := .launches env
    have ended : (s.launchTurn env).2 = .finished (.ok (.exit 1)) := by
      simp only [launchTurn, fails]
    have job : (s.move (.launch env)).jobs[s.jobs.length]? = some (.finished (.ok (.exit 1))) :=
      takes.turned.job.trans (congrArg some ended)
    refine ⟨job, fun e he => ?_, fun result hr => ?_⟩
    · obtain ⟨told, htold, hdoing⟩ :=
        doing_of_takes takes takes.turned.world (s.speaks_launchTurn env)
      simp only [deeds, List.append_nil, hdoing, eventsBy_map_same, ended, Progress.calls,
        List.nil_append] at he
      have hetold := htold e he
      cases e with
      | logged entry => exact ⟨entry, rfl⟩
      | published stage => cases hetold
      | stopCalled stage => exact absurd rfl hetold
      | closeCalled stage => exact absurd rfl hetold
      | _ => exact hetold.elim
    · obtain ⟨listener, hjob⟩ := returned_nil.mp hr
      rw [job] at hjob
      cases hjob
  | append_singleton h m ih =>
    obtain ⟨job, told, never⟩ := ih
    have still : ((s.after (.launch env :: h)).move m).jobs[s.jobs.length]? =
        some (.finished (.ok (.exit 1))) ∧
          ∀ t, ¬ (s.after (.launch env :: h)).Takes m s.jobs.length t := by
      rcases move_of_job job m with ⟨hno, hsame⟩ | ⟨t, ht, -, -⟩
      · exact ⟨hsame, hno⟩
      · cases ht
    rw [← List.cons_append, after_concat, eventsBy_deeds_concat, doing_of_no_turn still.2,
      List.append_nil]
    refine ⟨still.1, told, fun result hr => ?_⟩
    rcases returned_concat.mp hr with before | ⟨listener, now⟩
    · exact never result before
    · rw [after_concat] at now
      cases still.1.symm.trans now

/-- What is said of a program that has been started in a system and of the system after a history.
The program is the next job, and its listener is the one behind it. -/
structure Exits (s s' : System) (env : Environment) (h : List Move) : Prop where
  /-- Where the configuration cannot be loaded the program has ended with 1 at once. It has made no
  call and has brought no listener along. -/
  invalid : ∀ problem, Config.load env.lookup = .error problem →
    s'.outcome? s.jobs.length = some (.ok (.exit 1)) ∧
      (∀ e ∈ eventsBy (.job s.jobs.length) (s.deeds (.launch env :: h)), ∃ x, e = .logged x) ∧
      (s.move (.launch env)).jobs = s.jobs ++ [.finished (.ok (.exit 1))]
  /-- A program that has ended has ended with 0 exactly when the configuration loads, the
  application has returned its counters, and the listener has ended well; -/
  zero : ∀ o, s'.outcome? s.jobs.length = some o →
    (o = .ok (.exit 0) ↔ (∃ config, Config.load env.lookup = .ok config) ∧
      (∃ stats, (s.move (.launch env)).Returned s.jobs.length h (.ok stats)) ∧
      s'.outcome? (s.jobs.length + 1) = some (.ok .nothing))
  /-- otherwise it has ended with 1, unless the broker client has broken down. -/
  one : ∀ o, s'.outcome? s.jobs.length = some o → o ≠ .ok (.exit 0) →
    o = .ok (.exit 1) ∨ s'.Broken
  /-- The application returns once. -/
  once : ∀ result result', (s.move (.launch env)).Returned s.jobs.length h result →
    (s.move (.launch env)).Returned s.jobs.length h result' → result = result'
  /-- When it has returned, whatever it has come to, a shutdown is requested. -/
  requested : ∀ result, (s.move (.launch env)).Returned s.jobs.length h result →
    s'.world.shutdownRequested = true
  /-- So a listener that has not ended by then waits for nothing any more, and ends when it goes on.
  It ends well, unless it has not run yet, looks for the interrupt before the request, and cannot
  listen for it; -/
  released : ∀ result, (s.move (.launch env)).Returned s.jobs.length h result → ∀ b,
    s'.jobs[s.jobs.length + 1]? = some (.waiting (.listening b)) →
    s'.isRunnable (.job (s.jobs.length + 1)) = true ∧ ∃ o,
      (s'.move (.act (.job (s.jobs.length + 1)))).outcome? (s.jobs.length + 1) = some o ∧
      (o = .ok .nothing ∨ b = .fresh ∧ s'.world.preference.request = false ∧ ∃ reason,
        s.world.signalFaults.interrupt = some reason ∧ o = .failed (.signals reason))
  /-- and as long as the program has not ended, it or its listener may go on. -/
  awaited : ∀ result, (s.move (.launch env)).Returned s.jobs.length h result →
    s'.outcome? s.jobs.length = none →
    s'.isRunnable (.job s.jobs.length) = true ∨ s'.isRunnable (.job (s.jobs.length + 1)) = true
  /-- When the program ends it tells one thing: the failure of the application if that has failed,
  else the failure of the listener, else the counters. -/
  told : ∀ result listened,
    s'.jobs[s.jobs.length]? =
      some (.waiting (.program (.joining (s.jobs.length + 1) result))) →
    s'.outcome? (s.jobs.length + 1) = some (.ofResult (fun () => .nothing) listened) →
    (s'.move (.act (.job s.jobs.length))).world.trace = s'.world.trace ++
      [.logged (Program.farewell (match result, listened with
        | .error f, _ => .error f
        | .ok _, .error f => .error f
        | .ok stats, .ok () => .ok stats))]
  /-- As long as the broker client does not break down, the application fails exactly when a call
  by which it starts up or closes its link is refused. -/
  spoilt : ¬ s'.Broken → ∀ result, (s.move (.launch env)).Returned s.jobs.length h result →
    ((∃ f, result = .error f) ↔
      ∃ e ∈ eventsBy (.job s.jobs.length) (s.deeds (.launch env :: h)), e.spoils = true)
  /-- The listener fails only where the interrupt cannot be listened for. -/
  listened : ∀ config, Config.load env.lookup = .ok config → ∀ o,
    s'.outcome? (s.jobs.length + 1) = some o → o = .ok .nothing ∨
      ∃ reason, s.world.signalFaults.interrupt = some reason ∧ o = .failed (.signals reason)
  /-- Nothing else touches the exit code: neither what becomes of deliveries, nor a cancellation
  that is refused, nor a connection that is lost. -/
  untouched : ∀ config, Config.load env.lookup = .ok config → ¬ s'.Broken →
    s.world.signalFaults.interrupt = none →
    (∀ e ∈ eventsBy (.job s.jobs.length) (s.deeds (.launch env :: h)), e.spoils = false) →
    ∀ o, s'.outcome? s.jobs.length = some o → o = .ok (.exit 0)

section Exits

variable {env : Environment} {config : Config}

/-- Where the listener of a program has come to. -/
theorem listener_after (loads : Config.load env.lookup = .ok config) (s : System) (h : List Move) :
    ∃ p, (s.after (.launch env :: h)).jobs[s.jobs.length + 1]? = some p ∧
      Listening.Course s.world.signalFaults p
        (s.after (.launch env :: h)).world.shutdownRequested := by
  have course := listening_after (listener_of_launch (s := s) loads) h
  rwa [signalFaults_move] at course

/-- When a shutdown is requested a listener has ended or goes on. -/
theorem ended_or_released {s : System} {n : Nat} {faults : SignalFaults}
    {p : Progress Task Outcome} (job : s.jobs[n]? = some p)
    (course : Listening.Course faults p s.world.shutdownRequested)
    (requested : s.world.shutdownRequested = true) :
    (∃ o, s.outcome? n = some o) ∨ s.isRunnable (.job n) = true := by
  rw [requested] at course
  cases course with
  | fresh => exact .inr (released_of_requested job requested).1
  | installed => exact .inr (released_of_requested job requested).1
  | ended => exact .inl ⟨_, outcome?_of_finished job⟩
  | failed => exact .inl ⟨_, outcome?_of_finished job⟩

/-- How a listener ends. -/
theorem outcome_of_listening {s : System} {n : Nat} {faults : SignalFaults}
    {p : Progress Task Outcome} {requested : Bool} {o : Outcome} (job : s.jobs[n]? = some p)
    (course : Listening.Course faults p requested) (ended : s.outcome? n = some o) :
    o = .ok .nothing ∨
      ∃ reason, faults.interrupt = some reason ∧ o = .failed (.signals reason) := by
  cases course with
  | fresh => simp [outcome?, job] at ended
  | installed => simp [outcome?, job] at ended
  | ended =>
    rw [outcome?_of_finished job, Option.some.injEq] at ended
    exact .inl ended.symm
  | failed reason missing =>
    rw [outcome?_of_finished job, Option.some.injEq] at ended
    exact .inr ⟨reason, missing, ended.symm⟩

/-- What the program tells when it ends. -/
theorem trace_of_joining {s : System} {n listener : Nat} {result : Except Failure Stats}
    {listened : Except Failure Unit}
    (job : s.jobs[n]? = some (.waiting (.program (.joining listener result))))
    (ended : s.outcome? listener = some (.ofResult (fun () => .nothing) listened)) :
    (s.move (.act (.job n))).world.trace = s.world.trace ++
      [.logged (Program.farewell (match result, listened with
        | .error f, _ => .error f
        | .ok _, .error f => .error f
        | .ok stats, .ok () => .ok stats))] := by
  have ready : s.ready (Task.wait (.program (.joining listener result))) = true :=
    Option.isSome_of_eq_some ended
  have hturn : s.turn (.program (.joining listener result)) =
      Program.conclude result (.ofResult (fun () => .nothing) listened) s.world := by
    simp only [turn, ended]
  rw [(Takes.goesOn job ready).turned.world, hturn]
  cases result with
  | error f => rw [Program.conclude_failed]; rfl
  | ok stats =>
    rw [Program.conclude_ok]
    cases listened <;> rfl

/-- How a program exits whose configuration cannot be loaded. -/
theorem exits_of_invalid {problem : Config.Problem}
    (fails : Config.load env.lookup = .error problem) (s : System) (h : List Move) :
    s.Exits (s.after (.launch env :: h)) env h := by
  obtain ⟨job, told, never⟩ := invalid_after fails s h
  have ended := outcome?_of_finished job
  have unloaded : ∀ config, Config.load env.lookup ≠ .ok config := fun config hc => by
    rw [fails] at hc
    cases hc
  constructor
  case invalid =>
    intro problem _
    refine ⟨ended, told, ?_⟩
    simp only [move, launch, fails]
    simp [addJob, settleJob]
  case zero =>
    intro o ho
    rw [ended, Option.some.injEq] at ho
    subst ho
    refine ⟨fun h => (by cases h), ?_⟩
    rintro ⟨⟨config, loads⟩, -⟩
    exact absurd loads (unloaded config)
  case one =>
    intro o ho _
    rw [ended, Option.some.injEq] at ho
    exact .inl ho.symm
  case once => exact fun result _ hr => absurd hr (never result)
  case requested => exact fun result hr => absurd hr (never result)
  case released => exact fun result hr => absurd hr (never result)
  case awaited => exact fun result hr => absurd hr (never result)
  case told =>
    intro result listened hjob
    rw [job] at hjob
    cases hjob
  case spoilt => exact fun _ result hr => absurd hr (never result)
  case listened => exact fun config loads => absurd loads (unloaded config)
  case untouched => exact fun config loads => absurd loads (unloaded config)

/-- How a program exits whose configuration is loaded. -/
theorem exits_of_loads (loads : Config.load env.lookup = .ok config) (setup : Setup)
    (before h : List Move) :
    (setup.system.after before).Exits ((setup.system.after before).after (.launch env :: h))
      env h := by
  have stands' := stands_after setup before loads h
  generalize setup.system.after before = s at *
  obtain ⟨q, job, stands⟩ := stands'
  obtain ⟨p, ljob, course⟩ := listener_after loads s h
  have faults := s.signalFaults_after (.launch env :: h)
  generalize s.after (.launch env :: h) = s' at *
  have listens : ∀ o, s'.outcome? (s.jobs.length + 1) = some o → o = .ok .nothing ∨
      ∃ reason, s.world.signalFaults.interrupt = some reason ∧ o = .failed (.signals reason) :=
    fun o ho => outcome_of_listening ljob course ho
  have requested : ∀ result, (s.move (.launch env)).Returned s.jobs.length h result →
      s'.world.shutdownRequested = true := fun result hr => (Stands.of_returned stands hr).2.1
  have sound : ¬ s'.Broken → ∀ result, (s.move (.launch env)).Returned s.jobs.length h result →
      result.isOk = !(eventsBy (.job s.jobs.length) (s.deeds (.launch env :: h))).any
        Event.spoils := fun unbroken result hr => (Stands.of_returned stands hr).2.2 unbroken
  constructor
  case invalid =>
    intro problem fails
    rw [loads] at fails
    cases fails
  case zero =>
    intro o ho
    rcases Stands.of_ended stands job ho with
      ⟨-, none, text, rfl⟩ | ⟨result, listened, only, lended, rfl⟩
    · refine ⟨fun h => (by cases h), ?_⟩
      rintro ⟨-, ⟨stats, hr⟩, -⟩
      exact absurd hr (none _)
    · rw [lended, Option.some.injEq, Outcome.ok.injEq, Value.exit.injEq, Program.exitCode_eq_zero]
      constructor
      · rintro ⟨⟨stats, rfl⟩, v, rfl⟩
        refine ⟨⟨config, loads⟩, ⟨stats, (only _).mpr rfl⟩, ?_⟩
        rcases listens _ lended with well | ⟨_, -, failed⟩
        · exact well
        · cases failed
      · rintro ⟨-, ⟨stats, hr⟩, well⟩
        exact ⟨⟨stats, ((only _).mp hr).symm⟩, .nothing, well⟩
  case one =>
    intro o ho nonzero
    rcases Stands.of_ended stands job ho with ⟨broken, -⟩ | ⟨result, listened, -, -, rfl⟩
    · exact .inr broken
    · rcases Program.exitCode_eq result listened with zero | one
      · exact absurd (by rw [zero]) nonzero
      · exact .inl (by rw [one])
  case once =>
    intro result result' hr hr'
    exact (((Stands.of_returned stands hr).1 result').mp hr').symm
  case requested => exact requested
  case released =>
    intro result hr b hjob
    have released := released_of_requested hjob (requested result hr)
    rwa [faults] at released
  case awaited =>
    intro result hr running
    cases stands with
    | running _ _ none => exact absurd hr (none result)
    | joining result only =>
      rcases ended_or_released ljob course (requested _ hr) with ⟨o, lended⟩ | released
      · refine .inl ((isRunnable_job s' _).mpr ⟨_, job, ?_⟩)
        exact Option.isSome_of_eq_some lended
      · exact .inr released
    | concluded => simp [outcome?, job] at running
    | died => simp [outcome?, job] at running
  case told =>
    exact fun result listened hjob lended => trace_of_joining hjob lended
  case spoilt =>
    intro unbroken result hr
    have hsound := sound unbroken result hr
    rw [← List.any_eq_true]
    cases result <;> simp_all [Except.isOk, Except.toBool]
  case listened => exact fun _ _ o ho => listens o ho
  case untouched =>
    intro config' _ unbroken available harmless o ho
    rcases Stands.of_ended stands job ho with
      ⟨broken, -⟩ | ⟨result, listened, only, lended, rfl⟩
    · exact absurd broken unbroken
    · have well : listened = .ok .nothing := by
        rcases listens _ lended with well | ⟨reason, missing, -⟩
        · exact well
        · rw [available] at missing
          cases missing
      have clean : (eventsBy (.job s.jobs.length) (s.deeds (.launch env :: h))).any
          Event.spoils = false := List.any_eq_false.mpr fun e he => by simp [harmless e he]
      have returned := sound unbroken result ((only _).mpr rfl)
      rw [clean] at returned
      cases result with
      | error f => cases returned
      | ok stats => rw [well]; rfl

/-- How the program exits. -/
theorem exits (setup : Setup) (before : List Move) (env : Environment) (h : List Move) :
    (setup.system.after before).Exits ((setup.system.after before).after (.launch env :: h))
      env h := by
  cases loads : Config.load env.lookup with
  | error problem => exact exits_of_invalid loads _ h
  | ok config => exact exits_of_loads loads setup before h

end Exits

end System

end TopicWorker
