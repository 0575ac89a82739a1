import TopicWorker.Proofs.Following

/-!
# Who may stop a receiver

A receiver is stopped by jobs, and a job can only name a receiver that it has been given: one
of the consumers that have been asked for, or, in an application, the one that the application
has registered for itself. That one is never given away. So there is no stop of a receiver
that is not there, and nobody but an application calls for the stop of its receiver.

## Main definitions

* `Task.receiver?`: the receiver that a job is to stop, or is stopping.
* `Task.stopping?`: the stop that is under way in a job.
* `Task.app?`: the application in a job.
* `System.Charged`: the invariant.

## Main results

* `System.charged_after`: the invariant holds of every reachable system.
* `System.Charged.stopCall_own`: nobody else calls for the stop of an application's receiver.
* `System.joinable_iff_uncalled`: a receiver can be joined as long as its stop has not been
  called.
-/

namespace TopicWorker

variable {σ τ ρ ρ' α : Type}

/-- The receiver that a teardown is to stop, or is stopping. -/
def Teardown.receiver? : Teardown → Option Nat
  | blocked (.receiver r) _ | yielding (.receiver r) _ | stopping r _ _ => some r
  | _ => none

/-- The receiver that an application is to stop, or is stopping. -/
def App.receiver? : App → Option Nat
  | running s => s.receiver?
  | _ => none

/-- The application in a job. -/
def Task.app? : Task → Option App
  | app _ s | program (.running _ _ s) => some s
  | _ => none

/-- The receiver that a job is to stop, or is stopping. -/
def Task.receiver? : Task → Option Nat
  | stopping r _ => some r
  | teardown s => s.receiver?
  | app _ s | program (.running _ _ s) => s.receiver?
  | _ => none

/-- The stop that is part of a teardown, with its receiver. -/
def Teardown.stopping? : Teardown → Option (Nat × Stopping)
  | stopping r _ s => some (r, s)
  | _ => none

/-- The stop that is part of an application, with its receiver. -/
def App.stopping? : App → Option (Nat × Stopping)
  | running s => s.stopping?
  | _ => none

/-- The stop that is under way in a job, with its receiver. -/
def Task.stopping? : Task → Option (Nat × Stopping)
  | stopping r s => some (r, s)
  | teardown s => s.stopping?
  | app _ s | program (.running _ _ s) => s.stopping?
  | _ => none

/-- An application is a job of its own, or part of the program. -/
theorem Task.of_app? {t : Task} {s : App} (h : t.app? = some s) :
    (∃ a, t = .app a s) ∨ ∃ a listener, t = .program (.running a listener s) := by
  cases t with
  | app a s' =>
    cases h
    exact .inl ⟨a, rfl⟩
  | program p =>
    cases p with
    | running a listener s' =>
      cases h
      exact .inr ⟨a, listener, rfl⟩
    | joining listener result => cases h
  | _ => cases h

section Views

variable {t : Task} {s : App} (h : t.app? = some s)

include h

/-- What an application waits for, may publish and is to stop is what its job waits for, may
publish and is to stop. -/
theorem Task.pending?_of_app? : t.pending? = s.pending? := by
  rcases Task.of_app? h with ⟨a, rfl⟩ | ⟨a, listener, rfl⟩ <;> rfl

theorem Task.method?_of_app? : t.method? = s.method? := by
  rcases Task.of_app? h with ⟨a, rfl⟩ | ⟨a, listener, rfl⟩ <;> rfl

theorem Task.stages_of_app? : t.stages = s.stages := by
  rcases Task.of_app? h with ⟨a, rfl⟩ | ⟨a, listener, rfl⟩ <;> rfl

theorem Task.receiver?_of_app? : t.receiver? = s.receiver? := by
  rcases Task.of_app? h with ⟨a, rfl⟩ | ⟨a, listener, rfl⟩ <;> rfl

theorem Task.stopCall?_of_app? : t.stopCall? = s.stopCall? := by
  rcases Task.of_app? h with ⟨a, rfl⟩ | ⟨a, listener, rfl⟩ <;> rfl

theorem Task.stopping?_of_app? : t.stopping? = s.stopping? := by
  rcases Task.of_app? h with ⟨a, rfl⟩ | ⟨a, listener, rfl⟩ <;> rfl

end Views

section Naming

variable {r : Nat} {st : Stopping}

theorem Teardown.receiver?_of_stopCall? {s : Teardown} (h : s.stopCall? = some r) :
    s.receiver? = some r := by
  cases s with
  | yielding stopper closer =>
    cases stopper with
    | receiver r' => exact h
    | given op => cases h
  | _ => cases h

theorem App.receiver?_of_stopCall? {s : App} (h : s.stopCall? = some r) :
    s.receiver? = some r := by
  cases s with
  | running s => exact Teardown.receiver?_of_stopCall? h
  | _ => cases h

/-- A job can only call for the stop of a receiver that it has. -/
theorem Task.receiver?_of_stopCall? {t : Task} (h : t.stopCall? = some r) :
    t.receiver? = some r := by
  cases t with
  | teardown s => exact Teardown.receiver?_of_stopCall? h
  | app a s => exact App.receiver?_of_stopCall? h
  | program p =>
    cases p with
    | running a listener s => exact App.receiver?_of_stopCall? h
    | joining listener result => cases h
  | _ => cases h

theorem Teardown.receiver?_of_stopping? {s : Teardown} (h : s.stopping? = some (r, st)) :
    s.receiver? = some r := by
  cases s <;> cases h
  rfl

theorem App.receiver?_of_stopping? {s : App} (h : s.stopping? = some (r, st)) :
    s.receiver? = some r := by
  cases s with
  | running s => exact Teardown.receiver?_of_stopping? h
  | _ => cases h

/-- A stop can only be under way in a job that has its receiver. -/
theorem Task.receiver?_of_stopping? {t : Task} (h : t.stopping? = some (r, st)) :
    t.receiver? = some r := by
  cases t with
  | stopping r' s =>
    cases h
    rfl
  | teardown s => exact Teardown.receiver?_of_stopping? h
  | app a s => exact App.receiver?_of_stopping? h
  | program p =>
    cases p with
    | running a listener s => exact App.receiver?_of_stopping? h
    | joining listener result => cases h
  | _ => cases h

end Naming

/-- The receiver of the consumer that a job has obtained. -/
def Outcome.consumer? : Outcome → Option Nat
  | ok (.consumer r) => some r
  | _ => none

/-- A job that has obtained a consumer adds it to the handles. -/
theorem consumers_gain (h : Handles) (o : Outcome) :
    (h.gain o).consumers = h.consumers ++ o.consumer?.toList := by
  cases o with
  | ok v => cases v <;> simp [Handles.gain, Outcome.consumer?]
  | _ => simp [Handles.gain, Outcome.consumer?]

/-- An outcome that adds nothing to the handles. -/
def Outcome.Bare (o : Outcome) : Prop := ∀ h : Handles, h.gain o = h

/-- With such an outcome a job has obtained no consumer. -/
theorem Outcome.Bare.consumer? {o : Outcome} (h : o.Bare) : o.consumer? = none := by
  have hgain := consumers_gain {} o
  rw [h] at hgain
  simpa using hgain.symm

/-- A property of the result of an operation that ends. -/
def Progress.Ends (P : ρ → Prop) : Progress σ ρ → Prop
  | .finished r => P r
  | .waiting _ | .crashed _ => True

/-- An operation ends as its last part ends. -/
theorem ends_andThen {P : ρ' → Prop} {t : Turn σ ρ} {embed : σ → τ}
    {next : ρ → World → Turn τ ρ'} (hn : ∀ r w, (next r w).2.Ends P) :
    (t.andThen embed next).2.Ends P := by
  obtain ⟨w, p⟩ := t
  cases p with
  | finished r => exact hn r w
  | _ => trivial

/-- What a turn leaves of the stop of a receiver: the receiver has been named before, its stop
is under way if it has been so, or has been called and has found the receiver joinable, and a
stop that is not under way has not been called either. -/
structure Kept (r : Nat) (joinable : Bool) (named call : Option Nat)
    (under under' : Option (Nat × Stopping)) : Prop where
  named : named = some r
  goesOn : ∀ st', under' = some (r, st') →
    (∃ st, under = some (r, st)) ∨ (call = some r ∧ joinable = true)
  ahead : under' = none → under = none ∧ call = none

/-! ## The stages -/

section Operations

variable (w : World)

theorem receiver_stopped (closer : Closer) (result : Except Failure Stats) :
    (Teardown.stopped closer result w).2.All (fun s => s.receiver? = none) := by
  refine stopped_induction (motive := fun _ t => t.2.All fun s : Teardown => s.receiver? = none)
    (fun _ _ _ h => h) (fun w l _ => ?_) (fun _ _ _ => rfl) w
  exact all_andThen (all_true _) (fun _ _ => rfl) fun r w' => all_closed w' result r

/-- A stop that has to wait has found its receiver joinable. -/
theorem joinable_of_stoppingStart (r : Nat) :
    (Stopping.start r w).2.All fun _ => (w.receiver r).joinable = true := by
  cases hj : (w.receiver r).joinable with
  | false =>
    rw [stoppingStart_of_not_joinable hj]
    trivial
  | true => exact (all_true _).mono fun _ _ => rfl

/-- A teardown keeps to its receiver. -/
theorem receiver_teardownResume (s : Teardown) :
    (s.resume w).2.All fun s' => ∀ r, s'.receiver? = some r →
      Kept r (w.receiver r).joinable s.receiver? s.stopCall? s.stopping? s'.stopping? := by
  have none : ∀ {p : Progress Teardown (Except Failure Stats)} {P : Teardown → Nat → Prop},
      p.All (fun s' => s'.receiver? = none) →
      p.All fun s' => ∀ r, s'.receiver? = some r → P s' r := fun h =>
    h.mono fun s' hs r hr => by rw [hs] at hr; cases hr
  cases s with
  | blocked stopper closer =>
    intro r hr
    cases stopper with
    | receiver r' => exact ⟨hr, fun _ h => (by cases h), fun _ => ⟨rfl, rfl⟩⟩
    | given op => cases hr
  | yielding stopper closer =>
    cases stopper with
    | receiver r' =>
      refine all_andThen (joinable_of_stoppingStart (w.transition .draining) r') ?_
        fun result w' => none (receiver_stopped w' closer result)
      intro st hj r hr
      cases hr
      exact ⟨rfl, fun _ _ => .inr ⟨rfl, hj⟩, fun h => by cases h⟩
    | given op => exact none rfl
  | stopping r' closer st =>
    refine all_andThen (all_true _) ?_ fun result w' => none (receiver_stopped w' closer result)
    intro st' _ r hr
    cases hr
    exact ⟨rfl, fun _ _ => .inl ⟨st, rfl⟩, fun h => by cases h⟩
  | stoppingGiven op closer =>
    exact fits_ending w op.ending fun result w' => none (receiver_stopped w' closer result)
  | closing l result s =>
    exact all_andThen (all_true _) (fun _ _ _ hr => by cases hr)
      fun r w' => all_closed w' result r
  | closingGiven op result =>
    exact fits_ending w op.ending fun r w' => all_closed w' result r

/-- A registration does not end at once. -/
theorem startingStart_waits (g : Registration) : ∃ s, (Starting.start g w).2 = .waiting s := by
  simp only [Starting.start]
  split <;> exact ⟨_, rfl⟩

theorem receiver_abandon (l : Nat) (f : Failure) :
    (App.abandon l f w).2.All (fun s => s.receiver? = none) :=
  all_andThen (all_true _) (fun _ _ => rfl) fun _ _ => trivial

theorem receiver_subscribed (a : AppSetup) (l : Nat) (result : Except Failure Subscription) :
    (App.subscribed a l result w).2.All (fun s => s.receiver? = none) := by
  cases result with
  | error f => exact receiver_abandon w l f
  | ok s =>
    obtain ⟨s', hs⟩ := startingStart_waits w (a.registration l s)
    show ((Starting.start (a.registration l s) w).andThen (.starting l s)
      (App.started l s)).2.All _
    generalize Starting.start (a.registration l s) w = t at hs
    obtain ⟨w', p⟩ := t
    cases hs
    rfl

theorem receiver_opened (a : AppSetup) (result : Except Failure Nat) :
    (App.opened a result w).2.All (fun s => s.receiver? = none) := by
  cases result with
  | error f => trivial
  | ok l =>
    exact all_andThen (all_true _) (fun _ _ => rfl) fun r w' => receiver_subscribed w' a l r

/-- An application whose registration has succeeded blocks. -/
theorem resume_registered (a : AppSetup) {l r : Nat} {sub : Subscription} {s : Starting}
    (h : (s.resume (a.registration l sub) w).2 = .finished (.ok r)) :
    (App.resume a (.starting l sub s) w).2 =
      .waiting (.running (.blocked (.receiver r) (.link l))) := by
  simp only [App.resume, Turn.andThen]
  generalize s.resume (a.registration l sub) w = t at h
  obtain ⟨w', p⟩ := t
  cases h
  rfl

/-- An application comes to have a receiver when its registration opens it, and then keeps to
it. -/
theorem receiver_appResume (a : AppSetup) (s : App) :
    (s.resume a w).2.All fun s' => ∀ r, s'.receiver? = some r →
      Kept r (w.receiver r).joinable s.receiver? s.stopCall? s.stopping? s'.stopping? ∨
      (s.receiver? = none ∧ r = w.receivers.length ∧
        (s.resume a w).1.receivers.length = r + 1 ∧
        ∃ l, s' = .running (.blocked (.receiver r) (.link l))) := by
  have none : ∀ {p : Progress App (Except Failure Stats)} {P : App → Nat → Prop},
      p.All (fun s' => s'.receiver? = none) →
      p.All fun s' => ∀ r, s'.receiver? = some r → P s' r := fun h =>
    h.mono fun s' hs r hr => by rw [hs] at hr; cases hr
  cases s with
  | opening s =>
    exact none (all_andThen (all_true _) (fun _ _ => rfl) fun r w' => receiver_opened w' a r)
  | subscribing l s =>
    exact none (all_andThen (all_true _) (fun _ _ => rfl) fun r w' => receiver_subscribed w' a l r)
  | starting l sub s =>
    rcases receivers_startingResume w (a.registration l sub) s
      with ⟨-, hne⟩ | ⟨tag, -, hmore, hdone⟩
    · refine none ?_
      show ((s.resume (a.registration l sub) w).andThen (.starting l sub)
        (App.started l sub)).2.All _
      generalize s.resume (a.registration l sub) w = t at hne
      obtain ⟨w', p⟩ := t
      cases p with
      | waiting s' => rfl
      | crashed payload => trivial
      | finished result =>
        cases result with
        | error f => exact receiver_abandon w' l f
        | ok r => exact absurd rfl (hne r)
    · have hresume := resume_registered w a hdone
      have hworld : (App.resume a (.starting l sub s) w).1.receivers.length =
          w.receivers.length + 1 := by
        have hkept : (App.resume a (.starting l sub s) w).1.receivers =
            (s.resume (a.registration l sub) w).1.receivers :=
          keeps_andThen rfl fun r w' =>
            keeps_started keptByCalls_receivers (fun _ _ => rfl) w' l sub r
        rw [hkept, hmore, List.length_append, List.length_singleton]
      rw [hresume]
      intro r hr
      cases hr
      exact .inr ⟨rfl, rfl, hworld, l, rfl⟩
  | running s =>
    refine all_andThen (receiver_teardownResume w s) (fun s' hs r hr => ?_) fun _ _ => trivial
    exact .inl (hs r hr)
  | abandoning l f s => exact none (all_andThen (all_true _) (fun _ _ => rfl) fun _ _ => trivial)

/-! ## Jobs -/

/-- What a turn leaves a job with that goes on from a given one: its receiver, or, in an
application, the one that has just been opened for it. -/
def Task.Keeps (t : Task) (w : World) (l : List Receiver) (t' : Task) : Prop :=
  ∀ r, t'.receiver? = some r →
    (Kept r (w.receiver r).joinable t.receiver? t.stopCall? t.stopping? t'.stopping? ∧
      t'.app?.isSome = t.app?.isSome) ∨
    (t.receiver? = none ∧ t.app?.isSome = true ∧ r = w.receivers.length ∧ l.length = r + 1 ∧
      ∃ l, t'.app? = some (.running (.blocked (.receiver r) (.link l))))

/-- A turn keeps a job to its receiver. -/
theorem keeps_taskResume (t : Task) :
    (t.resume w).2.All (t.Keeps w (t.resume w).1.receivers) := by
  have none : ∀ {t' : Task} {l : List Receiver}, t'.receiver? = none → t.Keeps w l t' := by
    intro t' l h r hr
    rw [h] at hr
    cases hr
  cases t with
  | stopping r' st =>
    refine all_asJob (all_true _) fun st' _ r hr => ?_
    cases hr
    exact .inl ⟨⟨rfl, fun _ _ => .inl ⟨st, rfl⟩, fun h => by cases h⟩, rfl⟩
  | teardown s =>
    exact all_asJob (receiver_teardownResume w s) fun _ hs r hr => .inl ⟨hs r hr, rfl⟩
  | app a s =>
    refine all_asJob (receiver_appResume w a s) fun s' hs r hr => ?_
    rcases hs r hr with h | ⟨hnone, hr', hmore, l, hl⟩
    · exact .inl ⟨h, rfl⟩
    · exact .inr ⟨hnone, rfl, hr', by rw [← hmore]; exact congrArg _ (keeps_asJob rfl), l,
        congrArg some hl⟩
  | program p =>
    cases p with
    | running a listener s =>
      refine all_andThen (receiver_appResume w a s) (fun s' hs r hr => ?_) fun _ _ => none rfl
      rcases hs r hr with h | ⟨hnone, hr', hmore, l, hl⟩
      · exact .inl ⟨h, rfl⟩
      · have hworld : ((Task.program (.running a listener s)).resume w).1.receivers =
            (s.resume a w).1.receivers := keeps_andThen rfl fun _ _ => rfl
        exact .inr ⟨hnone, rfl, hr', by rw [← hmore, hworld], l, congrArg some hl⟩
    | joining listener result => exact none rfl
  | opening s => exact all_andThen (all_true _) (fun _ _ => none rfl) fun _ _ => trivial
  | _ => exact all_asJob (all_true _) fun _ _ => none rfl

/-- A job that obtains a consumer obtains the receiver that its turn has opened. -/
def Outcome.Gains (w : World) (l : List Receiver) (o : Outcome) : Prop :=
  ∀ r, o.consumer? = some r → r = w.receivers.length ∧ l.length = r + 1

/-- A job whose value is no consumer obtains none. -/
theorem gains_asJob {t : Turn σ (Except Failure α)} {embed : σ → Task} {value : α → Value}
    {l : List Receiver} (hv : ∀ a, Outcome.consumer? (.ok (value a)) = none) :
    (t.asJob embed value).2.Ends (Outcome.Gains w l) := by
  refine ends_andThen fun result w' r hr => ?_
  cases result with
  | error f => cases hr
  | ok a =>
    have hnone : Outcome.consumer? (.ofResult value (.ok a)) = none := hv a
    rw [hnone] at hr
    cases hr

/-- A job obtains a consumer only when its registration has been completed. -/
theorem gains_taskResume (t : Task) :
    (t.resume w).2.Ends (Outcome.Gains w (t.resume w).1.receivers) := by
  cases t with
  | starting g s =>
    have hworld : ((Task.starting g s).resume w).1.receivers = (s.resume g w).1.receivers :=
      keeps_asJob rfl
    rw [hworld]
    rcases receivers_startingResume w g s with ⟨-, hne⟩ | ⟨tag, -, hmore, hdone⟩
    · show ((s.resume g w).asJob (.starting g) .consumer).2.Ends _
      generalize s.resume g w = t at hne
      obtain ⟨w', p⟩ := t
      cases p with
      | waiting s' => trivial
      | crashed payload => trivial
      | finished result =>
        cases result with
        | error f => exact fun r hr => by cases hr
        | ok r => exact absurd rfl (hne r)
    · show ((s.resume g w).asJob (.starting g) .consumer).2.Ends _
      generalize s.resume g w = t at hmore hdone
      obtain ⟨w', p⟩ := t
      cases hdone
      intro r hr
      cases hr
      have hlength : w'.receivers = _ := hmore
      exact ⟨rfl, by rw [hlength, List.length_append, List.length_singleton]⟩
  | opening s =>
    refine ends_andThen fun result w' r hr => ?_
    cases result <;> cases hr
  | program p =>
    cases p with
    | running a listener s => exact ends_andThen fun _ _ => trivial
    | joining listener result => trivial
  | _ => exact gains_asJob w fun _ => rfl

theorem receiver_appStart (a : AppSetup) :
    (App.start a w).2.All (fun s => s.receiver? = none) :=
  all_andThen (all_true _) (fun _ _ => rfl) fun r w' => receiver_opened w' a r

/-- What a job has that has just been asked for: a receiver only if it has been given one, and
then it is no application. If it is stopping it, then that is what has been asked for. -/
def Task.GivenBy (t : Task) (q : Request) (h : Handles) : Prop :=
  ∀ r, t.receiver? = some r → r ∈ h.consumers ∧ t.app? = none ∧
    ∀ st, t.stopping? = some (r, st) → q.stopCall? h = some r ∧ (w.receiver r).joinable = true

/-- A job that is asked for has only what it has been given. -/
theorem receiver_begin (q : Request) (h : Handles) :
    (q.begin h w).2.All fun t => t.GivenBy w q h := by
  have absent : ∀ {t : Task}, t.receiver? = none → t.GivenBy w q h := by
    intro t ht r hr
    rw [ht] at hr
    cases hr
  have waits : ∀ {o : Turn Task Outcome}, o.2.All (fun t => t.receiver? = none) →
      o.2.All fun t => t.GivenBy w q h := fun ho => ho.mono fun t ht => absent ht
  have link : ∀ {job : Nat → Turn Task Outcome},
      (∀ l, (job l).2.All (fun t => t.receiver? = none)) →
      (Request.onLink h w job).2.All fun t => t.GivenBy w q h :=
    fun hj => waits (fits_onLink w h hj)
  cases q with
  | opening name endpoint =>
    simp only [Request.begin]
    exact waits (all_andThen (all_true _) (fun _ _ => rfl) fun _ _ => trivial)
  | close => exact link fun l => all_asJob (all_true _) fun _ _ => rfl
  | status => trivial
  | declareExchange x => exact link fun _ => rfl
  | declareQueue q => exact link fun _ => rfl
  | bind b => exact link fun _ => rfl
  | subscribe x pattern => exact link fun _ => all_asJob (all_true _) fun _ _ => rfl
  | start queue mode prefetch kind => exact link fun _ => all_asJob (all_true _) fun _ _ => rfl
  | stop consumer =>
    show (Request.onConsumer h consumer w _).2.All _
    simp only [Request.onConsumer]
    split
    · next r' hr' =>
      refine all_asJob (joinable_of_stoppingStart w r') fun _ hj r hr => ?_
      cases hr
      exact ⟨List.mem_of_getElem? hr', rfl, fun _ _ => ⟨hr', hj⟩⟩
    · trivial
  | ack tag => exact link fun _ => rfl
  | reject tag requeue => exact link fun _ => rfl
  | cancelConsumer tag =>
    refine link fun l => ?_
    rcases cancellingStart_cases w l tag with hc | hc <;> rw [hc]
    · trivial
    · rfl
  | run consumer given givenClose =>
    cases given with
    | some op =>
      cases givenClose with
      | some op' => exact absent rfl
      | none => exact link fun _ => rfl
    | none =>
      show (Request.onConsumer h consumer w _).2.All _
      simp only [Request.onConsumer]
      split
      · next r' hr' =>
        have hmem : r' ∈ h.consumers := List.mem_of_getElem? hr'
        cases givenClose with
        | some op' =>
          intro r hr
          cases hr
          exact ⟨hmem, rfl, fun _ hst => by cases hst⟩
        | none =>
          refine fits_onLink w h fun l r hr => ?_
          cases hr
          exact ⟨hmem, rfl, fun _ hst => by cases hst⟩
      · trivial
  | app lookup kind =>
    show (Request.startApp lookup kind w).2.All _
    simp only [Request.startApp]
    split
    · trivial
    · exact waits (all_asJob (receiver_appStart w _) fun _ hs => hs)
  | listen => exact absent rfl

/-- A job that is asked for obtains nothing at once. -/
theorem ends_begin (q : Request) (h : Handles) : (q.begin h w).2.Ends Outcome.Bare := by
  have job : ∀ {σ α : Type} {t : Turn σ (Except Failure α)} {embed : σ → Task} {value : α → Value},
      (∀ a, Outcome.Bare (.ok (value a))) → (t.asJob embed value).2.Ends Outcome.Bare := by
    intro σ α t embed value hv
    refine ends_andThen fun result w' => ?_
    cases result with
    | error f => exact fun _ => rfl
    | ok a => exact hv a
  have link : ∀ {job : Nat → Turn Task Outcome}, (∀ l, (job l).2.Ends Outcome.Bare) →
      (Request.onLink h w job).2.Ends Outcome.Bare := fun hj =>
    onLink_induction (motive := fun t => t.2.Ends Outcome.Bare) h (fun l _ => hj l) fun _ _ => rfl
  have consumer : ∀ {c : Nat} {job : Nat → Turn Task Outcome},
      (∀ r, (job r).2.Ends Outcome.Bare) →
      (Request.onConsumer h c w job).2.Ends Outcome.Bare := fun hj =>
    onConsumer_induction (motive := fun t => t.2.Ends Outcome.Bare) h _ hj fun _ _ => rfl
  cases q with
  | opening name endpoint => trivial
  | close => exact link fun l => job fun _ _ => rfl
  | status => exact fun _ => rfl
  | declareExchange x => exact link fun _ => trivial
  | declareQueue q => exact link fun _ => trivial
  | bind b => exact link fun _ => trivial
  | subscribe x pattern => exact link fun _ => job fun _ _ => rfl
  | start queue mode prefetch kind =>
    refine link fun l => ?_
    obtain ⟨s, hs⟩ := startingStart_waits w { link := l, queue, mode, prefetch, kind }
    show ((Starting.start _ w).asJob (.starting _) .consumer).2.Ends _
    generalize Starting.start _ w = t at hs
    obtain ⟨w', p⟩ := t
    cases hs
    trivial
  | stop c => exact consumer fun r => job fun _ _ => rfl
  | ack tag => exact link fun _ => trivial
  | reject tag requeue => exact link fun _ => trivial
  | cancelConsumer tag =>
    refine link fun l => ?_
    rcases cancellingStart_cases w l tag with hc | hc <;> rw [hc]
    · exact fun _ => rfl
    · trivial
  | run c given givenClose =>
    cases given with
    | some op =>
      cases givenClose with
      | some op' => trivial
      | none => exact link fun _ => trivial
    | none =>
      refine consumer fun r => ?_
      cases givenClose with
      | some op' => trivial
      | none => exact link fun _ => trivial
  | app lookup kind =>
    show (Request.startApp lookup kind w).2.Ends _
    simp only [Request.startApp]
    split
    · exact fun _ => rfl
    · exact job fun _ _ => rfl
  | listen => trivial

end Operations

namespace System

variable {s : System} {m : Move} {n : Nat} {u : Turn Task Outcome}

theorem keeps_turn (s : System) (t : Task) :
    (s.turn t).2.All (t.Keeps s.world (s.turn t).1.receivers) := by
  refine turn_induction s (motive := fun u => u.2.All (t.Keeps s.world u.1.receivers))
    (keeps_taskResume s.world t) fun listener result o _ => ?_
  obtain ⟨o', ends⟩ := conclude_finished s.world result o
  rw [ends]
  trivial

theorem gains_turn (s : System) (t : Task) :
    (s.turn t).2.Ends (Outcome.Gains s.world (s.turn t).1.receivers) := by
  refine turn_induction s (motive := fun u => u.2.Ends (Outcome.Gains s.world u.1.receivers))
    (gains_taskResume s.world t) fun listener result o _ => ?_
  generalize (Program.conclude _ _ s.world).1.receivers = l
  exact conclude_induction (motive := fun _ t => t.2.Ends (Outcome.Gains s.world l))
    (fun _ _ _ h => h) (fun _ _ r hr => by cases hr) s.world result _

theorem receiver_launchTurn (s : System) (env : Environment) :
    (s.launchTurn env).2.All (fun t => t.receiver? = none) := by
  simp only [launchTurn]
  split
  · trivial
  · exact all_andThen (receiver_appStart _ _) (fun _ hs => hs) fun _ _ => rfl

theorem gains_launchTurn (s : System) (env : Environment) (l : List Receiver) :
    (s.launchTurn env).2.Ends (Outcome.Gains s.world l) := by
  simp only [launchTurn]
  split
  · exact fun r hr => by cases hr
  · exact ends_andThen fun _ _ => trivial

/-- Where a turn leaves a job that names a receiver: the job has named it before, or has been
given it, or is an application for which it has just been opened. -/
theorem Takes.receiver (h : s.Takes m n u) {t' : Task} {r : Nat} (hu : u.2 = .waiting t')
    (hr : t'.receiver? = some r) :
    (∃ t, s.jobs[n]? = some (.waiting t) ∧ t'.app?.isSome = t.app?.isSome ∧
      Kept r (s.world.receiver r).joinable t.receiver? (s.stopCall? m) t.stopping? t'.stopping?) ∨
    (r ∈ s.handles.consumers ∧ t'.app? = none ∧ ∀ st, t'.stopping? = some (r, st) →
      s.stopCall? m = some r ∧ (s.world.receiver r).joinable = true) ∨
    (r = s.world.receivers.length ∧ u.1.receivers.length = r + 1 ∧
      ∃ l, t'.app? = some (.running (.blocked (.receiver r) (.link l)))) := by
  cases h with
  | @goesOn _ t job ready =>
    have hcall : s.stopCall? (.act (.job n)) = t.stopCall? := by simp [stopCall?, job, ready]
    rcases (s.keeps_turn t).of_waiting hu r hr with ⟨hkept, happ⟩ | ⟨-, -, hfresh⟩
    · exact .inl ⟨t, job, happ, hcall ▸ hkept⟩
    · exact .inr (.inr hfresh)
  | begins q =>
    exact .inr (.inl ((receiver_begin s.world q s.handles).of_waiting hu r hr))
  | launches env =>
    rw [(s.receiver_launchTurn env).of_waiting hu] at hr
    cases hr

/-- A turn obtains a consumer only if it has opened its receiver. -/
theorem Takes.gains (h : s.Takes m n u) : u.2.Ends (Outcome.Gains s.world u.1.receivers) := by
  cases h with
  | goesOn job ready => exact s.gains_turn _
  | begins q =>
    have hnone := ends_begin s.world q s.handles
    cases hu : (q.begin s.handles s.world).2 with
    | finished o =>
      rw [hu] at hnone
      have hbare : o.Bare := hnone
      intro r hr
      rw [hbare.consumer?] at hr
      cases hr
    | _ => trivial
  | launches env => exact s.gains_launchTurn env _

/-- The jobs name only receivers that are there. What has been asked for is shared; what an
application has registered for itself belongs to it alone. -/
structure Charged (s : System) : Prop where
  consumers : ∀ c ∈ s.handles.consumers, c < s.world.receivers.length
  given : ∀ (n : Nat) (t : Task) (r : Nat),
    s.jobs[n]? = some (.waiting t) → t.app? = none → t.receiver? = some r →
    r ∈ s.handles.consumers
  owned : ∀ (n : Nat) (t : Task) (r : Nat), s.jobs[n]? = some (.waiting t) → t.app?.isSome = true →
    t.receiver? = some r → r < s.world.receivers.length ∧ r ∉ s.handles.consumers
  alone : ∀ (n n' : Nat) (t t' : Task) (r : Nat), s.jobs[n]? = some (.waiting t) →
    s.jobs[n']? = some (.waiting t') → t.app?.isSome = true → t'.app?.isSome = true →
    t.receiver? = some r →
    t'.receiver? = some r → n = n'

/-- What becomes of the consumers in a move: they stay, and one may be added whose receiver has
just been opened, if a job has ended. -/
theorem consumers_move (s : System) (m : Move) :
    (s.move m).handles.consumers = s.handles.consumers ∨
      ∃ r, (s.move m).handles.consumers = s.handles.consumers ++ [r] ∧
        r = s.world.receivers.length ∧ (s.move m).world.receivers.length = r + 1 ∧
        ∀ n u, s.Takes m n u → ∃ o, u.2 = .finished o := by
  have kind := s.move_kind m
  generalize s.move m = s' at *
  cases kind with
  | @turns _ n u _ takes turned =>
    have hgains := takes.gains
    cases hu : u.2 with
    | finished o =>
      rw [hu] at hgains
      have hhandles : s'.handles = s.handles.gain o := by rw [turned.handles, hu]
      rw [hhandles, consumers_gain]
      cases ho : o.consumer? with
      | none => exact .inl (List.append_nil _)
      | some r =>
        obtain ⟨hr, hlength⟩ := hgains r ho
        refine .inr ⟨r, rfl, hr, by rw [turned.world, hlength], fun n' u' takes' => ⟨o, ?_⟩⟩
        rw [(takes'.unique takes).2, hu]
    | waiting t => exact .inl (by rw [turned.handles, hu])
    | crashed payload => exact .inl (by rw [turned.handles, hu])
  | receives ready => exact .inl rfl
  | outside jobs handles => exact .inl (by rw [handles])

/-- Where a job that names a receiver stands after a move: where it has stood before, or where
its turn has left it. -/
theorem naming_of_move {s : System} {m : Move} {n r : Nat} {t' : Task}
    (job : (s.move m).jobs[n]? = some (.waiting t')) (hr : t'.receiver? = some r) :
    (∃ t, s.jobs[n]? = some (.waiting t) ∧ t.receiver? = some r ∧
      t'.app?.isSome = t.app?.isSome) ∨
    (r ∈ s.handles.consumers ∧ t'.app? = none) ∨
    (r = s.world.receivers.length ∧ (s.move m).world.receivers.length = r + 1 ∧
      (∃ u, s.Takes m n u ∧ u.2 = .waiting t') ∧
      ∃ l, t'.app? = some (.running (.blocked (.receiver r) (.link l)))) := by
  rcases job_of_move job with ⟨hsame, -⟩ | ⟨-, hnew⟩ | ⟨u, htakes, hu, hworld⟩
  · exact .inl ⟨t', hsame, hr, rfl⟩
  · cases hnew
    cases hr
  · rcases htakes.receiver hu hr with ⟨t, hold, happ, hkept⟩ | ⟨hgiven, happ, -⟩ |
      ⟨hfresh, hlength, happ⟩
    · exact .inl ⟨t, hold, hkept.named, happ⟩
    · exact .inr (.inl ⟨hgiven, happ⟩)
    · exact .inr (.inr ⟨hfresh, by rw [hworld, hlength], ⟨u, htakes, hu⟩, happ⟩)

/-- A move keeps the invariant. -/
theorem Charged.move {s : System} (h : s.Charged) (m : Move) : (s.move m).Charged := by
  have hlength := s.length_receivers_move m
  have grows : ∀ c ∈ s.handles.consumers, c ∈ (s.move m).handles.consumers := by
    intro c hc
    rcases s.consumers_move m with heq | ⟨r, heq, -⟩
    · rwa [heq]
    · rw [heq]
      exact List.mem_append_left _ hc
  -- a receiver that was there before is not the one that has just been opened
  have fresh : ∀ r, r < s.world.receivers.length → r ∉ s.handles.consumers →
      r ∉ (s.move m).handles.consumers := by
    intro r hr hnot hmem
    rcases s.consumers_move m with heq | ⟨r', heq, hr', -⟩
    · exact hnot (heq ▸ hmem)
    · rw [heq] at hmem
      rcases List.mem_append.mp hmem with hmem | hmem
      · exact hnot hmem
      · have := List.mem_singleton.mp hmem
        omega
  refine ⟨?_, ?_, ?_, ?_⟩
  · intro c hc
    rcases s.consumers_move m with heq | ⟨r, heq, hr, hlen, -⟩
    · exact Nat.lt_of_lt_of_le (h.consumers c (heq ▸ hc)) hlength
    · rw [heq] at hc
      rcases List.mem_append.mp hc with hc | hc
      · exact Nat.lt_of_lt_of_le (h.consumers c hc) hlength
      · have := List.mem_singleton.mp hc
        omega
  · intro n t' r job happ hr
    rcases naming_of_move job hr with ⟨t, hold, hrt, hsome⟩ | ⟨hgiven, -⟩ | ⟨-, -, -, l, hl⟩
    · rw [happ] at hsome
      refine grows r (h.given n t r hold ?_ hrt)
      cases ht : t.app? with
      | none => rfl
      | some a => simp [ht] at hsome
    · exact grows r hgiven
    · rw [happ] at hl
      cases hl
  · intro n t' r job happ hr
    rcases naming_of_move job hr
      with ⟨t, hold, hrt, hsome⟩ | ⟨-, hnone⟩ | ⟨hr', hlen, ⟨u, htakes, hu⟩, -⟩
    · obtain ⟨hlt, hnot⟩ := h.owned n t r hold (hsome ▸ happ) hrt
      exact ⟨Nat.lt_of_lt_of_le hlt hlength, fresh r hlt hnot⟩
    · rw [hnone] at happ
      cases happ
    · refine ⟨by omega, fun hmem => ?_⟩
      rcases s.consumers_move m with heq | ⟨r', -, -, -, hends⟩
      · have := h.consumers r (heq ▸ hmem)
        omega
      · obtain ⟨o, ho⟩ := hends n u htakes
        rw [hu] at ho
        cases ho
  · intro n n' t₁ t₂ r job job' happ happ' hr hr'
    rcases naming_of_move job hr with ⟨t, hold, hrt, hsome⟩ | ⟨-, hnone⟩ |
      ⟨hnew, -, ⟨u, htakes, -⟩, -⟩
    · rcases naming_of_move job' hr' with ⟨t', hold', hrt', hsome'⟩ | ⟨-, hnone⟩ | ⟨hnew, -⟩
      · exact h.alone n n' t t' r hold hold' (hsome ▸ happ) (hsome' ▸ happ') hrt hrt'
      · rw [hnone] at happ'
        cases happ'
      · have := (h.owned n t r hold (hsome ▸ happ) hrt).1
        omega
    · rw [hnone] at happ
      cases happ
    · rcases naming_of_move job' hr' with ⟨t', hold', hrt', hsome'⟩ | ⟨-, hnone⟩ |
        ⟨-, -, ⟨u', htakes', -⟩, -⟩
      · have := (h.owned n' t' r hold' (hsome' ▸ happ') hrt').1
        omega
      · rw [hnone] at happ'
        cases happ'
      · exact (htakes.unique htakes').1

/-- The invariant holds in every reachable system. -/
theorem charged_after {s : System} (hjobs : s.jobs = []) (hconsumers : s.handles.consumers = [])
    (h : List Move) : (s.after h).Charged := by
  induction h using List.reverseRecOn with
  | nil =>
    have absent : ∀ (n : Nat) (t : Task), s.jobs[n]? ≠ some (.waiting t) := by
      simp [hjobs]
    refine ⟨?_, fun n t _ job => absurd job (absent n t), fun n t _ job => absurd job (absent n t),
      fun n _ t _ _ job => absurd job (absent n t)⟩
    show ∀ c ∈ s.handles.consumers, _
    simp [hconsumers]
  | append_singleton h m ih =>
    rw [after_concat]
    exact ih.move m

/-- A stop is called of a receiver that has been given away, or of the one that the job that
calls for it has. -/
theorem called_or_own {s : System} {m : Move} {r : Nat} (call : s.stopCall? m = some r) :
    r ∈ s.handles.consumers ∨ ∃ n t, s.jobs[n]? = some (.waiting t) ∧ t.receiver? = some r ∧
      s.Takes m n (s.turn t) := by
  cases m with
  | begin q =>
    cases q with
    | stop consumer => exact .inl (List.mem_of_getElem? call)
    | _ => cases call
  | act a =>
    cases a with
    | job n =>
      simp only [stopCall?] at call
      split at call
      · next t job =>
        split at call
        · next ready =>
          exact .inr ⟨n, t, job, Task.receiver?_of_stopCall? call, .goesOn job ready⟩
        · cases call
      · cases call
    | receiver r' => cases call
    | observer i => cases call
  | _ => cases call

/-- A stop is called only of a receiver that is there. -/
theorem Charged.stopCall_lt {s : System} (h : s.Charged) {m : Move} {r : Nat}
    (call : s.stopCall? m = some r) : r < s.world.receivers.length := by
  rcases called_or_own call with hmem | ⟨n, t, job, hr, -⟩
  · exact h.consumers r hmem
  · cases happ : t.app? with
    | none => exact h.consumers r (h.given n t r job happ hr)
    | some a => exact (h.owned n t r job (by simp [happ]) hr).1

/-- The stop of an application's receiver is called by nobody else. -/
theorem Charged.stopCall_own {s : System} (h : s.Charged) {m : Move} {n r : Nat} {t : Task}
    (job : s.jobs[n]? = some (.waiting t)) (happ : t.app?.isSome = true) (hr : t.receiver? = some r)
    (call : s.stopCall? m = some r) : s.Takes m n (s.turn t) := by
  have hnot := (h.owned n t r job happ hr).2
  rcases called_or_own call with hmem | ⟨n', t', job', hr', takes⟩
  · exact absurd hmem hnot
  · cases happ' : t'.app? with
    | none => exact absurd (h.given n' t' r job' happ' hr') hnot
    | some a =>
      have hn := h.alone n n' t t' r job job' happ (by simp [happ']) hr hr'
      subst hn
      rw [job, Option.some.injEq, Progress.waiting.injEq] at job'
      exact job' ▸ takes

/-- A receiver can be joined as long as its stop has not been called, and the stop of one that
is not there has never been called. -/
theorem joinable_iff_uncalled {s : System} (hjobs : s.jobs = [])
    (hconsumers : s.handles.consumers = []) (empty : s.world.receivers = []) (h : List Move)
    (r : Nat) :
    (r < (s.after h).world.receivers.length →
      (((s.after h).world.receiver r).joinable = true ↔ s.stopCalls r h = 0)) ∧
    ((s.after h).world.receivers.length ≤ r → s.stopCalls r h = 0) := by
  induction h using List.reverseRecOn with
  | nil => exact ⟨by simp [empty], fun _ => rfl⟩
  | append_singleton h m ih =>
    obtain ⟨hthere, habsent⟩ := ih
    have hcharged := charged_after hjobs hconsumers h
    rw [after_concat, stopCalls_concat]
    by_cases hbefore : r < (s.after h).world.receivers.length
    · obtain ⟨hafter, hundergoes⟩ := (s.after h).follows m hbefore
      refine ⟨fun _ => ?_, fun hr => by omega⟩
      rw [hundergoes.joinable, Bool.and_eq_true, hthere hbefore]
      by_cases hcall : (s.after h).stopCall? m = some r
      · simp [hcall]
      · have hzero : ((s.after h).stopCall? m).toList.count r = 0 :=
          List.count_eq_zero.mpr (by simpa using fun h' => hcall h')
        simp [hcall, hzero]
    · have hgone : (s.after h).world.receivers.length ≤ r := by omega
      have hzero : ((s.after h).stopCall? m).toList.count r = 0 := by
        refine List.count_eq_zero.mpr fun hmem => ?_
        have := hcharged.stopCall_lt (r := r) (m := m) (by simpa using hmem)
        omega
      rw [habsent hgone, hzero]
      refine ⟨fun hr => ?_, fun _ => rfl⟩
      obtain ⟨-, -, hnew⟩ := (s.after h).appears m hgone
      obtain ⟨-, -, g, tag, -, -, -, -, hv⟩ := hnew _ (World.getElem?_receivers hr)
      simp [hv, Registration.opened]

/-- As long as an application has not begun to stop its receiver, the receiver can be joined. -/
theorem joinable_of_ahead {s : System} (hjobs : s.jobs = []) (hconsumers : s.handles.consumers = [])
    (h : List Move) {n r : Nat} {t : Task} (job : (s.after h).jobs[n]? = some (.waiting t))
    (happ : t.app?.isSome = true) (hr : t.receiver? = some r) (ahead : t.stopping? = none) :
    ((s.after h).world.receiver r).joinable = true := by
  induction h using List.reverseRecOn generalizing t with
  | nil => simp [hjobs] at job
  | append_singleton h m ih =>
    have charged := charged_after hjobs hconsumers h
    -- a move that is not the stop's call leaves the receiver as it is
    have kept : ∀ {t₀ : Task}, (s.after h).jobs[n]? = some (.waiting t₀) →
        t₀.app?.isSome = true → t₀.receiver? = some r → t₀.stopping? = none →
        (s.after h).stopCall? m ≠ some r →
        (((s.after h).move m).world.receiver r).joinable = true := by
      intro t₀ job₀ happ₀ hr₀ ahead₀ hcall
      have hlt := (charged.owned n t₀ r job₀ happ₀ hr₀).1
      obtain ⟨-, hundergoes⟩ := (s.after h).follows m hlt
      rw [hundergoes.joinable, ih job₀ happ₀ hr₀ ahead₀]
      simp [hcall]
    rw [after_concat] at job ⊢
    rcases job_of_move job with ⟨hsame, hnone⟩ | ⟨-, hnew⟩ | ⟨u, htakes, hu, hworld⟩
    · exact kept hsame happ hr ahead fun hcall =>
        hnone _ (charged.stopCall_own hsame happ hr hcall)
    · cases hnew
      cases hr
    · rcases htakes.receiver hu hr with ⟨t₀, job₀, happ₀, hkept⟩ | ⟨-, hnone, -⟩ |
        ⟨hfresh, hlength, -⟩
      · obtain ⟨hahead, hcall⟩ := hkept.ahead ahead
        exact kept job₀ (happ₀ ▸ happ) hkept.named hahead (by simp [hcall])
      · rw [hnone] at happ
        cases happ
      · obtain ⟨-, -, hnew⟩ := (s.after h).appears m (r := r) (by omega)
        obtain ⟨-, -, g, tag, -, -, -, -, hv⟩ :=
          hnew _ (World.getElem?_receivers (by rw [hworld, hlength]; omega))
        simp [hv, Registration.opened]

end System

end TopicWorker
