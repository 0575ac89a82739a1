import TopicWorker.Proofs.Coordination

/-!
# How the lifecycle goes on

A teardown publishes three stages in order, one after the other, and never goes back. But nothing
keeps two teardowns of one world apart: each publishes its next stage whatever the others have
published in the meantime. So the lifecycle as a whole goes only forward, and stays closed once it
is closed, exactly as long as no teardown goes on after a later stage than its next one has been
published. A teardown that begins when another one has closed takes the lifecycle back.

## Main definitions

* `Teardown.published`, `Teardown.next`: the stages that a teardown has published, and the stage
  that comes next.
* `System.Progresses`: a lifecycle that goes only forward.
* `System.Overtaken`: a history in which a teardown goes on after a later stage has been published.

## Main results

* `System.progresses_iff`: the stages of each job are in order, and the lifecycle goes only forward
  exactly if no teardown has been overtaken.
* `System.second_teardown_not_forward`: a second teardown takes the lifecycle back.
-/

namespace TopicWorker

variable {σ τ ρ ρ' : Type}

/-- A turn that publishes nothing. -/
theorem stagesIn_of_speaks {t : Turn σ ρ} {pending : σ → Option Pending} {w : World}
    (heard : Option Pending) (h : t.Speaks [] pending w (heard.map Pending.heard).toList) :
    stagesIn t.1.trace = stagesIn w.trace := by
  rw [← stagesIn_milestones, milestones_of_speaks heard h, stagesIn_milestones]

/-- What is no stage publishes none. -/
theorem stagesIn_emit (w : World) {e : Event} (quiet : e.stage? = none) :
    stagesIn (w.emit e).trace = stagesIn w.trace := by
  rw [World.trace_emit, stagesIn_append]
  simp [stagesIn, quiet]

/-- A transition publishes its stage. -/
theorem stagesIn_transition (w : World) (s : Lifecycle) :
    stagesIn (w.transition s).trace = stagesIn w.trace ++ [s] := by
  rw [← stagesIn_milestones, milestones_transition, stagesIn_append, stagesIn_milestones]
  rfl

/-! ## The stages of a teardown -/

namespace Teardown

/-- The stages that a teardown publishes, in order. -/
def way : List Lifecycle := [.shutdownRequested, .draining, .closed]

/-- The stages of the way before a stage. -/
def upTo : Lifecycle → List Lifecycle
  | .running | .shutdownRequested => []
  | .draining => [.shutdownRequested]
  | .closed => [.shutdownRequested, .draining]

/-- The stage that a teardown publishes next. -/
def next : Teardown → Lifecycle
  | blocked _ _ => .shutdownRequested
  | yielding _ _ => .draining
  | stopping _ _ _ | stoppingGiven _ _ | closing _ _ _ | closingGiven _ _ => .closed

/-- The stages that a teardown has published. -/
def published (b : Teardown) : List Lifecycle := upTo b.next

/-- The stages that a teardown has published, by how far it has come. It dies only when it
drains. -/
def publishedBy : Progress Teardown (Except Failure Stats) → List Lifecycle
  | .waiting b => b.published
  | .finished _ => way
  | .crashed _ => upTo .closed

theorem upTo_along (s : Lifecycle) : upTo s <+: way := by
  cases s <;> decide

/-- The rest of the way is in order, and begins with the stage itself. -/
theorem ascends_drop (s : Lifecycle) :
    (way.drop (upTo s).length).Pairwise (fun s₁ s₂ => s₁.rank ≤ s₂.rank) ∧
      ∀ s' ∈ way.drop (upTo s).length, s.rank ≤ s'.rank := by
  cases s <;> decide

/-- What a teardown has published is a beginning of its way. -/
theorem publishedBy_along (p : Progress Teardown (Except Failure Stats)) :
    publishedBy p <+: way := by
  cases p with
  | waiting b => exact upTo_along b.next
  | finished result => exact List.prefix_rfl
  | crashed payload => exact upTo_along .closed

end Teardown

/-- A turn of a teardown that begins in a world, after some stages, and publishes those that
follow. -/
def Turn.Publishes (w : World) (done : List Lifecycle) (t : Turn Teardown (Except Failure Stats)) :
    Prop :=
  ∃ more, stagesIn t.1.trace = stagesIn w.trace ++ more ∧ Teardown.publishedBy t.2 = done ++ more

section Turns

variable {w : World} {done : List Lifecycle}

/-- A turn that publishes nothing. -/
theorem publishes_nothing {t : Turn Teardown (Except Failure Stats)}
    (kept : stagesIn t.1.trace = stagesIn w.trace) (same : Teardown.publishedBy t.2 = done) :
    t.Publishes w done :=
  ⟨[], by rw [kept, List.append_nil], by rw [same, List.append_nil]⟩

/-- Only the stages matter of the world that a turn begins in. -/
theorem Turn.Publishes.of_stages_eq {v : World} {t : Turn Teardown (Except Failure Stats)}
    (h : t.Publishes v done) (same : stagesIn v.trace = stagesIn w.trace) : t.Publishes w done := by
  obtain ⟨more, hmore, hdone⟩ := h
  exact ⟨more, by rw [hmore, same], hdone⟩

/-- A stage is published before the rest of a turn. -/
theorem Turn.Publishes.transition {t : Turn Teardown (Except Failure Stats)} {s : Lifecycle}
    (h : t.Publishes (w.transition s) (done ++ [s])) : t.Publishes w done := by
  obtain ⟨more, hmore, hdone⟩ := h
  refine ⟨s :: more, ?_, by simpa using hdone⟩
  rw [hmore, stagesIn_transition, List.append_assoc]
  rfl

/-- A turn that begins with an operation by which nothing is published, while the teardown
drains. -/
theorem publishes_andThen {t : Turn σ ρ} {embed : σ → Teardown}
    {next : ρ → World → Turn Teardown (Except Failure Stats)}
    (kept : stagesIn t.1.trace = stagesIn w.trace)
    (drains : ∀ s, (embed s).published = Teardown.upTo .closed)
    (hn : ∀ r w', (next r w').Publishes w' (Teardown.upTo .closed)) :
    (t.andThen embed next).Publishes w (Teardown.upTo .closed) := by
  obtain ⟨w', p⟩ := t
  cases p with
  | waiting s => exact publishes_nothing kept (drains s)
  | finished r => exact (hn r w').of_stages_eq kept
  | crashed payload => exact publishes_nothing kept rfl

/-- A given operation publishes nothing. -/
theorem publishes_ending {α : Type} (e : Ending α)
    {next : Except Failure α → World → Turn Teardown (Except Failure Stats)}
    (hn : ∀ r w', (next r w').Publishes w' (Teardown.upTo .closed)) :
    (e.andThen w next).Publishes w (Teardown.upTo .closed) := by
  cases e with
  | returned result => exact hn result w
  | crashed payload => exact publishes_nothing rfl rfl

theorem publishes_closed (stopped : Except Failure Stats) (result : Except Failure Unit)
    (w : World) :
    (Teardown.closed stopped result w).Publishes w (Teardown.upTo .closed) := by
  refine Turn.Publishes.transition (s := .closed) (publishes_nothing ?_ ?_)
  · simp only [Teardown.closed]
    split
    · rfl
    · exact stagesIn_emit _ rfl
  · simp only [Teardown.closed]
    split <;> rfl

theorem publishes_stopped (closer : Closer) (result : Except Failure Stats) (w : World) :
    (Teardown.stopped closer result w).Publishes w (Teardown.upTo .closed) := by
  refine stopped_induction
    (motive := fun w t => t.Publishes w (Teardown.upTo .closed)) (fun w e t h => ?_)
    (fun w l _ => ?_) (fun w op _ => ?_) w
  · exact h.of_stages_eq (stagesIn_emit w rfl)
  · exact publishes_andThen (stagesIn_of_speaks none (speaks_closingStart w l)) (fun _ => rfl)
      fun r w' => publishes_closed result r w'
  · exact publishes_nothing (stagesIn_emit w rfl) rfl

theorem publishes_drain (stopper : Stopper) (closer : Closer) (w : World) :
    (Teardown.drain stopper closer w).Publishes w (Teardown.upTo .closed) := by
  cases stopper with
  | receiver r =>
    exact publishes_andThen (stagesIn_of_speaks none (speaks_stoppingStart w r)) (fun _ => rfl)
      fun result w' => publishes_stopped closer result w'
  | given op => exact publishes_nothing (stagesIn_emit w rfl) rfl

/-- Every turn of a teardown publishes the stages that follow. -/
theorem publishes_teardownResume (b : Teardown) (w : World) :
    (b.resume w).Publishes w b.published := by
  cases b with
  | blocked stopper closer =>
    exact Turn.Publishes.transition (s := .shutdownRequested) (publishes_nothing rfl rfl)
  | yielding stopper closer =>
    exact Turn.Publishes.transition (s := .draining) (publishes_drain stopper closer _)
  | stopping r closer s =>
    exact publishes_andThen (stagesIn_of_speaks _ (speaks_stoppingResume w r s)) (fun _ => rfl)
      fun result w' => publishes_stopped closer result w'
  | stoppingGiven op closer =>
    exact publishes_ending op.ending fun result w' => publishes_stopped closer result w'
  | closing l result s =>
    exact publishes_andThen (stagesIn_of_speaks (some s.pending) (speaks_closingResume w l s))
      (fun _ => rfl) fun r w' => publishes_closed result r w'
  | closingGiven op result =>
    exact publishes_ending op.ending fun r w' => publishes_closed result r w'

/-- A teardown that does not drain yet publishes its next stage when it goes on. -/
theorem next_of_publishes {b : Teardown} {more : List Lifecycle} (early : b.next ≠ .closed)
    (h : Teardown.publishedBy (b.resume w).2 = b.published ++ more) : b.next ∈ more := by
  cases b with
  | blocked stopper closer =>
    obtain rfl : [.shutdownRequested] = more := h
    exact List.mem_cons_self
  | yielding stopper closer =>
    obtain ⟨rest, -, hrest⟩ := publishes_drain stopper closer (w.transition .draining)
    have hmore : Lifecycle.shutdownRequested :: more = .shutdownRequested :: .draining :: rest :=
      h.symm.trans hrest
    rw [(List.cons.inj hmore).2]
    exact List.mem_cons_self
  | _ => exact absurd rfl early

/-- What a teardown goes on to publish comes in order, and not before its next stage. -/
theorem ascends_of_publishes {b : Teardown} {more : List Lifecycle}
    (h : Teardown.publishedBy (b.resume w).2 = b.published ++ more) :
    more.Pairwise (fun s s' => s.rank ≤ s'.rank) ∧ ∀ s ∈ more, b.next.rank ≤ s.rank := by
  have hway : b.published ++ more <+: Teardown.way := h ▸ Teardown.publishedBy_along _
  have hrest : more <+: Teardown.way.drop b.published.length := by
    obtain ⟨rest, hrest⟩ := hway
    exact ⟨rest, by rw [← hrest, List.append_assoc, List.drop_left]⟩
  obtain ⟨hordered, hnext⟩ := Teardown.ascends_drop b.next
  exact ⟨hordered.sublist hrest.sublist, fun s hs => hnext s (hrest.subset hs)⟩

end Turns

/-! ## The stages of a job -/

/-- The teardown that a job carries out. -/
def Task.teardown? : Task → Option Teardown
  | teardown b | app _ (.running b) | program (.running _ _ (.running b)) => some b
  | _ => none

/-- A teardown is carried out somewhere. -/
theorem Host.of_teardown? {t : Task} {b : Teardown} (h : t.teardown? = some b) :
    ∃ host : Host, t = host.task b := by
  cases t with
  | teardown b' =>
    cases h
    exact ⟨.own, rfl⟩
  | app a s =>
    cases s with
    | running b' =>
      cases h
      exact ⟨.app a, rfl⟩
    | _ => cases h
  | program p =>
    cases p with
    | running a listener s =>
      cases s with
      | running b' =>
        cases h
        exact ⟨.program a listener, rfl⟩
      | _ => cases h
    | joining listener result => cases h
  | _ => cases h

/-- The stages that a job has published that waits. A program that awaits its listener has come to
the end of its teardown, or has never had one. -/
def Task.Published (t : Task) (own : List Lifecycle) : Prop :=
  match t with
  | .program (.joining _ _) => own <+: Teardown.way
  | t => own = (t.teardown?).elim [] Teardown.published

/-- The stages that a job has published, by how far it has come. -/
def Progress.Published : Progress Task Outcome → List Lifecycle → Prop
  | .waiting t, own => t.Published own
  | .finished _, own | .crashed _, own => own <+: Teardown.way

namespace Host

/-- A job that carries out a teardown has published what the teardown has published. -/
theorem published_task (host : Host) (b : Teardown) (own : List Lifecycle) :
    (host.task b).Published own ↔ own = b.published := by
  cases host <;> rfl

/-- The turn of a job that carries out a teardown publishes what the teardown publishes. -/
theorem published_turn (host : Host) {part : Turn Teardown (Except Failure Stats)}
    {done : List Lifecycle} {w : World} (h : part.Publishes w done) :
    ∃ more, stagesIn (host.turn part).1.trace = stagesIn w.trace ++ more ∧
      Teardown.publishedBy part.2 = done ++ more ∧ (host.turn part).2.Published (done ++ more) := by
  obtain ⟨more, hmore, hdone⟩ := h
  obtain ⟨w', p⟩ := part
  refine ⟨more, by cases host <;> cases p <;> exact hmore, hdone, ?_⟩
  have hway : done ++ more <+: Teardown.way := hdone ▸ Teardown.publishedBy_along p
  cases p with
  | waiting b =>
    have hunder : (host.task b).Published (done ++ more) :=
      (host.published_task b _).mpr hdone.symm
    cases host <;> exact hunder
  | finished result => cases host <;> exact hway
  | crashed payload => cases host <;> exact hway

end Host

section Bare

/-- A job that carries out no teardown publishes nothing. -/
theorem Task.stages_of_bare {t : Task} (bare : t.teardown? = none) : t.stages = [] := by
  cases t with
  | teardown b => cases bare
  | app a s => cases s <;> first | rfl | cases bare
  | program p =>
    cases p with
    | running a listener s => cases s <;> first | rfl | cases bare
    | joining listener result => rfl
  | _ => rfl

/-- An application that is not up has no teardown, or one that blocks. -/
def App.Fresh : App → Prop
  | running b => b.published = []
  | _ => True

variable (w : World)

theorem fresh_abandon (l : Nat) (f : Failure) : (App.abandon l f w).2.All App.Fresh :=
  all_andThen (all_true _) (fun _ _ => trivial) fun _ _ => trivial

theorem fresh_started (l : Nat) (sub : Subscription) (result : Except Failure Nat) :
    (App.started l sub result w).2.All App.Fresh := by
  cases result with
  | error f => exact fresh_abandon w l f
  | ok r => exact rfl

theorem fresh_subscribed (a : AppSetup) (l : Nat) (result : Except Failure Subscription) :
    (App.subscribed a l result w).2.All App.Fresh := by
  cases result with
  | error f => exact fresh_abandon w l f
  | ok s =>
    exact all_andThen (all_true _) (fun _ _ => trivial) fun r w' => fresh_started w' l s r

theorem fresh_opened (a : AppSetup) (result : Except Failure Nat) :
    (App.opened a result w).2.All App.Fresh := by
  cases result with
  | error f => trivial
  | ok l =>
    exact all_andThen (all_true _) (fun _ _ => trivial) fun r w' => fresh_subscribed w' a l r

theorem fresh_appStart (a : AppSetup) : (App.start a w).2.All App.Fresh :=
  all_andThen (all_true _) (fun _ _ => trivial) fun r w' => fresh_opened w' a r

/-- The teardown of an application begins with its block. -/
theorem fresh_appResume (a : AppSetup) {s : App} (down : s.isUp = false) :
    (s.resume a w).2.All App.Fresh := by
  cases s with
  | opening s =>
    exact all_andThen (all_true _) (fun _ _ => trivial) fun r w' => fresh_opened w' a r
  | subscribing l s =>
    exact all_andThen (all_true _) (fun _ _ => trivial) fun r w' => fresh_subscribed w' a l r
  | starting l sub s =>
    exact all_andThen (all_true _) (fun _ _ => trivial) fun r w' => fresh_started w' l sub r
  | running b => cases down
  | abandoning l f s => exact all_andThen (all_true _) (fun _ _ => trivial) fun _ _ => trivial

/-- A job of an application that is fresh has published nothing. -/
theorem Task.published_of_fresh {s : App} (fresh : s.Fresh) (a : AppSetup) (listener : Nat) :
    (Task.app a s).Published [] ∧ (Task.program (.running a listener s)).Published [] := by
  cases s with
  | running b => exact ⟨Eq.symm fresh, Eq.symm fresh⟩
  | _ => exact ⟨rfl, rfl⟩

/-- Where nothing has been published nothing is to be said of a job that is over. -/
theorem published_of_all {p : Progress Task Outcome} (h : p.All fun t => t.Published []) :
    p.Published [] := by
  cases p with
  | waiting t => exact h
  | _ => exact List.nil_prefix

/-- A job that carries out no teardown goes on to one that has published nothing. -/
theorem bare_taskResume {t : Task} (bare : t.teardown? = none) :
    (t.resume w).2.All fun t' => t'.Published [] := by
  cases t with
  | teardown b => cases bare
  | app a s =>
    have down : s.isUp = false := by
      cases s <;> first | rfl | cases bare
    exact all_asJob (fresh_appResume w a down) fun s' h => (Task.published_of_fresh h a 0).1
  | program p =>
    cases p with
    | running a listener s =>
      have down : s.isUp = false := by
        cases s <;> first | rfl | cases bare
      exact all_andThen (fresh_appResume w a down)
        (fun s' h => (Task.published_of_fresh h a listener).2) fun _ _ => List.nil_prefix
    | joining listener result => exact List.nil_prefix
  | opening s => exact all_andThen (all_true _) (fun _ _ => rfl) fun _ _ => trivial
  | _ => exact all_asJob (all_true _) fun _ _ => rfl

/-- A job that is asked for has published nothing. -/
theorem bare_begin (q : Request) (h : Handles) :
    (q.begin h w).2.All fun t' => t'.Published [] := by
  cases q with
  | opening name endpoint => exact all_andThen (all_true _) (fun _ _ => rfl) fun _ _ => trivial
  | close => exact fits_onLink w h fun l => all_asJob (all_true _) fun _ _ => rfl
  | status => trivial
  | declareExchange x => exact fits_onLink w h fun _ => rfl
  | declareQueue q => exact fits_onLink w h fun _ => rfl
  | bind b => exact fits_onLink w h fun _ => rfl
  | subscribe x pattern => exact fits_onLink w h fun _ => all_asJob (all_true _) fun _ _ => rfl
  | start queue mode prefetch kind =>
    exact fits_onLink w h fun _ => all_asJob (all_true _) fun _ _ => rfl
  | stop consumer =>
    exact fits_onConsumer w h consumer fun r => all_asJob (all_true _) fun _ _ => rfl
  | ack tag => exact fits_onLink w h fun _ => rfl
  | reject tag requeue => exact fits_onLink w h fun _ => rfl
  | cancelConsumer tag =>
    refine fits_onLink w h fun l => ?_
    rcases cancellingStart_cases w l tag with hc | hc <;> rw [hc]
    · trivial
    · rfl
  | run consumer given givenClose =>
    cases given with
    | some op =>
      cases givenClose with
      | some op' => rfl
      | none => exact fits_onLink w h fun _ => rfl
    | none =>
      refine fits_onConsumer w h consumer fun r => ?_
      cases givenClose with
      | some op' => rfl
      | none => exact fits_onLink w h fun _ => rfl
  | app lookup kind =>
    show (Request.startApp lookup kind w).2.All _
    simp only [Request.startApp]
    split
    · trivial
    · exact all_asJob (fresh_appStart w _) fun s h => (Task.published_of_fresh h _ 0).1
  | listen => rfl

end Bare

/-! ## Histories -/

namespace System

variable {s : System}

/-- A turn of a job publishes what its teardown publishes; one of a job that carries out no
teardown publishes nothing. -/
theorem publishes_turn (s : System) (t : Task) :
    (∃ (host : Host) (b : Teardown) (more : List Lifecycle), t = host.task b ∧
      stagesIn (s.turn t).1.trace = stagesIn s.world.trace ++ more ∧
      Teardown.publishedBy (b.resume s.world).2 = b.published ++ more ∧
      (s.turn t).2.Published (b.published ++ more)) ∨
    stagesIn (s.turn t).1.trace = stagesIn s.world.trace ∧
      ∀ own, t.Published own → (s.turn t).2.Published own := by
  cases ht : t.teardown? with
  | some b =>
    obtain ⟨host, rfl⟩ := Host.of_teardown? ht
    obtain ⟨more, hmore⟩ := host.published_turn (publishes_teardownResume b s.world)
    exact .inl ⟨host, b, more, rfl, by rwa [Host.turn_task]⟩
  | none =>
    have speaks := s.speaks_turn t
    rw [Task.stages_of_bare ht] at speaks
    refine .inr ⟨stagesIn_of_speaks _ speaks, fun own hown => ?_⟩
    by_cases joins : ∃ listener result, t = .program (.joining listener result)
    · obtain ⟨listener, result, rfl⟩ := joins
      simp only [turn]
      split
      · obtain ⟨o, ho⟩ := conclude_finished s.world result _
        rw [ho]
        exact hown
      · exact hown
    · have hno : ∀ listener result, t ≠ .program (.joining listener result) :=
        fun listener result h => joins ⟨listener, result, h⟩
      have hnone : own = [] := by
        unfold Task.Published at hown
        split at hown
        · exact absurd rfl (hno _ _)
        · rw [hown, ht]
          rfl
      rw [hnone, turn_eq_resume s hno]
      exact published_of_all (bare_taskResume s.world ht)

/-- What a turn publishes its job publishes. -/
theorem stagesIn_of_takes {m : Move} {n : Nat} {u : Turn Task Outcome} {more : List Lifecycle}
    (takes : s.Takes m n u) (h : stagesIn u.1.trace = stagesIn s.world.trace ++ more) :
    stagesIn (eventsBy (.job n) (s.doing m)) = more := by
  obtain ⟨news, htrace, -⟩ := s.adds m
  rw [eventsBy_doing_own takes.actor, added_of_trace htrace]
  rw [← takes.turned.world, htrace, stagesIn_append] at h
  exact List.append_cancel_left h

/-- The turn in which a job is asked for publishes nothing. -/
theorem stagesIn_of_absent {m : Move} {n : Nat} (absent : s.jobs[n]? = none) :
    stagesIn (eventsBy (.job n) (s.doing m)) = [] := by
  have silent : ∀ {u : Turn Task Outcome}, s.Takes m n u → u.Speaks [] Task.pending? s.world [] →
      stagesIn (eventsBy (.job n) (s.doing m)) = [] := fun takes speaks =>
    stagesIn_of_takes takes ((stagesIn_of_speaks none speaks).trans (List.append_nil _).symm)
  by_cases hturn : ∃ u, s.Takes m n u
  · obtain ⟨u, takes⟩ := hturn
    cases takes with
    | goesOn job => rw [absent] at job; cases job
    | begins q => exact silent (.begins q) (speaks_begin _ q _)
    | launches env => exact silent (.launches env) (s.speaks_launchTurn env)
  · rw [not_exists] at hturn
    rw [doing_of_no_turn hturn]
    rfl

/-- What a job has published is what its progress says. One that has not been asked for has
published nothing. -/
def HasPublished (s : System) (n : Nat) (own : List Lifecycle) : Prop :=
  match s.jobs[n]? with
  | none => own = []
  | some p => p.Published own

theorem hasPublished_of_none {n : Nat} {own : List Lifecycle} (absent : s.jobs[n]? = none) :
    s.HasPublished n own ↔ own = [] := by
  rw [HasPublished, absent]

theorem hasPublished_of_some {n : Nat} {p : Progress Task Outcome} {own : List Lifecycle}
    (job : s.jobs[n]? = some p) : s.HasPublished n own ↔ p.Published own := by
  rw [HasPublished, job]

/-- It goes on to publish what its progress says. -/
theorem hasPublished_move {n : Nat} {own : List Lifecycle} (h : s.HasPublished n own) (m : Move) :
    (s.move m).HasPublished n (own ++ stagesIn (eventsBy (.job n) (s.doing m))) := by
  cases job : (s.move m).jobs[n]? with
  | none =>
    obtain ⟨before, idle⟩ := absent_of_move job
    rw [hasPublished_of_none job, (hasPublished_of_none before).mp h, doing_of_no_turn idle]
    rfl
  | some p =>
    rw [hasPublished_of_some job]
    -- a job that is new has published nothing
    have new : s.jobs[n]? = none → (p.All fun t => t.Published []) →
        p.Published (own ++ stagesIn (eventsBy (.job n) (s.doing m))) := by
      intro absent hnone
      rw [(hasPublished_of_none absent).mp h, stagesIn_of_absent absent]
      exact published_of_all hnone
    rcases job_of_move job with ⟨hsame, hno⟩ | ⟨absent, rfl⟩ | ⟨u, takes, rfl, -⟩
    · rw [doing_of_no_turn hno]
      exact (List.append_nil own).symm ▸ (hasPublished_of_some hsame).mp h
    · exact new absent rfl
    · cases takes with
      | @goesOn _ t job₀ ready =>
        have before : t.Published own := (hasPublished_of_some job₀).mp h
        have takes := Takes.goesOn job₀ ready
        rcases s.publishes_turn t with ⟨host, b, more, rfl, hmore, -, hown⟩ | ⟨hsame, hkept⟩
        · rw [stagesIn_of_takes takes hmore, (host.published_task b _).mp before]
          exact hown
        · rw [stagesIn_of_takes takes (hsame.trans (List.append_nil _).symm), List.append_nil]
          exact hkept _ before
      | begins q => exact new (by simp) (bare_begin _ q _)
      | launches env =>
        refine new (by simp) ?_
        simp only [launchTurn]
        split
        · trivial
        · exact all_andThen (fresh_appStart _ _)
            (fun s' hs => (Task.published_of_fresh hs _ _).2) fun _ _ => List.nil_prefix

/-- So it has in the course of every history. -/
theorem hasPublished_after (setup : Setup) (h : List Move) (n : Nat) :
    (setup.system.after h).HasPublished n
      (stagesIn (eventsBy (.job n) (setup.system.deeds h))) := by
  induction h using List.reverseRecOn with
  | nil => rfl
  | append_singleton h m ih =>
    rw [after_concat, eventsBy_deeds_concat, stagesIn_append]
    exact hasPublished_move ih m

/-- What a job has published is a beginning of the way of a teardown. -/
theorem HasPublished.along {n : Nat} {own : List Lifecycle} (h : s.HasPublished n own) :
    own <+: Teardown.way := by
  cases job : s.jobs[n]? with
  | none =>
    rw [(hasPublished_of_none job).mp h]
    exact List.nil_prefix
  | some p =>
    have published := (hasPublished_of_some job).mp h
    cases p with
    | waiting t =>
      have hpublished : t.Published own := published
      unfold Task.Published at hpublished
      split at hpublished
      · exact hpublished
      · rw [hpublished]
        cases t.teardown? with
        | none => exact List.nil_prefix
        | some b => exact Teardown.upTo_along b.next
    | finished o => exact published
    | crashed payload => exact published

/-- In the course of every history the stages of each job are in order. -/
theorem stages_along (setup : Setup) (h : List Move) (n : Nat) :
    stagesIn (eventsBy (.job n) (setup.system.deeds h)) <+: Teardown.way :=
  (hasPublished_after setup h n).along

/-- A move publishes nothing, unless a teardown goes on in it. -/
theorem publishes_move (s : System) (m : Move) :
    stagesIn (s.move m).world.trace = stagesIn s.world.trace ∨
    ∃ n host b more, m = .act (.job n) ∧ s.jobs[n]? = some (.waiting (Host.task b host)) ∧
      s.ready b.wait = true ∧
      stagesIn (s.move m).world.trace = stagesIn s.world.trace ++ more ∧
      Teardown.publishedBy (b.resume s.world).2 = b.published ++ more := by
  have kind := s.move_kind m
  generalize s.move m = s' at *
  cases kind with
  | @turns _ n _ _ takes turned =>
    rw [turned.world]
    cases takes with
    | @goesOn _ t job ready =>
      rcases s.publishes_turn t with ⟨host, b, more, rfl, hmore, hpublished, -⟩ | ⟨hsame, -⟩
      · rw [Host.wait_task] at ready
        exact .inr ⟨n, host, b, more, rfl, job, ready, hmore, hpublished⟩
      · exact .inl hsame
    | begins q => exact .inl (stagesIn_of_speaks none (speaks_begin _ q _))
    | launches env => exact .inl (stagesIn_of_speaks none (s.speaks_launchTurn env))
  | receives ready =>
    obtain ⟨played, v, -, hplays⟩ := plays_of_runnable ready
    obtain ⟨news, htrace, -, hnews⟩ := hplays.trace
    have hnone : stagesIn news = [] := List.filterMap_eq_nil_iff.mpr fun e he => (hnews e he).1
    exact .inl (by rw [htrace, stagesIn_append, hnone, List.append_nil])
  | outside jobs handles trace => exact .inl (by rw [trace])

/-! ## The lifecycle as a whole -/

/-- A lifecycle that goes only forward in the course of a history. -/
structure Progresses (s : System) (h : List Move) : Prop where
  /-- Every stage that is published is at least the one before it, -/
  ascends : (stagesIn (s.after h).world.trace).Pairwise fun s₁ s₂ => s₁.rank ≤ s₂.rank
  /-- and at every moment the lifecycle is at least what it has been before. -/
  kept : ∀ h₁ h₂, h = h₁ ++ h₂ →
    (s.after h₁).world.lifecycle.rank ≤ (s.after h).world.lifecycle.rank
  /-- Once it is closed it stays closed. -/
  closed : ∀ h₁ h₂, h = h₁ ++ h₂ → .published .closed ∈ (s.after h₁).world.trace →
    (s.after h).world.lifecycle = .closed

/-- In the course of a history a teardown goes on after a stage has been published that comes after
its next one. -/
def Overtaken (s : System) (h : List Move) : Prop :=
  ∃ n host, s.Took h n host fun w b => b.next.rank < w.lifecycle.rank

/-- Among stages in order the last is the greatest. -/
theorem rank_le_last {l : List Lifecycle} (ascends : l.Pairwise fun s₁ s₂ => s₁.rank ≤ s₂.rank)
    {stage : Lifecycle} (mem : stage ∈ l) : stage.rank ≤ (l.getLast?.getD .running).rank := by
  induction l using List.reverseRecOn with
  | nil => cases mem
  | append_singleton l last ih =>
    obtain ⟨-, -, hlast⟩ := List.pairwise_append.mp ascends
    rw [List.getLast?_concat]
    rcases List.mem_append.mp mem with mem | mem
    · exact hlast stage mem last List.mem_cons_self
    · obtain rfl := List.mem_singleton.mp mem
      exact Nat.le_refl _

/-- Where no teardown is overtaken, stages are published in order. -/
theorem ascends_of_not_overtaken (setup : Setup) (h : List Move)
    (ordered : ¬ setup.system.Overtaken h) :
    (stagesIn (setup.system.after h).world.trace).Pairwise fun s₁ s₂ => s₁.rank ≤ s₂.rank := by
  induction h using List.reverseRecOn with
  | nil => exact .nil
  | append_singleton h m ih =>
    have ih := ih fun ⟨n, host, took⟩ => ordered ⟨n, host, took.concat m⟩
    rw [after_concat]
    rcases (setup.system.after h).publishes_move m with hsame | ⟨n, host, b, more, rfl, job,
      ready, hmore, hpublished⟩
    · rwa [hsame]
    · obtain ⟨hascends, hnext⟩ := ascends_of_publishes hpublished
      rw [hmore]
      refine List.pairwise_append.mpr ⟨ih, hascends, fun before hbefore stage hstage => ?_⟩
      -- what has been published last stands between the stages before and the new ones
      have timely : (setup.system.after h).world.lifecycle.rank ≤ b.next.rank :=
        Nat.not_lt.mp fun late => ordered ⟨n, host, h, [], b, rfl, job, ready, late⟩
      have hlatest := upToDate_after setup h
      unfold World.UpToDate at hlatest
      rw [hlatest] at timely
      exact Nat.le_trans (rank_le_last ih hbefore) (Nat.le_trans timely (hnext stage hstage))

/-- What has been published stays published. -/
theorem stagesIn_lasting (s : System) (h h' : List Move) :
    stagesIn (s.after h).world.trace <+: stagesIn (s.after (h ++ h')).world.trace := by
  rw [after_append, trace_after (s.after h) h', stagesIn_append]
  exact List.prefix_append _ _

/-- A teardown that goes on after a later stage than its next one has been published takes the
stages out of order. -/
theorem not_ascends_of_overtaken (setup : Setup) {h : List Move}
    (overtaken : setup.system.Overtaken h) :
    ¬ (stagesIn (setup.system.after h).world.trace).Pairwise fun s₁ s₂ => s₁.rank ≤ s₂.rank := by
  obtain ⟨n, host, h₁, h₂, b, rfl, job, ready, late⟩ := overtaken
  intro ascends
  have takes := Takes.goesOn job ((host.wait_task b).symm ▸ ready)
  obtain ⟨more, hmore, hpublished, -⟩ :=
    host.published_turn (publishes_teardownResume b (setup.system.after h₁).world)
  rw [← Host.turn_task, ← takes.turned.world, ← after_concat] at hmore
  have hprefix := stagesIn_lasting setup.system (h₁ ++ [.act (.job n)]) h₂
  rw [List.append_assoc, List.singleton_append, hmore] at hprefix
  obtain ⟨-, -, hpair⟩ := List.pairwise_append.mp (ascends.sublist hprefix.sublist)
  have hlatest := upToDate_after setup h₁
  unfold World.UpToDate at hlatest
  cases hl : (stagesIn (setup.system.after h₁).world.trace).getLast? with
  | none =>
    rw [hlatest, hl] at late
    exact Nat.not_lt_zero _ late
  | some latest =>
    rw [hlatest, hl] at late
    -- nothing comes after closed, so the teardown publishes the stage that comes next in this turn
    have early : b.next ≠ .closed := by
      intro hclosed
      rw [hclosed] at late
      revert late
      cases latest <;> decide
    have hle := hpair latest (List.mem_of_getLast? hl) b.next (next_of_publishes early hpublished)
    exact Nat.not_lt.mpr hle late

/-- Where stages are published in order, the lifecycle goes only forward. -/
theorem progresses_of_ascends (setup : Setup) {h : List Move}
    (ascends : (stagesIn (setup.system.after h).world.trace).Pairwise
      fun s₁ s₂ => s₁.rank ≤ s₂.rank) : setup.system.Progresses h := by
  have latest : ∀ h, (setup.system.after h).world.lifecycle =
      (stagesIn (setup.system.after h).world.trace).getLast?.getD .running := upToDate_after setup
  refine ⟨ascends, ?kept, ?closed⟩
  case kept =>
    rintro h₁ h₂ rfl
    rw [latest h₁, latest (h₁ ++ h₂)]
    cases hl : (stagesIn (setup.system.after h₁).world.trace).getLast? with
    | none => exact Nat.zero_le _
    | some stage =>
      exact rank_le_last ascends ((stagesIn_lasting _ h₁ h₂).subset (List.mem_of_getLast? hl))
  case closed =>
    rintro h₁ h₂ rfl published
    have hmem : Lifecycle.closed ∈ stagesIn (setup.system.after h₁).world.trace :=
      List.mem_filterMap.mpr ⟨_, published, rfl⟩
    have hle := rank_le_last ascends ((stagesIn_lasting _ h₁ h₂).subset hmem)
    rw [← latest] at hle
    revert hle
    cases (setup.system.after (h₁ ++ h₂)).world.lifecycle <;> decide

/-- The stages of each job are in order, and the lifecycle goes only forward exactly if no teardown
has been overtaken. -/
theorem progresses_iff (setup : Setup) (h : List Move) :
    (∀ n, stagesIn (eventsBy (.job n) (setup.system.deeds h)) <+: Teardown.way) ∧
      (setup.system.Progresses h ↔ ¬ setup.system.Overtaken h) := by
  refine ⟨stages_along setup h, fun progresses overtaken => ?_, fun ordered => ?_⟩
  · exact not_ascends_of_overtaken setup overtaken progresses.ascends
  · exact progresses_of_ascends setup (ascends_of_not_overtaken setup h ordered)

/-- Where one job alone publishes, the lifecycle goes only forward. -/
theorem progresses_of_only (setup : Setup) (h : List Move) {n : Nat}
    (only : ∀ a stage, (a, .published stage) ∈ setup.system.deeds h → a = .job n) :
    setup.system.Progresses h := by
  refine progresses_of_ascends setup ?_
  rw [trace_after, stagesIn_append, stagesIn_eventsBy only]
  have hway : Teardown.way.Pairwise fun s₁ s₂ => s₁.rank ≤ s₂.rank := by decide
  exact hway.sublist (stages_along setup h n).sublist

/-- A stop that returns at once. -/
def promptStop : Operation Stats := { ending := .returned (.ok {}) }

/-- A teardown over given operations. -/
def givenRun : Request := .run 0 (some promptStop) (some promptClose)

/-- A teardown is carried out to its end. -/
def firstRun : List Move :=
  [.begin givenRun, .shutdown, .act (.job 0), .act (.job 0), .act (.job 0), .act (.job 0)]

/-- A second teardown takes a lifecycle back that is closed. -/
theorem second_teardown_not_forward :
    ¬ (∀ (setup : Setup) (h : List Move), setup.system.Progresses h) ∧
    ((Setup.system {}).after firstRun).world.lifecycle = .closed ∧
    ((Setup.system {}).after (firstRun ++ [.begin givenRun, .act (.job 1)])).world.lifecycle =
      .shutdownRequested := by
  refine ⟨fun claim => ?_, rfl, rfl⟩
  have closed := (claim {} (firstRun ++ [.begin givenRun, .act (.job 1)])).closed firstRun _ rfl
    (by decide)
  cases closed

end System

end TopicWorker
