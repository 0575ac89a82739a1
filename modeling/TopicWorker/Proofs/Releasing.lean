import TopicWorker.Proofs.Links
import TopicWorker.Proofs.StartupOrder

/-!
# What a failed startup leaves behind

An application whose startup fails closes its link before it returns with the failure. It finds
the link unmarked, so the connection is asked to close unless the broker has taken it down by the
time that it is the connection's turn. The one exception comes before there is a link to close: an
application whose channel is refused returns at once, and the connection that has been made for it
stays.

## Main definitions

* `System.Reachable`: a system that a history leads to.
* `System.ReachesClose`: a move in which an application gets as far as the close of its connection.

## Main results

* `System.released_of_failed`: which failures of startup release the connection.
* `System.unchannelled_not_released`: one that does not.
-/

namespace TopicWorker

variable {σ τ ρ ρ' : Type}

/-- A whole that ends has ended its first part. -/
theorem finished_of_andThen {t : Turn σ ρ} {embed : σ → τ} {next : ρ → World → Turn τ ρ'} {x : ρ'}
    (h : (t.andThen embed next).2 = .finished x) :
    ∃ r, t.2 = .finished r ∧ (next r t.1).2 = .finished x := by
  obtain ⟨w, p⟩ := t
  cases p with
  | finished r => exact ⟨r, rfl, h⟩
  | _ => cases h

/-! ## Closing a link that is up -/

section Operations

variable (w : World) {l : Nat}

/-- A connection that is up is asked to close. -/
theorem closeConnection_waits (up : (w.link l).connectionUp = true) (failure : Option Failure)
    (x : Except Failure Unit) : (Closing.closeConnection l failure w).2 ≠ .finished x := by
  simp [Closing.closeConnection, up]

/-- The close of a link that nobody has marked does not end while the connection is up. -/
theorem closingStart_waits (unmarked : (w.link l).closed = false)
    (up : (w.link l).connectionUp = true) (x : Except Failure Unit) :
    (Closing.start l w).2 ≠ .finished x := by
  unfold Closing.start
  rw [if_neg (by simp [unmarked])]
  dsimp only
  split
  · nofun
  · refine closeConnection_waits _ ?_ none x
    exact (World.link_modifyLink w l l (fun v => { v with closed := true }) Link.connectionUp
      fun _ => rfl).trans up

/-- Nor does it once the channel has been asked to close. -/
theorem closingResume_waits (up : (w.link l).connectionUp = true) (p : Pending)
    (x : Except Failure Unit) : (Closing.resume l (.channel p) w).2 ≠ .finished x := by
  simp only [Closing.resume]
  cases ha : p.reply.answer with
  | done name =>
    rw [resolve_done ha]
    refine closeConnection_waits _ ?_ none x
    exact (World.link_modifyLink _ l l (fun v => { v with channelUp := false }) Link.connectionUp
      fun _ => rfl).trans up
  | refused fault =>
    rw [resolve_refused ha]
    refine closeConnection_waits _ ?_ _ x
    exact up
  | crashed payload =>
    rw [resolve_crashed ha]
    nofun

theorem abandon_waits (unmarked : (w.link l).closed = false) (up : (w.link l).connectionUp = true)
    (f : Failure) (x : Except Failure Stats) : (App.abandon l f w).2 ≠ .finished x := by
  intro h
  obtain ⟨r, hr, -⟩ := finished_of_andThen h
  exact closingStart_waits w unmarked up r hr

/-- An application that has opened its link, and has not given up, does not end while the connection
is up. -/
theorem appResume_waits (a : AppSetup) {s : App} (link : s.link? = some l)
    (down : s.isUp = false) (early : s.isEarly = true)
    (opened : ∀ p, s ≠ .opening (.openingChannel l p)) (unmarked : (w.link l).closed = false)
    (up : (w.link l).connectionUp = true) (x : Except Failure Stats) :
    (s.resume a w).2 ≠ .finished x := by
  -- the operation that comes first leaves the link as it is
  have same : ∀ {w' : World}, w'.links = w.links → w'.link l = w.link l := by
    intro w' h
    rw [World.link, World.link, h]
  intro h
  cases s with
  | opening s =>
    cases s with
    | connecting p => cases link
    | openingChannel l' p =>
      cases link
      exact opened p rfl
  | subscribing l' s =>
    cases link
    obtain ⟨r, -, hnext⟩ := finished_of_andThen h
    have hlink := same
      (keeps_subscribingResume keptByCalls_links w usersExchange userEventPattern s)
    cases r with
    | error f => exact abandon_waits _ (hlink ▸ unmarked) (hlink ▸ up) f x hnext
    | ok sub =>
      obtain ⟨st, hst⟩ := startingStart_waits
        (s.resume usersExchange userEventPattern w).1 (a.registration l sub)
      obtain ⟨r, hr, -⟩ := finished_of_andThen hnext
      rw [hst] at hr
      cases hr
  | starting l' sub s =>
    cases link
    obtain ⟨r, -, hnext⟩ := finished_of_andThen h
    have hlink := same (keeps_startingResume keptByCalls_links (fun _ _ => rfl) (fun _ _ _ => rfl) w
      (a.registration l sub) s)
    cases r with
    | error f => exact abandon_waits _ (hlink ▸ unmarked) (hlink ▸ up) f x hnext
    | ok r => cases hnext
  | running s => cases down
  | abandoning l' f s => cases early

end Operations

/-! ## The course of a startup that fails -/

section Course

variable {a : AppSetup} {tag : String} {names : List (Option String)} {step : StartupStep}

/-- The steps of startup close nothing. -/
theorem unclosed_of_succeeded : .called Closing.connectionCall ∉ a.succeeded tag names := by
  intro h
  obtain ⟨⟨step, name⟩, -, hstep⟩ := List.mem_flatMap.mp h
  cases step <;> simp [exchange, StartupStep.call, Closing.connectionCall] at hstep

theorem call_ne_close (queue : String) : step.call a queue tag ≠ Closing.connectionCall := by
  cases step <;> simp [StartupStep.call, Closing.connectionCall]

/-- Nor has an application that has come no further closed anything. -/
theorem unclosed_of_asking {queue : String} {p : Pending} (call : p.call = step.call a queue tag) :
    .called Closing.connectionCall ∉ a.succeeded tag names ++ [.called p.call] := by
  rw [List.mem_append, not_or]
  refine ⟨unclosed_of_succeeded, ?_⟩
  rw [List.mem_singleton, call, Event.called.injEq]
  exact (call_ne_close queue).symm

/-- A close asks for no channel. -/
theorem Closing.Course.ne_createChannel {s : Closing} {d : List Event}
    (h : Closing.Course (.waiting s) d) :
    s.pending.call ≠ .createChannel ∧ ∀ x, .answered .createChannel x ∉ d := by
  cases h with
  | channel p call => exact ⟨by simp [Closing.pending, call, Closing.channelCall], by simp⟩
  | connection failure p call channel =>
    refine ⟨by simp [Closing.pending, call, Closing.connectionCall], fun x => ?_⟩
    cases channel <;> simp [exchange, Closing.channelCall]

/-- Where a step is refused after the link has been opened, the channel has not been. -/
theorem unrefused_of_answered (opens : step.opens = false) (fault fault' : Fault) :
    .answered .createChannel (.refused fault') ∉ a.answered tag names step (.refused fault) := by
  rw [AppSetup.answered, List.mem_append, not_or]
  constructor
  · simp [AppSetup.succeeded, exchange]
  · cases step with
    | channel => cases opens
    | _ => simp [exchange, StartupStep.call]

end Course

namespace System

/-- A system that a history leads to from the beginning. -/
def Reachable (s : System) : Prop := ∃ (setup : Setup) (h : List Move), s = setup.system.after h

/-- An application that has just been started has no link. -/
theorem Held.startApp {s : System} (held : s.Held) (a : AppSetup) : (s.startApp a).Held := by
  have hlinks : (s.startApp a).world.links = s.world.links := by
    rw [world_startApp]
    exact keeps_appStart keptByCalls_links s.world a
  have hhandles : (s.startApp a).handles = s.handles := rfl
  -- a job that names a link has been there before
  have before : ∀ {n : Nat} {t : Task} {l : Nat},
      (s.startApp a).jobs[n]? = some (.waiting t) → t.link? = some l →
      s.jobs[n]? = some (.waiting t) := by
    intro n t l job hl
    by_cases hn : n = s.jobs.length
    · subst hn
      rw [job_startApp, Option.some.injEq] at job
      cases job
      cases hl
    · rcases (s.turned_addJob ((App.start a s.world).asJob (.app a) .stats)).others n hn with
        hsame | ⟨-, hnew⟩
      · exact hsame ▸ job
      · rw [System.startApp, hnew] at job
        cases job
        cases hl
  constructor
  case named => exact fun n t l job hl => hlinks ▸ held.named n t l (before job hl) hl
  case given => exact fun l hl => hlinks ▸ held.given l hl
  case own =>
    intro n t l job hopens hl
    obtain ⟨hnot, halone⟩ := held.own n t l (before job hl) hopens hl
    exact ⟨hnot, fun n' t' job' hl' => halone n' t' (before job' hl') hl'⟩
  case unmarked =>
    intro n t b l job app early hl
    have hlt : t.link? = some l := (Task.link?_of_app? app).trans hl
    have hunmarked := held.unmarked n t b l (before job hlt) app early hl
    rwa [World.link, hlinks]

variable {s : System} {a : AppSetup} {h : List Move}

/-- Who has which link, after an application has been started. -/
theorem Reachable.held (reachable : s.Reachable) (a : AppSetup) (h : List Move) :
    ((s.startApp a).after h).Held := by
  obtain ⟨setup, before, rfl⟩ := reachable
  refine ((held_after rfl (fun l hl => ?_) before).startApp a).after h
  cases hc : setup.connected <;> simp [Setup.system, hc] at hl ⊢
  exact hl.symm

/-- The turn in which an application fails is its own, and its operation ends there. -/
theorem ended_of_failed {m : Move} {b : App} {f : Failure}
    (job : ((s.startApp a).after h).jobs[s.jobs.length]? = some (.waiting (.app a b)))
    (failed : ((s.startApp a).after (h ++ [m])).jobs[s.jobs.length]? =
      some (.finished (.failed f))) :
    m = .act (.job s.jobs.length) ∧ ((s.startApp a).after h).ready b.wait = true ∧
      (b.resume a ((s.startApp a).after h).world).2 = .finished (.error f) := by
  rw [after_concat] at failed
  rcases move_of_job job m with ⟨-, hsame⟩ | ⟨t, ht, ready, rfl⟩
  · rw [hsame] at failed
    cases failed
  cases ht
  refine ⟨rfl, ready, ?_⟩
  have hturn : ((s.startApp a).after h).turn (.app a b) =
      ((b.resume a ((s.startApp a).after h).world).1,
        (b.resume a ((s.startApp a).after h).world).2.asApp a) := asJob_app a _
  rw [(Takes.goesOn job ready).turned.job, hturn, Option.some.injEq] at failed
  cases hb : (b.resume a ((s.startApp a).after h).world).2 with
  | finished result =>
    rw [hb] at failed
    cases result <;> cases failed
    rfl
  | waiting b' =>
    rw [hb] at failed
    cases failed
  | crashed payload =>
    rw [hb] at failed
    cases failed

/-- An act of an application is among its acts. -/
theorem acted {e : Event} (act : e.isAct = true) (he : e ∈ s.appDeeds a h) :
    e ∈ acts (s.appDeeds a h) := List.mem_filter.mpr ⟨he, act⟩

/-- An application calls nothing in the turn in which it ends. -/
theorem uncalled_of_finished {m : Move} {c : Call} {o : Outcome}
    (ended : ((s.startApp a).after (h ++ [m])).jobs[s.jobs.length]? = some (.finished o))
    (before : .called c ∉ acts (s.appDeeds a h)) : .called c ∉ s.appDeeds a (h ++ [m]) := by
  intro hmem
  rw [appDeeds_concat] at hmem
  rcases List.mem_append.mp hmem with hmem | hmem
  · exact before (acted rfl hmem)
  · obtain ⟨t, q, hwaits, -⟩ := waits_of_called (mem_eventsBy.mp hmem)
    rw [after_concat] at ended
    rw [ended] at hwaits
    cases hwaits

/-- An application hears no answer to a call that it does not wait for. -/
theorem unanswered_of_waiting {m : Move} {b : App} {q : Pending} {c : Call} {x : Answer}
    (job : ((s.startApp a).after h).jobs[s.jobs.length]? = some (.waiting (.app a b)))
    (pending : b.pending? = some q) (other : q.call ≠ c)
    (before : .answered c x ∉ acts (s.appDeeds a h)) :
    .answered c x ∉ s.appDeeds a (h ++ [m]) := by
  intro hmem
  rw [appDeeds_concat] at hmem
  rcases List.mem_append.mp hmem with hmem | hmem
  · exact before (acted rfl hmem)
  · obtain ⟨t, q', job', pending', hheard⟩ := waits_of_answered (mem_eventsBy.mp hmem)
    rw [job, Option.some.injEq, Progress.waiting.injEq] at job'
    subst job'
    obtain rfl : q = q' := Option.some.inj (pending.symm.trans pending')
    exact other (Event.answered.inj hheard).1

/-- An application that ends while it opens its channel has heard that the channel is refused. -/
theorem refused_of_opening {l : Nat} {p : Pending} {f : Failure}
    (job : ((s.startApp a).after h).jobs[s.jobs.length]? =
      some (.waiting (.app a (.opening (.openingChannel l p)))))
    (ready : ((s.startApp a).after h).ready (App.opening (.openingChannel l p)).wait = true)
    (call : p.call = .createChannel)
    (ended : ((App.opening (.openingChannel l p)).resume a ((s.startApp a).after h).world).2 =
      .finished (.error f)) :
    ∃ fault, .answered .createChannel (.refused fault) ∈
      s.appDeeds a (h ++ [.act (.job s.jobs.length)]) := by
  simp only [App.resume, Opening.resume, resolve_andThen] at ended
  cases ha : p.reply.answer with
  | done name =>
    rw [resolve_done ha] at ended
    cases ended
  | refused fault =>
    have hheard : p.heard ∈ s.appDeeds a (h ++ [.act (.job s.jobs.length)]) := by
      rw [appDeeds_concat]
      exact List.mem_append_right _ (mem_eventsBy.mpr (heard_of_takes job ready rfl))
    rw [Pending.heard, ha, call] at hheard
    exact ⟨fault, hheard⟩
  | crashed payload =>
    rw [resolve_crashed ha] at ended
    cases ended

/-- When an application returns from a startup that has failed, while its connection is up, then the
connection has been asked to close, unless the broker has refused the channel; and in that case it
has not. -/
theorem closed_of_failed (reachable : s.Reachable) {m : Move} {b : App} {f : Failure} {c : Call}
    {name : Option String} (made : .answered c (.done name) ∈ s.appDeeds a h)
    (job : ((s.startApp a).after h).jobs[s.jobs.length]? = some (.waiting (.app a b)))
    (down : b.isUp = false)
    (failed : ((s.startApp a).after (h ++ [m])).jobs[s.jobs.length]? =
      some (.finished (.failed f))) :
    ∃ l, b.link? = some l ∧
      ((((s.startApp a).after h).world.link l).connectionUp = true →
        (∀ fault, .answered .createChannel (.refused fault) ∉ s.appDeeds a (h ++ [m])) →
        .called Closing.connectionCall ∈ s.appDeeds a h) ∧
      ((∃ fault, .answered .createChannel (.refused fault) ∈ s.appDeeds a (h ++ [m])) →
        .called Closing.connectionCall ∉ s.appDeeds a (h ++ [m])) := by
  obtain ⟨q, hq, hcourse⟩ := s.course_started a h
  rw [job, Option.some.injEq] at hq
  obtain rfl : q = .waiting b := by
    cases q <;> cases hq
    rfl
  obtain ⟨rfl, ready, ended⟩ := ended_of_failed job failed
  have unmarked : ∀ {l}, b.isEarly = true → b.link? = some l →
      (((s.startApp a).after h).world.link l).closed = false := fun early hl =>
    (reachable.held a h).unmarked _ _ b _ job rfl early hl
  generalize hdone : acts (s.appDeeds a h) = done at hcourse
  cases hcourse with
  | asking tag names step p _ asks call =>
    have unclosed := hdone ▸ unclosed_of_asking call
    cases asks with
    | connection =>
      have hmade := acted rfl made
      rw [hdone] at hmade
      simp [AppSetup.succeeded] at hmade
    | channel n₁ l =>
      refine ⟨l, rfl, fun _ hno => ?_, fun _ => uncalled_of_finished failed unclosed⟩
      obtain ⟨fault, hrefused⟩ := refused_of_opening job ready call ended
      exact absurd hrefused (hno fault)
    | _ =>
      refine ⟨_, rfl, fun up _ => ?_, fun _ => uncalled_of_finished failed unclosed⟩
      exact absurd ended (appResume_waits _ a rfl rfl rfl (fun _ hs => by cases hs)
        (unmarked rfl rfl) up _)
  | givingUp tag names step fault l c d next opens hc =>
    refine ⟨l, rfl, fun up hno => ?_, ?_⟩
    · cases hc with
      | channel q call =>
        obtain ⟨r, hr, -⟩ := finished_of_andThen ended
        exact absurd hr (closingResume_waits _ up q r)
      | connection failure q call channel =>
        have hcalled : .called Closing.connectionCall ∈ acts (s.appDeeds a h) := by
          rw [hdone]
          simp
        exact (List.mem_filter.mp hcalled).1
    · rintro ⟨fault', hrefused⟩
      refine absurd hrefused (unanswered_of_waiting job rfl hc.ne_createChannel.1 ?_)
      rw [hdone, List.mem_append, not_or]
      exact ⟨unrefused_of_answered opens fault fault', hc.ne_createChannel.2 _⟩
  | up tag names _ more all late running =>
    have hup : b.isUp = true := running
    rw [down] at hup
    cases hup

/-- Whether an application has got as far as the close of its connection. One that is over has. -/
def pastClose : Progress Task Outcome → Bool
  | .waiting (.app _ (.abandoning _ _ (.connection _ _))) => true
  | .waiting _ => false
  | .finished _ | .crashed _ => true

/-- In a move after a history an application gets as far as the close of its connection. -/
def ReachesClose (s : System) (a : AppSetup) (h : List Move) (m : Move) : Prop :=
  ((s.startApp a).after h).jobs[s.jobs.length]?.map pastClose = some false ∧
    ((s.startApp a).after (h ++ [m])).jobs[s.jobs.length]?.map pastClose = some true

/-- An application that is over has got there in some move. -/
theorem exists_reachesClose {o : Outcome}
    (ended : ((s.startApp a).after h).jobs[s.jobs.length]? = some (.finished o)) :
    ∃ h₁ m₁ h₂, h = h₁ ++ m₁ :: h₂ ∧ s.ReachesClose a h₁ m₁ := by
  have past : ((s.startApp a).after h).jobs[s.jobs.length]?.map pastClose = some true := by
    rw [ended]
    rfl
  clear ended
  induction h using List.reverseRecOn with
  | nil =>
    have first : ((s.startApp a).after []).jobs[s.jobs.length]?.map pastClose = some false := by
      rw [after_nil, job_startApp]
      rfl
    rw [first] at past
    cases past
  | append_singleton h m ih =>
    by_cases before : ((s.startApp a).after h).jobs[s.jobs.length]?.map pastClose = some true
    · obtain ⟨h₁, m₁, h₂, rfl, reaches⟩ := ih before
      exact ⟨h₁, m₁, h₂ ++ [m], by simp, reaches⟩
    · obtain ⟨p, job, -⟩ := s.course_started a h
      rw [job] at before
      refine ⟨h, m, [], rfl, ?_, past⟩
      rw [job]
      simpa using before

/-- When an application closes its connection it has asked for that. -/
theorem called_of_closing {l : Nat} {f : Failure} {failure : Option Failure} {q : Pending}
    (job : ((s.startApp a).after h).jobs[s.jobs.length]? =
      some (.waiting (.app a (.abandoning l f (.connection failure q))))) :
    .called Closing.connectionCall ∈ s.appDeeds a h := by
  obtain ⟨p, hp, course⟩ := s.course_started a h
  rw [job, Option.some.injEq] at hp
  obtain rfl : p = .waiting (.abandoning l f (.connection failure q)) := by
    cases p <;> cases hp
    rfl
  generalize hdone : acts (s.appDeeds a h) = done at course
  cases course with
  | asking _ _ _ _ _ asks => cases asks
  | givingUp _ _ _ _ _ _ _ _ _ closing =>
    cases closing
    have called : .called Closing.connectionCall ∈ acts (s.appDeeds a h) := by
      rw [hdone]
      simp
    exact (List.mem_filter.mp called).1
  | up _ _ _ _ _ _ running => cases running

/-- An application that is over waits for nothing, so what it does last is its end. -/
theorem last_of_ended {m m₁ : Move} {h₁ h₂ : List Move} {n : Nat} {o : Outcome}
    (split : h ++ [m] = h₁ ++ m₁ :: h₂) (waits : (s.after h).outcome? n = none)
    (ended : (s.after (h₁ ++ [m₁])).outcome? n = some o) : h₁ = h ∧ m₁ = m := by
  rcases List.eq_nil_or_concat h₂ with rfl | ⟨h₂, m', rfl⟩
  · obtain ⟨rfl, same⟩ := List.append_inj' split rfl
    cases same
    exact ⟨rfl, rfl⟩
  · have before : h = h₁ ++ [m₁] ++ h₂ := by
      rw [List.concat_eq_append, ← List.cons_append, ← List.append_assoc] at split
      rw [(List.append_inj' split rfl).1, List.append_assoc, List.singleton_append]
    rw [before, after_append, outcome?_after h₂ ended] at waits
    cases waits

/-- When an application returns from a startup that has failed, after its connection has been made,
it has got as far as the close of its connection. If the connection is up then, it is asked to
close, unless the broker has refused the channel; and in that case it has not been asked. The
connection is the first call of startup, so it has been made as soon as any call has succeeded. -/
theorem released_of_failed (reachable : s.Reachable) {m : Move} {b : App} {f : Failure} {c : Call}
    {name : Option String} (made : .answered c (.done name) ∈ s.appDeeds a h)
    (job : ((s.startApp a).after h).jobs[s.jobs.length]? = some (.waiting (.app a b)))
    (down : b.isUp = false)
    (failed : ((s.startApp a).after (h ++ [m])).jobs[s.jobs.length]? =
      some (.finished (.failed f))) :
    ∃ l, b.link? = some l ∧
      (∃ h₁ m₁ h₂, h ++ [m] = h₁ ++ m₁ :: h₂ ∧ s.ReachesClose a h₁ m₁) ∧
      (∀ h₁ m₁ h₂, h ++ [m] = h₁ ++ m₁ :: h₂ → s.ReachesClose a h₁ m₁ →
        (((s.startApp a).after h₁).world.link l).connectionUp = true →
        (∀ fault, .answered .createChannel (.refused fault) ∉ s.appDeeds a (h ++ [m])) →
        .called Closing.connectionCall ∈ s.appDeeds a (h₁ ++ [m₁])) ∧
      ((((s.startApp a).after h).world.link l).connectionUp = true →
        (∀ fault, .answered .createChannel (.refused fault) ∉ s.appDeeds a (h ++ [m])) →
        .called Closing.connectionCall ∈ s.appDeeds a h) ∧
      ((∃ fault, .answered .createChannel (.refused fault) ∈ s.appDeeds a (h ++ [m])) →
        .called Closing.connectionCall ∉ s.appDeeds a (h ++ [m])) := by
  obtain ⟨l, hl, closes, refused⟩ := closed_of_failed reachable made job down failed
  refine ⟨l, hl, exists_reachesClose failed, ?_, closes, refused⟩
  rintro h₁ m₁ h₂ split ⟨-, past⟩ up unrefused
  obtain ⟨p, now, -⟩ := s.course_started a (h₁ ++ [m₁])
  have called : ∀ {o}, ((s.startApp a).after (h₁ ++ [m₁])).outcome? s.jobs.length = some o →
      .called Closing.connectionCall ∈ s.appDeeds a (h₁ ++ [m₁]) := by
    intro o ended
    obtain ⟨rfl, rfl⟩ := last_of_ended split (outcome?_of_waiting job) ended
    exact (s.appDeeds_prefix a h₁ [m₁]).subset (closes up unrefused)
  rw [now, Option.map_some, Option.some.injEq] at past
  cases p with
  | finished result => cases result <;> exact called (outcome?_of_finished now)
  | crashed payload => exact called (by rw [outcome?, now]; rfl)
  | waiting b₁ =>
    cases b₁ with
    | abandoning l₁ f₁ closing =>
      cases closing with
      | connection failure q => exact called_of_closing now
      | channel q => cases past
    | _ => cases past

/-- A broker that refuses one call, and nothing else. -/
def refusing (method : Method) : System :=
  Setup.system { script := [(method, { answer := .refused .channelLimit })] }

theorem refusing_reachable (method : Method) : (refusing method).Reachable := ⟨_, [], rfl⟩

/-- An application of no particular configuration. -/
def anyApp : AppSetup := { config := default, kind := .cued }

/-- The application is on its way until the close of its connection is answered. -/
def givingUpHistory : List Move := List.replicate 4 (.act (.job 0))

/-- The broker has refused to open a channel. -/
def refusesChannel : Event → Bool
  | .answered .createChannel (.refused _) => true
  | _ => false

theorem released_of_failed_givingUpHistory :
    (refusing .exchangeDeclare).ReachesClose anyApp (List.replicate 3 (.act (.job 0)))
      (.act (.job 0)) ∧
    ((((refusing .exchangeDeclare).startApp anyApp).after
      (List.replicate 3 (.act (.job 0)))).world.link 0).connectionUp = true ∧
    .called Closing.connectionCall ∈ (refusing .exchangeDeclare).appDeeds anyApp
      givingUpHistory := by
  have made : .answered .createChannel (.done none) ∈
      (refusing .exchangeDeclare).appDeeds anyApp givingUpHistory := by decide
  obtain ⟨l, hl, -, released, -⟩ := released_of_failed (m := .act (.job 0))
    (refusing_reachable .exchangeDeclare) made rfl rfl rfl
  cases hl
  have reaches : (refusing .exchangeDeclare).ReachesClose anyApp
      (List.replicate 3 (.act (.job 0))) (.act (.job 0)) := ⟨by decide, by decide⟩
  have opened : ((refusing .exchangeDeclare).appDeeds anyApp
      (givingUpHistory ++ [.act (.job 0)])).all (fun e => !refusesChannel e) = true := by decide
  refine ⟨reaches, by decide,
    released _ _ [.act (.job 0)] rfl reaches (by decide) fun fault hrefused => ?_⟩
  exact absurd (List.all_eq_true.mp opened _ hrefused) (by simp [refusesChannel])

/-- A connection stays where no channel can be opened on it: the application that has made it
returns, and has not asked it to close. -/
theorem unchannelled_not_released :
    ¬ ∀ (s : System) (a : AppSetup) (h : List Move) (m : Move) (b : App) (l : Nat) (f : Failure)
      (c : Call) (name : Option String), s.Reachable → c.method = .connect →
        .answered c (.done name) ∈ s.appDeeds a h →
        ((s.startApp a).after h).jobs[s.jobs.length]? = some (.waiting (.app a b)) →
        b.isUp = false → b.link? = some l →
        (((s.startApp a).after h).world.link l).connectionUp = true →
        ((s.startApp a).after (h ++ [m])).jobs[s.jobs.length]? =
          some (.finished (.failed f)) →
        .called Closing.connectionCall ∈ s.appDeeds a (h ++ [m]) := by
  intro claim
  have called := claim (refusing .createChannel) anyApp [.act (.job 0)] (.act (.job 0)) _ _ _
    (.connect anyApp.config.endpoint anyApp.config.name) none (refusing_reachable .createChannel)
    rfl (by decide) rfl rfl rfl (by decide) rfl
  revert called
  decide

end System

end TopicWorker
