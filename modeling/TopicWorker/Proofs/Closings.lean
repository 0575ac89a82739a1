import TopicWorker.Proofs.Closers
import TopicWorker.Proofs.Releasing

/-!
# Every history is a life of each link

Whoever closes a link in a system does so as one of its callers: a job that has been asked to, a
teardown when it has stopped what it stops, and an application that gives up or is taken down.
A turn of a job either closes nothing, or it asks for the end of one link, or it goes on with what
it has begun. So a history of the system, looked at from one link, is a life of that link, and what
holds of every life holds of every link in every history.

## Main definitions

* `Task.closing?`: the link that a job is closing, and how far it has come.
* `Turn.Closes`, `Turn.ClosesOn`: what a turn does about closing.
* `System.ClosedAs`: a system with a life of one of its links.

## Main results

* `System.Takes.closes`: what the turn of a job does about closing.
* `System.closed_once`: in every life the work is done once, and every history is a life.
-/

namespace TopicWorker

variable {σ τ ρ ρ' : Type}

/-! ## Who is closing -/

/-- The link that a teardown is closing. -/
def Teardown.closing? : Teardown → Option (Nat × Closing)
  | closing l _ s => some (l, s)
  | _ => none

/-- The link that an application is closing. -/
def App.closing? : App → Option (Nat × Closing)
  | running s => s.closing?
  | abandoning l _ s => some (l, s)
  | _ => none

/-- The link that a job is closing, and how far it has come. -/
def Task.closing? : Task → Option (Nat × Closing)
  | closing l s => some (l, s)
  | teardown s => s.closing?
  | app _ s | program (.running _ _ s) => s.closing?
  | _ => none

theorem Teardown.link?_of_closing? {s : Teardown} {l : Nat} {c : Closing}
    (h : s.closing? = some (l, c)) : s.link? = some l := by
  cases s with
  | closing l' stopped c' => cases h; rfl
  | _ => cases h

theorem App.link?_of_closing? {s : App} {l : Nat} {c : Closing}
    (h : s.closing? = some (l, c)) : s.link? = some l := by
  cases s with
  | running s => exact Teardown.link?_of_closing? (s := s) h
  | abandoning l' f c' => cases h; rfl
  | _ => cases h

/-- Whoever is closing a link names it. -/
theorem Task.link?_of_closing? {t : Task} {l : Nat} {c : Closing}
    (h : t.closing? = some (l, c)) : t.link? = some l := by
  cases t with
  | closing l' c' => cases h; rfl
  | teardown s => exact Teardown.link?_of_closing? (s := s) h
  | app a s => exact App.link?_of_closing? (s := s) h
  | program p =>
    cases p with
    | running a listener s => exact App.link?_of_closing? (s := s) h
    | joining listener result => cases h
  | _ => cases h

/-! ## What a turn does about closing -/

namespace Turn

variable {stage : σ → Option (Nat × Closing)} {stage' : τ → Option (Nat × Closing)}

/-- A turn that leaves the links alone and closes nothing. -/
structure Calm (stage : σ → Option (Nat × Closing)) (w : World) (t : Turn σ ρ) : Prop where
  links : t.1.links = w.links
  idle : t.2.All fun s => stage s = none

/-- What surrounds the closing of a link: its stages are stages of the whole, and what follows it
is calm. -/
structure Surrounds (stage : σ → Option (Nat × Closing)) (l : Nat) (embed : Closing → σ)
    (next : Except Failure Unit → World → Turn σ ρ) : Prop where
  stays : ∀ c, stage (embed c) = some (l, c)
  ends : ∀ r v, Calm stage v (next r v)

/-- A turn that is closing nothing when it begins. Nothing is closed in it either, or it asks for
the end of the link that is lent to it. -/
inductive Closes (stage : σ → Option (Nat × Closing)) (lent : Option Nat) (w : World) :
    Turn σ ρ → Prop where
  | aside {t : Turn σ ρ} (spares : w.Spares none t.1) (idle : t.2.All fun s => stage s = none) :
    Closes stage lent w t
  | asks {l : Nat} {v : World} {embed : Closing → σ}
    {next : Except Failure Unit → World → Turn σ ρ} (named : lent = some l)
    (links : v.links = w.links) (rest : Surrounds stage l embed next) :
    Closes stage lent w ((Closing.start l v).andThen embed next)

/-- A turn that goes on with the closing of a link. -/
def ClosesOn (stage : σ → Option (Nat × Closing)) (l : Nat) (c : Closing) (w : World)
    (t : Turn σ ρ) : Prop :=
  ∃ embed next, Surrounds (ρ := ρ) stage l embed next ∧ t = (c.resume l w).andThen embed next

section Rules

variable {lent : Option Nat} {l : Nat} {c : Closing} {w v : World} {t : Turn σ ρ} {embed : σ → τ}
  {next : ρ → World → Turn τ ρ'}

/-- The end of an operation is calm. -/
theorem calm_finished (w : World) (r : ρ) : Calm stage w (w, .finished r) :=
  ⟨rfl, trivial⟩

theorem Calm.closes (h : Calm stage w t) : Closes stage lent w t :=
  .aside (World.spares_of_links h.links) h.idle

/-- Only the links matter of the world that a turn begins in. -/
theorem Closes.of_links (h : Closes stage lent v t) (hv : v.links = w.links) :
    Closes stage lent w t := by
  cases h with
  | aside spares idle => exact .aside ((World.spares_of_links hv).trans spares) idle
  | asks named links rest => exact .asks named (links.trans hv) rest

/-- What surrounds a closing may be surrounded itself. -/
theorem Surrounds.andThen {inner : Closing → σ} {rest : Except Failure Unit → World → Turn σ ρ}
    (h : Surrounds stage l inner rest) (he : ∀ s, stage' (embed s) = stage s)
    (hn : ∀ r v, Calm stage' v (next r v)) :
    Surrounds stage' l (fun c => embed (inner c)) fun r v => (rest r v).andThen embed next where
  stays c := (he _).trans (h.stays c)
  ends r v := by
    have calm := h.ends r v
    refine ⟨?_, all_andThen calm.idle (fun s hs => (he s).trans hs) fun r' v' => (hn r' v').idle⟩
    have links : ∀ t : Turn σ ρ, (t.andThen embed next).1.links = t.1.links := by
      rintro ⟨w', p⟩
      cases p with
      | finished r' => exact (hn r' w').links
      | _ => rfl
    exact (links _).trans calm.links

theorem Closes.andThen (h : Closes stage lent w t) (he : ∀ s, stage' (embed s) = stage s)
    (hn : ∀ r v, Calm stage' v (next r v)) : Closes stage' lent w (t.andThen embed next) := by
  cases h with
  | aside spares idle =>
    exact .aside (spares_andThen spares fun r v => World.spares_of_links (hn r v).links)
      (all_andThen idle (fun s hs => (he s).trans hs) fun r v => (hn r v).idle)
  | asks named links rest =>
    rw [Turn.andThen_assoc]
    exact .asks named links (rest.andThen he hn)

theorem ClosesOn.andThen (h : ClosesOn stage l c w t) (he : ∀ s, stage' (embed s) = stage s)
    (hn : ∀ r v, Calm stage' v (next r v)) : ClosesOn stage' l c w (t.andThen embed next) := by
  obtain ⟨inner, rest, surrounds, rfl⟩ := h
  exact ⟨_, _, surrounds.andThen he hn, Turn.andThen_assoc _ _ _ _ _⟩

/-- A closing may come after an operation that leaves the links alone. -/
theorem Closes.follows (ht : t.1.links = w.links) (he : ∀ s, stage' (embed s) = none)
    (hn : ∀ r v, Closes stage' lent v (next r v)) :
    Closes stage' lent w (t.andThen embed next) := by
  obtain ⟨w', p⟩ := t
  cases p with
  | waiting s => exact .aside (World.spares_of_links ht) (he s)
  | finished r => exact (hn r w').of_links ht
  | crashed payload => exact .aside (World.spares_of_links ht) trivial

end Rules

/-- Where a turn is that surrounds a turn of a closing. -/
theorem Surrounds.stands {l : Nat} {embed : Closing → σ}
    {next : Except Failure Unit → World → Turn σ ρ} (h : Surrounds stage l embed next)
    (u : Turn Closing (Except Failure Unit)) :
    (u.andThen embed next).1.links = u.1.links ∧
      ∀ l' c, (∃ s, (u.andThen embed next).2 = .waiting s ∧ stage s = some (l', c)) ↔
        l' = l ∧ u.2 = .waiting c := by
  obtain ⟨w, p⟩ := u
  cases p with
  | waiting c' =>
    refine ⟨rfl, fun l' c => ⟨?_, ?_⟩⟩
    · rintro ⟨s, hs, hstage⟩
      cases hs
      rw [h.stays, Option.some.injEq, Prod.mk.injEq] at hstage
      exact ⟨hstage.1.symm, by rw [hstage.2]⟩
    · rintro ⟨rfl, hc⟩
      cases hc
      exact ⟨embed c', rfl, h.stays c'⟩
  | finished r =>
    have calm := h.ends r w
    refine ⟨calm.links, fun l' c => ⟨?_, nofun⟩⟩
    rintro ⟨s, hs, hstage⟩
    rw [calm.idle.of_waiting hs] at hstage
    cases hstage
  | crashed payload =>
    refine ⟨rfl, fun l' c => ⟨?_, nofun⟩⟩
    rintro ⟨s, hs, -⟩
    cases hs

/-- Whoever is closing a link after such a turn has asked for the end of the one that is lent. -/
theorem Closes.lent_of_stage {lent : Option Nat} {l : Nat} {c : Closing} {w : World} {t : Turn σ ρ}
    {s : σ} (h : Closes stage lent w t) (waits : t.2 = .waiting s)
    (closing : stage s = some (l, c)) : lent = some l := by
  cases h with
  | aside spares idle =>
    rw [idle.of_waiting waits] at closing
    cases closing
  | asks named links rest =>
    obtain ⟨rfl, -⟩ := ((rest.stands _).2 l c).mp ⟨s, waits, closing⟩
    exact named

end Turn

open Turn World

section Operations

variable (w : World)

theorem calm_closed (stopped : Except Failure Stats) (result : Except Failure Unit) :
    Calm Teardown.closing? w (Teardown.closed stopped result w) :=
  ⟨keeps_closed keptByCalls_links (fun _ _ => rfl) w stopped result, all_closed w stopped result⟩

/-- A teardown asks for the end of its link when it has stopped what it stops. -/
theorem closes_stopped (closer : Closer) (result : Except Failure Stats) :
    Closes Teardown.closing? closer.link? w (Teardown.stopped closer result w) := by
  refine stopped_induction (motive := fun w t => Closes Teardown.closing? closer.link? w t)
    (fun w e t h => h.of_links rfl) (fun w l hl => ?_) (fun w op hop => ?_) w
  · subst hl
    exact .asks rfl rfl ⟨fun _ => rfl, fun r v => calm_closed v result r⟩
  · exact .aside (spares_of_links rfl) rfl

theorem closes_teardownResume {s : Teardown} (idle : s.closing? = none) :
    Closes Teardown.closing? s.link? w (s.resume w) := by
  cases s with
  | blocked stopper closer => exact .aside (spares_of_links rfl) rfl
  | yielding stopper closer =>
    cases stopper with
    | receiver r =>
      refine Closes.follows ?_ (fun _ => rfl) fun result v => closes_stopped v closer result
      exact keeps_stoppingStart keptByCalls_links (fun _ _ => rfl) _ r
    | given op => exact .aside (spares_of_links rfl) rfl
  | stopping r closer s =>
    exact Closes.follows (keeps_stoppingResume keptByCalls_links w r s) (fun _ => rfl)
      fun result v => closes_stopped v closer result
  | stoppingGiven op closer =>
    simp only [Teardown.resume]
    cases op.ending with
    | returned result => exact closes_stopped w closer result
    | crashed payload => exact .aside (spares_of_links rfl) trivial
  | closing l result s => cases idle
  | closingGiven op result =>
    simp only [Teardown.resume]
    cases op.ending with
    | returned r => exact (calm_closed w result r).closes
    | crashed payload => exact .aside (spares_of_links rfl) trivial

theorem closesOn_teardownResume {s : Teardown} {l : Nat} {c : Closing}
    (h : s.closing? = some (l, c)) : ClosesOn Teardown.closing? l c w (s.resume w) := by
  cases s with
  | closing l' result c' =>
    cases h
    exact ⟨_, _, ⟨fun _ => rfl, fun r v => calm_closed v result r⟩, rfl⟩
  | _ => cases h

/-- An application that gives up asks for the end of its link. -/
theorem closes_abandon (l : Nat) (f : Failure) :
    Closes App.closing? (some l) w (App.abandon l f w) :=
  .asks rfl rfl ⟨fun _ => rfl, fun _ _ => calm_finished _ _⟩

theorem closes_started (l : Nat) (sub : Subscription) (result : Except Failure Nat) :
    Closes App.closing? (some l) w (App.started l sub result w) := by
  cases result with
  | error f => exact closes_abandon w l f
  | ok r => exact .aside (spares_of_links rfl) rfl

theorem closes_subscribed (a : AppSetup) (l : Nat) (result : Except Failure Subscription) :
    Closes App.closing? (some l) w (App.subscribed a l result w) := by
  cases result with
  | error f => exact closes_abandon w l f
  | ok sub =>
    exact Closes.follows (keeps_startingStart keptByCalls_links (fun _ _ => rfl) w _) (fun _ => rfl)
      fun r v => closes_started v l sub r

theorem closes_appResume (a : AppSetup) {s : App} (idle : s.closing? = none) :
    Closes App.closing? s.link? w (s.resume a w) := by
  cases s with
  | opening s =>
    refine .aside (spares_andThen (spares_openingResume w s) fun r v => spares_of_links
      (keeps_opened keptByCalls_links v a r))
      (all_andThen (all_true _) (fun _ _ => rfl) fun r v => ?_)
    cases r with
    | error f => trivial
    | ok l => rfl
  | subscribing l s =>
    exact Closes.follows (keeps_subscribingResume keptByCalls_links w _ _ s) (fun _ => rfl)
      fun r v => closes_subscribed v a l r
  | starting l sub s =>
    refine Closes.follows ?_ (fun _ => rfl) fun r v => closes_started v l sub r
    exact keeps_startingResume keptByCalls_links (fun _ _ => rfl) (fun _ _ _ => rfl) w _ s
  | running s =>
    exact (closes_teardownResume w idle).andThen (fun _ => rfl) fun _ _ => calm_finished _ _
  | abandoning l f s => cases idle

theorem closesOn_appResume (a : AppSetup) {s : App} {l : Nat} {c : Closing}
    (h : s.closing? = some (l, c)) : ClosesOn App.closing? l c w (s.resume a w) := by
  cases s with
  | running s =>
    exact (closesOn_teardownResume (s := s) w h).andThen (fun _ => rfl) fun _ _ => calm_finished _ _
  | abandoning l' f c' =>
    cases h
    exact ⟨_, _, ⟨fun _ => rfl, fun _ _ => calm_finished _ _⟩, rfl⟩
  | _ => cases h

/-- A job that is closing nothing closes nothing in its turn, or asks for the end of the link that
it names. -/
theorem closes_taskResume {t : Task} (idle : t.closing? = none) :
    Closes Task.closing? t.link? w (t.resume w) := by
  have spares := spares_taskResume w t
  cases t with
  | opening s =>
    exact .aside (spares_andThen (spares_openingResume w s) fun _ _ => spares_of_links rfl)
      (all_andThen (all_true _) (fun _ _ => rfl) fun _ _ => trivial)
  | closing l s => cases idle
  | teardown s =>
    exact (closes_teardownResume w idle).andThen (fun _ => rfl) fun _ _ => calm_finished _ _
  | app a s => exact (closes_appResume w a idle).andThen (fun _ => rfl) fun _ _ => calm_finished _ _
  | program p =>
    cases p with
    | running a listener s =>
      exact (closes_appResume w a idle).andThen (fun _ => rfl) fun _ _ => ⟨rfl, rfl⟩
    | joining listener result => exact .aside (spares_of_links rfl) rfl
  | _ => exact .aside spares (all_asJob (all_true _) fun _ _ => rfl)

/-- A job that is closing a link goes on with that. -/
theorem closesOn_taskResume {t : Task} {l : Nat} {c : Closing} (h : t.closing? = some (l, c)) :
    ClosesOn Task.closing? l c w (t.resume w) := by
  cases t with
  | closing l' c' =>
    cases h
    exact ⟨_, _, ⟨fun _ => rfl, fun _ _ => calm_finished _ _⟩, rfl⟩
  | teardown s =>
    exact (closesOn_teardownResume (s := s) w h).andThen (fun _ => rfl) fun _ _ => calm_finished _ _
  | app a s =>
    exact (closesOn_appResume (s := s) w a h).andThen (fun _ => rfl) fun _ _ => calm_finished _ _
  | program p =>
    cases p with
    | running a listener s =>
      exact (closesOn_appResume (s := s) w a h).andThen (fun _ => rfl) fun _ _ => ⟨rfl, rfl⟩
    | joining listener result => cases h
  | _ => cases h

/-- A job that is asked for closes nothing at first, unless that is what is asked for. -/
theorem closes_begin (q : Request) (h : Handles) :
    Closes Task.closing? h.link w (q.begin h w) := by
  have aside : ∀ {q : Request}, q ≠ .close → ((q.begin h w).2.All fun t => t.closing? = none) →
      Closes Task.closing? h.link w (q.begin h w) := fun hq idle =>
    .aside (spares_of_links (keeps_begin keptByCalls_links (fun _ _ => rfl) w _ h
      (fun _ r _ => keeps_stoppingStart keptByCalls_links (fun _ _ => rfl) w r) fun _ h' =>
        absurd h' hq)) idle
  cases q with
  | close =>
    refine onLink_induction (motive := fun t => Closes Task.closing? h.link w t) h
      (fun l hl => ?_) fun _ => .aside (spares_of_links rfl) trivial
    exact .asks hl rfl ⟨fun _ => rfl, fun _ _ => calm_finished _ _⟩
  | opening name endpoint => exact aside nofun rfl
  | status => exact aside nofun trivial
  | declareExchange x => exact aside nofun (fits_onLink w h fun _ => rfl)
  | declareQueue q => exact aside nofun (fits_onLink w h fun _ => rfl)
  | bind b => exact aside nofun (fits_onLink w h fun _ => rfl)
  | subscribe x pattern =>
    exact aside nofun (fits_onLink w h fun _ => all_asJob (all_true _) fun _ _ => rfl)
  | start queue mode prefetch kind =>
    exact aside nofun (fits_onLink w h fun _ => all_asJob (all_true _) fun _ _ => rfl)
  | stop consumer =>
    exact aside nofun (fits_onConsumer w h consumer fun _ =>
      all_asJob (all_true _) fun _ _ => rfl)
  | ack tag => exact aside nofun (fits_onLink w h fun _ => rfl)
  | reject tag requeue => exact aside nofun (fits_onLink w h fun _ => rfl)
  | cancelConsumer tag =>
    refine aside nofun (fits_onLink w h fun l => ?_)
    rcases cancellingStart_cases w l tag with hc | hc <;> rw [hc]
    · trivial
    · rfl
  | run consumer stop close =>
    refine aside nofun ?_
    cases stop with
    | some op =>
      cases close with
      | some op' => rfl
      | none => exact fits_onLink w h fun _ => rfl
    | none =>
      refine fits_onConsumer w h consumer fun r => ?_
      cases close with
      | some op' => rfl
      | none => exact fits_onLink w h fun _ => rfl
  | app lookup kind =>
    refine aside nofun ?_
    show (Request.startApp lookup kind w).2.All _
    simp only [Request.startApp]
    split
    · trivial
    · rfl
  | listen => exact aside (by simp) rfl

end Operations

namespace System

variable {s : System} {m : Move} {n l : Nat} {u : Turn Task Outcome} {v : Closers}

/-! ## The turns of a system -/

theorem closes_turn (s : System) {t : Task} (idle : t.closing? = none) :
    Closes Task.closing? t.link? s.world (s.turn t) := by
  refine turn_induction s (closes_taskResume s.world idle) fun listener result o _ => ?_
  obtain ⟨o', ends⟩ := conclude_finished s.world result o
  refine .aside (spares_of_links (keeps_programConclude keptByCalls_links _ _ _)) ?_
  rw [ends]
  trivial

theorem closesOn_turn (s : System) {t : Task} {c : Closing} (h : t.closing? = some (l, c)) :
    ClosesOn Task.closing? l c s.world (s.turn t) := by
  rw [turn_eq_resume]
  · exact closesOn_taskResume s.world h
  · rintro listener result rfl
    cases h

/-- What the turn of a job does about closing: it goes on with what the job has been closing, or
the job has been closing nothing, and it asks for no end but that of a link that is there. -/
theorem Takes.closes (held : s.Held) (h : s.Takes m n u) :
    (∃ t l c, s.jobs[n]? = some (.waiting t) ∧ t.closing? = some (l, c) ∧
      ClosesOn Task.closing? l c s.world u) ∨
    (∀ t, s.jobs[n]? = some (.waiting t) → t.closing? = none) ∧
      ∃ lent, (∀ l, lent = some l → l < s.world.links.length) ∧
        Closes Task.closing? lent s.world u := by
  have new : ∀ t, s.jobs[s.jobs.length]? ≠ some (.waiting t) := by simp
  cases h with
  | @goesOn _ t job ready =>
    cases hc : t.closing? with
    | some c => exact .inl ⟨t, c.1, c.2, job, hc, s.closesOn_turn hc⟩
    | none =>
      refine .inr ⟨fun t' job' => ?_, t.link?, fun l => held.named n t l job, s.closes_turn hc⟩
      rw [job, Option.some.injEq, Progress.waiting.injEq] at job'
      exact job' ▸ hc
  | begins q =>
    exact .inr ⟨fun t job => absurd job (new t), s.handles.link, held.given,
      closes_begin s.world q s.handles⟩
  | launches env =>
    refine .inr ⟨fun t job => absurd job (new t), none, nofun, ?_⟩
    simp only [launchTurn]
    split
    · exact .aside (spares_of_links rfl) trivial
    · exact .aside (spares_of_links (keeps_andThen (f := World.links)
        (keeps_appStart keptByCalls_links _ _) fun _ _ => rfl)) rfl

/-! ## Lives -/

/-- A job is closing a link and has come so far. -/
def IsClosing (s : System) (n l : Nat) (c : Closing) : Prop :=
  ∃ t, s.jobs[n]? = some (.waiting t) ∧ t.closing? = some (l, c)

/-- A system with a life of one of its links: the first caller is the one job that is closing the
link, as long as there is one. -/
structure ClosedAs (s : System) (l : Nat) (v : Closers) : Prop where
  life : v.Life l
  world : v.world = s.world
  first : ∀ c, v.progress[0]? = some (.waiting c) ↔ ∃ n, s.IsClosing n l c
  alone : ∀ n n' c c', s.IsClosing n l c → s.IsClosing n' l c' → n = n'

section Lives

variable {s' : System}

/-- Whoever is closing a link after the turn of a job has been closing it before, unless it is the
job that has had the turn. -/
theorem Turned.isClosing (h : s.Turned n u s') {n' : Nat} (hn : n' ≠ n) (c : Closing) :
    s'.IsClosing n' l c ↔ s.IsClosing n' l c := by
  rcases h.others n' hn with hsame | ⟨hnone, hnew⟩
  · simp only [IsClosing, hsame]
  · refine ⟨fun ⟨t, job, hc⟩ => ?_, fun ⟨t, job, _⟩ => ?_⟩
    · rw [hnew, Option.some.injEq, Progress.waiting.injEq] at job
      rw [← job] at hc
      cases hc
    · rw [hnone] at job
      cases job

theorem Turned.isClosing_self (h : s.Turned n u s') (c : Closing) :
    s'.IsClosing n l c ↔ ∃ t, u.2 = .waiting t ∧ t.closing? = some (l, c) := by
  simp only [IsClosing, h.job, Option.some.injEq]

/-- What is of no concern to the link passes as a change of the world. -/
theorem ClosedAs.meanwhile (h : s.ClosedAs l v) {w : World} {c : Option Nat}
    (spares : s.world.Spares c w) (hc : c ≠ some l) : v.Leads l { v with world := w } :=
  .meanwhile .rests w (h.world ▸ spares.length) (h.world ▸ spares.closed l hc)

/-- The life goes on with a turn of the job that is the first caller. -/
theorem ClosedAs.ofOwn (life : v.Life l) (world : v.world = s'.world) (turned : s.Turned n u s')
    (apart : ∀ n' c, n' ≠ n → ¬ s.IsClosing n' l c)
    (own : ∀ c, (∃ t, u.2 = .waiting t ∧ t.closing? = some (l, c)) ↔
      v.progress[0]? = some (.waiting c)) : s'.ClosedAs l v := by
  have only : ∀ {n' c}, s'.IsClosing n' l c → n' = n := by
    intro n' c h
    by_contra hn
    exact apart n' c hn ((turned.isClosing hn c).mp h)
  refine ⟨life, world, fun c => ?_, fun n' n'' c c' h h' => (only h).trans (only h').symm⟩
  rw [← own c, ← turned.isClosing_self c]
  refine ⟨fun h => ⟨n, h⟩, fun ⟨n', h⟩ => ?_⟩
  rw [← only h]
  exact h

/-- The life goes on while somebody else has a turn. -/
theorem ClosedAs.ofOther {v' : Closers} (h : s.ClosedAs l v) (leads : v.Leads l v')
    (world : v'.world = s'.world) (turned : s.Turned n u s') (before : ∀ c, ¬ s.IsClosing n l c)
    (after : ∀ t c, u.2 = .waiting t → t.closing? ≠ some (l, c))
    (first : v'.progress[0]? = v.progress[0]?) : s'.ClosedAs l v' := by
  have same : ∀ n' c, s'.IsClosing n' l c ↔ s.IsClosing n' l c := by
    intro n' c
    by_cases hn : n' = n
    · subst hn
      rw [turned.isClosing_self]
      exact ⟨fun ⟨t, ht, hc⟩ => absurd hc (after t c ht), fun hc => absurd hc (before c)⟩
    · exact turned.isClosing hn c
  refine ⟨h.life.leads leads, world, fun c => ?_, fun n' n'' c c' hn hn' => ?_⟩
  · rw [first, h.first]
    exact exists_congr fun n' => (same n' c).symm
  · exact h.alone n' n'' c c' ((same n' c).mp hn) ((same n'' c').mp hn')

/-- The first caller goes on. -/
theorem ClosedAs.goesOn (h : s.ClosedAs l v) (turned : s.Turned n u s') {c : Closing}
    (closing : s.IsClosing n l c) (closes : ClosesOn Task.closing? l c s.world u) :
    ∃ v', v.Leads l v' ∧ s'.ClosedAs l v' := by
  obtain ⟨embed, next, surrounds, rfl⟩ := closes
  obtain ⟨links, stands⟩ := surrounds.stands (c.resume l s.world)
  have hfirst := (h.first c).mpr ⟨n, closing⟩
  have hworld : (v.goOn l 0).world = (c.resume l s.world).1 := by
    rw [Closers.goOn_of_waiting hfirst, h.world]
    rfl
  have hprogress : (v.goOn l 0).progress[0]? = some (c.resume l s.world).2 := by
    rw [Closers.progress_goOn hfirst, h.world]
  have spares : (v.goOn l 0).world.Spares none ((c.resume l s.world).andThen embed next).1 :=
    spares_of_links (links.trans (congrArg World.links hworld.symm))
  have leads := (Closers.Leads.rests.goesOn (l := l) 0).meanwhile _ spares.length
    (spares.closed l nofun)
  refine ⟨_, leads, .ofOwn (h.life.leads leads) turned.world.symm turned
    (fun n' c' hn hc' => ?_) fun c' => ?_⟩
  · exact hn (h.alone n' n c' c hc' closing)
  · rw [stands l c', hprogress, Option.some.injEq]
    exact ⟨fun hc' => hc'.2, fun hc' => ⟨rfl, hc'⟩⟩

/-- Somebody asks, first or late. -/
theorem ClosedAs.asks (h : s.ClosedAs l v) (turned : s.Turned n u s')
    (there : l < s.world.links.length) (before : ∀ c, ¬ s.IsClosing n l c) {w : World}
    {embed : Closing → Task} {next : Except Failure Unit → World → Turn Task Outcome}
    (links : w.links = s.world.links) (rest : Surrounds Task.closing? l embed next)
    (hu : u = (Closing.start l w).andThen embed next) :
    ∃ v', v.Leads l v' ∧ s'.ClosedAs l v' := by
  subst hu
  obtain ⟨hlinks, stands⟩ := rest.stands (Closing.start l w)
  have hw := h.meanwhile (c := none) (spares_of_links links) nofun
  have spares : (Closing.start l w).1.Spares none ((Closing.start l w).andThen embed next).1 :=
    spares_of_links hlinks
  have leads := (hw.closes (links ▸ there)).meanwhile _ spares.length (spares.closed l nofun)
  cases (h.life.leads hw).stage with
  | untouched nobody nothing unmarked =>
    have hnobody : v.progress = [] := nobody
    refine ⟨_, leads, .ofOwn (h.life.leads leads) turned.world.symm turned
      (fun n' c' hn hc' => ?_) fun c' => ?_⟩
    · have hfirst := (h.first c').mpr ⟨n', hc'⟩
      rw [hnobody] at hfirst
      cases hfirst
    · rw [stands l c']
      simp [Closers.close, Closers.take, hnobody]
  | asked p others progress marked account late idle =>
    have hprogress : v.progress = p :: others := progress
    refine ⟨_, leads, h.ofOther leads turned.world.symm turned before (fun t c ht hc => ?_) ?_⟩
    · have hwaits := ((stands l c).mp ⟨t, ht, hc⟩).2
      rw [Closing.start_of_marked marked] at hwaits
      cases hwaits
    · rw [Closers.close_of_marked marked]
      simp [hprogress]

end Lives

/-- Where no job has a turn, whoever is closing a link stays where he is. -/
theorem isClosing_of_no_turn (h : ∀ n u, ¬ s.Takes m n u) (n : Nat) (c : Closing) :
    (s.move m).IsClosing n l c ↔ s.IsClosing n l c := by
  have kind := s.move_kind m
  generalize s.move m = s' at *
  cases kind with
  | turns takes turned => exact absurd takes (h _ _)
  | receives ready => exact Iff.rfl
  | outside jobs => simp only [IsClosing, jobs]

/-- A life goes on with every move. -/
theorem ClosedAs.move (held : s.Held) (there : l < s.world.links.length) (h : s.ClosedAs l v)
    (m : Move) : ∃ v', v.Leads l v' ∧ (s.move m).ClosedAs l v' := by
  by_cases hturn : ∃ n u, s.Takes m n u
  · obtain ⟨n, u, takes⟩ := hturn
    have turned := takes.turned
    rcases takes.closes held with ⟨t, l', c, job, hclosing, closes⟩ | ⟨idle, lent, hlent, closes⟩
    · by_cases hl : l' = l
      · subst hl
        exact h.goesOn turned ⟨t, job, hclosing⟩ closes
      · obtain ⟨embed, next, surrounds, rfl⟩ := closes
        obtain ⟨links, stands⟩ := surrounds.stands (c.resume l' s.world)
        have spares := (spares_closingResume (c := none) s.world l' c).trans (spares_of_links links)
        have leads := h.meanwhile spares nofun
        refine ⟨_, leads, h.ofOther leads turned.world.symm turned ?_ ?_ rfl⟩
        · rintro c' ⟨t', job', hc'⟩
          rw [job, Option.some.injEq, Progress.waiting.injEq] at job'
          rw [← job', hclosing, Option.some.injEq, Prod.mk.injEq] at hc'
          exact hl hc'.1
        · exact fun t' c' ht' hc' => hl ((stands l c').mp ⟨t', ht', hc'⟩).1.symm
    · have before : ∀ c, ¬ s.IsClosing n l c := by
        rintro c ⟨t, job, hc⟩
        rw [idle t job] at hc
        cases hc
      cases closes with
      | aside spares hidle =>
        have leads := h.meanwhile spares nofun
        refine ⟨_, leads, h.ofOther leads turned.world.symm turned before
          (fun t c ht hc => ?_) rfl⟩
        rw [hidle.of_waiting ht] at hc
        cases hc
      | @asks l' w embed next named links rest =>
        by_cases hl : l' = l
        · subst hl
          exact h.asks turned there before links rest rfl
        · obtain ⟨hlinks, stands⟩ := rest.stands (Closing.start l' w)
          have spares := ((spares_of_links links).trans (spares_closingStart w l')).trans
            (spares_of_links hlinks)
          have leads := h.meanwhile spares fun heq => hl (Option.some.inj heq)
          refine ⟨_, leads, h.ofOther leads turned.world.symm turned before
            (fun t c ht hc => ?_) rfl⟩
          exact hl ((stands l c).mp ⟨t, ht, hc⟩).1.symm
  · have hno : ∀ n u, ¬ s.Takes m n u := fun n u takes => hturn ⟨n, u, takes⟩
    have same : ∀ n c, (s.move m).IsClosing n l c ↔ s.IsClosing n l c := isClosing_of_no_turn hno
    have leads := h.meanwhile (spares_of_no_turn hno) nofun
    refine ⟨_, leads, h.life.leads leads, rfl, fun c => ?_, fun n n' c c' hn hn' => ?_⟩
    · exact (h.first c).trans (exists_congr fun n => (same n c).symm)
    · exact h.alone n n' c c' ((same n c).mp hn) ((same n' c').mp hn')

/-- A link that is not there before a move is not marked after it, -/
theorem unmarked_of_move (held : s.Held) (absent : s.world.links.length ≤ l) (m : Move) :
    ((s.move m).world.link l).closed = false := by
  rw [← unmarked_of_absent absent]
  by_cases hturn : ∃ n u, s.Takes m n u
  · obtain ⟨n, u, takes⟩ := hturn
    obtain ⟨c, spares, hc⟩ := takes.spares
    refine takes.turned.world ▸ spares.closed l ?_
    rintro rfl
    rcases hc l rfl with ⟨t, job, ht⟩ | hgiven
    · exact Nat.not_lt.mpr absent (held.named n t l job ht)
    · exact Nat.not_lt.mpr absent (held.given l hgiven)
  · exact (spares_of_no_turn fun n u takes => hturn ⟨n, u, takes⟩).closed l nofun

/-- and nobody is closing it. -/
theorem nobody_of_move (held : s.Held) (absent : s.world.links.length ≤ l) (m : Move) (n : Nat)
    (c : Closing) : ¬ (s.move m).IsClosing n l c := by
  have nobody : ∀ n c, ¬ s.IsClosing n l c := by
    rintro n c ⟨t, job, hc⟩
    exact Nat.not_lt.mpr absent (held.named n t l job (Task.link?_of_closing? hc))
  intro closing
  by_cases hturn : ∃ n u, s.Takes m n u
  · obtain ⟨n', u, takes⟩ := hturn
    by_cases hn : n = n'
    · subst hn
      obtain ⟨t, waits, ht⟩ := (takes.turned.isClosing_self c).mp closing
      rcases takes.closes held with ⟨t₀, l', c₀, job, ht₀, embed, next, surrounds, rfl⟩ |
        ⟨-, lent, hlent, closes⟩
      · obtain ⟨rfl, -⟩ := ((surrounds.stands _).2 l c).mp ⟨t, waits, ht⟩
        exact nobody n c₀ ⟨t₀, job, ht₀⟩
      · exact Nat.not_lt.mpr absent (hlent l (closes.lent_of_stage waits ht))
    · exact nobody n c ((takes.turned.isClosing hn c).mp closing)
  · have hno : ∀ n u, ¬ s.Takes m n u := fun n u takes => hturn ⟨n, u, takes⟩
    exact nobody n c ((isClosing_of_no_turn hno n c).mp closing)

/-- The life of a link that a move adds begins with the move. -/
theorem ClosedAs.ofAbsent (held : s.Held) (absent : s.world.links.length ≤ l) (m : Move) :
    (s.move m).ClosedAs l { world := (s.move m).world } where
  life := ⟨_, unmarked_of_move held absent m, .rests⟩
  world := rfl
  first c := ⟨nofun, fun ⟨n, closing⟩ => absurd closing (nobody_of_move held absent m n c)⟩
  alone n _ c _ closing _ := absurd closing (nobody_of_move held absent m n c)

/-- In a system that a setup begins with, a link that is there has not been marked. -/
theorem ClosedAs.setup (setup : Setup) (there : l < setup.system.world.links.length) :
    setup.system.ClosedAs l { world := setup.system.world } := by
  have unmarked : (setup.system.world.link l).closed = false := by
    cases hc : setup.connected with
    | false => simp [Setup.system, hc] at there
    | true =>
      have hl : l = 0 := by simpa [Setup.system, hc] using there
      simp [Setup.system, World.link, hc, hl]
  have nobody : ∀ n c, ¬ setup.system.IsClosing n l c := by
    rintro n c ⟨t, job, -⟩
    cases job
  refine ⟨⟨_, unmarked, .rests⟩, rfl, fun c => ⟨fun started => ?_, ?_⟩,
    fun n n' c c' hn _ => absurd hn (nobody n c)⟩
  · cases started
  · rintro ⟨n, hn⟩
    exact absurd hn (nobody n c)

theorem held_of_setup (setup : Setup) (h : List Move) : (setup.system.after h).Held := by
  refine held_after rfl (fun l hl => ?_) h
  cases hc : setup.connected <;> simp [Setup.system, hc] at hl ⊢
  exact hl.symm

/-- Every history is a life of each link that is there. -/
theorem closedAs_after (setup : Setup) (h : List Move)
    (there : l < (setup.system.after h).world.links.length) :
    ∃ v, (setup.system.after h).ClosedAs l v := by
  induction h using List.reverseRecOn with
  | nil => exact ⟨_, .setup setup there⟩
  | append_singleton h m ih =>
    rw [after_concat] at there ⊢
    have held := held_of_setup setup h
    by_cases hl : l < (setup.system.after h).world.links.length
    · obtain ⟨v, hv⟩ := ih hl
      obtain ⟨v', -, hv'⟩ := hv.move held hl m
      exact ⟨v', hv'⟩
    · exact ⟨_, .ofAbsent held (Nat.le_of_not_lt hl) m⟩

/-! ## Once -/

/-- A link is closed once, whoever asks for it and whatever else happens. -/
structure ClosesOnce (l : Nat) : Prop where
  /-- In every life of the link the work is done once. -/
  lives : ∀ v, Closers.Life l v → v.ClosedOnce l
  /-- Every history of every system is a life of the link, as soon as it is there: the first caller
  is the one job that is closing it. -/
  histories : ∀ (setup : Setup) (h : List Move),
    l < (setup.system.after h).world.links.length → ∃ v, (setup.system.after h).ClosedAs l v
  /-- With every move of the system the life goes on. -/
  moves : ∀ (setup : Setup) (h : List Move) (v : Closers),
    (setup.system.after h).ClosedAs l v → l < (setup.system.after h).world.links.length →
      ∀ m, ∃ v', v.Leads l v' ∧ ((setup.system.after h).move m).ClosedAs l v'

/-- Every link is closed once. -/
theorem closed_once (l : Nat) : ClosesOnce l where
  lives _ life := life.closedOnce
  histories setup h there := closedAs_after setup h there
  moves setup h _ life there m := life.move (held_of_setup setup h) there m

/-- Two callers whose turns overlap: the channel goes down while its close is pending, that close is
refused and so is the one of the connection. -/
def overlap (v : Closers) : Closers :=
  let down (w : World) : World := w.modifyLink 0 fun v => { v with channelUp := false }
  let asked := (v.close 0).close 0
  (({ asked with world := down asked.world }.goOn 0 0).goOn 0 0).close 0

/-- The life of the link of a session whose broker refuses both closes. -/
def refusingCloses : Closers :=
  { world := (Setup.system { connected := true, script :=
      [(.channelClose, { answer := .refused .heartbeat }),
        (.connectionClose, { answer := .refused .channelLimit })] }).world }

theorem closed_once_overlap : Closers.Life 0 (overlap refusingCloses) ∧
    (overlap refusingCloses).calls = [(0, Closing.channelCall), (0, Closing.connectionCall)] ∧
    (overlap refusingCloses).progress =
      [.finished (.error (.closing Fault.heartbeat.message)), .finished (.ok ()),
        .finished (.ok ())] ∧
    (overlap refusingCloses).ClosedOnce 0 := by
  have life : Closers.Life 0 (overlap refusingCloses) :=
    ⟨_, rfl, .closes (.goesOn (.goesOn (.meanwhile (.closes (.closes .rests (by decide))
      (by decide)) _ (by decide) (by decide)) 0) 0) (by decide)⟩
  exact ⟨life, by decide, by decide, (closed_once 0).lives _ life⟩

end System

end TopicWorker
