import TopicWorker.Proofs.Startup

/-!
# Who may close a link

The first who closes a link marks it, and whoever comes later finds the mark and does nothing.
So it matters who may close which link. A job names the link that it closes, or may come to
close: one that it has opened for itself, as an application and a job that only opens a link do,
or one that it has been given. What is given is the link that was opened last. The link of an
application is never given, so nobody else marks it, and it is unmarked until the application
closes it.

## Main definitions

* `Task.link?`: the link that a job names.
* `Task.opens`: whether it is one that the job opens for itself.
* `World.Spares`: what a turn leaves of the marks.
* `System.Held`: the invariant.

## Main results

* `spares_taskResume`, `spares_begin`: a turn marks no link but the one that its job names.
* `System.held_after`: the invariant holds of every reachable system.
-/

namespace TopicWorker

variable {σ τ ρ ρ' α : Type}

/-! ## Naming links -/

/-- The link that an opening has made the connection of. -/
def Opening.link? : Opening → Option Nat
  | connecting _ => none
  | openingChannel l _ => some l

/-- The link that is closed. -/
def Closer.link? : Closer → Option Nat
  | link l => some l
  | given _ => none

/-- The link that a teardown closes or is going to close. -/
def Teardown.link? : Teardown → Option Nat
  | blocked _ closer | yielding _ closer | stopping _ closer _ | stoppingGiven _ closer =>
    closer.link?
  | closing l _ _ => some l
  | closingGiven _ _ => none

/-- The link of an application. -/
def App.link? : App → Option Nat
  | opening s => s.link?
  | subscribing l _ | starting l _ _ | abandoning l _ _ => some l
  | running s => s.link?

/-- The link that a job closes, or may come to close. -/
def Task.link? : Task → Option Nat
  | opening s => s.link?
  | closing l _ => some l
  | teardown s => s.link?
  | app _ s | program (.running _ _ s) => s.link?
  | _ => none

/-- Whether a job opens the link that it names. -/
def Task.opens : Task → Bool
  | opening _ | app _ _ | program _ => true
  | _ => false

/-- The link that a job has opened for others. -/
def Outcome.link? : Outcome → Option Nat
  | ok (.opened l _) => some l
  | _ => none

/-- A job that has opened a link for others makes it the one that is given. -/
theorem link_gain (h : Handles) (o : Outcome) : (h.gain o).link = o.link?.or h.link := by
  cases o with
  | ok v => cases v <;> rfl
  | _ => rfl

/-- A job that obtains nothing has opened no link for others. -/
theorem Outcome.Bare.link? {o : Outcome} (h : o.Bare) : o.link? = none := by
  have hgain := link_gain {} o
  rw [h] at hgain
  simpa using hgain.symm

/-- What an application names is what its job names. -/
theorem Task.link?_of_app? {t : Task} {s : App} (h : t.app? = some s) : t.link? = s.link? := by
  rcases Task.of_app? h with ⟨a, rfl⟩ | ⟨a, listener, rfl⟩ <;> rfl

/-- An application opens its link for itself. -/
theorem Task.opens_of_app? {t : Task} {s : App} (h : t.app? = some s) : t.opens = true := by
  rcases Task.of_app? h with ⟨a, rfl⟩ | ⟨a, listener, rfl⟩ <;> rfl

/-! ## Marking links -/

namespace World

/-- What becomes of the links from one world to another: they are all still there, and none that
was not marked has been, unless it is the given one. -/
structure Spares (c : Option Nat) (w w' : World) : Prop where
  length : w.links.length ≤ w'.links.length
  closed : ∀ k, c ≠ some k → (w'.link k).closed = (w.link k).closed

section Spares

variable {c : Option Nat} {w w' : World}

theorem Spares.trans {w'' : World} (h : w.Spares c w') (h' : w'.Spares c w'') : w.Spares c w'' where
  length := Nat.le_trans h.length h'.length
  closed k hk := (h'.closed k hk).trans (h.closed k hk)

/-- Where the links stay as they are none is marked. -/
theorem spares_of_links (h : w'.links = w.links) : w.Spares c w' where
  length := by simp [h]
  closed k _ := by rw [link, link, h]

theorem spares_emit (w : World) (e : Event) : w.Spares c (w.emit e) := spares_of_links rfl

omit c w' in
/-- What a change does not touch in any link it leaves alone. -/
theorem link_modifyLink (w : World) (l k : Nat) (f : Link → Link) (g : Link → α)
    (hf : ∀ v, g (f v) = g v) : g ((w.modifyLink l f).link k) = g (w.link k) := by
  by_cases hl : l = k
  · cases hk : w.links[k]? <;> simp [link, modifyLink, hl, hk, hf]
  · simp [link, modifyLink, hl]

/-- A change of the statuses marks nothing. -/
theorem spares_modifyLink (w : World) (l : Nat) (f : Link → Link)
    (hf : ∀ v, (f v).closed = v.closed) : w.Spares c (w.modifyLink l f) where
  length := by simp [modifyLink]
  closed k _ := link_modifyLink w l k f Link.closed hf

/-- A link may be marked by whoever names it. -/
theorem spares_mark (w : World) (l : Nat) :
    w.Spares (some l) (w.modifyLink l fun v => { v with closed := true }) where
  length := by simp [modifyLink]
  closed k hk := by
    have hl : l ≠ k := fun h => hk (congrArg some h)
    simp [link, modifyLink, hl]

/-- A link that is added has not been marked. -/
theorem spares_opened (w : World) :
    w.Spares c { w with links := w.links ++ [({ connectionUp := true } : Link)] } where
  length := by simp
  closed k _ := by
    simp only [link, List.getElem?_append, List.getElem?_singleton]
    by_cases hk : k < w.links.length
    · simp [hk]
    · by_cases heq : k - w.links.length = 0 <;> simp [hk, heq]
      rfl

/-- A link that is not there is not marked. -/
theorem unmarked_of_absent {l : Nat} (h : w.links.length ≤ l) : (w.link l).closed = false := by
  rw [link, List.getElem?_eq_none h]
  rfl

end Spares

end World

open World

section Operations

variable {c : Option Nat} (w : World)

omit w in
theorem spares_andThen {w : World} {t : Turn σ ρ} {embed : σ → τ} {next : ρ → World → Turn τ ρ'}
    (ht : w.Spares c t.1) (hn : ∀ r (w' : World), w'.Spares c (next r w').1) :
    w.Spares c (t.andThen embed next).1 := by
  obtain ⟨w₁, p⟩ := t
  cases p with
  | finished r => exact ht.trans (hn r w₁)
  | _ => exact ht

theorem spares_resolve (p : Pending) {report : Fault → LogEntry}
    {onDone : Option String → World → Turn σ ρ} {onFault : Fault → World → Turn σ ρ}
    (hd : ∀ name (w' : World), w'.Spares c (onDone name w').1)
    (hf : ∀ fault (w' : World), w'.Spares c (onFault fault w').1) :
    w.Spares c (p.resolve w report onDone onFault).1 := by
  cases ha : p.reply.answer with
  | done name =>
    rw [resolve_done ha]
    exact (spares_emit w _).trans (hd _ _)
  | refused fault =>
    rw [resolve_refused ha]
    exact ((spares_emit w _).trans (spares_emit _ _)).trans (hf _ _)
  | crashed payload =>
    rw [resolve_crashed ha]
    exact spares_emit w _

theorem spares_openingResume (s : Opening) : w.Spares c (s.resume w).1 := by
  cases s with
  | connecting p =>
    refine spares_resolve w p (fun _ w' => ?_) fun _ _ => spares_of_links rfl
    exact (spares_opened w').trans (spares_of_links rfl)
  | openingChannel l p =>
    refine spares_resolve w p (fun _ w' => ?_) fun _ _ => spares_of_links rfl
    exact (spares_modifyLink w' l (fun v => { v with channelUp := true }) fun _ => rfl).trans
      (spares_emit _ _)

theorem spares_closeConnection (l : Nat) (failure : Option Failure) :
    w.Spares c (Closing.closeConnection l failure w).1 :=
  spares_of_links (keeps_closeConnection keptByCalls_links w l failure)

theorem spares_closingStart (l : Nat) : w.Spares (some l) (Closing.start l w).1 := by
  unfold Closing.start
  split
  · exact spares_of_links rfl
  · refine (spares_mark w l).trans ?_
    dsimp only
    split
    · exact spares_of_links rfl
    · exact spares_closeConnection _ l none

theorem spares_closingResume (l : Nat) (s : Closing) : w.Spares c (s.resume l w).1 := by
  have conclude : ∀ (w : World) f, w.Spares c (Closing.conclude f w).1 := fun w f =>
    spares_of_links (keeps_conclude keptByCalls_links w f)
  cases s with
  | channel p =>
    refine spares_resolve w p (fun _ w' => ?_) fun _ w' => spares_closeConnection w' l _
    exact (spares_modifyLink w' l (fun v => { v with channelUp := false }) fun _ => rfl).trans
      (spares_closeConnection _ l none)
  | connection failure p =>
    refine spares_resolve w p (fun _ w' => ?_) fun _ w' => conclude w' _
    exact (spares_modifyLink w' l (fun v => { v with channelUp := false, connectionUp := false })
      fun _ => rfl).trans (conclude _ failure)

theorem spares_closed (stopped : Except Failure Stats) (result : Except Failure Unit) :
    w.Spares c (Teardown.closed stopped result w).1 :=
  spares_of_links (keeps_closed keptByCalls_links (fun _ _ => rfl) w stopped result)

theorem spares_stopped (closer : Closer) (result : Except Failure Stats) :
    w.Spares closer.link? (Teardown.stopped closer result w).1 := by
  refine stopped_induction (motive := fun w t => w.Spares closer.link? t.1)
    (fun w e _ h => (spares_emit w _).trans h) (fun w l hl => ?_)
    (fun _ _ _ => spares_of_links rfl) w
  subst hl
  exact spares_andThen (spares_closingStart w l) fun r w' => spares_closed w' result r

omit w in
theorem spares_ending {w : World} {e : Ending α} {next : Except Failure α → World → Turn σ ρ}
    (hn : ∀ r (w' : World), w'.Spares c (next r w').1) : w.Spares c (e.andThen w next).1 := by
  cases e with
  | returned result => exact hn result w
  | crashed payload => exact spares_of_links rfl

/-- A teardown marks no link but its own. -/
theorem spares_teardownResume (s : Teardown) : w.Spares s.link? (s.resume w).1 := by
  cases s with
  | blocked stopper closer => exact spares_of_links rfl
  | yielding stopper closer =>
    cases stopper with
    | receiver r =>
      refine spares_andThen (spares_of_links ?_) fun result w' => spares_stopped w' closer result
      exact keeps_stoppingStart keptByCalls_links (fun _ _ => rfl) _ r
    | given op => exact spares_of_links rfl
  | stopping r closer s =>
    exact spares_andThen (spares_of_links (keeps_stoppingResume keptByCalls_links w r s))
      fun result w' => spares_stopped w' closer result
  | stoppingGiven op closer => exact spares_ending fun result w' => spares_stopped w' closer result
  | closing l result s =>
    exact spares_andThen (spares_closingResume w l s) fun r w' => spares_closed w' result r
  | closingGiven op result => exact spares_ending fun r w' => spares_closed w' result r

/-- A teardown keeps to its link. -/
theorem link_teardownResume (s : Teardown) : (s.resume w).2.All fun s' => s'.link? = s.link? := by
  have stopped : ∀ (closer : Closer) (result : Except Failure Stats) (w : World),
      (Teardown.stopped closer result w).2.All fun s' => s'.link? = closer.link? := by
    intro closer result w
    refine stopped_induction (motive := fun _ t => t.2.All fun s' : Teardown =>
        s'.link? = closer.link?)
      (fun _ _ _ h => h) (fun w l hl => ?_) (fun w op hop => ?_) w
    · subst hl
      exact all_andThen (all_true _) (fun _ _ => rfl) fun r w' => all_closed w' result r
    · subst hop
      rfl
  cases s with
  | blocked stopper closer => rfl
  | yielding stopper closer =>
    cases stopper with
    | receiver r =>
      exact all_andThen (all_true _) (fun _ _ => rfl) fun result w' => stopped closer result w'
    | given op => rfl
  | stopping r closer s =>
    exact all_andThen (all_true _) (fun _ _ => rfl) fun result w' => stopped closer result w'
  | stoppingGiven op closer => exact fits_ending w op.ending fun r w' => stopped closer r w'
  | closing l result s =>
    exact all_andThen (all_true _) (fun _ _ => rfl) fun r w' => all_closed w' result r
  | closingGiven op result => exact fits_ending w op.ending fun r w' => all_closed w' result r

theorem spares_abandon (l : Nat) (f : Failure) : w.Spares (some l) (App.abandon l f w).1 :=
  spares_andThen (spares_closingStart w l) fun _ _ => spares_of_links rfl

theorem spares_started (l : Nat) (sub : Subscription) (result : Except Failure Nat) :
    w.Spares (some l) (App.started l sub result w).1 := by
  cases result with
  | error f => exact spares_abandon w l f
  | ok r => exact spares_of_links rfl

theorem spares_subscribed (a : AppSetup) (l : Nat) (result : Except Failure Subscription) :
    w.Spares (some l) (App.subscribed a l result w).1 := by
  cases result with
  | error f => exact spares_abandon w l f
  | ok sub =>
    refine spares_andThen (spares_of_links ?_) fun r w' => spares_started w' l sub r
    exact keeps_startingStart keptByCalls_links (fun _ _ => rfl) w _

/-- An application marks no link but its own. -/
theorem spares_appResume (a : AppSetup) (s : App) : w.Spares s.link? (s.resume a w).1 := by
  cases s with
  | opening s =>
    exact spares_andThen (spares_openingResume w s) fun r w' =>
      spares_of_links (keeps_opened keptByCalls_links w' a r)
  | subscribing l s =>
    exact spares_andThen (spares_of_links (keeps_subscribingResume keptByCalls_links w _ _ s))
      fun r w' => spares_subscribed w' a l r
  | starting l sub s =>
    refine spares_andThen (spares_of_links ?_) fun r w' => spares_started w' l sub r
    exact keeps_startingResume keptByCalls_links (fun _ _ => rfl) (fun _ _ _ => rfl) w _ s
  | running s => exact spares_andThen (spares_teardownResume w s) fun _ _ => spares_of_links rfl
  | abandoning l f s =>
    exact spares_andThen (spares_closingResume w l s) fun _ _ => spares_of_links rfl

/-- The connection of a link that is opened is added behind all others. -/
theorem link_connected :
    ∃ w' p, Opening.connected w = (w', .waiting (.openingChannel w.links.length p)) ∧
      w'.links.length = w.links.length + 1 :=
  ⟨_, _, rfl, by simp [World.log, World.emit]⟩

/-- What a turn may name: the link that has been named before, or the one that it has added. -/
def Named (before : Option Nat) (w' : World) (l : Nat) : Prop :=
  before = some l ∨ (before = none ∧ l = w.links.length ∧ w'.links.length = l + 1)

/-- An opening comes to name the link that it adds. -/
theorem link_openingResume (s : Opening) :
    (s.resume w).2.All fun s' => ∀ l, s'.link? = some l → Named w s.link? (s.resume w).1 l := by
  cases s with
  | connecting p =>
    simp only [Opening.resume]
    cases ha : p.reply.answer with
    | done name =>
      rw [resolve_done ha]
      obtain ⟨w', q, hconnected, hlength⟩ :=
        link_connected (w.emit (.answered p.call (.done name)))
      rw [hconnected]
      intro l hl
      cases hl
      exact .inr ⟨rfl, rfl, hlength⟩
    | refused fault =>
      rw [resolve_refused ha]
      trivial
    | crashed payload =>
      rw [resolve_crashed ha]
      trivial
  | openingChannel l p => exact all_resolve p w (fun _ _ => trivial) fun _ _ => trivial

theorem link_abandon (l : Nat) (f : Failure) :
    (App.abandon l f w).2.All fun s => s.link? = some l :=
  all_andThen (all_true _) (fun _ _ => rfl) fun _ _ => trivial

theorem link_started (l : Nat) (sub : Subscription) (result : Except Failure Nat) :
    (App.started l sub result w).2.All fun s => s.link? = some l := by
  cases result with
  | error f => exact link_abandon w l f
  | ok r => rfl

theorem link_subscribed (a : AppSetup) (l : Nat) (result : Except Failure Subscription) :
    (App.subscribed a l result w).2.All fun s => s.link? = some l := by
  cases result with
  | error f => exact link_abandon w l f
  | ok sub =>
    exact all_andThen (all_true _) (fun _ _ => rfl) fun r w' => link_started w' l sub r

/-- An application comes to name the link that it adds, and keeps to it. -/
theorem link_appResume (a : AppSetup) (s : App) :
    (s.resume a w).2.All fun s' => ∀ l, s'.link? = some l → Named w s.link? (s.resume a w).1 l := by
  have keeps : ∀ {p : Progress App (Except Failure Stats)} {w' : World} {l : Nat},
      s.link? = some l → p.All (fun s' => s'.link? = some l) →
      p.All fun s' => ∀ l, s'.link? = some l → Named w s.link? w' l :=
    fun hs hp => hp.mono fun s' hs' l hl => .inl (hs.trans (hs'.symm.trans hl))
  cases s with
  | opening s =>
    cases s with
    | connecting p =>
      have hopening := link_openingResume w (.connecting p)
      simp only [App.resume]
      cases ha : p.reply.answer with
      | done name =>
        obtain ⟨s', hs'⟩ : ∃ s', ((Opening.connecting p).resume w).2 = .waiting s' := by
          rw [Opening.resume, resolve_done ha]
          exact ⟨_, rfl⟩
        rw [hs'] at hopening
        rw [Turn.andThen_waiting hs']
        exact hopening
      | refused fault =>
        rw [Opening.resume, resolve_refused ha]
        trivial
      | crashed payload =>
        rw [Opening.resume, resolve_crashed ha]
        trivial
    | openingChannel l p =>
      simp only [App.resume, Opening.resume, resolve_andThen]
      exact keeps rfl (all_resolve p w (fun _ _ => rfl) fun _ _ => trivial)
  | subscribing l s =>
    exact keeps rfl (all_andThen (all_true _) (fun _ _ => rfl) fun r w' => link_subscribed w' a l r)
  | starting l sub s =>
    exact keeps rfl (all_andThen (all_true _) (fun _ _ => rfl) fun r w' => link_started w' l sub r)
  | running s =>
    refine all_andThen (link_teardownResume w s) (fun s' hs' l hl => ?_) fun _ _ => trivial
    exact .inl (hs'.symm.trans hl)
  | abandoning l f s =>
    exact keeps rfl (all_andThen (all_true _) (fun _ _ => rfl) fun _ _ => trivial)

/-- Where a turn leaves an application early, it has marked no link. -/
theorem spares_of_early {a : AppSetup} {s s' : App} {w' : World}
    (h : s.resume a w = (w', .waiting s')) (early : s'.isEarly = true) : w.Spares none w' := by
  have hbefore := early_appResume w a s
  rw [h] at hbefore
  obtain ⟨hearly, hstages⟩ := hbefore early
  -- the operation that comes first marks nothing, and what follows it may only if it is the end
  have follows : ∀ {σ ρ : Type} {t : Turn σ ρ} {embed : σ → App}
      {next : ρ → World → Turn App (Except Failure Stats)},
      t.andThen embed next = (w', .waiting s') → w.Spares none t.1 →
      (∀ r w₁, next r w₁ = (w', .waiting s') → w₁.Spares none w') → w.Spares none w' := by
    intro σ ρ t embed next ht hfirst hnext
    obtain ⟨w₁, p⟩ := t
    cases p with
    | waiting st =>
      cases ht
      exact hfirst
    | finished r => exact hfirst.trans (hnext r w₁ ht)
    | crashed payload => cases ht
  have abandon : ∀ {l : Nat} {f : Failure} {w₁ : World},
      App.abandon l f w₁ ≠ (w', .waiting s') := by
    intro l f w₁ ht
    have late : (App.abandon l f w₁).2.All fun s => s.isEarly = false :=
      all_andThen (all_true _) (fun _ _ => rfl) fun _ _ => trivial
    rw [ht] at late
    have hlate : s'.isEarly = false := late
    rw [early] at hlate
    cases hlate
  have started : ∀ {l : Nat} {sub : Subscription} {r : Except Failure Nat} {w₁ : World},
      App.started l sub r w₁ = (w', .waiting s') → w₁.Spares none w' := by
    intro l sub r w₁ ht
    cases r with
    | error f => exact absurd ht abandon
    | ok r =>
      cases ht
      exact spares_emit w₁ _
  cases s with
  | opening s =>
    refine follows h (spares_openingResume w s) fun r w₁ ht => ?_
    rw [show w' = (App.opened a r w₁).1 from congrArg Prod.fst ht.symm]
    exact spares_of_links (keeps_opened keptByCalls_links w₁ a r)
  | subscribing l s =>
    refine follows h (spares_of_links (keeps_subscribingResume keptByCalls_links w _ _ s))
      fun r w₁ ht => ?_
    cases r with
    | error f => exact absurd ht abandon
    | ok sub =>
      obtain ⟨st, hst⟩ := startingStart_waits w₁ (a.registration l sub)
      simp only [App.subscribed, Turn.andThen_waiting hst] at ht
      rw [show w' = (Starting.start (a.registration l sub) w₁).1 from (congrArg Prod.fst ht).symm]
      exact spares_of_links (keeps_startingStart keptByCalls_links (fun _ _ => rfl) w₁ _)
  | starting l sub s =>
    refine follows h (spares_of_links ?_) fun r w₁ ht => started ht
    exact keeps_startingResume keptByCalls_links (fun _ _ => rfl) (fun _ _ _ => rfl) w _ s
  | running s =>
    cases s with
    | blocked stopper closer => cases hstages
    | _ => cases hearly
  | abandoning l f s => cases hearly

/-! ## Jobs -/

/-- A job marks no link but the one that it names. -/
theorem spares_taskResume (t : Task) : w.Spares t.link? (t.resume w).1 := by
  have asJob : ∀ {σ β : Type} {u : Turn σ (Except Failure β)} {embed : σ → Task}
      {value : β → Value} {c : Option Nat}, w.Spares c u.1 →
      w.Spares c (u.asJob embed value).1 := fun hu =>
    spares_andThen hu fun _ _ => spares_of_links rfl
  cases t with
  | opening s => exact spares_andThen (spares_openingResume w s) fun _ _ => spares_of_links rfl
  | closing l s => exact asJob (spares_closingResume w l s)
  | declaringExchange x p =>
    exact asJob (spares_of_links (keeps_exchangeAnswered keptByCalls_links w x p))
  | declaringQueue q p =>
    exact asJob (spares_of_links (keeps_queueAnswered keptByCalls_links w q p))
  | binding b p => exact asJob (spares_of_links (keeps_bindingAnswered keptByCalls_links w b p))
  | subscribing x pattern s =>
    exact asJob (spares_of_links (keeps_subscribingResume keptByCalls_links w x pattern s))
  | starting g s =>
    exact asJob (spares_of_links
      (keeps_startingResume keptByCalls_links (fun _ _ => rfl) (fun _ _ _ => rfl) w g s))
  | stopping r s => exact asJob (spares_of_links (keeps_stoppingResume keptByCalls_links w r s))
  | acknowledging tag p =>
    exact asJob (spares_of_links (keeps_ackAnswered keptByCalls_links w tag p))
  | rejecting tag requeue p =>
    exact asJob (spares_of_links (keeps_rejectAnswered keptByCalls_links w tag requeue p))
  | cancelling tag p =>
    exact asJob (spares_of_links (keeps_cancelAnswered keptByCalls_links w tag p))
  | teardown s => exact asJob (spares_teardownResume w s)
  | app a s => exact asJob (spares_appResume w a s)
  | listening s =>
    exact asJob (spares_of_links (keeps_listeningResume keptByCalls_links (fun _ => rfl) w s))
  | program p =>
    cases p with
    | running a listener s =>
      exact spares_andThen (spares_appResume w a s) fun _ _ => spares_of_links rfl
    | joining listener result => exact spares_of_links rfl

/-- What a job names after a turn it has named before, or its turn has added. -/
theorem link_taskResume (t : Task) :
    (t.resume w).2.All fun t' => ∀ l, t'.link? = some l →
      Named w t.link? (t.resume w).1 l ∧ t'.opens = t.opens := by
  have none : ∀ {σ β : Type} {u : Turn σ (Except Failure β)} {embed : σ → Task}
      {value : β → Value} {P : Task → Nat → Prop}, (∀ s, (embed s).link? = none) →
      (u.asJob embed value).2.All fun t' => ∀ l, t'.link? = some l → P t' l := fun hs =>
    all_asJob (all_true _) fun s _ l hl => by rw [hs s] at hl; cases hl
  cases t with
  | opening s =>
    refine all_andThen (link_openingResume w s) (fun s' hs l hl => ⟨?_, rfl⟩) fun _ _ => trivial
    have hworld : ((Task.opening s).resume w).1.links = (s.resume w).1.links :=
      keeps_andThen (f := World.links) rfl fun _ _ => rfl
    rw [Named, hworld]
    exact hs l hl
  | closing l s => exact all_asJob (all_true _) fun _ _ _ hl => ⟨.inl hl, rfl⟩
  | teardown s =>
    exact all_asJob (link_teardownResume w s) fun s' hs l hl => ⟨.inl (hs.symm.trans hl), rfl⟩
  | app a s =>
    refine all_asJob (link_appResume w a s) fun s' hs l hl => ⟨?_, rfl⟩
    have hworld : ((Task.app a s).resume w).1.links = (s.resume a w).1.links :=
      keeps_asJob (f := World.links) rfl
    rw [Named, hworld]
    exact hs l hl
  | program p =>
    cases p with
    | running a listener s =>
      refine all_andThen (link_appResume w a s) (fun s' hs l hl => ⟨?_, rfl⟩)
        fun _ _ l hl => by cases hl
      have hworld : ((Task.program (.running a listener s)).resume w).1.links =
          (s.resume a w).1.links := keeps_andThen (f := World.links) rfl fun _ _ => rfl
      rw [Named, hworld]
      exact hs l hl
    | joining listener result => exact fun l hl => by cases hl
  | _ => exact none fun _ => rfl

theorem ends_resolve (p : Pending) {P : ρ → Prop} {report : Fault → LogEntry}
    {onDone : Option String → World → Turn σ ρ} {onFault : Fault → World → Turn σ ρ}
    (hd : ∀ name w', (onDone name w').2.Ends P) (hf : ∀ fault w', (onFault fault w').2.Ends P) :
    (p.resolve w report onDone onFault).2.Ends P :=
  resolve_induction (motive := fun t : Turn σ ρ => t.2.Ends P) hd hf (fun _ _ => trivial) w

/-- A job opens a link for others only if it has named it, and does nothing else. -/
theorem opened_taskResume (t : Task) :
    (t.resume w).2.Ends fun o => ∀ l, o.link? = some l → t.opens = true ∧ t.link? = some l := by
  have none : ∀ {σ β : Type} {u : Turn σ (Except Failure β)} {embed : σ → Task}
      {value : β → Value} {P : Nat → Prop}, (∀ a, Outcome.link? (.ok (value a)) = none) →
      (u.asJob embed value).2.Ends fun o => ∀ l, o.link? = some l → P l := by
    intro σ β u embed value P hv
    refine ends_andThen fun result w' l hl => ?_
    cases result with
    | error f => cases hl
    | ok a =>
      have hnone : Outcome.link? (.ofResult value (.ok a)) = none := hv a
      rw [hnone] at hl
      cases hl
  cases t with
  | opening s =>
    cases s with
    | connecting p =>
      simp only [Task.resume, Opening.resume, resolve_andThen]
      exact ends_resolve w p (fun _ _ => trivial) fun _ _ _ hl => by cases hl
    | openingChannel l p =>
      simp only [Task.resume, Opening.resume, resolve_andThen]
      refine ends_resolve w p (fun _ _ l' hl => ?_) fun _ _ _ hl => by cases hl
      cases hl
      exact ⟨rfl, rfl⟩
  | program p =>
    cases p with
    | running a listener s => exact ends_andThen fun _ _ => trivial
    | joining listener result => trivial
  | _ => exact none fun _ => rfl

/-- A job that is asked for marks no link but the one that is given. -/
theorem spares_begin (q : Request) (h : Handles) : w.Spares h.link (q.begin h w).1 := by
  cases q with
  | close =>
    refine onLink_induction (motive := fun t => w.Spares h.link t.1) h (fun l hl => ?_)
      fun _ => spares_of_links rfl
    rw [hl]
    exact spares_andThen (spares_closingStart w l) fun _ _ => spares_of_links rfl
  | _ =>
    exact spares_of_links (keeps_begin keptByCalls_links (fun _ _ => rfl) w _ h
      (fun _ r _ => keeps_stoppingStart keptByCalls_links (fun _ _ => rfl) w r)
      fun _ hq => by cases hq)

/-- A link that a job names has been given to it. -/
def Task.Lent (t : Task) (h : Handles) : Prop :=
  ∀ l, t.link? = some l → h.link = some l ∧ t.opens = false

/-- A job that is asked for names no link but the one that is given. -/
theorem link_begin (q : Request) (h : Handles) : (q.begin h w).2.All fun t => t.Lent h := by
  have absent : ∀ {p : Progress Task Outcome}, p.All (fun t => t.link? = none) →
      p.All fun t => t.Lent h := fun hp => hp.mono fun t ht l hl => by rw [ht] at hl; cases hl
  have link : ∀ {job : Nat → Turn Task Outcome}, (∀ l, (job l).2.All fun t => t.link? = none) →
      (Request.onLink h w job).2.All fun t => t.Lent h := fun hj => absent (fits_onLink w h hj)
  -- a job that closes the link there is, at once or in the end
  have lent : ∀ {job : Nat → Turn Task Outcome},
      (∀ l, (job l).2.All fun t => t.link? = some l ∧ t.opens = false) →
      (Request.onLink h w job).2.All fun t => t.Lent h := fun hj =>
    onLink_induction (motive := fun t : Turn Task Outcome => t.2.All fun t => t.Lent h) h
      (fun l hl => (hj l).mono fun t ht l' hl' =>
        ⟨hl.trans (ht.1.symm.trans hl'), ht.2⟩) fun _ => trivial
  cases q with
  | opening name endpoint => exact absent rfl
  | close => exact lent fun l => all_asJob (all_true _) fun _ _ => ⟨rfl, rfl⟩
  | status => trivial
  | declareExchange x => exact link fun _ => rfl
  | declareQueue q => exact link fun _ => rfl
  | bind b => exact link fun _ => rfl
  | subscribe x pattern => exact link fun _ => all_asJob (all_true _) fun _ _ => rfl
  | start queue mode prefetch kind => exact link fun _ => all_asJob (all_true _) fun _ _ => rfl
  | stop consumer =>
    exact absent (fits_onConsumer w h consumer fun r => all_asJob (all_true _) fun _ _ => rfl)
  | ack tag => exact link fun _ => rfl
  | reject tag requeue => exact link fun _ => rfl
  | cancelConsumer tag =>
    refine link fun l => ?_
    rcases cancellingStart_cases w l tag with hc | hc <;> rw [hc]
    · trivial
    · rfl
  | run consumer stop close =>
    cases stop with
    | some op =>
      cases close with
      | some op' => exact absent rfl
      | none => exact lent fun l => ⟨rfl, rfl⟩
    | none =>
      refine fits_onConsumer w h consumer fun r => ?_
      cases close with
      | some op' => exact absent rfl
      | none => exact lent fun l => ⟨rfl, rfl⟩
  | app lookup kind =>
    show (Request.startApp lookup kind w).2.All _
    simp only [Request.startApp]
    split
    · trivial
    · exact absent rfl
  | listen => exact absent rfl

end Operations

namespace System

variable {s : System} {m : Move} {n : Nat} {u : Turn Task Outcome}

theorem spares_turn (s : System) (t : Task) : s.world.Spares t.link? (s.turn t).1 :=
  turn_induction s (motive := fun u => s.world.Spares t.link? u.1) (spares_taskResume s.world t)
    fun _ _ _ _ => spares_of_links (keeps_programConclude keptByCalls_links _ _ _)

theorem link_turn (s : System) (t : Task) :
    (s.turn t).2.All fun t' => ∀ l, t'.link? = some l →
      Named s.world t.link? (s.turn t).1 l ∧ t'.opens = t.opens := by
  refine turn_induction s (motive := fun u => u.2.All fun t' => ∀ l, t'.link? = some l →
    Named s.world t.link? u.1 l ∧ t'.opens = t.opens) (link_taskResume s.world t)
    fun listener result o _ => ?_
  obtain ⟨o', ends⟩ := conclude_finished s.world result o
  rw [ends]
  trivial

theorem opened_turn (s : System) (t : Task) :
    (s.turn t).2.Ends fun o => ∀ l, o.link? = some l → t.opens = true ∧ t.link? = some l := by
  refine turn_induction s (motive := fun u => u.2.Ends fun o : Outcome => ∀ l, o.link? = some l →
    t.opens = true ∧ t.link? = some l) (opened_taskResume s.world t) fun listener result o _ => ?_
  exact conclude_induction (motive := fun _ u => u.2.Ends fun o : Outcome =>
      ∀ l, o.link? = some l → t.opens = true ∧ t.link? = some l)
    (fun _ _ _ h => h) (fun _ _ l hl => by cases hl) s.world result _

theorem link_launchTurn (s : System) (env : Environment) :
    (s.launchTurn env).2.All fun t => t.link? = none := by
  simp only [launchTurn]
  split
  · trivial
  · rfl

/-- The turn of a job marks no link but the one that the job names, or has been given. -/
theorem Takes.spares (h : s.Takes m n u) : ∃ c, s.world.Spares c u.1 ∧
    ∀ l, c = some l → (∃ t, s.jobs[n]? = some (.waiting t) ∧ t.link? = some l) ∨
      s.handles.link = some l := by
  cases h with
  | @goesOn _ t job ready => exact ⟨t.link?, s.spares_turn t, fun l hl => .inl ⟨t, job, hl⟩⟩
  | begins q => exact ⟨s.handles.link, spares_begin s.world q s.handles, fun l hl => .inr hl⟩
  | launches env =>
    refine ⟨none, spares_of_links ?_, fun l hl => by cases hl⟩
    simp only [launchTurn]
    split
    · rfl
    · exact keeps_andThen (f := World.links) (keeps_appStart keptByCalls_links _ _) fun _ _ => rfl

/-- A move in which no job has a turn marks no link. -/
theorem spares_of_no_turn (h : ∀ n u, ¬ s.Takes m n u) : s.world.Spares none (s.move m).world := by
  have kind := s.move_kind m
  generalize s.move m = s' at *
  cases kind with
  | turns takes turned => exact absurd takes (h _ _)
  | receives ready =>
    obtain ⟨played, v, -, hplays⟩ := plays_of_runnable ready
    exact spares_of_links hplays.links
  | outside jobs handles trace lifecycle registrations receivers uncalled links =>
    cases m with
    | setStatus l channel connection =>
      have hstatus := spares_modifyLink (c := none) s.world l
        (fun v => { v with channelUp := channel, connectionUp := connection }) fun _ => rfl
      exact hstatus.trans (spares_of_links links)
    | _ => exact spares_of_links links

/-- A link that a job names after its turn it has named before, or it has been given it, or the turn
has added it. -/
theorem Takes.link (h : s.Takes m n u) {t' : Task} {l : Nat} (hu : u.2 = .waiting t')
    (hl : t'.link? = some l) :
    (∃ t, s.jobs[n]? = some (.waiting t) ∧ t.link? = some l ∧ t'.opens = t.opens) ∨
    (s.handles.link = some l ∧ t'.opens = false) ∨
    (l = s.world.links.length ∧ u.1.links.length = l + 1) := by
  cases h with
  | @goesOn _ t job ready =>
    have hnamed := s.link_turn t
    rw [hu] at hnamed
    obtain ⟨hbefore | ⟨-, hfresh⟩, hopens⟩ := hnamed l hl
    · exact .inl ⟨t, job, hbefore, hopens⟩
    · exact .inr (.inr hfresh)
  | begins q =>
    have hlent := link_begin s.world q s.handles
    rw [hu] at hlent
    exact .inr (.inl (hlent l hl))
  | launches env =>
    have hnone := s.link_launchTurn env
    rw [hu] at hnone
    have hnone' : t'.link? = none := hnone
    rw [hnone'] at hl
    cases hl

/-- A job that opens a link for others has named it. -/
theorem Takes.opened (h : s.Takes m n u) : u.2.Ends fun o => ∀ l, o.link? = some l →
    ∃ t, s.jobs[n]? = some (.waiting t) ∧ t.opens = true ∧ t.link? = some l := by
  cases h with
  | @goesOn _ t job ready =>
    have hopened := s.opened_turn t
    cases hu : (s.turn t).2 with
    | finished o =>
      rw [hu] at hopened
      exact fun l hl => ⟨t, job, hopened l hl⟩
    | _ => trivial
  | begins q =>
    have hends := ends_begin s.world q s.handles
    cases hu : (q.begin s.handles s.world).2 with
    | finished o =>
      rw [hu] at hends
      have hbare : o.Bare := hends
      intro l hl
      rw [hbare.link?] at hl
      cases hl
    | _ => trivial
  | launches env =>
    simp only [launchTurn]
    split
    · exact fun l hl => by cases hl
    · trivial

/-- The jobs name only links that are there. One that a job has opened for itself is not given, and
no other job names it; and as long as an application is early its link is not marked. -/
structure Held (s : System) : Prop where
  named : ∀ (n : Nat) (t : Task) (l : Nat), s.jobs[n]? = some (.waiting t) → t.link? = some l →
    l < s.world.links.length
  given : ∀ l, s.handles.link = some l → l < s.world.links.length
  own : ∀ (n : Nat) (t : Task) (l : Nat), s.jobs[n]? = some (.waiting t) → t.opens = true →
    t.link? = some l → s.handles.link ≠ some l ∧
      ∀ (n' : Nat) (t' : Task), s.jobs[n']? = some (.waiting t') → t'.link? = some l → n' = n
  unmarked : ∀ (n : Nat) (t : Task) (b : App) (l : Nat), s.jobs[n]? = some (.waiting t) →
    t.app? = some b → b.isEarly = true → b.link? = some l → (s.world.link l).closed = false

/-- A move takes no link away. -/
theorem length_links_move (s : System) (m : Move) :
    s.world.links.length ≤ (s.move m).world.links.length := by
  by_cases hturn : ∃ n u, s.Takes m n u
  · obtain ⟨n, u, takes⟩ := hturn
    obtain ⟨c, hspares, -⟩ := takes.spares
    rw [takes.turned.world]
    exact hspares.length
  · exact (spares_of_no_turn fun n u takes => hturn ⟨n, u, takes⟩).length

/-- The link that is given after a move has been given before, or it has been opened by a job that
has ended with the move. -/
theorem given_of_move {l : Nat} (h : (s.move m).handles.link = some l) :
    s.handles.link = some l ∨ ∃ (n : Nat) (u : Turn Task Outcome) (o : Outcome) (t : Task),
      s.Takes m n u ∧ u.2 = .finished o ∧ s.jobs[n]? = some (.waiting t) ∧ t.opens = true ∧
        t.link? = some l := by
  have kind := s.move_kind m
  generalize s.move m = s' at *
  cases kind with
  | @turns _ n u _ takes turned =>
    have hopened := takes.opened
    rw [turned.handles] at h
    cases hu : u.2 with
    | finished o =>
      rw [hu] at h hopened
      rw [link_gain] at h
      cases ho : o.link? with
      | none =>
        rw [ho] at h
        exact .inl h
      | some l' =>
        rw [ho] at h
        cases h
        obtain ⟨t, job, hopens, hl⟩ := hopened l ho
        exact .inr ⟨n, u, o, t, takes, hu, job, hopens, hl⟩
    | waiting t =>
      rw [hu] at h
      exact .inl h
    | crashed payload =>
      rw [hu] at h
      exact .inl h
  | receives ready => exact .inl h
  | outside jobs handles => exact .inl (handles ▸ h)

/-- A link that a job names after a move the job has named before, or it has been given it, or its
turn has added it. -/
theorem naming_link {t' : Task} {l : Nat} (job : (s.move m).jobs[n]? = some (.waiting t'))
    (hl : t'.link? = some l) :
    (∃ t, s.jobs[n]? = some (.waiting t) ∧ t.link? = some l ∧ t'.opens = t.opens) ∨
    (s.handles.link = some l ∧ t'.opens = false) ∨
    (l = s.world.links.length ∧ (s.move m).world.links.length = l + 1 ∧ ∃ u, s.Takes m n u) := by
  rcases job_of_move job with ⟨hsame, -⟩ | ⟨-, hnew⟩ | ⟨u, takes, hu, hworld⟩
  · exact .inl ⟨t', hsame, hl, rfl⟩
  · cases hnew
    cases hl
  · rcases takes.link hu hl with hbefore | hgiven | ⟨hfresh, hlength⟩
    · exact .inl hbefore
    · exact .inr (.inl hgiven)
    · exact .inr (.inr ⟨hfresh, by rw [hworld, hlength], u, takes⟩)

/-- The link of an early application is not marked after a move. -/
theorem Held.unmarked_move (h : s.Held) {t : Task} {b : App} {l : Nat}
    (job : (s.move m).jobs[n]? = some (.waiting t)) (app : t.app? = some b)
    (early : b.isEarly = true) (hl : b.link? = some l) :
    ((s.move m).world.link l).closed = false := by
  have hlt : t.link? = some l := (Task.link?_of_app? app).trans hl
  rcases job_of_move job with ⟨hsame, hno⟩ | ⟨-, hnew⟩ | ⟨u, takes, hu, hworld⟩
  · -- whoever else has a turn does not name the link
    obtain ⟨hnot, halone⟩ := h.own n t l hsame (Task.opens_of_app? app) hlt
    rw [← h.unmarked n t b l hsame app early hl]
    by_cases hturn : ∃ n' u, s.Takes m n' u
    · obtain ⟨n', u, takes⟩ := hturn
      obtain ⟨c, hspares, hc⟩ := takes.spares
      rw [takes.turned.world]
      refine hspares.closed l fun hcl => ?_
      rcases hc l hcl with ⟨t', job', hl'⟩ | hlink
      · obtain rfl := halone n' t' job' hl'
        exact hno u takes
      · exact hnot hlink
    · exact (spares_of_no_turn fun n' u takes => hturn ⟨n', u, takes⟩).closed l (by simp)
  · cases hnew
    cases app
  · cases takes with
    | @goesOn _ t₀ job₀ ready =>
      have happ := s.app_turn t₀
      have hnamed := s.link_turn t₀
      rw [hu] at happ hnamed
      obtain ⟨a, b₀, app₀, -, hresume⟩ := happ b app
      have hearly := early_appResume s.world a b₀
      rw [hresume] at hearly
      rw [hworld, (spares_of_early _ hresume early).closed l (by simp)]
      rcases (hnamed l hlt).1 with hbefore | ⟨-, hfresh, -⟩
      · exact h.unmarked n t₀ b₀ l job₀ app₀ (hearly early).1
          ((Task.link?_of_app? app₀).symm.trans hbefore)
      · exact unmarked_of_absent (Nat.le_of_eq hfresh.symm)
    | begins q =>
      have hlent := link_begin s.world q s.handles
      rw [hu] at hlent
      have hgiven := (hlent l hlt).2
      rw [Task.opens_of_app? app] at hgiven
      cases hgiven
    | launches env =>
      have hnone := s.link_launchTurn env
      rw [hu] at hnone
      have hnone' : t.link? = none := hnone
      rw [hnone'] at hlt
      cases hlt

/-- A move keeps the invariant. -/
theorem Held.move (h : s.Held) (m : Move) : (s.move m).Held := by
  have hlength := s.length_links_move m
  -- a job that has just opened a link for others was the only one to name it
  have ended : ∀ {n n' : Nat} {u : Turn Task Outcome} {o : Outcome} {t t' : Task} {l : Nat},
      s.Takes m n u → u.2 = .finished o → s.jobs[n]? = some (.waiting t) → t.opens = true →
      t.link? = some l → s.jobs[n']? = some (.waiting t') → t'.link? = some l →
      ∀ t'', (s.move m).jobs[n']? ≠ some (.waiting t'') := by
    intro n n' u o t t' l takes hu job hopens hl job' hl' t'' hafter
    obtain rfl := (h.own n t l job hopens hl).2 n' t' job' hl'
    rw [takes.turned.job, hu] at hafter
    cases hafter
  refine ⟨?_, ?_, ?_, fun n t b l job => h.unmarked_move job⟩
  · intro n t' l job hl
    rcases naming_link job hl with ⟨t, hold, hlt, -⟩ | ⟨hgiven, -⟩ | ⟨-, hmore, -⟩
    · exact Nat.lt_of_lt_of_le (h.named n t l hold hlt) hlength
    · exact Nat.lt_of_lt_of_le (h.given l hgiven) hlength
    · omega
  · intro l hl
    rcases given_of_move hl with hgiven | ⟨n, u, o, t, -, -, job, -, hlt⟩
    · exact Nat.lt_of_lt_of_le (h.given l hgiven) hlength
    · exact Nat.lt_of_lt_of_le (h.named n t l job hlt) hlength
  · intro n t' l job hopens hl
    rcases naming_link job hl with ⟨t, hold, hlt, hsame⟩ | ⟨-, hlent⟩ | ⟨hfresh, -, u, takes⟩
    · rw [hsame] at hopens
      obtain ⟨hnot, halone⟩ := h.own n t l hold hopens hlt
      refine ⟨fun hgiven => ?_, fun n' t'' job' hl' => ?_⟩
      · rcases given_of_move hgiven with hbefore | ⟨n', u, o, t₁, takes, hu, job₁, hopens₁, hl₁⟩
        · exact hnot hbefore
        · exact ended takes hu job₁ hopens₁ hl₁ hold hlt t' job
      · rcases naming_link job' hl' with ⟨t₂, hold', hlt', -⟩ | ⟨hgiven, -⟩ | ⟨hfresh, -⟩
        · exact halone n' t₂ hold' hlt'
        · exact absurd hgiven hnot
        · have := h.named n t l hold hlt
          omega
    · rw [hlent] at hopens
      cases hopens
    · refine ⟨fun hgiven => ?_, fun n' t'' job' hl' => ?_⟩
      · rcases given_of_move hgiven with hbefore | ⟨n', u', o, t₁, -, -, job₁, -, hl₁⟩
        · have := h.given l hbefore
          omega
        · have := h.named n' t₁ l job₁ hl₁
          omega
      · rcases naming_link job' hl' with ⟨t₂, hold', hlt', -⟩ | ⟨hgiven, -⟩ | ⟨-, -, u', takes'⟩
        · have := h.named n' t₂ l hold' hlt'
          omega
        · have := h.given l hgiven
          omega
        · exact (takes'.unique takes).1

/-- So does a whole history. -/
theorem Held.after (held : s.Held) (h : List Move) : (s.after h).Held := by
  induction h using List.reverseRecOn with
  | nil => exact held
  | append_singleton h m ih =>
    rw [after_concat]
    exact ih.move m

/-- The invariant holds in every reachable system. -/
theorem held_after (hjobs : s.jobs = [])
    (hgiven : ∀ l, s.handles.link = some l → l < s.world.links.length) (h : List Move) :
    (s.after h).Held := by
  have absent : ∀ (n : Nat) (t : Task), s.jobs[n]? ≠ some (.waiting t) := by simp [hjobs]
  exact Held.after ⟨fun n t _ job => absurd job (absent n t), hgiven,
    fun n t _ job => absurd job (absent n t), fun n t _ _ job => absurd job (absent n t)⟩ h

end System

end TopicWorker
