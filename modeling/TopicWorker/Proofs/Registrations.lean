import Mathlib.Data.List.Nodup
import TopicWorker.Proofs.Following

/-!
# Registrations

A registration counts itself and asks the broker for a consumer under a tag made of its
number. So tags are never used twice, and a receiver, which is opened when its registration
is answered, can be traced back to the one call that asked for it, with the queue and the
options it was asked for with.

## Main definitions

* `consumes`: the consumers that have been asked for, by a trace.
* `Turn.Registers`: a turn asks for one more consumer, or for none.

## Main results

* `consumerTag_inj`: tags tell registrations apart.
* `System.tags_after`: the consumers asked for carry the tags of their numbers.
* `System.registered_after`: every receiver has been asked for, in its mode and under its tag.
-/

namespace TopicWorker

variable {σ τ ρ ρ' α : Type}

/-- Tags tell registrations apart. -/
theorem consumerTag_inj {m n : Nat} (h : consumerTag m = consumerTag n) : m = n := by
  have hrepr : Nat.repr m = Nat.repr n := (String.append_right_inj _).mp h
  have hdigits : Nat.toDigits 10 m = Nat.toDigits 10 n := by
    rw [← Nat.toList_repr, ← Nat.toList_repr, hrepr]
  rw [← Nat.ofDigitChars_ten_toDigits (n := m), hdigits, Nat.ofDigitChars_ten_toDigits]

/-- The consumers that have been asked for: queue, tag and options. -/
def consumes (trace : List Event) : List (String × String × ConsumeOptions) :=
  trace.filterMap fun
    | .called (.basicConsume queue tag options) => some (queue, tag, options)
    | _ => none

@[simp] theorem consumes_append (l l' : List Event) :
    consumes (l ++ l') = consumes l ++ consumes l' := by
  simp [consumes]

/-- What is done without calling for a consumer asks for none. -/
theorem consumes_eq_nil {l : List Event}
    (h : ∀ c, .called c ∈ l → c.method ≠ .basicConsume) : consumes l = [] := by
  refine List.filterMap_eq_nil_iff.mpr fun e he => ?_
  cases e with
  | called c =>
    cases c with
    | basicConsume queue tag options => exact absurd rfl (h _ he)
    | _ => rfl
  | _ => rfl

namespace Turn

/-- A turn that leaves the number of registrations as it is and asks for no consumer. -/
def Quiet (w : World) (pending : σ → Option Pending) (t : Turn σ ρ) : Prop :=
  t.1.registrations = w.registrations ∧
    t.2.All fun s => ∀ p, pending s = some p → p.call.method ≠ .basicConsume

/-- A turn that counts one more registration and asks for its consumer. -/
def Asks (w : World) (pending : σ → Option Pending)
    (registering : σ → Option (Registration × String)) (t : Turn σ ρ) : Prop :=
  t.1.registrations = w.registrations + 1 ∧ ∃ s p g, t.2 = .waiting s ∧ pending s = some p ∧
    registering s = some (g, consumerTag (w.registrations + 1)) ∧
    p.call = .consume g.queue (consumerTag (w.registrations + 1)) g.mode

/-- A turn asks for one more consumer, or for none. -/
def Registers (w : World) (pending : σ → Option Pending)
    (registering : σ → Option (Registration × String)) (t : Turn σ ρ) : Prop :=
  t.Quiet w pending ∨ t.Asks w pending registering

section Rules

variable {w : World} {pending : σ → Option Pending} {pending' : τ → Option Pending}
  {registering : σ → Option (Registration × String)}
  {registering' : τ → Option (Registration × String)}

/-- A turn that waits for no answer to a registration is quiet. -/
theorem quiet_of_fits {method : σ → Option Method} {t : Turn σ ρ}
    (kept : t.1.registrations = w.registrations) (fits : t.2.All (Fits pending method))
    (other : ∀ s, method s ≠ some .basicConsume) : t.Quiet w pending := by
  refine ⟨kept, ?_⟩
  obtain ⟨w', p⟩ := t
  cases p with
  | waiting s =>
    intro p hp hconsume
    have hmethod : (pending s).map (·.call.method) = method s := fits
    rw [hp, Option.map_some, hconsume] at hmethod
    exact other s hmethod.symm
  | finished r => trivial
  | crashed payload => trivial

theorem Quiet.registers {t : Turn σ ρ} (h : t.Quiet w pending) :
    t.Registers w pending registering :=
  .inl h

/-- Only the number of registrations matters of the world that a turn begins in. -/
theorem Registers.of_registrations_eq {w' : World} {t : Turn σ ρ}
    (h : t.Registers w' pending registering) (hw : w'.registrations = w.registrations) :
    t.Registers w pending registering := by
  simp only [Registers, Quiet, Asks] at h ⊢
  rw [hw] at h
  exact h

/-- A quiet turn that goes on asks for what the rest asks for. -/
theorem Quiet.andThen_registers {t : Turn σ ρ} {embed : σ → τ} {next : ρ → World → Turn τ ρ'}
    (h : t.Quiet w pending) (hp : ∀ s, pending' (embed s) = pending s)
    (hn : ∀ r w', (next r w').Registers w' pending' registering') :
    (t.andThen embed next).Registers w pending' registering' := by
  obtain ⟨w', p⟩ := t
  obtain ⟨hkept, hquiet⟩ := h
  cases p with
  | waiting s =>
    refine .inl ⟨hkept, fun p hp' => ?_⟩
    rw [hp] at hp'
    exact hquiet p hp'
  | crashed payload => exact .inl ⟨hkept, trivial⟩
  | finished r => exact (hn r w').of_registrations_eq hkept

/-- A turn that goes on with a quiet operation asks for what its first part asks for. -/
theorem Registers.andThen {t : Turn σ ρ} {embed : σ → τ} {next : ρ → World → Turn τ ρ'}
    (h : t.Registers w pending registering) (hp : ∀ s, pending' (embed s) = pending s)
    (hr : ∀ s, registering' (embed s) = registering s)
    (hn : ∀ r w', (next r w').Quiet w' pending') :
    (t.andThen embed next).Registers w pending' registering' := by
  rcases h with hquiet | ⟨hmore, s, p, g, hs, hp', hg, hcall⟩
  · exact hquiet.andThen_registers hp fun r w' => .inl (hn r w')
  · obtain ⟨w', q⟩ := t
    cases hs
    exact .inr ⟨hmore, embed s, p, g, rfl, (hp s).trans hp', (hr s).trans hg, hcall⟩

/-- Quiet parts make a quiet whole. -/
theorem Quiet.andThen {t : Turn σ ρ} {embed : σ → τ} {next : ρ → World → Turn τ ρ'}
    (h : t.Quiet w pending) (hp : ∀ s, pending' (embed s) = pending s)
    (hn : ∀ r w', (next r w').Quiet w' pending') :
    (t.andThen embed next).Quiet w pending' := by
  obtain ⟨hkept, hquiet⟩ := h
  refine ⟨?_, all_andThen hquiet (fun s hs p hp' => hs p (hp s ▸ hp')) fun r w' => (hn r w').2⟩
  exact keeps_andThen (f := World.registrations) hkept fun r w' => (hn r w').1

end Rules

end Turn

/-! ## The operations one by one -/

open Turn

section Operations

variable (w : World)

theorem quiet_openingStart (name : String) (endpoint : Endpoint) :
    (Opening.start name endpoint w).Quiet w (some ∘ Opening.pending) :=
  quiet_of_fits (keeps_openingStart keptByCalls_registrations w _ _) (fits_openingStart w _ _)
    fun s => by cases s <;> simp [Opening.method]

theorem quiet_openingResume (s : Opening) :
    (s.resume w).Quiet w (some ∘ Opening.pending) :=
  quiet_of_fits (keeps_openingResume keptByCalls_registrations (fun _ _ => rfl) w s)
    (fits_openingResume w s) fun s => by cases s <;> simp [Opening.method]

theorem quiet_closingStart (l : Nat) :
    (Closing.start l w).Quiet w (some ∘ Closing.pending) :=
  quiet_of_fits (keeps_closingStart keptByCalls_registrations (fun _ _ => rfl) w l)
    (fits_closingStart w l) fun s => by cases s <;> simp [Closing.method]

theorem quiet_closingResume (l : Nat) (s : Closing) :
    (s.resume l w).Quiet w (some ∘ Closing.pending) :=
  quiet_of_fits (keeps_closingResume keptByCalls_registrations (fun _ _ => rfl) w l s)
    (fits_closingResume w l s) fun s => by cases s <;> simp [Closing.method]

theorem quiet_subscribingStart (x : Exchange) :
    (Subscribing.start x w).Quiet w (some ∘ Subscribing.pending) :=
  quiet_of_fits (keeps_subscribingStart keptByCalls_registrations w x) (fits_subscribingStart w x)
    fun s => by cases s <;> simp [Subscribing.method]

theorem quiet_subscribingResume (x : Exchange) (pattern : String) (s : Subscribing) :
    (s.resume x pattern w).Quiet w (some ∘ Subscribing.pending) :=
  quiet_of_fits (keeps_subscribingResume keptByCalls_registrations w x pattern s)
    (fits_subscribingResume w x pattern s) fun s => by cases s <;> simp [Subscribing.method]

theorem quiet_stoppingStart (r : Nat) :
    (Stopping.start r w).Quiet w Stopping.pending? :=
  quiet_of_fits (keeps_stoppingStart keptByCalls_registrations (fun _ _ => rfl) w r)
    (fits_stoppingStart w r) fun s => by cases s <;> simp [Stopping.method?]

theorem quiet_stoppingResume (r : Nat) (s : Stopping) :
    (s.resume r w).Quiet w Stopping.pending? :=
  quiet_of_fits (keeps_stoppingResume keptByCalls_registrations w r s) (fits_stoppingResume w r s)
    fun s => by cases s <;> simp [Stopping.method?]

theorem quiet_teardownResume (s : Teardown) : (s.resume w).Quiet w Teardown.pending? := by
  refine quiet_of_fits (keeps_teardownResume keptByCalls_registrations (fun _ _ => rfl)
    (fun _ _ => rfl) (fun _ _ => rfl) w s) (fits_teardownResume w s) fun s => ?_
  cases s with
  | stopping r closer s => cases s <;> simp [Teardown.method?, Stopping.method?]
  | closing l result s => cases s <;> simp [Teardown.method?, Closing.method]
  | _ => simp [Teardown.method?]

/-- A registration counts itself in the turn in which it asks for its consumer. -/
theorem asks_register (g : Registration) :
    (Starting.register g w).Asks w (some ∘ Starting.pending) (Starting.registering? g) :=
  ⟨rfl, _, _, g, rfl, rfl, rfl, rfl⟩

theorem registers_startingStart (g : Registration) :
    (Starting.start g w).Registers w (some ∘ Starting.pending) (Starting.registering? g) := by
  simp only [Starting.start]
  split
  · refine .inl ⟨rfl, fun p hp => ?_⟩
    cases hp
    show Method.basicQos ≠ .basicConsume
    decide
  · exact .inr (asks_register w g)

theorem registers_startingResume (g : Registration) (s : Starting) :
    (s.resume g w).Registers w (some ∘ Starting.pending) (Starting.registering? g) := by
  cases s with
  | bounding p =>
    simp only [Starting.resume]
    cases ha : p.reply.answer with
    | done name =>
      rw [resolve_done ha]
      exact .inr (asks_register (w.emit (.answered p.call (.done name))) g)
    | refused fault =>
      rw [resolve_refused ha]
      exact .inl ⟨rfl, trivial⟩
    | crashed payload =>
      rw [resolve_crashed ha]
      exact .inl ⟨rfl, trivial⟩
  | registering tag p =>
    left
    constructor
    · exact keeps_resolve keptByCalls_registrations p w (fun _ _ => rfl) fun _ _ => rfl
    · exact all_resolve p w (fun _ _ => trivial) fun _ _ => trivial

theorem quiet_abandon (l : Nat) (f : Failure) : (App.abandon l f w).Quiet w App.pending? :=
  (quiet_closingStart w l).andThen (fun _ => rfl) fun _ _ => ⟨rfl, trivial⟩

theorem quiet_started (l : Nat) (sub : Subscription) (result : Except Failure Nat) :
    (App.started l sub result w).Quiet w App.pending? := by
  cases result with
  | error f => exact quiet_abandon w l f
  | ok r => exact ⟨rfl, fun p hp => by cases hp⟩

theorem registers_subscribed (a : AppSetup) (l : Nat) (result : Except Failure Subscription) :
    (App.subscribed a l result w).Registers w App.pending? (App.registering? a) := by
  cases result with
  | error f => exact (quiet_abandon w l f).registers
  | ok s =>
    exact (registers_startingStart w _).andThen (fun _ => rfl) (fun _ => rfl)
      fun r w' => quiet_started w' l s r

theorem registers_opened (a : AppSetup) (result : Except Failure Nat) :
    (App.opened a result w).Registers w App.pending? (App.registering? a) := by
  cases result with
  | error f => exact .inl ⟨rfl, trivial⟩
  | ok l =>
    exact (quiet_subscribingStart w _).andThen_registers (fun _ => rfl)
      fun r w' => registers_subscribed w' a l r

theorem registers_appStart (a : AppSetup) :
    (App.start a w).Registers w App.pending? (App.registering? a) :=
  (quiet_openingStart w _ _).andThen_registers (fun _ => rfl) fun r w' => registers_opened w' a r

theorem registers_appResume (a : AppSetup) (s : App) :
    (s.resume a w).Registers w App.pending? (App.registering? a) := by
  cases s with
  | opening s =>
    exact (quiet_openingResume w s).andThen_registers (fun _ => rfl)
      fun r w' => registers_opened w' a r
  | subscribing l s =>
    exact (quiet_subscribingResume w _ _ s).andThen_registers (fun _ => rfl)
      fun r w' => registers_subscribed w' a l r
  | starting l sub s =>
    exact (registers_startingResume w _ s).andThen (fun _ => rfl) (fun _ => rfl)
      fun r w' => quiet_started w' l sub r
  | running s =>
    exact Quiet.registers ((quiet_teardownResume w s).andThen (fun _ => rfl)
      fun _ _ => ⟨rfl, trivial⟩)
  | abandoning l f s =>
    exact Quiet.registers ((quiet_closingResume w l s).andThen (fun _ => rfl)
      fun _ _ => ⟨rfl, trivial⟩)

/-! ## Jobs -/

theorem Turn.Quiet.asJob {pending : σ → Option Pending} {t : Turn σ (Except Failure α)}
    {embed : σ → Task} {value : α → Value} (h : t.Quiet w pending)
    (hp : ∀ s, (embed s).pending? = pending s) :
    (t.asJob embed value).Registers w Task.pending? Task.registering? :=
  Quiet.registers (h.andThen hp fun _ _ => ⟨rfl, trivial⟩)

theorem Turn.Registers.asJob {pending : σ → Option Pending}
    {registering : σ → Option (Registration × String)} {t : Turn σ (Except Failure α)}
    {embed : σ → Task} {value : α → Value} (h : t.Registers w pending registering)
    (hp : ∀ s, (embed s).pending? = pending s) (hr : ∀ s, (embed s).registering? = registering s) :
    (t.asJob embed value).Registers w Task.pending? Task.registering? :=
  h.andThen hp hr fun _ _ => ⟨rfl, trivial⟩

/-- Where a call has only been answered, no consumer is asked for. -/
theorem quiet_resolve {p : Pending} {report : Fault → LogEntry} {pending : σ → Option Pending}
    {onDone : Option String → World → Turn σ (Except Failure α)}
    {onFault : Fault → World → Turn σ (Except Failure α)}
    (hd : ∀ name w', (onDone name w').Quiet w' pending)
    (hf : ∀ fault w', (onFault fault w').Quiet w' pending) :
    (p.resolve w report onDone onFault).Quiet w pending :=
  ⟨keeps_resolve keptByCalls_registrations p w (fun _ _ => (hd _ _).1) fun _ _ => (hf _ _).1,
    all_resolve p w (fun _ _ => (hd _ _).2) fun _ _ => (hf _ _).2⟩

/-- Every turn of a job asks for one more consumer, or for none. -/
theorem registers_taskResume (t : Task) :
    (t.resume w).Registers w Task.pending? Task.registering? := by
  cases t with
  | opening s =>
    exact Quiet.registers ((quiet_openingResume w s).andThen (fun _ => rfl)
      fun _ _ => ⟨rfl, trivial⟩)
  | closing l s => exact (quiet_closingResume w l s).asJob w fun _ => rfl
  | declaringExchange x p =>
    have h : Quiet w some (Declaring.exchangeAnswered x p w) :=
      quiet_resolve w (fun _ _ => ⟨rfl, trivial⟩) fun _ _ => ⟨rfl, trivial⟩
    exact h.asJob w fun _ => rfl
  | declaringQueue q p =>
    have h : Quiet w some (Declaring.queueAnswered q p w) :=
      quiet_resolve w (fun _ _ => ⟨rfl, trivial⟩) fun _ _ => ⟨rfl, trivial⟩
    exact h.asJob w fun _ => rfl
  | binding b p =>
    have h : Quiet w some (Declaring.bindingAnswered b p w) :=
      quiet_resolve w (fun _ _ => ⟨rfl, trivial⟩) fun _ _ => ⟨rfl, trivial⟩
    exact h.asJob w fun _ => rfl
  | subscribing x pattern s => exact (quiet_subscribingResume w x pattern s).asJob w fun _ => rfl
  | starting g s => exact (registers_startingResume w g s).asJob w (fun _ => rfl) fun _ => rfl
  | stopping r s => exact (quiet_stoppingResume w r s).asJob w fun _ => rfl
  | acknowledging tag p =>
    have h : Quiet w some (Settlement.ackAnswered tag p w) :=
      quiet_resolve w (fun _ _ => ⟨rfl, trivial⟩) fun _ _ => ⟨rfl, trivial⟩
    exact h.asJob w fun _ => rfl
  | rejecting tag requeue p =>
    have h : Quiet w some (Settlement.rejectAnswered tag requeue p w) :=
      quiet_resolve w (fun _ _ => ⟨rfl, trivial⟩) fun _ _ => ⟨rfl, trivial⟩
    exact h.asJob w fun _ => rfl
  | cancelling tag p =>
    have h : Quiet w some (Cancelling.answered tag p w) :=
      quiet_resolve w (fun _ _ => ⟨rfl, trivial⟩) fun _ _ => ⟨rfl, trivial⟩
    exact h.asJob w fun _ => rfl
  | teardown s => exact (quiet_teardownResume w s).asJob w fun _ => rfl
  | app a s => exact (registers_appResume w a s).asJob w (fun _ => rfl) fun _ => rfl
  | listening s =>
    have hquiet : (s.resume w).Quiet w (fun _ => none) :=
      ⟨keeps_listeningResume keptByCalls_registrations (fun _ => rfl) w s,
        by cases (s.resume w).2 <;> simp [Progress.All]⟩
    exact hquiet.asJob w fun _ => rfl
  | program s =>
    cases s with
    | running a listener s =>
      exact (registers_appResume w a s).andThen (fun _ => rfl) (fun _ => rfl)
        fun _ _ => ⟨rfl, fun p hp => by cases hp⟩
    | joining listener result => exact .inl ⟨rfl, fun p hp => by cases hp⟩

/-- The turn in which a job is asked for asks for one more consumer, or for none. -/
theorem registers_begin (q : Request) (h : Handles) :
    (q.begin h w).Registers w Task.pending? Task.registering? := by
  have ends : ∀ o, Registers (σ := Task) (ρ := Outcome) w Task.pending? Task.registering?
      (w, .finished o) := fun _ => .inl ⟨rfl, trivial⟩
  have link : ∀ {job : Nat → Turn Task Outcome},
      (∀ l, (job l).Registers w Task.pending? Task.registering?) →
      (Request.onLink h w job).Registers w Task.pending? Task.registering? := fun hj =>
    onLink_induction (motive := fun t => t.Registers w Task.pending? Task.registering?) h
      (fun l _ => hj l)
      fun _ => ends _
  have calls : ∀ {task : Task} {w' : World} {p : Pending}, w'.registrations = w.registrations →
      task.pending? = some p → p.call.method ≠ .basicConsume →
      Registers (ρ := Outcome) w Task.pending? Task.registering? (w', .waiting task) := by
    intro task w' p hkept hp hm
    refine .inl ⟨hkept, fun p' hp' => ?_⟩
    rw [hp, Option.some.injEq] at hp'
    exact hp' ▸ hm
  have waits : ∀ {task : Task}, task.pending? = none →
      Registers (ρ := Outcome) w Task.pending? Task.registering? (w, .waiting task) := by
    intro task hp
    refine .inl ⟨rfl, fun p hp' => ?_⟩
    rw [hp] at hp'
    cases hp'
  cases q with
  | opening name endpoint =>
    simp only [Request.begin]
    exact Quiet.registers ((quiet_openingStart w name endpoint).andThen (fun _ => rfl)
      fun _ _ => ⟨rfl, trivial⟩)
  | close => exact link fun l => (quiet_closingStart w l).asJob w fun _ => rfl
  | status => exact ends _
  | declareExchange x => exact link fun _ => calls rfl rfl fun hm => by cases hm
  | declareQueue q => exact link fun _ => calls rfl rfl fun hm => by cases hm
  | bind b => exact link fun _ => calls rfl rfl fun hm => by cases hm
  | subscribe x pattern => exact link fun _ => (quiet_subscribingStart w x).asJob w fun _ => rfl
  | start queue mode prefetch kind =>
    exact link fun _ => (registers_startingStart w _).asJob w (fun _ => rfl) fun _ => rfl
  | stop consumer =>
    exact onConsumer_induction (motive := fun t => t.Registers w Task.pending? Task.registering?)
      h consumer (fun r => (quiet_stoppingStart w r).asJob w fun _ => rfl) fun _ => ends _
  | ack tag => exact link fun _ => calls rfl rfl fun hm => by cases hm
  | reject tag requeue => exact link fun _ => calls rfl rfl fun hm => by cases hm
  | cancelConsumer tag =>
    refine link fun l => ?_
    rcases cancellingStart_cases w l tag with hc | hc <;> rw [hc]
    · exact ends _
    · exact calls rfl rfl fun hm => by cases hm
  | run consumer given givenClose =>
    cases given with
    | some op =>
      cases givenClose with
      | some op' => exact waits rfl
      | none => exact link fun _ => waits rfl
    | none =>
      refine onConsumer_induction (motive := fun t => t.Registers w Task.pending? Task.registering?)
        h consumer (fun r => ?_) fun _ => ends _
      cases givenClose with
      | some op' => exact waits rfl
      | none => exact link fun _ => waits rfl
  | app lookup kind =>
    show (Request.startApp lookup kind w).Registers w Task.pending? Task.registering?
    simp only [Request.startApp]
    split
    · exact .inl ⟨rfl, trivial⟩
    · exact (registers_appStart w _).asJob w (fun _ => rfl) fun _ => rfl
  | listen => exact .inl ⟨rfl, fun p hp => by cases hp⟩

end Operations

/-- A job that may complete a registration waits for its answer. -/
theorem Task.method?_of_registering {t : Task} {x : Registration × String}
    (h : t.registering? = some x) : t.method? = some .basicConsume := by
  have starting : ∀ {g : Registration} {s : Starting}, s.registering? g = some x →
      s.method = .basicConsume := by
    intro g s hs
    cases s with
    | bounding p => cases hs
    | registering tag p => rfl
  have app : ∀ {a : AppSetup} {s : App}, s.registering? a = some x →
      s.method? = some .basicConsume := by
    intro a s hs
    cases s with
    | starting l sub s => exact congrArg some (starting hs)
    | _ => cases hs
  cases t with
  | starting g s => exact congrArg some (starting h)
  | app a s => exact app h
  | program p =>
    cases p with
    | running a listener s => exact app h
    | joining listener result => cases h
  | _ => cases h

namespace System

variable {s : System}

theorem registers_turn (s : System) (t : Task) :
    (s.turn t).Registers s.world Task.pending? Task.registering? := by
  refine turn_induction s (registers_taskResume s.world t) fun listener result o _ => ?_
  obtain ⟨o', ends⟩ := conclude_finished s.world result o
  exact .inl ⟨keeps_programConclude keptByCalls_registrations _ _ _, by rw [ends]; trivial⟩

theorem registers_launchTurn (s : System) (env : Environment) :
    (s.launchTurn env).Registers s.world Task.pending? Task.registering? := by
  simp only [launchTurn]
  split
  · exact .inl ⟨rfl, trivial⟩
  · refine Registers.andThen ((registers_appStart _ _).of_registrations_eq rfl) (fun _ => rfl)
      (fun _ => rfl) fun _ _ => ⟨rfl, fun p hp => by cases hp⟩

/-- Every turn asks for one more consumer, or for none. -/
theorem Takes.registers {m : Move} {n : Nat} {t : Turn Task Outcome} (h : s.Takes m n t) :
    t.Registers s.world Task.pending? Task.registering? := by
  cases h with
  | goesOn job ready => exact s.registers_turn _
  | begins q => exact registers_begin _ q _
  | launches env => exact s.registers_launchTurn env

/-! ## Registrations in a history -/

/-- A job that waits for the answer to a registration has asked for its consumer. -/
theorem asked_after (empty : s.jobs = []) (h : List Move) {n : Nat} {t : Task}
    {g : Registration} {tag : String} (job : (s.after h).jobs[n]? = some (.waiting t))
    (reg : t.registering? = some (g, tag)) :
    (.job n, .called (.consume g.queue tag g.mode)) ∈ s.deeds h := by
  induction h using List.reverseRecOn generalizing t with
  | nil => simp [empty] at job
  | append_singleton h m ih =>
    rw [deeds_concat]
    rw [after_concat] at job
    rcases job_of_move job with ⟨hsame, -⟩ | ⟨-, hnew⟩ | ⟨u, htakes, hu, hworld⟩
    · exact List.mem_append_left _ (ih hsame reg)
    · cases hnew
      cases reg
    · refine List.mem_append_right _ ?_
      rcases htakes.registers with ⟨-, hquiet⟩ | ⟨-, t', p, g', ht', hp, hg, hcall⟩
      · have hfits := htakes.fits.of_waiting hu
        obtain ⟨p, hp, hmethod⟩ := Option.map_eq_some_iff.mp
          (hfits.trans (Task.method?_of_registering reg))
        exact absurd hmethod (hquiet.of_waiting hu p hp)
      · rw [hu] at ht'
        cases ht'
        rw [reg, Option.some.injEq, Prod.mk.injEq] at hg
        obtain ⟨rfl, rfl⟩ := hg
        rw [← hcall]
        exact called_of_takes htakes hworld hu hp

/-- Every receiver has been asked for by a job, in its mode and under its tag. -/
theorem registered_after (receivers : s.world.receivers = []) (jobs : s.jobs = [])
    (h : List Move) {r : Nat} (hr : r < (s.after h).world.receivers.length) :
    ∃ n queue, (.job n, .called (.consume queue ((s.after h).world.receiver r).tag
      ((s.after h).world.receiver r).mode)) ∈ s.deeds h := by
  refine receiver_induction receivers (motive := fun h v =>
    ∃ n queue, (.job n, .called (.consume queue v.tag v.mode)) ∈ s.deeds h) ?_ ?_ h hr
  · intro h n t g tag hjob hreg _ _
    refine ⟨n, g.queue, ?_⟩
    rw [deeds_concat]
    exact List.mem_append_left _ (asked_after jobs h hjob hreg)
  · intro h m v v' _ hv hundergoes
    obtain ⟨n, queue, hcalled⟩ := hv
    obtain ⟨htag, -, hmode, -⟩ := hundergoes.frame
    refine ⟨n, queue, ?_⟩
    rw [deeds_concat, htag, hmode]
    exact List.mem_append_left _ hcalled

/-- A receive loop asks for no consumer. -/
theorem consumes_of_steps {v v' : Receiver} {news : List Event} (steps : v.Steps (beats news) v') :
    consumes news = [] := by
  refine consumes_eq_nil fun c hc => ?_
  have hplayed : .called c ∈ beats news := List.mem_filterMap.mpr ⟨_, hc, rfl⟩
  obtain ⟨d, result, hsettlement⟩ := steps.settlement hplayed
  intro hmethod
  cases hm : v.mode with
  | auto =>
    rw [hm] at hsettlement
    cases hsettlement
  | manual requeue =>
    rw [hm] at hsettlement
    cases result <;> cases hsettlement <;> cases hmethod

/-- A turn asks for the consumer whose answer it waits for, if any. -/
theorem consumes_turn {stages : List Lifecycle} {heard : Option Pending} {told : List Event}
    {p : Progress Task Outcome} (htold : ∀ e ∈ told, e.Told stages) :
    consumes ((heard.map Pending.heard).toList ++ told ++ p.calls Task.pending?) =
      consumes (p.calls Task.pending?) := by
  have hheard : consumes (heard.map Pending.heard).toList = [] := by
    cases heard <;> rfl
  have hnone : consumes told = [] := by
    refine consumes_eq_nil fun c hc => ?_
    exact (htold _ hc).elim
  rw [consumes_append, consumes_append, hheard, hnone]
  rfl

/-- A move asks for one more consumer, or for none. -/
theorem consumes_move (s : System) (m : Move) :
    ∃ news, (s.move m).world.trace = s.world.trace ++ news ∧
      (((s.move m).world.registrations = s.world.registrations ∧ consumes news = []) ∨
        ((s.move m).world.registrations = s.world.registrations + 1 ∧ ∃ queue options,
          consumes news = [(queue, consumerTag (s.world.registrations + 1), options)])) := by
  have kind := s.move_kind m
  generalize s.move m = s' at *
  cases kind with
  | @turns _ n t _ takes turned =>
    obtain ⟨stages, heard, told, htold, htrace⟩ := takes.speaks
    refine ⟨_, turned.world ▸ htrace, ?_⟩
    rw [consumes_turn htold, turned.world]
    rcases takes.registers with ⟨hkept, hquiet⟩ | ⟨hmore, task, p, g, ht, hp, -, hcall⟩
    · refine .inl ⟨hkept, consumes_eq_nil fun c hc => ?_⟩
      cases hprogress : t.2 with
      | waiting task =>
        rw [hprogress] at hquiet hc
        obtain ⟨p, hp, hcall⟩ := Option.map_eq_some_iff.mp (Option.mem_toList.mp hc)
        cases hcall
        exact hquiet p hp
      | finished o => simp [hprogress, Progress.calls] at hc
      | crashed payload => simp [hprogress, Progress.calls] at hc
    · refine .inr ⟨hmore, g.queue, { noAck := g.mode.isAuto, exclusive := true }, ?_⟩
      simp [ht, Progress.calls, hp, hcall, consumes, Call.consume]
  | receives ready =>
    obtain ⟨played, v, hsteps, hplays⟩ := plays_of_runnable ready
    obtain ⟨news, htrace, hb, -⟩ := hplays.trace
    rw [← hb] at hsteps
    exact ⟨news, htrace, .inl ⟨hplays.registrations, consumes_of_steps hsteps⟩⟩
  | outside jobs handles trace lifecycle registrations =>
    exact ⟨[], by simp [trace], .inl ⟨registrations, rfl⟩⟩

/-- The consumers that have been asked for carry the tags of their numbers. -/
theorem tags_after (trace : s.world.trace = []) (count : s.world.registrations = 0)
    (h : List Move) :
    (consumes (s.after h).world.trace).map (·.2.1) =
      (List.range (s.after h).world.registrations).map fun n => consumerTag (n + 1) := by
  induction h using List.reverseRecOn with
  | nil => simp [trace, count, consumes]
  | append_singleton h m ih =>
    obtain ⟨news, htrace, hnews⟩ := (s.after h).consumes_move m
    rw [after_concat, htrace, consumes_append, List.map_append, ih]
    rcases hnews with ⟨hkept, hnone⟩ | ⟨hmore, queue, options, hone⟩
    · rw [hkept, hnone]
      simp
    · rw [hmore, hone, List.range_succ]
      simp

/-- No tag is asked for twice. -/
theorem nodup_tags (trace : s.world.trace = []) (count : s.world.registrations = 0)
    (h : List Move) : ((consumes (s.after h).world.trace).map (·.2.1)).Nodup := by
  rw [tags_after trace count]
  refine List.Nodup.map ?_ List.nodup_range
  intro m n hmn
  have := consumerTag_inj hmn
  omega

end System

end TopicWorker
