import TopicWorker.Proofs.Stages

/-!
# What makes an application fail

An application yields its counters or a failure, and which of the two it is depends on the answers
to its own calls alone. A call by which it starts up, or by which it closes its link, spoils the
result when it is refused. The cancellation of the consumer does not, and the deliveries are no
business of the application at all. Only a receive loop that has died makes an application fail
without a refusal, and that takes a broker client that breaks down.

## Main definitions

* `Method.decides`: whether a refusal of a method spoils the result.
* `Event.spoils`: an answer that does.
* `App.sound?`: whether everything has gone well up to a stage.
* `Progress.Sound`: whether everything has gone well, by how far an operation has come.

## Main results

* `sound_appResume`: with every turn an application is sound as long as it has been and no answer
  has spoilt it.
-/

namespace TopicWorker

variable {σ τ ρ α β : Type}

/-- Whether it decides on the result of an application that a call of a method succeeds. -/
def Method.decides : Method → Bool
  | basicCancel | basicAck | basicReject => false
  | _ => true

/-- A refusal that decides. -/
def Event.spoils : Event → Bool
  | answered c (.refused _) => c.method.decides
  | _ => false

/-- Whether an operation is sound: at its stages as they say, at its end if there is no failure. An
operation that has died has died of something. -/
def Progress.Sound (sound? : σ → Option Bool) (fatal : Option String → Prop) (b : Bool) :
    Progress σ (Except Failure α) → Prop
  | .waiting s => sound? s = some b
  | .finished r => r.isOk = b
  | .crashed payload => fatal payload

/-- The broker client breaks down in the call whose answer is waited for. -/
def Breaks (p : Option Pending) (payload : Option String) : Prop :=
  ∃ q, p = some q ∧ q.reply.answer = .crashed payload

/-! ## Stages -/

/-- A closing is sound as long as the channel has not failed to close. -/
def Closing.sound : Closing → Bool
  | channel _ => true
  | connection failure _ => failure.isNone

/-- A teardown over a receiver and a link is sound until closing or stopping has failed. Nothing is
said of one over given operations. -/
def Teardown.sound? : Teardown → Option Bool
  | blocked (.receiver _) (.link _) | yielding (.receiver _) (.link _) | stopping _ (.link _) _ =>
    some true
  | closing _ stopped s => some (stopped.isOk && s.sound)
  | _ => none

/-- An application is sound until a step of its startup has failed or its teardown is not. -/
def App.sound? : App → Option Bool
  | opening _ | subscribing _ _ | starting _ _ _ => some true
  | running s => s.sound?
  | abandoning _ _ _ => some false

/-! ## Rules -/

section Rules

variable {f : σ → Option Bool} {g : τ → Option Bool} {fatal : Option String → Prop} {b c : Bool}

theorem sound_andThen {t : Turn σ (Except Failure α)} {embed : σ → τ}
    {next : Except Failure α → World → Turn τ (Except Failure β)} (ht : t.2.Sound f fatal b)
    (he : ∀ s, f s = some b → g (embed s) = some c)
    (hn : ∀ r w, r.isOk = b → (next r w).2.Sound g fatal c) :
    (t.andThen embed next).2.Sound g fatal c := by
  obtain ⟨w, p⟩ := t
  cases p with
  | waiting s => exact he s ht
  | finished r => exact hn r w ht
  | crashed payload => exact ht

/-- An answer that decides keeps its operation sound unless it is a refusal. -/
theorem sound_resolve {p : Pending} {w : World} {report : Fault → LogEntry}
    {onDone : Option String → World → Turn σ (Except Failure α)}
    {onFault : Fault → World → Turn σ (Except Failure α)} (decides : p.call.method.decides = true)
    (hd : ∀ name w', (onDone name w').2.Sound f (Breaks (some p)) b)
    (hf : ∀ fault w', (onFault fault w').2.Sound f (Breaks (some p)) false) :
    (p.resolve w report onDone onFault).2.Sound f (Breaks (some p)) (b && !p.heard.spoils) := by
  cases ha : p.reply.answer with
  | done name =>
    rw [resolve_done ha]
    simpa [Pending.heard, Event.spoils, ha] using hd name _
  | refused fault =>
    rw [resolve_refused ha]
    simpa [Pending.heard, Event.spoils, ha, decides] using hf fault _
  | crashed payload =>
    rw [resolve_crashed ha]
    exact ⟨p, rfl, ha⟩

/-- A stage that waits for an answer that decides has made a call that decides. -/
theorem decides_of_fits {pending : σ → Pending} {method : σ → Method} {s : σ}
    (fits : Fits (some ∘ pending) (some ∘ method) s) (decides : (method s).decides = true) :
    (pending s).call.method.decides = true := by
  have same : (pending s).call.method = method s := Option.some.inj fits
  rw [same, decides]

end Rules

/-! ## Turns -/

section Turns

variable {fatal : Option String → Prop} (w : World)

/-- While an operation goes on that has nothing to tell it is sound. -/
def always : σ → Option Bool := fun _ => some true

theorem sound_openingResume {s : Opening}
    (fits : Fits (some ∘ Opening.pending) (some ∘ Opening.method) s) :
    (s.resume w).2.Sound always (Breaks (some s.pending)) (true && !s.pending.heard.spoils) := by
  have decides := decides_of_fits fits (by cases s <;> rfl)
  cases s with
  | connecting p => exact sound_resolve decides (fun _ _ => rfl) fun _ _ => rfl
  | openingChannel l p => exact sound_resolve decides (fun _ _ => rfl) fun _ _ => rfl

theorem sound_conclude (failure : Option Failure) :
    (Closing.conclude failure w).2.Sound (some ∘ Closing.sound) fatal failure.isNone := by
  cases failure <;> rfl

theorem sound_closeConnection (l : Nat) (failure : Option Failure) :
    (Closing.closeConnection l failure w).2.Sound (some ∘ Closing.sound) fatal failure.isNone := by
  simp only [Closing.closeConnection]
  split
  · rfl
  · exact sound_conclude w failure

theorem sound_closingStart (l : Nat) :
    (Closing.start l w).2.Sound (some ∘ Closing.sound) fatal true := by
  unfold Closing.start
  split
  · rfl
  · dsimp only
    split
    · rfl
    · exact sound_closeConnection _ l none

theorem sound_closingResume (l : Nat) {s : Closing}
    (fits : Fits (some ∘ Closing.pending) (some ∘ Closing.method) s) :
    (s.resume l w).2.Sound (some ∘ Closing.sound) (Breaks (some s.pending))
      (s.sound && !s.pending.heard.spoils) := by
  have decides := decides_of_fits fits (by cases s <;> rfl)
  cases s with
  | channel p =>
    exact sound_resolve decides (fun _ w' => sound_closeConnection _ l none)
      fun fault w' => sound_closeConnection w' l (some (Failure.closing fault.message))
  | connection failure p =>
    refine sound_resolve decides (fun _ w' => sound_conclude _ failure) fun fault w' => ?_
    have hfailed : (failure <|> some (Failure.closing fault.message)).isNone = false := by
      cases failure <;> rfl
    exact hfailed ▸ sound_conclude w' _

theorem sound_subscribingResume (x : Exchange) (pattern : String) {s : Subscribing}
    (fits : Fits (some ∘ Subscribing.pending) (some ∘ Subscribing.method) s) :
    (s.resume x pattern w).2.Sound always (Breaks (some s.pending))
      (true && !s.pending.heard.spoils) := by
  have decides := decides_of_fits fits (by cases s <;> rfl)
  cases s with
  | exchange p =>
    simp only [Subscribing.resume, Declaring.exchangeAnswered, resolve_andThen]
    exact sound_resolve decides (fun _ _ => rfl) fun _ _ => rfl
  | queue p =>
    simp only [Subscribing.resume, Declaring.queueAnswered, resolve_andThen]
    exact sound_resolve decides (fun _ _ => rfl) fun _ _ => rfl
  | binding sub p =>
    simp only [Subscribing.resume, Declaring.bindingAnswered, resolve_andThen]
    exact sound_resolve decides (fun _ _ => rfl) fun _ _ => rfl

theorem sound_startingStart (g : Registration) :
    (Starting.start g w).2.Sound always fatal true := by
  simp only [Starting.start]
  split <;> rfl

theorem sound_startingResume (g : Registration) {s : Starting}
    (fits : Fits (some ∘ Starting.pending) (some ∘ Starting.method) s) :
    (s.resume g w).2.Sound always (Breaks (some s.pending)) (true && !s.pending.heard.spoils) := by
  have decides := decides_of_fits fits (by cases s <;> rfl)
  cases s with
  | bounding p => exact sound_resolve decides (fun _ _ => rfl) fun _ _ => rfl
  | registering tag p => exact sound_resolve decides (fun _ _ => rfl) fun _ _ => rfl

theorem sound_stoppingStart (r : Nat) : (Stopping.start r w).2.Sound always fatal true := by
  cases hj : (w.receiver r).joinable with
  | false =>
    rw [stoppingStart_of_not_joinable hj]
    rfl
  | true => rcases stoppingStart_of_joinable hj with h | h <;> rw [h] <;> rfl

/-- Nothing spoils a stop but a loop that has died: a cancellation that is refused does not. -/
theorem sound_stoppingResume (r : Nat) (s : Stopping)
    (alive : ∀ payload, (w.receiver r).loop ≠ .crashed payload) :
    (s.resume r w).2.Sound always (Breaks s.pending?) true := by
  cases s with
  | cancelling p =>
    simp only [Stopping.resume, Cancelling.answered, resolve_andThen]
    cases ha : p.reply.answer with
    | done name =>
      rw [resolve_done ha]
      rfl
    | refused fault =>
      rw [resolve_refused ha]
      rfl
    | crashed payload =>
      rw [resolve_crashed ha]
      exact ⟨p, rfl, ha⟩
  | joining =>
    simp only [Stopping.resume, Stopping.joined]
    cases hloop : (w.receiver r).loop with
    | crashed payload => exact absurd hloop (alive payload)
    | _ => rfl

theorem sound_closed (stopped : Except Failure Stats) (result : Except Failure Unit) :
    (Teardown.closed stopped result w).2.Sound Teardown.sound? fatal
      (stopped.isOk && result.isOk) := by
  cases stopped <;> cases result <;> rfl

/-- What has been stopped well may still fail to close. -/
theorem sound_stopped (l : Nat) (result : Except Failure Stats) :
    (Teardown.stopped (.link l) result w).2.Sound Teardown.sound? fatal result.isOk := by
  refine stopped_induction (motive := fun _ t => t.2.Sound Teardown.sound? fatal result.isOk)
    (fun _ _ _ h => h) (fun w l' _ => ?_) (fun w op hop => by cases hop) w
  refine sound_andThen (sound_closingStart w l') (fun s hs => ?_) fun r w' hr => ?_
  · rw [Teardown.sound?, Option.some.inj hs, Bool.and_true]
  · have hclosed := @sound_closed fatal w' result r
    rwa [hr, Bool.and_true] at hclosed

/-- The answer that a stage waits for spoils what is under way. -/
def spoilt (p : Option Pending) : Bool := p.any fun p => p.heard.spoils

theorem sound_teardownResume {s : Teardown} {b : Bool} (fits : Fits Teardown.pending?
    Teardown.method? s) (alive : ∀ r payload, (w.receiver r).loop ≠ .crashed payload)
    (sound : s.sound? = some b) :
    (s.resume w).2.Sound Teardown.sound? (Breaks s.pending?) (b && !spoilt s.pending?) := by
  cases s with
  | blocked stopper closer =>
    cases stopper <;> cases closer <;> cases sound
    rfl
  | yielding stopper closer =>
    cases stopper <;> cases closer <;> cases sound
    refine sound_andThen (c := true) (sound_stoppingStart _ _) (fun _ _ => rfl)
      fun result w' hr => ?_
    exact hr ▸ sound_stopped w' _ result
  | stopping r closer s =>
    cases closer <;> cases sound
    have unspoilt : spoilt (Teardown.stopping r (.link ‹Nat›) s).pending? = false := by
      cases s with
      | cancelling p =>
        have hmethod : p.call.method = .basicCancel := Option.some.inj fits
        cases ha : p.reply.answer <;>
          simp [spoilt, Teardown.pending?, Stopping.pending?, Pending.heard, Event.spoils, ha,
            hmethod, Method.decides]
      | joining => rfl
    rw [unspoilt]
    refine sound_andThen (c := true) (sound_stoppingResume w r s (alive r)) (fun _ _ => rfl)
      fun result w' hr => ?_
    exact hr ▸ sound_stopped w' _ result
  | closing l stopped s =>
    cases sound
    refine sound_andThen (sound_closingResume w l fits) (fun c hc => ?_) fun r w' hr => ?_
    · rw [Teardown.sound?, Option.some.inj hc, Bool.and_assoc]
      rfl
    · have hclosed := @sound_closed (Breaks (some s.pending)) w' stopped r
      rw [hr, ← Bool.and_assoc] at hclosed
      exact hclosed
  | stoppingGiven op closer => cases sound
  | closingGiven op stopped => cases sound

theorem sound_abandon (l : Nat) (f : Failure) :
    (App.abandon l f w).2.Sound App.sound? fatal false :=
  sound_andThen (sound_closingStart w l) (fun _ _ => rfl) fun _ _ _ => rfl

theorem sound_started (l : Nat) (sub : Subscription) (result : Except Failure Nat) :
    (App.started l sub result w).2.Sound App.sound? fatal result.isOk := by
  cases result with
  | error f => exact sound_abandon w l f
  | ok r => rfl

theorem sound_subscribed (a : AppSetup) (l : Nat) (result : Except Failure Subscription) :
    (App.subscribed a l result w).2.Sound App.sound? fatal result.isOk := by
  cases result with
  | error f => exact sound_abandon w l f
  | ok sub =>
    refine sound_andThen (c := true) (sound_startingStart w _) (fun _ _ => rfl) fun r w' hr => ?_
    exact hr ▸ sound_started w' l sub r

theorem sound_opened (a : AppSetup) (result : Except Failure Nat) :
    (App.opened a result w).2.Sound App.sound? fatal result.isOk := by
  cases result <;> rfl

/-- With every turn an application is sound as long as it has been and no answer has spoilt it. -/
theorem sound_appResume (a : AppSetup) {s : App} {b : Bool} (fits : Fits App.pending? App.method? s)
    (alive : ∀ r payload, (w.receiver r).loop ≠ .crashed payload) (sound : s.sound? = some b) :
    (s.resume a w).2.Sound App.sound? (Breaks s.pending?) (b && !spoilt s.pending?) := by
  cases s with
  | opening s =>
    cases sound
    refine sound_andThen (sound_openingResume w fits) (fun _ h => h) fun r w' hr => ?_
    exact hr ▸ sound_opened w' a r
  | subscribing l s =>
    cases sound
    refine sound_andThen (sound_subscribingResume w _ _ fits) (fun _ h => h) fun r w' hr => ?_
    exact hr ▸ sound_subscribed w' a l r
  | starting l sub s =>
    cases sound
    refine sound_andThen (sound_startingResume w _ fits) (fun _ h => h) fun r w' hr => ?_
    exact hr ▸ sound_started w' l sub r
  | running s =>
    exact sound_andThen (sound_teardownResume w fits alive sound) (fun _ h => h) fun _ _ hr => hr
  | abandoning l f s =>
    cases sound
    refine sound_andThen (sound_closingResume w l fits) (fun _ _ => rfl) fun _ _ _ => rfl

end Turns

end TopicWorker
