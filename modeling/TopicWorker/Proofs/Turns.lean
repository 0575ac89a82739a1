import TopicWorker.Proofs.Attribution

/-!
# What a turn of a job adds to the trace

A job goes on from one wait to the next, and each such turn has the same shape: the answer it
has waited for, then what it tells, then the call whose answer it is going to wait for. No
turn makes two calls, and none makes a call whose answer it does not wait for. So the calls of
a job are those of the stages it goes through, one by one.

## Main definitions

* `Event.Told`: what is only told, with the stages of the lifecycle that may be published.
* `Turn.Speaks`: the shape of a turn.
* `Task.pending?` and the like: the call whose answer a stage waits for.
* `Listening.Resumes`: what a turn of a listener comes to.

## Main results

* `Listening.resumes`: it comes to nothing else.
* `speaks_taskResume`: every turn of a job has the shape.
* `speaks_begin`: so has the turn in which a job is asked for.
-/

namespace TopicWorker

variable {σ τ ρ ρ' : Type}

/-- An event by which something is only told: an entry, one of some stages of the lifecycle, or,
where stages may be published, the call of a given operation. -/
def Event.Told (stages : List Lifecycle) : Event → Prop
  | .logged _ => True
  | .stopCalled _ | .closeCalled _ => stages ≠ []
  | .published s => s ∈ stages
  | _ => False

/-- Fewer stages are told by less. -/
theorem Event.Told.mono {stages stages' : List Lifecycle} (h : stages ⊆ stages') {e : Event}
    (he : e.Told stages) : e.Told stages' := by
  have some : stages ≠ [] → stages' ≠ [] := fun hne hnil =>
    hne (List.subset_nil.mp (hnil ▸ h))
  cases e with
  | logged entry => trivial
  | published stage => exact h he
  | stopCalled stage => exact some he
  | closeCalled stage => exact some he
  | _ => exact he.elim

/-- The call that a turn ends with, if it waits for an answer. -/
def Progress.calls (pending : σ → Option Pending) : Progress σ ρ → List Event
  | .waiting s => ((pending s).map fun p => Event.called p.call).toList
  | .finished _ | .crashed _ => []

section Answers

variable {p : Pending} {report : Fault → LogEntry} {onDone : Option String → World → Turn σ ρ}
  {onFault : Fault → World → Turn σ ρ}

theorem resolve_done {name : Option String} (h : p.reply.answer = .done name) (w : World) :
    p.resolve w report onDone onFault = onDone name (w.emit (.answered p.call (.done name))) := by
  simp [Pending.resolve, h]

theorem resolve_refused {fault : Fault} (h : p.reply.answer = .refused fault) (w : World) :
    p.resolve w report onDone onFault =
      onFault fault ((w.emit (.answered p.call (.refused fault))).log (report fault)) := by
  simp [Pending.resolve, h]

theorem resolve_crashed {payload : Option String} (h : p.reply.answer = .crashed payload)
    (w : World) : p.resolve w report onDone onFault =
      (w.emit (.answered p.call (.crashed payload)), .crashed payload) := by
  simp [Pending.resolve, h]

/-- An operation that follows the answer to a call follows each of its two ways. -/
theorem resolve_andThen (w : World) (embed : σ → τ) (next : ρ → World → Turn τ ρ') :
    (p.resolve w report onDone onFault).andThen embed next =
      p.resolve w report (fun name w => (onDone name w).andThen embed next)
        fun fault w => (onFault fault w).andThen embed next := by
  cases h : p.reply.answer with
  | done name => rw [resolve_done h, resolve_done h]
  | refused fault => rw [resolve_refused h, resolve_refused h]
  | crashed payload =>
    rw [resolve_crashed h, resolve_crashed h]
    rfl

/-- What the answer to a call can lead to: its caller goes on, in one of two ways, or dies. -/
theorem resolve_induction {motive : Turn σ ρ → Prop} (hd : ∀ name w', motive (onDone name w'))
    (hf : ∀ fault w', motive (onFault fault w')) (hc : ∀ w' payload, motive (w', .crashed payload))
    (w : World) : motive (p.resolve w report onDone onFault) := by
  cases h : p.reply.answer with
  | done name => rw [resolve_done h]; exact hd _ _
  | refused fault => rw [resolve_refused h]; exact hf _ _
  | crashed payload => rw [resolve_crashed h]; exact hc _ _

end Answers

namespace Turn

/-- The shape of a turn that begins in a world: first what it has heard, then what it tells,
then its call. -/
def Speaks (stages : List Lifecycle) (pending : σ → Option Pending) (w : World)
    (heard : List Event) (t : Turn σ ρ) : Prop :=
  ∃ told, (∀ e ∈ told, e.Told stages) ∧
    t.1.trace = w.trace ++ (heard ++ told ++ t.2.calls pending)

section Shape

variable {stages stages' : List Lifecycle} {pending : σ → Option Pending}
  {pending' : τ → Option Pending} {w : World} {heard : List Event} {t : Turn σ ρ}

/-- A turn that only ends. -/
theorem speaks_finished (r : ρ) : Speaks stages pending w [] (w, .finished r) :=
  ⟨[], by simp, by simp [Progress.calls]⟩

/-- A turn that waits without having made a call. -/
theorem speaks_waiting {s : σ} (h : pending s = none) :
    Speaks (ρ := ρ) stages pending w [] (w, .waiting s) :=
  ⟨[], by simp, by simp [Progress.calls, h]⟩

/-- A turn that ends with a call. -/
theorem speaks_call (c : Call) {s : σ} (h : pending s = some (w.call c).2) :
    Speaks (ρ := ρ) stages pending w [] ((w.call c).1, .waiting s) :=
  ⟨[], by simp, by simp [Progress.calls, h, World.call]⟩

/-- Only the trace matters of the world that a turn begins in. -/
theorem Speaks.of_trace_eq {v : World} (h : t.Speaks stages pending v heard)
    (hv : v.trace = w.trace) : t.Speaks stages pending w heard := by
  obtain ⟨told, htold, htrace⟩ := h
  exact ⟨told, htold, by rw [htrace, hv]⟩

/-- Something is told before the rest of a turn. -/
theorem Speaks.emit {e : Event} (he : e.Told stages)
    (h : t.Speaks stages pending (w.emit e) []) : t.Speaks stages pending w [] := by
  obtain ⟨told, htold, htrace⟩ := h
  refine ⟨e :: told, ?_, by simp [htrace]⟩
  intro e' he'
  rcases List.mem_cons.mp he' with rfl | he'
  · exact he
  · exact htold e' he'

/-- An entry is written before the rest of a turn. -/
theorem Speaks.log {e : LogEntry} (h : t.Speaks stages pending (w.log e) []) :
    t.Speaks stages pending w [] :=
  Speaks.emit (e := .logged e) trivial h

/-- Fewer stages are published by a turn that publishes less. -/
theorem Speaks.mono (h : t.Speaks stages pending w heard) (hs : stages ⊆ stages') :
    t.Speaks stages' pending w heard := by
  obtain ⟨told, htold, htrace⟩ := h
  exact ⟨told, fun e he => (htold e he).mono hs, htrace⟩

/-- A turn that goes on with a further operation: what has been heard stays first. -/
theorem Speaks.andThen {embed : σ → τ} {next : ρ → World → Turn τ ρ'}
    (h : t.Speaks stages pending w heard) (hp : ∀ s, pending' (embed s) = pending s)
    (hn : ∀ r w', (next r w').Speaks stages pending' w' []) :
    (t.andThen embed next).Speaks stages pending' w heard := by
  obtain ⟨told, htold, htrace⟩ := h
  obtain ⟨w₁, p⟩ := t
  cases p with
  | waiting s => exact ⟨told, htold, by simpa [Turn.andThen, Progress.calls, hp] using htrace⟩
  | crashed payload => exact ⟨told, htold, by simpa [Turn.andThen, Progress.calls] using htrace⟩
  | finished r =>
    obtain ⟨more, hmore, hrest⟩ := hn r w₁
    refine ⟨told ++ more, ?_, ?_⟩
    · intro e he
      rcases List.mem_append.mp he with he | he
      · exact htold e he
      · exact hmore e he
    · simp only [Progress.calls, List.append_nil] at htrace
      simp [Turn.andThen, hrest, htrace]

/-- The answer to a call is heard before anything is told about it. -/
theorem speaks_resolve (p : Pending) {report : Fault → LogEntry}
    {onDone : Option String → World → Turn σ ρ} {onFault : Fault → World → Turn σ ρ}
    (hd : ∀ name w', (onDone name w').Speaks stages pending w' [])
    (hf : ∀ fault w', (onFault fault w').Speaks stages pending w' []) :
    (p.resolve w report onDone onFault).Speaks stages pending w
      [.answered p.call p.reply.answer] := by
  cases ha : p.reply.answer with
  | done name =>
    obtain ⟨told, htold, htrace⟩ := hd name (w.emit (.answered p.call (.done name)))
    rw [resolve_done ha]
    exact ⟨told, htold, by simpa using htrace⟩
  | refused fault =>
    obtain ⟨told, htold, htrace⟩ := (hf fault _).log (e := report fault)
      (w := w.emit (.answered p.call (.refused fault)))
    rw [resolve_refused ha]
    exact ⟨told, htold, by simpa using htrace⟩
  | crashed payload =>
    rw [resolve_crashed ha]
    exact ⟨[], by simp, by simp [Progress.calls]⟩

end Shape

end Turn

/-! ## The calls that stages wait for -/

/-- The call whose answer an opening waits for. -/
def Opening.pending : Opening → Pending
  | connecting p | openingChannel _ p => p

/-- The call whose answer a closing waits for. -/
def Closing.pending : Closing → Pending
  | channel p | connection _ p => p

/-- The call whose answer a subscription waits for. -/
def Subscribing.pending : Subscribing → Pending
  | exchange p | queue p | binding _ p => p

/-- The call whose answer a registration waits for. -/
def Starting.pending : Starting → Pending
  | bounding p | registering _ p => p

/-- The call whose answer a stop waits for, unless it waits for the loop. -/
def Stopping.pending? : Stopping → Option Pending
  | cancelling p => some p
  | joining => none

/-- The call whose answer a teardown waits for, if it waits for one. -/
def Teardown.pending? : Teardown → Option Pending
  | stopping _ _ s => s.pending?
  | closing _ _ s => some s.pending
  | blocked _ _ | yielding _ _ | stoppingGiven _ _ | closingGiven _ _ => none

/-- The call whose answer an application waits for, if it waits for one. -/
def App.pending? : App → Option Pending
  | opening s => some s.pending
  | subscribing _ s => some s.pending
  | starting _ _ s => some s.pending
  | running s => s.pending?
  | abandoning _ _ s => some s.pending

/-- The call whose answer a job waits for, if it waits for one. -/
def Task.pending? : Task → Option Pending
  | opening s => some s.pending
  | closing _ s => some s.pending
  | declaringExchange _ p | declaringQueue _ p | binding _ p => some p
  | subscribing _ _ s => some s.pending
  | starting _ s => some s.pending
  | stopping _ s => s.pending?
  | acknowledging _ p | rejecting _ _ p | cancelling _ p => some p
  | teardown s => s.pending?
  | app _ s => s.pending?
  | listening _ => none
  | program (.running _ _ s) => s.pending?
  | program (.joining _ _) => none

/-- The answer to a call, as it is heard. -/
def Pending.heard (p : Pending) : Event := .answered p.call p.reply.answer

/-- A turn makes no call but the one whose answer it waits for. -/
theorem Turn.Speaks.calls {stages : List Lifecycle} {pending : σ → Option Pending} {w : World}
    {heard : Option Pending} {t : Turn σ ρ}
    (h : t.Speaks stages pending w (heard.map Pending.heard).toList) :
    ∃ news, t.1.trace = w.trace ++ news ∧ ∀ c, .called c ∈ news →
      ∃ s p, t.2 = .waiting s ∧ pending s = some p ∧ p.call = c := by
  obtain ⟨told, htold, htrace⟩ := h
  refine ⟨_, htrace, fun c hc => ?_⟩
  rcases List.mem_append.mp hc with hc | hc
  · rcases List.mem_append.mp hc with hc | hc
    · simp [Pending.heard] at hc
    · exact (htold _ hc).elim
  · cases hp : t.2 with
    | waiting s =>
      obtain ⟨p, hpending, hcall⟩ : ∃ p, pending s = some p ∧ Event.called p.call = .called c := by
        simpa [Progress.calls, hp] using hc
      exact ⟨s, p, rfl, hpending, Event.called.inj hcall⟩
    | finished result => simp [Progress.calls, hp] at hc
    | crashed payload => simp [Progress.calls, hp] at hc

/-! ## The turns of a listener -/

/-- A listener looks for everything there may be. -/
theorem Preference.mem_order (p : Preference) (f : Finding) : f ∈ p.order := by
  obtain ⟨request, interrupt⟩ := p
  rcases f with _ | _ | _ <;> cases request <;> cases interrupt <;> decide

namespace Listening

/-- What a listener may have made of the world by looking for the termination signal: it may have
told that this is unavailable. -/
def Looked (w v : World) : Prop := v = w ∨ ∃ reason, v = w.log (terminateEntry reason)

variable {w v : World}

theorem looked_probe (w : World) : Looked w (probe w) := by
  unfold probe
  split
  · exact .inr ⟨_, rfl⟩
  · exact .inl rfl

/-- What does not see entries is as it has been. -/
theorem Looked.same {α : Type} {f : World → α} (h : Looked w v) (log : ∀ e, f (w.log e) = f w) :
    f v = f w := by
  rcases h with rfl | ⟨reason, rfl⟩
  · rfl
  · exact log _

/-- What a turn of a listener comes to. -/
inductive Resumes (w : World) : Listening → Turn Listening (Except Failure Unit) → Prop
  /-- A shutdown is requested, and this is what it has found. -/
  | released {b : Listening} {v : World} (looked : Looked w v)
    (requested : w.shutdownRequested = true) : Resumes w b (v, .finished (.ok ()))
  /-- It has found a signal. -/
  | received {b : Listening} {v : World} (looked : Looked w v) (signal : Signal)
    (arrived : w.hasArrived signal = true) : Resumes w b (Listening.received signal v)
  /-- There is no interrupt to listen for, and a request is not what it has looked for first. -/
  | unavailable {v : World} {reason : String} (looked : Looked w v)
    (missing : w.signalFaults.interrupt = some reason)
    (unseen : w.shutdownRequested = true → w.preference.request = false) :
    Resumes w .fresh (Listening.unavailable reason v)
  /-- It begins to listen. -/
  | installs {v : World} (looked : Looked w v) (unrequested : w.shutdownRequested = false)
    (available : w.signalFaults.interrupt = none) :
    Resumes w .fresh (v, .waiting (.installed w.signalFaults.terminate.isNone))
  /-- There is nothing to find yet. -/
  | waits {terminate : Bool} (nothing : ∀ f, isThere terminate w f = false) :
    Resumes w (.installed terminate) (w, .waiting (.installed terminate))

/-- What is taken is there, and where nothing is taken there is nothing. -/
theorem resumes_look {b : Listening} {terminate : Bool} (looked : Looked w v)
    (nothing : (∀ f, isThere terminate v f = false) →
      Resumes w b (v, .waiting (.installed terminate))) :
    Resumes w b (look terminate v) := by
  have same : v.shutdownRequested = w.shutdownRequested := looked.same fun _ => rfl
  have arrives : ∀ s, v.hasArrived s = w.hasArrived s := fun s =>
    looked.same (f := fun w => w.hasArrived s) fun _ => rfl
  unfold look
  split
  · rename_i found
    have there : isThere terminate v .request = true := List.find?_some found
    exact .released looked (same ▸ there)
  · rename_i signal found
    have there := List.find?_some found
    refine .received looked signal ?_
    rw [← arrives]
    cases signal with
    | interrupt => exact there
    | terminate => exact (Bool.and_eq_true_iff.mp there).2
  · rename_i found
    refine nothing fun f => ?_
    simpa using List.find?_eq_none.mp found f (v.preference.mem_order f)

theorem resumes (w : World) (b : Listening) : Resumes w b (b.resume w) := by
  have here : Looked w w := .inl rfl
  cases b with
  | installed terminate => exact resumes_look here .waits
  | fresh =>
    simp only [resume, install]
    split
    · rename_i seen
      exact .released here (Bool.and_eq_true_iff.mp seen).2
    · rename_i unseen
      have unseen : w.shutdownRequested = true → w.preference.request = false := by
        intro requested
        simpa [requested] using unseen
      split
      · rename_i reason missing
        split
        · exact .unavailable here missing unseen
        · split
          · rename_i found
            exact .received here .terminate (Bool.and_eq_true_iff.mp found).2
          · exact .unavailable (looked_probe w) missing unseen
      · rename_i available
        have looked : Looked w
            (if w.preference.interrupt && w.hasArrived .interrupt then w else probe w) := by
          split
          · exact here
          · exact looked_probe w
        generalize (if w.preference.interrupt && w.hasArrived .interrupt then w else probe w) = v
          at looked ⊢
        have same : v.shutdownRequested = w.shutdownRequested := looked.same fun _ => rfl
        rw [same]
        split
        · rename_i requested
          refine resumes_look looked fun nothing => ?_
          have none : v.shutdownRequested = false := nothing .request
          rw [same, requested] at none
          cases none
        · rename_i unrequested
          exact .installs looked (Bool.eq_false_iff.mpr unrequested) available

end Listening

/-! ## The operations one by one -/

open Turn

section Operations

variable (w : World)

theorem speaks_openingStart (name : String) (endpoint : Endpoint) :
    (Opening.start name endpoint w).Speaks [] (some ∘ Opening.pending) w [] :=
  Speaks.log (speaks_call _ rfl)

theorem speaks_openingConnected :
    (Opening.connected w).Speaks [] (some ∘ Opening.pending) w [] := by
  simp only [Opening.connected]
  refine Speaks.of_trace_eq (v := { w with links := w.links ++ [{ connectionUp := true }] }) ?_ rfl
  exact Speaks.log (Speaks.log (speaks_call _ rfl))

theorem speaks_openingResume (s : Opening) :
    (s.resume w).Speaks [] (some ∘ Opening.pending) w [s.pending.heard] := by
  cases s with
  | connecting p =>
    exact speaks_resolve p (fun _ w' => speaks_openingConnected w') fun _ _ => speaks_finished _
  | openingChannel l p =>
    refine speaks_resolve p (fun _ w' => ?_) fun _ _ => speaks_finished _
    refine Speaks.of_trace_eq (v := w'.modifyLink l fun v => { v with channelUp := true }) ?_ rfl
    exact Speaks.log (speaks_finished _)

theorem speaks_conclude (failure : Option Failure) :
    (Closing.conclude failure w).Speaks [] (some ∘ Closing.pending) w [] := by
  simp only [Closing.conclude]
  cases failure <;> exact Speaks.log (speaks_finished _)

theorem speaks_closeConnection (l : Nat) (failure : Option Failure) :
    (Closing.closeConnection l failure w).Speaks [] (some ∘ Closing.pending) w [] := by
  simp only [Closing.closeConnection]
  split
  · exact Speaks.log (speaks_call _ rfl)
  · exact speaks_conclude w failure

theorem speaks_closingStart (l : Nat) :
    (Closing.start l w).Speaks [] (some ∘ Closing.pending) w [] := by
  unfold Closing.start
  split
  · exact Speaks.log (speaks_finished _)
  · refine Speaks.of_trace_eq (v := w.modifyLink l fun v => { v with closed := true }) ?_ rfl
    dsimp only
    split
    · exact Speaks.log (speaks_call _ rfl)
    · exact speaks_closeConnection _ l none

theorem speaks_closingResume (l : Nat) (s : Closing) :
    (s.resume l w).Speaks [] (some ∘ Closing.pending) w [s.pending.heard] := by
  cases s with
  | channel p =>
    refine speaks_resolve p (fun _ w' => ?_) fun _ w' => speaks_closeConnection w' l _
    exact (speaks_closeConnection _ l none).of_trace_eq rfl
  | connection failure p =>
    refine speaks_resolve p (fun _ w' => ?_) fun _ w' => speaks_conclude w' _
    exact (speaks_conclude _ failure).of_trace_eq rfl

theorem speaks_exchangeAnswered (x : Exchange) (p : Pending) (pending : σ → Option Pending) :
    (Declaring.exchangeAnswered x p w).Speaks [] pending w [p.heard] :=
  speaks_resolve p (fun _ _ => Speaks.log (speaks_finished _)) fun _ _ => speaks_finished _

theorem speaks_queueAnswered (q : Queue) (p : Pending) (pending : σ → Option Pending) :
    (Declaring.queueAnswered q p w).Speaks [] pending w [p.heard] :=
  speaks_resolve p (fun _ _ => Speaks.log (speaks_finished _)) fun _ _ => speaks_finished _

theorem speaks_bindingAnswered (b : Binding) (p : Pending) (pending : σ → Option Pending) :
    (Declaring.bindingAnswered b p w).Speaks [] pending w [p.heard] :=
  speaks_resolve p (fun _ _ => Speaks.log (speaks_finished _)) fun _ _ => speaks_finished _

theorem speaks_subscribingStart (x : Exchange) :
    (Subscribing.start x w).Speaks [] (some ∘ Subscribing.pending) w [] :=
  Speaks.log (speaks_call _ rfl)

theorem speaks_subscribingResume (x : Exchange) (pattern : String) (s : Subscribing) :
    (s.resume x pattern w).Speaks [] (some ∘ Subscribing.pending) w [s.pending.heard] := by
  cases s with
  | exchange p =>
    refine (speaks_exchangeAnswered w x p _).andThen (fun _ => rfl) fun result w' => ?_
    rcases result with f | ⟨⟩
    · exact speaks_finished _
    · exact Speaks.log (speaks_call _ rfl)
  | queue p =>
    refine (speaks_queueAnswered w .anonymous p _).andThen (fun _ => rfl) fun result w' => ?_
    rcases result with f | name
    · exact speaks_finished _
    · exact Speaks.log (speaks_call _ rfl)
  | binding sub p =>
    refine (speaks_bindingAnswered w sub.binding p _).andThen (fun _ => rfl) fun result w' => ?_
    rcases result with f | ⟨⟩
    · exact speaks_finished _
    · exact Speaks.log (speaks_finished _)

theorem speaks_register (g : Registration) :
    (Starting.register g w).Speaks [] (some ∘ Starting.pending) w [] := by
  simp only [Starting.register]
  exact Speaks.of_trace_eq (v := { w with registrations := w.registrations + 1 })
    (speaks_call _ rfl) rfl

theorem speaks_startingStart (g : Registration) :
    (Starting.start g w).Speaks [] (some ∘ Starting.pending) w [] := by
  simp only [Starting.start]
  split
  · exact speaks_call _ rfl
  · exact speaks_register w g

theorem speaks_startingResume (g : Registration) (s : Starting) :
    (s.resume g w).Speaks [] (some ∘ Starting.pending) w [s.pending.heard] := by
  cases s with
  | bounding p =>
    exact speaks_resolve p (fun _ w' => speaks_register w' g) fun _ _ => speaks_finished _
  | registering tag p =>
    refine speaks_resolve p (fun _ w' => ?_) fun _ _ => speaks_finished _
    exact Speaks.log ((speaks_finished _).of_trace_eq rfl)

theorem speaks_ackAnswered (tag : UInt64) (p : Pending) (pending : σ → Option Pending) :
    (Settlement.ackAnswered tag p w).Speaks [] pending w [p.heard] :=
  speaks_resolve p (fun _ _ => speaks_finished _) fun _ _ => speaks_finished _

theorem speaks_rejectAnswered (tag : UInt64) (requeue : Bool) (p : Pending)
    (pending : σ → Option Pending) :
    (Settlement.rejectAnswered tag requeue p w).Speaks [] pending w [p.heard] :=
  speaks_resolve p (fun _ _ => speaks_finished _) fun _ _ => speaks_finished _

theorem speaks_cancelAnswered (tag : String) (p : Pending) (pending : σ → Option Pending) :
    (Cancelling.answered tag p w).Speaks [] pending w [p.heard] :=
  speaks_resolve p (fun _ _ => speaks_finished _) fun _ _ => speaks_finished _

/-- A cancellation does nothing, or is one call. -/
theorem cancellingStart_cases (w : World) (l : Nat) (tag : String) :
    Cancelling.start l tag w = (w, none) ∨ Cancelling.start l tag w =
      ((w.call (.basicCancel tag false)).1, some (w.call (.basicCancel tag false)).2) := by
  cases h : (w.link l).channelUp with
  | false => exact .inl (by simp [Cancelling.start, h])
  | true => exact .inr (by simp [Cancelling.start, h])

/-- A receiver whose stop has been taken charge of. -/
def Receiver.claimed (v : Receiver) : Receiver := { v with joinable := false, cancelled := true }

/-- The stop that finds a receiver joinable takes charge of it, and waits for the loop or for
the cancellation. -/
theorem stoppingStart_of_joinable {w : World} {r : Nat} (h : (w.receiver r).joinable = true) :
    Stopping.start r w = (w.modifyReceiver r Receiver.claimed, .waiting .joining) ∨
    Stopping.start r w =
      (((w.modifyReceiver r Receiver.claimed).call (.basicCancel (w.receiver r).tag false)).1,
        .waiting (.cancelling ((w.modifyReceiver r Receiver.claimed).call
          (.basicCancel (w.receiver r).tag false)).2)) := by
  rcases cancellingStart_cases (w.modifyReceiver r Receiver.claimed) (w.receiver r).link
    (w.receiver r).tag with hcancel | hcancel
  · left
    unfold Receiver.claimed at hcancel ⊢
    simp only [Stopping.start, h, if_true, hcancel]
  · right
    unfold Receiver.claimed at hcancel ⊢
    simp only [Stopping.start, h, if_true, hcancel]

/-- A later stop tells so and ends. -/
theorem stoppingStart_of_not_joinable {w : World} {r : Nat}
    (h : (w.receiver r).joinable = false) :
    Stopping.start r w =
      (w.log (receiverEntry .debug "consumer already stopped" [("tag", .text (w.receiver r).tag)]),
        .finished (.ok {})) := by
  simp [Stopping.start, h]

/-- The stop that finds a receiver joinable has to wait. -/
theorem stoppingStart_waits {w : World} {r : Nat} (h : (w.receiver r).joinable = true) :
    ∃ st, (Stopping.start r w).2 = .waiting st := by
  rcases stoppingStart_of_joinable h with h | h <;> exact ⟨_, by rw [h]⟩

theorem speaks_stoppingStart (r : Nat) :
    (Stopping.start r w).Speaks [] Stopping.pending? w [] := by
  cases hj : (w.receiver r).joinable with
  | false =>
    rw [stoppingStart_of_not_joinable hj]
    exact Speaks.log (speaks_finished _)
  | true =>
    refine Speaks.of_trace_eq (v := w.modifyReceiver r Receiver.claimed) ?_ rfl
    rcases stoppingStart_of_joinable hj with h | h <;> rw [h]
    · exact speaks_waiting rfl
    · exact speaks_call _ rfl

theorem speaks_joined (r : Nat) : (Stopping.joined r w).Speaks [] Stopping.pending? w [] := by
  simp only [Stopping.joined]
  split <;> exact Speaks.log (speaks_finished _)

theorem speaks_stoppingResume (r : Nat) (s : Stopping) :
    (s.resume r w).Speaks [] Stopping.pending? w (s.pending?.map Pending.heard).toList := by
  cases s with
  | cancelling p =>
    refine (speaks_cancelAnswered w _ p _).andThen (fun _ => rfl) fun result w' => ?_
    rcases result with f | ⟨⟩
    · exact Speaks.log (speaks_waiting rfl)
    · exact speaks_waiting rfl
  | joining => exact speaks_joined w r

theorem speaks_listeningResume (s : Listening) :
    (s.resume w).Speaks [] (fun _ => none) w [] := by
  have looked : ∀ {v : World} {t : Turn Listening (Except Failure Unit)}, Listening.Looked w v →
      t.Speaks [] (fun _ => none) v [] → t.Speaks [] (fun _ => none) w [] := by
    rintro v t (rfl | ⟨reason, rfl⟩) speaks
    · exact speaks
    · exact Speaks.log speaks
  have comes := Listening.resumes w s
  generalize s.resume w = t at comes
  cases comes with
  | released probed => exact looked probed (speaks_finished _)
  | received probed => exact looked probed (Speaks.log ((speaks_finished _).of_trace_eq rfl))
  | unavailable probed => exact looked probed (Speaks.log ((speaks_finished _).of_trace_eq rfl))
  | installs probed => exact looked probed (speaks_waiting rfl)
  | waits => exact speaks_waiting rfl

end Operations

/-! ## Teardown and application -/

/-- The stages of the lifecycle that the next turn of a teardown may publish. -/
def Teardown.stages : Teardown → List Lifecycle
  | blocked _ _ => [.shutdownRequested]
  | yielding _ _ => [.draining, .closed]
  | stopping _ _ _ | stoppingGiven _ _ | closing _ _ _ | closingGiven _ _ => [.closed]

/-- The stages of the lifecycle that the next turn of an application may publish. -/
def App.stages : App → List Lifecycle
  | running s => s.stages
  | opening _ | subscribing _ _ | starting _ _ _ | abandoning _ _ _ => []

/-- The stages of the lifecycle that the next turn of a job may publish. -/
def Task.stages : Task → List Lifecycle
  | teardown s => s.stages
  | app _ s | program (.running _ _ s) => s.stages
  | _ => []

section Compositions

variable (w : World)

/-- A transition publishes its stage and tells about it. -/
theorem Turn.Speaks.transition {stages : List Lifecycle} {pending : σ → Option Pending}
    {w : World} {t : Turn σ ρ} {s : Lifecycle} (hs : s ∈ stages)
    (h : t.Speaks stages pending (w.transition s) []) : t.Speaks stages pending w [] := by
  refine Speaks.emit (e := .published s) hs ?_
  refine Speaks.log (e := shutdownEntry .info
    ("shutdown state: " ++ w.lifecycle.label ++ " -> " ++ s.label)) ?_
  exact h.of_trace_eq rfl

theorem speaks_closed (stopped : Except Failure Stats) (result : Except Failure Unit) :
    (Teardown.closed stopped result w).Speaks [.closed] Teardown.pending? w [] := by
  refine Speaks.transition (s := .closed) (by simp) ?_
  simp only [Teardown.closed]
  split
  · exact speaks_finished _
  · exact Speaks.log (speaks_finished _)

omit w in
/-- When stopping has ended, a failure is told, and then what holds the connection is closed. -/
theorem stopped_induction {motive : World → Turn Teardown (Except Failure Stats) → Prop}
    {closer : Closer} {result : Except Failure Stats}
    (hlog : ∀ (w : World) e t, motive (w.log e) t → motive w t)
    (hlink : ∀ (w : World) l, closer = .link l → motive w
      ((Closing.start l w).andThen (.closing l result) (Teardown.closed result)))
    (hgiven : ∀ (w : World) op, closer = .given op → motive w
      (w.emit (.closeCalled w.lifecycle), .waiting (.closingGiven op result))) (w : World) :
    motive w (Teardown.stopped closer result w) := by
  cases closer with
  | link l =>
    cases result with
    | ok stats => exact hlink w l rfl
    | error f => exact hlog w _ _ (hlink _ l rfl)
  | given op =>
    cases result with
    | ok stats => exact hgiven w op rfl
    | error f => exact hlog w _ _ (hgiven _ op rfl)

theorem speaks_stopped (closer : Closer) (result : Except Failure Stats) :
    (Teardown.stopped closer result w).Speaks [.closed] Teardown.pending? w [] := by
  refine stopped_induction (motive := fun w t => t.Speaks [.closed] Teardown.pending? w [])
    (fun _ _ _ => Speaks.log) (fun w l _ => ?_) (fun w op _ => ?_) w
  · exact ((speaks_closingStart w l).mono (by simp)).andThen (fun _ => rfl)
      fun r w' => speaks_closed w' result r
  · exact Speaks.emit (e := .closeCalled w.lifecycle) (List.cons_ne_nil _ _) (speaks_waiting rfl)

theorem speaks_drain (stopper : Stopper) (closer : Closer) :
    (Teardown.drain stopper closer w).Speaks [.closed] Teardown.pending? w [] := by
  cases stopper with
  | receiver r =>
    exact ((speaks_stoppingStart w r).mono (by simp)).andThen (fun _ => rfl)
      fun result w' => speaks_stopped w' closer result
  | given op =>
    exact Speaks.emit (e := .stopCalled w.lifecycle) (List.cons_ne_nil _ _) (speaks_waiting rfl)

theorem speaks_ending {α : Type} (e : Ending α) {next : Except Failure α → World → Turn σ ρ}
    {stages : List Lifecycle} {pending : σ → Option Pending}
    (hn : ∀ r w', (next r w').Speaks stages pending w' []) :
    (e.andThen w next).Speaks stages pending w [] := by
  cases e with
  | returned result => exact hn result w
  | crashed payload => exact ⟨[], by simp, by simp [Ending.andThen, Progress.calls]⟩

theorem speaks_teardownResume (s : Teardown) :
    (s.resume w).Speaks s.stages Teardown.pending? w (s.pending?.map Pending.heard).toList := by
  cases s with
  | blocked stopper closer =>
    exact Speaks.transition (s := .shutdownRequested) (by simp [Teardown.stages])
      (speaks_waiting rfl)
  | yielding stopper closer =>
    refine Speaks.transition (s := .draining) (by simp [Teardown.stages]) ?_
    exact (speaks_drain _ stopper closer).mono (by simp [Teardown.stages])
  | stopping r closer s =>
    exact ((speaks_stoppingResume w r s).mono (by simp)).andThen (fun _ => rfl)
      fun result w' => speaks_stopped w' closer result
  | stoppingGiven op closer =>
    exact speaks_ending w op.ending (fun r w' => speaks_stopped w' closer r)
  | closing l result s =>
    exact ((speaks_closingResume w l s).mono (by simp)).andThen (fun _ => rfl)
      fun r w' => speaks_closed w' result r
  | closingGiven op result =>
    exact speaks_ending w op.ending (fun r w' => speaks_closed w' result r)

theorem speaks_abandon (l : Nat) (f : Failure) :
    (App.abandon l f w).Speaks [] App.pending? w [] :=
  (speaks_closingStart w l).andThen (fun _ => rfl) fun _ _ => speaks_finished _

theorem speaks_started (l : Nat) (subscription : Subscription) (result : Except Failure Nat) :
    (App.started l subscription result w).Speaks [] App.pending? w [] := by
  cases result with
  | error f => exact speaks_abandon w l f
  | ok r => exact Speaks.log (speaks_waiting rfl)

theorem speaks_subscribed (a : AppSetup) (l : Nat) (result : Except Failure Subscription) :
    (App.subscribed a l result w).Speaks [] App.pending? w [] := by
  cases result with
  | error f => exact speaks_abandon w l f
  | ok s =>
    exact (speaks_startingStart w _).andThen (fun _ => rfl) fun r w' => speaks_started w' l s r

theorem speaks_opened (a : AppSetup) (result : Except Failure Nat) :
    (App.opened a result w).Speaks [] App.pending? w [] := by
  cases result with
  | error f => exact speaks_finished _
  | ok l =>
    exact (speaks_subscribingStart w _).andThen (fun _ => rfl)
      fun r w' => speaks_subscribed w' a l r

theorem speaks_appStart (a : AppSetup) : (App.start a w).Speaks [] App.pending? w [] :=
  (speaks_openingStart w _ _).andThen (fun _ => rfl) fun r w' => speaks_opened w' a r

theorem speaks_appResume (a : AppSetup) (s : App) :
    (s.resume a w).Speaks s.stages App.pending? w (s.pending?.map Pending.heard).toList := by
  cases s with
  | opening s =>
    exact (speaks_openingResume w s).andThen (fun _ => rfl) fun r w' => speaks_opened w' a r
  | subscribing l s =>
    exact (speaks_subscribingResume w _ _ s).andThen (fun _ => rfl)
      fun r w' => speaks_subscribed w' a l r
  | starting l sub s =>
    exact (speaks_startingResume w _ s).andThen (fun _ => rfl) fun r w' => speaks_started w' l sub r
  | running s =>
    exact (speaks_teardownResume w s).andThen (fun _ => rfl) fun _ _ => speaks_finished _
  | abandoning l f s =>
    exact (speaks_closingResume w l s).andThen (fun _ => rfl) fun _ _ => speaks_finished _

/-! ## Jobs -/

theorem Turn.Speaks.asJob {α : Type} {stages : List Lifecycle} {pending : σ → Option Pending}
    {w : World} {heard : List Event} {t : Turn σ (Except Failure α)} {embed : σ → Task}
    {value : α → Value} (h : t.Speaks stages pending w heard)
    (hp : ∀ s, (embed s).pending? = pending s) :
    (t.asJob embed value).Speaks stages Task.pending? w heard :=
  h.andThen hp fun _ _ => speaks_finished _

/-- Every turn of a job: the answer it has waited for, what it tells, and its next call. -/
theorem speaks_taskResume (t : Task) :
    (t.resume w).Speaks t.stages Task.pending? w (t.pending?.map Pending.heard).toList := by
  cases t with
  | opening s =>
    exact (speaks_openingResume w s).andThen (fun _ => rfl) fun _ _ => speaks_finished _
  | closing l s => exact (speaks_closingResume w l s).asJob fun _ => rfl
  | declaringExchange x p => exact (speaks_exchangeAnswered w x p _).asJob fun _ => rfl
  | declaringQueue q p => exact (speaks_queueAnswered w q p _).asJob fun _ => rfl
  | binding b p => exact (speaks_bindingAnswered w b p _).asJob fun _ => rfl
  | subscribing x pattern s => exact (speaks_subscribingResume w x pattern s).asJob fun _ => rfl
  | starting g s => exact (speaks_startingResume w g s).asJob fun _ => rfl
  | stopping r s => exact (speaks_stoppingResume w r s).asJob fun _ => rfl
  | acknowledging tag p => exact (speaks_ackAnswered w tag p _).asJob fun _ => rfl
  | rejecting tag requeue p => exact (speaks_rejectAnswered w tag requeue p _).asJob fun _ => rfl
  | cancelling tag p => exact (speaks_cancelAnswered w tag p _).asJob fun _ => rfl
  | teardown s => exact (speaks_teardownResume w s).asJob fun _ => rfl
  | app a s => exact (speaks_appResume w a s).asJob fun _ => rfl
  | listening s => exact (speaks_listeningResume w s).asJob fun _ => rfl
  | program s =>
    cases s with
    | running a listener s =>
      exact (speaks_appResume w a s).andThen (fun _ => rfl)
        fun _ _ => (speaks_waiting rfl).of_trace_eq rfl
    | joining listener result => exact speaks_waiting rfl

omit w in
/-- At its end the program tells something, and has finished. -/
theorem conclude_induction {motive : World → Turn Task Outcome → Prop}
    (hlog : ∀ (w : World) e t, motive (w.log e) t → motive w t)
    (hend : ∀ (w : World) code, motive w (w, .finished (.ok (.exit code)))) (w : World)
    (result : Except Failure Stats) (o : Outcome) : motive w (Program.conclude result o w) := by
  have ends : ∀ (w : World) (listened : Except Failure Unit),
      Program.listened o w = (listened, w) → motive w (Program.conclude result o w) := by
    intro w listened h
    simp only [Program.conclude, h]
    cases Teardown.outcome result listened <;> exact hlog w _ _ (hend _ _)
  have told : ∀ e, Program.listened o w = (.error .internal, w.log e) →
      motive w (Program.conclude result o w) := by
    intro e h
    simp only [Program.conclude, h]
    cases Teardown.outcome result (.error .internal) <;>
      exact hlog w _ _ (hlog _ _ _ (hend _ _))
  cases o with
  | ok v => exact ends w _ rfl
  | failed f => exact ends w _ rfl
  | crashed payload => exact told _ rfl
  | unavailable what => exact told _ rfl

theorem speaks_programConclude (result : Except Failure Stats) (o : Outcome) :
    (Program.conclude result o w).Speaks [] Task.pending? w [] :=
  conclude_induction (motive := fun w t => t.Speaks [] Task.pending? w []) (fun _ _ _ => Speaks.log)
    (fun _ _ => speaks_finished _) w result o

theorem speaks_calling {t : World × Pending} {task : Pending → Task} {c : Call}
    (ht : t = w.call c) (hp : ∀ p, (task p).pending? = some p) :
    (Request.calling t task).Speaks [] Task.pending? w [] := by
  subst ht
  exact speaks_call c (hp _)

omit w in
/-- A job on the link that there is, or no job. -/
theorem onLink_induction {w : World} {motive : Turn Task Outcome → Prop} (h : Handles)
    {job : Nat → Turn Task Outcome} (hj : ∀ l, h.link = some l → motive (job l))
    (hd : ∀ what, motive (w, .finished (.unavailable what))) :
    motive (Request.onLink h w job) := by
  simp only [Request.onLink]
  split
  · next l hl => exact hj l hl
  · exact hd _

omit w in
/-- A job on a consumer that there is, or no job. -/
theorem onConsumer_induction {w : World} {motive : Turn Task Outcome → Prop} (h : Handles)
    (consumer : Nat) {job : Nat → Turn Task Outcome} (hj : ∀ r, motive (job r))
    (hd : ∀ what, motive (w, .finished (.unavailable what))) :
    motive (Request.onConsumer h consumer w job) := by
  simp only [Request.onConsumer]
  split
  · exact hj _
  · exact hd _

theorem speaks_onLink (h : Handles) {job : Nat → Turn Task Outcome}
    (hj : ∀ l, (job l).Speaks [] Task.pending? w []) :
    (Request.onLink h w job).Speaks [] Task.pending? w [] :=
  onLink_induction (motive := fun t => t.Speaks [] Task.pending? w []) h (fun l _ => hj l)
    fun _ => speaks_finished _

theorem speaks_onConsumer (h : Handles) (consumer : Nat) {job : Nat → Turn Task Outcome}
    (hj : ∀ r, (job r).Speaks [] Task.pending? w []) :
    (Request.onConsumer h consumer w job).Speaks [] Task.pending? w [] :=
  onConsumer_induction (motive := fun t => t.Speaks [] Task.pending? w []) h consumer hj
    fun _ => speaks_finished _

/-- The turn in which a job is asked for: what it tells, and its first call. -/
theorem speaks_begin (q : Request) (h : Handles) :
    (q.begin h w).Speaks [] Task.pending? w [] := by
  cases q with
  | opening name endpoint =>
    simp only [Request.begin]
    exact (speaks_openingStart w name endpoint).andThen (fun _ => rfl) fun _ _ => speaks_finished _
  | close => exact speaks_onLink w h fun l => (speaks_closingStart w l).asJob fun _ => rfl
  | status => exact speaks_finished _
  | declareExchange x =>
    exact speaks_onLink w h fun _ => Speaks.log (speaks_calling _ rfl fun _ => rfl)
  | declareQueue q =>
    exact speaks_onLink w h fun _ => Speaks.log (speaks_calling _ rfl fun _ => rfl)
  | bind b => exact speaks_onLink w h fun _ => Speaks.log (speaks_calling _ rfl fun _ => rfl)
  | subscribe x pattern =>
    exact speaks_onLink w h fun _ => (speaks_subscribingStart w x).asJob fun _ => rfl
  | start queue mode prefetch kind =>
    exact speaks_onLink w h fun _ => (speaks_startingStart w _).asJob fun _ => rfl
  | stop consumer =>
    exact speaks_onConsumer w h consumer fun r => (speaks_stoppingStart w r).asJob fun _ => rfl
  | ack tag => exact speaks_onLink w h fun _ => speaks_calling w rfl fun _ => rfl
  | reject tag requeue => exact speaks_onLink w h fun _ => speaks_calling w rfl fun _ => rfl
  | cancelConsumer tag =>
    refine speaks_onLink w h fun l => ?_
    rcases cancellingStart_cases w l tag with hc | hc <;> rw [hc]
    · exact speaks_finished _
    · exact speaks_call _ rfl
  | run consumer given givenClose =>
    cases given with
    | some op =>
      cases givenClose with
      | some op' => exact speaks_waiting rfl
      | none => exact speaks_onLink w h fun _ => speaks_waiting rfl
    | none =>
      refine speaks_onConsumer w h consumer fun r => ?_
      cases givenClose with
      | some op' => exact speaks_waiting rfl
      | none => exact speaks_onLink w h fun _ => speaks_waiting rfl
  | app lookup kind =>
    show Speaks [] Task.pending? w [] (Request.startApp lookup kind w)
    simp only [Request.startApp]
    split
    · exact Speaks.log (speaks_finished _)
    · exact (speaks_appStart w _).asJob fun _ => rfl
  | listen => exact (speaks_waiting rfl).of_trace_eq rfl

end Compositions

end TopicWorker
