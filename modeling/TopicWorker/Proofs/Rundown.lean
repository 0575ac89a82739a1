import TopicWorker.Proofs.Moves
import TopicWorker.Proofs.Charges

/-!
# The course of a teardown

A teardown publishes that a shutdown has been requested and that it drains, cancels the
registration, closes the channel and then the connection, and publishes that it is closed.
Some of the calls may be skipped, and it may come to an end early, but it makes no other call
and no two in another order: what a job in teardown has done is always a beginning of the
whole.

## Main definitions

* `Event.isAct`, `acts`: what of the trace concerns the broker and the lifecycle.
* `rundown`: the whole teardown, as it is seen in the trace.
* `Turn.KeepsTo`: turns that keep to a course.
* `Closing.Course`, `Stopping.Course`, `Teardown.Course`, `JobCourse`: what has been done, by
  how far the operation has come.

## Main results

* `keepsTo_turn`: every turn of a job in teardown keeps to the course.
* `Teardown.Course.prefix_rundown`: what has been done is a beginning of the whole.
* `pairwise_rundown`: in the whole nothing but the close of the connection follows a close.
-/

namespace TopicWorker

variable {σ τ ρ ρ' α : Type}

/-- Whether an event concerns the broker or the lifecycle. -/
def Event.isAct : Event → Bool
  | .called _ | .answered _ _ | .published _ => true
  | _ => false

/-- What of some events concerns the broker or the lifecycle. -/
def acts (l : List Event) : List Event := l.filter Event.isAct

@[simp] theorem acts_append (l l' : List Event) : acts (l ++ l') = acts l ++ acts l' := by
  simp [acts]

/-- An entry is neither. -/
@[simp] theorem acts_log (w : World) (e : LogEntry) : acts (w.log e).trace = acts w.trace := by
  simp [acts, Event.isAct]

/-- A call and its answer, if the call is made. -/
def exchange (c : Call) : Option Answer → List Event
  | none => []
  | some a => [.called c, .answered c a]

namespace Closing

/-- The call that closes the channel. -/
def channelCall : Call := .channelClose success reason

/-- The call that closes the connection. -/
def connectionCall : Call := .connectionClose success reason

/-- The calls that close something. -/
def calls : List Call := [channelCall, connectionCall]

end Closing

/-- The stages that are published before anything is stopped. -/
def drainStages : List Event := [.published .shutdownRequested, .published .draining]

/-- The whole teardown: the stages up to draining, the cancellation, the close of the channel and
that of the connection, each with its answer unless it is skipped, and the last stage. -/
def rundown (tag : String) (cancel channel connection : Option Answer) : List Event :=
  drainStages ++ exchange (.basicCancel tag false) cancel ++ exchange Closing.channelCall channel ++
    exchange Closing.connectionCall connection ++ [.published .closed]

/-- Whether an event may come after another one: once something is closed, the only call is the
one that closes the connection. -/
def Event.MayFollow (e e' : Event) : Prop :=
  ∀ c ∈ Closing.calls, e = .called c → ∀ c', e' = .called c' → c' = Closing.connectionCall

/-- In a teardown nothing but the close of the connection follows a close. -/
theorem pairwise_rundown (tag : String) (cancel channel connection : Option Answer) :
    (rundown tag cancel channel connection).Pairwise Event.MayFollow := by
  cases cancel <;> cases channel <;> cases connection <;>
    simp [rundown, drainStages, exchange, Event.MayFollow, Closing.calls, Closing.channelCall,
      Closing.connectionCall]

/-! ## Courses -/

/-- A turn that begins in a world and keeps to a course, after something has been done on it. -/
def Turn.KeepsTo (course : Progress σ ρ → List Event → Prop) (w : World) (done : List Event)
    (t : Turn σ ρ) : Prop :=
  ∃ more, acts t.1.trace = acts w.trace ++ more ∧ course t.2 (done ++ more)

namespace Turn

section Rules

variable {course : Progress σ ρ → List Event → Prop} {course' : Progress τ ρ' → List Event → Prop}
  {w : World} {done : List Event} {t : Turn σ ρ}

/-- A turn that does nothing on the course. -/
theorem KeepsTo.rests (h : course t.2 done) (hw : acts t.1.trace = acts w.trace) :
    t.KeepsTo course w done :=
  ⟨[], by rw [hw, List.append_nil], by rwa [List.append_nil]⟩

/-- Only what has been done matters of the world that a turn begins in. -/
theorem KeepsTo.of_acts_eq {v : World} (h : t.KeepsTo course v done)
    (hv : acts v.trace = acts w.trace) : t.KeepsTo course w done := by
  obtain ⟨more, hmore, hcourse⟩ := h
  exact ⟨more, by rw [hmore, hv], hcourse⟩

/-- Something is done before the rest of a turn. -/
theorem KeepsTo.emit {e : Event} (he : e.isAct = true)
    (h : t.KeepsTo course (w.emit e) (done ++ [e])) : t.KeepsTo course w done := by
  obtain ⟨more, hmore, hcourse⟩ := h
  refine ⟨e :: more, ?_, by simpa using hcourse⟩
  rw [hmore, World.trace_emit, acts_append]
  simp [acts, he]

/-- An entry is written before the rest of a turn. -/
theorem KeepsTo.log {e : LogEntry} (h : t.KeepsTo course (w.log e) done) :
    t.KeepsTo course w done :=
  h.of_acts_eq (acts_log w e)

/-- A turn that ends with a call. -/
theorem keepsTo_call {c : Call} {s : σ} (h : course (.waiting s) (done ++ [.called c])) :
    KeepsTo course w done ((w.call c).1, .waiting s) :=
  KeepsTo.emit (e := .called c) rfl (KeepsTo.rests h rfl)

/-- A stage is published before the rest of a turn. -/
theorem KeepsTo.transition {s : Lifecycle}
    (h : t.KeepsTo course (w.transition s) (done ++ [.published s])) : t.KeepsTo course w done :=
  KeepsTo.emit (e := .published s) rfl (KeepsTo.log (h.of_acts_eq rfl))

/-- A turn that goes on with a further operation, on the rest of a longer course. -/
theorem KeepsTo.andThen (before : List Event) {embed : σ → τ} {next : ρ → World → Turn τ ρ'}
    (h : t.KeepsTo course w done)
    (hw : ∀ s d, course (.waiting s) d → course' (.waiting (embed s)) (before ++ d))
    (hc : ∀ payload d, course (.crashed payload) d → course' (.crashed payload) (before ++ d))
    (hn : ∀ r w' d, course (.finished r) d → (next r w').KeepsTo course' w' (before ++ d)) :
    (t.andThen embed next).KeepsTo course' w (before ++ done) := by
  obtain ⟨more, hmore, hcourse⟩ := h
  obtain ⟨w₁, p⟩ := t
  cases p with
  | waiting s => exact ⟨more, hmore, by rw [List.append_assoc]; exact hw s _ hcourse⟩
  | crashed payload => exact ⟨more, hmore, by rw [List.append_assoc]; exact hc payload _ hcourse⟩
  | finished r =>
    obtain ⟨rest, hrest, hcourse'⟩ := hn r w₁ _ hcourse
    refine ⟨more ++ rest, ?_, ?_⟩
    · simp only [Turn.andThen, hrest, hmore, List.append_assoc]
    · rw [List.append_assoc, ← List.append_assoc done, ← List.append_assoc]
      exact hcourse'

/-- The answer to a call is heard before the rest of a turn. -/
theorem keepsTo_resolve (p : Pending) {report : Fault → LogEntry}
    {onDone : Option String → World → Turn σ ρ} {onFault : Fault → World → Turn σ ρ}
    (hd : ∀ name w', (onDone name w').KeepsTo course w' (done ++ [.answered p.call (.done name)]))
    (hf : ∀ fault w',
      (onFault fault w').KeepsTo course w' (done ++ [.answered p.call (.refused fault)]))
    (hc : ∀ payload, course (.crashed payload) (done ++ [.answered p.call (.crashed payload)])) :
    (p.resolve w report onDone onFault).KeepsTo course w done := by
  cases ha : p.reply.answer with
  | done name =>
    rw [resolve_done ha]
    exact KeepsTo.emit rfl (hd name _)
  | refused fault =>
    rw [resolve_refused ha]
    exact KeepsTo.emit rfl (KeepsTo.log (hf fault _))
  | crashed payload =>
    rw [resolve_crashed ha]
    exact KeepsTo.emit rfl (KeepsTo.rests (hc payload) rfl)

end Rules

end Turn

/-- Two operations that follow a third one follow it one by one. -/
theorem Turn.andThen_assoc {υ ρ'' : Type} (t : Turn σ ρ) (embed : σ → τ)
    (next : ρ → World → Turn τ ρ') (embed' : τ → υ) (next' : ρ' → World → Turn υ ρ'') :
    (t.andThen embed next).andThen embed' next' =
      t.andThen (fun s => embed' (embed s)) fun r w => (next r w).andThen embed' next' := by
  obtain ⟨w, p⟩ := t
  cases p <;> rfl

open Turn

/-! ## Closing -/

/-- The course of a closing. -/
inductive Closing.Course : Progress Closing (Except Failure Unit) → List Event → Prop where
  | channel (p : Pending) (call : p.call = channelCall) :
    Course (.waiting (.channel p)) [.called channelCall]
  | connection (failure : Option Failure) (p : Pending) (call : p.call = connectionCall)
    (channel : Option Answer) :
    Course (.waiting (.connection failure p))
      (exchange channelCall channel ++ [.called connectionCall])
  | ended (result : Except Failure Unit) (channel connection : Option Answer) :
    Course (.finished result) (exchange channelCall channel ++ exchange connectionCall connection)
  | died (payload : Option String) (channel connection : Option Answer) :
    Course (.crashed payload) (exchange channelCall channel ++ exchange connectionCall connection)

section Operations

variable (w : World)

theorem keepsTo_conclude (failure : Option Failure) (channel connection : Option Answer) :
    (Closing.conclude failure w).KeepsTo Closing.Course w
      (exchange Closing.channelCall channel ++ exchange Closing.connectionCall connection) := by
  refine KeepsTo.rests ?_ ?_
  · cases failure <;> exact .ended _ channel connection
  · cases failure <;> exact acts_log _ _

theorem keepsTo_closeConnection (l : Nat) (failure : Option Failure) (channel : Option Answer) :
    (Closing.closeConnection l failure w).KeepsTo Closing.Course w
      (exchange Closing.channelCall channel) := by
  simp only [Closing.closeConnection]
  split
  · exact KeepsTo.log (keepsTo_call (.connection failure _ rfl channel))
  · have h := keepsTo_conclude w failure channel none
    rwa [exchange, List.append_nil] at h

/-- A closing begins with the channel, with the connection, or at its end. -/
theorem keepsTo_closingStart (l : Nat) :
    (Closing.start l w).KeepsTo Closing.Course w [] := by
  unfold Closing.start
  split
  · exact KeepsTo.rests (.ended _ none none) (acts_log _ _)
  · dsimp only
    split
    · exact (KeepsTo.log (keepsTo_call (.channel _ rfl))).of_acts_eq rfl
    · exact (keepsTo_closeConnection _ l none none).of_acts_eq rfl

/-- A closing goes on on its course. -/
theorem keepsTo_closingResume (l : Nat) {s : Closing} {done : List Event}
    (h : Closing.Course (.waiting s) done) : (s.resume l w).KeepsTo Closing.Course w done := by
  cases h with
  | channel p call =>
    have hdone : ∀ a, [Event.called Closing.channelCall] ++ [.answered p.call a] =
        exchange Closing.channelCall (some a) := fun a => by rw [call]; rfl
    refine keepsTo_resolve p (fun name w' => ?_) (fun fault w' => ?_) fun payload => ?_
    · rw [hdone]
      exact (keepsTo_closeConnection _ l none _).of_acts_eq rfl
    · rw [hdone]
      exact keepsTo_closeConnection w' l _ _
    · rw [hdone, ← List.append_nil (exchange _ _)]
      exact .died payload _ none
  | connection failure p call channel =>
    have hdone : ∀ a, exchange Closing.channelCall channel ++ [.called Closing.connectionCall] ++
        [.answered p.call a] = exchange Closing.channelCall channel ++
          exchange Closing.connectionCall (some a) := fun a => by
      rw [call, List.append_assoc]
      rfl
    refine keepsTo_resolve p (fun name w' => ?_) (fun fault w' => ?_) fun payload => ?_
    · rw [hdone]
      exact (keepsTo_conclude _ failure channel _).of_acts_eq rfl
    · rw [hdone]
      exact keepsTo_conclude w' _ channel _
    · rw [hdone]
      exact .died payload channel _

end Operations

/-! ## Stopping -/

/-- The course of the stop of a receiver with a tag. -/
inductive Stopping.Course (tag : String) :
    Progress Stopping (Except Failure Stats) → List Event → Prop where
  | cancelling (p : Pending) (call : p.call = .basicCancel tag false) :
    Course tag (.waiting (.cancelling p)) [.called (.basicCancel tag false)]
  | joining (cancel : Option Answer) :
    Course tag (.waiting .joining) (exchange (.basicCancel tag false) cancel)
  | ended (result : Except Failure Stats) (cancel : Option Answer) :
    Course tag (.finished result) (exchange (.basicCancel tag false) cancel)
  | died (payload : Option String) (cancel : Option Answer) :
    Course tag (.crashed payload) (exchange (.basicCancel tag false) cancel)

section Operations

variable (w : World)

/-- A stop begins with the cancellation, with the wait for the loop, or at its end. -/
theorem keepsTo_stoppingStart (r : Nat) :
    (Stopping.start r w).KeepsTo (Stopping.Course (w.receiver r).tag) w [] := by
  cases hj : (w.receiver r).joinable with
  | false =>
    rw [stoppingStart_of_not_joinable hj]
    exact KeepsTo.rests (.ended _ none) (acts_log _ _)
  | true =>
    refine KeepsTo.of_acts_eq (v := w.modifyReceiver r Receiver.claimed) ?_ rfl
    rcases stoppingStart_of_joinable hj with h | h <;> rw [h]
    · exact KeepsTo.rests (.joining none) rfl
    · exact keepsTo_call (.cancelling _ rfl)

/-- A stop goes on on its course. -/
theorem keepsTo_stoppingResume (r : Nat) (tag : String) {s : Stopping} {done : List Event}
    (h : Stopping.Course tag (.waiting s) done) :
    (s.resume r w).KeepsTo (Stopping.Course tag) w done := by
  cases h with
  | cancelling p call =>
    have hdone : ∀ a, [Event.called (.basicCancel tag false)] ++ [.answered p.call a] =
        exchange (.basicCancel tag false) (some a) := fun a => by rw [call]; rfl
    simp only [Stopping.resume, Cancelling.answered, resolve_andThen]
    refine keepsTo_resolve p (fun name w' => ?_) (fun fault w' => ?_) fun payload => ?_
    · rw [hdone]
      exact KeepsTo.rests (.joining _) rfl
    · rw [hdone]
      exact KeepsTo.log (KeepsTo.rests (.joining _) rfl)
    · rw [hdone]
      exact .died payload _
  | joining cancel =>
    simp only [Stopping.resume, Stopping.joined]
    split <;> exact KeepsTo.rests (.ended _ cancel) (acts_log _ _)

end Operations

/-! ## Teardown -/

/-- The course of a teardown over a receiver and a link. -/
inductive Teardown.Course (r l : Nat) (tag : String) :
    Progress Teardown (Except Failure Stats) → List Event → Prop where
  | blocked : Course r l tag (.waiting (.blocked (.receiver r) (.link l))) []
  | yielding :
    Course r l tag (.waiting (.yielding (.receiver r) (.link l))) [.published .shutdownRequested]
  | stopping (s : Stopping) (d : List Event) (h : Stopping.Course tag (.waiting s) d) :
    Course r l tag (.waiting (.stopping r (.link l) s)) (drainStages ++ d)
  | closing (stopped : Except Failure Stats) (s : Closing) (cancel : Option Answer) (d : List Event)
    (h : Closing.Course (.waiting s) d) : Course r l tag (.waiting (.closing l stopped s))
      (drainStages ++ exchange (.basicCancel tag false) cancel ++ d)
  | ended (result : Except Failure Stats) (cancel channel connection : Option Answer) :
    Course r l tag (.finished result) (rundown tag cancel channel connection)
  | died (payload : Option String) (cancel channel connection : Option Answer) :
    Course r l tag (.crashed payload)
      (drainStages ++ exchange (.basicCancel tag false) cancel ++
        exchange Closing.channelCall channel ++ exchange Closing.connectionCall connection)

section Operations

variable (w : World) {r l : Nat} {tag : String}

/-- What has been done on the course of a teardown is a beginning of the whole. -/
theorem Teardown.Course.prefix_rundown {p : Progress Teardown (Except Failure Stats)}
    {done : List Event} (h : Teardown.Course r l tag p done) :
    ∃ cancel channel connection, done <+: rundown tag cancel channel connection := by
  cases h with
  | blocked => exact ⟨none, none, none, List.nil_prefix⟩
  | yielding => exact ⟨none, none, none, by simp [rundown, drainStages]⟩
  | stopping s d h =>
    cases h with
    | cancelling p call =>
      refine ⟨some p.reply.answer, none, none, ?_⟩
      simp [rundown, exchange]
    | joining cancel => exact ⟨cancel, none, none, by simp [rundown, exchange]⟩
  | closing stopped s cancel d h =>
    cases h with
    | channel p call =>
      refine ⟨cancel, some p.reply.answer, none, ?_⟩
      simp [rundown, exchange]
    | connection failure p call channel =>
      refine ⟨cancel, channel, some p.reply.answer, ?_⟩
      simp [rundown, exchange]
  | ended result cancel channel connection => exact ⟨cancel, channel, connection, List.prefix_rfl⟩
  | died payload cancel channel connection =>
    exact ⟨cancel, channel, connection, List.prefix_append _ _⟩

/-- Before anything but the first stage has been published or called for, a teardown has
published that it drains. -/
theorem Teardown.Course.draining {p : Progress Teardown (Except Failure Stats)} {done : List Event}
    (h : Teardown.Course r l tag p done) {e : Event} (he : e ∈ done)
    (later : e ≠ .published .shutdownRequested) : .published .draining ∈ done := by
  cases h with
  | blocked => cases he
  | yielding => exact absurd (List.mem_singleton.mp he) later
  | ended result cancel channel connection => simp [rundown, drainStages]
  | _ => simp [drainStages]

theorem keepsTo_closed (stopped : Except Failure Stats) (result : Except Failure Unit)
    (cancel channel connection : Option Answer) :
    (Teardown.closed stopped result w).KeepsTo (Teardown.Course r l tag) w
      (drainStages ++ exchange (.basicCancel tag false) cancel ++
        exchange Closing.channelCall channel ++ exchange Closing.connectionCall connection) := by
  refine KeepsTo.transition (s := .closed) ?_
  simp only [Teardown.closed]
  split
  · exact KeepsTo.rests (.ended _ cancel channel connection) rfl
  · exact KeepsTo.log (KeepsTo.rests (.ended _ cancel channel connection) rfl)

/-- After the stop a teardown closes the link. -/
theorem keepsTo_stopped (result : Except Failure Stats) (cancel : Option Answer) :
    (Teardown.stopped (.link l) result w).KeepsTo (Teardown.Course r l tag) w
      (drainStages ++ exchange (.basicCancel tag false) cancel) := by
  have hnil : drainStages ++ exchange (.basicCancel tag false) cancel =
      drainStages ++ exchange (.basicCancel tag false) cancel ++ [] := (List.append_nil _).symm
  refine stopped_induction (motive := fun w t => t.KeepsTo (Teardown.Course r l tag) w
      (drainStages ++ exchange (.basicCancel tag false) cancel)) (fun _ _ _ h => KeepsTo.log h)
    (fun w l' hl => ?_) (fun w op hop => by cases hop) w
  cases hl
  rw [hnil]
  refine KeepsTo.andThen _ (keepsTo_closingStart w l) (fun s d h => .closing result s cancel d h)
    (fun payload d h => ?_) fun r w'' d h => ?_
  · cases h with
    | died payload channel connection =>
      rw [← List.append_assoc]
      exact .died payload cancel channel connection
  · cases h with
    | ended result' channel connection =>
      rw [← List.append_assoc]
      exact keepsTo_closed w'' result _ cancel channel connection

/-- A teardown goes on on its course. -/
theorem keepsTo_teardownResume {s : Teardown} {done : List Event}
    (htag : (w.receiver r).tag = tag) (h : Teardown.Course r l tag (.waiting s) done) :
    (s.resume w).KeepsTo (Teardown.Course r l tag) w done := by
  -- a stop that is over is followed by the close
  have after : ∀ {t : Turn Stopping (Except Failure Stats)} {w' : World} {d : List Event},
      t.KeepsTo (Stopping.Course tag) w' d →
      (t.andThen (.stopping r (.link l)) (Teardown.stopped (.link l))).KeepsTo
        (Teardown.Course r l tag) w' (drainStages ++ d) := by
    intro t w' d ht
    refine KeepsTo.andThen drainStages ht (fun s d h => .stopping s d h) (fun payload d h => ?_)
      fun result w'' d h => ?_
    · cases h with
      | died payload cancel =>
        simpa [exchange] using Teardown.Course.died (r := r) (l := l) payload cancel none none
    · cases h with
      | ended result cancel => exact keepsTo_stopped w'' result cancel
  cases h with
  | blocked => exact KeepsTo.transition (KeepsTo.rests .yielding rfl)
  | yielding =>
    have hstart : (Stopping.start r (w.transition .draining)).KeepsTo (Stopping.Course tag)
        (w.transition .draining) [] := htag ▸ keepsTo_stoppingStart (w.transition .draining) r
    exact KeepsTo.transition (s := .draining) (after hstart)
  | stopping s d h => exact after (keepsTo_stoppingResume w r tag h)
  | closing stopped s cancel d h =>
    refine KeepsTo.andThen _ (keepsTo_closingResume w l h)
      (fun s d h => .closing stopped s cancel d h) (fun payload d h => ?_) fun result w' d h => ?_
    · cases h with
      | died payload channel connection =>
        rw [← List.append_assoc]
        exact .died payload cancel channel connection
    · cases h with
      | ended result channel connection =>
        rw [← List.append_assoc]
        exact keepsTo_closed w' stopped _ cancel channel connection

end Operations

/-! ## Jobs -/

/-- The course of a job in teardown, which is an application of its own or the program. -/
inductive JobCourse (r l : Nat) (tag : String) : Progress Task Outcome → List Event → Prop where
  | under (t : Task) (s : Teardown) (done : List Event) (app : t.app? = some (.running s))
    (h : Teardown.Course r l tag (.waiting s) done) : JobCourse r l tag (.waiting t) done
  /-- The program awaits its listener. -/
  | joining (listener : Nat) (result : Except Failure Stats) (done : List Event)
    (h : Teardown.Course r l tag (.finished result) done) :
    JobCourse r l tag (.waiting (.program (.joining listener result))) done
  | ended (o : Outcome) (result : Except Failure Stats) (done : List Event)
    (h : Teardown.Course r l tag (.finished result) done) : JobCourse r l tag (.finished o) done
  | died (payload : Option String) (done : List Event)
    (h : Teardown.Course r l tag (.crashed payload) done) :
    JobCourse r l tag (.crashed payload) done

/-- Of what is only told nothing concerns the broker, and nothing the lifecycle unless a stage is
published. -/
theorem acts_of_told {told : List Event} (h : ∀ e ∈ told, e.Told []) : acts told = [] := by
  refine List.filter_eq_nil_iff.mpr fun e he => ?_
  have := h e he
  cases e <;> simp_all [Event.Told, Event.isAct]

/-- What a turn adds to the course of its job is what the job does in it. -/
theorem System.acts_of_takes {s : System} {m : Move} {n : Nat} {u : Turn Task Outcome}
    {more : List Event} (takes : s.Takes m n u) (h : acts u.1.trace = acts s.world.trace ++ more) :
    acts (eventsBy (.job n) (s.doing m)) = more :=
  filter_of_takes takes h

/-- A job in teardown goes on on its course. -/
theorem keepsTo_turn (s : System) {r l : Nat} {tag : String} {t : Task} {done : List Event}
    (htag : (s.world.receiver r).tag = tag) (h : JobCourse r l tag (.waiting t) done) :
    (s.turn t).KeepsTo (JobCourse r l tag) s.world done := by
  cases h with
  | under _ b _ app hc =>
    have hteardown := keepsTo_teardownResume s.world htag hc
    rcases Task.of_app? app with ⟨a, rfl⟩ | ⟨a, listener, rfl⟩
    · have hturn : s.turn (.app a (.running b)) = (b.resume s.world).andThen
          (fun b => .app a (.running b))
          fun result w => (w, .finished (.ofResult .stats result)) := Turn.andThen_assoc ..
      rw [hturn]
      exact KeepsTo.andThen [] hteardown (fun b' d h => .under _ b' d rfl h)
        (fun payload d h => .died payload d h)
        fun result w' d h => KeepsTo.rests (.ended _ result d h) rfl
    · have hturn : s.turn (.program (.running a listener (.running b))) =
          (b.resume s.world).andThen (fun b => .program (.running a listener (.running b)))
          (Task.appEnded listener) := Turn.andThen_assoc ..
      rw [hturn]
      exact KeepsTo.andThen [] hteardown (fun b' d h => .under _ b' d rfl h)
        (fun payload d h => .died payload d h)
        fun result w' d h => KeepsTo.rests (.joining listener result d h) rfl
  | joining listener result _ hc =>
    simp only [System.turn]
    split
    · next o ho =>
      obtain ⟨o', ho'⟩ := System.conclude_finished s.world result o
      obtain ⟨told, htold, htrace⟩ := speaks_programConclude s.world result o
      refine KeepsTo.rests (by rw [ho']; exact .ended o' result done hc) ?_
      rw [htrace, acts_append, ho']
      simp [Progress.calls, acts_of_told htold]
    · exact KeepsTo.rests (.joining listener result done hc) rfl

namespace JobCourse

variable {r l : Nat} {tag : String} {p : Progress Task Outcome} {t : Task} {done : List Event}

/-- A job on its course has come somewhere on the course of its teardown. -/
theorem teardown (h : JobCourse r l tag p done) : ∃ p', Teardown.Course r l tag p' done := by
  cases h with
  | under t s _ app hc => exact ⟨_, hc⟩
  | joining listener result _ hc => exact ⟨_, hc⟩
  | ended o result _ hc => exact ⟨_, hc⟩
  | died payload _ hc => exact ⟨_, hc⟩

/-- A job that has finished has done the whole. -/
theorem whole {o : Outcome} (h : JobCourse r l tag (.finished o) done) :
    ∃ cancel channel connection, done = rundown tag cancel channel connection := by
  cases h with
  | ended _ result _ hc =>
    cases hc with
    | ended _ cancel channel connection => exact ⟨cancel, channel, connection, rfl⟩

/-- The turn in which a job may publish that it drains calls for the stop of its receiver. -/
theorem stopCall_of_draining (h : JobCourse r l tag (.waiting t) done)
    (stage : .draining ∈ t.stages) :
    t.stopCall? = some r := by
  cases h with
  | under _ b _ app hc =>
    rw [Task.stages_of_app? app] at stage
    rw [Task.stopCall?_of_app? app]
    cases hc with
    | yielding => rfl
    | _ => simp [App.stages, Teardown.stages] at stage
  | joining listener result _ hc => cases stage

/-- A job that calls for the stop of its receiver next is an application that has not begun with
it. -/
theorem ahead_of_stopCall (h : JobCourse r l tag (.waiting t) done) (call : t.stopCall? = some r) :
    t.app?.isSome = true ∧ t.stopping? = none := by
  cases h with
  | under _ b _ app hc =>
    refine ⟨by simp [app], ?_⟩
    rw [Task.stopCall?_of_app? app] at call
    rw [Task.stopping?_of_app? app]
    cases hc with
    | yielding => rfl
    | _ => cases call
  | joining listener result _ hc => cases call

/-- A job that has called for something other than the cancellation has its receiver's stop
behind it. -/
theorem behind_of_pending (h : JobCourse r l tag (.waiting t) done) {p : Pending}
    (pending : t.pending? = some p) (other : p.call ≠ .basicCancel tag false) :
    t.receiver? = none := by
  cases h with
  | under _ b _ app hc =>
    rw [Task.pending?_of_app? app] at pending
    rw [Task.receiver?_of_app? app]
    cases hc with
    | blocked => cases pending
    | yielding => cases pending
    | stopping s d h =>
      cases h with
      | cancelling p' call =>
        cases pending
        exact absurd call other
      | joining cancel => cases pending
    | closing stopped s cancel d h => rfl
  | joining listener result _ hc => rfl

/-- Where a job on its course may be: it has its receiver's stop behind it, or is carrying it out,
or calls for it next, or blocks. -/
theorem stage (h : JobCourse r l tag (.waiting t) done) :
    t.receiver? = none ∨ (∃ st, t.stopping? = some (r, st)) ∨ t.stopCall? = some r ∨
      t.app? = some (.running (.blocked (.receiver r) (.link l))) := by
  cases h with
  | under _ b _ app hc =>
    rw [Task.receiver?_of_app? app, Task.stopping?_of_app? app, Task.stopCall?_of_app? app]
    cases hc with
    | blocked => exact .inr (.inr (.inr app))
    | yielding => exact .inr (.inr (.inl rfl))
    | stopping st d h => exact .inr (.inl ⟨st, rfl⟩)
    | closing stopped st cancel d h => exact .inl rfl
  | joining listener result _ hc => exact .inl rfl

end JobCourse

end TopicWorker
