import TopicWorker.Proofs.Fixtures
import TopicWorker.Proofs.Requests

/-!
# Listening for two signals

A listener is to listen for two signals, each by itself: one that cannot be listened for leaves the
other. It requests a shutdown when one of those that it listens for arrives, and ends well; it ends
well, too, when a shutdown is requested otherwise. Where neither can be listened for it requests a
shutdown at once and fails. In every other case it waits and leaves the request alone. As long as
it can listen for one of them it makes no difference which of several things it looks for first.

This holds unless the interrupt is the only one that cannot be listened for. Then the listener gives
up the termination signal along with it: it requests a shutdown that nobody has asked for, and
fails.

## Main definitions

* `SignalFaults.admits`: whether a signal can be listened for.
* `Listening.Course`: how far a listener may have come.
* `System.ListensApart`: what is said of a listener at one moment.

## Main results

* `System.listens_apart`: every listener listens for each signal by itself, unless the interrupt is
  the only one that cannot be listened for.
* `System.interrupt_missing_not_apart`: in that case it does not.
-/

namespace TopicWorker

namespace SignalFaults

/-- Whether a signal can be listened for. -/
def admits (faults : SignalFaults) : Signal → Bool
  | .interrupt => faults.interrupt.isNone
  | .terminate => faults.terminate.isNone

/-- Where the interrupt cannot be listened for, the termination signal cannot, either. -/
def Paired (faults : SignalFaults) : Prop :=
  faults.admits .interrupt = false → faults.admits .terminate = false

variable {faults : SignalFaults}

/-- Where neither can be listened for the interrupt cannot. -/
theorem interrupt_of_none (none : ∀ signal, faults.admits signal = false) :
    ∃ reason, faults.interrupt = some reason :=
  Option.isSome_iff_exists.mp (by simpa [admits] using none .interrupt)

/-- Of a pair that admits a signal the interrupt is admitted. -/
theorem Paired.interrupt_of_admits (paired : faults.Paired) {signal : Signal}
    (admits : faults.admits signal = true) : faults.interrupt = none := by
  cases hi : faults.interrupt with
  | none => rfl
  | some reason =>
    have missing : faults.admits .interrupt = false := by simp [SignalFaults.admits, hi]
    cases signal with
    | interrupt => rw [missing] at admits; cases admits
    | terminate => rw [paired missing] at admits; cases admits

end SignalFaults

/-! ## The turns of a listener -/

section Jobs

variable {σ α : Type} {t : Turn σ (Except Failure α)} {embed : σ → Task} {value : α → Value}

/-- A job waits where its operation does, -/
theorem asJob_of_waiting {s : σ} (h : t.2 = .waiting s) :
    (t.asJob embed value).2 = .waiting (embed s) := by
  obtain ⟨w, p⟩ := t
  cases h
  rfl

/-- and ends where its operation does. -/
theorem asJob_of_finished {result : Except Failure α} (h : t.2 = .finished result) :
    (t.asJob embed value).2 = .finished (.ofResult value result) := by
  obtain ⟨w, p⟩ := t
  cases h
  rfl

end Jobs

namespace Listening

section Turns

variable {w : World}

/-- A listener that goes on once a shutdown is requested ends. It ends well, unless it has not run
yet, looks for the interrupt before the request, and cannot listen for it. -/
theorem resume_requested (requested : w.shutdownRequested = true) (b : Listening) :
    (b.resume w).2 = .finished (.ok ()) ∨
      b = .fresh ∧ w.preference.request = false ∧ ∃ reason,
        w.signalFaults.interrupt = some reason ∧
        (b.resume w).2 = .finished (.error (.signals reason)) := by
  have comes := resumes w b
  generalize b.resume w = t at comes
  cases comes with
  | released => exact .inl rfl
  | received => exact .inl rfl
  | unavailable _ missing unseen => exact .inr ⟨rfl, unseen requested, _, missing, rfl⟩
  | installs _ unrequested => rw [requested] at unrequested; cases unrequested
  | waits nothing =>
    have unrequested : w.shutdownRequested = false := nothing .request
    rw [requested] at unrequested
    cases unrequested

/-- A listener that cannot listen for either signal requests a shutdown and fails. -/
theorem resume_unavailable (unrequested : w.shutdownRequested = false) {reason : String}
    (missing : w.signalFaults.interrupt = some reason)
    (neither : w.signalFaults.admits .terminate = false) :
    (fresh.resume w).2 = .finished (.error (.signals reason)) ∧
      (fresh.resume w).1.shutdownRequested = true := by
  have neither : w.signalFaults.terminate.isNone = false := neither
  cases first : w.preference.interrupt <;>
    simp [resume, install, unrequested, missing, neither, first, unavailable, World.requestShutdown]

/-- A listener that can listen for the interrupt goes on to wait, and has requested nothing. -/
theorem resume_fresh (unrequested : w.shutdownRequested = false)
    (available : w.signalFaults.interrupt = none) :
    (fresh.resume w).2 = .waiting (.installed (w.signalFaults.admits .terminate)) ∧
      (fresh.resume w).1.shutdownRequested = false := by
  have probed : (probe w).shutdownRequested = false :=
    ((looked_probe w).same fun _ => rfl).trans unrequested
  by_cases found : (w.preference.interrupt && w.hasArrived .interrupt) = true <;>
    simp [resume, install, unrequested, available, found, probed, SignalFaults.admits]

/-- A signal that has arrived makes the listener request a shutdown, and it ends well. -/
theorem resume_arrived (unrequested : w.shutdownRequested = false) {terminate : Bool}
    {signal : Signal} (listened : signal = .terminate → terminate = true)
    (arrived : w.hasArrived signal = true) :
    ((installed terminate).resume w).2 = .finished (.ok ()) ∧
      ((installed terminate).resume w).1.shutdownRequested = true := by
  have comes := resumes w (.installed terminate)
  generalize (installed terminate).resume w = t at comes
  cases comes with
  | released _ requested => rw [unrequested] at requested; cases requested
  | received => exact ⟨rfl, rfl⟩
  | waits nothing =>
    have none := nothing (.signal signal)
    cases signal with
    | interrupt => rw [isThere, arrived] at none; cases none
    | terminate => rw [isThere, listened rfl, arrived] at none; cases none

end Turns

/-- How far a listener may have come, by whether a shutdown is requested. -/
inductive Course (faults : SignalFaults) : Progress Task Outcome → Bool → Prop where
  /-- It has not run yet. -/
  | fresh (requested : Bool) : Course faults (.waiting (.listening .fresh)) requested
  /-- It listens for the interrupt, and for the termination signal if that can be listened for. -/
  | installed (requested : Bool) (available : faults.interrupt = none) :
    Course faults (.waiting (.listening (.installed (faults.admits .terminate)))) requested
  /-- It has ended well, and a shutdown is requested. -/
  | ended : Course faults (.finished (.ok .nothing)) true
  /-- It has failed, and a shutdown is requested. -/
  | failed (reason : String) (missing : faults.interrupt = some reason) :
    Course faults (.finished (.failed (.signals reason))) true

/-- A turn of a listener goes on on its course. -/
theorem Course.turn {w : World} {b : Listening}
    (h : Course w.signalFaults (.waiting (.listening b)) w.shutdownRequested) :
    Course w.signalFaults ((Task.listening b).resume w).2
      ((Task.listening b).resume w).1.shutdownRequested := by
  have hresume : (Task.listening b).resume w = (b.resume w).asJob .listening fun () => .nothing :=
    rfl
  rw [hresume]
  have comes := resumes w b
  generalize b.resume w = t at comes
  cases comes with
  | @released _ v looked requested =>
    have same : v.shutdownRequested = true := (looked.same fun _ => rfl).trans requested
    rw [Turn.asJob, Turn.andThen, same]
    exact .ended
  | received => exact .ended
  | unavailable _ missing => exact .failed _ missing
  | installs _ _ available => exact .installed _ available
  | waits =>
    generalize w.shutdownRequested = requested at h
    cases h with
    | installed _ available => exact .installed _ available

end Listening

/-! ## A listener in a system -/

namespace System

/-- What is said of a listener at one moment, by which of the signals can be listened for. -/
structure ListensApart (s : System) (n : Nat) : Prop where
  /-- A signal that can be listened for and has arrived lets the listener go on once it listens. It
  requests a shutdown then, and ends well. -/
  heard : ∀ (signal : Signal) (terminate : Bool), s.world.signalFaults.admits signal = true →
    s.world.hasArrived signal = true → s.world.shutdownRequested = false →
    s.jobs[n]? = some (.waiting (.listening (.installed terminate))) →
    s.isRunnable (.job n) = true ∧ (s.move (.act (.job n))).world.shutdownRequested = true ∧
      (s.move (.act (.job n))).outcome? n = some (.ok .nothing)
  /-- Where neither signal can be listened for, the listener may go on at once. It requests a
  shutdown then, and fails. -/
  unavailable : (∀ signal, s.world.signalFaults.admits signal = false) →
    s.world.shutdownRequested = false →
    s.isRunnable (.job n) = true ∧ (s.move (.act (.job n))).world.shutdownRequested = true ∧
      ∃ reason, s.world.signalFaults.interrupt = some reason ∧
        (s.move (.act (.job n))).outcome? n = some (.failed (.signals reason))
  /-- In no other case does it fail, and it never ends in another way. -/
  failed : ∀ o, s.outcome? n = some o → o = .ok .nothing ∨
    (∀ signal, s.world.signalFaults.admits signal = false) ∧ ∃ reason, o = .failed (.signals reason)
  /-- A shutdown that is requested otherwise lets it go on, and it ends well. -/
  released : ∀ signal, s.world.signalFaults.admits signal = true →
    s.world.shutdownRequested = true → s.outcome? n = some (.ok .nothing) ∨
      s.isRunnable (.job n) = true ∧ (s.move (.act (.job n))).outcome? n = some (.ok .nothing)
  /-- Where a signal can be listened for the listener sets out to listen, and leaves the request
  alone. -/
  installs : ∀ signal, s.world.signalFaults.admits signal = true →
    s.world.shutdownRequested = false → s.jobs[n]? = some (.waiting (.listening .fresh)) →
    s.isRunnable (.job n) = true ∧ (s.move (.act (.job n))).world.shutdownRequested = false ∧
      (s.move (.act (.job n))).jobs[n]? =
        some (.waiting (.listening (.installed (s.world.signalFaults.admits .terminate))))
  /-- As long as nothing has happened that it listens for, it has not ended, and once it listens it
  waits. -/
  waits : ∀ signal, s.world.signalFaults.admits signal = true → s.world.shutdownRequested = false →
    (∀ signal, s.world.signalFaults.admits signal = true → s.world.hasArrived signal = false) →
    s.jobs[n]? = some (.waiting (.listening .fresh)) ∨
      s.isRunnable (.job n) = false ∧ s.jobs[n]? =
        some (.waiting (.listening (.installed (s.world.signalFaults.admits .terminate))))

variable {s : System} {n : Nat}

/-- A move keeps a listener on its course. -/
theorem listening_move {p : Progress Task Outcome} (job : s.jobs[n]? = some p)
    (course : Listening.Course s.world.signalFaults p s.world.shutdownRequested) (m : Move) :
    ∃ p', (s.move m).jobs[n]? = some p' ∧
      Listening.Course s.world.signalFaults p' (s.move m).world.shutdownRequested := by
  rcases move_of_job job m with ⟨-, hsame⟩ | ⟨t, rfl, ready, rfl⟩
  · refine ⟨p, hsame, ?_⟩
    -- a request that has been made is still there
    have kept := fun hreq => requested_move (s := s) hreq m
    generalize s.world.shutdownRequested = before at course kept
    generalize (s.move m).world.shutdownRequested = requested at kept
    cases course with
    | fresh => exact .fresh _
    | installed _ available => exact .installed _ available
    | ended => exact kept rfl ▸ .ended
    | failed reason missing => exact kept rfl ▸ .failed reason missing
  · have takes := Takes.goesOn job ready
    obtain ⟨b, rfl⟩ : ∃ b, t = .listening b := by
      generalize s.world.shutdownRequested = requested at course
      cases course <;> exact ⟨_, rfl⟩
    refine ⟨_, takes.turned.job, ?_⟩
    rw [takes.turned.world]
    exact course.turn

/-- A listener that has been started is on its course. -/
theorem listening_after (fresh : s.jobs[n]? = some (.waiting (.listening .fresh)))
    (h : List Move) : ∃ p, (s.after h).jobs[n]? = some p ∧
      Listening.Course s.world.signalFaults p (s.after h).world.shutdownRequested := by
  induction h using List.reverseRecOn with
  | nil => exact ⟨_, fresh, .fresh _⟩
  | append_singleton h m ih =>
    obtain ⟨p, job, course⟩ := ih
    rw [after_concat, ← signalFaults_after h] at *
    exact listening_move job course m

section Turns

variable {b : Listening} (job : s.jobs[n]? = some (.waiting (.listening b)))

include job

/-- A listener may go on when what it waits for is there. -/
theorem isRunnable_listening : s.isRunnable (.job n) = s.world.ready b.wait := by
  cases b <;> simp [isRunnable, waitOf, job, Task.wait, Listening.wait, ready]

/-- A listener that may go on does so. -/
theorem listening_turn (ready : s.world.ready b.wait = true) :
    s.isRunnable (.job n) = true ∧ (s.move (.act (.job n))).world = (b.resume s.world).1 ∧
      (s.move (.act (.job n))).jobs[n]? =
        some ((b.resume s.world).asJob .listening fun () => .nothing).2 := by
  have hready : s.ready (Task.listening b).wait = true := by
    cases b <;> exact ready
  have turned := (Takes.goesOn job hready).turned
  refine ⟨(isRunnable_job s n).mpr ⟨_, job, hready⟩, turned.world.trans ?_, turned.job⟩
  exact keeps_asJob (f := id) rfl

/-- A listener goes on once a shutdown is requested, and ends. It ends well, unless it has not run
yet, looks for the interrupt before the request, and cannot listen for it. -/
theorem released_of_requested (requested : s.world.shutdownRequested = true) :
    s.isRunnable (.job n) = true ∧ ∃ o, (s.move (.act (.job n))).outcome? n = some o ∧
      (o = .ok .nothing ∨ b = .fresh ∧ s.world.preference.request = false ∧ ∃ reason,
        s.world.signalFaults.interrupt = some reason ∧ o = .failed (.signals reason)) := by
  have ready : s.world.ready b.wait = true := by
    cases b <;> simp [Listening.wait, World.ready, requested]
  obtain ⟨runnable, -, hjob⟩ := listening_turn job ready
  refine ⟨runnable, ?_⟩
  rcases Listening.resume_requested requested b with ends | ⟨fresh, last, reason, missing, fails⟩
  · exact ⟨_, outcome?_of_finished (hjob.trans (congrArg some (asJob_of_finished ends))), .inl rfl⟩
  · exact ⟨_, outcome?_of_finished (hjob.trans (congrArg some (asJob_of_finished fails))),
      .inr ⟨fresh, last, reason, missing, rfl⟩⟩

/-- Where it can listen for the interrupt it ends well. -/
theorem released_of_available (requested : s.world.shutdownRequested = true)
    (available : s.world.signalFaults.interrupt = none) :
    s.isRunnable (.job n) = true ∧
      (s.move (.act (.job n))).outcome? n = some (.ok .nothing) := by
  obtain ⟨runnable, o, ended, rfl | ⟨-, -, reason, missing, -⟩⟩ :=
    released_of_requested job requested
  · exact ⟨runnable, ended⟩
  · rw [available] at missing
    cases missing

end Turns

/-- A listener that listens goes on when one of its signals has arrived. It requests a shutdown, and
ends well. -/
theorem heard_of_arrived {terminate : Bool} {signal : Signal}
    (job : s.jobs[n]? = some (.waiting (.listening (.installed terminate))))
    (listened : signal = .terminate → terminate = true)
    (arrived : s.world.hasArrived signal = true)
    (unrequested : s.world.shutdownRequested = false) :
    s.isRunnable (.job n) = true ∧ (s.move (.act (.job n))).world.shutdownRequested = true ∧
      (s.move (.act (.job n))).outcome? n = some (.ok .nothing) := by
  have ready : s.world.ready (.signal terminate) = true := by
    cases signal with
    | interrupt => simp [World.ready, arrived]
    | terminate => simp [World.ready, arrived, listened rfl]
  obtain ⟨runnable, hworld, hjob⟩ := listening_turn job ready
  obtain ⟨hends, hrequested⟩ := Listening.resume_arrived unrequested listened arrived
  refine ⟨runnable, hworld ▸ hrequested, outcome?_of_finished (hjob.trans ?_)⟩
  rw [asJob_of_finished hends]
  rfl

/-- A listener that listens waits until a shutdown is requested or one of its signals arrives. -/
theorem idle_of_quiet {terminate : Bool}
    (job : s.jobs[n]? = some (.waiting (.listening (.installed terminate))))
    (unrequested : s.world.shutdownRequested = false)
    (interrupt : s.world.hasArrived .interrupt = false)
    (termination : terminate = true → s.world.hasArrived .terminate = false) :
    s.isRunnable (.job n) = false := by
  rw [isRunnable_listening job]
  cases terminate with
  | true => simp [Listening.wait, World.ready, unrequested, interrupt, termination rfl]
  | false => simp [Listening.wait, World.ready, unrequested, interrupt]

/-- A listener on its course listens for each signal by itself. -/
theorem apart_of_course {p : Progress Task Outcome} (job : s.jobs[n]? = some p)
    (paired : s.world.signalFaults.Paired)
    (course : Listening.Course s.world.signalFaults p s.world.shutdownRequested) :
    s.ListensApart n := by
  refine { heard := ?heard, unavailable := ?unavailable, failed := ?failed, released := ?released
           installs := ?installs, waits := ?waits }
  case heard =>
    intro signal terminate admits arrived unrequested listening
    refine heard_of_arrived listening ?_ arrived unrequested
    rintro rfl
    rw [job, Option.some.injEq] at listening
    subst listening
    rw [unrequested] at course
    cases course
    exact admits
  case unavailable =>
    intro none unrequested
    obtain ⟨reason, missing⟩ := SignalFaults.interrupt_of_none none
    rw [unrequested] at course
    cases course with
    | fresh =>
      obtain ⟨runnable, hworld, hjob⟩ := listening_turn job rfl
      obtain ⟨fails, requests⟩ :=
        Listening.resume_unavailable unrequested missing (none .terminate)
      exact ⟨runnable, hworld ▸ requests, reason, missing,
        outcome?_of_finished (hjob.trans (congrArg some (asJob_of_finished fails)))⟩
    | installed _ available => rw [missing] at available; cases available
  case failed =>
    intro o ho
    generalize s.world.shutdownRequested = requested at course
    cases course with
    | fresh => rw [outcome?_of_waiting job] at ho; cases ho
    | installed => rw [outcome?_of_waiting job] at ho; cases ho
    | ended =>
      rw [outcome?_of_finished job] at ho
      exact .inl (Option.some.inj ho).symm
    | failed reason missing =>
      rw [outcome?_of_finished job] at ho
      refine .inr ⟨fun signal => Bool.eq_false_iff.mpr fun admits => ?_, reason,
        (Option.some.inj ho).symm⟩
      rw [paired.interrupt_of_admits admits] at missing
      cases missing
  case released =>
    intro signal admits requested
    have available := paired.interrupt_of_admits admits
    have course' := course
    rw [requested] at course'
    cases course' with
    | fresh => exact .inr (released_of_available job requested available)
    | installed => exact .inr (released_of_available job requested available)
    | ended => exact .inl (outcome?_of_finished job)
    | failed reason missing => rw [available] at missing; cases missing
  case installs =>
    intro signal admits unrequested fresh
    obtain ⟨runnable, hworld, hjob⟩ := listening_turn fresh rfl
    obtain ⟨hwaits, hkept⟩ :=
      Listening.resume_fresh unrequested (paired.interrupt_of_admits admits)
    exact ⟨runnable, hworld ▸ hkept, hjob.trans (congrArg some (asJob_of_waiting hwaits))⟩
  case waits =>
    intro signal admits unrequested quiet
    rw [unrequested] at course
    cases course with
    | fresh => exact .inl job
    | installed _ available =>
      have interrupt := quiet .interrupt (by simp [SignalFaults.admits, available])
      exact .inr ⟨idle_of_quiet job unrequested interrupt (quiet .terminate), job⟩

/-- At every moment after it has been started a listener listens for each signal by itself, unless
the interrupt is the only one that cannot be listened for. -/
theorem listens_apart (s : System) (n : Nat)
    (fresh : s.jobs[n]? = some (.waiting (.listening .fresh)))
    (paired : s.world.signalFaults.Paired) (h : List Move) : (s.after h).ListensApart n := by
  obtain ⟨p, job, course⟩ := listening_after fresh h
  have faults := s.signalFaults_after h
  exact apart_of_course job (faults ▸ paired) (faults ▸ course)

/-- A listener that has just been started, where some signals cannot be listened for. -/
def listeningWith (faults : SignalFaults) : System :=
  (Setup.system { signalFaults := faults }).begin .listen

/-- Both signals arrive, the termination signal first. -/
def signalHistory : List Move :=
  [.act (.job 0), .openGate "SIGTERM", .act (.job 0), .openGate "SIGINT", .act (.job 0)]

theorem listens_apart_signalHistory :
    ((listeningWith { terminate := some "no driver" }).after signalHistory).ListensApart 0 ∧
      ((listeningWith { terminate := some "no driver" }).after signalHistory).outcome? 0 =
        some (.ok .nothing) :=
  ⟨listens_apart (listeningWith { terminate := some "no driver" }) 0 rfl
    (fun missing => by cases missing) signalHistory, rfl⟩

/-- A listener that cannot listen for the interrupt requests a shutdown in its first turn and fails,
although it can listen for the termination signal. -/
theorem interrupt_missing_not_apart :
    ¬ (∀ (s : System) (n : Nat) (h : List Move),
      s.jobs[n]? = some (.waiting (.listening .fresh)) → (s.after h).ListensApart n) ∧
    (listeningWith { interrupt := some "no driver" }).world.signalFaults.admits .terminate = true ∧
    ((listeningWith { interrupt := some "no driver" }).move
      (.act (.job 0))).world.shutdownRequested = true ∧
    ((listeningWith { interrupt := some "no driver" }).move (.act (.job 0))).outcome? 0 =
      some (.failed (.signals "no driver")) := by
  refine ⟨fun claim => ?_, rfl, rfl, rfl⟩
  have apart := claim (listeningWith { interrupt := some "no driver" }) 0 [] rfl
  obtain ⟨-, kept, -⟩ := apart.installs .terminate rfl rfl rfl
  cases kept

end System

end TopicWorker
