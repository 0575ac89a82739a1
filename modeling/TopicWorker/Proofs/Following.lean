import TopicWorker.Proofs.Course
import TopicWorker.Proofs.Moves

/-!
# Following a receiver through a history

A history is full of moves that do not concern a given receiver. Here every move is looked at
from where one receiver stands: either it is not there yet, or one of the few things happens
to it that can. What is kept by each of them is kept by every history, whatever else goes on.

## Main definitions

* `System.stopCalls`: how often the stop of a receiver has been called.

## Main results

* `System.steps_of_runnable`: a receive loop that may go on makes a step.
* `System.undergoes`, `System.appears`: a move, seen from a receiver.
* `System.trace_after`: what a history adds to the trace is what its actors do.
* `System.course_after`: the invariant of every receiver of every reachable system.
* `System.feed_after`: what a receiver has taken and what it holds is what has arrived.
-/

namespace TopicWorker

/-- No event of a job names a receiver. -/
theorem Turn.Speaks.nameless {σ ρ : Type} {stages : List Lifecycle} {pending : σ → Option Pending}
    {w : World} {heard : Option Pending} {t : Turn σ ρ}
    (h : t.Speaks stages pending w (heard.map Pending.heard).toList) :
    ∃ news, t.1.trace = w.trace ++ news ∧ ∀ e ∈ news, e.receiver? = none := by
  obtain ⟨told, htold, htrace⟩ := h
  refine ⟨_, htrace, ?_⟩
  intro e he
  rcases List.mem_append.mp he with he | he
  · rcases List.mem_append.mp he with he | he
    · obtain ⟨p, -, rfl⟩ : ∃ p, heard = some p ∧ Pending.heard p = e := by simpa using he
      rfl
    · have := htold e he
      cases e <;> first | rfl | exact this.elim
  · unfold Progress.calls at he
    split at he
    · obtain ⟨p, -, rfl⟩ := by simpa using he
      rfl
    · simp at he
    · simp at he

/-- A job that may complete a registration does not call for a stop. -/
theorem Task.stopCall?_of_registering {t : Task} {x : Registration × String}
    (h : t.registering? = some x) : t.stopCall? = none := by
  have app : ∀ {a : AppSetup} {s : App}, s.registering? a = some x → s.stopCall? = none := by
    intro a s hs
    cases s <;> first | rfl | simp [App.registering?] at hs
  cases t with
  | app a s => exact app h
  | program p =>
    cases p with
    | running a listener s => exact app h
    | joining listener result => rfl
  | starting g s => rfl
  | _ => simp [Task.registering?] at h

namespace World

/-- A receiver whose stop is called is the one at its place. -/
theorem claiming_getElem? (w : World) (c : Option Nat) {r : Nat} (h : r < w.receivers.length) :
    (w.claiming c)[r]? = some (if c = some r ∧ (w.receiver r).joinable = true
      then (w.receiver r).claimed else w.receiver r) := by
  cases c with
  | none => simp [claiming, getElem?_receivers h]
  | some r' =>
    by_cases hr : r' = r
    · subst hr
      by_cases hj : (w.receiver r').joinable = true
      · simp [claiming, hj, getElem?_receivers h]
      · simp [claiming, hj, getElem?_receivers h]
    · by_cases hj : (w.receiver r').joinable = true
      · simp [claiming, hj, hr, getElem?_receivers h]
      · simp [claiming, hj, hr, getElem?_receivers h]

/-- Calling for a stop adds no receiver. -/
@[simp] theorem length_claiming (w : World) (c : Option Nat) :
    (w.claiming c).length = w.receivers.length := by
  cases c with
  | none => rfl
  | some r =>
    simp only [claiming]
    split <;> simp

end World

/-- Some deeds in which only a receive loop speaks of its receiver. -/
def WellNamed (deeds : List (Actor × Event)) : Prop :=
  ∀ a e r, (a, e) ∈ deeds → e.receiver? = some r → a = .receiver r

namespace System

/-- How often the stop of a receiver is called in the course of a history. -/
def stopCalls (r : Nat) (s : System) : List Move → Nat
  | [] => 0
  | m :: h => (s.stopCall? m).toList.count r + (s.move m).stopCalls r h

/-- One more move. -/
theorem stopCalls_concat (r : Nat) (s : System) (h : List Move) (m : Move) :
    s.stopCalls r (h ++ [m]) = s.stopCalls r h + ((s.after h).stopCall? m).toList.count r := by
  induction h generalizing s with
  | nil => simp [stopCalls]
  | cons m' h ih => simp [stopCalls, ih, Nat.add_assoc]

/-- The stops that are called in a history and in what follows it. -/
theorem stopCalls_append (r : Nat) (s : System) (h h' : List Move) :
    s.stopCalls r (h ++ h') = s.stopCalls r h + (s.after h).stopCalls r h' := by
  induction h generalizing s with
  | nil => simp [stopCalls]
  | cons m h ih => simp [stopCalls, ih, Nat.add_assoc]

/-! ## The trace -/

/-- A receive loop that may go on plays. -/
theorem plays_of_runnable {s : System} {r : Nat} (ready : s.isRunnable (.receiver r) = true) :
    ∃ played v, (s.world.receiver r).Steps played v ∧
      s.world.Plays r v played (s.world.runReceiver r) := by
  cases hwait : (s.world.receiver r).wait? r with
  | none => simp [isRunnable, waitOf, hwait] at ready
  | some wait =>
    have hready : s.ready wait = true := by simpa [isRunnable, waitOf, hwait] using ready
    refine World.runReceiver_plays hwait ?_
    have hworld : s.ready wait = s.world.ready wait := by
      unfold Receiver.wait? at hwait
      split at hwait
      · cases hwait
        rfl
      · cases hwait
        cases ‹Processing› <;> rfl
      · cases hwait
      · cases hwait
    rw [← hworld]
    exact hready

/-- A move that adds to the trace has an actor, and only a receive loop speaks of its
receiver. -/
theorem adds (s : System) (m : Move) :
    ∃ news, (s.move m).world.trace = s.world.trace ++ news ∧
      (news = [] ∨ ∃ a, s.actorOf m = some a ∧
        ∀ e ∈ news, ∀ r, e.receiver? = some r → a = .receiver r) := by
  have kind := s.move_kind m
  generalize s.move m = s' at *
  cases kind with
  | turns takes turned =>
    obtain ⟨stages, heard, hspeaks⟩ := takes.speaks
    obtain ⟨news, htrace, hnames⟩ := hspeaks.nameless
    refine ⟨news, turned.world ▸ htrace, .inr ⟨_, takes.actor, fun e he r hr => ?_⟩⟩
    rw [hnames e he] at hr
    cases hr
  | receives ready =>
    obtain ⟨played, v, -, hplays⟩ := plays_of_runnable ready
    obtain ⟨news, htrace, -, hnames⟩ := hplays.trace
    refine ⟨news, htrace, .inr ⟨_, rfl, fun e he r' hr => ?_⟩⟩
    rw [(hnames e he).2 r' hr]
  | outside jobs handles trace => exact ⟨[], by simp [trace], .inl rfl⟩

/-- What a move adds to the trace is what its actor does. -/
theorem trace_move (s : System) (m : Move) :
    (s.move m).world.trace = s.world.trace ++ (s.doing m).map (·.2) := by
  obtain ⟨news, htrace, hnews⟩ := s.adds m
  rw [htrace]
  simp only [doing]
  rcases hnews with rfl | ⟨a, ha, -⟩
  · cases s.actorOf m <;> simp [added_of_trace htrace]
  · simp [ha, added_of_trace htrace, Function.comp_def]

/-- Only a receive loop speaks of its receiver. -/
theorem eq_receiver_of_doing {s : System} {m : Move} {a : Actor} {e : Event} {r : Nat}
    (h : (a, e) ∈ s.doing m) (hr : e.receiver? = some r) : a = .receiver r := by
  obtain ⟨news, htrace, hnews⟩ := s.adds m
  unfold doing at h
  rcases hnews with rfl | ⟨a', ha', hnames⟩
  · cases hact : s.actorOf m <;> simp [hact, added_of_trace htrace] at h
  · simp only [ha', added_of_trace htrace, List.mem_map] at h
    obtain ⟨e', he', heq⟩ := h
    cases heq
    exact hnames e he' r hr

/-- What a history adds to the trace is what its actors do. -/
theorem trace_after (s : System) (h : List Move) :
    (s.after h).world.trace = s.world.trace ++ (s.deeds h).map (·.2) := by
  induction h generalizing s with
  | nil => simp [deeds]
  | cons m h ih => simp [deeds, ih, trace_move]

/-- Only a receive loop ever speaks of its receiver. -/
theorem wellNamed_deeds (s : System) (h : List Move) : WellNamed (s.deeds h) := by
  intro a e r he hr
  induction h generalizing s with
  | nil => simp [deeds] at he
  | cons m h ih =>
    rcases List.mem_append.mp he with he | he
    · exact eq_receiver_of_doing he hr
    · exact ih _ he

/-! ## A receiver in one move -/

/-- What an actor does in its own move. -/
theorem eventsBy_doing_own {s : System} {m : Move} {a : Actor} (h : s.actorOf m = some a) :
    eventsBy a (s.doing m) = s.added m := by
  simp [doing, h]

/-- What an actor does in the move of another one: nothing. -/
theorem eventsBy_doing_other {s : System} {m : Move} {a : Actor} (h : s.actorOf m ≠ some a) :
    eventsBy a (s.doing m) = [] := by
  simp only [doing]
  cases hact : s.actorOf m with
  | none => rfl
  | some a' => exact eventsBy_map_other (fun he => h (by rw [hact, he])) _

/-- What a job does in its turn: it hears the answer it has waited for, tells, and calls. -/
theorem doing_of_takes {s : System} {m : Move} {n : Nat} {t : Turn Task Outcome}
    {stages : List Lifecycle} {heard : List Event} (takes : s.Takes m n t)
    (world : (s.move m).world = t.1) (speaks : t.Speaks stages Task.pending? s.world heard) :
    ∃ told, (∀ e ∈ told, e.Told stages) ∧
      s.doing m = (heard ++ told ++ t.2.calls Task.pending?).map (.job n, ·) := by
  obtain ⟨told, htold, htrace⟩ := speaks
  refine ⟨told, htold, ?_⟩
  simp only [doing, takes.actor, added_of_trace (world ▸ htrace)]

/-- What of some kind a turn adds to the trace is what its job does of that kind. -/
theorem filter_of_takes {s : System} {m : Move} {n : Nat} {t : Turn Task Outcome}
    {kind : Event → Bool} {more : List Event} (takes : s.Takes m n t)
    (h : t.1.trace.filter kind = s.world.trace.filter kind ++ more) :
    (eventsBy (.job n) (s.doing m)).filter kind = more := by
  obtain ⟨news, htrace, -⟩ := s.adds m
  rw [eventsBy_doing_own takes.actor, added_of_trace htrace]
  rw [← takes.turned.world, htrace, List.filter_append] at h
  exact List.append_cancel_left h

/-- A job that is to move and has no turn does not move anything. -/
theorem move_of_no_turn {s : System} {m : Move} {n : Nat} (own : s.actorOf m = some (.job n))
    (h : ∀ t, ¬ s.Takes m n t) : s.move m = s := by
  cases m with
  | begin q =>
    cases own
    exact absurd (.begins q) (h _)
  | launch env =>
    cases own
    exact absurd (.launches env) (h _)
  | act a =>
    cases own
    have idle : ¬ s.isRunnable (.job n) = true := by
      intro hr
      obtain ⟨t, job, ready⟩ := (isRunnable_job s n).mp hr
      exact h _ (.goesOn job ready)
    simp [move, act, idle]
  | _ => cases own

/-- What a job does in a move that is no turn of it: nothing. -/
theorem doing_of_no_turn {s : System} {m : Move} {n : Nat} (h : ∀ t, ¬ s.Takes m n t) :
    eventsBy (.job n) (s.doing m) = [] := by
  by_cases hact : s.actorOf m = some (.job n)
  · rw [eventsBy_doing_own hact, added, move_of_no_turn hact h, List.drop_length]
  · exact eventsBy_doing_other hact

/-- What a job does in a move it does in its turn. -/
theorem takes_of_doing {s : System} {m : Move} {n : Nat} {e : Event}
    (h : (.job n, e) ∈ s.doing m) : ∃ u, s.Takes m n u := by
  by_contra idle
  rw [← mem_eventsBy, doing_of_no_turn fun u takes => idle ⟨u, takes⟩] at h
  cases h

/-- What is done in a move is its actor's. -/
theorem actor_of_doing {s : System} {m : Move} {d : Actor × Event} (h : d ∈ s.doing m) :
    s.actorOf m = some d.1 := by
  unfold doing at h
  split at h
  · next a ha =>
    obtain ⟨e, -, rfl⟩ := List.mem_map.mp h
    exact ha
  · cases h

/-- A job that has called the broker waits for the answer. -/
theorem waits_of_called {s : System} {m : Move} {n : Nat} {c : Call}
    (h : (.job n, .called c) ∈ s.doing m) : ∃ t p, (s.move m).jobs[n]? = some (.waiting t) ∧
      t.pending? = some p ∧ p.call = c ∧ t.method? = some c.method := by
  obtain ⟨u, takes⟩ := takes_of_doing h
  obtain ⟨stages, heard, hspeaks⟩ := takes.speaks
  obtain ⟨news, htrace, hcalls⟩ := hspeaks.calls
  rw [← takes.turned.world] at htrace
  rw [← mem_eventsBy, eventsBy_doing_own takes.actor, added_of_trace htrace] at h
  obtain ⟨t, p, hu, hp, rfl⟩ := hcalls c h
  have hmethod : (t.pending?).map (·.call.method) = t.method? := takes.fits.of_waiting hu
  refine ⟨t, p, hu ▸ takes.turned.job, hp, rfl, ?_⟩
  rw [← hmethod, hp]
  rfl

/-- A job that goes on hears the answer that it has waited for. -/
theorem heard_of_takes {s : System} {n : Nat} {t : Task} {p : Pending}
    (job : s.jobs[n]? = some (.waiting t)) (ready : s.ready t.wait = true)
    (pending : t.pending? = some p) : (.job n, p.heard) ∈ s.doing (.act (.job n)) := by
  have takes := Takes.goesOn job ready
  obtain ⟨told, -, hdoing⟩ := doing_of_takes takes takes.turned.world (s.speaks_turn t)
  rw [hdoing]
  exact List.mem_map_of_mem (by simp [pending])

/-- An answer that a job hears it has waited for. -/
theorem waits_of_answered {s : System} {m : Move} {n : Nat} {c : Call} {x : Answer}
    (h : (.job n, .answered c x) ∈ s.doing m) : ∃ t p, s.jobs[n]? = some (.waiting t) ∧
      t.pending? = some p ∧ p.heard = .answered c x := by
  -- of what a turn adds to the trace only what is heard is an answer
  have hears : ∀ {u : Turn Task Outcome} {stages : List Lifecycle} {heard : List Event},
      s.Takes m n u → u.Speaks stages Task.pending? s.world heard → .answered c x ∈ heard := by
    intro u stages heard takes speaks
    obtain ⟨told, htold, hdoing⟩ := doing_of_takes takes takes.turned.world speaks
    rw [hdoing] at h
    obtain ⟨e, he, heq⟩ := List.mem_map.mp h
    cases heq
    rcases List.mem_append.mp he with he | he
    · rcases List.mem_append.mp he with he | he
      · exact he
      · exact (htold _ he).elim
    · cases hu : u.2 <;> simp [Progress.calls, hu] at he
  obtain ⟨u, takes⟩ := takes_of_doing h
  cases takes with
  | @goesOn _ t job ready =>
    have hmem := hears (.goesOn job ready) (s.speaks_turn t)
    cases hp : t.pending? with
    | none => simp [hp] at hmem
    | some p =>
      have heq : Event.answered c x = p.heard := by simpa [hp] using hmem
      exact ⟨t, p, job, hp, heq.symm⟩
  | begins q => cases hears (.begins q) (speaks_begin s.world q s.handles)
  | launches env => cases hears (.launches env) (s.speaks_launchTurn env)

/-- The call whose answer a job waits for after its turn has been made in the turn. -/
theorem called_of_takes {s : System} {m : Move} {n : Nat} {t : Turn Task Outcome} {task : Task}
    {p : Pending} (takes : s.Takes m n t) (world : (s.move m).world = t.1)
    (waits : t.2 = .waiting task) (pending : task.pending? = some p) :
    (.job n, .called p.call) ∈ s.doing m := by
  obtain ⟨stages, heard, hspeaks⟩ := takes.speaks
  obtain ⟨told, -, hdoing⟩ := doing_of_takes takes world hspeaks
  rw [hdoing]
  exact List.mem_map_of_mem (by simp [waits, Progress.calls, pending])

/-- What becomes of the receivers in a move of a job: the stop of one is called, or a new one
comes after them. -/
theorem receivers_job_move {s : System} {m : Move} {n : Nat} (h : s.actorOf m = some (.job n)) :
    (s.move m).world.receivers = s.world.claiming (s.stopCall? m) ∨
      ∃ t g tag, m = .act (.job n) ∧ s.jobs[n]? = some (.waiting t) ∧
        t.registering? = some (g, tag) ∧
        (s.move m).world.receivers = s.world.receivers ++ [g.opened tag s.world.nextTask] := by
  have kind := s.move_kind m
  generalize s.move m = s' at *
  cases kind with
  | turns takes turned =>
    have hactor := takes.actor.symm.trans h
    cases hactor
    rw [turned.world]
    exact takes.receivers
  | receives ready => cases h
  | outside jobs handles trace lifecycle registrations receivers uncalled =>
    left
    rw [receivers, uncalled]
    cases m <;> first | rfl | cases h

/-- A move that completes a registration calls for no stop. -/
theorem stopCall?_of_registering {s : System} {n : Nat} {t : Task} {x : Registration × String}
    (job : s.jobs[n]? = some (.waiting t)) (reg : t.registering? = some x) :
    s.stopCall? (.act (.job n)) = none := by
  simp [stopCall?, job, Task.stopCall?_of_registering reg]

/-- A move of a job, seen from a receiver that is there. -/
theorem undergoes_job {s : System} {m : Move} {n r : Nat} (h : s.actorOf m = some (.job n))
    (hr : r < s.world.receivers.length) :
    ∃ v', (s.move m).world.receivers[r]? = some v' ∧
      (s.world.receiver r).Undergoes (s.stopCall? m == some r) [] [] v' := by
  rcases receivers_job_move h with hsame | ⟨t, g, tag, rfl, hjob, hreg, hmore⟩
  · rw [hsame, World.claiming_getElem? _ _ hr]
    refine ⟨_, rfl, ?_⟩
    by_cases hc : s.stopCall? m = some r
    · simpa [hc] using Receiver.Undergoes.called
    · have hne : (s.stopCall? m == some r) = false := beq_false_of_ne hc
      rw [hne, if_neg fun hboth => hc hboth.1]
      exact .rests
  · rw [stopCall?_of_registering hjob hreg, hmore, List.getElem?_append_left hr,
      World.getElem?_receivers hr]
    exact ⟨_, rfl, .rests⟩

/-- A receive loop that may go on makes one of its steps, and plays what belongs to it. -/
theorem steps_of_runnable {s : System} {r : Nat} (ready : s.isRunnable (.receiver r) = true) :
    ∃ v, (s.world.receiver r).Steps
        (beats (eventsBy (.receiver r) (s.doing (.act (.receiver r))))) v ∧
      (s.move (.act (.receiver r))).world.receivers = s.world.receivers.set r v := by
  have moved : s.move (.act (.receiver r)) = { s with world := s.world.runReceiver r } := by
    simp [move, act, step, ready]
  obtain ⟨played, v, steps, plays⟩ := plays_of_runnable ready
  obtain ⟨news, trace, rfl, -⟩ := plays.trace
  rw [eventsBy_doing_own rfl, added_of_trace (by rw [moved]; exact trace), moved]
  exact ⟨v, steps, plays.receivers⟩

/-- A move, seen from a receiver that is there. -/
theorem undergoes (s : System) (m : Move) {r : Nat} (hr : r < s.world.receivers.length) :
    ∃ v', (s.move m).world.receivers[r]? = some v' ∧
      (s.world.receiver r).Undergoes (s.stopCall? m == some r) (s.arriving r m)
        (beats (eventsBy (.receiver r) (s.doing m))) v' := by
  have here := World.getElem?_receivers hr
  have job : ∀ {n : Nat}, s.actorOf m = some (.job n) → s.arriving r m = [] →
      ∃ v', (s.move m).world.receivers[r]? = some v' ∧
        (s.world.receiver r).Undergoes (s.stopCall? m == some r) (s.arriving r m)
          (beats (eventsBy (.receiver r) (s.doing m))) v' := by
    intro n hact hnone
    rw [hnone, eventsBy_doing_other (by simp [hact])]
    exact undergoes_job hact hr
  have other : s.actorOf m ≠ some (.receiver r) → eventsBy (.receiver r) (s.doing m) = [] :=
    eventsBy_doing_other
  cases m with
  | begin q => exact job rfl rfl
  | launch env => exact job rfl rfl
  | act a =>
    cases a with
    | job n => exact job rfl rfl
    | observer i =>
      have hsame : (s.move (.act (.observer i))).world.receivers = s.world.receivers := by
        simp only [move, act]
        split <;> rfl
      rw [other (by simp [actorOf]), hsame]
      exact ⟨_, here, .rests⟩
    | receiver r' =>
      by_cases ready : s.isRunnable (.receiver r') = true
      · obtain ⟨v, hsteps, hreceivers⟩ := steps_of_runnable ready
        rw [hreceivers]
        by_cases heq : r' = r
        · subst heq
          exact ⟨v, by simp [hr], .steps hsteps⟩
        · rw [other (by simpa [actorOf] using heq), List.getElem?_set_ne heq]
          exact ⟨_, here, .rests⟩
      · have hmove : s.move (.act (.receiver r')) = s := by simp [move, act, ready]
        have hdoing : s.doing (.act (.receiver r')) = [] := by simp [doing, actorOf, added, hmove]
        rw [hdoing, hmove]
        exact ⟨_, here, .rests⟩
  | deliver r' item =>
    rw [other (by simp [actorOf])]
    show ∃ v', (s.world.deliver r' item).receivers[r]? = some v' ∧
      (s.world.receiver r).Undergoes false (s.arriving r (.deliver r' item)) [] v'
    by_cases heq : r' = r
    · subst heq
      cases hclosed : (s.world.receiver r').feedClosed with
      | true =>
        have hlost : s.arriving r' (.deliver r' item) = [] := by simp [arriving, hclosed]
        rw [hlost]
        refine ⟨s.world.receiver r', ?_, .rests⟩
        simp [World.deliver, World.modifyReceiver, here, hclosed]
      | false =>
        have hgained : s.arriving r' (.deliver r' item) = [item] := by simp [arriving, hr, hclosed]
        rw [hgained]
        refine ⟨_, ?_, .arrives item hclosed⟩
        simp [World.deliver, World.modifyReceiver, here, hclosed]
    · have hforeign : s.arriving r (.deliver r' item) = [] := by simp [arriving, heq]
      rw [hforeign]
      refine ⟨s.world.receiver r, ?_, .rests⟩
      simp [World.deliver, World.modifyReceiver, here, heq]
  | endFeed r' =>
    rw [other (by simp [actorOf])]
    by_cases heq : r' = r
    · subst heq
      refine ⟨{ s.world.receiver r' with feedClosed := true }, ?_, .ends⟩
      simp [move, disturb, World.endFeed, World.modifyReceiver, here]
    · refine ⟨s.world.receiver r, ?_, .rests⟩
      simp [move, disturb, World.endFeed, World.modifyReceiver, here, heq]
  | setStatus l channel connection => exact ⟨_, here, .rests⟩
  | shutdown => exact ⟨_, here, .rests⟩
  | subscribe => exact ⟨_, here, .rests⟩
  | openGate name => exact ⟨_, here, .rests⟩
  | learn script => exact ⟨_, here, .rests⟩
  | prefer p => exact ⟨_, here, .rests⟩

/-- A move, seen from a receiver that is not there: nobody acts for it, nothing arrives for it,
and if it is there afterwards, then a job has just completed its registration. -/
theorem appears (s : System) (m : Move) {r : Nat} (hr : s.world.receivers.length ≤ r) :
    eventsBy (.receiver r) (s.doing m) = [] ∧ s.arriving r m = [] ∧
      ∀ v, (s.move m).world.receivers[r]? = some v → ∃ n t g tag, m = .act (.job n) ∧
        s.jobs[n]? = some (.waiting t) ∧ t.registering? = some (g, tag) ∧
        r = s.world.receivers.length ∧ v = g.opened tag s.world.nextTask := by
  have absent : s.world.receivers[r]? = none := List.getElem?_eq_none hr
  have other : s.actorOf m ≠ some (.receiver r) → eventsBy (.receiver r) (s.doing m) = [] :=
    eventsBy_doing_other
  have job : ∀ {n : Nat}, s.actorOf m = some (.job n) →
      ∀ v, (s.move m).world.receivers[r]? = some v → ∃ n t g tag, m = .act (.job n) ∧
        s.jobs[n]? = some (.waiting t) ∧ t.registering? = some (g, tag) ∧
        r = s.world.receivers.length ∧ v = g.opened tag s.world.nextTask := by
    intro n hact v hv
    rcases receivers_job_move hact with hsame | ⟨t, g, tag, hm, hjob, hreg, hmore⟩
    · rw [hsame, List.getElem?_eq_none (by simpa using hr)] at hv
      cases hv
    · rw [hmore, List.getElem?_append_right hr] at hv
      have hlt := (List.getElem?_eq_some_iff.mp hv).1
      have heq : r = s.world.receivers.length := by
        simp at hlt
        omega
      subst heq
      exact ⟨n, t, g, tag, hm, hjob, hreg, rfl, by simpa using hv.symm⟩
  have length : ∀ {l : List Receiver}, l.length = s.world.receivers.length →
      ∀ v, l[r]? = some v → ∃ n t g tag, m = .act (.job n) ∧
        s.jobs[n]? = some (.waiting t) ∧ t.registering? = some (g, tag) ∧
        r = s.world.receivers.length ∧ v = g.opened tag s.world.nextTask := by
    intro l hl v hv
    rw [List.getElem?_eq_none (by omega)] at hv
    cases hv
  cases m with
  | begin q => exact ⟨other (by simp [actorOf]), rfl, job rfl⟩
  | launch env => exact ⟨other (by simp [actorOf]), rfl, job rfl⟩
  | act a =>
    cases a with
    | job n => exact ⟨other (by simp [actorOf]), rfl, job rfl⟩
    | observer i =>
      refine ⟨other (by simp [actorOf]), rfl, length ?_⟩
      simp only [move, act]
      split <;> rfl
    | receiver r' =>
      by_cases ready : s.isRunnable (.receiver r') = true
      · have hmove : s.move (.act (.receiver r')) =
            { s with world := s.world.runReceiver r' } := by simp [move, act, step, ready]
        obtain ⟨played, v, -, hplays⟩ := plays_of_runnable ready
        have hne : r' ≠ r := by
          rintro rfl
          have hdefault : s.world.receiver r' = default := by simp [World.receiver, absent]
          have hover : s.isRunnable (.receiver r') = false := by
            simp only [isRunnable, waitOf, hdefault]
            rfl
          rw [hover] at ready
          cases ready
        refine ⟨other (by simpa [actorOf] using hne), rfl, length ?_⟩
        simp [hmove, hplays.receivers]
      · have hmove : s.move (.act (.receiver r')) = s := by simp [move, act, ready]
        have hdoing : s.doing (.act (.receiver r')) = [] := by simp [doing, actorOf, added, hmove]
        exact ⟨by rw [hdoing]; rfl, rfl, length (by rw [hmove])⟩
  | deliver r' item =>
    refine ⟨other (by simp [actorOf]), ?_, length ?_⟩
    · have : ¬ r < s.world.receivers.length := by omega
      simp [arriving, this]
    · simp [move, disturb, World.deliver, World.modifyReceiver]
  | endFeed r' =>
    refine ⟨other (by simp [actorOf]), rfl, length ?_⟩
    simp [move, disturb, World.endFeed, World.modifyReceiver]
  | setStatus l channel connection => exact ⟨other (by simp [actorOf]), rfl, length rfl⟩
  | shutdown => exact ⟨other (by simp [actorOf]), rfl, length rfl⟩
  | subscribe => exact ⟨other (by simp [actorOf]), rfl, length rfl⟩
  | openGate name => exact ⟨other (by simp [actorOf]), rfl, length rfl⟩
  | learn script => exact ⟨other (by simp [actorOf]), rfl, length rfl⟩
  | prefer p => exact ⟨other (by simp [actorOf]), rfl, length rfl⟩

/-- Receivers stay. -/
theorem length_receivers_move (s : System) (m : Move) :
    s.world.receivers.length ≤ (s.move m).world.receivers.length := by
  by_cases h : s.world.receivers.length = 0
  · omega
  · obtain ⟨v, hv, -⟩ := s.undergoes m (r := s.world.receivers.length - 1) (by omega)
    have := (List.getElem?_eq_some_iff.mp hv).1
    omega

/-- A move, seen from a receiver that is there and stays. -/
theorem follows (s : System) (m : Move) {r : Nat} (hr : r < s.world.receivers.length) :
    r < (s.move m).world.receivers.length ∧
      (s.world.receiver r).Undergoes (s.stopCall? m == some r) (s.arriving r m)
        (beats (eventsBy (.receiver r) (s.doing m))) ((s.move m).world.receiver r) := by
  obtain ⟨v', hv', hundergoes⟩ := s.undergoes m hr
  have hnow : (s.move m).world.receiver r = v' := by simp [World.receiver, hv']
  exact ⟨(List.getElem?_eq_some_iff.mp hv').1, hnow ▸ hundergoes⟩

/-- A loop that is over does nothing. -/
theorem doing_of_over {s : System} {r : Nat} (hover : (s.world.receiver r).loop.isOver = true)
    (m : Move) : eventsBy (.receiver r) (s.doing m) = [] := by
  by_cases hact : s.actorOf m = some (.receiver r)
  · have hm : m = .act (.receiver r) := by
      cases m <;> simp_all [actorOf]
    have idle : s.isRunnable (.receiver r) = false := by
      cases hloop : (s.world.receiver r).loop with
      | receiving => simp [hloop, Loop.isOver] at hover
      | processing p => simp [hloop, Loop.isOver] at hover
      | ended => simp [isRunnable, waitOf, Receiver.wait?, hloop]
      | crashed payload => simp [isRunnable, waitOf, Receiver.wait?, hloop]
    simp [hm, doing, actorOf, added, move, act, idle]
  · exact eventsBy_doing_other hact

/-- A loop that does nothing stays where it is. -/
theorem loop_of_idle {s : System} {m : Move} {r : Nat} (there : r < s.world.receivers.length)
    (idle : eventsBy (.receiver r) (s.doing m) = []) :
    ((s.move m).world.receiver r).loop = (s.world.receiver r).loop := by
  obtain ⟨-, undergoes⟩ := s.follows m there
  rw [idle, beats_nil] at undergoes
  generalize (s.move m).world.receiver r = v', (s.stopCall? m == some r) = call,
    s.arriving r m = items at undergoes
  cases undergoes with
  | steps h => cases h
  | called => by_cases hj : (s.world.receiver r).joinable = true <;> simp [hj, Receiver.claimed]
  | _ => rfl

/-- An observer does nothing that the trace tells of. -/
theorem doing_observer (s : System) (m : Move) (i : Nat) :
    eventsBy (.observer i) (s.doing m) = [] := by
  by_cases own : s.actorOf m = some (.observer i)
  · have observes : m = .act (.observer i) := by
      cases m <;> simp_all [actorOf]
    have still : (s.move (.act (.observer i))).world.trace = s.world.trace := by
      simp only [move, act]
      split <;> rfl
    rw [eventsBy_doing_own own, observes, added, still, List.drop_length]
  · exact eventsBy_doing_other own

/-! ## A receiver in a history -/

variable {s : System}

/-- A loop that is over stays so and does nothing more. -/
theorem silent_of_over {r : Nat} (h : List Move) {s : System} (hr : r < s.world.receivers.length)
    (hover : (s.world.receiver r).loop.isOver = true) :
    eventsBy (.receiver r) (s.deeds h) = [] ∧
      ((s.after h).world.receiver r).loop = (s.world.receiver r).loop := by
  induction h generalizing s with
  | nil => exact ⟨rfl, rfl⟩
  | cons m h ih =>
    obtain ⟨hlt, hundergoes⟩ := s.follows m hr
    have hloop := (hundergoes.of_over hover).1
    obtain ⟨hsilent, hsame⟩ := ih hlt (by rw [hloop]; exact hover)
    refine ⟨?_, ?_⟩
    · rw [deeds, eventsBy_append, doing_of_over hover, hsilent]
      rfl
    · rw [after_cons, hsame, hloop]

/-- A receiver stays what it was registered as. -/
theorem frame_after {r : Nat} (h : List Move) {s : System} (hr : r < s.world.receivers.length) :
    r < (s.after h).world.receivers.length ∧
      ((s.after h).world.receiver r).tag = (s.world.receiver r).tag ∧
      ((s.after h).world.receiver r).mode = (s.world.receiver r).mode := by
  induction h generalizing s with
  | nil => exact ⟨hr, rfl, rfl⟩
  | cons m h ih =>
    obtain ⟨hlt, hundergoes⟩ := s.follows m hr
    obtain ⟨htag, -, hmode, -⟩ := hundergoes.frame
    obtain ⟨hthere, htag', hmode'⟩ := ih hlt
    exact ⟨hthere, htag'.trans htag, hmode'.trans hmode⟩

/-- What one actor does in the course of a history that goes on. -/
theorem eventsBy_deeds_concat (a : Actor) (s : System) (h : List Move) (m : Move) :
    eventsBy a (s.deeds (h ++ [m])) =
      eventsBy a (s.deeds h) ++ eventsBy a ((s.after h).doing m) := by
  rw [deeds_concat, eventsBy_append]

/-- For a receiver that is not there nobody has acted and nothing has arrived. -/
theorem absent_after (h : List Move) {r : Nat}
    (hr : (s.after h).world.receivers.length ≤ r) :
    eventsBy (.receiver r) (s.deeds h) = [] ∧ s.arrivals r h = [] := by
  induction h using List.reverseRecOn with
  | nil => exact ⟨rfl, rfl⟩
  | append_singleton h m ih =>
    rw [after_concat] at hr
    have hbefore := Nat.le_trans ((s.after h).length_receivers_move m) hr
    obtain ⟨hown, harrived⟩ := ih hbefore
    obtain ⟨hnothing, hnone, -⟩ := (s.after h).appears m hbefore
    rw [eventsBy_deeds_concat, arrivals_concat, hown, hnothing, harrived, hnone]
    exact ⟨rfl, rfl⟩

/-- A handler is called by its receiver, and this one is there. -/
theorem there_of_dispatched {h : List Move} {who : Actor} {r : Nat} {kind : HandlerKind}
    {d : Delivery} {c : TraceContext} (called : (who, .dispatched r kind d c) ∈ s.deeds h) :
    who = .receiver r ∧ r < (s.after h).world.receivers.length := by
  obtain rfl := wellNamed_deeds s h _ _ _ called rfl
  refine ⟨rfl, Nat.lt_of_not_le fun gone => ?_⟩
  rw [← mem_eventsBy, (absent_after h gone).1] at called
  cases called

/-- A job that is not there after a move has not been there before, and has had no turn. -/
theorem absent_of_move {s : System} {m : Move} {n : Nat} (absent : (s.move m).jobs[n]? = none) :
    s.jobs[n]? = none ∧ ∀ t, ¬ s.Takes m n t := by
  have idle : ∀ t, ¬ s.Takes m n t := by
    intro t takes
    rw [takes.turned.job] at absent
    cases absent
  refine ⟨?_, idle⟩
  cases before : s.jobs[n]? with
  | none => rfl
  | some p =>
    rcases move_of_job before m with ⟨-, same⟩ | ⟨t, rfl, ready, rfl⟩
    · rw [same] at absent
      cases absent
    · exact absurd (.goesOn before ready) (idle _)

/-- Jobs stay. -/
theorem length_jobs_le (s : System) (m : Move) : s.jobs.length ≤ (s.move m).jobs.length := by
  have absent := (absent_of_move (s := s) (m := m) (List.getElem?_eq_none (Nat.le_refl _))).1
  exact List.getElem?_eq_none_iff.mp absent

/-- A job that is not there has done nothing. -/
theorem absent_job_after (h : List Move) {n : Nat} (absent : (s.after h).jobs[n]? = none) :
    eventsBy (.job n) (s.deeds h) = [] := by
  induction h using List.reverseRecOn with
  | nil => rfl
  | append_singleton h m ih =>
    rw [after_concat] at absent
    obtain ⟨before, idle⟩ := absent_of_move absent
    rw [eventsBy_deeds_concat, ih before, doing_of_no_turn idle]
    rfl

/-- Everything that has been done has been done in some move. -/
theorem deeds_split {s : System} {h : List Move} {p q : List (Actor × Event)} {d : Actor × Event}
    (split : s.deeds h = p ++ d :: q) : ∃ h₁ m h₂ p' q', h = h₁ ++ m :: h₂ ∧
      (s.after h₁).doing m = p' ++ d :: q' ∧ p = s.deeds h₁ ++ p' ∧
      q = q' ++ (s.after (h₁ ++ [m])).deeds h₂ := by
  induction h generalizing s p with
  | nil => simp [deeds] at split
  | cons m h ih =>
    rw [deeds] at split
    have later : ∀ a' : List (Actor × Event), p = s.doing m ++ a' →
        (s.move m).deeds h = a' ++ d :: q → ∃ h₁ m' h₂ p' q', m :: h = h₁ ++ m' :: h₂ ∧
          (s.after h₁).doing m' = p' ++ d :: q' ∧ p = s.deeds h₁ ++ p' ∧
          q = q' ++ (s.after (h₁ ++ [m'])).deeds h₂ := by
      rintro a' rfl hrest
      obtain ⟨h₁, m', h₂, p', q', rfl, hdoing, rfl, rfl⟩ := ih hrest
      exact ⟨m :: h₁, m', h₂, p', q', rfl, hdoing, by rw [deeds, List.append_assoc], rfl⟩
    rcases List.append_eq_append_iff.mp split with ⟨a', hp, hrest⟩ | ⟨c', hdoing, hrest⟩
    · exact later a' hp hrest
    · cases c' with
      | nil =>
        rw [List.append_nil] at hdoing
        exact later [] (by rw [List.append_nil, hdoing]) hrest.symm
      | cons d' c' =>
        rw [List.cons_append, List.cons.injEq] at hrest
        obtain ⟨rfl, rfl⟩ := hrest
        exact ⟨[], m, h, p, c', rfl, hdoing, rfl, rfl⟩

/-- A property of receivers that holds of every new one and that every move keeps holds of every
receiver that has appeared in the course of a history. -/
theorem receiver_induction (empty : s.world.receivers = []) {r : Nat}
    {motive : List Move → Receiver → Prop}
    (opened : ∀ h n t g tag, (s.after h).jobs[n]? = some (.waiting t) →
      t.registering? = some (g, tag) →
      eventsBy (.receiver r) (s.deeds (h ++ [.act (.job n)])) = [] →
      s.arrivals r (h ++ [.act (.job n)]) = [] →
      motive (h ++ [.act (.job n)]) (g.opened tag (s.after h).world.nextTask))
    (moves : ∀ h m v v', (s.after h).world.receiver r = v → motive h v →
      v.Undergoes ((s.after h).stopCall? m == some r) ((s.after h).arriving r m)
        (beats (eventsBy (.receiver r) ((s.after h).doing m))) v' → motive (h ++ [m]) v')
    (h : List Move) (hr : r < (s.after h).world.receivers.length) :
    motive h ((s.after h).world.receiver r) := by
  induction h using List.reverseRecOn with
  | nil => simp [empty] at hr
  | append_singleton h m ih =>
    by_cases hbefore : r < (s.after h).world.receivers.length
    · obtain ⟨-, hundergoes⟩ := (s.after h).follows m hbefore
      rw [after_concat]
      exact moves h m _ _ rfl (ih hbefore) hundergoes
    · have hgone : (s.after h).world.receivers.length ≤ r := by omega
      obtain ⟨hown, harrived⟩ := absent_after h hgone
      obtain ⟨hnothing, hnone, hnew⟩ := (s.after h).appears m hgone
      rw [after_concat] at hr
      obtain ⟨n, t, g, tag, rfl, hjob, hreg, -, hv⟩ := hnew _ (World.getElem?_receivers hr)
      rw [after_concat, hv]
      refine opened h n t g tag hjob hreg ?_ ?_
      · rw [eventsBy_deeds_concat, hown, hnothing]
        rfl
      · rw [arrivals_concat, harrived, hnone]
        rfl

/-- Every receiver of a reachable system is on its course. -/
theorem course_after (empty : s.world.receivers = []) (h : List Move) {r : Nat}
    (hr : r < (s.after h).world.receivers.length) :
    ∃ laps tail, ((s.after h).world.receiver r).Course
      (beats (eventsBy (.receiver r) (s.deeds h))) laps tail := by
  refine receiver_induction empty (motive := fun h v => ∃ laps tail,
    v.Course (beats (eventsBy (.receiver r) (s.deeds h))) laps tail) ?_ ?_ h hr
  · intro h n t g tag _ _ hown _
    rw [hown]
    exact ⟨[], [], rfl, .receiving, rfl, rfl, by simp [Registration.opened], by simp, by simp, rfl⟩
  · intro h m v v' _ hv hundergoes
    obtain ⟨laps, tail, hc⟩ := hv
    rw [eventsBy_deeds_concat, beats_append]
    exact hc.undergoes hundergoes

/-- What a receiver has taken and what it still holds is what has arrived for it. -/
theorem feed_after (empty : s.world.receivers = []) (h : List Move) {r : Nat}
    (hr : r < (s.after h).world.receivers.length) :
    takenIn (beats (eventsBy (.receiver r) (s.deeds h))) ++
      ((s.after h).world.receiver r).feed = s.arrivals r h := by
  refine receiver_induction empty (motive := fun h v =>
    takenIn (beats (eventsBy (.receiver r) (s.deeds h))) ++ v.feed = s.arrivals r h) ?_ ?_ h hr
  · intro h n t g tag _ _ hown harrived
    rw [hown, harrived]
    rfl
  · intro h m v v' _ hv hundergoes
    rw [eventsBy_deeds_concat, beats_append, takenIn_append, List.append_assoc,
      hundergoes.taken_feed, ← List.append_assoc, hv, arrivals_concat]

end System

/-! ## What the trace says of a receiver -/

/-- The items that a receiver has taken, by the trace. -/
def pulls (r : Nat) (trace : List Event) : List Item :=
  trace.filterMap fun
    | .pulled r' item => if r' = r then some item else none
    | _ => none

/-- The deliveries that the handler of a receiver has been called with, by the trace. -/
def invocations (r : Nat) (trace : List Event) : List Delivery :=
  trace.filterMap fun
    | .dispatched r' _ d _ => if r' = r then some d else none
    | _ => none

/-- The deliveries that the handler of a receiver is done with, by the trace. -/
def returns (r : Nat) (trace : List Event) : List Delivery :=
  trace.filterMap fun
    | .handled r' d _ => if r' = r then some d else none
    | _ => none

/-- What can be read from the events that name a receiver can be read from the beats of its
loop. -/
theorem filterMap_deeds {α : Type} {r : Nat} {f : Event → Option α} {g : Beat → Option α}
    {deeds : List (Actor × Event)} (named : WellNamed deeds)
    (own : ∀ e, e.receiver? = some r ∨ e.receiver? = none → f e = e.beat?.bind g)
    (foreign : ∀ e, e.receiver? ≠ some r → f e = none) :
    (deeds.map (·.2)).filterMap f = (beats (eventsBy (.receiver r) deeds)).filterMap g := by
  induction deeds with
  | nil => rfl
  | cons d deeds ih =>
    obtain ⟨a, e⟩ := d
    have hnamed : WellNamed deeds := fun a e r he => named a e r (List.mem_cons_of_mem _ he)
    have ih := ih hnamed
    by_cases ha : a = .receiver r
    · subst ha
      have howns : e.receiver? = some r ∨ e.receiver? = none := by
        cases hr : e.receiver? with
        | none => exact .inr rfl
        | some r' =>
          have := named _ e r' List.mem_cons_self hr
          cases this
          exact .inl rfl
      rw [eventsBy_cons_self, List.map_cons, List.filterMap_cons, own e howns, ih]
      cases hb : e.beat? with
      | none => simp [beats, hb]
      | some b => simp [beats, hb, List.filterMap_cons]
    · have hforeign : f e = none := foreign e fun hr => ha (named a e r List.mem_cons_self hr)
      rw [eventsBy_cons_of_ne ha, List.map_cons, List.filterMap_cons, hforeign, ih]

section Reading

variable {r : Nat} {deeds : List (Actor × Event)} (named : WellNamed deeds)

include named

theorem pulls_deeds :
    pulls r (deeds.map (·.2)) = takenIn (beats (eventsBy (.receiver r) deeds)) := by
  refine filterMap_deeds named (fun e he => ?_) fun e he => ?_
  · cases e <;> simp_all [Event.receiver?, Event.beat?]
    split <;> simp
  · cases e <;> simp_all [Event.receiver?]

theorem invocations_deeds :
    invocations r (deeds.map (·.2)) = begunIn (beats (eventsBy (.receiver r) deeds)) := by
  refine filterMap_deeds named (fun e he => ?_) fun e he => ?_
  · cases e <;> simp_all [Event.receiver?, Event.beat?]
    split <;> simp
  · cases e <;> simp_all [Event.receiver?]

theorem returns_deeds :
    returns r (deeds.map (·.2)) = endedIn (beats (eventsBy (.receiver r) deeds)) := by
  refine filterMap_deeds named (fun e he => ?_) fun e he => ?_
  · cases e <;> simp_all [Event.receiver?, Event.beat?]
    split <;> simp
  · cases e <;> simp_all [Event.receiver?]

end Reading

end TopicWorker
