import TopicWorker.Proofs.Reports

/-!
# No failure is passed over

A call of the broker may fail, and the failure is told when the answer is heard. So that nothing is
lost it has to be heard: whoever has called the broker waits for the answer, and goes on with
nothing else before. This holds of every job and of every receive loop, also where the result of the
call is thrown away.

## Main definitions

* `askedIn`, `heardIn`: the calls that have been made, and those that have been answered.
* `System.pending?`, `System.awaited?`: the call whose answer an actor waits for.
* `System.FailuresTold`: what is said of the failures in a history and of what is told of them.

## Main results

* `System.awaited_after`: an actor has heard the answer to each of its calls, unless it waits for
  the answer to the last one.
* `System.heard_of_pending`: what it hears is what the broker has replied.
* `System.failures_told`: every failure is told, and nothing else is told as one.
-/

namespace TopicWorker

/-- The call that an event makes. -/
def Event.asked? : Event → Option Call
  | called c => some c
  | _ => none

/-- The call whose answer an event is. -/
def Event.heard? : Event → Option Call
  | answered c _ => some c
  | _ => none

/-- The calls that are made in some events, in order. -/
def askedIn (l : List Event) : List Call := l.filterMap Event.asked?

/-- The calls that are answered in some events, in order. -/
def heardIn (l : List Event) : List Call := l.filterMap Event.heard?

@[simp] theorem askedIn_append (l l' : List Event) :
    askedIn (l ++ l') = askedIn l ++ askedIn l' := by
  simp [askedIn]

@[simp] theorem heardIn_append (l l' : List Event) :
    heardIn (l ++ l') = heardIn l ++ heardIn l' := by
  simp [heardIn]

/-- What is only told is neither a call nor an answer. -/
theorem asked_heard_of_told {stages : List Lifecycle} {told : List Event}
    (h : ∀ e ∈ told, e.Told stages) : askedIn told = [] ∧ heardIn told = [] := by
  have neither : ∀ e ∈ told, e.asked? = none ∧ e.heard? = none := by
    intro e he
    have htold := h e he
    cases e <;> first | exact ⟨rfl, rfl⟩ | exact htold.elim
  exact ⟨List.filterMap_eq_nil_iff.mpr fun e he => (neither e he).1,
    List.filterMap_eq_nil_iff.mpr fun e he => (neither e he).2⟩

/-- The call whose answer a job waits for, with the reply. -/
def Progress.pending? : Progress Task Outcome → Option Pending
  | .waiting t => t.pending?
  | .finished _ | .crashed _ => none

def Progress.awaited? (p : Progress Task Outcome) : Option Call := p.pending?.map (·.call)

/-- A turn ends with the call that is awaited then. -/
theorem asked_calls (p : Progress Task Outcome) :
    askedIn (p.calls Task.pending?) = p.awaited?.toList ∧ heardIn (p.calls Task.pending?) = [] := by
  cases p with
  | waiting t =>
    cases hp : t.pending? <;>
      simp [Progress.calls, Progress.awaited?, Progress.pending?, hp, askedIn, heardIn,
        Event.asked?, Event.heard?]
  | _ => exact ⟨rfl, rfl⟩

/-- The call whose answer a receive loop waits for, with the reply. -/
def Loop.pending? : Loop → Option Pending
  | .processing (.settling _ _ _ p) => some p
  | _ => none

def Loop.awaited? (l : Loop) : Option Call := l.pending?.map (·.call)

/-- The call that a beat makes. -/
def Beat.asked? : Beat → Option Call
  | called c => some c
  | _ => none

/-- The call whose answer a beat is. -/
def Beat.heard? : Beat → Option Call
  | answered c _ => some c
  | _ => none

/-- The calls and the answers of a receive loop are beats. -/
theorem asked_heard_of_beats (l : List Event) :
    askedIn l = (beats l).filterMap Beat.asked? ∧ heardIn l = (beats l).filterMap Beat.heard? := by
  have asks : Event.asked? = fun e => e.beat?.bind Beat.asked? := by
    funext e
    cases e with
    | logged entry =>
      simp only [Event.beat?]
      split <;> rfl
    | _ => rfl
  have hears : Event.heard? = fun e => e.beat?.bind Beat.heard? := by
    funext e
    cases e with
    | logged entry =>
      simp only [Event.beat?]
      split <;> rfl
    | _ => rfl
  simp only [askedIn, heardIn, beats, List.filterMap_filterMap, asks, hears, and_self]

/-- What a step of a loop hears is what the loop has waited for, and what it calls for is waited for
then. -/
theorem Receiver.Steps.awaited {v v' : Receiver} {played : List Beat} (h : v.Steps played v') :
    v.loop.awaited?.toList ++ played.filterMap Beat.asked? =
      played.filterMap Beat.heard? ++ v'.loop.awaited?.toList := by
  cases h with
  | stops loop => rw [loop]; rfl
  | loses loop => rw [loop]; rfl
  | @skips fault rest loop =>
    have still : (v.passedOver rest).loop = .receiving := loop
    rw [loop, still]
    rfl
  | dispatches span loop => rw [loop]; rfl
  | finishes loop => rw [loop]; rfl
  | settles loop => rw [loop]; rfl
  | hears loop => rw [loop]; rfl
  | dies loop => rw [loop]; rfl

/-- Whatever happens to a receiver, its loop calls for nothing before it has heard the answer to its
last call. -/
theorem Receiver.Undergoes.awaited {v v' : Receiver} {called : Bool} {items : List Item}
    {played : List Beat} (h : v.Undergoes called items played v') :
    v.loop.awaited?.toList ++ played.filterMap Beat.asked? =
      played.filterMap Beat.heard? ++ v'.loop.awaited?.toList := by
  cases h with
  | steps h => exact h.awaited
  | called => by_cases hj : v.joinable = true <;> simp [hj, Receiver.claimed]
  | _ => simp

namespace System

variable {s : System}

/-- The call whose answer an actor waits for, with the reply. -/
def pending? (s : System) : Actor → Option Pending
  | .job n => s.jobs[n]?.bind Progress.pending?
  | .receiver r => (s.world.receiver r).loop.pending?
  | .observer _ => none

def awaited? (s : System) (a : Actor) : Option Call := (s.pending? a).map (·.call)

theorem awaited?_job (s : System) (n : Nat) :
    s.awaited? (.job n) = s.jobs[n]?.bind Progress.awaited? := by
  cases h : s.jobs[n]? <;> simp [awaited?, pending?, h, Progress.awaited?]

/-- In a move a job calls for nothing before it has heard the answer to its last call. -/
theorem asked_move_job (s : System) (m : Move) (n : Nat) :
    (s.awaited? (.job n)).toList ++ askedIn (eventsBy (.job n) (s.doing m)) =
      heardIn (eventsBy (.job n) (s.doing m)) ++ ((s.move m).awaited? (.job n)).toList := by
  by_cases turns : ∃ u, s.Takes m n u
  · obtain ⟨u, takes⟩ := turns
    have turned := takes.turned
    have now : (s.move m).awaited? (.job n) = u.2.awaited? := by simp [awaited?_job, turned.job]
    -- what is heard in a turn is what has been awaited before
    have hears : ∃ stages before, u.Speaks stages Task.pending? s.world before ∧
        askedIn before = [] ∧ heardIn before = (s.awaited? (.job n)).toList := by
      cases takes with
      | @goesOn _ t job ready =>
        refine ⟨_, _, s.speaks_turn t, ?_⟩
        cases hp : t.pending? <;> simp [awaited?_job, Progress.awaited?, Progress.pending?, job, hp,
          askedIn, heardIn, Pending.heard, Event.asked?, Event.heard?]
      | begins q =>
        exact ⟨_, _, speaks_begin s.world q s.handles, rfl, by simp [awaited?_job, heardIn]⟩
      | launches env =>
        exact ⟨_, _, s.speaks_launchTurn env, rfl, by simp [awaited?_job, heardIn]⟩
    obtain ⟨stages, before, speaks, unasked, hbefore⟩ := hears
    obtain ⟨told, htold, hdoing⟩ := doing_of_takes takes turned.world speaks
    obtain ⟨told₁, told₂⟩ := asked_heard_of_told htold
    obtain ⟨calls₁, calls₂⟩ := asked_calls u.2
    rw [hdoing, eventsBy_map_same]
    simp only [askedIn_append, heardIn_append, unasked, told₁, told₂, calls₁, calls₂, hbefore, now,
      List.nil_append, List.append_nil]
  · rw [not_exists] at turns
    have same : (s.move m).awaited? (.job n) = s.awaited? (.job n) := by
      cases job : s.jobs[n]? with
      | some p =>
        rcases move_of_job job m with ⟨-, hsame⟩ | ⟨t, rfl, ready, rfl⟩
        · rw [awaited?_job, awaited?_job, hsame, job]
        · exact absurd (.goesOn job ready) (turns _)
      | none =>
        cases now : (s.move m).jobs[n]? with
        | none => rw [awaited?_job, awaited?_job, now, job]
        | some p =>
          rcases job_of_move now with ⟨before, -⟩ | ⟨-, rfl⟩ | ⟨u, takes, -⟩
          · rw [job] at before
            cases before
          · rw [awaited?_job, awaited?_job, now, job]
            rfl
          · exact absurd takes (turns u)
    rw [doing_of_no_turn turns, same]
    simp [askedIn, heardIn]

/-- In a move a receive loop calls for nothing before it has heard the answer to its last call. -/
theorem asked_move_receiver (s : System) (m : Move) (r : Nat) :
    (s.awaited? (.receiver r)).toList ++ askedIn (eventsBy (.receiver r) (s.doing m)) =
      heardIn (eventsBy (.receiver r) (s.doing m)) ++
        ((s.move m).awaited? (.receiver r)).toList := by
  obtain ⟨hasked, hheard⟩ := asked_heard_of_beats (eventsBy (.receiver r) (s.doing m))
  by_cases hr : r < s.world.receivers.length
  · rw [hasked, hheard]
    exact (s.follows m hr).2.awaited
  · obtain ⟨nothing, -, opened⟩ := s.appears m (Nat.le_of_not_lt hr)
    have absent : s.awaited? (.receiver r) = none := by
      rw [awaited?, pending?, World.receiver, List.getElem?_eq_none (Nat.le_of_not_lt hr)]
      rfl
    have fresh : (s.move m).awaited? (.receiver r) = none := by
      rw [awaited?, pending?, World.receiver]
      cases hv : (s.move m).world.receivers[r]? with
      | none => rfl
      | some v =>
        obtain ⟨-, -, g, tag, -, -, -, -, rfl⟩ := opened v hv
        rfl
    rw [nothing, absent, fresh]
    rfl

/-- An actor has heard the answer to each of its calls, unless it waits for the answer to the last
one. -/
theorem awaited_after (setup : Setup) (h : List Move) (a : Actor) :
    askedIn (eventsBy a (setup.system.deeds h)) =
      heardIn (eventsBy a (setup.system.deeds h)) ++
        ((setup.system.after h).awaited? a).toList := by
  induction h using List.reverseRecOn with
  | nil => cases a <;> rfl
  | append_singleton h m ih =>
    have step : ((setup.system.after h).awaited? a).toList ++
        askedIn (eventsBy a ((setup.system.after h).doing m)) =
          heardIn (eventsBy a ((setup.system.after h).doing m)) ++
            (((setup.system.after h).move m).awaited? a).toList := by
      cases a with
      | job n => exact asked_move_job _ m n
      | receiver r => exact asked_move_receiver _ m r
      | observer i => rw [doing_observer]; rfl
    rw [eventsBy_deeds_concat, askedIn_append, heardIn_append, after_concat, ih, List.append_assoc,
      step, List.append_assoc]

/-! ## What is heard -/

variable {σ τ ρ ρ' : Type}

/-- Something is the first that is added to the trace of a world. -/
def AddsFirst (e : Event) (w v : World) : Prop := ∃ rest, v.trace = w.trace ++ e :: rest

theorem addsFirst_emit (e : Event) (w : World) : AddsFirst e w (w.emit e) := ⟨[], w.trace_emit e⟩

theorem AddsFirst.emit {e : Event} {w v : World} (h : AddsFirst e w v) (e' : Event) :
    AddsFirst e w (v.emit e') := by
  obtain ⟨rest, added⟩ := h
  exact ⟨rest ++ [e'], by rw [World.trace_emit, added, List.append_assoc, List.cons_append]⟩

theorem trace_processed (w : World) (r : Nat) (p : Progress Processing (Except Failure Unit)) :
    (w.processed r p).trace = w.trace := by
  rcases p with p | ⟨f | ⟨⟩⟩ | payload <;> rfl

/-- What a turn has heard it has heard first. -/
theorem AddsFirst.of_speaks {stages : List Lifecycle} {pending : σ → Option Pending} {w : World}
    {t : Turn σ ρ} {e : Event} (h : t.Speaks stages pending w [e]) : AddsFirst e w t.1 := by
  obtain ⟨told, -, added⟩ := h
  exact ⟨_, added⟩

/-- It stays first when the turn goes on, -/
theorem AddsFirst.andThen {e : Event} {w : World} {t : Turn σ ρ} (h : AddsFirst e w t.1)
    {embed : σ → τ} {next : ρ → World → Turn τ ρ'}
    (goesOn : ∀ r v, AddsFirst e w v → AddsFirst e w (next r v).1) :
    AddsFirst e w (t.andThen embed next).1 := by
  obtain ⟨v, p⟩ := t
  cases p with
  | finished r => exact goesOn r v h
  | waiting s => exact h
  | crashed payload => exact h

/-- and when a panic ends the span. -/
theorem AddsFirst.closing {e : Event} {w : World} {t : Turn Processing ρ} (h : AddsFirst e w t.1)
    (span : Nat) : AddsFirst e w (Processing.closing span t).1 := by
  obtain ⟨v, p⟩ := t
  cases p with
  | finished r => exact h
  | waiting s => exact h
  | crashed payload => exact h.emit _

/-- A receive loop that goes on with a settlement hears the reply first. -/
theorem addsFirst_settling (r : Nat) (mode : AckMode) (d : Delivery) (span : Nat)
    (failure : Option Failure) (p : Pending) (w : World) :
    AddsFirst p.heard w ((Processing.settling d span failure p).resume r mode w).1 := by
  cases failure with
  | none =>
    have heard := AddsFirst.of_speaks
      (speaks_ackAnswered w d.tag p fun _ : Processing => none)
    refine (heard.andThen fun result v h => ?_).closing span
    rcases result with f | ⟨⟩
    · exact ((h.emit _).emit _).emit _
    · exact (h.emit _).emit _
  | some f =>
    have heard := AddsFirst.of_speaks
      (speaks_rejectAnswered w d.tag (mode == .manual true) p fun _ : Processing => none)
    refine (heard.andThen fun result v h => ?_).closing span
    rcases result with g | ⟨⟩
    · exact (h.emit _).emit _
    · exact h.emit _

/-- What an actor hears is the reply to the call whose answer it waits for. It hears it before it
does anything else. -/
theorem heard_of_pending {a : Actor} {p : Pending} (pending : s.pending? a = some p)
    (ready : s.isRunnable a = true) :
    ∃ rest, eventsBy a (s.doing (.act a)) = .answered p.call p.reply.answer :: rest := by
  cases a with
  | observer i => cases pending
  | job n =>
    obtain ⟨t, job, hready⟩ := (isRunnable_job s n).mp ready
    have waits : t.pending? = some p := by simpa [pending?, Progress.pending?, job] using pending
    have takes := Takes.goesOn job hready
    obtain ⟨told, -, doing⟩ := doing_of_takes takes takes.turned.world (s.speaks_turn t)
    rw [doing, eventsBy_map_same, waits]
    exact ⟨_, rfl⟩
  | receiver r =>
    obtain ⟨d, span, failure, loop⟩ :
        ∃ d span failure, (s.world.receiver r).loop = .processing (.settling d span failure p) := by
      have waits : (s.world.receiver r).loop.pending? = some p := pending
      unfold Loop.pending? at waits
      split at waits
      · rename_i d span failure q loop
        cases waits
        exact ⟨d, span, failure, loop⟩
      · cases waits
    obtain ⟨rest, added⟩ :=
      addsFirst_settling r (s.world.receiver r).mode d span failure p s.world
    have moved : (s.move (.act (.receiver r))).world.trace = s.world.trace ++ p.heard :: rest := by
      have world : (s.move (.act (.receiver r))).world = s.world.runReceiver r := by
        simp [move, act, step, ready]
      rw [world, ← added]
      simp only [World.runReceiver, loop]
      exact trace_processed _ _ _
    rw [eventsBy_doing_own rfl, added_of_trace moved]
    exact ⟨rest, rfl⟩

/-- What is said of the failures in a history and of what is told of them. -/
structure FailuresTold (s : System) (h : List Move) : Prop where
  /-- The error entries of the sites are those of the failures, one for each and in order, and each
  has the broker's text in its field. -/
  reports : reports (s.after h).world.trace =
    (failures (s.after h).world.trace).map fun (x, fault) => (x, some (.text fault.message))
  /-- A failure is told at once. -/
  told_next : ∀ p e q x fault, (s.after h).world.trace = p ++ e :: q →
    e.failure? = some (x, fault) → ∃ entry q', q = .logged entry :: q' ∧ entry.Tells x fault
  /-- Nothing else is told as a failure; -/
  failed_before : ∀ p e q y, (s.after h).world.trace = p ++ e :: q → e.report? = some y →
    ∃ p' e' x fault, p = p' ++ [e'] ∧ e'.failure? = some (x, fault) ∧
      y = (x, some (.text fault.message))
  /-- a call that succeeds adds no such entry. -/
  done : ∀ p c name e q, (s.after h).world.trace = p ++ .answered c (.done name) :: e :: q →
    e.report? = none
  /-- No failure goes unheard: an actor has heard the answer to each of its calls, unless it waits
  for the answer to the last one. -/
  heard : ∀ a, askedIn (eventsBy a (s.deeds h)) =
    heardIn (eventsBy a (s.deeds h)) ++ ((s.after h).awaited? a).toList
  /-- And what it hears is what the broker has replied. It hears it before it does anything else. -/
  replied : ∀ a p, (s.after h).pending? a = some p → (s.after h).isRunnable a = true →
    ∃ rest, eventsBy a ((s.after h).doing (.act a)) = .answered p.call p.reply.answer :: rest

/-- Every failure of the broker is told at once, whatever is made of it, and nothing else is told as
one. -/
theorem failures_told (setup : Setup) (h : List Move) : setup.system.FailuresTold h := by
  have candid : Candid (setup.system.after h).world.trace := candid_after setup h
  constructor
  case reports => exact candid.reports_eq
  case told_next => exact fun p e q x fault split fails => candid.told_next split fails
  case failed_before => exact fun p e q y split tells => candid.failed_before split tells
  case done =>
    intro p c name e q split
    cases tells : e.report? with
    | none => rfl
    | some y =>
      rw [List.append_cons] at split
      obtain ⟨p', e', x, fault, last, fails, -⟩ := candid.failed_before split tells
      obtain ⟨-, answered⟩ := List.append_inj' last rfl
      cases answered
      cases fails
  case heard => exact awaited_after setup h
  case replied => exact fun a p pending ready => heard_of_pending pending ready

/-- A broker that refuses both closes: the failure of the second one does not come out of the
closing, and is told all the same. -/
example : reports ((Setup.system { connected := true, script :=
      [(.channelClose, { answer := .refused .heartbeat }),
        (.connectionClose, { answer := .refused .channelLimit })] }).after
      [.begin .close, .act (.job 0), .act (.job 0)]).world.trace =
    [(.call .channelClose, some (.text Fault.heartbeat.message)),
      (.call .connectionClose, some (.text Fault.channelLimit.message))] := by
  decide

end System

end TopicWorker
