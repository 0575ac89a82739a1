import TopicWorker.Proofs.Dispatch
import TopicWorker.Proofs.Registrations

/-!
# Settlements

What a receive loop asks of the broker is settlements, and nothing else. In manual mode it
settles each delivery once, when its handler has ended and before another begins, in the way
the handler's end calls for; how the broker answers makes no difference to what is asked for
next. In auto mode it asks for nothing, and that is what the broker was told at registration.

## Main definitions

* `Beat.isWork`: what of a course concerns handlers and calls.
* `AckMode.work`: what is done with a delivery from the beginning of its handler on.
* `Settled`: beats that leave nothing to be done.
* `Processing.plays`: what a loop does in a step in which it goes on with a delivery.

## Main results

* `Receiver.Course.settled`: a loop that is over has left nothing to be done.
* `settlements_in_order`: how a loop settles, for every receiver of every reachable system.
-/

namespace TopicWorker

/-- Whether a beat is the beginning or the end of a handler, or a call. -/
def Beat.isWork : Beat → Bool
  | began _ | ended _ _ | called _ => true
  | took _ | answered _ _ | sawStop | sawEnd => false

/-- What is done with a delivery from the beginning of its handler on: the handler ends, and
the settlement that its end calls for in the mode is asked for. -/
def AckMode.work (mode : AckMode) : Delivery × HandlerResult → List Beat
  | (d, result) => [.began d, .ended d result] ++ (mode.settlement d result).toList.map .called

/-- The delivery of a lap, and how its handler has ended. -/
def Lap.done? : Lap → Option (Delivery × HandlerResult)
  | fault _ => none
  | delivery d _ result _ => some (d, result)

/-- The work of a lap is the work on its delivery. -/
theorem work_lap (mode : AckMode) (lap : Lap) :
    (lap.beats mode).filter Beat.isWork = lap.done?.toList.flatMap mode.work := by
  cases lap with
  | fault f => rfl
  | delivery d cue result answer =>
    cases hs : mode.settlement d result <;>
      simp [Lap.beats, Lap.done?, AckMode.work, Beat.isWork, hs, List.filter_cons]

/-- The work of some laps is the work on their deliveries. -/
theorem work_laps (mode : AckMode) (laps : List Lap) :
    (laps.flatMap (Lap.beats mode)).filter Beat.isWork =
      (laps.filterMap Lap.done?).flatMap mode.work := by
  induction laps with
  | nil => rfl
  | cons lap laps ih =>
    rw [List.flatMap_cons, List.filter_append, work_lap, ih, List.filterMap_cons]
    cases lap.done? <;> simp

/-- The work of a tail is that on one delivery, whose handler may still be under way. -/
theorem work_tail {mode : AckMode} {loop : Loop} {tail : List Beat} (h : loop.Tail mode tail) :
    ∃ (done : List (Delivery × HandlerResult)) (inFlight : Option Delivery),
      tail.filter Beat.isWork = done.flatMap mode.work ++ inFlight.toList.map .began := by
  cases h with
  | receiving => exact ⟨[], none, rfl⟩
  | stopped => exact ⟨[], none, rfl⟩
  | lost => exact ⟨[], none, rfl⟩
  | handling d span cue asked => exact ⟨[], some d, rfl⟩
  | settling d span asked result p settled =>
    exact ⟨[(d, result)], none, by simp [AckMode.work, settled, Beat.isWork, List.filter_cons]⟩
  | died d asked result c payload settled =>
    exact ⟨[(d, result)], none, by simp [AckMode.work, settled, Beat.isWork, List.filter_cons]⟩

/-- On its course a loop works on one delivery after the other. -/
theorem Receiver.Course.work {v : Receiver} {played : List Beat} {laps : List Lap}
    {tail : List Beat} (h : v.Course played laps tail) :
    ∃ (done : List (Delivery × HandlerResult)) (inFlight : Option Delivery),
      played.filter Beat.isWork = done.flatMap v.mode.work ++ inFlight.toList.map .began := by
  obtain ⟨done, inFlight, htail⟩ := work_tail h.place
  refine ⟨laps.filterMap Lap.done? ++ done, inFlight, ?_⟩
  rw [h.beats, List.filter_append, work_laps, htail, List.flatMap_append, List.append_assoc]

/-- The handlers that have begun are part of the work. -/
theorem begunIn_filter_isWork (played : List Beat) :
    begunIn (played.filter Beat.isWork) = begunIn played := by
  simp only [begunIn]
  rw [List.filterMap_filter]
  congr 1
  funext b
  cases b <;> rfl

/-- The handlers that have begun in the work on some deliveries are theirs. -/
theorem begunIn_work (mode : AckMode) (done : List (Delivery × HandlerResult))
    (inFlight : Option Delivery) :
    begunIn (done.flatMap mode.work ++ inFlight.toList.map .began) =
      done.map (·.1) ++ inFlight.toList := by
  have hone : ∀ x, begunIn (mode.work x) = [x.1] := by
    intro x
    obtain ⟨d, result⟩ := x
    cases hs : mode.settlement d result <;> simp [AckMode.work, begunIn, hs]
  have hlast : begunIn (inFlight.toList.map .began) = inFlight.toList := by
    cases inFlight <;> rfl
  rw [begunIn_append, hlast]
  congr 1
  induction done with
  | nil => rfl
  | cons x done ih => rw [List.flatMap_cons, begunIn_append, hone, ih]; rfl

/-- The deliveries whose handlers have ended, each with how it has ended. -/
def handledIn (played : List Beat) : List (Delivery × HandlerResult) :=
  played.filterMap fun
    | .ended d result => some (d, result)
    | _ => none

/-- The calls that have been answered. -/
def answeredIn (played : List Beat) : List Call :=
  played.filterMap fun
    | .answered c _ => some c
    | _ => none

@[simp] theorem handledIn_append (l l' : List Beat) :
    handledIn (l ++ l') = handledIn l ++ handledIn l' := by
  simp [handledIn]

@[simp] theorem answeredIn_append (l l' : List Beat) :
    answeredIn (l ++ l') = answeredIn l ++ answeredIn l' := by
  simp [answeredIn]

/-- Some beats that leave nothing to be done: every handler that has begun has ended, and every
settlement that this has called for has been answered. -/
structure Settled (mode : AckMode) (played : List Beat) : Prop where
  ended : endedIn played = begunIn played
  answered : answeredIn played = (handledIn played).filterMap fun (d, result) =>
    mode.settlement d result

/-- Nothing is left to be done of two parts if nothing is left of either. -/
theorem Settled.append {mode : AckMode} {l l' : List Beat} (h : Settled mode l)
    (h' : Settled mode l') : Settled mode (l ++ l') where
  ended := by rw [endedIn_append, begunIn_append, h.ended, h'.ended]
  answered := by
    rw [answeredIn_append, handledIn_append, List.filterMap_append, h.answered, h'.answered]

/-- A lap leaves nothing to be done. -/
theorem settled_lap (mode : AckMode) (lap : Lap) : Settled mode (lap.beats mode) := by
  cases lap with
  | fault f => exact ⟨rfl, rfl⟩
  | delivery d cue result answer =>
    cases hs : mode.settlement d result <;> constructor <;>
      simp [Lap.beats, hs, endedIn, begunIn, answeredIn, handledIn]

/-- Nor does the tail of a loop that is over. -/
theorem settled_tail {mode : AckMode} {loop : Loop} {tail : List Beat} (h : loop.Tail mode tail)
    (hover : loop.isOver = true) : Settled mode tail := by
  cases h with
  | receiving => cases hover
  | handling d span cue asked => cases hover
  | settling d span asked result p settled => cases hover
  | stopped => exact ⟨rfl, rfl⟩
  | lost => exact ⟨rfl, rfl⟩
  | died d asked result c payload settled =>
    constructor <;> simp [endedIn, begunIn, answeredIn, handledIn, settled]

/-- A loop that is over has left nothing to be done, whatever has ended it. -/
theorem Receiver.Course.settled {v : Receiver} {played : List Beat} {laps : List Lap}
    {tail : List Beat} (h : v.Course played laps tail) (hover : v.loop.isOver = true) :
    Settled v.mode played := by
  rw [h.beats]
  generalize laps = laps'
  induction laps' with
  | nil => exact settled_tail h.place hover
  | cons lap laps' ih =>
    rw [List.flatMap_cons, List.append_assoc]
    exact (settled_lap v.mode lap).append ih

/-- What a step of a loop is in which it goes on with a delivery: the handler has ended, and the
settlement that this calls for is asked for, or this has been answered. -/
def Processing.plays (mode : AckMode) : Processing → List Beat
  | handling d _ cue => .ended d cue.result :: (mode.settlement d cue.result).toList.map .called
  | settling _ _ _ p => [.answered p.call p.reply.answer]

theorem Receiver.Steps.of_processing {v v' : Receiver} {played : List Beat}
    (h : v.Steps played v') {p : Processing} (loop : v.loop = .processing p) :
    played = p.plays v.mode := by
  have same : ∀ {q : Processing}, v.loop = .processing q → q = p := by
    intro q hq
    rw [loop] at hq
    cases hq
    rfl
  cases h with
  | stops other => simp [loop] at other
  | loses other => simp [loop] at other
  | skips other => simp [loop] at other
  | dispatches span other => simp [loop] at other
  | finishes is unsettled =>
    obtain rfl := same is
    simp [Processing.plays, unsettled]
  | settles is settled =>
    obtain rfl := same is
    simp [Processing.plays, settled]
  | hears is =>
    obtain rfl := same is
    rfl
  | dies is =>
    obtain rfl := same is
    rfl

namespace System

/-- How a receiver settles what it hands over in the course of a history. -/
structure Settles (s : System) (h : List Move) (r : Nat) : Prop where
  /-- The loop works on one delivery after the other, in the order in which they are handed
  over: the handler begins and ends, and the settlement that this calls for is asked for, once
  and before the next handler begins. It makes no other call. -/
  work : ∃ (done : List (Delivery × HandlerResult)) (inFlight : Option Delivery),
    (beats (eventsBy (.receiver r) (s.deeds h))).filter Beat.isWork =
        done.flatMap ((s.after h).world.receiver r).mode.work ++ inFlight.toList.map .began ∧
      invocations r (s.after h).world.trace = done.map (·.1) ++ inFlight.toList
  /-- A loop that may go on does so: there is a beat in its step. -/
  goesOn : (s.after h).isRunnable (.receiver r) = true →
    beats (eventsBy (.receiver r) ((s.after h).doing (.act (.receiver r)))) ≠ []
  /-- If a handler has been called, the step is that it has ended and the settlement that its end
  calls for is asked for; and after that it is the answer. -/
  steps : ∀ p, ((s.after h).world.receiver r).loop = .processing p →
    (s.after h).isRunnable (.receiver r) = true →
    beats (eventsBy (.receiver r) ((s.after h).doing (.act (.receiver r)))) =
      p.plays ((s.after h).world.receiver r).mode
  /-- In auto mode the loop makes no call at all. -/
  auto : ((s.after h).world.receiver r).mode = .auto → ∀ c, (.receiver r, .called c) ∉ s.deeds h
  /-- The consumer has been asked for under the receiver's tag, and the broker has been told to
  await no acknowledgement exactly if the mode is auto. -/
  registration : ∃ queue options,
    (queue, ((s.after h).world.receiver r).tag, options) ∈ consumes (s.after h).world.trace ∧
      (options.noAck = true ↔ ((s.after h).world.receiver r).mode = .auto)
  /-- No consumer is asked for twice under one tag. -/
  once : ((consumes (s.after h).world.trace).map (·.2.1)).Nodup

/-- Every receiver of every reachable system settles what it hands over, and in order. -/
theorem settlements_in_order (setup : Setup) (h : List Move) (r : Nat)
    (hr : r < (setup.system.after h).world.receivers.length) : setup.system.Settles h r := by
  obtain ⟨laps, tail, hcourse⟩ := course_after (s := setup.system) rfl h hr
  have htrace := trace_deeds (s := setup.system) rfl h
  obtain ⟨done, inFlight, hwork⟩ := hcourse.work
  constructor
  case work =>
    refine ⟨done, inFlight, hwork, ?_⟩
    rw [htrace, invocations_deeds (wellNamed_deeds setup.system h), ← begunIn_filter_isWork, hwork,
      begunIn_work]
  case goesOn =>
    intro ready
    obtain ⟨v, hsteps, -⟩ := steps_of_runnable ready
    exact hsteps.ne_nil
  case steps =>
    intro p hloop ready
    obtain ⟨v, hsteps, -⟩ := steps_of_runnable ready
    exact hsteps.of_processing hloop
  case auto =>
    intro hauto c hc
    have hcalled : .called c ∈ (beats (eventsBy (.receiver r) (setup.system.deeds h))).filter
        Beat.isWork :=
      List.mem_filter.mpr ⟨List.mem_filterMap.mpr ⟨_, mem_eventsBy.mpr hc, rfl⟩, rfl⟩
    rw [hwork, hauto] at hcalled
    simp [AckMode.work, AckMode.settlement] at hcalled
  case registration =>
    obtain ⟨n, queue, hcalled⟩ := registered_after (s := setup.system) rfl rfl h hr
    refine ⟨queue, { noAck := ((setup.system.after h).world.receiver r).mode.isAuto
                     exclusive := true }, ?_, ?_⟩
    · rw [htrace]
      exact List.mem_filterMap.mpr ⟨_, List.mem_map_of_mem hcalled, rfl⟩
    · cases ((setup.system.after h).world.receiver r).mode <;> simp [AckMode.isAuto]
  case once => exact nodup_tags (s := setup.system) rfl rfl h

/-- A consumer in manual mode whose first handler fails and whose second succeeds; the broker
refuses the rejection. -/
def refusalHistory : List Move :=
  [.begin (.start "users" (.manual false) none .cued), .act (.job 0),
    .learn [(.basicReject, { answer := .refused .heartbeat })],
    .deliver 0 (.delivery { tag := 1 } { result := .failed .internal }),
    .deliver 0 (.delivery { tag := 2 } {}), .act (.receiver 0), .act (.receiver 0),
    .act (.receiver 0), .act (.receiver 0), .act (.receiver 0)]

theorem settlements_in_order_refusalHistory :
    0 < (Setup.system { connected := true } |>.after refusalHistory).world.receivers.length ∧
      (Setup.system { connected := true }).Settles refusalHistory 0 :=
  ⟨by decide, settlements_in_order { connected := true } refusalHistory 0 (by decide)⟩

end System

end TopicWorker
