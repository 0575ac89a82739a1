import TopicWorker.Proofs.Loop

/-!
# The course of a receive loop

Seen over a whole run, a receive loop makes laps. In a lap it takes one item and sees it
through: a fault is passed over, a delivery is handed to its handler, waited for, and settled
if the mode says so. There is no other order and no way out of a lap except its end, unless
the broker client breaks down in the settlement. The course of a loop is the laps it has
made and what it has played since the last one, and its counters count just this.

## Main definitions

* `Lap`, `Lap.beats`, `Lap.failed`: what a loop does with one item.
* `Loop.Tail`: what has been played since the last lap.
* `Receiver.Course`: the invariant of a receiver.
* `Receiver.Undergoes`: what can happen to a receiver in one move of a system.

## Main results

* `Receiver.Course.undergoes`: the invariant is kept.
* `Receiver.Undergoes.taken_feed`: items are taken in the order in which they arrive.
-/

namespace TopicWorker

/-- What a loop has done with one item, from taking it to being done with it. The answer counts
only where a settlement was called for. -/
inductive Lap where
  | fault (f : Fault)
  | delivery (d : Delivery) (cue : Cue) (result : HandlerResult) (answer : Answer)

namespace Lap

/-- What is played in a lap. -/
def beats (mode : AckMode) : Lap → List Beat
  | fault f => [.took (.fault f)]
  | delivery d cue result answer =>
    [.took (.delivery d cue), .began d, .ended d result] ++
      (mode.settlement d result).toList.flatMap fun c => [.called c, .answered c answer]

/-- Whether the lap was made with a delivery. -/
def isDelivery : Lap → Bool
  | fault _ => false
  | delivery _ _ _ _ => true

/-- Whether the delivery of a lap counts as failed: its handler has failed, or else its
acknowledgement has. -/
def failed (mode : AckMode) : Lap → Bool
  | fault _ => false
  | delivery d _ result answer =>
    result.failure?.isSome || ((mode.settlement d result).isSome && answer.isRefused)

end Lap

/-- What a loop has played since its last lap, by where it is. -/
inductive Loop.Tail (mode : AckMode) : Loop → List Beat → Prop where
  | receiving : Tail mode .receiving []
  | handling (d : Delivery) (span : Nat) (cue asked : Cue) :
    Tail mode (.processing (.handling d span cue)) [.took (.delivery d asked), .began d]
  | settling (d : Delivery) (span : Nat) (asked : Cue) (result : HandlerResult) (p : Pending)
    (settled : mode.settlement d result = some p.call) :
    Tail mode (.processing (.settling d span result.failure? p))
      [.took (.delivery d asked), .began d, .ended d result, .called p.call]
  | stopped : Tail mode .ended [.sawStop]
  | lost : Tail mode .ended [.sawEnd]
  | died (d : Delivery) (asked : Cue) (result : HandlerResult) (c : Call) (payload : Option String)
    (settled : mode.settlement d result = some c) :
    Tail mode (.crashed payload)
      [.took (.delivery d asked), .began d, .ended d result, .called c,
        .answered c (.crashed payload)]

/-- The items that have been taken. -/
def takenIn (played : List Beat) : List Item :=
  played.filterMap fun
    | .took item => some item
    | _ => none

/-- The deliveries whose handlers have begun. -/
def begunIn (played : List Beat) : List Delivery :=
  played.filterMap fun
    | .began d => some d
    | _ => none

/-- The deliveries whose handlers have ended. -/
def endedIn (played : List Beat) : List Delivery :=
  played.filterMap fun
    | .ended d _ => some d
    | _ => none

@[simp] theorem takenIn_append (l l' : List Beat) :
    takenIn (l ++ l') = takenIn l ++ takenIn l' := by
  simp [takenIn]

@[simp] theorem begunIn_append (l l' : List Beat) :
    begunIn (l ++ l') = begunIn l ++ begunIn l' := by
  simp [begunIn]

@[simp] theorem endedIn_append (l l' : List Beat) :
    endedIn (l ++ l') = endedIn l ++ endedIn l' := by
  simp [endedIn]

namespace Receiver

/-- The course of a receiver's loop: what has been played is some laps and a tail that fits
where the loop is, and the counters count it. A loop that has seen the end of its feed leaves
nothing behind, and one that has seen the stop has been stopped. -/
structure Course (v : Receiver) (played : List Beat) (laps : List Lap) (tail : List Beat) :
    Prop where
  beats : played = laps.flatMap (Lap.beats v.mode) ++ tail
  place : v.loop.Tail v.mode tail
  dispatched : v.stats.dispatched = (begunIn played).length
  failed : v.stats.failed = laps.countP (Lap.failed v.mode)
  lost : v.stats.connectionLost = true ↔ .sawEnd ∈ played
  stopped : .sawStop ∈ played → v.cancelled = true
  emptied : .sawEnd ∈ played → v.feed = [] ∧ v.feedClosed = true
  charge : v.joinable = !v.cancelled

/-- What can happen to a receiver in one move: whether its stop is called, what arrives for it,
what its loop plays, and what becomes of it. -/
inductive Undergoes (v : Receiver) : Bool → List Item → List Beat → Receiver → Prop where
  /-- Its loop goes on. -/
  | steps {played : List Beat} {v' : Receiver} (h : v.Steps played v') :
    Undergoes v false [] played v'
  /-- An item arrives. -/
  | arrives (item : Item) (unended : v.feedClosed = false) :
    Undergoes v false [item] [] { v with feed := v.feed ++ [item] }
  /-- Its feed ends. -/
  | ends : Undergoes v false [] [] { v with feedClosed := true }
  /-- Its stop is called. -/
  | called : Undergoes v true [] [] (if v.joinable then v.claimed else v)
  /-- The move does not concern it. -/
  | rests : Undergoes v false [] [] v

section Steps

variable {v v' : Receiver} {played news : List Beat} {laps : List Lap} {tail : List Beat}

/-- A step changes neither what a receiver is registered with nor whether it is stopped. -/
theorem Steps.frame (h : v.Steps news v') :
    v'.tag = v.tag ∧ v'.link = v.link ∧ v'.mode = v.mode ∧ v'.kind = v.kind ∧
      v'.cancelled = v.cancelled ∧ v'.joinable = v.joinable ∧ v'.feedClosed = v.feedClosed ∧
      v'.task = v.task := by
  cases h <;> exact ⟨rfl, rfl, rfl, rfl, rfl, rfl, rfl, rfl⟩

/-- What a step takes stands first in the feed. -/
theorem Steps.taken_feed (h : v.Steps news v') : takenIn news ++ v'.feed = v.feed := by
  cases h with
  | skips loop untold feed => simp [takenIn, passedOver, feed]
  | dispatches span loop untold feed => simp [takenIn, taken, goneTo, feed]
  | _ => simp [takenIn, goneTo, lost, doneWith]

/-- A call of a step is the settlement of a delivery. -/
theorem Steps.settlement {c : Call} (h : v.Steps news v') (hc : .called c ∈ news) :
    ∃ d result, v.mode.settlement d result = some c := by
  cases h with
  | @settles d span cue p loop settled =>
    have hcall : c = p.call := by simpa using hc
    exact ⟨d, cue.result, hcall ▸ settled⟩
  | _ => simp at hc

/-- The invariant is kept by what changes neither the loop nor its counters. -/
theorem Course.of_same (h : v.Course played laps tail) (mode : v'.mode = v.mode)
    (loop : v'.loop = v.loop) (stats : v'.stats = v.stats)
    (cancelled : v.cancelled = true → v'.cancelled = true)
    (feed : v.feedClosed = true → v'.feed = v.feed ∧ v'.feedClosed = true)
    (charge : v'.joinable = !v'.cancelled) : v'.Course played laps tail where
  beats := by rw [mode]; exact h.beats
  place := by rw [mode, loop]; exact h.place
  dispatched := by rw [stats]; exact h.dispatched
  failed := by rw [mode, stats]; exact h.failed
  lost := by rw [stats]; exact h.lost
  stopped := fun hs => cancelled (h.stopped hs)
  emptied := fun hs => by
    obtain ⟨hempty, hclosed⟩ := h.emptied hs
    obtain ⟨hsame, hstill⟩ := feed hclosed
    exact ⟨hsame.trans hempty, hstill⟩
  charge := charge

/-- The invariant is kept by a step that sees neither the stop nor the end of the feed, if its
laps and counters are right. -/
theorem Steps.course_of_open (h : v.Steps news v') (hc : v.Course played laps tail)
    {laps' : List Lap} {tail' : List Beat}
    (beats : laps.flatMap (Lap.beats v.mode) ++ (tail ++ news) =
      laps'.flatMap (Lap.beats v.mode) ++ tail')
    (place : v'.loop.Tail v.mode tail')
    (dispatched : v'.stats.dispatched = v.stats.dispatched + (begunIn news).length)
    (failed : v'.stats.failed = laps'.countP (Lap.failed v.mode))
    (lost : v'.stats.connectionLost = v.stats.connectionLost)
    (unseen : .sawStop ∉ news ∧ .sawEnd ∉ news) : v'.Course (played ++ news) laps' tail' := by
  obtain ⟨-, -, hmode, -, hcancelled, hjoinable, hclosed, -⟩ := h.frame
  have hfeed := h.taken_feed
  have old : ∀ {b : Beat}, b ∉ news → (b ∈ played ++ news ↔ b ∈ played) := fun hb => by
    simp [List.mem_append, hb]
  constructor
  · rw [hmode, ← beats, hc.beats, List.append_assoc]
  · rw [hmode]
    exact place
  · rw [dispatched, hc.dispatched, begunIn_append, List.length_append]
  · rw [hmode]
    exact failed
  · rw [lost, old unseen.2]
    exact hc.lost
  · rw [hcancelled, old unseen.1]
    exact hc.stopped
  · rw [old unseen.2, hclosed]
    intro hs
    obtain ⟨hempty, hended⟩ := hc.emptied hs
    rw [hempty] at hfeed
    exact ⟨(List.append_eq_nil_iff.mp hfeed).2, hended⟩
  · rw [hjoinable, hcancelled]
    exact hc.charge

/-- A step moves the tail on, or closes a lap. -/
theorem Steps.course (h : v.Steps news v') (hc : v.Course played laps tail) :
    ∃ laps' tail', v'.Course (played ++ news) laps' tail' := by
  have hplace := hc.place
  cases h with
  | stops loop told =>
    rw [loop] at hplace
    cases hplace
    refine ⟨laps, [.sawStop], ?_, .stopped, ?_, hc.failed, ?_, fun _ => told, ?_, hc.charge⟩
    · simpa [goneTo] using hc.beats
    · simpa [begunIn, goneTo] using hc.dispatched
    · simpa [goneTo] using hc.lost
    · simpa [goneTo] using hc.emptied
  | loses loop untold empty closed =>
    rw [loop] at hplace
    cases hplace
    refine ⟨laps, [.sawEnd], ?_, .lost, ?_, hc.failed, ?_, ?_, fun _ => ⟨empty, closed⟩, hc.charge⟩
    · simpa [lost] using hc.beats
    · simpa [begunIn, lost] using hc.dispatched
    · simp [lost]
    · simpa [lost] using hc.stopped
  | @skips fault rest loop untold feed =>
    rw [loop] at hplace
    cases hplace
    refine ⟨laps ++ [.fault fault], [], Steps.course_of_open (.skips loop untold feed) hc ?_ ?_ ?_
      ?_ rfl ?_⟩
    · simp [Lap.beats]
    · simpa [passedOver, loop] using Loop.Tail.receiving
    · simp [passedOver, begunIn]
    · simp [passedOver, hc.failed, Lap.failed]
    · simp
  | @dispatches d cue rest span loop untold feed =>
    rw [loop] at hplace
    cases hplace
    refine ⟨laps, _, Steps.course_of_open (.dispatches span loop untold feed) hc rfl
      (.handling d span _ cue) ?_ hc.failed rfl ?_⟩
    · simp [goneTo, taken, begunIn]
    · simp
  | @finishes d span cue loop unsettled =>
    rw [loop] at hplace
    cases hplace with
    | handling _ _ _ asked =>
      refine ⟨laps ++ [.delivery d asked cue.result (.done none)], [],
        Steps.course_of_open (.finishes loop unsettled) hc ?_ .receiving ?_ ?_ rfl ?_⟩
      · simp [Lap.beats, unsettled]
      · simp [doneWith, begunIn]
      · simp [doneWith, hc.failed, Lap.failed, unsettled, List.countP_cons]
      · simp
  | @settles d span cue p loop settled =>
    rw [loop] at hplace
    cases hplace with
    | handling _ _ _ asked =>
      refine ⟨laps, _, Steps.course_of_open (.settles loop settled) hc rfl
        (.settling d span asked cue.result p settled) ?_ hc.failed rfl ?_⟩
      · simp [goneTo, begunIn]
      · simp
  | @hears d span failure p loop alive =>
    rw [loop] at hplace
    cases hplace with
    | settling _ _ asked result _ settled =>
      refine ⟨laps ++ [.delivery d asked result p.reply.answer], [],
        Steps.course_of_open (.hears loop alive) hc ?_ .receiving ?_ ?_ rfl ?_⟩
      · simp [Lap.beats, settled]
      · simp [doneWith, begunIn]
      · simp [doneWith, hc.failed, Lap.failed, settled, List.countP_cons]
      · simp
  | @dies d span failure p payload loop dead =>
    rw [loop] at hplace
    cases hplace with
    | settling _ _ asked result _ settled =>
      refine ⟨laps, _, Steps.course_of_open (.dies loop dead) hc rfl ?_ ?_ hc.failed rfl ?_⟩
      · rw [dead]
        exact .died d asked result p.call payload settled
      · simp [goneTo, begunIn]
      · simp

/-- The invariant of a receiver is kept by whatever happens to it. -/
theorem Course.undergoes {called : Bool} {items : List Item} (hc : v.Course played laps tail)
    (h : v.Undergoes called items news v') :
    ∃ laps' tail', v'.Course (played ++ news) laps' tail' := by
  cases h with
  | steps h => exact h.course hc
  | arrives item unended =>
    rw [List.append_nil]
    exact ⟨laps, tail, hc.of_same rfl rfl rfl id (by simp [unended]) hc.charge⟩
  | ends =>
    rw [List.append_nil]
    exact ⟨laps, tail, hc.of_same rfl rfl rfl id (by simp) hc.charge⟩
  | called =>
    rw [List.append_nil]
    by_cases hj : v.joinable = true
    · rw [if_pos hj]
      exact ⟨laps, tail, hc.of_same rfl rfl rfl (fun _ => rfl) (fun hcl => ⟨rfl, hcl⟩) rfl⟩
    · rw [if_neg hj]
      exact ⟨laps, tail, hc⟩
  | rests =>
    rw [List.append_nil]
    exact ⟨laps, tail, hc⟩

/-- Whatever happens to a receiver, it stays what it was registered as. -/
theorem Undergoes.frame {called : Bool} {items : List Item}
    (h : v.Undergoes called items news v') :
    v'.tag = v.tag ∧ v'.link = v.link ∧ v'.mode = v.mode ∧ v'.kind = v.kind := by
  cases h with
  | steps h =>
    obtain ⟨htag, hlink, hmode, hkind, -⟩ := h.frame
    exact ⟨htag, hlink, hmode, hkind⟩
  | arrives item unended => exact ⟨rfl, rfl, rfl, rfl⟩
  | ends => exact ⟨rfl, rfl, rfl, rfl⟩
  | called => by_cases hj : v.joinable = true <;> simp [hj, claimed]
  | rests => exact ⟨rfl, rfl, rfl, rfl⟩

/-- Nothing more happens in a loop that is over. -/
theorem Undergoes.of_over {called : Bool} {items : List Item}
    (h : v.Undergoes called items news v') (hover : v.loop.isOver = true) :
    v'.loop = v.loop ∧ v'.stats = v.stats := by
  cases h with
  | steps h =>
    have running : ∀ {loop : Loop}, v.loop = loop → loop.isOver = false →
        v'.loop = v.loop ∧ v'.stats = v.stats := by
      intro loop hloop hnot
      rw [hloop, hnot] at hover
      cases hover
    cases h with
    | stops loop told => exact running loop rfl
    | loses loop untold empty closed => exact running loop rfl
    | skips loop untold feed => exact running loop rfl
    | dispatches span loop untold feed => exact running loop rfl
    | finishes loop unsettled => exact running loop rfl
    | settles loop settled => exact running loop rfl
    | hears loop alive => exact running loop rfl
    | dies loop dead => exact running loop rfl
  | arrives item unended => exact ⟨rfl, rfl⟩
  | ends => exact ⟨rfl, rfl⟩
  | called => by_cases hj : v.joinable = true <;> simp [hj, claimed]
  | rests => exact ⟨rfl, rfl⟩

/-- A receiver can be joined until its stop is called. -/
theorem Undergoes.joinable {called : Bool} {items : List Item}
    (h : v.Undergoes called items news v') : v'.joinable = (v.joinable && !called) := by
  cases h with
  | steps h =>
    obtain ⟨-, -, -, -, -, hsame, -⟩ := h.frame
    simp [hsame]
  | arrives item unended => simp
  | ends => simp
  | called => by_cases hj : v.joinable = true <;> simp [hj, claimed]
  | rests => simp

/-- Items are taken in the order in which they arrive. -/
theorem Undergoes.taken_feed {called : Bool} {items : List Item}
    (h : v.Undergoes called items news v') : takenIn news ++ v'.feed = v.feed ++ items := by
  cases h with
  | steps h => simpa using h.taken_feed
  | arrives item unended => simp [takenIn]
  | ends => simp [takenIn]
  | called => by_cases hj : v.joinable = true <;> simp [takenIn, hj, claimed]
  | rests => simp [takenIn]

end Steps

end Receiver

end TopicWorker
