import TopicWorker.Proofs.Turns

/-!
# One step of a receive loop

A step of a receive loop does much that matters to nobody but a reader of the journal: spans,
entries, the context of a delivery. What matters to its course is little, and is called a
beat here: an item is taken, a handler begins or ends, a settlement is called or answered, the
cancellation or the end of the feed is seen. Each step plays some beats and leaves a receiver
behind; which ones, and under what conditions, is said by `Receiver.Steps` once and for all.

## Main definitions

* `Beat`, `Event.beat?`: what matters to the course of a loop, and what in the trace it is.
* `World.Plays`: a stretch of a step, by its beats and the receiver that it leaves behind.
* `AckMode.settlement`: the settlement that a mode asks for.
* `Receiver.Steps`: what one step of a loop can be.

## Main results

* `World.runReceiver_plays`: every step of a loop that may go on is one of them.
-/

namespace TopicWorker

/-- What matters to the course of a receive loop. -/
inductive Beat where
  /-- An item is taken from the feed. -/
  | took (item : Item)
  /-- The handler of a delivery begins. -/
  | began (d : Delivery)
  /-- The handler of a delivery ends. -/
  | ended (d : Delivery) (result : HandlerResult)
  | called (c : Call)
  | answered (c : Call) (a : Answer)
  /-- The loop sees that it has been told to stop. -/
  | sawStop
  /-- The loop sees that its feed has ended. -/
  | sawEnd
  deriving DecidableEq, Repr

/-- The entry by which a loop tells that it has been stopped. -/
def stoppedEntry : LogEntry :=
  receiverEntry .debug "consumer cancelled, no new deliveries are dispatched"

/-- An entry of another component is not that one. -/
theorem ne_stoppedEntry_of_component {e : LogEntry} (h : e.component ≠ .receiver) :
    e ≠ stoppedEntry := by
  rintro rfl
  exact h rfl

/-- An entry of another level is not that one. -/
theorem ne_stoppedEntry_of_level {e : LogEntry} (h : e.level ≠ .debug) : e ≠ stoppedEntry := by
  rintro rfl
  exact h rfl

/-- The beat that an event is, where its actor is a receive loop. -/
def Event.beat? : Event → Option Beat
  | pulled _ item => some (.took item)
  | feedEnded _ => some .sawEnd
  | dispatched _ _ d _ => some (.began d)
  | handled _ d result => some (.ended d result)
  | called c => some (.called c)
  | answered c a => some (.answered c a)
  | logged e => if e = stoppedEntry then some .sawStop else none
  | _ => none

/-- The receiver that an event names. -/
def Event.receiver? : Event → Option Nat
  | pulled r _ | feedEnded r | dispatched r _ _ _ | handled r _ _ => some r
  | _ => none

/-- What somebody has done, as beats. -/
def beats (events : List Event) : List Beat := events.filterMap Event.beat?

@[simp] theorem beats_nil : beats [] = [] := rfl

@[simp] theorem beats_append (l l' : List Event) : beats (l ++ l') = beats l ++ beats l' := by
  simp [beats]

/-- The cue that a handler follows: one that only writes an entry ends at once and well. -/
def HandlerKind.cue : HandlerKind → Cue → Cue
  | logging, _ => {}
  | cued, cue => cue

/-- The settlement that a mode asks for when the handler of a delivery has ended. -/
def AckMode.settlement : AckMode → Delivery → HandlerResult → Option Call
  | auto, _, _ => none
  | manual _, d, .succeeded => some (.basicAck d.tag false)
  | manual requeue, d, .failed _ | manual requeue, d, .panicked _ =>
    some (.basicReject d.tag requeue)

/-- Whether the broker has refused. -/
def Answer.isRefused : Answer → Bool
  | refused _ => true
  | done _ | crashed _ => false

namespace World

@[simp] theorem receivers_emit (w : World) (e : Event) : (w.emit e).receivers = w.receivers := rfl

@[simp] theorem receivers_log (w : World) (e : LogEntry) : (w.log e).receivers = w.receivers := rfl

@[simp] theorem receivers_call (w : World) (c : Call) :
    (w.call c).1.receivers = w.receivers := rfl

/-- A receiver that is there is the one at its place. -/
theorem getElem?_receivers {w : World} {r : Nat} (h : r < w.receivers.length) :
    w.receivers[r]? = some (w.receiver r) := by
  simp [receiver, h]

@[simp] theorem length_modifyReceiver (w : World) (r : Nat) (f : Receiver → Receiver) :
    (w.modifyReceiver r f).receivers.length = w.receivers.length := List.length_modify ..

/-- A receiver that is there is changed in its place. -/
theorem receiver_modifyReceiver {w : World} {r : Nat} (h : r < w.receivers.length)
    (f : Receiver → Receiver) : (w.modifyReceiver r f).receiver r = f (w.receiver r) := by
  simp [receiver, modifyReceiver, h]

/-- A stretch of a step of a receive loop, from the beginning of the step: the receiver that it
leaves behind, and the beats that it has played. -/
structure Plays (w : World) (r : Nat) (v : Receiver) (played : List Beat) (w' : World) :
    Prop where
  receivers : w'.receivers = w.receivers.set r v
  trace : ∃ news, w'.trace = w.trace ++ news ∧ beats news = played ∧
    ∀ e ∈ news, e.stage? = none ∧ ∀ r', e.receiver? = some r' → r' = r
  lifecycle : w'.lifecycle = w.lifecycle
  registrations : w'.registrations = w.registrations
  links : w'.links = w.links
  requested : w'.shutdownRequested = w.shutdownRequested

section Plays

variable {w w' : World} {r : Nat} {v : Receiver} {played : List Beat}

/-- A step begins with what is there. -/
theorem plays_nothing (w : World) (r : Nat) : w.Plays r (w.receiver r) [] w where
  receivers := by
    by_cases h : r < w.receivers.length
    · rw [receiver, List.getElem?_eq_getElem h, Option.getD_some, List.set_getElem_self]
    · rw [List.set_eq_of_length_le (by omega)]
  trace := ⟨[], by simp⟩
  lifecycle := rfl
  registrations := rfl
  links := rfl
  requested := rfl

/-- An event of the loop, which publishes nothing and names no receiver but its own. -/
theorem Plays.emit (h : w.Plays r v played w') {e : Event} (hs : e.stage? = none)
    (he : ∀ r', e.receiver? = some r' → r' = r) :
    w.Plays r v (played ++ e.beat?.toList) (w'.emit e) where
  receivers := h.receivers
  trace := by
    obtain ⟨news, htrace, hbeats, hnames⟩ := h.trace
    refine ⟨news ++ [e], by simp [htrace], ?_, ?_⟩
    · rw [beats_append, hbeats]
      cases hb : e.beat? <;> simp [beats, hb]
    · intro e' he'
      rcases List.mem_append.mp he' with he' | he'
      · exact hnames e' he'
      · rw [List.mem_singleton.mp he']
        exact ⟨hs, he⟩
  lifecycle := h.lifecycle
  registrations := h.registrations
  links := h.links
  requested := h.requested

/-- An event that is no beat. -/
theorem Plays.quiet (h : w.Plays r v played w') {e : Event} (hs : e.stage? = none)
    (hr : e.receiver? = none) (hb : e.beat? = none) : w.Plays r v played (w'.emit e) := by
  have := h.emit (e := e) hs (by simp [hr])
  simpa [hb] using this

/-- An entry, other than the one that tells about the stop. -/
theorem Plays.log (h : w.Plays r v played w') {e : LogEntry} (he : e ≠ stoppedEntry) :
    w.Plays r v played (w'.log e) :=
  h.quiet rfl rfl (by simp [Event.beat?, he])

/-- A call. -/
theorem Plays.call (h : w.Plays r v played w') (c : Call) :
    w.Plays r v (played ++ [.called c]) (w'.call c).1 :=
  let h' := h.emit (e := .called c) rfl (by simp [Event.receiver?])
  { receivers := h'.receivers, trace := h'.trace, lifecycle := h'.lifecycle
    registrations := h'.registrations, links := h'.links, requested := h'.requested }

/-- The receiver changes. -/
theorem Plays.modify (h : w.Plays r v played w') (f : Receiver → Receiver) :
    w.Plays r (f v) played (w'.modifyReceiver r f) where
  receivers := by
    simp only [modifyReceiver, h.receivers]
    apply List.ext_getElem?
    grind
  trace := h.trace
  lifecycle := h.lifecycle
  registrations := h.registrations
  links := h.links
  requested := h.requested

/-- A span is numbered. -/
theorem Plays.spans (h : w.Plays r v played w') (n : Nat) :
    w.Plays r v played { w' with spans := n } :=
  { receivers := h.receivers, trace := h.trace, lifecycle := h.lifecycle
    registrations := h.registrations, links := h.links, requested := h.requested }

/-- Entries of another component. -/
theorem Plays.logs {entries : List LogEntry} (he : ∀ e ∈ entries, e.component = .tracing)
    (h : w.Plays r v played w') : w.Plays r v played (entries.foldl World.log w') := by
  induction entries generalizing w' with
  | nil => exact h
  | cons e entries ih =>
    refine ih (fun e' he' => he e' (List.mem_cons_of_mem _ he')) (h.log ?_)
    exact ne_stoppedEntry_of_component (by simp [he e List.mem_cons_self])

/-- What is told while headers are read is told by the component that traces. -/
theorem component_extractEntries (headers : Headers) (names : List String) :
    ∀ e ∈ headers.extractEntries names, e.component = .tracing := by
  intro e he
  obtain ⟨name, -, he⟩ := List.mem_flatMap.mp he
  unfold Headers.read at he
  split at he
  · simp at he
  · rw [List.mem_singleton.mp he]
    rfl

/-- Reading the context of a delivery is no beat. -/
theorem Plays.extract (h : w.Plays r v played w') (headers : Headers) :
    w.Plays r v played (w'.extract headers).1 := by
  simp only [World.extract]
  split
  · exact h
  · refine Plays.logs (component_extractEntries _ _) (Plays.quiet ?_ rfl rfl rfl)
    exact Plays.logs (component_extractEntries _ _) h

/-- Opening a span is no beat. -/
theorem Plays.openSpan (h : w.Plays r v played w') (d : Delivery) (parent : TraceContext) :
    w.Plays r v played (w'.openSpan d parent).1 :=
  (((h.spans _).quiet rfl rfl rfl).quiet rfl rfl rfl).quiet rfl rfl rfl

end Plays

end World

/-! ## The processing of a delivery -/

open World

section Processing

variable {w w' : World} {r : Nat} {v : Receiver} {played : List Beat}

/-- A delivery is handed over: one beat, and its handler is waited for. -/
theorem plays_processingStart (h : w.Plays r v played w') (kind : HandlerKind) (d : Delivery)
    (cue : Cue) : ∃ span,
      w.Plays r v (played ++ [.began d]) (Processing.start r kind d cue w').1 ∧
      (Processing.start r kind d cue w').2 = .waiting (.handling d span (kind.cue cue)) := by
  have hextract := h.extract d.headers
  have hspan := hextract.openSpan d (w'.extract d.headers).2
  have htold := hspan.log (e := processingEntry .debug "received"
    [("routing_key", .plain d.routingKey), ("exchange", .plain d.exchange),
      ("delivery_tag", .number d.tag.toNat), ("redelivered", .flag d.redelivered)])
    (ne_stoppedEntry_of_component (by simp [processingEntry]))
  have hbegan := htold.emit (e := .dispatched r kind d (w'.extract d.headers).2) rfl
    (by simp [Event.receiver?])
  refine ⟨((w'.extract d.headers).1.openSpan d (w'.extract d.headers).2).2, ?_, ?_⟩
  · cases kind with
    | logging => exact hbegan.log (ne_stoppedEntry_of_component (by simp [Delivery.announcement]))
    | cued => exact hbegan
  · cases kind <;> rfl

/-- The handler has succeeded: the delivery is acknowledged, or there is nothing to do. -/
theorem plays_succeeded (h : w.Plays r v played w') (mode : AckMode) (d : Delivery) (span : Nat) :
    (mode.settlement d .succeeded = none ∧
      w.Plays r v played (Processing.succeeded mode d span w').1 ∧
      (Processing.succeeded mode d span w').2 = .finished (.ok ())) ∨
    ∃ p : Pending, mode.settlement d .succeeded = some p.call ∧
      w.Plays r v (played ++ [.called p.call]) (Processing.succeeded mode d span w').1 ∧
      (Processing.succeeded mode d span w').2 = .waiting (.settling d span none p) := by
  have htold := h.log (e := processingEntry .debug "message successfully processed")
    (ne_stoppedEntry_of_component (by simp [processingEntry]))
  cases mode with
  | auto => exact .inl ⟨rfl, (htold.quiet rfl rfl rfl).quiet rfl rfl rfl, rfl⟩
  | manual requeue => exact .inr ⟨_, rfl, htold.call (.basicAck d.tag false), rfl⟩

/-- The handler has failed: the delivery is rejected, or there is nothing to do. -/
theorem plays_failed (h : w.Plays r v played w') (mode : AckMode) (d : Delivery) (span : Nat)
    {result : HandlerResult} {f : Failure} (hf : result.failure? = some f) :
    (mode.settlement d result = none ∧
      w.Plays r v played (Processing.failed mode d span f w').1 ∧
      (Processing.failed mode d span f w').2 = .finished (.error f)) ∨
    ∃ p : Pending, mode.settlement d result = some p.call ∧
      w.Plays r v (played ++ [.called p.call]) (Processing.failed mode d span f w').1 ∧
      (Processing.failed mode d span f w').2 = .waiting (.settling d span (some f) p) := by
  have hcomponent : (failureEntry mode d f).component ≠ .receiver := by
    simp only [failureEntry]
    split <;> simp [processingEntry]
  have htold := ((h.quiet (e := .span span (.failure f)) rfl rfl rfl).quiet
    (e := .span span (.status (.error f.message))) rfl rfl rfl).log
    (ne_stoppedEntry_of_component hcomponent)
  cases mode with
  | auto => exact .inl ⟨rfl, htold.quiet rfl rfl rfl, rfl⟩
  | manual requeue =>
    have hsettlement : (AckMode.manual requeue).settlement d result =
        some (.basicReject d.tag requeue) := by
      cases result with
      | succeeded => simp [HandlerResult.failure?] at hf
      | failed g => rfl
      | panicked text => rfl
    exact .inr ⟨_, hsettlement, htold.call (.basicReject d.tag requeue), rfl⟩

/-- The settlement of a delivery has been answered: the answer is heard, and the delivery is
done with, unless the settlement takes the loop along. -/
theorem plays_settled (h : w.Plays r v played w') (mode : AckMode) (d : Delivery) (span : Nat)
    (failure : Option Failure) (p : Pending) :
    w.Plays r v (played ++ [.answered p.call p.reply.answer])
        (Processing.resume r mode (.settling d span failure p) w').1 ∧
      (Processing.resume r mode (.settling d span failure p) w').2 =
        match p.reply.answer, failure with
        | .crashed payload, _ => .crashed payload
        | .done _, none => .finished (.ok ())
        | .refused _, none => .finished (.error .acknowledgement)
        | _, some f => .finished (.error f) := by
  have hheard : w.Plays r v (played ++ [.answered p.call p.reply.answer])
      (w'.emit (.answered p.call p.reply.answer)) :=
    h.emit (e := .answered p.call p.reply.answer) rfl (by simp [Event.receiver?])
  have hlog : ∀ {w₁ : World} (e : LogEntry), e.level = .error →
      w.Plays r v (played ++ [.answered p.call p.reply.answer]) w₁ →
      w.Plays r v (played ++ [.answered p.call p.reply.answer]) (w₁.log e) := fun e he h₁ =>
    h₁.log (ne_stoppedEntry_of_level (by simp [he]))
  cases failure with
  | none =>
    simp only [Processing.resume, Settlement.ackAnswered]
    cases ha : p.reply.answer with
    | done name =>
      rw [ha] at hheard
      rw [resolve_done ha]
      exact ⟨(hheard.quiet rfl rfl rfl).quiet rfl rfl rfl, rfl⟩
    | refused fault =>
      rw [ha] at hheard hlog
      rw [resolve_refused ha]
      exact ⟨(((hlog _ rfl hheard).quiet rfl rfl rfl).quiet rfl rfl rfl).quiet rfl rfl rfl, rfl⟩
    | crashed payload =>
      rw [ha] at hheard
      rw [resolve_crashed ha]
      exact ⟨hheard.quiet rfl rfl rfl, rfl⟩
  | some f =>
    simp only [Processing.resume, Settlement.rejectAnswered]
    cases ha : p.reply.answer with
    | done name =>
      rw [ha] at hheard
      rw [resolve_done ha]
      exact ⟨hheard.quiet rfl rfl rfl, rfl⟩
    | refused fault =>
      rw [ha] at hheard hlog
      rw [resolve_refused ha]
      exact ⟨((hlog _ rfl hheard).quiet rfl rfl rfl).quiet rfl rfl rfl, rfl⟩
    | crashed payload =>
      rw [ha] at hheard
      rw [resolve_crashed ha]
      exact ⟨hheard.quiet rfl rfl rfl, rfl⟩

end Processing

/-! ## The steps of a loop -/

namespace Receiver

/-- A receiver whose loop is somewhere else. -/
def goneTo (loop : Loop) (v : Receiver) : Receiver := { v with loop }

/-- A receiver whose feed has been found at an end. -/
def lost (v : Receiver) : Receiver :=
  { v with loop := .ended, stats := { v.stats with connectionLost := true } }

/-- A receiver that has taken an item which is not handed over. -/
def passedOver (rest : List Item) (v : Receiver) : Receiver := { v with feed := rest }

/-- A receiver that has taken a delivery. -/
def taken (rest : List Item) (v : Receiver) : Receiver :=
  { v with feed := rest, stats := { v.stats with dispatched := v.stats.dispatched + 1 } }

/-- A receiver that is done with a delivery, which may have failed. -/
def doneWith (failed : Bool) (v : Receiver) : Receiver :=
  { v with
    loop := .receiving
    stats := { v.stats with failed := v.stats.failed + if failed then 1 else 0 } }

/-- A receiver that knows how far the processing of its delivery has come. -/
def processed : Progress Processing (Except Failure Unit) → Receiver → Receiver
  | .waiting p => goneTo (.processing p)
  | .crashed payload => goneTo (.crashed payload)
  | .finished (.ok ()) => doneWith false
  | .finished (.error _) => doneWith true

/-- What one step of a receive loop can be: under what conditions it is made, what it plays, and
what receiver it leaves behind. -/
inductive Steps (v : Receiver) : List Beat → Receiver → Prop where
  /-- The loop has been told to stop, and looks for this first. -/
  | stops (loop : v.loop = .receiving) (told : v.cancelled = true) :
    Steps v [.sawStop] (v.goneTo .ended)
  /-- The feed has ended. -/
  | loses (loop : v.loop = .receiving) (untold : v.cancelled = false) (empty : v.feed = [])
    (closed : v.feedClosed = true) :
    Steps v [.sawEnd] v.lost
  /-- A fault is told and passed over. -/
  | skips {fault : Fault} {rest : List Item} (loop : v.loop = .receiving)
    (untold : v.cancelled = false) (feed : v.feed = .fault fault :: rest) :
    Steps v [.took (.fault fault)] (v.passedOver rest)
  /-- A delivery is handed to the handler. -/
  | dispatches {d : Delivery} {cue : Cue} {rest : List Item} (span : Nat)
    (loop : v.loop = .receiving) (untold : v.cancelled = false)
    (feed : v.feed = .delivery d cue :: rest) :
    Steps v [.took (.delivery d cue), .began d]
      ((v.taken rest).goneTo (.processing (.handling d span (v.kind.cue cue))))
  /-- The handler has ended, and nothing is to be settled. -/
  | finishes {d : Delivery} {span : Nat} {cue : Cue}
    (loop : v.loop = .processing (.handling d span cue))
    (unsettled : v.mode.settlement d cue.result = none) :
    Steps v [.ended d cue.result] (v.doneWith cue.result.failure?.isSome)
  /-- The handler has ended, and the delivery is settled. -/
  | settles {d : Delivery} {span : Nat} {cue : Cue} {p : Pending}
    (loop : v.loop = .processing (.handling d span cue))
    (settled : v.mode.settlement d cue.result = some p.call) :
    Steps v [.ended d cue.result, .called p.call]
      (v.goneTo (.processing (.settling d span cue.result.failure? p)))
  /-- The settlement has been answered. -/
  | hears {d : Delivery} {span : Nat} {failure : Option Failure} {p : Pending}
    (loop : v.loop = .processing (.settling d span failure p))
    (alive : ∀ payload, p.reply.answer ≠ .crashed payload) :
    Steps v [.answered p.call p.reply.answer]
      (v.doneWith (failure.isSome || p.reply.answer.isRefused))
  /-- The settlement takes the loop along. -/
  | dies {d : Delivery} {span : Nat} {failure : Option Failure} {p : Pending}
    {payload : Option String}
    (loop : v.loop = .processing (.settling d span failure p))
    (dead : p.reply.answer = .crashed payload) :
    Steps v [.answered p.call p.reply.answer] (v.goneTo (.crashed payload))

end Receiver

namespace World

variable {w w' : World} {r : Nat} {v : Receiver} {played : List Beat}

/-- How far a delivery has come is taken in. -/
theorem plays_processed (h : w.Plays r v played w')
    {p : Progress Processing (Except Failure Unit)} {v' : Receiver} (hp : v.processed p = v') :
    w.Plays r v' played (w'.processed r p) := by
  subst hp
  cases p with
  | waiting s => exact h.modify _
  | crashed payload => exact h.modify _
  | finished result =>
    rcases result with f | ⟨⟩
    · exact h.modify (Receiver.doneWith true)
    · exact h.modify (Receiver.doneWith false)

/-- A loop that waits for an item and may go on makes one of the steps. -/
theorem receive_plays {w : World} {r : Nat} (loop : (w.receiver r).loop = .receiving)
    (ready : w.ready (.items r) = true) :
    ∃ played v, (w.receiver r).Steps played v ∧ w.Plays r v played (w.receive r) := by
  have start := plays_nothing w r
  simp only [receive]
  by_cases hc : (w.receiver r).cancelled = true
  · rw [if_pos hc]
    have htold := start.emit (e := .logged stoppedEntry) rfl (by simp [Event.receiver?])
    exact ⟨_, _, .stops loop hc, htold.modify (Receiver.goneTo .ended)⟩
  · rw [if_neg hc]
    have hc' : (w.receiver r).cancelled = false := by simpa using hc
    cases hfeed : (w.receiver r).feed with
    | nil =>
      have hclosed : (w.receiver r).feedClosed = true := by
        simpa [World.ready, hc', hfeed] using ready
      dsimp only
      rw [if_pos hclosed]
      have hseen := start.emit (e := .feedEnded r) rfl (by simp [Event.receiver?])
      have htold := hseen.log (e := receiverEntry .warn "delivery stream ended"
        [("error", .plain Failure.connectionLost.message)]) (by decide)
      exact ⟨_, _, .loses loop hc' hfeed hclosed, htold.modify Receiver.lost⟩
    | cons item rest =>
      have htook := start.emit (e := .pulled r item) rfl (by simp [Event.receiver?])
      cases item with
      | fault fault =>
        have hpassed := htook.modify (Receiver.passedOver rest)
        exact ⟨_, _, .skips loop hc' hfeed,
          hpassed.log (ne_stoppedEntry_of_level (by simp [faultEntry]))⟩
      | delivery d cue =>
        obtain ⟨span, hbegan, hwaits⟩ :=
          plays_processingStart (htook.modify (Receiver.taken rest)) (w.receiver r).kind d cue
        have hv := congrArg (Receiver.processed · (Receiver.taken rest (w.receiver r))) hwaits
        exact ⟨_, _, .dispatches span loop hc' hfeed, plays_processed hbegan hv⟩

/-- A loop that processes a delivery makes one of the steps. -/
theorem resume_plays {w : World} {r : Nat} {s : Processing}
    (loop : (w.receiver r).loop = .processing s) :
    ∃ played v, (w.receiver r).Steps played v ∧
      w.Plays r v played ((Processing.resume r (w.receiver r).mode s w).1.processed r
        (Processing.resume r (w.receiver r).mode s w).2) := by
  have start := plays_nothing w r
  cases s with
  | handling d span cue =>
    have hended := start.emit (e := .handled r d cue.result) rfl (by simp [Event.receiver?])
    cases hf : cue.result.failure? with
    | none =>
      have hresult : cue.result = .succeeded := by
        cases hr : cue.result with
        | succeeded => rfl
        | failed f => simp [hr, HandlerResult.failure?] at hf
        | panicked text => cases text <;> simp [hr, HandlerResult.failure?] at hf
      have hresume : Processing.resume r (w.receiver r).mode (.handling d span cue) w =
          Processing.succeeded (w.receiver r).mode d span (w.emit (.handled r d cue.result)) := by
        simp only [Processing.resume, hf]
      rw [hresume]
      rcases plays_succeeded hended (w.receiver r).mode d span with ⟨hs, hp, hd⟩ | ⟨p, hs, hp, hd⟩
      · rw [← hresult] at hs
        refine ⟨_, _, .finishes loop hs, plays_processed hp ?_⟩
        rw [hd, hf]
        rfl
      · rw [← hresult] at hs
        refine ⟨_, _, .settles loop hs, plays_processed hp ?_⟩
        rw [hd, hf]
        rfl
    | some f =>
      have hresume : Processing.resume r (w.receiver r).mode (.handling d span cue) w =
          Processing.failed (w.receiver r).mode d span f (w.emit (.handled r d cue.result)) := by
        simp only [Processing.resume, hf]
      rw [hresume]
      rcases plays_failed hended (w.receiver r).mode d span hf with ⟨hs, hp, hd⟩ | ⟨p, hs, hp, hd⟩
      · refine ⟨_, _, .finishes loop hs, plays_processed hp ?_⟩
        rw [hd, hf]
        rfl
      · refine ⟨_, _, .settles loop hs, plays_processed hp ?_⟩
        rw [hd, hf]
        rfl
  | settling d span failure p =>
    obtain ⟨hheard, hdone⟩ := plays_settled start (w.receiver r).mode d span failure p
    cases ha : p.reply.answer with
    | crashed payload =>
      refine ⟨_, _, .dies loop ha, plays_processed hheard ?_⟩
      rw [hdone, ha]
      rfl
    | done name =>
      refine ⟨_, _, .hears loop (by simp [ha]), plays_processed hheard ?_⟩
      rw [hdone, ha]
      cases failure <;> rfl
    | refused fault =>
      refine ⟨_, _, .hears loop (by simp [ha]), plays_processed hheard ?_⟩
      rw [hdone, ha]
      cases failure <;> rfl

/-- Every step of a loop that may go on. -/
theorem runReceiver_plays {w : World} {r : Nat} {wait : Wait}
    (hwait : (w.receiver r).wait? r = some wait) (ready : w.ready wait = true) :
    ∃ played v, (w.receiver r).Steps played v ∧ w.Plays r v played (w.runReceiver r) := by
  unfold Receiver.wait? at hwait
  cases hloop : (w.receiver r).loop with
  | receiving =>
    simp only [hloop, Option.some.injEq] at hwait
    subst hwait
    simp only [runReceiver, hloop]
    exact receive_plays hloop ready
  | processing s =>
    simp only [runReceiver, hloop]
    exact resume_plays hloop
  | ended => simp [hloop] at hwait
  | crashed payload => simp [hloop] at hwait

end World

end TopicWorker
