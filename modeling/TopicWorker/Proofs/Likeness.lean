import TopicWorker.Proofs.Isolation
import TopicWorker.Proofs.Spans

/-!
# Headers that are not read

A receive loop passes the header table of a delivery on and does not look into it, and what reads
the context of the delivery finds texts there and nothing else. So two receivers that have been led
through the same steps have done the same if what they have been given differs in headers that are
no texts: they have taken the same items and handed them over under the same contexts, have heard of
the same results, have settled the same deliveries in the same way, and have counted the same.

## Main definitions

* `Delivery.Alike`: deliveries that differ in such headers only.
* `Consumption.Unfolds`: a consumption that is over, by its parts.
* `Delivery.readable`, `Receiver.readable`, `Beat.readable`: what is left without such headers.
* `Receiver.plays`: the beats of a step of a receiver.
* `contexts`: the contexts that spans are opened and handlers called under.

## Main results

* `consumeBy_ends_of_alike`, `consume_ends_of_alike`: one delivery.
* `Receiver.readable_next`, `Receiver.readable_plays`: one step.
* `System.played_after`, `System.contexts_after`: what a receive loop has done in a history.
* `unread_headers_inert`: all this, and what is read at all.
-/

namespace TopicWorker

variable {γ η σ : Type}

/-! ## One delivery -/

/-- Two deliveries that differ in headers that are no texts, and in nothing else. -/
structure Delivery.Alike (d d' : Delivery) : Prop where
  same : d' = { d with headers := d'.headers }
  headers : d.headers.Alike d'.headers

section Consuming

open Consumption

variable {P : Propagator γ} {parent : γ → TraceContext} {a : Acknowledger σ} {mode : AckMode}
  {d d' : Delivery} {w v : World} {es : List Event}

/-- What is left to do with a delivery when its handler has ended. -/
def Consumption.afterwards (a : Acknowledger σ) (mode : AckMode) (d : Delivery) (span : Nat)
    (r : HandlerResult) : Activity σ (Except Failure Unit) :=
  (settlement a mode d span r.failure?).noted (notes mode d span r.failure?)

/-- It does not depend on the headers. -/
theorem afterwards_congr (alike : d.Alike d') (a : Acknowledger σ) (mode : AckMode) (span : Nat)
    (r : HandlerResult) : afterwards a mode d' span r = afterwards a mode d span r := by
  rw [alike.same]
  rfl

/-- A consumption that is over, by its parts: it has been opened, the handler has ended, and what
was left to do by then has been done. -/
def Consumption.Unfolds (opened : World) (handler : Activity η HandlerResult)
    (rest : HandlerResult → Activity σ (Except Failure Unit)) (w : World) (es : List Event)
    (e : Completion (Except Failure Unit)) (v : World) : Prop :=
  ∃ before handled e₁ u more, opened.trace = w.trace ++ before ∧
    handler.Ends opened handled e₁ u ∧ (rest (.ofCompletion e₁)).Ends u more e v ∧
    es = before ++ handled ++ more

/-- Deliveries that are alike are consumed in the same parts. -/
theorem consumeFrom_ends_of_alike (alike : d.Alike d') {begun : World → World × γ × Nat}
    {grows : ∀ w, ∃ es, (begun w).1.trace = w.trace ++ es}
    {h : γ → Delivery → Activity η HandlerResult} {context : γ} {span : Nat}
    (same : (begun w).2 = (context, span)) {e : Completion (Except Failure Unit)} :
    (consumeFrom begun grows h a mode d').Ends w es e v ↔
      Unfolds (begun w).1 (h context d') (afterwards a mode d span) w es e v := by
  have left : ∀ r, (settlement a mode d' span r.failure?).noted (notes mode d' span r.failure?) =
      afterwards a mode d span r := afterwards_congr alike a mode span
  rw [consumeFrom_ends_iff, same]
  constructor
  · rintro ⟨before, handled, e₁, u, rest, added, handler, settles, rfl⟩
    refine ⟨before, handled, e₁, u, _, added, handler, ?_, List.append_assoc _ _ rest⟩
    rw [← left]
    exact Activity.ends_noted.mpr ⟨rest, rfl, settles⟩
  · rintro ⟨before, handled, e₁, u, rest, added, handler, settles, rfl⟩
    rw [← left] at settles
    obtain ⟨rest, rfl, settles'⟩ := Activity.ends_noted.mp settles
    exact ⟨before, handled, e₁, u, rest, added, handler, settles',
      (List.append_assoc _ _ rest).symm⟩

/-- Under any propagator the context is the same, -/
theorem consumeBy_ends_of_alike (alike : d.Alike d')
    {h : γ → Delivery → Activity η HandlerResult} {e : Completion (Except Failure Unit)} :
    (consumeBy P parent h a mode d').Ends w es e v ↔
      Unfolds (openingBy P parent d' w).1 (h (P.context d.headers) d')
        (afterwards a mode d (w.spans + 1)) w es e v := by
  refine consumeFrom_ends_of_alike alike ?_
  rw [openingBy_eq, Propagator.context_congr alike.headers]

/-- and so it is under the one that a worker has installed. -/
theorem consume_ends_of_alike (alike : d.Alike d') {h : Handler η}
    {e : Completion (Except Failure Unit)} : (consume h a mode d').Ends w es e v ↔
      Unfolds (opening d' w).1 (h (d.headers.carried w.propagation) d')
        (afterwards a mode d (w.spans + 1)) w es e v := by
  refine consumeFrom_ends_of_alike alike (Prod.ext ?_ (number_opening d' w).1)
  exact (context_opening d' w).trans (Headers.carried_congr alike.headers _).symm

end Consuming

/-! ## Without what is not read -/

/-- A delivery with nothing but texts in its table. -/
def Delivery.readable (d : Delivery) : Delivery := { d with headers := d.headers.readable }

theorem Delivery.readable_eq_iff {d d' : Delivery} : d.readable = d'.readable ↔ d.Alike d' := by
  constructor
  · intro same
    refine ⟨?_, Headers.readable_eq_iff.mp (congrArg headers same)⟩
    cases d
    cases d'
    simp only [readable, mk.injEq] at same
    obtain ⟨rfl, rfl, rfl, rfl, rfl, -⟩ := same
    rfl
  · rintro ⟨same, alike⟩
    rw [same, readable, readable, Headers.readable_eq_iff.mpr alike]

def Item.readable : Item → Item
  | .delivery d cue => .delivery d.readable cue
  | .fault f => .fault f

def Processing.readable : Processing → Processing
  | .handling d span cue => .handling d.readable span cue
  | .settling d span failure p => .settling d.readable span failure p

def Loop.readable : Loop → Loop
  | .processing p => .processing p.readable
  | loop => loop

def Receiver.readable (v : Receiver) : Receiver :=
  { v with feed := v.feed.map Item.readable, loop := v.loop.readable }

def Own.readable : Own → Own
  | .arrives item => .arrives item.readable
  | o => o

def Beat.readable : Beat → Beat
  | .took item => .took item.readable
  | .began d => .began d.readable
  | .ended d result => .ended d.readable result
  | beat => beat

theorem AckMode.settlement_readable (mode : AckMode) (d : Delivery) (result : HandlerResult) :
    mode.settlement d.readable result = mode.settlement d result := by
  cases mode <;> cases result <;> rfl

/-! ## One step -/

namespace Receiver

/-- The beats of a step of a receiver. -/
def plays (v : Receiver) : Own → List Beat
  | .goesOn heard =>
    match v.loop with
    | .receiving =>
      if v.cancelled then [.sawStop]
      else
        match v.feed with
        | .delivery d cue :: _ => [.took (.delivery d cue), .began d]
        | .fault fault :: _ => [.took (.fault fault)]
        | [] => if v.feedClosed then [.sawEnd] else []
    | .processing (.handling d _ cue) =>
      .ended d cue.result :: (v.mode.settlement d cue.result).toList.map .called
    | .processing (.settling _ _ _ p) => heard.toList.map (.answered p.call)
    | .ended | .crashed _ => []
  | _ => []

/-- The beats of some steps of a receiver. -/
def played (v : Receiver) : List Own → List Beat
  | [] => []
  | o :: steps => v.plays o ++ (v.next o).played steps

theorem played_concat (v : Receiver) (steps : List Own) (o : Own) :
    v.played (steps ++ [o]) = v.played steps ++ (v.led steps).plays o := by
  induction steps generalizing v with
  | nil => simp [played, led]
  | cons o' steps ih => simp [played, led, ih]

/-- A step of a loop plays what follows from its receiver. -/
theorem Steps.plays {v v' : Receiver} {beats : List Beat} (h : v.Steps beats v') :
    beats = v.bare.plays (.goesOn v.loop.answer?) := by
  cases h with
  | stops loop told => simp [Receiver.bare, Receiver.plays, loop, told, Loop.bare]
  | loses loop untold empty closed =>
    simp [Receiver.bare, Receiver.plays, loop, untold, empty, closed, Loop.bare]
  | skips loop untold feed =>
    simp [Receiver.bare, Receiver.plays, loop, untold, feed, Loop.bare]
  | dispatches span loop untold feed =>
    simp [Receiver.bare, Receiver.plays, loop, untold, feed, Loop.bare]
  | finishes loop unsettled =>
    simp [Receiver.bare, Receiver.plays, loop, unsettled, Loop.bare]
  | settles loop settled => simp [Receiver.bare, Receiver.plays, loop, settled, Loop.bare]
  | hears loop alive => simp [Receiver.bare, Receiver.plays, loop, Loop.answer?, Loop.bare]
  | dies loop dead => simp [Receiver.bare, Receiver.plays, loop, dead, Loop.answer?, Loop.bare]

variable (v : Receiver)

/-- What becomes of a receiver does not depend on headers that are no texts, -/
theorem readable_next (o : Own) : (v.next o).readable = v.readable.next o.readable := by
  cases o with
  | arrives item =>
    by_cases closed : v.feedClosed = true <;> simp [next, readable, Own.readable, closed]
  | ends => rfl
  | stops =>
    by_cases joinable : v.joinable = true <;>
      simp [next, readable, Own.readable, claimed, joinable]
  | goesOn heard =>
    cases loop : v.loop with
    | receiving =>
      by_cases told : v.cancelled = true
      · simp [next, readable, Own.readable, Loop.readable, loop, told, goneTo]
      cases feed : v.feed with
      | nil =>
        by_cases closed : v.feedClosed = true <;>
          simp [next, readable, Own.readable, Loop.readable, loop, told, feed, closed, lost]
      | cons item rest =>
        cases item <;>
          simp [next, readable, Own.readable, Loop.readable, Item.readable, Processing.readable,
            loop, told, feed, taken, goneTo, passedOver]
    | processing p =>
      cases p with
      | handling d span cue =>
        cases settled : v.mode.settlement d cue.result <;>
          simp [next, readable, Own.readable, Loop.readable, Processing.readable, loop, settled,
            AckMode.settlement_readable, doneWith, goneTo]
      | settling d span failure p =>
        rcases heard with _ | _ | _ | _ <;>
          simp [next, readable, Own.readable, Loop.readable, Processing.readable, loop, doneWith,
            goneTo]
    | _ => simp [next, readable, Own.readable, Loop.readable, loop]

/-- and what it plays only where such headers are passed on. -/
theorem readable_plays (o : Own) : (v.plays o).map Beat.readable = v.readable.plays o.readable := by
  cases o with
  | goesOn heard =>
    cases loop : v.loop with
    | receiving =>
      by_cases told : v.cancelled = true
      · simp [plays, readable, Own.readable, Loop.readable, Beat.readable, loop, told]
      cases feed : v.feed with
      | nil =>
        by_cases closed : v.feedClosed = true <;>
          simp [plays, readable, Own.readable, Loop.readable, Beat.readable, loop, told, feed,
            closed]
      | cons item rest =>
        cases item <;>
          simp [plays, readable, Own.readable, Loop.readable, Item.readable, Beat.readable, loop,
            told, feed]
    | processing p =>
      cases p with
      | handling d span cue =>
        cases settled : v.mode.settlement d cue.result <;>
          simp [plays, readable, Own.readable, Loop.readable, Processing.readable, Beat.readable,
            loop, settled, AckMode.settlement_readable]
      | settling d span failure p =>
        cases heard <;>
          simp [plays, readable, Own.readable, Loop.readable, Processing.readable, Beat.readable,
            loop]
    | _ => simp [plays, readable, Own.readable, Loop.readable, loop]
  | _ => rfl

theorem readable_led (steps : List Own) :
    (v.led steps).readable = v.readable.led (steps.map Own.readable) := by
  induction steps generalizing v with
  | nil => rfl
  | cons o steps ih => exact (ih _).trans (by rw [readable_next]; rfl)

theorem readable_played (steps : List Own) :
    (v.played steps).map Beat.readable = v.readable.played (steps.map Own.readable) := by
  induction steps generalizing v with
  | nil => rfl
  | cons o steps ih =>
    rw [played, List.map_append, readable_plays, ih, readable_next]
    rfl

end Receiver

/-! ## A history -/

/-- What has been handed over is left in what has been played. -/
theorem readable_begun (played : List Beat) :
    (begunIn played).map Delivery.readable = begunIn (played.map Beat.readable) := by
  rw [begunIn, begunIn, List.map_filterMap, List.filterMap_map]
  congr 1
  funext beat
  cases beat <;> rfl

/-- The context that something is done under: a span is opened, or a handler called. -/
def Mark.context? : Mark → Option TraceContext
  | .record _ (.started _ parent) => some parent
  | .handed _ context => some context
  | _ => none

/-- The contexts that spans are opened and handlers called under. -/
def contexts (es : List Event) : List TraceContext := (marks es).filterMap Mark.context?

/-- A span is opened under its context, and the handler is called under the same. -/
theorem Span.contexts {s : Span} (going : s.Going) :
    s.marks.filterMap Mark.context? = [s.context, s.context] := by
  have later : (s.rest.map (Mark.record s.number)).filterMap Mark.context? = [] := by
    rw [List.filterMap_map, List.filterMap_eq_nil_iff]
    intro x hx
    have other := List.any_eq_false.mp going x hx
    cases x with
    | started => exact absurd rfl other
    | _ => rfl
  rw [Span.marks, List.filterMap_append, List.filterMap_cons, later]
  rfl

namespace System

section Histories

variable {s : System} {r : Nat} {m : Move} {o : Own}

/-- A receive loop plays in its steps what follows from its receiver. -/
theorem beats_of_own (h : s.own r m = some o) :
    beats (eventsBy (.receiver r) (s.doing m)) = (s.world.receiver r).bare.plays o := by
  obtain ⟨-, there⟩ := owner_of_own h
  rcases cases_own h with ⟨item, rfl, rfl⟩ | ⟨rfl, rfl⟩ | ⟨rfl, ready, rfl⟩ | ⟨call, rfl⟩
  · rfl
  · rfl
  · obtain ⟨v, steps, -⟩ := steps_of_runnable ready
    exact steps.plays
  · obtain ⟨-, undergoes⟩ := s.follows m there
    have called : (s.stopCall? m == some r) = true := by simp [call]
    rw [called] at undergoes
    exact undergoes.of_called.2

/-- What a receive loop has played in a history follows from its own steps. -/
theorem played_after (empty : s.world.receivers = []) (h : List Move)
    (there : r < (s.after h).world.receivers.length) {mode : AckMode} {kind : HandlerKind}
    (hmode : ((s.after h).world.receiver r).mode = mode)
    (hkind : ((s.after h).world.receiver r).kind = kind) :
    beats (eventsBy (.receiver r) (s.deeds h)) =
      (Receiver.fresh mode kind).played (s.owns r h) := by
  induction h using List.reverseRecOn with
  | nil => simp [empty] at there
  | append_singleton h m ih =>
    rw [after_concat] at there hmode hkind
    rw [owns_concat, eventsBy_deeds_concat, beats_append]
    by_cases before : r < (s.after h).world.receivers.length
    · obtain ⟨-, -, sameMode, sameKind⟩ := ((s.after h).follows m before).2.frame
      rw [sameMode] at hmode
      rw [sameKind] at hkind
      rw [ih before hmode hkind]
      cases own : (s.after h).own r m with
      | none =>
        rw [silent_of_foreign before own]
        simp
      | some o =>
        rw [Option.toList_some, Receiver.played_concat, beats_of_own own,
          (led_after empty h before hmode hkind).1]
    · have absent := Nat.le_of_not_lt before
      obtain ⟨silent, -⟩ := (s.after h).appears m absent
      rw [owns_of_absent h absent, (absent_after h absent).1, silent, own_of_absent m absent]
      rfl

end Histories

/-- Spans are opened and handlers called under the contexts that headers carry. -/
theorem contexts_after (setup : Setup) (h : List Move) {r : Nat}
    (there : r < (setup.system.after h).world.receivers.length) :
    contexts (eventsBy (.receiver r) (setup.system.deeds h)) =
      (invocations r (setup.system.after h).world.trace).flatMap fun d =>
        .replicate 2 (d.headers.carried setup.propagation) := by
  obtain ⟨done, last, recorded, whole, opened, carried, handed⟩ :=
    (traces_after setup h there).spans
  have going : ∀ x ∈ done ++ last.toList, x.Going := by
    intro x hx
    rcases List.mem_append.mp hx with hx | hx
    · exact (whole x hx).going
    · exact (opened x (Option.mem_toList.mp hx)).1
  rw [contexts, recorded, ← handed]
  generalize done ++ last.toList = spans at going carried
  induction spans with
  | nil => rfl
  | cons x spans ih =>
    obtain ⟨first, others⟩ := List.forall_mem_cons.mp going
    obtain ⟨firstCarried, othersCarried⟩ := List.forall_mem_cons.mp carried
    rw [List.flatMap_cons, List.filterMap_append, ih others othersCarried, List.map_cons,
      List.flatMap_cons, Span.contexts first, firstCarried]
    rfl

/-- Two receivers in two histories that cannot be told apart but by headers that are no texts. -/
structure Alike (s s' : System) (h h' : List Move) (r r' : Nat) : Prop where
  /-- What is left of them is the same: what waits in their feeds, where their loops are, and with
  which settlement, -/
  left : ((s.after h).world.receiver r).bare.readable =
    ((s'.after h').world.receiver r').bare.readable
  /-- and what they have counted. -/
  counted : ((s.after h).world.receiver r).stats = ((s'.after h').world.receiver r').stats
  /-- So is what they have done: the items that they have taken and handed over, the results that
  they have heard of, and the settlements with their answers. -/
  played : (beats (eventsBy (.receiver r) (s.deeds h))).map Beat.readable =
    (beats (eventsBy (.receiver r') (s'.deeds h'))).map Beat.readable
  /-- It has been done under the same contexts. -/
  under : contexts (eventsBy (.receiver r) (s.deeds h)) =
    contexts (eventsBy (.receiver r') (s'.deeds h'))

/-- What is carried by deliveries is left in what can be read of them. -/
theorem carried_readable (names : Option (List String)) (ds : List Delivery) :
    ((ds.map Delivery.readable).flatMap fun d => .replicate 2 (d.headers.carried names)) =
      ds.flatMap fun d => .replicate 2 (d.headers.carried names) := by
  rw [List.flatMap_map]
  refine List.flatMap_congr fun d _ => ?_
  rw [Headers.carried_congr d.headers.alike_readable names]
  rfl

/-- Receivers that have been led through the same steps, but for headers that are no texts, cannot
be told apart in any other way. -/
theorem alike_after {setup setup' : Setup} (names : setup.propagation = setup'.propagation)
    {h h' : List Move} {r r' : Nat} (there : r < (setup.system.after h).world.receivers.length)
    (there' : r' < (setup'.system.after h').world.receivers.length)
    (mode : ((setup.system.after h).world.receiver r).mode =
      ((setup'.system.after h').world.receiver r').mode)
    (kind : ((setup.system.after h).world.receiver r).kind =
      ((setup'.system.after h').world.receiver r').kind)
    (same : (setup.system.owns r h).map Own.readable =
      (setup'.system.owns r' h').map Own.readable) :
    setup.system.Alike setup'.system h h' r r' := by
  have played : (beats (eventsBy (.receiver r) (setup.system.deeds h))).map Beat.readable =
      (beats (eventsBy (.receiver r') (setup'.system.deeds h'))).map Beat.readable := by
    rw [played_after rfl h there mode kind, played_after rfl h' there' rfl rfl,
      Receiver.readable_played, Receiver.readable_played, same]
  have left : ((setup.system.after h).world.receiver r).bare.readable =
      ((setup'.system.after h').world.receiver r').bare.readable := by
    rw [(led_after rfl h there mode kind).1, (led_after rfl h' there' rfl rfl).1,
      Receiver.readable_led, Receiver.readable_led, same]
  have handed : (invocations r (setup.system.after h).world.trace).map Delivery.readable =
      (invocations r' (setup'.system.after h').world.trace).map Delivery.readable := by
    rw [trace_deeds rfl, trace_deeds rfl, invocations_deeds (wellNamed_deeds setup.system h),
      invocations_deeds (wellNamed_deeds setup'.system h'), readable_begun, readable_begun, played]
  have counted := congrArg Receiver.stats left
  refine ⟨left, counted, played, ?_⟩
  rw [contexts_after setup h there, contexts_after setup' h' there', names,
    ← carried_readable _ (invocations r _), handed, carried_readable]

end System

section Inert

open Consumption

/-- What is read from headers are the texts under their very keys; what should be a text and is none
is told of once, and all keys are listed. So under any propagator, and under the one that a worker
has installed, two deliveries that differ in headers that are no texts are consumed in the same
parts: their spans are opened and their handlers called under the same context, and what is left to
do then is the same for the same result. In every history such headers, however they are put in,
make no difference to what a receive loop does, settles and counts. -/
theorem unread_headers_inert (P : Propagator γ) (parent : γ → TraceContext)
    (h : γ → Delivery → Activity η HandlerResult) (h' : Handler η) (a : Acknowledger σ)
    (mode : AckMode) {d d' : Delivery} (alike : d.Alike d') (w : World) :
    (∀ (t : Headers) (key : String),
      (∀ s, (t.read key).1 = some s ↔ t.Holds key s) ∧
      (t.Garbled key → ∃ e, (t.read key).2 = [e] ∧ e.level = .error) ∧
      (¬ t.Garbled key → (t.read key).2 = [])) ∧
    (∀ t : Headers, t.keys.Nodup ∧ ∀ key, key ∈ t.keys ↔ ∃ v, (key, v) ∈ t.entries) ∧
    (∀ (t : Headers) (key : String) (v : HeaderValue), v.text? = none → (∀ s, ¬ t.Holds key s) →
      t.Alike (t.insert key v)) ∧
    ((openingBy P parent d' w).2 = (P.context d.headers, w.spans + 1) ∧
      ∀ before, (openingBy P parent d' w).1.trace = w.trace ++ before → marks before =
        (SpanRecord.opened d (parent (P.context d.headers))).map (.record (w.spans + 1))) ∧
    (∀ es e v, (consumeBy P parent h a mode d').Ends w es e v ↔
      Unfolds (openingBy P parent d' w).1 (h (P.context d.headers) d')
        (afterwards a mode d (w.spans + 1)) w es e v) ∧
    (∀ es e v, (consume h' a mode d').Ends w es e v ↔
      Unfolds (opening d' w).1 (h' (d.headers.carried w.propagation) d')
        (afterwards a mode d (w.spans + 1)) w es e v) ∧
    ∀ (setup setup' : Setup), setup.propagation = setup'.propagation → ∀ (s s' : List Move),
      ∀ r < (setup.system.after s).world.receivers.length,
      ∀ r' < (setup'.system.after s').world.receivers.length,
        ((setup.system.after s).world.receiver r).mode =
            ((setup'.system.after s').world.receiver r').mode →
        ((setup.system.after s).world.receiver r).kind =
            ((setup'.system.after s').world.receiver r').kind →
        (setup.system.owns r s).map Own.readable = (setup'.system.owns r' s').map Own.readable →
          setup.system.Alike setup'.system s s' r r' := by
  have context := Propagator.context_congr alike.headers P
  refine ⟨fun t key => t.read_spec key,
    fun t => ⟨t.keys_nodup, fun key => Headers.mem_keys_iff_entry⟩,
    fun t key v unread free => Headers.alike_insert unread free,
    ⟨by rw [openingBy_eq, context], fun before added => ?_⟩,
    fun es e v => consumeBy_ends_of_alike alike, fun es e v => consume_ends_of_alike alike,
    fun setup setup' names s s' r there r' there' mode kind same =>
      System.alike_after names there there' mode kind same⟩
  rw [(opensSpan_openingBy P parent d' w).marks added, context, alike.same]
  rfl

/-- A message with a text and with bytes that are none. -/
def garbled : Delivery :=
  { headers := .ofList [("traceparent", .longString [0x30, 0x30]),
      ("tracestate", .longString [0xFF]), ("depth", .scalar (.longInt 3))] }

/-- The same message with the same text, and with other things around it. -/
def nested : Delivery :=
  { headers := .ofList [("traceparent", .longString [0x30, 0x30]),
      ("origin", .table [("hops", .array [.scalar .void])])] }

/-- A consumer is given a message, and its handler fails. -/
def failingHistory (d : Delivery) : List Move :=
  [.begin (.start "users" (.manual true) none .cued), .act (.job 0),
    .deliver 0 (.delivery d { result := .failed .internal }), .act (.receiver 0),
    .act (.receiver 0), .act (.receiver 0)]

theorem unread_headers_inert_garbled :
    let setup : Setup := { connected := true, propagation := some ["traceparent"] }
    let handler := fun (context : Option String × Option String) => prompt ⟨context.1⟩
    garbled.Alike nested ∧ garbled.headers.Garbled "tracestate" ∧
      (openingBy chained (⟨·.1⟩) nested default).2 = ((some "00", none), 1) ∧
      (∃ es v, (consumeBy chained (⟨·.1⟩) handler refusing (.manual true) nested).Ends default es
        (.ok (.error .acknowledgement)) v) ∧
      setup.system.Alike setup.system (failingHistory garbled) (failingHistory nested) 0 0 ∧
      ((setup.system.after (failingHistory nested)).world.receiver 0).stats =
        { dispatched := 1, failed := 1 } := by
  have alike : garbled.Alike nested := Delivery.readable_eq_iff.mp (by decide)
  obtain ⟨-, -, -, ⟨opened, -⟩, consumed, -, led⟩ := unread_headers_inert chained (⟨·.1⟩)
    (fun context => prompt ⟨context.1⟩) prompt refusing (.manual true) alike default
  have same := led { connected := true, propagation := some ["traceparent"] }
    { connected := true, propagation := some ["traceparent"] } rfl (failingHistory garbled)
    (failingHistory nested) 0 (by decide) 0 (by decide) (by decide) (by decide) (by decide)
  refine ⟨alike, ⟨[0xFF], by decide, ?_⟩, opened.trans (by decide), ?_, same, ?_⟩
  · rintro ⟨s, written⟩
    have none : Text.Utf8.decode? [0xFF] = none := by decide
    rw [Text.Utf8.decode?_eq_some_iff.mpr written] at none
    cases none
  · have left : ∀ u, ∃ more v, (afterwards refusing (.manual true) garbled 1 .succeeded).Ends u more
        (.ok (.error .acknowledgement)) v := fun u =>
      ⟨_, _, Activity.ends_noted.mpr ⟨_, rfl, Activity.ends_ending.mpr
        ⟨[], .ok (.error .acknowledgement), _, Activity.ends_done.mpr ⟨rfl, rfl, rfl⟩, rfl, rfl,
          rfl⟩⟩⟩
    obtain ⟨more, v, ends⟩ := left (openingBy chained (⟨·.1⟩) nested default).1
    exact ⟨_, v, (consumed _ _ _).mpr ⟨_, [], .ok .succeeded, _, more, (List.nil_append _).symm,
      Activity.ends_done.mpr ⟨rfl, rfl, rfl⟩, ends, rfl⟩⟩
  · rw [← same.counted]
    decide

end Inert

end TopicWorker
