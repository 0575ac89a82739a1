import TopicWorker.Proofs.Following

/-!
# What a receive loop hands over

A consumer's handler is called with the deliveries that arrive for it, in their order, each
once and as it is, one at a time. Nothing that goes wrong with an item, its handler or its
settlement ends the loop; what does is the stop, the end of the feed, or a broker client that
breaks down. Once the stop has been called no handler begins, whatever is waiting.

## Main definitions

* `Item.delivery?`: the delivery of an item.
* `InTurn`: handlers that begin and end in turn.

## Main results

* `invocations_in_order`: all this, for every receiver of every reachable system.
-/

namespace TopicWorker

/-- The delivery of an item, if it is one. -/
def Item.delivery? : Item → Option Delivery
  | delivery d _ => some d
  | fault _ => none

/-- Handlers begin and end in turn: one that is under way ends before another begins. -/
def InTurn : Option Delivery → List Beat → Prop
  | _, [] => True
  | none, .began d :: l => InTurn (some d) l
  | some _, .began _ :: _ => False
  | some d, .ended d' _ :: l => d = d' ∧ InTurn none l
  | none, .ended _ _ :: _ => False
  | o, _ :: l => InTurn o l

/-- Where handlers begin and end in turn, those that have ended are the first that have begun,
and at every moment at most one is under way. -/
theorem InTurn.of_prefix {o : Option Delivery} {l pre : List Beat} (h : InTurn o l)
    (hpre : pre <+: l) :
    ∃ inFlight : Option Delivery, o.toList ++ begunIn pre = endedIn pre ++ inFlight.toList := by
  induction pre generalizing o l with
  | nil => exact ⟨o, by simp [begunIn, endedIn]⟩
  | cons b pre ih =>
    obtain ⟨rest, rfl⟩ := hpre
    have hrest : pre <+: pre ++ rest := List.prefix_append _ _
    cases b with
    | began d =>
      cases o with
      | none => simpa [begunIn, endedIn] using ih (o := some d) h hrest
      | some d' => exact h.elim
    | ended d result =>
      cases o with
      | none => exact h.elim
      | some d' =>
        obtain ⟨rfl, h⟩ := h
        obtain ⟨inFlight, hfly⟩ := ih (o := none) h hrest
        exact ⟨inFlight, by simpa [begunIn, endedIn] using hfly⟩
    | _ =>
      have h' : InTurn o (pre ++ rest) := by cases o <;> exact h
      simpa [begunIn, endedIn] using ih h' hrest

/-- A lap begins and ends with no handler under way. -/
theorem inTurn_lap (mode : AckMode) (lap : Lap) {l : List Beat} (h : InTurn none l) :
    InTurn none (lap.beats mode ++ l) := by
  cases lap with
  | fault f => exact h
  | delivery d cue result answer =>
    refine ⟨rfl, ?_⟩
    cases mode.settlement d result <;> exact h

/-- In the tail of a course at most one handler is under way. -/
theorem inTurn_tail {mode : AckMode} {loop : Loop} {tail : List Beat} (h : loop.Tail mode tail) :
    InTurn none tail := by
  cases h <;> simp [InTurn]

namespace Receiver

variable {v : Receiver} {played : List Beat} {laps : List Lap} {tail : List Beat}

/-- On its course a loop lets handlers begin and end in turn. -/
theorem Course.inTurn (h : v.Course played laps tail) : InTurn none played := by
  rw [h.beats]
  generalize laps = laps'
  induction laps' with
  | nil => exact inTurn_tail h.place
  | cons lap laps' ih =>
    rw [List.flatMap_cons, List.append_assoc]
    exact inTurn_lap v.mode lap ih

/-- On its course a loop hands over the deliveries among the items it takes, and nothing
else. -/
theorem Course.begun_eq (h : v.Course played laps tail) :
    begunIn played = (takenIn played).filterMap Item.delivery? := by
  have htail : begunIn tail = (takenIn tail).filterMap Item.delivery? := by
    have hplace := h.place
    generalize v.loop = loop at hplace
    cases hplace <;> rfl
  have hlap : ∀ lap : Lap, begunIn (lap.beats v.mode) =
      (takenIn (lap.beats v.mode)).filterMap Item.delivery? := by
    intro lap
    cases lap with
    | fault f => rfl
    | delivery d cue result answer =>
      simp only [Lap.beats]
      cases v.mode.settlement d result <;> rfl
  rw [h.beats]
  generalize laps = laps'
  induction laps' with
  | nil => exact htail
  | cons lap laps' ih =>
    rw [List.flatMap_cons, List.append_assoc, begunIn_append, takenIn_append,
      List.filterMap_append, hlap, ih]

/-- A loop that is over has seen the stop or the end of its feed, or a settlement has taken it
along. -/
theorem Course.of_isOver (h : v.Course played laps tail) (hover : v.loop.isOver = true) :
    (v.cancelled = true ∧ .sawStop ∈ played) ∨
      (v.feed = [] ∧ v.feedClosed = true ∧ .sawEnd ∈ played) ∨
      ∃ c payload, .answered c (.crashed payload) ∈ played := by
  have hplace := h.place
  have htail : ∀ b ∈ tail, b ∈ played := fun b hb => by
    rw [h.beats]
    exact List.mem_append_right _ hb
  generalize hloop : v.loop = loop at hplace hover
  cases hplace with
  | receiving => cases hover
  | handling => cases hover
  | settling => cases hover
  | stopped =>
    have hsaw := htail .sawStop (by simp)
    exact .inl ⟨h.stopped hsaw, hsaw⟩
  | lost =>
    have hsaw := htail .sawEnd (by simp)
    obtain ⟨hempty, hclosed⟩ := h.emptied hsaw
    exact .inr (.inl ⟨hempty, hclosed, hsaw⟩)
  | died d asked result c payload settled =>
    exact .inr (.inr ⟨c, payload, htail _ (by simp)⟩)

/-- There is no step without a beat. -/
theorem Steps.ne_nil {v' : Receiver} (h : v.Steps played v') : played ≠ [] := by
  cases h <;> simp

/-- With an item that waits the step is that it is taken, and handed over if it is a delivery. -/
theorem Steps.of_item {v' : Receiver} (h : v.Steps played v') {item : Item} {rest : List Item}
    (loop : v.loop = .receiving) (untold : v.cancelled = false) (feed : v.feed = item :: rest) :
    played = .took item :: item.delivery?.toList.map .began := by
  cases h with
  | stops _ told => simp [untold] at told
  | loses _ _ empty => simp [feed] at empty
  | skips _ _ feed' =>
    rw [feed] at feed'
    cases feed'
    rfl
  | dispatches span _ _ feed' =>
    rw [feed] at feed'
    cases feed'
    rfl
  | finishes other => simp [loop] at other
  | settles other => simp [loop] at other
  | hears other => simp [loop] at other
  | dies other => simp [loop] at other

/-- A receiver that has been told to stop takes nothing, whatever happens to it. -/
theorem Undergoes.of_cancelled {called : Bool} {items : List Item} {news : List Beat}
    {v' : Receiver} (h : v.Undergoes called items news v') (told : v.cancelled = true) :
    v'.cancelled = true ∧ begunIn news = [] := by
  cases h with
  | steps h =>
    obtain ⟨-, -, -, -, hsame, -⟩ := h.frame
    refine ⟨hsame.trans told, ?_⟩
    cases h with
    | dispatches span loop untold feed => simp [told] at untold
    | _ => rfl
  | arrives item unended => exact ⟨told, rfl⟩
  | ends => exact ⟨told, rfl⟩
  | called => by_cases hj : v.joinable = true <;> simp [hj, claimed, told, begunIn]
  | rests => exact ⟨told, rfl⟩

/-- A receiver whose stop has been called has been told to stop. -/
theorem Undergoes.cancelled_of_called {items : List Item} {news : List Beat} {v' : Receiver}
    (h : v.Undergoes true items news v') (charge : v.joinable = !v.cancelled) :
    v'.cancelled = true ∧ begunIn news = [] := by
  cases h with
  | called =>
    by_cases hj : v.joinable = true
    · simp [hj, claimed, begunIn]
    · have hc : v.cancelled = true := by simpa [charge] using hj
      simp [hj, hc, begunIn]

end Receiver

namespace System

variable {s : System}

/-- The trace of a history that begins with an empty one. -/
theorem trace_deeds (fresh : s.world.trace = []) (h : List Move) :
    (s.after h).world.trace = (s.deeds h).map (·.2) := by
  rw [trace_after, fresh, List.nil_append]

/-- A receiver that has been told to stop hands nothing over any more. -/
theorem begun_of_cancelled (r : Nat) (h : List Move) {s : System}
    (hr : r < s.world.receivers.length) (told : (s.world.receiver r).cancelled = true) :
    begunIn (beats (eventsBy (.receiver r) (s.deeds h))) = [] := by
  induction h generalizing s with
  | nil => rfl
  | cons m h ih =>
    obtain ⟨hlt, hundergoes⟩ := s.follows m hr
    obtain ⟨htold, hnone⟩ := hundergoes.of_cancelled told
    rw [deeds, eventsBy_append, beats_append, begunIn_append, hnone, ih hlt htold]
    rfl

/-- From the move in which its stop is called a receiver hands nothing over. -/
theorem begun_of_stopCall {r : Nat} {m : Move} (hr : r < s.world.receivers.length)
    (charge : (s.world.receiver r).joinable = !(s.world.receiver r).cancelled)
    (call : s.stopCall? m = some r) (h : List Move) :
    begunIn (beats (eventsBy (.receiver r) (s.deeds (m :: h)))) = [] := by
  obtain ⟨hlt, hundergoes⟩ := s.follows m hr
  rw [call, beq_self_eq_true] at hundergoes
  obtain ⟨htold, hnone⟩ := hundergoes.cancelled_of_called charge
  rw [deeds, eventsBy_append, beats_append, begunIn_append, hnone,
    begun_of_cancelled r h hlt htold]
  rfl

/-- A beat that a receive loop has played is an event of its own. -/
theorem mem_deeds_of_beat {r : Nat} {b : Beat} {deeds : List (Actor × Event)}
    (h : b ∈ beats (eventsBy (.receiver r) deeds)) :
    ∃ e, (Actor.receiver r, e) ∈ deeds ∧ e.beat? = some b := by
  obtain ⟨e, he, hb⟩ := List.mem_filterMap.mp h
  exact ⟨e, mem_eventsBy.mp he, hb⟩

/-- A loop that has seen the stop has told so. -/
theorem mem_deeds_of_sawStop {r : Nat} {deeds : List (Actor × Event)}
    (h : .sawStop ∈ beats (eventsBy (.receiver r) deeds)) :
    (Actor.receiver r, Event.logged stoppedEntry) ∈ deeds := by
  obtain ⟨e, he, hb⟩ := mem_deeds_of_beat h
  cases e with
  | logged entry =>
    simp only [Event.beat?] at hb
    split at hb
    · next heq => exact heq ▸ he
    · cases hb
  | _ => cases hb

/-- A loop that has seen the end of its feed has found it. -/
theorem mem_deeds_of_sawEnd {r : Nat} {deeds : List (Actor × Event)} (named : WellNamed deeds)
    (h : .sawEnd ∈ beats (eventsBy (.receiver r) deeds)) :
    (Actor.receiver r, Event.feedEnded r) ∈ deeds := by
  obtain ⟨e, he, hb⟩ := mem_deeds_of_beat h
  cases e with
  | feedEnded r' =>
    have hname := named _ _ r' he rfl
    cases hname
    exact he
  | logged entry =>
    simp only [Event.beat?] at hb
    split at hb <;> cases hb
  | _ => cases hb

/-- A loop that has heard an answer was given it. -/
theorem mem_deeds_of_answered {r : Nat} {c : Call} {a : Answer} {deeds : List (Actor × Event)}
    (h : .answered c a ∈ beats (eventsBy (.receiver r) deeds)) :
    (Actor.receiver r, Event.answered c a) ∈ deeds := by
  obtain ⟨e, he, hb⟩ := mem_deeds_of_beat h
  cases e with
  | answered c' a' =>
    cases hb
    exact he
  | logged entry =>
    simp only [Event.beat?] at hb
    split at hb <;> cases hb
  | _ => cases hb

/-- A loop that waits for an item and may not go on has nothing to take, and nobody has told it
to stop. -/
theorem nothing_of_waiting {r : Nat} (loop : (s.world.receiver r).loop = .receiving)
    (idle : s.isRunnable (.receiver r) = false) :
    (s.world.receiver r).feed = [] ∧ (s.world.receiver r).feedClosed = false ∧
      (s.world.receiver r).cancelled = false := by
  have hready : s.world.ready (.items r) = false := by
    have hwait : s.waitOf (.receiver r) = some (.items r) := by
      simp [waitOf, Receiver.wait?, loop]
    simpa [isRunnable, hwait, ready] using idle
  simp only [World.ready, Bool.or_eq_false_iff, Bool.not_eq_false', List.isEmpty_iff] at hready
  exact ⟨hready.1.2, hready.2, hready.1.1⟩

/-- A loop that waits for an item, and has one, may go on. -/
theorem runnable_of_item {r : Nat} {item : Item} {rest : List Item}
    (loop : (s.world.receiver r).loop = .receiving)
    (feed : (s.world.receiver r).feed = item :: rest) : s.isRunnable (.receiver r) = true := by
  by_contra idle
  obtain ⟨empty, -, -⟩ := nothing_of_waiting loop (Bool.eq_false_iff.mpr idle)
  rw [feed] at empty
  cases empty

/-- What a receiver hands over in the course of a history, and after it. -/
structure HandsOver (s : System) (h : List Move) (r : Nat) : Prop where
  /-- The items that have been taken are the first that have arrived; the others wait. -/
  stream : pulls r (s.after h).world.trace ++ ((s.after h).world.receiver r).feed =
    s.arrivals r h
  /-- The handler has been called with the deliveries among them, in order, each once and as it
  is, and with nothing else. -/
  calls : invocations r (s.after h).world.trace =
    (pulls r (s.after h).world.trace).filterMap Item.delivery?
  /-- At every moment the handler is done with all deliveries it has been called with, or with
  all but the last. -/
  oneByOne : ∀ t, t <+: (s.after h).world.trace →
    ∃ inFlight : Option Delivery, invocations r t = returns r t ++ inFlight.toList
  /-- What has ended the loop is the stop, or the end of a feed with nothing left in it, or the
  breakdown of a settlement; no fault, no failure and no refusal has. -/
  ended : ((s.after h).world.receiver r).loop.isOver = true →
    (((s.after h).world.receiver r).cancelled = true ∧
      (.receiver r, .logged stoppedEntry) ∈ s.deeds h) ∨
    (((s.after h).world.receiver r).feedClosed = true ∧
      pulls r (s.after h).world.trace = s.arrivals r h ∧
      .feedEnded r ∈ (s.after h).world.trace) ∨
    ∃ c payload, (.receiver r, .answered c (.crashed payload)) ∈ s.deeds h
  /-- A loop that is not over waits for an item only when it has taken all that have arrived. -/
  waiting : ((s.after h).world.receiver r).loop = .receiving →
    (s.after h).isRunnable (.receiver r) = false →
    ((s.after h).world.receiver r).cancelled = false ∧
      pulls r (s.after h).world.trace = s.arrivals r h
  /-- A loop that may go on does so: there is a beat in its step. -/
  goesOn : (s.after h).isRunnable (.receiver r) = true →
    beats (eventsBy (.receiver r) ((s.after h).doing (.act (.receiver r)))) ≠ []
  /-- If it waits for an item, has one and has not been told to stop, it takes the first that it
  has, and hands it over if that is a delivery. -/
  takes : ∀ item rest, ((s.after h).world.receiver r).loop = .receiving →
    ((s.after h).world.receiver r).cancelled = false →
    ((s.after h).world.receiver r).feed = item :: rest →
    (s.after h).isRunnable (.receiver r) = true ∧
      beats (eventsBy (.receiver r) ((s.after h).doing (.act (.receiver r)))) =
        .took item :: item.delivery?.toList.map .began
  /-- From the move that calls for the stop no handler begins, whatever else happens. -/
  stop : ∀ m h', (s.after h).stopCall? m = some r →
    invocations r (s.after (h ++ m :: h')).world.trace = invocations r (s.after h).world.trace

/-- Every receiver of every reachable system hands over what arrives for it, and in order. -/
theorem invocations_in_order (setup : Setup) (h : List Move) (r : Nat)
    (hr : r < (setup.system.after h).world.receivers.length) : setup.system.HandsOver h r := by
  obtain ⟨laps, tail, hcourse⟩ := course_after (s := setup.system) rfl h hr
  have hfeed := feed_after (s := setup.system) rfl h hr
  have named := wellNamed_deeds setup.system h
  have htrace := trace_deeds (s := setup.system) rfl h
  have hpulls : pulls r (setup.system.after h).world.trace =
      takenIn (beats (eventsBy (.receiver r) (setup.system.deeds h))) := by
    rw [htrace, pulls_deeds named]
  constructor
  case stream => rw [hpulls, hfeed]
  case calls => rw [hpulls, htrace, invocations_deeds named, hcourse.begun_eq]
  case oneByOne =>
    intro t ht
    rw [htrace] at ht
    obtain ⟨deeds, hdeeds, rfl⟩ := List.prefix_map_iff.mp ht
    have hnamed : WellNamed deeds := fun a e r he => named a e r (hdeeds.subset he)
    rw [invocations_deeds hnamed, returns_deeds hnamed]
    have hpre : beats (eventsBy (.receiver r) deeds) <+:
        beats (eventsBy (.receiver r) (setup.system.deeds h)) :=
      (hdeeds.filterMap _).filterMap _
    simpa using hcourse.inTurn.of_prefix hpre
  case ended =>
    intro hover
    rcases hcourse.of_isOver hover with ⟨hc, hsaw⟩ | ⟨hempty, hclosed, hsaw⟩ | ⟨c, payload, hsaw⟩
    · exact .inl ⟨hc, mem_deeds_of_sawStop hsaw⟩
    · rw [hempty, List.append_nil] at hfeed
      refine .inr (.inl ⟨hclosed, hpulls.trans hfeed, ?_⟩)
      rw [htrace]
      exact List.mem_map_of_mem (mem_deeds_of_sawEnd named hsaw)
    · exact .inr (.inr ⟨c, payload, mem_deeds_of_answered hsaw⟩)
  case waiting =>
    intro hloop hidle
    obtain ⟨hempty, -, huntold⟩ := nothing_of_waiting hloop hidle
    rw [hempty, List.append_nil] at hfeed
    exact ⟨huntold, hpulls.trans hfeed⟩
  case goesOn =>
    intro ready
    obtain ⟨v, hsteps, -⟩ := steps_of_runnable ready
    exact hsteps.ne_nil
  case takes =>
    intro item rest hloop huntold hitem
    have ready := runnable_of_item hloop hitem
    obtain ⟨v, hsteps, -⟩ := steps_of_runnable ready
    exact ⟨ready, hsteps.of_item hloop huntold hitem⟩
  case stop =>
    intro m h' hcall
    have hnone := begun_of_stopCall hr hcourse.charge hcall h'
    rw [trace_deeds (s := setup.system) rfl, htrace,
      invocations_deeds (wellNamed_deeds setup.system _), invocations_deeds named, deeds_append,
      eventsBy_append, beats_append, begunIn_append, hnone, List.append_nil]

/-- A consumer is registered, a fault and two deliveries arrive, the first of them is handed over
and its handler panics, and the rest still waits. -/
def panicHistory : List Move :=
  [.begin (.start "users" (.manual true) none .cued), .act (.job 0),
    .deliver 0 (.fault .heartbeat),
    .deliver 0 (.delivery { tag := 1 } { result := .panicked none }),
    .deliver 0 (.delivery { tag := 2 } {}), .act (.receiver 0), .act (.receiver 0),
    .act (.receiver 0)]

theorem invocations_in_order_panicHistory :
    0 < (Setup.system { connected := true } |>.after panicHistory).world.receivers.length ∧
      (Setup.system { connected := true }).HandsOver panicHistory 0 :=
  ⟨by decide, invocations_in_order { connected := true } panicHistory 0 (by decide)⟩

end System

end TopicWorker
