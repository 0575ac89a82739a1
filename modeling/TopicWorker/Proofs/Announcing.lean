import TopicWorker.Proofs.Containment
import TopicWorker.Proofs.Fixtures
import TopicWorker.Proofs.Isolation
import TopicWorker.Proofs.Propagation

/-!
# Announced as read

A consumer that does nothing with its messages but write them down announces each one, with its key
and with its body as a text. The body may be anything. Whatever it is, the handler succeeds, and
what it writes down is the one entry for this message. What a reader of the journal finds there is
the body itself if that is a text, and can be told from it by U+FFFD otherwise; header values are
read more strictly, and only where both ways of reading agree is there a value.

## Main definitions

* `announced`: what is written down of messages.
* `Announces`: a stretch of a receive loop, by what it hands over and what it writes down.

## Main results

* `ends_logging`: the handler by itself.
* `System.announced_after`: the entries of a receive loop.
* `announced_as_read`: all this, and what stands in an entry.
-/

namespace TopicWorker

open Text.Utf8

/-- The handler succeeds, and writes one entry. -/
theorem ends_logging (receiver : Nat) (cue : Cue) (context : TraceContext) (d : Delivery)
    (w : World) (es : List Event) (e : Completion HandlerResult) :
    (∃ v, (HandlerKind.logging.handler receiver cue context d).Ends w es e v) ↔
      e = .ok .succeeded ∧ es = [.dispatched receiver .logging d context,
        .logged d.announcement, .handled receiver d .succeeded] :=
  Activity.exists_ends_iff_of_waits_once
    (c := HandlerKind.logging.handler receiver cue context d) (s := {}) (e := .ok .succeeded)
    (fun _ => ⟨rfl, List.append_assoc ..⟩) fun _ => ⟨rfl, rfl⟩

/-! ## The entries of a receive loop -/

/-- An entry on a message. -/
def Event.announced? : Event → Option LogEntry
  | .logged e => if e.component = .handling then some e else none
  | _ => none

/-- What is written down of messages. -/
def announced (es : List Event) : List LogEntry := es.filterMap Event.announced?

/-- What a handler writes down of the messages that it is given. -/
def HandlerKind.announcements : HandlerKind → List Delivery → List LogEntry
  | logging, ds => ds.map Delivery.announcement
  | cued, _ => []

@[simp] theorem announced_append (es es' : List Event) :
    announced (es ++ es') = announced es ++ announced es' :=
  List.filterMap_append

@[simp] theorem HandlerKind.announcements_nil (kind : HandlerKind) :
    kind.announcements [] = [] := by
  cases kind <;> rfl

@[simp] theorem HandlerKind.announcements_append (kind : HandlerKind) (ds ds' : List Delivery) :
    kind.announcements (ds ++ ds') = kind.announcements ds ++ kind.announcements ds' := by
  cases kind <;> simp [announcements]

/-- A stretch of a step of a receive loop, in which those messages are written down that are handed
over, if the handler does so. -/
def Announces (kind : HandlerKind) (w v : World) : Prop :=
  ∃ news, v.trace = w.trace ++ news ∧ announced news = kind.announcements (begunIn (beats news))

section Stretches

variable {kind : HandlerKind} {w v : World}

theorem announces_self (kind : HandlerKind) (w : World) : Announces kind w w :=
  ⟨[], by simp [announced, begunIn]⟩

theorem Announces.append (h : Announces kind w v) {v' : World} {news : List Event}
    (added : v'.trace = v.trace ++ news)
    (is : announced news = kind.announcements (begunIn (beats news))) : Announces kind w v' := by
  obtain ⟨before, trace, told⟩ := h
  refine ⟨before ++ news, by rw [added, trace, List.append_assoc], ?_⟩
  rw [announced_append, beats_append, begunIn_append, HandlerKind.announcements_append, told, is]

/-- Something else happens. -/
theorem Announces.emit (h : Announces kind w v) {e : Event} (untold : announced [e] = [])
    (unbegun : begunIn (beats [e]) = []) : Announces kind w (v.emit e) :=
  h.append (v.trace_emit e) (by rw [untold, unbegun, HandlerKind.announcements_nil])

/-- Another component tells something. -/
theorem Announces.log (h : Announces kind w v) {e : LogEntry} (other : e.component ≠ .handling) :
    Announces kind w (v.log e) := by
  refine h.emit (by simp [announced, Event.announced?, other]) ?_
  by_cases stop : e = stoppedEntry <;> simp [beats, Event.beat?, begunIn, stop]

theorem Announces.logs (h : Announces kind w v) {entries : List LogEntry}
    (others : ∀ e ∈ entries, e.component = .tracing) :
    Announces kind w (entries.foldl World.log v) := by
  induction entries generalizing v with
  | nil => exact h
  | cons e entries ih =>
    obtain ⟨other, others⟩ := List.forall_mem_cons.mp others
    exact ih (h.log (by simp [other])) others

theorem Announces.extract (h : Announces kind w v) (headers : Headers) :
    Announces kind w (v.extract headers).1 := by
  simp only [World.extract]
  split
  · exact h
  · refine Announces.logs (Announces.emit ?_ rfl rfl) (World.component_extractEntries _ _)
    exact h.logs (World.component_extractEntries _ _)

theorem Announces.openSpan (h : Announces kind w v) (d : Delivery) (context : TraceContext) :
    Announces kind w (v.openSpan d context).1 := by
  have counted : Announces kind w { v with spans := v.spans + 1 } := h
  exact ((counted.emit rfl rfl).emit rfl rfl).emit rfl rfl

/-- The handler is called. -/
theorem Announces.start (h : Announces kind w v) (r : Nat) (d : Delivery) (cue : Cue) :
    Announces kind w (Processing.start r kind d cue v).1 := by
  have opened : Announces kind w (Consumption.opening d v).1 :=
    ((h.extract d.headers).openSpan d _).log (by simp [processingEntry])
  cases kind with
  | logging =>
    have other : d.announcement ≠ stoppedEntry :=
      ne_stoppedEntry_of_component (show Component.handling ≠ .receiver by decide)
    have silent : Event.beat? (.logged d.announcement) = none := by simp [Event.beat?, other]
    have added : (Processing.start r .logging d cue v).1.trace =
        (Consumption.opening d v).1.trace ++
          [.dispatched r .logging d (Consumption.opening d v).2.1, .logged d.announcement] :=
      List.append_assoc ..
    refine opened.append added ?_
    rw [beats, List.filterMap_cons, List.filterMap_cons, silent]
    rfl
  | cued => exact opened.append rfl rfl

theorem component_failureEntry (mode : AckMode) (d : Delivery) (f : Failure) :
    (failureEntry mode d f).component ≠ .handling := by
  rcases mode with _ | _ | _ <;> simp [failureEntry, processingEntry]

/-- The processing of a delivery goes on. -/
theorem Announces.resume (h : Announces kind w v) (r : Nat) (mode : AckMode) (p : Processing) :
    Announces kind w (p.resume r mode v).1 := by
  cases p with
  | handling d n cue =>
    have ended : Announces kind w (v.emit (.handled r d cue.result)) := h.emit rfl rfl
    simp only [Processing.resume]
    cases cue.result.failure? with
    | none =>
      have told := ended.log (e := processingEntry .debug "message successfully processed")
        (by simp [processingEntry])
      cases mode with
      | auto => exact (told.emit rfl rfl).emit rfl rfl
      | manual requeue => exact told.emit (e := .called _) rfl rfl
    | some f =>
      have told := ((ended.emit (e := .span n (.failure f)) rfl rfl).emit
        (e := .span n (.status (.error f.message))) rfl rfl).log (e := failureEntry mode d f)
        (component_failureEntry mode d f)
      cases mode with
      | auto => exact told.emit rfl rfl
      | manual requeue => exact told.emit (e := .called _) rfl rfl
  | settling d n failed p =>
    have heard : ∀ a, Announces kind w (v.emit (.answered p.call a)) := fun a => h.emit rfl rfl
    cases failed with
    | none =>
      simp only [Processing.resume, Settlement.ackAnswered]
      cases ha : p.reply.answer with
      | done name =>
        rw [resolve_done ha]
        exact ((heard _).emit rfl rfl).emit rfl rfl
      | refused fault =>
        rw [resolve_refused ha]
        have told := (heard (.refused fault)).log (e := Settlement.ackFault d.tag fault)
          (by simp [Settlement.ackFault, faultEntry])
        exact ((told.emit rfl rfl).emit rfl rfl).emit rfl rfl
      | crashed payload =>
        rw [resolve_crashed ha]
        exact (heard _).emit rfl rfl
    | some f =>
      simp only [Processing.resume, Settlement.rejectAnswered]
      cases ha : p.reply.answer with
      | done name =>
        rw [resolve_done ha]
        exact (heard _).emit rfl rfl
      | refused fault =>
        rw [resolve_refused ha]
        have told := (heard (.refused fault)).log
          (e := Settlement.rejectFault d.tag (mode == .manual true) fault)
          (by simp [Settlement.rejectFault, faultEntry])
        exact (told.emit rfl rfl).emit rfl rfl
      | crashed payload =>
        rw [resolve_crashed ha]
        exact (heard _).emit rfl rfl

theorem Announces.processed (h : Announces kind w v) (r : Nat)
    (p : Progress Processing (Except Failure Unit)) : Announces kind w (v.processed r p) := by
  rcases p with p | ⟨f | ⟨⟩⟩ | payload <;> exact h

/-- The loop looks for something to take. -/
theorem announces_receive (w : World) (r : Nat) :
    Announces (w.receiver r).kind w (w.receive r) := by
  have same := announces_self (w.receiver r).kind w
  unfold World.receive
  dsimp only
  split
  · exact same.log (by simp [receiverEntry])
  · split
    · next d cue rest _ =>
      generalize hv : (w.emit (.pulled r (.delivery d cue))).modifyReceiver r _ = v
      have took : Announces (w.receiver r).kind w v := by
        rw [← hv]
        exact same.emit (e := .pulled r (.delivery d cue)) rfl rfl
      exact (took.start r d cue).processed r _
    · next fault rest _ =>
      have took : Announces (w.receiver r).kind w (w.emit (.pulled r (.fault fault))) :=
        same.emit rfl rfl
      exact took.log (by simp [faultEntry])
    · split
      · have ended : Announces (w.receiver r).kind w (w.emit (.feedEnded r)) := same.emit rfl rfl
        exact ended.log (by simp [receiverEntry])
      · exact same

/-- A step of a receive loop. -/
theorem announces_runReceiver (w : World) (r : Nat) :
    Announces (w.receiver r).kind w (w.runReceiver r) := by
  have same := announces_self (w.receiver r).kind w
  unfold World.runReceiver
  dsimp only
  split
  · exact announces_receive w r
  · exact Announces.processed (same.resume r _ _) r _
  · exact same
  · exact same

end Stretches

namespace System

variable {s : System} {r : Nat}

/-- In a move a loop writes down what it hands over. -/
theorem announced_doing (s : System) (r : Nat) (m : Move) :
    announced (eventsBy (.receiver r) (s.doing m)) = (s.world.receiver r).kind.announcements
      (begunIn (beats (eventsBy (.receiver r) (s.doing m)))) := by
  by_cases acts : s.actorOf m = some (.receiver r)
  · obtain rfl : m = .act (.receiver r) := by cases m <;> simp_all [actorOf]
    rw [eventsBy_doing_own acts]
    by_cases ready : s.isRunnable (.receiver r) = true
    · obtain ⟨news, trace, told⟩ := announces_runReceiver s.world r
      have moved : (s.move (.act (.receiver r))).world = s.world.runReceiver r := by
        simp [move, act, step, ready]
      rw [added_of_trace (moved ▸ trace), told]
    · have still : s.move (.act (.receiver r)) = s := by simp [move, act, ready]
      rw [added, still, List.drop_length]
      simp [announced, begunIn]
  · rw [eventsBy_doing_other acts]
    simp [announced, begunIn]

/-- In a history a loop has written down what it has handed over, if its handler does so. -/
theorem announced_after (empty : s.world.receivers = []) (h : List Move)
    (there : r < (s.after h).world.receivers.length) :
    announced (eventsBy (.receiver r) (s.deeds h)) =
      ((s.after h).world.receiver r).kind.announcements
        (begunIn (beats (eventsBy (.receiver r) (s.deeds h)))) := by
  induction h using List.reverseRecOn with
  | nil => simp [empty] at there
  | append_singleton h m ih =>
    rw [after_concat] at there ⊢
    rw [eventsBy_deeds_concat, announced_append, beats_append, begunIn_append,
      HandlerKind.announcements_append]
    by_cases before : r < (s.after h).world.receivers.length
    · obtain ⟨-, -, -, kind⟩ := ((s.after h).follows m before).2.frame
      rw [kind, ih before, announced_doing]
    · have absent := Nat.le_of_not_lt before
      obtain ⟨silent, -⟩ := (s.after h).appears m absent
      rw [(absent_after h absent).1, silent]
      simp [announced, begunIn]

end System

/-! ## The texts -/

section Reading

variable {d : Delivery}

theorem toList_bodyText (d : Delivery) : d.bodyText.toList = decodeLossy d.body :=
  String.toList_ofList

theorem bytes_bodyText (d : Delivery) :
    d.bodyText.toUTF8.data.toList = encode (decodeLossy d.body) := by
  rw [← bytes_eq_toUTF8, bytes, toList_bodyText]

/-- The value under a key is read where it is a text, as what it would be read as in a body. -/
theorem read_eq_some_iff {h : Headers} {key s : String}
    (there : h.get? key = some (.longString d.body)) : (h.read key).1 = some s ↔
      d.bodyText.toUTF8.data.toList = d.body ∧ s = d.bodyText := by
  have strict : (h.read key).1 = decode? d.body := by
    rw [Headers.read_longString there, decode?]
    cases decode d.body <;> rfl
  rw [strict, decode?_eq_some_iff, bytes_bodyText, encode_decodeLossy_eq_iff]
  constructor
  · intro written
    refine ⟨⟨s, written⟩, String.toList_inj.mp ?_⟩
    rw [toList_bodyText, written, ← bytes_eq_toUTF8, bytes, decodeLossy_encode]
  · rintro ⟨⟨t, written⟩, rfl⟩
    have same : d.bodyText = t := by
      rw [Delivery.bodyText, written, ← bytes_eq_toUTF8, bytes, decodeLossy_encode,
        String.ofList_toList]
    rw [same, written]

end Reading

/-- Whatever the body is, the handler succeeds and writes one entry, with the key and the body. In
the body every character is kept, and U+FFFD stands for each maximal subpart of what is none. So a
text in front is read by itself, a body is read as it is exactly when it is a text, and what is read
is read again as it is. A header value is read exactly when it would be read as it is in a body. -/
theorem announced_as_read (d : Delivery) :
    (∀ receiver cue context w es e,
      (∃ v, (HandlerKind.logging.handler receiver cue context d).Ends w es e v) ↔
        e = .ok .succeeded ∧ es = [.dispatched receiver .logging d context,
          .logged d.announcement, .handled receiver d .succeeded]) ∧
    (d.announcement.level = .info ∧
      d.announcement.message = "received '" ++ d.routingKey ++ "': '" ++ d.bodyText ++ "'") ∧
    (∀ (setup : Setup) (h : List Move), ∀ r < (setup.system.after h).world.receivers.length,
      ((setup.system.after h).world.receiver r).kind = .logging →
        announced (eventsBy (.receiver r) (setup.system.deeds h)) =
          (invocations r (setup.system.after h).world.trace).map Delivery.announcement) ∧
    (∀ cs, d.bodyText.toList = cs ↔ Repaired d.body cs) ∧
    (∀ s : String, Delivery.bodyText { d with body := s.toUTF8.data.toList ++ d.body } =
      s ++ d.bodyText) ∧
    (d.bodyText.toUTF8.data.toList = d.body ↔ WellFormed d.body) ∧
    Delivery.bodyText { d with body := d.bodyText.toUTF8.data.toList } = d.bodyText ∧
    ∀ (h : Headers) (key s : String), h.get? key = some (.longString d.body) →
      ((h.read key).1 = some s ↔ d.bodyText.toUTF8.data.toList = d.body ∧ s = d.bodyText) := by
  refine ⟨fun receiver cue context w es e => ends_logging receiver cue context d w es e,
    ⟨rfl, rfl⟩, fun setup h r there logs => ?_, fun cs => ?_, fun s => ?_, ?_, ?_,
    fun h key s there => read_eq_some_iff there⟩
  · rw [System.announced_after rfl h there, logs, System.trace_deeds rfl,
      invocations_deeds (System.wellNamed_deeds setup.system h)]
    rfl
  · rw [toList_bodyText, decodeLossy_eq_iff]
  · apply String.toList_inj.mp
    rw [toList_bodyText, ← bytes_eq_toUTF8, bytes, decodeLossy_encode_append, String.toList_append,
      toList_bodyText]
  · rw [bytes_bodyText, encode_decodeLossy_eq_iff]
  · apply String.toList_inj.mp
    rw [toList_bodyText, bytes_bodyText, decodeLossy_encode, toList_bodyText]

/-- A body that is cut off inside of characters, and holds octets that begin none. -/
def damaged : Delivery :=
  { body := [0x61, 0xF1, 0x80, 0x80, 0xE1, 0x80, 0xC2, 0x62, 0x80, 0x63, 0x80, 0xBF, 0x64] }

theorem announced_as_read_damaged :
    let headers := Headers.ofList [("traceparent", .longString damaged.body)]
    let system := Setup.system { connected := true }
    let history : List Move := [.begin (.start "users" .auto none .logging), .act (.job 0),
      .deliver 0 (.delivery damaged {}), .act (.receiver 0)]
    damaged.bodyText = "a\uFFFD\uFFFD\uFFFDb\uFFFDc\uFFFD\uFFFDd" ∧
      Repaired damaged.body damaged.bodyText.toList ∧
      headers.get? "traceparent" = some (.longString damaged.body) ∧
      (headers.read "traceparent").1 = none ∧
      (0 < (system.after history).world.receivers.length ∧
        ((system.after history).world.receiver 0).kind = .logging) ∧
      announced (eventsBy (.receiver 0) (system.deeds history)) = [damaged.announcement] := by
  obtain ⟨-, -, entries, repaired, -, -, -, strictly⟩ := announced_as_read damaged
  refine ⟨by decide, (repaired _).mp rfl, by decide, Option.eq_none_iff_forall_ne_some.mpr ?_,
    ⟨by decide, by decide⟩, ?_⟩
  · intro s read
    obtain ⟨same, -⟩ := (strictly _ "traceparent" s (by decide)).mp read
    exact absurd same (by decide)
  · exact (entries { connected := true } _ 0 (by decide) (by decide)).trans (by decide)

end TopicWorker
