import TopicWorker.Proofs.Activities
import TopicWorker.Proofs.Draining
import TopicWorker.Proofs.Isolation

/-!
# All or nothing

A registration bounds its unsettled deliveries first, if it is to do so, and then asks for its
consumer. Whatever the broker refuses is the end of it, and then nothing is left behind that could
take a delivery. When it succeeds there is one more receiver, which is what has been asked for. The
tag of the receiver is the one that has been asked for, too, and it is all that a stop ever cancels:
the first stop cancels it if there is still a channel to do it on, after the loop has been told to
take nothing more, and no other stop cancels anything.

## Main definitions

* `Registration.bound?`, `Starting.Course`: what a registration has done, by how far it has come.
* `registering`: a registration, turn by turn.
* `System.openings`: the receivers that a job has opened.
* `System.Registers`, `System.CancelsOnce`: what is said of a registration, and of its stops.

## Main results

* `course_of_runs`: every registration keeps to its course.
* `System.opener_after`: every receiver has been opened by one job.
* `System.registers_after`, `System.cancelsOnce_after`: one registration in a history, and the stops
  of one receiver.
* `all_or_nothing`: all this.
-/

namespace TopicWorker

open Turn

/-! ## The course of a registration -/

/-- The bound that a registration asks for: the one that is given, in manual mode. -/
def Registration.bound? (g : Registration) : Option UInt16 :=
  match g.mode with
  | .auto => none
  | .manual _ => g.prefetch

/-- What a registration asks for under a tag: an exclusive consumer of its queue, which in auto mode
acknowledges nothing. -/
def Registration.consumer (g : Registration) (tag : String) : String × String × ConsumeOptions :=
  ⟨g.queue, tag, { noAck := g.mode.isAuto, exclusive := true }⟩

/-- The request for a registration. -/
def Registration.request (g : Registration) : Request := .start g.queue g.mode g.prefetch g.kind

namespace Starting

/-- What has been done when the bound has been granted, if one is asked for. The answer may come
with a name. -/
def bounded (g : Registration) (name : Option String) : List Event :=
  match g.bound? with
  | none => []
  | some count => exchange (.basicQos count false) (some (.done name))

/-- What a registration has done, by how far it has come. -/
inductive Course (g : Registration) : Progress Starting (Except Failure Nat) → List Event → Prop
  | bounding (count : UInt16) (p : Pending) (bound : g.bound? = some count)
    (call : p.call = .basicQos count false) :
    Course g (.waiting (.bounding p)) [.called (.basicQos count false)]
  /-- The bound has been refused, and nothing else has been asked for. -/
  | unbounded (count : UInt16) (fault : Fault) (bound : g.bound? = some count) :
    Course g (.finished (.error (.prefetch fault.message)))
      (exchange (.basicQos count false) (some (.refused fault)))
  | diedBounding (count : UInt16) (payload : Option String) (bound : g.bound? = some count) :
    Course g (.crashed payload) (exchange (.basicQos count false) (some (.crashed payload)))
  | registering (tag : String) (name : Option String) (p : Pending)
    (call : p.call = .consume g.queue tag g.mode) :
    Course g (.waiting (.registering tag p))
      (bounded g name ++ [.called (.consume g.queue tag g.mode)])
  /-- The consumer has been refused. -/
  | unregistered (tag : String) (name : Option String) (fault : Fault) :
    Course g (.finished (.error (.registration g.queue)))
      (bounded g name ++ exchange (.consume g.queue tag g.mode) (some (.refused fault)))
  | diedRegistering (tag : String) (name : Option String) (payload : Option String) :
    Course g (.crashed payload)
      (bounded g name ++ exchange (.consume g.queue tag g.mode) (some (.crashed payload)))
  /-- The consumer has been granted, and a receiver has been opened. -/
  | registered (tag : String) (name name' : Option String) (r : Nat) :
    Course g (.finished (.ok r))
      (bounded g name ++ exchange (.consume g.queue tag g.mode) (some (.done name')))

end Starting

section Operations

variable (w : World) {g : Registration}

/-- A registration asks for its consumer when it is bounded. -/
theorem keepsTo_registerConsumer (name : Option String) :
    (Starting.register g w).KeepsTo (Starting.Course g) w (Starting.bounded g name) :=
  KeepsTo.of_acts_eq (v := { w with registrations := w.registrations + 1 })
    (keepsTo_call (.registering _ name _ rfl)) rfl

theorem keepsTo_startingStart (g : Registration) :
    (Starting.start g w).KeepsTo (Starting.Course g) w [] := by
  have unbounded : g.bound? = none →
      (Starting.register g w).KeepsTo (Starting.Course g) w [] := by
    intro none
    have kept := keepsTo_registerConsumer (g := g) w Option.none
    rwa [Starting.bounded, none] at kept
  simp only [Starting.start]
  split
  · next mode prefetch => exact keepsTo_call (.bounding _ _ (by simp [Registration.bound?, *]) rfl)
  · next other =>
    refine unbounded ?_
    cases hm : g.mode with
    | auto => simp [Registration.bound?, hm]
    | manual requeue =>
      cases hp : g.prefetch with
      | none => simp [Registration.bound?, hm, hp]
      | some count => exact absurd hp (other requeue count hm)

/-- A registration goes on on its course. -/
theorem keepsTo_startingResume {s : Starting} {done : List Event}
    (h : Starting.Course g (.waiting s) done) :
    (s.resume g w).KeepsTo (Starting.Course g) w done := by
  cases h with
  | bounding count p bound call =>
    have answered : ∀ a, [Event.called (.basicQos count false)] ++ [.answered p.call a] =
        exchange (.basicQos count false) (some a) := fun a => by rw [call]; rfl
    refine keepsTo_resolve p (fun name w' => ?_) (fun fault w' => ?_) fun payload => ?_
    · rw [answered]
      have kept := keepsTo_registerConsumer (g := g) w' name
      rwa [Starting.bounded, bound] at kept
    · rw [answered]
      exact KeepsTo.rests (.unbounded count fault bound) rfl
    · rw [answered]
      exact .diedBounding count payload bound
  | registering tag name p call =>
    have answered : ∀ a, Starting.bounded g name ++ [.called (.consume g.queue tag g.mode)] ++
        [.answered p.call a] =
          Starting.bounded g name ++ exchange (.consume g.queue tag g.mode) (some a) := fun a => by
      rw [call, List.append_assoc]
      rfl
    refine keepsTo_resolve p (fun name' w' => ?_) (fun fault w' => ?_) fun payload => ?_
    · rw [answered]
      exact KeepsTo.rests (.registered tag name name' _) (acts_log _ _)
    · rw [answered]
      exact KeepsTo.rests (.unregistered tag name fault) rfl
    · rw [answered]
      exact .diedRegistering tag name payload

end Operations

/-- A registration, turn by turn. -/
def registering (g : Registration) : Activity Starting (Except Failure Nat) where
  start := Starting.start g
  resume s w := s.resume g w
  start_grows w := by
    obtain ⟨told, -, trace⟩ := speaks_startingStart w g
    exact ⟨_, trace⟩
  resume_grows s w := by
    obtain ⟨told, -, trace⟩ := speaks_startingResume w g s
    exact ⟨_, trace⟩

/-- What a turn that keeps to a course adds to the trace is on the course. -/
theorem Turn.KeepsTo.of_adds {σ ρ : Type} {course : Progress σ ρ → List Event → Prop} {w : World}
    {done es : List Event} {t : Turn σ ρ} (h : t.KeepsTo course w done) (adds : t.Adds w es) :
    course t.2 (done ++ acts es) := by
  obtain ⟨more, done', kept⟩ := h
  rw [adds, acts_append] at done'
  rwa [List.append_cancel_left done']

/-- Whatever becomes of the world between its turns, a registration keeps to its course. -/
theorem course_of_runs {g : Registration} {w : World} {es : List Event}
    {t : Turn Starting (Except Failure Nat)} (run : (registering g).Runs w es t) :
    Starting.Course g t.2 (acts es) := by
  induction run with
  | start adds => exact (keepsTo_startingStart w g).of_adds adds
  | resume _ adds ih =>
    rw [acts_append]
    exact (keepsTo_startingResume _ ih).of_adds adds

/-! ## Who opens a receiver -/

namespace System

/-- The receivers that a job opens in a move. -/
def opens (n : Nat) (s : System) (m : Move) : List Nat :=
  if s.actorOf m = some (.job n) then
    List.range' s.world.receivers.length
      ((s.move m).world.receivers.length - s.world.receivers.length)
  else []

/-- The receivers that a job opens in the course of a history. -/
def openings (n : Nat) (s : System) : List Move → List Nat
  | [] => []
  | m :: h => s.opens n m ++ (s.move m).openings n h

/-- One more move. -/
theorem openings_concat (n : Nat) (s : System) (h : List Move) (m : Move) :
    s.openings n (h ++ [m]) = s.openings n h ++ (s.after h).opens n m := by
  induction h generalizing s with
  | nil => simp [openings]
  | cons m' h ih => simp [openings, ih]

/-- What is opened in a move comes behind what has been there. -/
theorem mem_opens {s : System} {m : Move} {n r : Nat} : r ∈ s.opens n m ↔
    s.actorOf m = some (.job n) ∧ s.world.receivers.length ≤ r ∧
      r < (s.move m).world.receivers.length := by
  have more := s.length_receivers_move m
  unfold opens
  split
  · next own =>
    rw [List.mem_range'_1, Nat.add_sub_cancel' more]
    exact (and_iff_right own).symm
  · next other => simp [other]

/-- A job that has no turn opens nothing. -/
theorem opens_of_no_turn {s : System} {m : Move} {n : Nat} (idle : ∀ t, ¬ s.Takes m n t) :
    s.opens n m = [] := by
  unfold opens
  split
  · next own => rw [move_of_no_turn own idle, Nat.sub_self, List.range'_zero]
  · rfl

/-- A job that is not there has opened nothing. -/
theorem openings_of_absent {s : System} (h : List Move) {n : Nat}
    (absent : (s.after h).jobs[n]? = none) : s.openings n h = [] := by
  induction h using List.reverseRecOn with
  | nil => rfl
  | append_singleton h m ih =>
    rw [after_concat] at absent
    obtain ⟨before, idle⟩ := absent_of_move absent
    rw [openings_concat, ih before, opens_of_no_turn idle, List.append_nil]

/-- What has been opened is there. -/
theorem lt_of_openings {s : System} (h : List Move) {n r : Nat} (opened : r ∈ s.openings n h) :
    r < (s.after h).world.receivers.length := by
  induction h using List.reverseRecOn with
  | nil => cases opened
  | append_singleton h m ih =>
    rw [openings_concat, List.mem_append] at opened
    rw [after_concat]
    rcases opened with before | now
    · exact Nat.lt_of_lt_of_le (ih before) ((s.after h).length_receivers_move m)
    · exact (mem_opens.mp now).2.2

/-- A receiver has been opened by one job at most. -/
theorem openings_unique {s : System} (h : List Move) {n n' r : Nat}
    (opened : r ∈ s.openings n h) (opened' : r ∈ s.openings n' h) : n = n' := by
  induction h using List.reverseRecOn with
  | nil => cases opened
  | append_singleton h m ih =>
    rw [openings_concat, List.mem_append] at opened opened'
    -- what is opened now has not been there before
    have apart : ∀ {k k'}, r ∈ s.openings k h → r ∉ (s.after h).opens k' m := fun before now =>
      Nat.not_le_of_lt (lt_of_openings h before) (mem_opens.mp now).2.1
    rcases opened with before | now <;> rcases opened' with before' | now'
    · exact ih before before'
    · exact absurd now' (apart before)
    · exact absurd now (apart before')
    · have same := (mem_opens.mp now).1.symm.trans (mem_opens.mp now').1
      simpa using same

/-- Every receiver has been opened by a job, which has asked for it in its mode and under its
tag. -/
theorem opener_after {s : System} (receivers : s.world.receivers = []) (jobs : s.jobs = [])
    (h : List Move) {r : Nat} (there : r < (s.after h).world.receivers.length) :
    ∃ n queue, r ∈ s.openings n h ∧ (.job n, .called (.consume queue
      ((s.after h).world.receiver r).tag ((s.after h).world.receiver r).mode)) ∈ s.deeds h := by
  induction h using List.reverseRecOn with
  | nil => simp [receivers] at there
  | append_singleton h m ih =>
    rw [after_concat] at there ⊢
    simp only [openings_concat, deeds_concat, List.mem_append]
    by_cases before : r < (s.after h).world.receivers.length
    · obtain ⟨n, queue, opened, asked⟩ := ih before
      obtain ⟨tag, -, mode, -⟩ := ((s.after h).follows m before).2.frame
      rw [tag, mode]
      exact ⟨n, queue, .inl opened, .inl asked⟩
    · have absent := Nat.le_of_not_lt before
      obtain ⟨-, -, new⟩ := (s.after h).appears m absent
      obtain ⟨n, t, g, tag, rfl, job, registering, -, is⟩ :=
        new _ (World.getElem?_receivers there)
      rw [is]
      exact ⟨n, g.queue, .inr (mem_opens.mpr ⟨rfl, absent, there⟩),
        .inl (asked_after jobs h job registering)⟩

/-- A handler that is called is that of a receiver that some job has opened. -/
theorem opener_of_dispatched {s : System} (receivers : s.world.receivers = []) (jobs : s.jobs = [])
    {h : List Move} {who : Actor} {r : Nat} {kind : HandlerKind} {d : Delivery} {c : TraceContext}
    (called : (who, .dispatched r kind d c) ∈ s.deeds h) : ∃ n, r ∈ s.openings n h := by
  obtain ⟨n, -, opened, -⟩ := opener_after receivers jobs h (there_of_dispatched called).2
  exact ⟨n, opened⟩

end System

/-! ## A registration in a history -/

/-- How far the job of a registration has come. -/
def Progress.asStart (g : Registration) :
    Progress Starting (Except Failure Nat) → Progress Task Outcome
  | .waiting s => .waiting (.starting g s)
  | .finished result => .finished (.ofResult .consumer result)
  | .crashed payload => .crashed payload

theorem asJob_starting (g : Registration) (t : Turn Starting (Except Failure Nat)) :
    t.asJob (.starting g) .consumer = (t.1, t.2.asStart g) := by
  obtain ⟨w, p⟩ := t
  cases p <;> rfl

/-- The receiver that a registration yields. -/
def Progress.opened : Progress Starting (Except Failure Nat) → List Nat
  | .finished (.ok r) => [r]
  | _ => []

theorem Progress.mem_opened {p : Progress Starting (Except Failure Nat)} {r : Nat} :
    r ∈ p.opened ↔ p = .finished (.ok r) := by
  rcases p with st | (f | r') | payload <;> simp [opened, eq_comm]

/-- A registration that has failed has opened nothing. -/
theorem Progress.opened_of_failed {s : System} {n : Nat} {g : Registration}
    {p : Progress Starting (Except Failure Nat)} {f : Failure}
    (job : s.jobs[n]? = some (p.asStart g)) (failed : s.outcome? n = some (.failed f)) :
    p.opened = [] := by
  rcases p with st | (f' | r) | payload
  case finished.ok => simp [System.outcome?, job, asStart, Outcome.ofResult] at failed
  all_goals rfl

/-- Only what is an act can ask for a consumer. -/
theorem consumes_acts (l : List Event) : consumes (acts l) = consumes l := by
  unfold consumes acts
  rw [List.filterMap_filter]
  refine List.filterMap_congr fun e _ => ?_
  cases e <;> rfl

/-- A registration that has succeeded has asked for one consumer. -/
theorem consumes_registered {g : Registration} {r : Nat} {es : List Event}
    (h : Starting.Course g (.finished (.ok r)) (acts es)) : ∃ tag,
      consumes es = [g.consumer tag] := by
  rw [← consumes_acts es]
  generalize acts es = done at h
  cases h with
  | registered tag name name' r =>
    refine ⟨tag, ?_⟩
    cases bound : g.bound? <;> simp [Starting.bounded, bound, exchange, consumes, Call.consume,
      Registration.consumer]

namespace System

/-- A registration in the course of a history, as a job of its own. -/
structure Registers (s : System) (h : List Move) (n : Nat) (g : Registration) : Prop where
  /-- It is on its course. If it has succeeded then it has opened the receiver that it yields, and
  in all other cases it has opened none. -/
  course : ∃ p, (s.after h).jobs[n]? = some (p.asStart g) ∧
    Starting.Course g p (acts (eventsBy (.job n) (s.deeds h))) ∧ s.openings n h = p.opened
  /-- The receiver is what has been asked for, and the one exclusive consumer that has been asked
  for carries its tag. -/
  receiver : ∀ r ∈ s.openings n h,
    ((s.after h).world.receiver r).link = g.link ∧
    ((s.after h).world.receiver r).mode = g.mode ∧
    ((s.after h).world.receiver r).kind = g.kind ∧
    consumes (eventsBy (.job n) (s.deeds h)) = [g.consumer ((s.after h).world.receiver r).tag]
  /-- If it has failed then, whatever else happens, it never opens one, and every handler that is
  called is that of a receiver that another job has opened. -/
  failed : ∀ f, (s.after h).outcome? n = some (.failed f) → ∀ h', s.openings n (h ++ h') = [] ∧
    ∀ who r kind d c, (who, .dispatched r kind d c) ∈ s.deeds (h ++ h') →
      ∃ n', n' ≠ n ∧ r ∈ s.openings n' (h ++ h')

section Registers

variable {s : System} {n : Nat} {g : Registration}

/-- A registration goes on by itself. -/
theorem takes_starting {st : Starting} (job : s.jobs[n]? = some (.waiting (.starting g st)))
    (ready : s.ready st.wait = true) :
    s.Takes (.act (.job n)) n ((st.resume g s.world).1, (st.resume g s.world).2.asStart g) := by
  have takes : s.Takes (.act (.job n)) n (s.turn (.starting g st)) := .goesOn job ready
  rwa [show s.turn (.starting g st) = _ from asJob_starting g _] at takes

/-- When it goes on it opens the receiver that it yields, and otherwise none. -/
theorem opens_starting {st : Starting} (job : s.jobs[n]? = some (.waiting (.starting g st)))
    (ready : s.ready st.wait = true) :
    s.opens n (.act (.job n)) = (st.resume g s.world).2.opened ∧
      ∀ r ∈ s.opens n (.act (.job n)), ∃ tag, st.registering? g = some (g, tag) ∧
        (s.move (.act (.job n))).world.receiver r = g.opened tag s.world.nextTask := by
  have moved := (takes_starting job ready).turned.world
  have own : s.actorOf (.act (.job n)) = some (.job n) := rfl
  rw [opens, if_pos own, moved]
  rcases receivers_startingResume s.world g st with ⟨same, unfinished⟩ | ⟨tag, asked, more, yields⟩
  · have nothing : (st.resume g s.world).2.opened = [] := by
      cases done : (st.resume g s.world).2 with
      | finished result =>
        cases result with
        | ok r => exact absurd done (unfinished r)
        | error f => rfl
      | _ => rfl
    rw [same, nothing, Nat.sub_self]
    exact ⟨rfl, fun r hr => by cases hr⟩
  · rw [more, yields, List.length_append, Nat.add_sub_cancel_left]
    refine ⟨rfl, fun r hr => ⟨tag, asked, ?_⟩⟩
    obtain rfl := List.mem_singleton.mp hr
    simp [World.receiver, more]

/-- Where a registration is asked for, it is begun. -/
theorem takes_request (link : s.handles.link = some g.link) : s.Takes (.begin g.request)
    s.jobs.length ((Starting.start g s.world).1, (Starting.start g s.world).2.asStart g) := by
  have begins : g.request.begin s.handles s.world =
      ((Starting.start g s.world).1, (Starting.start g s.world).2.asStart g) := by
    rw [← asJob_starting]
    simp only [Registration.request, Request.begin, Request.onLink, link]
  rw [← begins]
  exact .begins _

/-- In the move in which it is asked for it opens nothing. -/
theorem openings_request (h₁ : List Move) (link : (s.after h₁).handles.link = some g.link) :
    s.openings (s.after h₁).jobs.length (h₁ ++ [.begin g.request]) = [] := by
  have absent : (s.after h₁).jobs[(s.after h₁).jobs.length]? = none := by simp
  have moved := (takes_request link).turned.world
  have same := keeps_startingStart keptByCalls_receivers (fun _ _ => rfl) (s.after h₁).world g
  rw [openings_concat, openings_of_absent h₁ absent, opens, moved, same, Nat.sub_self,
    List.range'_zero, ite_self]
  rfl

/-- A registration that has been asked for is on its course, and has opened the receiver that it
yields. -/
theorem course_of_request (h₁ : List Move) (link : (s.after h₁).handles.link = some g.link)
    (h₂ : List Move) {h : List Move} (split : h = h₁ ++ .begin g.request :: h₂) :
    ∃ p, (s.after h).jobs[(s.after h₁).jobs.length]? = some (p.asStart g) ∧
      Starting.Course g p (acts (eventsBy (.job (s.after h₁).jobs.length) (s.deeds h))) ∧
      s.openings (s.after h₁).jobs.length h = p.opened := by
  subst split
  induction h₂ using List.reverseRecOn with
  | nil =>
    have absent : (s.after h₁).jobs[(s.after h₁).jobs.length]? = none := by simp
    have takes := takes_request link
    obtain ⟨more, added, kept⟩ := keepsTo_startingStart (s.after h₁).world g
    refine ⟨(Starting.start g (s.after h₁).world).2, ?_, ?_, ?_⟩
    · rw [after_concat]
      exact takes.turned.job
    · rw [eventsBy_deeds_concat, absent_job_after h₁ absent, List.nil_append,
        acts_of_takes takes added]
      exact kept
    · obtain ⟨st, waits⟩ := startingStart_waits (s.after h₁).world g
      rw [openings_request h₁ link, waits]
      rfl
  | append_singleton h₂ m ih =>
    obtain ⟨p, job, course, opened⟩ := ih
    rw [← List.cons_append, ← List.append_assoc, after_concat, eventsBy_deeds_concat, acts_append,
      openings_concat, opened]
    rcases move_of_job job m with ⟨idle, same⟩ | ⟨t, waits, ready, rfl⟩
    · refine ⟨p, same, ?_, ?_⟩
      · rw [doing_of_no_turn idle]
        simpa [acts] using course
      · rw [opens_of_no_turn idle, List.append_nil]
    · cases p with
      | waiting st =>
        cases waits
        have takes := takes_starting job ready
        obtain ⟨more, added, kept⟩ := keepsTo_startingResume _ course
        refine ⟨_, takes.turned.job, ?_, ?_⟩
        · rw [acts_of_takes takes added]
          exact kept
        · rw [(opens_starting job ready).1]
          rfl
      | finished result => cases waits
      | crashed payload => cases waits

/-- The receiver that a registration has opened is what has been asked for, and its tag is one under
which a consumer has been asked for. -/
theorem receiver_of_request (jobs : s.jobs = []) (h₁ : List Move)
    (link : (s.after h₁).handles.link = some g.link) (h₂ : List Move) {h : List Move}
    (split : h = h₁ ++ .begin g.request :: h₂) {r : Nat}
    (opened : r ∈ s.openings (s.after h₁).jobs.length h) :
    ((s.after h).world.receiver r).link = g.link ∧
      ((s.after h).world.receiver r).mode = g.mode ∧
      ((s.after h).world.receiver r).kind = g.kind ∧
      .called (.consume g.queue ((s.after h).world.receiver r).tag g.mode) ∈
        eventsBy (.job (s.after h₁).jobs.length) (s.deeds h) := by
  subst split
  induction h₂ using List.reverseRecOn with
  | nil =>
    rw [openings_request h₁ link] at opened
    cases opened
  | append_singleton h₂ m ih =>
    obtain ⟨p, job, -, -⟩ := course_of_request h₁ link h₂ rfl
    rw [← List.cons_append, ← List.append_assoc] at opened ⊢
    rw [openings_concat, List.mem_append] at opened
    rw [after_concat]
    rcases opened with before | now
    · obtain ⟨tag, link', mode, kind⟩ :=
        ((s.after _).follows m (lt_of_openings _ before)).2.frame
      rw [tag, link', mode, kind, eventsBy_deeds_concat]
      obtain ⟨sameLink, sameMode, sameKind, asked⟩ := ih before
      exact ⟨sameLink, sameMode, sameKind, List.mem_append_left _ asked⟩
    · rcases move_of_job job m with ⟨idle, -⟩ | ⟨t, waits, ready, rfl⟩
      · rw [opens_of_no_turn idle] at now
        cases now
      · cases p with
        | waiting st =>
          cases waits
          obtain ⟨tag, asked, is⟩ := (opens_starting job ready).2 r now
          rw [is, eventsBy_deeds_concat]
          exact ⟨rfl, rfl, rfl,
            List.mem_append_left _ (mem_eventsBy.mpr (asked_after jobs _ job asked))⟩
        | finished result => cases waits
        | crashed payload => cases waits

/-- A registration opens a receiver if it succeeds, and otherwise it leaves nothing behind. -/
theorem registers_after (receivers : s.world.receivers = []) (jobs : s.jobs = []) (h₁ : List Move)
    (link : (s.after h₁).handles.link = some g.link) (h₂ : List Move) {h : List Move}
    (split : h = h₁ ++ .begin g.request :: h₂) : s.Registers h (s.after h₁).jobs.length g := by
  constructor
  case course => exact course_of_request h₁ link h₂ split
  case receiver =>
    intro r opened
    obtain ⟨link', mode, kind, asked⟩ := receiver_of_request jobs h₁ link h₂ split opened
    refine ⟨link', mode, kind, ?_⟩
    obtain ⟨p, -, course, whole⟩ := course_of_request h₁ link h₂ split
    obtain rfl := Progress.mem_opened.mp (whole ▸ opened)
    obtain ⟨tag, one⟩ := consumes_registered course
    have among : g.consumer ((s.after h).world.receiver r).tag ∈
        consumes (eventsBy (.job (s.after h₁).jobs.length) (s.deeds h)) :=
      List.mem_filterMap.mpr ⟨_, asked, rfl⟩
    rw [one, List.mem_singleton] at among
    rw [one, among]
  case failed =>
    intro f failed h'
    have later := outcome?_after h' failed
    rw [← after_append] at later
    have nothing : s.openings (s.after h₁).jobs.length (h ++ h') = [] := by
      obtain ⟨p, job, -, whole⟩ := course_of_request (h := h ++ h') h₁ link (h₂ ++ h')
        (by rw [split, List.append_assoc]; rfl)
      rw [whole]
      exact Progress.opened_of_failed job later
    refine ⟨nothing, fun who r kind d c called => ?_⟩
    obtain ⟨n', opened⟩ := opener_of_dispatched receivers jobs called
    refine ⟨n', ?_, opened⟩
    rintro rfl
    rw [nothing] at opened
    cases opened

end Registers

end System

/-! ## The stops of a receiver -/

/-- The cancellations among some events. -/
def cancellations (l : List Event) : List (String × Bool) :=
  l.filterMap fun
    | .called (.basicCancel tag nowait) => some (tag, nowait)
    | _ => none

@[simp] theorem cancellations_append (l l' : List Event) :
    cancellations (l ++ l') = cancellations l ++ cancellations l' := by
  simp [cancellations]

theorem mem_cancellations {l : List Event} {tag : String} {nowait : Bool} :
    (tag, nowait) ∈ cancellations l ↔ .called (.basicCancel tag nowait) ∈ l := by
  constructor
  · intro among
    obtain ⟨e, he, is⟩ := List.mem_filterMap.mp among
    split at is
    · cases is
      exact he
    · cases is
  · exact fun called => List.mem_filterMap.mpr ⟨_, called, rfl⟩

/-- The first stop of a receiver tells the loop to take nothing more, and then cancels the
registration, if the channel is up. -/
theorem stoppingStart_first {w : World} {r : Nat} (joinable : (w.receiver r).joinable = true) :
    Stopping.start r w =
      if (w.link (w.receiver r).link).channelUp then
        (((w.modifyReceiver r Receiver.claimed).call (.basicCancel (w.receiver r).tag false)).1,
          .waiting (.cancelling ((w.modifyReceiver r Receiver.claimed).call
            (.basicCancel (w.receiver r).tag false)).2))
      else (w.modifyReceiver r Receiver.claimed, .waiting .joining) := by
  have same : ∀ f l, (w.modifyReceiver r f).link l = w.link l := fun _ _ => rfl
  unfold Receiver.claimed
  cases up : (w.link (w.receiver r).link).channelUp <;>
    simp [Stopping.start, joinable, Cancelling.start, same, up]

namespace System

/-- The receiver whose stop goes on in a move, if its job goes on. -/
def stopUnder? (s : System) : Move → Option Nat
  | .act (.job n) =>
    match s.jobs[n]? with
    | some (.waiting t) => t.stopping?.map (·.1)
    | _ => none
  | _ => none

/-- Whether a move is a turn of a stop of a receiver: the stop is called in it, or goes on. -/
def stops (r : Nat) (s : System) (m : Move) : Bool :=
  s.stopCall? m == some r || s.stopUnder? m == some r

/-- What a stop of a receiver cancels in a move. -/
def stopCancel (r : Nat) (s : System) (m : Move) : List (String × Bool) :=
  if s.stops r m then cancellations ((s.doing m).map (·.2)) else []

/-- What the stops of a receiver cancel in the course of a history. -/
def stopCancels (r : Nat) (s : System) : List Move → List (String × Bool)
  | [] => []
  | m :: h => s.stopCancel r m ++ (s.move m).stopCancels r h

/-- One more move. -/
theorem stopCancels_concat (r : Nat) (s : System) (h : List Move) (m : Move) :
    s.stopCancels r (h ++ [m]) = s.stopCancels r h ++ (s.after h).stopCancel r m := by
  induction h generalizing s with
  | nil => simp [stopCancels]
  | cons m' h ih => simp [stopCancels, ih]

section Moves

variable {s : System} {m : Move} {n r : Nat}

/-- What a job cancels in its turn is what it waits for afterwards. -/
theorem cancellations_of_takes {u : Turn Task Outcome} (takes : s.Takes m n u) :
    cancellations ((s.doing m).map (·.2)) = cancellations (u.2.calls Task.pending?) := by
  obtain ⟨stages, heard, speaks⟩ := takes.speaks
  obtain ⟨told, quiet, doing⟩ := doing_of_takes takes takes.turned.world speaks
  have untold : cancellations told = [] := by
    refine List.filterMap_eq_nil_iff.mpr fun e he => ?_
    have := quiet e he
    cases e <;> first | rfl | exact this.elim
  have unheard : cancellations (heard.map Pending.heard).toList = [] := by
    cases heard <;> rfl
  rw [doing, List.map_map, show (Prod.snd ∘ fun e => (Actor.job n, e)) = id from rfl, List.map_id,
    cancellations_append, cancellations_append, untold, unheard]
  rfl

/-- In the turn in which the stop of a receiver is called its tag is cancelled, if the stop is the
first and the channel is up. -/
theorem cancellations_of_stopCall (call : s.stopCall? m = some r) :
    cancellations ((s.doing m).map (·.2)) =
      if (s.world.receiver r).joinable && (s.world.link (s.world.receiver r).link).channelUp then
        [((s.world.receiver r).tag, false)] else [] := by
  obtain ⟨n, site, w, takes, same⟩ := takes_of_stopCall call
  have receiver : w.receiver r = s.world.receiver r := by rcases same with rfl | rfl <;> rfl
  have link : ∀ l, w.link l = s.world.link l := by rcases same with rfl | rfl <;> exact fun _ => rfl
  -- the job calls the broker only where the stop waits for the answer
  have uncalled : (∀ p, (Stopping.start r w).2 ≠ .waiting (.cancelling p)) →
      cancellations ((s.doing m).map (·.2)) = [] := by
    intro never
    refine List.eq_nil_iff_forall_not_mem.mpr fun ⟨tag, nowait⟩ among => ?_
    obtain ⟨⟨a, e⟩, done, is⟩ := List.mem_map.mp (mem_cancellations.mp among)
    cases is
    obtain rfl := Option.some.inj ((actor_of_doing done).symm.trans takes.actor)
    obtain ⟨t, p, job, pending, -, method⟩ := waits_of_called done
    have waits := Option.some.inj (takes.turned.job.symm.trans job)
    rcases Task.of_cancels method with ⟨r', p', under⟩ | ⟨tag', p', rfl⟩
    · exact never p' ((site.stopping_turn r _).of_waiting waits r' _ under).2
    · obtain ⟨asked, rfl, -⟩ := takes.cancels waits trivial pending
      cases call
  cases joinable : (w.receiver r).joinable with
  | false =>
    rw [← receiver, joinable]
    exact uncalled fun p => by simp [stoppingStart_of_not_joinable joinable]
  | true =>
    have begins := stoppingStart_first joinable
    rw [← receiver, ← link, joinable]
    cases up : (w.link (w.receiver r).link).channelUp with
    | false => exact uncalled fun p => by simp [begins, up]
    | true =>
      rw [up, if_pos rfl] at begins
      have waits := site.turn_waiting (r := r) (congrArg Prod.snd begins)
      rw [cancellations_of_takes takes, waits]
      cases site <;> rfl

/-- A stop cancels something in the turn in which it is called, or not at all. -/
theorem stopCancel_of_uncalled (charged : s.Charged) (uncalled : s.stopCall? m ≠ some r) :
    s.stopCancel r m = [] := by
  unfold stopCancel
  split
  · next stops =>
    refine List.eq_nil_iff_forall_not_mem.mpr fun ⟨tag, nowait⟩ among => ?_
    obtain ⟨⟨a, e⟩, done, is⟩ := List.mem_map.mp (mem_cancellations.mp among)
    cases is
    have under : s.stopUnder? m = some r := by simpa [System.stops, uncalled] using stops
    rcases (cancelled_by charged done).2 with rfl | ⟨r', -, call, -⟩
    · cases under
    · -- a job that is carrying out a stop calls for none
      cases m with
      | act a =>
        cases a with
        | job n =>
          simp only [stopUnder?] at under
          split at under
          · next t job =>
            obtain ⟨⟨r', st⟩, carried, rfl⟩ := Option.map_eq_some_iff.mp under
            simp only [stopCall?, job] at call
            split at call
            · rw [Task.stopping?_of_stopCall? call] at carried
              cases carried
            · cases call
          · cases under
        | _ => cases under
      | _ => cases under
  · rfl

end Moves

/-- The stops of a receiver in the course of a history. -/
structure CancelsOnce (s : System) (h : List Move) (r : Nat) : Prop where
  /-- Where no stop has been called nothing has been cancelled. -/
  before : s.stopCalls r h = 0 → s.stopCancels r h = []
  /-- What all stops cancel is the tag of the receiver, once, if the channel is up when the first of
  them is called. -/
  once : ∀ h₁ m h₂, h = h₁ ++ m :: h₂ → s.stopCalls r h₁ = 0 →
    (s.after h₁).stopCall? m = some r → s.stopCancels r h =
      if ((s.after h₁).world.link ((s.after h₁).world.receiver r).link).channelUp then
        [(((s.after h).world.receiver r).tag, false)]
      else []
  /-- The first stop is part of the turn of some job. It tells the loop to take nothing more, and
  nothing else, before it asks for the cancellation. -/
  told : ∀ h₁ m h₂, h = h₁ ++ m :: h₂ → s.stopCalls r h₁ = 0 →
    (s.after h₁).stopCall? m = some r → ∃ (n : Nat) (site : Site) (w v : World),
      (s.after h₁).Takes m n (site.turn r (Stopping.start r w)) ∧
      (w = (s.after h₁).world ∨ w = (s.after h₁).world.transition .draining) ∧
      v = w.modifyReceiver r Receiver.claimed ∧ (v.receiver r).cancelled = true ∧
      Stopping.start r w =
        if (v.link (v.receiver r).link).channelUp then
          ((v.call (.basicCancel (v.receiver r).tag false)).1,
            .waiting (.cancelling (v.call (.basicCancel (v.receiver r).tag false)).2))
        else (v, .waiting .joining)

section Stops

variable {s : System} {r : Nat}

/-- Where no stop has been called nothing has been cancelled. -/
theorem stopCancels_of_uncalled (jobs : s.jobs = []) (consumers : s.handles.consumers = [])
    (h : List Move) (uncalled : s.stopCalls r h = 0) : s.stopCancels r h = [] := by
  induction h using List.reverseRecOn with
  | nil => rfl
  | append_singleton h m ih =>
    rw [stopCalls_concat, Nat.add_eq_zero_iff, List.count_eq_zero, Option.mem_toList] at uncalled
    rw [stopCancels_concat, ih uncalled.1,
      stopCancel_of_uncalled (charged_after jobs consumers h) uncalled.2]
    rfl

/-- After the first call nothing is cancelled any more. -/
theorem stopCancels_of_called (jobs : s.jobs = []) (consumers : s.handles.consumers = [])
    (empty : s.world.receivers = []) (h₁ h₂ : List Move) (called : s.stopCalls r h₁ ≠ 0) :
    s.stopCancels r (h₁ ++ h₂) = s.stopCancels r h₁ := by
  induction h₂ using List.reverseRecOn with
  | nil => rw [List.append_nil]
  | append_singleton h₂ m ih =>
    rw [← List.append_assoc, stopCancels_concat, ih]
    have nothing : (s.after (h₁ ++ h₂)).stopCancel r m = [] := by
      by_cases call : (s.after (h₁ ++ h₂)).stopCall? m = some r
      · have there := (charged_after jobs consumers (h₁ ++ h₂)).stopCall_lt call
        have claimed : ((s.after (h₁ ++ h₂)).world.receiver r).joinable = false := by
          rw [Bool.eq_false_iff, ne_eq,
            (joinable_iff_uncalled jobs consumers empty (h₁ ++ h₂) r).1 there, stopCalls_append]
          omega
        unfold stopCancel
        rw [cancellations_of_stopCall call, claimed]
        simp
      · exact stopCancel_of_uncalled (charged_after jobs consumers _) call
    rw [nothing, List.append_nil]

/-- A stop cancels the tag of its receiver once, if at all. -/
theorem cancelsOnce_after (jobs : s.jobs = []) (consumers : s.handles.consumers = [])
    (empty : s.world.receivers = []) (h : List Move) (r : Nat) : s.CancelsOnce h r := by
  have first : ∀ {h₁ m}, s.stopCalls r h₁ = 0 → (s.after h₁).stopCall? m = some r →
      r < (s.after h₁).world.receivers.length ∧
        ((s.after h₁).world.receiver r).joinable = true := by
    intro h₁ m uncalled call
    have there := (charged_after jobs consumers h₁).stopCall_lt call
    exact ⟨there, ((joinable_iff_uncalled jobs consumers empty h₁ r).1 there).mpr uncalled⟩
  constructor
  case before => exact stopCancels_of_uncalled jobs consumers h
  case once =>
    rintro h₁ m h₂ rfl uncalled call
    obtain ⟨there, joinable⟩ := first uncalled call
    have called : s.stopCalls r (h₁ ++ [m]) ≠ 0 := by simp [stopCalls_concat, call]
    have stops : (s.after h₁).stops r m = true := by simp [System.stops, call]
    obtain ⟨-, tag, -⟩ := frame_after (m :: h₂) there
    rw [after_append, tag, ← List.singleton_append, ← List.append_assoc,
      stopCancels_of_called jobs consumers empty _ h₂ called, stopCancels_concat,
      stopCancels_of_uncalled jobs consumers h₁ uncalled, stopCancel, if_pos stops,
      cancellations_of_stopCall call, joinable]
    simp
  case told =>
    rintro h₁ m h₂ rfl uncalled call
    obtain ⟨there, joinable⟩ := first uncalled call
    obtain ⟨n, site, w, takes, same⟩ := takes_of_stopCall call
    have receiver : w.receiver r = (s.after h₁).world.receiver r := by
      rcases same with rfl | rfl <;> rfl
    have lt : r < w.receivers.length := by rcases same with rfl | rfl <;> exact there
    have claimed := World.receiver_modifyReceiver lt Receiver.claimed
    refine ⟨n, site, w, _, takes, same, rfl, by rw [claimed]; rfl, ?_⟩
    rw [claimed]
    exact stoppingStart_first (receiver ▸ joinable)

end Stops

/-! ## All or nothing -/

/-- What is said of the registrations in the course of a history, and of the stops of what they
open. -/
structure AllOrNothing (s : System) (h : List Move) : Prop where
  /-- A registration that is asked for over a link opens one receiver if it succeeds, and otherwise
  it leaves nothing behind. -/
  registers : ∀ h₁ (g : Registration) h₂, h = h₁ ++ .begin g.request :: h₂ →
    (s.after h₁).handles.link = some g.link → s.Registers h (s.after h₁).jobs.length g
  /-- Every receiver has been opened by one job, which has asked for it in its mode and under its
  tag. -/
  opener : ∀ r < (s.after h).world.receivers.length, ∃ n queue, r ∈ s.openings n h ∧
    (∀ n', r ∈ s.openings n' h → n' = n) ∧
    (.job n, .called (.consume queue ((s.after h).world.receiver r).tag
      ((s.after h).world.receiver r).mode)) ∈ s.deeds h
  /-- Nobody asks for a consumer twice under one tag, and no two receivers share theirs. -/
  tags : ((consumes (s.after h).world.trace).map (·.2.1)).Nodup ∧
    ∀ r < (s.after h).world.receivers.length, ∀ r' < (s.after h).world.receivers.length,
      ((s.after h).world.receiver r).tag = ((s.after h).world.receiver r').tag → r = r'
  /-- Every handler that is called is that of a receiver that some job has opened. -/
  handlers : ∀ who r kind d c, (who, .dispatched r kind d c) ∈ s.deeds h →
    ∃ n, r ∈ s.openings n h
  /-- The stops of a receiver cancel its tag once, if at all. -/
  stops : ∀ r, s.CancelsOnce h r

end System

/-- A turn of a registration opens the receiver that it yields, behind all others, and otherwise
none. -/
def Starting.Opens (g : Registration) (w : World) (t : Turn Starting (Except Failure Nat)) : Prop :=
  (t.1.receivers = w.receivers ∧ ∀ r, t.2 ≠ .finished (.ok r)) ∨
    ∃ tag, t.1.receivers = w.receivers ++ [g.opened tag w.nextTask] ∧
      t.2 = .finished (.ok w.receivers.length)

/-- Whatever the broker answers, and whatever happens between its turns, a registration keeps to its
course, and only its success opens a receiver. So it is in every system, where what has been opened
is stopped once, under the tag that has been asked for. -/
theorem all_or_nothing (setup : Setup) (h : List Move) :
    (∀ (g : Registration) (w : World) (es : List Event) (t : Turn Starting (Except Failure Nat)),
      (registering g).Runs w es t → Starting.Course g t.2 (acts es)) ∧
    (∀ (g : Registration) (w : World), Starting.Opens g w (Starting.start g w) ∧
      ∀ st : Starting, Starting.Opens g w (st.resume g w)) ∧
    setup.system.AllOrNothing h := by
  refine ⟨fun g w es t run => course_of_runs run, fun g w => ⟨.inl ⟨?_, ?_⟩, fun st => ?_⟩, ?_⟩
  · exact keeps_startingStart keptByCalls_receivers (fun _ _ => rfl) w g
  · obtain ⟨st, waits⟩ := startingStart_waits w g
    simp [waits]
  · exact (receivers_startingResume w g st).imp_right fun ⟨tag, _, more, yields⟩ =>
      ⟨tag, more, yields⟩
  constructor
  case registers => exact fun h₁ g h₂ split link => System.registers_after rfl rfl h₁ link h₂ split
  case opener =>
    intro r there
    obtain ⟨n, queue, opened, asked⟩ := System.opener_after (s := setup.system) rfl rfl h there
    exact ⟨n, queue, opened, fun n' opened' => System.openings_unique h opened' opened, asked⟩
  case tags => exact ⟨System.nodup_tags rfl rfl h, (System.tagged_after setup h).apart⟩
  case handlers =>
    exact fun who r kind d c called => System.opener_of_dispatched rfl rfl called
  case stops => exact fun r => System.cancelsOnce_after rfl rfl rfl h r

/-- A broker that grants no bound at first. -/
def grudging : Setup :=
  { connected := true, script := [(.basicQos, { answer := .refused .heartbeat })] }

/-- A consumer is registered in vain, and then another one, which is stopped twice. -/
def secondTry : List Move :=
  [.begin (.start "users" (.manual true) (some 5) .cued), .act (.job 0),
    .begin (.start "users" (.manual true) (some 5) .cued), .act (.job 1), .act (.job 1),
    .begin (.stop 0), .begin (.stop 0)]

theorem all_or_nothing_secondTry :
    grudging.system.openings 0 secondTry = [] ∧ grudging.system.openings 1 secondTry = [0] ∧
      grudging.system.stopCancels 0 secondTry =
        [(((grudging.system.after secondTry).world.receiver 0).tag, false)] := by
  obtain ⟨-, -, general⟩ := all_or_nothing grudging secondTry
  let g : Registration :=
    { link := 0, queue := "users", mode := .manual true, prefetch := some 5, kind := .cued }
  refine ⟨?_, ?_, ?_⟩
  · have first := general.registers [] g (secondTry.drop 1) rfl rfl
    have failed : (grudging.system.after secondTry).outcome? 0 =
        some (.failed (.prefetch Fault.heartbeat.message)) := by decide
    have never := (first.failed _ failed []).1
    rwa [List.append_nil] at never
  · obtain ⟨p, job, -, opened⟩ := (general.registers (secondTry.take 2) g (secondTry.drop 3)
      rfl rfl).course
    have succeeded : (grudging.system.after secondTry).jobs[1]? =
        some (.finished (.ok (.consumer 0))) := rfl
    have is : p.asStart g = .finished (.ok (.consumer 0)) :=
      Option.some.inj (job.symm.trans succeeded)
    rcases p with st | (f | r) | payload <;> cases is
    exact opened
  · have once := (general.stops 0).once (secondTry.take 5) (.begin (.stop 0)) (secondTry.drop 6)
      rfl (by decide) (by decide)
    rwa [if_pos (by decide)] at once

end TopicWorker
