import TopicWorker.Proofs.Charges
import TopicWorker.Proofs.Dispatch

/-!
# Stopping a receiver

Of all the calls for the stop of a receiver the first one takes charge of it. It cancels the
registration, waits for the loop's end however the cancellation has been answered, and yields
the counters. Every other call ends at once, with nothing counted and nothing asked of the
broker. When the loop is over its counters are final, and they count its laps.

## Main definitions

* `Site`: where in a job a stop is carried out.
* `System.Accounts`: counters that account for everything a loop has done.

## Main results

* `stopped_once`: all this, for every receiver of every reachable system.
-/

namespace TopicWorker

/-- Where in a job the stop of a receiver is carried out: it is what has been asked for, or part
of a teardown, which goes on from its end. -/
inductive Site where
  | asked
  | teardown (closer : Closer)
  | app (a : AppSetup) (closer : Closer)
  | program (a : AppSetup) (listener : Nat) (closer : Closer)

namespace Site

/-- The job in which a stop is under way. -/
def task (r : Nat) (st : Stopping) : Site → Task
  | asked => .stopping r st
  | teardown closer => .teardown (.stopping r closer st)
  | app a closer => .app a (.running (.stopping r closer st))
  | program a listener closer => .program (.running a listener (.running (.stopping r closer st)))

/-- The turn of the job that a turn of the stop makes. -/
def turn (r : Nat) (part : Turn Stopping (Except Failure Stats)) : Site → Turn Task Outcome
  | asked => part.asJob (.stopping r) .stats
  | teardown closer => (drained closer).asJob .teardown .stats
  | app a closer => (ended closer).asJob (.app a) .stats
  | program a listener closer =>
    (ended closer).andThen (fun s => .program (.running a listener s)) (Task.appEnded listener)
where
  drained (closer : Closer) : Turn Teardown (Except Failure Stats) :=
    part.andThen (.stopping r closer) (Teardown.stopped closer)
  ended (closer : Closer) : Turn App (Except Failure Stats) :=
    (drained closer).andThen .running fun result w => (w, .finished result)

section Lemmas

variable {r : Nat}

/-- Where a stop is under way its job goes on with it. -/
theorem resume_task (w : World) (st : Stopping) (site : Site) :
    (site.task r st).resume w = site.turn r (st.resume r w) := by
  cases site <;> rfl

/-- The job waits for what the stop waits for. -/
theorem wait_task (st : Stopping) (site : Site) : (site.task r st).wait = st.wait r := by
  cases site <;> rfl

/-- The job waits if the stop has to. -/
theorem turn_waiting {part : Turn Stopping (Except Failure Stats)} {st : Stopping} (site : Site)
    (h : part.2 = .waiting st) : (site.turn r part).2 = .waiting (site.task r st) := by
  obtain ⟨w, p⟩ := part
  cases h
  cases site <;> rfl

/-- The job is taken along with the stop. -/
theorem turn_crashed {part : Turn Stopping (Except Failure Stats)} {payload : Option String}
    (site : Site) (h : part.2 = .crashed payload) : (site.turn r part).2 = .crashed payload := by
  obtain ⟨w, p⟩ := part
  cases h
  cases site <;> rfl

/-- A job in which a stop is under way still has its receiver. -/
theorem receiver_task (st : Stopping) (site : Site) : (site.task r st).receiver? = some r := by
  cases site <;> rfl

/-- A job in which a stop is under way goes on by itself. -/
theorem task_ne_joining (st : Stopping) (site : Site) (listener : Nat)
    (result : Except Failure Stats) : site.task r st ≠ .program (.joining listener result) := by
  cases site <;> simp [task]

/-- The stop that is under way in a job is the one that is carried out there. -/
theorem stopping?_task (st : Stopping) (site : Site) :
    (site.task r st).stopping? = some (r, st) := by
  cases site <;> rfl

/-- A stop that is under way is so at some site. -/
theorem of_stopping {t : Task} {st : Stopping} (under : t.stopping? = some (r, st)) :
    ∃ site : Site, t = site.task r st := by
  have teardown : ∀ {s : Teardown}, s.stopping? = some (r, st) →
      ∃ closer, s = .stopping r closer st := by
    intro s hs
    cases s <;> cases hs
    exact ⟨_, rfl⟩
  have app : ∀ {s : App}, s.stopping? = some (r, st) →
      ∃ closer, s = .running (.stopping r closer st) := by
    intro s hs
    cases s with
    | running s =>
      obtain ⟨closer, rfl⟩ := teardown hs
      exact ⟨closer, rfl⟩
    | _ => cases hs
  cases t with
  | stopping r' st' =>
    cases under
    exact ⟨.asked, rfl⟩
  | teardown s =>
    obtain ⟨closer, rfl⟩ := teardown under
    exact ⟨.teardown closer, rfl⟩
  | app a s =>
    obtain ⟨closer, rfl⟩ := app under
    exact ⟨.app a closer, rfl⟩
  | program p =>
    cases p with
    | running a listener s =>
      obtain ⟨closer, rfl⟩ := app under
      exact ⟨.program a listener closer, rfl⟩
    | joining listener result => cases under
  | _ => cases under

/-- A stop that a job calls for begins at some site, once the teardown has published that it
drains. -/
theorem of_stopCall {t : Task} (call : t.stopCall? = some r) (w : World) :
    ∃ site : Site, t.resume w = site.turn r (Stopping.start r (w.transition .draining)) := by
  have teardown : ∀ {s : Teardown}, s.stopCall? = some r →
      ∃ closer, s = .yielding (.receiver r) closer := by
    intro s hs
    cases s with
    | yielding stopper closer =>
      cases stopper with
      | receiver r' =>
        cases hs
        exact ⟨closer, rfl⟩
      | given op => cases hs
    | _ => cases hs
  have app : ∀ {s : App}, s.stopCall? = some r →
      ∃ closer, s = .running (.yielding (.receiver r) closer) := by
    intro s hs
    cases s with
    | running s =>
      obtain ⟨closer, rfl⟩ := teardown hs
      exact ⟨closer, rfl⟩
    | _ => cases hs
  cases t with
  | teardown s =>
    obtain ⟨closer, rfl⟩ := teardown call
    exact ⟨.teardown closer, rfl⟩
  | app a s =>
    obtain ⟨closer, rfl⟩ := app call
    exact ⟨.app a closer, rfl⟩
  | program p =>
    cases p with
    | running a listener s =>
      obtain ⟨closer, rfl⟩ := app call
      exact ⟨.program a listener closer, rfl⟩
    | joining listener result => cases call
  | _ => cases call

/-- A stop that is asked for begins as a job of its own. -/
theorem of_request {q : Request} {h : Handles} (call : q.stopCall? h = some r) (w : World) :
    q.begin h w = asked.turn r (Stopping.start r w) := by
  cases q with
  | stop consumer =>
    have hr : h.consumers[consumer]? = some r := call
    simp only [Request.begin, Request.onConsumer, hr, turn]
  | _ => cases call

end Lemmas

end Site

/-! ## Stops under way -/

namespace System

variable {s : System} {m : Move} {n r : Nat} {u : Turn Task Outcome}

/-- A job is stopping a receiver because it has been so before, or because the stop has just
been called and the receiver was joinable. -/
theorem Takes.stopping (h : s.Takes m n u) {t' : Task} {st' : Stopping} (hu : u.2 = .waiting t')
    (under : t'.stopping? = some (r, st')) :
    (∃ t st, s.jobs[n]? = some (.waiting t) ∧ t.stopping? = some (r, st)) ∨
    (s.stopCall? m = some r ∧ (s.world.receiver r).joinable = true) := by
  rcases h.receiver hu (Task.receiver?_of_stopping? under) with ⟨t, job, -, hkept⟩ |
    ⟨-, -, hcalled⟩ | ⟨-, -, l, hl⟩
  · rcases hkept.goesOn st' under with ⟨st, hst⟩ | hcalled
    · exact .inl ⟨t, st, job, hst⟩
    · exact .inr hcalled
  · exact .inr (hcalled st' under)
  · rcases Task.of_app? hl with ⟨a, rfl⟩ | ⟨a, listener, rfl⟩ <;> cases under

/-- A stop that is under way is the first that has been called. -/
theorem first_of_stopping {s : System} (hjobs : s.jobs = []) (hconsumers : s.handles.consumers = [])
    (empty : s.world.receivers = []) (h : List Move) {t : Task} {st : Stopping}
    (job : (s.after h).jobs[n]? = some (.waiting t)) (under : t.stopping? = some (r, st)) :
    ∃ h₁ m h₂, h = h₁ ++ m :: h₂ ∧ s.stopCalls r h₁ = 0 ∧ (s.after h₁).stopCall? m = some r ∧
      (s.after h₁).actorOf m = some (.job n) := by
  induction h using List.reverseRecOn generalizing t st with
  | nil => simp [hjobs] at job
  | append_singleton h m ih =>
    have before : ∀ {t : Task} {st : Stopping}, (s.after h).jobs[n]? = some (.waiting t) →
        t.stopping? = some (r, st) → ∃ h₁ m' h₂, h ++ [m] = h₁ ++ m' :: h₂ ∧
          s.stopCalls r h₁ = 0 ∧ (s.after h₁).stopCall? m' = some r ∧
          (s.after h₁).actorOf m' = some (.job n) := by
      intro t st job under
      obtain ⟨h₁, m', h₂, rfl, hfirst⟩ := ih job under
      exact ⟨h₁, m', h₂ ++ [m], by simp, hfirst⟩
    rw [after_concat] at job
    rcases job_of_move job with ⟨hsame, -⟩ | ⟨-, hnew⟩ | ⟨u, htakes, hu, -⟩
    · exact before hsame under
    · cases hnew
      cases under
    · rcases htakes.stopping hu under with ⟨t₀, st₀, hold, hst⟩ | ⟨hcall, hj⟩
      · exact before hold hst
      · have hlt := (charged_after hjobs hconsumers h).stopCall_lt hcall
        have hzero := ((joinable_iff_uncalled hjobs hconsumers empty h r).1 hlt).mp hj
        exact ⟨h, m, [], by simp, hzero, hcall, htakes.actor⟩

end System

/-! ## The counters of a loop that is over -/

section Laps

variable {mode : AckMode} {laps : List Lap}

/-- In its laps a loop hands over one delivery for each lap that is made with one, and every
handler that has begun ends. -/
theorem begun_laps : (begunIn (laps.flatMap (Lap.beats mode))).length = laps.countP Lap.isDelivery ∧
    endedIn (laps.flatMap (Lap.beats mode)) = begunIn (laps.flatMap (Lap.beats mode)) := by
  induction laps with
  | nil => exact ⟨rfl, rfl⟩
  | cons lap laps ih =>
    obtain ⟨hcount, hended⟩ := ih
    rw [List.flatMap_cons, begunIn_append, endedIn_append, hended, List.length_append, hcount]
    cases lap with
    | fault f => simp [Lap.beats, begunIn, endedIn, Lap.isDelivery]
    | delivery d cue result answer =>
      cases hs : mode.settlement d result <;>
        simp [Lap.beats, begunIn, endedIn, List.countP_cons, Lap.isDelivery, hs, Nat.add_comm]

/-- A delivery has failed at most once. -/
theorem failed_le (mode : AckMode) (laps : List Lap) :
    laps.countP (Lap.failed mode) ≤ laps.countP Lap.isDelivery := by
  refine List.countP_mono_left fun lap _ hf => ?_
  cases lap with
  | fault f => cases hf
  | delivery d cue result answer => rfl

/-- A loop sees neither the stop nor the end of its feed in a lap. -/
theorem unseen_laps : .sawStop ∉ laps.flatMap (Lap.beats mode) ∧
    .sawEnd ∉ laps.flatMap (Lap.beats mode) := by
  have lap : ∀ lap : Lap, .sawStop ∉ lap.beats mode ∧ .sawEnd ∉ lap.beats mode := by
    intro lap
    cases lap with
    | fault f => simp [Lap.beats]
    | delivery d cue result answer =>
      cases hs : mode.settlement d result <;> simp [Lap.beats, hs]
  simp only [List.mem_flatMap, not_exists, not_and]
  exact ⟨fun l _ => (lap l).1, fun l _ => (lap l).2⟩

end Laps

/-- A loop that has ended has made its laps, and then has seen the stop, or else the end of its
feed. -/
theorem Receiver.Course.ended {v : Receiver} {played : List Beat} {laps : List Lap}
    {tail : List Beat} (h : v.Course played laps tail) (hended : v.loop = .ended) :
    ∃ last, played = laps.flatMap (Lap.beats v.mode) ++ [last] ∧
      ((last = .sawEnd ∧ v.stats.connectionLost = true) ∨
        (last = .sawStop ∧ v.stats.connectionLost = false)) := by
  have hbeats := h.beats
  have hplace := h.place
  rw [hended] at hplace
  cases hplace with
  | stopped =>
    refine ⟨_, hbeats, .inr ⟨rfl, ?_⟩⟩
    have hunseen : .sawEnd ∉ played := by
      rw [hbeats]
      simp [unseen_laps.2]
    rw [← h.lost] at hunseen
    exact Bool.eq_false_iff.mpr hunseen
  | lost =>
    refine ⟨_, hbeats, .inl ⟨rfl, ?_⟩⟩
    rw [h.lost, hbeats]
    simp

/-- A loop that has died has been taken along by a settlement. -/
theorem Receiver.Course.died {v : Receiver} {played : List Beat} {laps : List Lap}
    {tail : List Beat} (h : v.Course played laps tail) {payload : Option String}
    (hdied : v.loop = .crashed payload) : ∃ c, .answered c (.crashed payload) ∈ played := by
  have hbeats := h.beats
  have hplace := h.place
  rw [hdied] at hplace
  cases hplace with
  | died d asked result c payload settled => exact ⟨c, by simp [hbeats]⟩

namespace System

/-- The counters of a receiver's loop account for everything that it has done in the course of a
history, and that it is ever going to do. -/
structure Accounts (s : System) (h : List Move) (r : Nat) (stats : Stats) : Prop where
  /-- The loop has made its laps and then seen the end of its feed, or else the stop. What has
  been counted is the laps that were made with a delivery, those among them whose handler has
  failed, or else whose acknowledgement has, and what the loop has seen in the end. -/
  laps : ∃ (laps : List Lap) (last : Beat),
    beats (eventsBy (.receiver r) (s.deeds h)) =
        laps.flatMap (Lap.beats ((s.after h).world.receiver r).mode) ++ [last] ∧
      stats.dispatched = laps.countP Lap.isDelivery ∧
      stats.failed = laps.countP (Lap.failed ((s.after h).world.receiver r).mode) ∧
      ((last = .sawEnd ∧ stats.connectionLost = true) ∨
        (last = .sawStop ∧ stats.connectionLost = false))
  /-- The first counter is the number of times that the handler has been called. -/
  dispatched : stats.dispatched = (invocations r (s.after h).world.trace).length
  /-- The handler is done with every delivery that it has been called with. -/
  returned : returns r (s.after h).world.trace = invocations r (s.after h).world.trace
  failed_le : stats.failed ≤ stats.dispatched
  /-- The connection counts as lost if the loop has found its feed at an end, and if not, then
  the loop has told that it was stopped. -/
  lost : if stats.connectionLost then .feedEnded r ∈ (s.after h).world.trace else
    .feedEnded r ∉ (s.after h).world.trace ∧ (.receiver r, .logged stoppedEntry) ∈ s.deeds h
  /-- Whatever else happens, the loop does nothing more. -/
  final : ∀ h', eventsBy (.receiver r) (s.deeds (h ++ h')) = eventsBy (.receiver r) (s.deeds h)

/-- The stops of a receiver in the course of a history. -/
structure StoppedOnce (s : System) (h : List Move) (r : Nat) : Prop where
  /-- A call of the stop is part of the turn of some job, which may have published before that
  it drains. The first call takes charge of the loop and has to wait. Every other call ends at
  once with nothing counted; it changes nothing, and all that it does is to tell so. -/
  calls : ∀ m, (s.after h).stopCall? m = some r →
    ∃ (n : Nat) (site : Site) (w : World),
      (s.after h).Takes m n (site.turn r (Stopping.start r w)) ∧
      (w = (s.after h).world ∨ w = (s.after h).world.transition .draining) ∧
      if s.stopCalls r h = 0 then
        ∃ st, ((s.after h).move m).jobs[n]? = some (.waiting (site.task r st))
      else
        Stopping.start r w = (w.log (receiverEntry .debug "consumer already stopped"
          [("tag", .text (w.receiver r).tag)]), .finished (.ok {}))
  /-- The stop that is under way is the first that has been called. -/
  first : ∀ n t st, (s.after h).jobs[n]? = some (.waiting t) → t.stopping? = some (r, st) →
    ∃ h₁ m h₂, h = h₁ ++ m :: h₂ ∧ s.stopCalls r h₁ = 0 ∧ (s.after h₁).stopCall? m = some r ∧
      (s.after h₁).actorOf m = some (.job n)
  /-- The job in which it is under way goes on with it when the cancellation has been answered
  and, after that, when the loop is over. -/
  goesOn : ∀ n t st, (s.after h).jobs[n]? = some (.waiting t) → t.stopping? = some (r, st) →
    ∃ site : Site, t = site.task r st ∧
      (s.after h).turn t = site.turn r (st.resume r (s.after h).world) ∧
      (st = .joining → ((s.after h).isRunnable (.job n) = true ↔
        ((s.after h).world.receiver r).loop.isOver = true))
  /-- However the cancellation has been answered, the stop waits for the loop's end; only a
  broker client that breaks down takes it along. -/
  cancelled : ∀ p : Pending, ((Stopping.cancelling p).resume r (s.after h).world).2 =
    match p.reply.answer with
    | .done _ | .refused _ => .waiting .joining
    | .crashed payload => .crashed payload
  /-- When the loop has ended the stop yields its counters. -/
  ended : ((s.after h).world.receiver r).loop = .ended →
    ∃ stats, (Stopping.joining.resume r (s.after h).world).2 = .finished (.ok stats) ∧
      s.Accounts h r stats
  /-- When the loop has died the stop fails. -/
  died : ∀ payload, ((s.after h).world.receiver r).loop = .crashed payload →
    (Stopping.joining.resume r (s.after h).world).2 = .finished (.error .internal) ∧
      ∃ c, (.receiver r, .answered c (.crashed payload)) ∈ s.deeds h

/-- The move that calls for a stop is the turn of a job in which the stop begins. -/
theorem takes_of_stopCall {s : System} {m : Move} {r : Nat} (call : s.stopCall? m = some r) :
    ∃ (n : Nat) (site : Site) (w : World), s.Takes m n (site.turn r (Stopping.start r w)) ∧
      (w = s.world ∨ w = s.world.transition .draining) := by
  cases m with
  | begin q =>
    have takes : s.Takes (.begin q) s.jobs.length (q.begin s.handles s.world) := .begins q
    rw [Site.of_request call s.world] at takes
    exact ⟨_, _, _, takes, .inl rfl⟩
  | act a =>
    cases a with
    | job n =>
      simp only [stopCall?] at call
      split at call
      · next t job =>
        split at call
        · next ready =>
          have takes : s.Takes (.act (.job n)) n (s.turn t) := .goesOn job ready
          obtain ⟨site, hsite⟩ := Site.of_stopCall call s.world
          have alone : ∀ listener result, t ≠ .program (.joining listener result) := by
            rintro listener result rfl
            cases call
          rw [s.turn_eq_resume alone, hsite] at takes
          exact ⟨n, site, _, takes, .inr rfl⟩
        · cases call
      · cases call
    | receiver r' => cases call
    | observer i => cases call
  | _ => cases call

/-- A cancellation that has been answered lets the stop wait for the loop's end. -/
theorem stage_of_cancelled (p : Pending) (r : Nat) (w : World) :
    ((Stopping.cancelling p).resume r w).2 = match p.reply.answer with
      | .done _ | .refused _ => .waiting .joining
      | .crashed payload => .crashed payload := by
  simp only [Stopping.resume, Cancelling.answered]
  cases ha : p.reply.answer with
  | done name =>
    rw [resolve_done ha]
    rfl
  | refused fault =>
    rw [resolve_refused ha]
    rfl
  | crashed payload =>
    rw [resolve_crashed ha]
    rfl

/-- The counters of every loop that has ended account for what it has done. -/
theorem accounts_of_ended (setup : Setup) (h : List Move) {r : Nat}
    (hr : r < (setup.system.after h).world.receivers.length)
    (hended : ((setup.system.after h).world.receiver r).loop = .ended) :
    setup.system.Accounts h r ((setup.system.after h).world.receiver r).stats := by
  obtain ⟨laps, tail, hcourse⟩ := course_after (s := setup.system) rfl h hr
  have named := wellNamed_deeds setup.system h
  have htrace := trace_deeds (s := setup.system) rfl h
  obtain ⟨last, hplayed, hlast⟩ := hcourse.ended hended
  have hquiet : begunIn [last] = [] ∧ endedIn [last] = [] := by
    rcases hlast with ⟨rfl, -⟩ | ⟨rfl, -⟩ <;> exact ⟨rfl, rfl⟩
  have hdispatched : ((setup.system.after h).world.receiver r).stats.dispatched =
      laps.countP Lap.isDelivery := by
    rw [hcourse.dispatched, hplayed, begunIn_append, hquiet.1, List.append_nil, begun_laps.1]
  constructor
  case laps => exact ⟨laps, last, hplayed, hdispatched, hcourse.failed, hlast⟩
  case dispatched => rw [htrace, invocations_deeds named, hcourse.dispatched]
  case returned =>
    rw [htrace, invocations_deeds named, returns_deeds named, hplayed, begunIn_append,
      endedIn_append, hquiet.1, hquiet.2, begun_laps.2]
  case failed_le =>
    rw [hdispatched, hcourse.failed]
    exact failed_le _ laps
  case lost =>
    have hfound : .feedEnded r ∈ (setup.system.after h).world.trace ↔
        .sawEnd ∈ beats (eventsBy (.receiver r) (setup.system.deeds h)) := by
      rw [htrace]
      refine ⟨fun hmem => ?_, fun hsaw => List.mem_map_of_mem (mem_deeds_of_sawEnd named hsaw)⟩
      obtain ⟨⟨a, e⟩, hmem, rfl⟩ := List.mem_map.mp hmem
      have hname := named a _ r hmem rfl
      subst hname
      exact List.mem_filterMap.mpr ⟨_, mem_eventsBy.mpr hmem, rfl⟩
    rw [hfound, ← hcourse.lost]
    rcases hlast with ⟨rfl, hlost⟩ | ⟨rfl, hkept⟩
    · simp [hlost]
    · have hsaw : .sawStop ∈ beats (eventsBy (.receiver r) (setup.system.deeds h)) := by
        simp [hplayed]
      simp [hkept, mem_deeds_of_sawStop hsaw]
  case final =>
    intro h'
    have hover : ((setup.system.after h).world.receiver r).loop.isOver = true := by
      rw [hended]
      rfl
    rw [deeds_append, eventsBy_append, (silent_of_over h' hr hover).1, List.append_nil]

/-- Every receiver of every reachable system is stopped once, and its stop accounts for its
loop. -/
theorem stopped_once (setup : Setup) (h : List Move) (r : Nat)
    (hr : r < (setup.system.after h).world.receivers.length) : setup.system.StoppedOnce h r := by
  obtain ⟨laps, tail, hcourse⟩ := course_after (s := setup.system) rfl h hr
  have hjoinable := (joinable_iff_uncalled (s := setup.system) rfl rfl rfl h r).1 hr
  constructor
  case calls =>
    intro m hcall
    obtain ⟨n, site, w, takes, hw⟩ := takes_of_stopCall hcall
    refine ⟨n, site, w, takes, hw, ?_⟩
    have hsame : w.receiver r = (setup.system.after h).world.receiver r := by
      rcases hw with rfl | rfl <;> rfl
    split
    · next hzero =>
      have hj : (w.receiver r).joinable = true := by rw [hsame, hjoinable, hzero]
      obtain ⟨st, hst⟩ := stoppingStart_waits hj
      exact ⟨st, by rw [takes.turned.job, site.turn_waiting hst]⟩
    · next hcalled =>
      refine stoppingStart_of_not_joinable ?_
      rw [hsame, Bool.eq_false_iff]
      exact fun hj => hcalled (hjoinable.mp hj)
  case first => exact fun n t st job under => first_of_stopping rfl rfl rfl h job under
  case goesOn =>
    intro n t st job under
    obtain ⟨site, rfl⟩ := Site.of_stopping under
    refine ⟨site, rfl, ?_, ?_⟩
    · rw [turn_eq_resume _ (site.task_ne_joining st), Site.resume_task]
    · rintro rfl
      simp [isRunnable, waitOf, job, Site.wait_task, Stopping.wait, ready, World.ready]
  case cancelled => exact fun p => stage_of_cancelled p r _
  case ended =>
    intro hended
    refine ⟨_, ?_, accounts_of_ended setup h hr hended⟩
    simp [Stopping.resume, Stopping.joined, hended]
  case died =>
    intro payload hdied
    obtain ⟨c, hc⟩ := hcourse.died hdied
    refine ⟨?_, c, mem_deeds_of_answered hc⟩
    simp [Stopping.resume, Stopping.joined, hdied]

/-- A consumer is stopped twice while its handler is at work; the handler fails, the broker
refuses the cancellation, and the first stop waits for a loop that is over. -/
def stopHistory : List Move :=
  [.begin (.start "users" (.manual true) none .cued), .act (.job 0),
    .learn [(.basicCancel, { answer := .refused .heartbeat })],
    .deliver 0 (.delivery { tag := 1 } { result := .failed .internal }), .act (.receiver 0),
    .begin (.stop 0), .begin (.stop 0), .act (.job 1), .act (.receiver 0), .act (.receiver 0),
    .act (.receiver 0)]

theorem stopped_once_stopHistory :
    0 < (Setup.system { connected := true } |>.after stopHistory).world.receivers.length ∧
      (Setup.system { connected := true }).StoppedOnce stopHistory 0 :=
  ⟨by decide, stopped_once { connected := true } stopHistory 0 (by decide)⟩

end System

end TopicWorker
