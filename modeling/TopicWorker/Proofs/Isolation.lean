import TopicWorker.Proofs.Fixtures
import TopicWorker.Proofs.Stopping
import TopicWorker.Proofs.Tags

/-!
# Consumers do not disturb each other

Consumers share the broker and its replies, the gates, the request to shut down, and the numbers of
spans and tasks. Yet every move belongs to one receiver at most, and leaves all others as they are.
What belongs to a receiver is what arrives for it, the steps of its loop, and the calls of its stop;
nothing else counts, and from this alone one can tell what its handler is called with and where its
loop is.

## Main definitions

* `Own`, `System.own`, `System.owns`: the steps of one receiver among the moves of a system.
* `Receiver.bare`: a receiver without what the system has numbered or named it with.
* `Receiver.next`, `Receiver.hands`: what becomes of a receiver in a step of its own, and what is
  handed over in it.
* `System.Isolated`, `System.EachAlone`: what is said of the receivers of a system.

## Main results

* `System.receiver_of_foreign`, `System.receiver_of_own`: one move.
* `System.led_after`: a history.
* `System.isolated`: all this, in every reachable system.
-/

namespace TopicWorker

/-- A step of a receiver. -/
inductive Own where
  /-- An item arrives for it. -/
  | arrives (item : Item)
  /-- Its feed ends. -/
  | ends
  /-- Its stop is called. -/
  | stops
  /-- Its loop goes on, and hears the answer to its settlement if it has waited for one. -/
  | goesOn (heard : Option Answer)
  deriving DecidableEq, Repr

namespace Loop

/-- The answer that the next step of a loop hears. -/
def answer? : Loop → Option Answer
  | processing (.settling _ _ _ p) => some p.reply.answer
  | _ => none

/-- A loop without the number of its span and without the reply that it has not heard yet. -/
def bare : Loop → Loop
  | processing (.handling d _ cue) => processing (.handling d 0 cue)
  | processing (.settling d _ failure p) => processing (.settling d 0 failure ⟨p.call, {}⟩)
  | loop => loop

end Loop

namespace Receiver

/-- A receiver without what the system has numbered or named it with, and without the reply that its
loop has not heard yet. -/
def bare (v : Receiver) : Receiver :=
  { v with tag := "", link := 0, task := 0, loop := v.loop.bare }

/-- A receiver at its beginning. -/
def fresh (mode : AckMode) (kind : HandlerKind) : Receiver :=
  { mode, kind, loop := .receiving, joinable := true }

/-- What becomes of a receiver in a step of its own. -/
def next (v : Receiver) : Own → Receiver
  | .arrives item => if v.feedClosed then v else { v with feed := v.feed ++ [item] }
  | .ends => { v with feedClosed := true }
  | .stops => if v.joinable then v.claimed else v
  | .goesOn heard =>
    match v.loop with
    | .receiving =>
      if v.cancelled then v.goneTo .ended
      else
        match v.feed with
        | .delivery d cue :: rest =>
          (v.taken rest).goneTo (.processing (.handling d 0 (v.kind.cue cue)))
        | .fault _ :: rest => v.passedOver rest
        | [] => if v.feedClosed then v.lost else v
    | .processing (.handling d _ cue) =>
      match v.mode.settlement d cue.result with
      | none => v.doneWith cue.result.failure?.isSome
      | some c => v.goneTo (.processing (.settling d 0 cue.result.failure? ⟨c, {}⟩))
    | .processing (.settling _ _ failure _) =>
      match heard with
      | some (.crashed payload) => v.goneTo (.crashed payload)
      | some answer => v.doneWith (failure.isSome || answer.isRefused)
      | none => v
    | .ended | .crashed _ => v

/-- What is handed over in a step of a receiver. -/
def hands (v : Receiver) : Own → List Delivery
  | .goesOn _ =>
    match v.loop, v.cancelled, v.feed with
    | .receiving, false, .delivery d _ :: _ => [d]
    | _, _, _ => []
  | _ => []

/-- What becomes of a receiver in some steps of its own. -/
def led (v : Receiver) (steps : List Own) : Receiver := steps.foldl next v

/-- What is handed over in some steps of a receiver. -/
def handed (v : Receiver) : List Own → List Delivery
  | [] => []
  | o :: steps => v.hands o ++ (v.next o).handed steps

/-- One more step. -/
theorem led_concat (v : Receiver) (steps : List Own) (o : Own) :
    v.led (steps ++ [o]) = (v.led steps).next o := by
  simp [led]

/-- One more step. -/
theorem handed_concat (v : Receiver) (steps : List Own) (o : Own) :
    v.handed (steps ++ [o]) = v.handed steps ++ (v.led steps).hands o := by
  induction steps generalizing v with
  | nil => simp [handed, led]
  | cons o' steps ih => simp [handed, led, ih]

/-- A new receiver is at its beginning. -/
theorem bare_opened (g : Registration) (tag : String) (task : Nat) :
    (g.opened tag task).bare = fresh g.mode g.kind := rfl

variable {v v' : Receiver}

/-- What a step of a loop makes of its receiver, and what it hands over, depends on nothing that the
system has numbered or named it with. -/
theorem Steps.bare {played : List Beat} (h : v.Steps played v') :
    v'.bare = v.bare.next (.goesOn v.loop.answer?) ∧
      begunIn played = v.bare.hands (.goesOn v.loop.answer?) := by
  cases h with
  | stops loop told => simp [Receiver.bare, next, hands, loop, told, goneTo, Loop.bare, begunIn]
  | loses loop untold empty closed =>
    simp [Receiver.bare, next, hands, loop, untold, empty, closed, lost, Loop.bare, begunIn]
  | skips loop untold feed =>
    simp [Receiver.bare, next, hands, loop, untold, feed, passedOver, Loop.bare, begunIn]
  | dispatches span loop untold feed =>
    simp [Receiver.bare, next, hands, loop, untold, feed, taken, goneTo, Loop.bare, begunIn]
  | finishes loop unsettled =>
    simp [Receiver.bare, next, hands, loop, unsettled, doneWith, Loop.bare, begunIn]
  | settles loop settled =>
    simp [Receiver.bare, next, hands, loop, settled, goneTo, Loop.bare, begunIn]
  | @hears d span failure p loop alive =>
    cases answer : p.reply.answer with
    | crashed payload => exact absurd answer (alive payload)
    | _ =>
      simp [Receiver.bare, next, hands, loop, answer, Loop.answer?, doneWith, Loop.bare, begunIn]
  | dies loop dead =>
    simp [Receiver.bare, next, hands, loop, dead, Loop.answer?, goneTo, Loop.bare, begunIn]

section Undergoes

variable {called : Bool} {items : List Item} {news : List Beat}

/-- A receiver calls for nothing but settlements. -/
theorem Undergoes.settlement (h : v.Undergoes called items news v') {c : Call}
    (hc : .called c ∈ news) : ∃ d result, v.mode.settlement d result = some c := by
  cases h with
  | steps steps => exact steps.settlement hc
  | _ => simp at hc

/-- In the move in which its stop is called nothing else happens to a receiver. -/
theorem Undergoes.of_called (h : v.Undergoes true items news v') :
    v' = (if v.joinable then v.claimed else v) ∧ news = [] := by
  cases h
  exact ⟨rfl, rfl⟩

/-- A receiver is told to stop, and its end taken charge of, only where its stop is called. -/
theorem Undergoes.of_uncalled (h : v.Undergoes false items news v') :
    v'.cancelled = v.cancelled ∧ v'.joinable = v.joinable := by
  cases h with
  | steps steps =>
    obtain ⟨-, -, -, -, cancelled, joinable, -⟩ := steps.frame
    exact ⟨cancelled, joinable⟩
  | _ => exact ⟨rfl, rfl⟩

end Undergoes

end Receiver

namespace System

/-- The receiver that a move belongs to: something arrives for it, its loop may go on, or its stop
is called. -/
def owner? (s : System) : Move → Option Nat
  | .deliver r _ | .endFeed r | .act (.receiver r) => some r
  | m => s.stopCall? m

/-- The step that a move is to a receiver, if it belongs to it. A loop that may not go on makes no
step. -/
def own (r : Nat) (s : System) (m : Move) : Option Own :=
  if s.owner? m = some r ∧ r < s.world.receivers.length then
    match m with
    | .deliver _ item => some (.arrives item)
    | .endFeed _ => some .ends
    | .act (.receiver _) =>
      if s.isRunnable (.receiver r) then some (.goesOn (s.world.receiver r).loop.answer?) else none
    | _ => some .stops
  else none

/-- The steps of a receiver in the course of a history. -/
def owns (r : Nat) (s : System) : List Move → List Own
  | [] => []
  | m :: h => (s.own r m).toList ++ (s.move m).owns r h

/-- One more move. -/
theorem owns_concat (r : Nat) (s : System) (h : List Move) (m : Move) :
    s.owns r (h ++ [m]) = s.owns r h ++ ((s.after h).own r m).toList := by
  induction h generalizing s with
  | nil => simp [owns]
  | cons m' h ih => simp [owns, ih]

/-! ## One move -/

section Moves

variable {s : System} {m : Move} {r : Nat} {o : Own}

/-- A step of a receiver belongs to it, and the receiver is there. -/
theorem owner_of_own (h : s.own r m = some o) :
    s.owner? m = some r ∧ r < s.world.receivers.length := by
  unfold own at h
  split at h
  · assumption
  · cases h

/-- What a move is if it is a step of a receiver. -/
theorem cases_own (h : s.own r m = some o) :
    (∃ item, m = .deliver r item ∧ o = .arrives item) ∨ (m = .endFeed r ∧ o = .ends) ∨
      (m = .act (.receiver r) ∧ s.isRunnable (.receiver r) = true ∧
        o = .goesOn (s.world.receiver r).loop.answer?) ∨
      (s.stopCall? m = some r ∧ o = .stops) := by
  obtain ⟨owner, there⟩ := owner_of_own h
  unfold own at h
  rw [if_pos ⟨owner, there⟩] at h
  cases m with
  | deliver r' item =>
    cases owner
    cases h
    exact .inl ⟨item, rfl, rfl⟩
  | endFeed r' =>
    cases owner
    cases h
    exact .inr (.inl ⟨rfl, rfl⟩)
  | act a =>
    cases a with
    | receiver r' =>
      cases owner
      obtain ⟨ready, is⟩ := Option.ite_none_right_eq_some.mp h
      cases is
      exact .inr (.inr (.inl ⟨rfl, ready, rfl⟩))
    | _ =>
      cases h
      exact .inr (.inr (.inr ⟨owner, rfl⟩))
  | _ =>
    cases h
    exact .inr (.inr (.inr ⟨owner, rfl⟩))

/-- What a move is not if it is no step of a receiver that is there. -/
theorem cases_foreign (there : r < s.world.receivers.length) (h : s.own r m = none) :
    (∀ item, m ≠ .deliver r item) ∧ m ≠ .endFeed r ∧
      (m = .act (.receiver r) → s.isRunnable (.receiver r) = false) ∧ s.stopCall? m ≠ some r := by
  refine ⟨?_, ?_, ?_, ?_⟩
  · rintro item rfl
    simp [own, owner?, there] at h
  · rintro rfl
    simp [own, owner?, there] at h
  · rintro rfl
    simpa [own, owner?, there] using h
  · intro call
    cases m with
    | begin q => simp [own, owner?, there, call] at h
    | act a =>
      cases a with
      | job n => simp [own, owner?, there, call] at h
      | _ => cases call
    | _ => cases call

/-- A move belongs to one receiver at most. -/
theorem own_unique {r' : Nat} {o' : Own} (h : s.own r m = some o) (h' : s.own r' m = some o') :
    r = r' :=
  Option.some.inj ((owner_of_own h).1.symm.trans (owner_of_own h').1)

/-- A receiver that is not there makes no step. -/
theorem own_of_absent (m : Move) (absent : s.world.receivers.length ≤ r) : s.own r m = none := by
  unfold own
  exact if_neg fun both => Nat.not_lt.mpr absent both.2

/-- A move that is no step of a receiver leaves it as it is. -/
theorem receiver_of_foreign (there : r < s.world.receivers.length) (h : s.own r m = none) :
    (s.move m).world.receiver r = s.world.receiver r := by
  obtain ⟨undelivered, unended, idle, uncalled⟩ := cases_foreign there h
  simp only [World.receiver]
  congr 1
  have kind := s.move_kind m
  generalize s.move m = s' at *
  cases kind with
  | @turns _ n t _ takes turned =>
    rw [turned.world]
    rcases takes.receivers with claiming | ⟨task, g, tag, -, -, -, more⟩
    · rw [claiming, World.claiming_getElem? _ _ there, if_neg fun both => uncalled both.1,
        World.getElem?_receivers there]
    · rw [more, List.getElem?_append_left there]
  | @receives r' ready =>
    obtain ⟨played, v, -, plays⟩ := plays_of_runnable ready
    have other : r' ≠ r := by
      rintro rfl
      rw [idle rfl] at ready
      cases ready
    rw [plays.receivers, List.getElem?_set_ne other]
  | outside jobs handles trace lifecycle registrations receivers =>
    rw [receivers]
    cases m with
    | deliver r' item =>
      have other : r' ≠ r := fun same => undelivered item (by rw [same])
      exact List.getElem?_modify_ne _ _ other
    | endFeed r' =>
      have other : r' ≠ r := fun same => unended (by rw [same])
      exact List.getElem?_modify_ne _ _ other
    | _ => rfl

/-- Nor does its loop do anything in it, -/
theorem silent_of_foreign (there : r < s.world.receivers.length) (h : s.own r m = none) :
    eventsBy (.receiver r) (s.doing m) = [] := by
  by_cases acts : s.actorOf m = some (.receiver r)
  · have is : m = .act (.receiver r) := by
      cases m <;> simp_all [actorOf]
    have idle := (cases_foreign there h).2.2.1 is
    have still : s.move m = s := by simp [is, move, act, idle]
    rw [eventsBy_doing_own acts, added, still, List.drop_length]
  · exact eventsBy_doing_other acts

/-- so that nothing is handed over. -/
theorem begun_of_foreign (there : r < s.world.receivers.length) (h : s.own r m = none) :
    begunIn (beats (eventsBy (.receiver r) (s.doing m))) = [] := by
  rw [silent_of_foreign there h]
  rfl

/-- Whether a loop may go on goes by its receiver and by the gates. -/
theorem isRunnable_congr {s' : System} (receiver : s'.world.receiver r = s.world.receiver r)
    (gates : s'.world.gates = s.world.gates) :
    s'.isRunnable (.receiver r) = s.isRunnable (.receiver r) := by
  simp only [isRunnable, waitOf, receiver]
  cases waits : (s.world.receiver r).wait? r with
  | none => rfl
  | some wait =>
    have either : wait = .items r ∨ ∃ gate, wait = .gate gate := by
      unfold Receiver.wait? at waits
      split at waits
      · exact .inl (Option.some.inj waits).symm
      · next p _ => exact .inr (by cases p <;> exact ⟨_, (Option.some.inj waits).symm⟩)
      · cases waits
      · cases waits
    rcases either with rfl | ⟨gate, rfl⟩
    · simp [ready, World.ready, receiver]
    · cases gate <;> simp [ready, World.ready, World.isOpen, gates]

/-- What a step of a receiver makes of it, and what is handed over in it. -/
theorem receiver_of_own (h : s.own r m = some o) :
    ((s.move m).world.receiver r).bare = (s.world.receiver r).bare.next o ∧
      begunIn (beats (eventsBy (.receiver r) (s.doing m))) = (s.world.receiver r).bare.hands o := by
  obtain ⟨-, there⟩ := owner_of_own h
  have at_place := World.receiver_modifyReceiver there
  rcases cases_own h with ⟨item, rfl, rfl⟩ | ⟨rfl, rfl⟩ | ⟨rfl, ready, rfl⟩ | ⟨call, rfl⟩
  · refine ⟨?_, rfl⟩
    show ((s.world.deliver r item).receiver r).bare = _
    rw [World.deliver, at_place]
    by_cases closed : (s.world.receiver r).feedClosed = true <;>
      simp [Receiver.bare, Receiver.next, closed]
  · refine ⟨?_, rfl⟩
    show ((s.world.endFeed r).receiver r).bare = _
    rw [World.endFeed, at_place]
    rfl
  · obtain ⟨v, steps, receivers⟩ := steps_of_runnable ready
    have now : (s.move (.act (.receiver r))).world.receiver r = v := by
      simp [World.receiver, receivers, there]
    rw [now]
    exact steps.bare
  · obtain ⟨-, undergoes⟩ := s.follows m there
    have called : (s.stopCall? m == some r) = true := by simp [call]
    rw [called] at undergoes
    obtain ⟨becomes, silent⟩ := undergoes.of_called
    rw [becomes, silent]
    refine ⟨?_, rfl⟩
    by_cases joinable : (s.world.receiver r).joinable = true <;>
      simp [Receiver.bare, Receiver.next, Receiver.claimed, joinable]

end Moves

/-! ## A history -/

/-- A receiver that is not there has made no steps. -/
theorem owns_of_absent {s : System} {r : Nat} (h : List Move)
    (absent : (s.after h).world.receivers.length ≤ r) : s.owns r h = [] := by
  induction h using List.reverseRecOn with
  | nil => rfl
  | append_singleton h m ih =>
    rw [after_concat] at absent
    have before := Nat.le_trans ((s.after h).length_receivers_move m) absent
    rw [owns_concat, ih before, own_of_absent m before]
    rfl

/-- What has become of a receiver in the course of a history, and what has been handed over, is what
its own steps make of a new one. -/
theorem led_after {s : System} (empty : s.world.receivers = []) {r : Nat} (h : List Move)
    (there : r < (s.after h).world.receivers.length) {mode : AckMode} {kind : HandlerKind}
    (hmode : ((s.after h).world.receiver r).mode = mode)
    (hkind : ((s.after h).world.receiver r).kind = kind) :
    ((s.after h).world.receiver r).bare = (Receiver.fresh mode kind).led (s.owns r h) ∧
      begunIn (beats (eventsBy (.receiver r) (s.deeds h))) =
        (Receiver.fresh mode kind).handed (s.owns r h) := by
  induction h using List.reverseRecOn with
  | nil => simp [empty] at there
  | append_singleton h m ih =>
    rw [after_concat] at there hmode hkind ⊢
    rw [owns_concat, eventsBy_deeds_concat, beats_append, begunIn_append]
    by_cases before : r < (s.after h).world.receivers.length
    · obtain ⟨-, -, sameMode, sameKind⟩ := ((s.after h).follows m before).2.frame
      obtain ⟨led, handed⟩ := ih before (sameMode ▸ hmode) (sameKind ▸ hkind)
      cases own : (s.after h).own r m with
      | none =>
        rw [receiver_of_foreign before own, begun_of_foreign before own, Option.toList_none,
          List.append_nil, List.append_nil]
        exact ⟨led, handed⟩
      | some o =>
        obtain ⟨becomes, hands⟩ := receiver_of_own own
        rw [Option.toList_some, Receiver.led_concat, Receiver.handed_concat, becomes, hands,
          handed, led]
        exact ⟨rfl, rfl⟩
    · have absent := Nat.le_of_not_lt before
      obtain ⟨silent, -, opened⟩ := (s.after h).appears m absent
      obtain ⟨n, t, g, tag, -, -, -, -, is⟩ := opened _ (World.getElem?_receivers there)
      rw [is] at hmode hkind ⊢
      rw [owns_of_absent h absent, (absent_after h absent).1, silent,
        own_of_absent m absent, Receiver.bare_opened, ← hmode, ← hkind]
      exact ⟨rfl, rfl⟩

end System

/-! ## Cancellations -/

/-- A settlement cancels nothing. -/
theorem AckMode.method_settlement {mode : AckMode} {d : Delivery} {result : HandlerResult}
    {c : Call} (h : mode.settlement d result = some c) : c.method ≠ .basicCancel := by
  cases mode with
  | auto => cases h
  | manual requeue => cases result <;> cases h <;> simp [Call.method]

/-- A job that has asked for a cancellation is stopping a receiver, or does nothing else. -/
theorem Task.of_cancels {t : Task} (h : t.method? = some .basicCancel) :
    (∃ r p, t.stopping? = some (r, .cancelling p)) ∨ ∃ tag p, t = .cancelling tag p := by
  have teardown : ∀ {s : Teardown}, s.method? = some .basicCancel →
      ∃ r p, s.stopping? = some (r, .cancelling p) := by
    intro s hs
    cases s with
    | stopping r closer st =>
      cases st with
      | cancelling p => exact ⟨r, p, rfl⟩
      | joining => cases hs
    | closing l result st => cases st <;> cases hs
    | _ => cases hs
  have app : ∀ {s : App}, s.method? = some .basicCancel →
      ∃ r p, s.stopping? = some (r, .cancelling p) := by
    intro s hs
    cases s with
    | running s => exact teardown hs
    | opening st => cases st <;> cases hs
    | subscribing l st => cases st <;> cases hs
    | starting l sub st => cases st <;> cases hs
    | abandoning l f st => cases st <;> cases hs
  cases t with
  | stopping r st =>
    cases st with
    | cancelling p => exact .inl ⟨r, p, rfl⟩
    | joining => cases h
  | cancelling tag p => exact .inr ⟨tag, p, rfl⟩
  | teardown s => exact .inl (teardown h)
  | app a s => exact .inl (app h)
  | program s =>
    cases s with
    | running a listener s => exact .inl (app h)
    | joining listener result => cases h
  | opening st => cases st <;> cases h
  | closing l st => cases st <;> cases h
  | subscribing x pattern st => cases st <;> cases h
  | starting g st => cases st <;> cases h
  | _ => cases h

/-- A job that has been asked for to cancel a registration, and does nothing else. -/
def Task.Cancels : Task → Prop
  | cancelling _ _ => True
  | _ => False

section Turns

variable (w : World)

/-- No other job becomes one, and that one is over when it has heard the answer. -/
theorem not_cancels_taskResume (t : Task) : (t.resume w).2.All fun t' => ¬ t'.Cancels := by
  cases t with
  | cancelling tag p => exact all_of_resolve w (fun _ _ => ⟨_, rfl⟩) fun _ _ => ⟨_, rfl⟩
  | opening s => exact all_andThen (all_true _) (fun _ _ => id) fun _ _ => trivial
  | program s =>
    cases s with
    | running a listener s => exact all_andThen (all_true _) (fun _ _ => id) fun _ _ => id
    | joining listener result => exact id
  | _ => exact all_asJob (all_true _) fun _ _ => id

/-- Only the request for it brings one about. -/
theorem not_cancels_begin {q : Request} (other : ∀ tag, q ≠ .cancelConsumer tag) (h : Handles) :
    (q.begin h w).2.All fun t => ¬ t.Cancels := by
  cases q with
  | cancelConsumer tag => exact absurd rfl (other tag)
  | opening name endpoint => exact all_andThen (all_true _) (fun _ _ => id) fun _ _ => trivial
  | close => exact fits_onLink w h fun l => all_asJob (all_true _) fun _ _ => id
  | status => trivial
  | subscribe x pattern => exact fits_onLink w h fun _ => all_asJob (all_true _) fun _ _ => id
  | start queue mode prefetch kind =>
    exact fits_onLink w h fun _ => all_asJob (all_true _) fun _ _ => id
  | stop consumer =>
    exact fits_onConsumer w h consumer fun r => all_asJob (all_true _) fun _ _ => id
  | run consumer given givenClose =>
    cases given with
    | some op =>
      cases givenClose with
      | some op' => exact id
      | none => exact fits_onLink w h fun _ => id
    | none =>
      refine fits_onConsumer w h consumer fun r => ?_
      cases givenClose with
      | some op' => exact id
      | none => exact fits_onLink w h fun _ => id
  | app lookup kind =>
    show (Request.startApp lookup kind w).2.All _
    simp only [Request.startApp]
    split
    · trivial
    · exact all_asJob (all_true _) fun _ _ => id
  | listen => exact id
  | _ => exact fits_onLink w h fun _ => id

/-- The request calls the broker under its tag if it has to wait. -/
theorem cancels_begin (tag : String) (h : Handles) :
    ((Request.cancelConsumer tag).begin h w).2.All fun t =>
      ∀ p, t.pending? = some p → p.call = .basicCancel tag false := by
  refine fits_onLink w h fun l => ?_
  rcases cancellingStart_cases w l tag with hc | hc <;> rw [hc]
  · trivial
  · rintro p ⟨⟩
    rfl

/-- A stop that goes on waits for nothing but the loop's end. -/
theorem joins_stoppingResume (r : Nat) (st : Stopping) :
    (st.resume r w).2.All fun st' => st' = .joining := by
  cases st with
  | cancelling p =>
    have stage := System.stage_of_cancelled p r w
    cases answer : p.reply.answer <;> rw [answer] at stage <;> rw [stage]
    · rfl
    · rfl
    · trivial
  | joining =>
    simp only [Stopping.resume, Stopping.joined]
    split <;> trivial

/-- A stop that has called the broker has done so under the tag of its receiver. -/
theorem cancels_stoppingStart (r : Nat) :
    (Stopping.start r w).2.All fun st => ∀ p, st = .cancelling p →
      p.call = .basicCancel (w.receiver r).tag false := by
  cases joinable : (w.receiver r).joinable with
  | false =>
    rw [stoppingStart_of_not_joinable joinable]
    trivial
  | true =>
    rcases stoppingStart_of_joinable joinable with h | h <;> rw [h]
    · rintro p ⟨⟩
    · rintro p ⟨⟩
      rfl

end Turns

/-- Where the turn of a stop leaves its job, a stop is under way only if it is this one. -/
theorem Site.stopping_turn (r : Nat) (part : Turn Stopping (Except Failure Stats)) (site : Site) :
    (site.turn r part).2.All fun t => ∀ r' st, t.stopping? = some (r', st) →
      r' = r ∧ part.2 = .waiting st := by
  have drained : ∀ closer, (turn.drained r part closer).2.All fun s => ∀ r' st,
      s.stopping? = some (r', st) → r' = r ∧ part.2 = .waiting st := by
    intro closer
    refine all_andThen (all_self part.2) ?_ fun result w =>
      (receiver_stopped w closer result).mono ?_
    · rintro st is r' st' ⟨⟩
      exact ⟨rfl, is⟩
    · intro s gone r' st under
      rw [Teardown.receiver?_of_stopping? under] at gone
      cases gone
  have ended : ∀ closer, (turn.ended r part closer).2.All fun s => ∀ r' st,
      s.stopping? = some (r', st) → r' = r ∧ part.2 = .waiting st := fun closer =>
    all_andThen (drained closer) (fun _ h => h) fun _ _ => trivial
  cases site with
  | asked =>
    refine all_asJob (all_self part.2) ?_
    rintro st is r' st' ⟨⟩
    exact ⟨rfl, is⟩
  | teardown closer => exact all_asJob (drained closer) fun _ h => h
  | app a closer => exact all_asJob (ended closer) fun _ h => h
  | program a listener closer =>
    refine all_andThen (ended closer) (fun _ h => h) fun _ _ => ?_
    rintro r' st ⟨⟩

namespace System

section Cancels

variable {s : System} {m : Move} {n r : Nat} {u : Turn Task Outcome} {t : Task} {p : Pending}

/-- A job that only cancels has just been asked for. -/
theorem Takes.cancels (h : s.Takes m n u) (waits : u.2 = .waiting t) (cancels : t.Cancels)
    (pending : t.pending? = some p) :
    ∃ tag, m = .begin (.cancelConsumer tag) ∧ p.call = .basicCancel tag false := by
  have never : ¬ u.2.All fun t' => ¬ t'.Cancels := fun others => others.of_waiting waits cancels
  cases h with
  | @goesOn _ t₀ job ready =>
    exact absurd (all_turn s (not_cancels_taskResume s.world t₀)) never
  | begins q =>
    by_cases other : ∀ tag, q ≠ .cancelConsumer tag
    · exact absurd (not_cancels_begin s.world other s.handles) never
    · simp only [not_forall, not_not] at other
      obtain ⟨tag, rfl⟩ := other
      exact ⟨tag, rfl, (cancels_begin s.world tag s.handles).of_waiting waits p pending⟩
  | launches env =>
    refine absurd ?_ never
    simp only [launchTurn]
    split
    · trivial
    · exact all_andThen (all_true _) (fun _ _ => id) fun _ _ => id

/-- A job that waits for the cancellation of a receiver after its turn has called the receiver's
stop in it. -/
theorem Takes.stops (h : s.Takes m n u) (waits : u.2 = .waiting t)
    (under : t.stopping? = some (r, .cancelling p)) :
    s.stopCall? m = some r ∧ p.call = .basicCancel (s.world.receiver r).tag false := by
  rcases h.stopping waits under with ⟨t₀, st, job, before⟩ | ⟨call, -⟩
  · -- a stop that has been under way does not call the broker
    exfalso
    obtain ⟨site, rfl⟩ := Site.of_stopping before
    cases h with
    | goesOn job' ready =>
      rw [job, Option.some.injEq, Progress.waiting.injEq] at job'
      subst job'
      rw [turn_eq_resume _ (site.task_ne_joining st), Site.resume_task] at waits
      have still := (site.stopping_turn r (st.resume r s.world)).of_waiting waits r _ under
      cases (joins_stoppingResume s.world r st).of_waiting still.2
    | begins q => simp at job
    | launches env => simp at job
  · obtain ⟨n', site, w, takes, same⟩ := takes_of_stopCall call
    obtain ⟨-, rfl⟩ := h.unique takes
    have still := (site.stopping_turn r (Stopping.start r w)).of_waiting waits r _ under
    refine ⟨call, ((cancels_stoppingStart w r).of_waiting still.2 p rfl).trans ?_⟩
    rcases same with rfl | rfl <;> rfl

end Cancels

/-- Who cancels a registration has been asked to do so, or calls for the stop of its receiver. -/
theorem cancelled_by {s : System} (charged : s.Charged) {m : Move} {a : Actor} {tag : String}
    {nowait : Bool} (h : (a, .called (.basicCancel tag nowait)) ∈ s.doing m) :
    nowait = false ∧ (m = .begin (.cancelConsumer tag) ∨
      ∃ r < s.world.receivers.length, s.stopCall? m = some r ∧ tag = (s.world.receiver r).tag) := by
  cases a with
  | observer i => simp [← mem_eventsBy, doing_observer] at h
  | receiver r =>
    exfalso
    have played : .called (.basicCancel tag nowait) ∈ beats (eventsBy (.receiver r) (s.doing m)) :=
      List.mem_filterMap.mpr ⟨_, mem_eventsBy.mpr h, rfl⟩
    by_cases there : r < s.world.receivers.length
    · obtain ⟨d, result, settlement⟩ := (s.follows m there).2.settlement played
      exact AckMode.method_settlement settlement rfl
    · rw [(s.appears m (Nat.le_of_not_lt there)).1] at played
      simp at played
  | job n =>
    obtain ⟨t, p, job, pending, call, method⟩ := waits_of_called h
    obtain ⟨u, takes⟩ := takes_of_doing h
    have waits : u.2 = .waiting t := Option.some.inj (takes.turned.job.symm.trans job)
    rcases Task.of_cancels method with ⟨r, p', under⟩ | ⟨tag', p', rfl⟩
    · obtain ⟨site, rfl⟩ := Site.of_stopping under
      have same : p' = p := by cases site <;> exact Option.some.inj pending
      subst same
      obtain ⟨stops, called⟩ := takes.stops waits under
      rw [call, Call.basicCancel.injEq] at called
      exact ⟨called.2, .inr ⟨r, charged.stopCall_lt stops, stops, called.1⟩⟩
    · obtain ⟨asked, rfl, called⟩ := takes.cancels waits trivial pending
      rw [call, Call.basicCancel.injEq] at called
      exact ⟨called.2, .inl (by rw [called.1])⟩

/-! ## The receivers of a system -/

/-- The receivers of a system, of which there may be any number, do not disturb each other. -/
structure Isolated (s : System) : Prop where
  /-- A move is a step of one receiver at most. -/
  one : ∀ m r r' o o', s.own r m = some o → s.own r' m = some o' → r = r'
  /-- It leaves every other receiver as it is: whether it has been told to stop, what waits in its
  feed, where its loop is with the delivery in flight, what has been counted, and whether somebody
  has taken charge of its end. -/
  others : ∀ m, ∀ r < s.world.receivers.length, s.own r m = none →
    (s.move m).world.receiver r = s.world.receiver r
  /-- Nor does it let the loop of another receiver go on or hold it up, unless it opens a gate. -/
  paces : ∀ m, ∀ r < s.world.receivers.length, s.own r m = none → (∀ name, m ≠ .openGate name) →
    (s.move m).isRunnable (.receiver r) = s.isRunnable (.receiver r)
  /-- A registration that goes on opens a receiver behind all others when it succeeds. In all other
  cases, so when it fails, the receivers stay as they are. -/
  starts : ∀ n g st, s.jobs[n]? = some (.waiting (.starting g st)) →
    (s.move (.act (.job n))).world.receivers = s.world.receivers ∨
      (s.move (.act (.job n))).jobs[n]? =
          some (.finished (.ok (.consumer s.world.receivers.length))) ∧
        ∃ tag, (s.move (.act (.job n))).world.receivers =
          s.world.receivers ++ [g.opened tag s.world.nextTask]
  /-- A request to shut down changes no receiver, -/
  shutdown : (s.move .shutdown).world.receivers = s.world.receivers
  /-- neither does a listener that makes one. -/
  listens : ∀ n st, s.jobs[n]? = some (.waiting (.listening st)) →
    (s.move (.act (.job n))).world.receivers = s.world.receivers
  /-- Only where the stop of a receiver is called is it told to stop, and its end taken charge
  of. -/
  stops : ∀ m, ∀ r < s.world.receivers.length, s.stopCall? m ≠ some r →
    ((s.move m).world.receiver r).cancelled = (s.world.receiver r).cancelled ∧
      ((s.move m).world.receiver r).joinable = (s.world.receiver r).joinable
  /-- Who cancels a registration names the tag that he has been asked to cancel, or it is a stop,
  and names the tag of its own receiver, -/
  cancels : ∀ m a tag nowait, (a, .called (.basicCancel tag nowait)) ∈ s.doing m →
    nowait = false ∧ (m = .begin (.cancelConsumer tag) ∨
      ∃ r < s.world.receivers.length, s.stopCall? m = some r ∧ tag = (s.world.receiver r).tag)
  /-- which no other receiver has. -/
  apart : ∀ r < s.world.receivers.length, ∀ r' < s.world.receivers.length,
    (s.world.receiver r).tag = (s.world.receiver r').tag → r = r'

/-- What the handlers have been called with in the course of a history, and what has become of the
receivers, follow from the steps of each receiver alone: if in any other history a receiver of the
same mode with the same handler has made the same steps, they are the same, also where that receiver
is the only one. -/
def EachAlone (s : System) (h : List Move) : Prop :=
  ∀ (setup : Setup) (h' : List Move), ∀ r < (s.after h).world.receivers.length,
    ∀ r' < (setup.system.after h').world.receivers.length,
      ((s.after h).world.receiver r).mode = ((setup.system.after h').world.receiver r').mode →
      ((s.after h).world.receiver r).kind = ((setup.system.after h').world.receiver r').kind →
      s.owns r h = setup.system.owns r' h' →
      invocations r (s.after h).world.trace =
          invocations r' (setup.system.after h').world.trace ∧
        ((s.after h).world.receiver r).bare = ((setup.system.after h').world.receiver r').bare

/-- What a registration that goes on makes of the receivers. -/
theorem receivers_of_starting {s : System} {n : Nat} {g : Registration} {st : Starting}
    (job : s.jobs[n]? = some (.waiting (.starting g st))) :
    (s.move (.act (.job n))).world.receivers = s.world.receivers ∨
      (s.move (.act (.job n))).jobs[n]? =
          some (.finished (.ok (.consumer s.world.receivers.length))) ∧
        ∃ tag, (s.move (.act (.job n))).world.receivers =
          s.world.receivers ++ [g.opened tag s.world.nextTask] := by
  by_cases ready : s.ready (Task.starting g st).wait = true
  · have turned := Takes.turned (.goesOn job ready)
    have world : (s.turn (.starting g st)).1.receivers = (st.resume g s.world).1.receivers :=
      keeps_andThen rfl fun _ _ => rfl
    rw [turned.world, turned.job, world]
    rcases receivers_startingResume s.world g st with ⟨same, -⟩ | ⟨tag, -, more, ends⟩
    · exact .inl same
    · refine .inr ⟨?_, tag, more⟩
      show some ((st.resume g s.world).asJob (.starting g) .consumer).2 = _
      generalize st.resume g s.world = part at ends
      obtain ⟨w, p⟩ := part
      cases ends
      rfl
  · have idle : s.isRunnable (.job n) = false := by simp [isRunnable, waitOf, job, ready]
    left
    simp [move, act, idle]

/-- A listener changes no receiver. -/
theorem receivers_of_listening {s : System} {n : Nat} {st : Listening}
    (job : s.jobs[n]? = some (.waiting (.listening st))) :
    (s.move (.act (.job n))).world.receivers = s.world.receivers := by
  have uncalled : s.stopCall? (.act (.job n)) = none := by simp [stopCall?, job, Task.stopCall?]
  rcases receivers_job_move (s := s) (m := .act (.job n)) rfl with
    same | ⟨t, g, tag, -, job', is, -⟩
  · rw [same, uncalled]
    rfl
  · rw [job, Option.some.injEq, Progress.waiting.injEq] at job'
    subst job'
    cases is

/-- In every history each receiver is led by its own steps alone. -/
theorem each_alone (setup : Setup) (h : List Move) : setup.system.EachAlone h := by
  intro setup' h' r there r' there' mode kind owns
  obtain ⟨led, handed⟩ := led_after (s := setup.system) rfl h there mode kind
  obtain ⟨led', handed'⟩ := led_after (s := setup'.system) rfl h' there' rfl rfl
  constructor
  · rw [trace_deeds (s := setup.system) rfl, trace_deeds (s := setup'.system) rfl,
      invocations_deeds (wellNamed_deeds _ h), invocations_deeds (wellNamed_deeds _ h'), handed,
      handed', owns]
  · rw [led, led', owns]

/-- The receivers of every reachable system do not disturb each other, and each is led by its own
steps alone. -/
theorem isolated (setup : Setup) (h : List Move) :
    (setup.system.after h).Isolated ∧ setup.system.EachAlone h := by
  have tagged := tagged_after setup h
  have charged : (setup.system.after h).Charged := charged_after rfl rfl h
  refine ⟨?_, each_alone setup h⟩
  generalize setup.system.after h = s at *
  constructor
  case one => exact fun m r r' o o' own own' => own_unique own own'
  case others => exact fun m r there foreign => receiver_of_foreign there foreign
  case paces =>
    exact fun m r there foreign shut =>
      isRunnable_congr (receiver_of_foreign there foreign) (gates_move shut)
  case starts => exact fun n g st job => receivers_of_starting job
  case shutdown => rfl
  case listens => exact fun n st job => receivers_of_listening job
  case stops =>
    intro m r there uncalled
    have undergoes := (s.follows m there).2
    rw [beq_false_of_ne uncalled] at undergoes
    exact undergoes.of_uncalled
  case cancels => exact fun m a tag nowait called => cancelled_by charged called
  case apart => exact tagged.apart

/-- One of two consumers is stopped and a shutdown is requested while the other one has a delivery
waiting: that one hands it over, and its steps are the same as if it were alone. -/
example :
    let system := Setup.system { connected := true }
    let first : List Move := [.begin (.start "users" .auto none .logging), .act (.job 0)]
    let second : List Move := [.begin (.start "orders" .auto none .cued), .act (.job 1)]
    system.owns 0 (first ++ second ++ [.deliver 0 (.delivery { tag := 7 } {}), .begin (.stop 1),
        .shutdown, .act (.receiver 1), .act (.receiver 0)]) =
      system.owns 0 (first ++ [.deliver 0 (.delivery { tag := 7 } {}), .act (.receiver 0)]) := by
  decide

end System

end TopicWorker
