import TopicWorker.Proofs.Turns
import TopicWorker.Topology.Declaring

/-!
# Declarations

A subscription is three declarations, and none of them is made before the one in front of it has
succeeded. This holds over whatever carries them out, so it is said of a topology that keeps a list
of what it has been asked for and answers like any other. On a broker each declaration is a call,
and a refusal is told by what is at fault: another thing of the same name, or anything else.

The worker declares its subscription turn by turn, and the world may change while it waits. Its
turns are the subscription over the topology of the broker.

## Main definitions

* `Topology.Answers`: declarations one after another, with what is answered to them.
* `Topology.listing`: a topology with a list of what it has been asked for.
* `Topology.Subscribes`: what a subscription has asked for, and what has come of it.
* `Declaring.topology`, `Subscribing.play`: the broker as a topology, and the turns on it.

## Main results

* `Topology.subscribe_subscribes`: the subscription over any topology.
* `exchangeAnswered_answered`, `queueAnswered_answered`, `bindingAnswered_iff`: the answers of the
  broker.
* `subscribe_of_play`: what the worker's turns come to.
* `subscribed_in_order`: all this.
-/

namespace TopicWorker

variable {σ τ : Type}

/-- What is answered to a declaration. A queue comes with its name. -/
abbrev Declared := Except Failure (Option String)

namespace Topology

/-! ## What a topology is asked for -/

/-- The answer to a declaration of any kind, and the state after it. -/
def declare (t : Topology σ) : Declaration → σ → Declared × σ
  | .exchange x, s => ((t.declareExchange x s).1.map fun () => none, (t.declareExchange x s).2)
  | .queue q, s => ((t.declareQueue q s).1.map some, (t.declareQueue q s).2)
  | .binding b, s => ((t.bind b s).1.map fun () => none, (t.bind b s).2)

/-- Some declarations are made one after another, lead from one state to another one, and are
answered like this. -/
inductive Answers (t : Topology σ) : σ → List (Declaration × Declared) → σ → Prop where
  | nil (s : σ) : Answers t s [] s
  | cons {d : Declaration} {a : Declared} {s s₁ s' : σ} {l : List (Declaration × Declared)}
    (answer : t.declare d s = (a, s₁)) (rest : Answers t s₁ l s') : Answers t s ((d, a) :: l) s'

/-- The topology that beside its state keeps a list of what it has been asked for, and of what it
has answered. -/
def listing (t : Topology σ) : Topology (σ × List (Declaration × Declared)) where
  declareExchange x s :=
    ((t.declareExchange x s.1).1, (t.declareExchange x s.1).2,
      s.2 ++ [(.exchange x, (t.declare (.exchange x) s.1).1)])
  declareQueue q s :=
    ((t.declareQueue q s.1).1, (t.declareQueue q s.1).2,
      s.2 ++ [(.queue q, (t.declare (.queue q) s.1).1)])
  bind b s :=
    ((t.bind b s.1).1, (t.bind b s.1).2, s.2 ++ [(.binding b, (t.declare (.binding b) s.1).1)])

/-- The declarations of a subscription, given the name of its queue. -/
def plan (x : Exchange) (pattern queue : String) : List Declaration :=
  [.exchange x, .queue .anonymous,
    .binding { queue, exchange := x.name, routingKey := pattern }]

/-- What a subscription has asked for, with the answers, and what has come of it. -/
structure Subscribes (t : Topology σ) (x : Exchange) (pattern : String) (s : σ)
    (l : List (Declaration × Declared)) (result : Except Failure Subscription) (s' : σ) :
    Prop where
  /-- The answers are those of the topology, and its state is the one after the last of them. -/
  answers : t.Answers s l s'
  /-- The declarations are made in order, and the queue that is bound has the name that has been
  answered. -/
  inOrder : ∃ queue, l.map (·.1) <+: plan x pattern queue ∧
    ∀ q name, (.queue q, .ok name) ∈ l → name = some queue
  /-- Nothing comes after a declaration that has failed. -/
  last : ∀ before d f rest, l = before ++ (d, .error f) :: rest → rest = []
  /-- A failure is the one of the last declaration, as it is. -/
  failed_iff : ∀ f, result = .error f ↔ ∃ before d, l = before ++ [(d, .error f)]
  /-- All is well when all three have succeeded. -/
  ok_iff : (∃ sub, result = .ok sub) ↔ l.length = 3 ∧ ∀ p ∈ l, ∃ name, p.2 = .ok name
  /-- The subscription names the exchange, the queue and the pattern that have been bound. -/
  bound : ∀ sub, result = .ok sub → sub.exchange = x.name ∧ sub.pattern = pattern ∧
    (.queue .anonymous, .ok (some sub.queue)) ∈ l ∧
    l.getLast? = some (.binding { queue := sub.queue, exchange := x.name, routingKey := pattern },
      .ok none)

/-- A declaration that has been granted. -/
def granted (p : Declaration × Option String) : Declaration × Declared := (p.1, .ok p.2)

/-- Three declarations in a row, up to the first that fails: some have been granted, and either one
more has failed, or they are all. -/
inductive Goes {α : Type} : List (Declaration × Declared) → Except Failure α → Prop where
  | failed (before : List (Declaration × Option String)) (d : Declaration) (f : Failure)
    (short : before.length < 3) : Goes (before.map granted ++ [(d, .error f)]) (.error f)
  | succeeded (before : List (Declaration × Option String)) (a : α) (all : before.length = 3) :
    Goes (before.map granted) (.ok a)

section Rows

variable {α : Type} {l : List (Declaration × Declared)} {result : Except Failure α}

/-- No declaration that has been granted has failed. -/
theorem not_mem_granted (before : List (Declaration × Option String)) (d : Declaration)
    (f : Failure) : (d, .error f) ∉ before.map granted := by
  intro h
  obtain ⟨p, -, same⟩ := List.mem_map.mp h
  cases same

/-- In a row there is nothing after a failure, which is the result. -/
theorem Goes.last (h : Goes l result) {before rest : List (Declaration × Declared)}
    {d : Declaration} {f : Failure} (split : l = before ++ (d, .error f) :: rest) :
    rest = [] ∧ result = .error f := by
  have failed : (d, .error f) ∈ l := by simp [split]
  cases h with
  | succeeded oks a all => exact absurd failed (not_mem_granted oks d f)
  | failed oks d' f' short =>
    rcases List.eq_nil_or_concat rest with rfl | ⟨rest, p, rfl⟩
    · have ends := List.append_inj_right' split rfl
      cases ends
      exact ⟨rfl, rfl⟩
    · have tail : oks.map granted = before ++ (d, .error f) :: rest := by
        rw [List.concat_eq_append, ← List.cons_append, ← List.append_assoc] at split
        exact List.append_inj_left' split rfl
      exact absurd (by simp [tail]) (not_mem_granted oks d f)

/-- The result is a failure when the last declaration has failed with it. -/
theorem Goes.failed_iff (h : Goes l result) (f : Failure) :
    result = .error f ↔ ∃ before d, l = before ++ [(d, .error f)] := by
  constructor
  · rintro rfl
    cases h with
    | failed before d f short => exact ⟨_, _, rfl⟩
  · rintro ⟨before, d, split⟩
    exact (h.last split).2

/-- All is well when three declarations have been granted. -/
theorem Goes.ok_iff (h : Goes l result) :
    (∃ a, result = .ok a) ↔ l.length = 3 ∧ ∀ p ∈ l, ∃ name, p.2 = .ok name := by
  cases h with
  | failed before d f short =>
    constructor
    · rintro ⟨a, same⟩
      cases same
    · rintro ⟨-, well⟩
      obtain ⟨name, same⟩ := well (d, .error f) (by simp)
      cases same
  | succeeded before a all =>
    refine ⟨fun _ => ⟨by simpa using all, fun p hp => ?_⟩, fun _ => ⟨a, rfl⟩⟩
    obtain ⟨q, -, rfl⟩ := List.mem_map.mp hp
    exact ⟨q.2, rfl⟩

end Rows

section Subscribe

variable (t : Topology σ) (x : Exchange) (pattern : String) (s : σ)

/-- Beside what it lists, a subscription comes to the same. -/
theorem subscribe_listing (l : List (Declaration × Declared)) :
    (t.listing.subscribe x pattern (s, l)).1 = (t.subscribe x pattern s).1 ∧
      (t.listing.subscribe x pattern (s, l)).2.1 = (t.subscribe x pattern s).2 := by
  simp only [subscribe, listing]
  rcases t.declareExchange x s with ⟨f | ⟨⟩, s₁⟩
  · exact ⟨rfl, rfl⟩
  dsimp only
  rcases t.declareQueue .anonymous s₁ with ⟨f | queue, s₂⟩
  · exact ⟨rfl, rfl⟩
  dsimp only
  rcases t.bind (Subscription.binding ⟨x.name, queue, pattern⟩) s₂ with ⟨f | ⟨⟩, s₃⟩ <;>
    exact ⟨rfl, rfl⟩

/-- A subscription asks for its three declarations in a row, and lists the answers that it gets. -/
theorem subscribe_subscribes : t.Subscribes x pattern s
    (t.listing.subscribe x pattern (s, [])).2.2 (t.listing.subscribe x pattern (s, [])).1
    (t.listing.subscribe x pattern (s, [])).2.1 := by
  have row : ∀ {l : List (Declaration × Declared)} {result : Except Failure Subscription} {s' : σ},
      Goes l result → t.Answers s l s' →
      (∃ queue, l.map (·.1) <+: plan x pattern queue ∧
        (∀ q name, (.queue q, .ok name) ∈ l → name = some queue) ∧
        ∀ sub, result = .ok sub → sub = ⟨x.name, queue, pattern⟩ ∧
          l = (plan x pattern queue).zip [.ok none, .ok (some queue), .ok none]) →
      t.Subscribes x pattern s l result s' := by
    rintro l result s' goes answers ⟨queue, inOrder, named, whole⟩
    refine ⟨answers, ⟨queue, inOrder, named⟩, fun before d f rest split => (goes.last split).1,
      goes.failed_iff, goes.ok_iff, ?_⟩
    rintro sub same
    obtain ⟨rfl, rfl⟩ := whole sub same
    exact ⟨rfl, rfl, by simp [plan], rfl⟩
  rcases hx : t.declareExchange x s with ⟨f | ⟨⟩, s₁⟩
  · have refused : t.declare (.exchange x) s = (.error f, s₁) := by simp [declare, hx, Except.map]
    have run : t.listing.subscribe x pattern (s, []) =
        (.error f, s₁, [(.exchange x, .error f)]) := by simp [subscribe, listing, hx, refused]
    rw [run]
    exact row (.failed [] _ f (by simp)) (.cons refused (.nil s₁))
      ⟨"", by simp [plan], by simp, fun sub same => by cases same⟩
  have declared : t.declare (.exchange x) s = (.ok none, s₁) := by simp [declare, hx, Except.map]
  rcases hq : t.declareQueue .anonymous s₁ with ⟨f | queue, s₂⟩
  · have refused : t.declare (.queue .anonymous) s₁ = (.error f, s₂) := by
      simp [declare, hq, Except.map]
    have run : t.listing.subscribe x pattern (s, []) =
        (.error f, s₂, [(.exchange x, .ok none), (.queue .anonymous, .error f)]) := by
      simp [subscribe, listing, hx, declared, hq, refused]
    rw [run]
    exact row (.failed [(.exchange x, none)] _ f (by simp))
      (.cons declared (.cons refused (.nil s₂)))
      ⟨"", by simp [plan], by simp, fun sub same => by cases same⟩
  have named : t.declare (.queue .anonymous) s₁ = (.ok (some queue), s₂) := by
    simp [declare, hq, Except.map]
  rcases hb : t.bind ⟨queue, x.name, pattern⟩ s₂ with ⟨f | ⟨⟩, s₃⟩
  · have refused : t.declare (.binding ⟨queue, x.name, pattern⟩) s₂ = (.error f, s₃) := by
      simp [declare, hb, Except.map]
    have run : t.listing.subscribe x pattern (s, []) = (.error f, s₃,
        [(.exchange x, .ok none), (.queue .anonymous, .ok (some queue)),
          (.binding ⟨queue, x.name, pattern⟩, .error f)]) := by
      simp [subscribe, listing, Subscription.binding, hx, declared, hq, named, hb, refused]
    rw [run]
    exact row (.failed [(.exchange x, none), (.queue .anonymous, some queue)] _ f (by simp))
      (.cons declared (.cons named (.cons refused (.nil s₃))))
      ⟨queue, by simp [plan], by simp, fun sub same => by cases same⟩
  · have bound : t.declare (.binding ⟨queue, x.name, pattern⟩) s₂ = (.ok none, s₃) := by
      simp [declare, hb, Except.map]
    have run : t.listing.subscribe x pattern (s, []) = (.ok ⟨x.name, queue, pattern⟩, s₃,
        [(.exchange x, .ok none), (.queue .anonymous, .ok (some queue)),
          (.binding ⟨queue, x.name, pattern⟩, .ok none)]) := by
      simp [subscribe, listing, Subscription.binding, hx, declared, hq, named, hb, bound]
    rw [run]
    refine row (.succeeded [(.exchange x, none), (.queue .anonymous, some queue),
      (.binding ⟨queue, x.name, pattern⟩, none)] _ rfl)
      (.cons declared (.cons named (.cons bound (.nil s₃))))
      ⟨queue, by simp [plan], by simp, ?_⟩
    rintro sub ⟨⟩
    exact ⟨rfl, rfl⟩

end Subscribe

end Topology

/-! ## The answers of the broker -/

/-- The broker has refused a declaration because something of the same name is declared in another
way. The channel is closed with this reply code. -/
def Fault.Conflicts (fault : Fault) : Prop :=
  ∃ code text, fault = .protocol code text ∧ code.isSoft = true ∧ code.number = 406

theorem Fault.conflicts_iff (fault : Fault) :
    fault.Conflicts ↔ fault.isPreconditionFailed = true := by
  cases fault with
  | protocol code text =>
    constructor
    · rintro ⟨code, text, ⟨⟩, -, number⟩
      cases code <;> first | rfl | cases number
    · intro h
      cases code <;> first | exact ⟨_, _, rfl, rfl, rfl⟩ | cases h
  | _ =>
    constructor
    · rintro ⟨code, text, ⟨⟩, -⟩
    · rintro ⟨⟩

namespace Declaring

/-- How a declaration under a name has been answered, for what the broker has answered to its call:
a conflict is told apart from every other refusal. -/
structure Answered {α : Type} (name : String) (other : String → Failure) (a : Answer)
    (r : Progress σ (Except Failure α)) : Prop where
  mismatch_iff : ∀ n, r = .finished (.error (.topologyMismatch n)) ↔
    n = name ∧ ∃ fault, a = .refused fault ∧ fault.Conflicts
  other_iff : ∀ n, r = .finished (.error (other n)) ↔
    n = name ∧ ∃ fault, a = .refused fault ∧ ¬ fault.Conflicts
  /-- There is no other failure. -/
  failure : ∀ f, r = .finished (.error f) → f = .topologyMismatch name ∨ f = other name
  granted_iff : (∃ v, r = .finished (.ok v)) ↔ ∃ given, a = .done given

/-- What comes of a declaration that is answered by a rule like this. -/
theorem answered_of_result {α : Type} {name : String} {other : String → Failure} {a : Answer}
    {r : Progress σ (Except Failure α)} (apart : ∀ n m, other n ≠ .topologyMismatch m)
    (inj : ∀ n m, other n = other m → n = m)
    (done : ∀ given, a = .done given → ∃ v, r = .finished (.ok v))
    (refused : ∀ fault, a = .refused fault → r = .finished (.error
      (if fault.isPreconditionFailed then .topologyMismatch name else other name)))
    (crashed : ∀ payload, a = .crashed payload → r = .crashed payload) :
    Answered name other a r := by
  cases a with
  | done given =>
    obtain ⟨v, rfl⟩ := done given rfl
    constructor <;> simp
  | crashed payload =>
    obtain rfl := crashed payload rfl
    constructor <;> simp
  | refused fault =>
    obtain rfl := refused fault rfl
    have conflict := fault.conflicts_iff
    cases h : fault.isPreconditionFailed with
    | true =>
      rw [h] at conflict
      constructor
      · simp [conflict, eq_comm]
      · intro n
        simp [conflict, (apart n name).symm]
      · simp
      · simp
    | false =>
      rw [h] at conflict
      constructor
      · intro n
        simp [conflict, apart name n]
      · intro n
        have same : other name = other n ↔ n = name :=
          ⟨fun h => (inj _ _ h).symm, fun h => by rw [h]⟩
        simp [conflict, same]
      · simp
      · simp

variable (w : World) (p : Pending)

theorem exchangeAnswered_answered (x : Exchange) : Answered (σ := σ) x.name .exchangeDeclaration
    p.reply.answer (exchangeAnswered x p w).2 := by
  refine answered_of_result (by simp) (by simp) (fun given h => ?_) (fun fault h => ?_)
    fun payload h => ?_
  · exact ⟨(), by rw [exchangeAnswered, resolve_done h]⟩
  · rw [exchangeAnswered, resolve_refused h]
  · rw [exchangeAnswered, resolve_crashed h]

theorem queueAnswered_answered (q : Queue) : Answered (σ := σ) q.name .queueDeclaration
    p.reply.answer (queueAnswered q p w).2 := by
  refine answered_of_result (by simp) (by simp) (fun given h => ?_) (fun fault h => ?_)
    fun payload h => ?_
  · exact ⟨assignedName q.name given, by rw [queueAnswered, resolve_done h]⟩
  · rw [queueAnswered, resolve_refused h]
  · rw [queueAnswered, resolve_crashed h]

/-- A binding fails in one way only. -/
theorem bindingAnswered_iff (b : Binding) (f : Failure) :
    (bindingAnswered (σ := σ) b p w).2 = .finished (.error f) ↔
      f = .binding b.exchange b.queue ∧ ∃ fault, p.reply.answer = .refused fault := by
  simp only [bindingAnswered]
  cases h : p.reply.answer with
  | done given => simp [resolve_done h]
  | refused fault => simp [resolve_refused h, eq_comm]
  | crashed payload => simp [resolve_crashed h]

/-! ## The broker as a topology -/

/-- Takes the answer to a declaration that has been asked for, after something has happened to the
world. A client that breaks down gives no answer at all. -/
def taken {α : Type} (asked : World × Pending)
    (answered : Pending → World → Turn Empty (Except Failure α))
    (meanwhile : List (World → World)) : Except Failure α × World × List (World → World) :=
  match answered asked.2 (meanwhile.headD id asked.1) with
  | (w, .finished result) => (result, w, meanwhile.tail)
  | (w, .crashed _) => (.error .internal, w, meanwhile.tail)

/-- The topology of a broker. Beside the world, its state is what happens to the world while one
answer after another is awaited. -/
def topology : Topology (World × List (World → World)) where
  declareExchange x s := taken (exchange x s.1) (exchangeAnswered x) s.2
  declareQueue q s := taken (queue q s.1) (queueAnswered q) s.2
  bind b s := taken (binding b s.1) (bindingAnswered b) s.2

end Declaring

namespace Subscribing

/-- The turns of a subscription, with what happens to the world before each of them. -/
def play (x : Exchange) (pattern : String) :
    List (World → World) → Turn Subscribing (Except Failure Subscription) →
      Turn Subscribing (Except Failure Subscription)
  | meanwhile :: more, (w, .waiting s) => play x pattern more (s.resume x pattern (meanwhile w))
  | _, t => t

/-- The turns of a subscription come to what the subscription over the broker comes to, unless the
client breaks down. One that stands is told of. -/
theorem subscribe_of_play (x : Exchange) (pattern : String) (f g h : World → World) (w : World) :
    (∃ payload, (play x pattern [f, g, h] (start x w)).2 = .crashed payload) ∨
      play x pattern [f, g, h] (start x w) =
        match Declaring.topology.subscribe x pattern (w, [f, g, h]) with
        | (.ok sub, v, _) => (v.log sub.entry, .finished (.ok sub))
        | (.error failure, v, _) => (v, .finished (.error failure)) := by
  simp only [start, play, resume, Topology.subscribe, Declaring.topology, Declaring.taken,
    Declaring.exchangeAnswered, List.headD_cons, List.tail_cons]
  cases hx : (Declaring.exchange x w).2.reply.answer with
  | crashed payload =>
    simp only [resolve_crashed hx, Turn.andThen, play]
    exact .inl ⟨payload, rfl⟩
  | refused fault =>
    simp only [resolve_refused hx, Turn.andThen, play]
    exact .inr trivial
  | done name =>
    simp only [resolve_done hx, Turn.andThen, play, resume, Declaring.queueAnswered,
      List.headD_cons, List.tail_cons]
    generalize World.log (World.emit _ _) _ = v
    cases hq : (Declaring.queue .anonymous v).2.reply.answer with
    | crashed payload =>
      simp only [resolve_crashed hq, play]
      exact .inl ⟨payload, rfl⟩
    | refused fault =>
      simp only [resolve_refused hq, play]
      exact .inr trivial
    | done given =>
      simp only [resolve_done hq, Turn.andThen, play, resume, Declaring.bindingAnswered,
        List.headD_cons]
      generalize World.log (World.emit _ _) _ = u
      generalize (⟨x.name, assignedName Queue.anonymous.name given, pattern⟩ : Subscription) = sub
      cases hb : (Declaring.binding sub.binding u).2.reply.answer with
      | crashed payload =>
        simp only [resolve_crashed hb]
        exact .inl ⟨payload, rfl⟩
      | refused fault =>
        simp only [resolve_refused hb]
        exact .inr trivial
      | done name' =>
        simp only [resolve_done hb]
        exact .inr trivial

end Subscribing

/-- Over any topology a subscription asks for its three declarations in order, up to the first that
fails, and comes to the failure or to what has been bound. On a broker a declaration fails with a
conflict when the broker has answered that there is one, and is told apart from it otherwise. What
the worker does turn by turn is the subscription over the broker. -/
theorem subscribed_in_order :
    (∀ (σ : Type) (t : Topology σ) (x : Exchange) (pattern : String) (s : σ),
      ∃ l, (t.listing.subscribe x pattern (s, [])).2.2 = l ∧
        t.Subscribes x pattern s l (t.subscribe x pattern s).1 (t.subscribe x pattern s).2) ∧
    (∀ (x : Exchange) (q : Queue) (b : Binding) (p : Pending) (w : World),
      Declaring.Answered (σ := Empty) x.name .exchangeDeclaration p.reply.answer
          (Declaring.exchangeAnswered x p w).2 ∧
        Declaring.Answered (σ := Empty) q.name .queueDeclaration p.reply.answer
          (Declaring.queueAnswered q p w).2 ∧
        ∀ f, (Declaring.bindingAnswered (σ := Empty) b p w).2 = .finished (.error f) ↔
          f = .binding b.exchange b.queue ∧ ∃ fault, p.reply.answer = .refused fault) ∧
    ∀ (x : Exchange) (pattern : String) (f g h : World → World) (w : World),
      (∃ payload, (Subscribing.play x pattern [f, g, h] (Subscribing.start x w)).2 =
          .crashed payload) ∨
        Subscribing.play x pattern [f, g, h] (Subscribing.start x w) =
          match Declaring.topology.subscribe x pattern (w, [f, g, h]) with
          | (.ok sub, v, _) => (v.log sub.entry, .finished (.ok sub))
          | (.error failure, v, _) => (v, .finished (.error failure)) := by
  refine ⟨fun σ t x pattern s => ⟨_, rfl, ?_⟩, fun x q b p w => ⟨?_, ?_, ?_⟩, ?_⟩
  · have same := t.subscribe_listing x pattern s []
    rw [← same.1, ← same.2]
    exact t.subscribe_subscribes x pattern s
  · exact Declaring.exchangeAnswered_answered w p x
  · exact Declaring.queueAnswered_answered w p q
  · exact Declaring.bindingAnswered_iff w p b
  · exact Subscribing.subscribe_of_play

end TopicWorker
