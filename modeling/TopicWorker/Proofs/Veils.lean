import TopicWorker.Proofs.Turns

/-!
# Through a veil

There are things in a world that operations carry along and never look at. The password goes into
the call that connects, and nowhere else. Whether a shutdown is requested is asked by those who wait
for it, and by nobody who acts. A veil puts something else in the place of the two. An operation
that begins behind a veil does what it does in the open, and what comes of it is the same, behind
the veil.

## Main definitions

* `Veil`: what is put in the place of a password, and in that of a request.
* `Veil.world`, `Veil.turn`: a world and a turn behind a veil.

## Main results

* `Veil.appResume_world`, `Veil.runReceiver_world`: an application and a receive loop do the same
  behind every veil.
-/

namespace TopicWorker

variable {σ τ ρ ρ' : Type}

/-- What is put in the place of a password, and in that of whether a shutdown is requested. -/
structure Veil where
  password : String → String := id
  request : Bool → Bool := id

/-- A progress with its stage replaced. -/
def Progress.mapStage (f : σ → τ) : Progress σ ρ → Progress τ ρ
  | .waiting s => .waiting (f s)
  | .finished r => .finished r
  | .crashed payload => .crashed payload

namespace Veil

variable (V : Veil)

/-! ## What is behind a veil

Wherever a call may stand it is behind the veil, also where the calls that stand there never
connect. So nothing has to be known of a world before a veil is put over it. -/

def endpoint (e : Endpoint) : Endpoint := { e with password := V.password e.password }

def config (c : Config) : Config := { c with endpoint := V.endpoint c.endpoint }

def setup (a : AppSetup) : AppSetup := { a with config := V.config a.config }

/-- Of all calls the one that connects has the credentials. -/
def call : Call → Call
  | .connect e name => .connect (V.endpoint e) name
  | c => c

def pending (p : Pending) : Pending := { p with call := V.call p.call }

def event : Event → Event
  | .called c => .called (V.call c)
  | .answered c a => .answered (V.call c) a
  | e => e

def processing : Processing → Processing
  | .handling d span cue => .handling d span cue
  | .settling d span failure p => .settling d span failure (V.pending p)

def loop : Loop → Loop
  | .processing p => .processing (V.processing p)
  | l => l

def receiver (v : Receiver) : Receiver := { v with loop := V.loop v.loop }

def world (w : World) : World :=
  { w with
    trace := w.trace.map V.event
    receivers := w.receivers.map V.receiver
    shutdownRequested := V.request w.shutdownRequested }

def opening : Opening → Opening
  | .connecting p => .connecting (V.pending p)
  | .openingChannel l p => .openingChannel l (V.pending p)

def closing : Closing → Closing
  | .channel p => .channel (V.pending p)
  | .connection failure p => .connection failure (V.pending p)

def subscribing : Subscribing → Subscribing
  | .exchange p => .exchange (V.pending p)
  | .queue p => .queue (V.pending p)
  | .binding s p => .binding s (V.pending p)

def starting : Starting → Starting
  | .bounding p => .bounding (V.pending p)
  | .registering tag p => .registering tag (V.pending p)

def stopping : Stopping → Stopping
  | .cancelling p => .cancelling (V.pending p)
  | .joining => .joining

def teardown : Teardown → Teardown
  | .stopping r closer s => .stopping r closer (V.stopping s)
  | .closing l stopped s => .closing l stopped (V.closing s)
  | b => b

def app : App → App
  | .opening s => .opening (V.opening s)
  | .subscribing l s => .subscribing l (V.subscribing s)
  | .starting l sub s => .starting l sub (V.starting s)
  | .running s => .running (V.teardown s)
  | .abandoning l f s => .abandoning l f (V.closing s)

/-- A turn behind a veil, by what becomes of its stages. -/
def turn (f : σ → σ) (t : Turn σ ρ) : Turn σ ρ := (V.world t.1, t.2.mapStage f)

/-! ## Worlds -/

section Worlds

variable (w : World)

@[simp] theorem spans_world : (V.world w).spans = w.spans := rfl

@[simp] theorem version_world : (V.world w).version = w.version := by
  have stage : Event.stage? ∘ V.event = Event.stage? := by
    funext e
    cases e <;> rfl
  show ((w.trace.map V.event).filterMap Event.stage?).length = _
  rw [List.filterMap_map, stage]
  rfl

@[simp] theorem isBehind_world : (V.world w).isBehind = w.isBehind := by
  funext i
  rw [World.isBehind, version_world]
  rfl

theorem observe_world (i : Nat) : (V.world w).observe i = V.world (w.observe i) := by
  rw [World.observe, version_world]
  rfl

theorem subscribe_world : (V.world w).subscribe = V.world w.subscribe := by
  rw [World.subscribe, version_world]
  rfl

@[simp] theorem link_world (l : Nat) : (V.world w).link l = w.link l := rfl

@[simp] theorem receiver_world (r : Nat) : (V.world w).receiver r = V.receiver (w.receiver r) := by
  simp only [World.receiver, world, List.getElem?_map]
  cases w.receivers[r]? <;> rfl

@[simp] theorem emit_world (e : Event) : (V.world w).emit (V.event e) = V.world (w.emit e) := by
  simp [world, World.emit]

@[simp] theorem log_world (e : LogEntry) : (V.world w).log e = V.world (w.log e) :=
  V.emit_world w (.logged e)

/-- Of all events only those about calls are behind it. -/
@[simp] theorem emit_plain {e : Event} (called : ∀ c, e ≠ .called c)
    (answered : ∀ c a, e ≠ .answered c a) : (V.world w).emit e = V.world (w.emit e) := by
  have plain : V.event e = e := by
    cases e with
    | called c => exact absurd rfl (called c)
    | answered c a => exact absurd rfl (answered c a)
    | _ => rfl
  conv_lhs => rw [← plain]
  exact V.emit_world w e

/-- Something is done to a receiver. -/
theorem modifyReceiver_world {f g : Receiver → Receiver}
    (h : ∀ v, g (V.receiver v) = V.receiver (f v)) (r : Nat) :
    (V.world w).modifyReceiver r g = V.world (w.modifyReceiver r f) := by
  have hmodify : (w.receivers.map V.receiver).modify r g =
      (w.receivers.modify r f).map V.receiver := by
    refine List.ext_getElem? fun i => ?_
    simp only [List.getElem?_modify, List.getElem?_map]
    cases w.receivers[i]? with
    | none => rfl
    | some v => split <;> simp [h]
  simp [World.modifyReceiver, world, hmodify]

/-- Something that does not concern its loop is done to a receiver. -/
theorem modifyReceiver_apart {f : Receiver → Receiver}
    (h : ∀ v, f (V.receiver v) = V.receiver (f v)) (r : Nat) :
    (V.world w).modifyReceiver r f = V.world (w.modifyReceiver r f) :=
  V.modifyReceiver_world w h r

theorem method_call (c : Call) : (V.call c).method = c.method := by cases c <;> rfl

theorem call_world (c : Call) :
    (V.world w).call (V.call c) = (V.world (w.call c).1, V.pending (w.call c).2) := by
  simp [World.call, World.emit, world, event, pending, V.method_call]

end Worlds

section Turns

variable (w : World)

/-! ## Turns -/

/-- A turn that ends with a call. -/
theorem turn_call (c : Call) (stage : Pending → σ) {f : σ → σ}
    (hf : ∀ p, stage (V.pending p) = f (stage p)) :
    ((((V.world w).call (V.call c)).1, .waiting (stage ((V.world w).call (V.call c)).2)) :
      Turn σ ρ) = V.turn f ((w.call c).1, .waiting (stage (w.call c).2)) := by
  rw [call_world]
  simp [turn, Progress.mapStage, hf]

/-- An operation that follows another one. -/
theorem turn_andThen {f : σ → σ} {g : τ → τ} {embed embed' : σ → τ} (t : Turn σ ρ)
    {next next' : ρ → World → Turn τ ρ'} (he : ∀ s, embed' (f s) = g (embed s))
    (hn : ∀ r w, next' r (V.world w) = V.turn g (next r w)) :
    (V.turn f t).andThen embed' next' = V.turn g (t.andThen embed next) := by
  obtain ⟨w, p⟩ := t
  cases p with
  | waiting s => exact congrArg (fun s => (V.world w, Progress.waiting s)) (he s)
  | finished r => exact hn r w
  | crashed payload => rfl

/-- An operation that follows the answer to a call. -/
theorem turn_resolve {f : σ → σ} (p : Pending) {report : Fault → LogEntry}
    {onDone onDone' : Option String → World → Turn σ ρ}
    {onFault onFault' : Fault → World → Turn σ ρ}
    (hd : ∀ name w, onDone' name (V.world w) = V.turn f (onDone name w))
    (hf : ∀ fault w, onFault' fault (V.world w) = V.turn f (onFault fault w)) :
    (V.pending p).resolve (V.world w) report onDone' onFault' =
      V.turn f (p.resolve w report onDone onFault) := by
  have heard : ∀ x, (V.world w).emit (.answered (V.call p.call) x) =
      V.world (w.emit (.answered p.call x)) := fun x => V.emit_world w (.answered p.call x)
  simp only [Pending.resolve]
  rw [show (V.pending p).call = V.call p.call from rfl,
    show (V.pending p).reply = p.reply from rfl, heard]
  cases p.reply.answer with
  | done name => exact hd name _
  | refused fault => exact (congrArg _ (V.log_world _ _)).trans (hf fault _)
  | crashed payload => rfl

/-- A turn that finishes with an entry. -/
theorem turn_told {f : σ → σ} (e : LogEntry) (r : ρ) :
    (((V.world w).log e, .finished r) : Turn σ ρ) = V.turn f (w.log e, .finished r) :=
  congrArg (·, Progress.finished r) (V.log_world w e)

/-! ## Links and topology -/

theorem openingStart_world (name : String) (e : Endpoint) :
    Opening.start name (V.endpoint e) (V.world w) =
      V.turn V.opening (Opening.start name e w) := by
  simp only [Opening.start, log_world]
  exact V.turn_call _ (.connect e name) Opening.connecting fun _ => rfl

theorem connected_world :
    Opening.connected (V.world w) = V.turn V.opening (Opening.connected w) := by
  have linked : ∀ l : Link, ({ V.world w with links := (V.world w).links ++ [l] } : World) =
      V.world { w with links := w.links ++ [l] } := fun _ => rfl
  simp only [Opening.connected, linked, log_world]
  exact V.turn_call _ .createChannel (Opening.openingChannel w.links.length) fun _ => rfl

theorem openingResume_world (s : Opening) :
    (V.opening s).resume (V.world w) = V.turn V.opening (s.resume w) := by
  cases s with
  | connecting p =>
    simp only [opening, Opening.resume]
    exact V.turn_resolve w p (fun _ w' => V.connected_world w') fun _ _ => rfl
  | openingChannel l p =>
    simp only [opening, Opening.resume]
    exact V.turn_resolve w p (fun _ w' => V.turn_told (w'.modifyLink l _) _ _) fun _ _ => rfl

theorem conclude_world (failure : Option Failure) :
    Closing.conclude failure (V.world w) = V.turn V.closing (Closing.conclude failure w) := by
  simp only [Closing.conclude, log_world]
  cases failure <;> rfl

theorem closeConnection_world (l : Nat) (failure : Option Failure) :
    Closing.closeConnection l failure (V.world w) =
      V.turn V.closing (Closing.closeConnection l failure w) := by
  simp only [Closing.closeConnection, link_world, log_world]
  split
  · exact V.turn_call _ (.connectionClose Closing.success Closing.reason)
      (Closing.connection failure) fun _ => rfl
  · exact V.conclude_world w failure

theorem closingStart_world (l : Nat) :
    Closing.start l (V.world w) = V.turn V.closing (Closing.start l w) := by
  have closed : ∀ f, (V.world w).modifyLink l f = V.world (w.modifyLink l f) := fun _ => rfl
  simp only [Closing.start, closed, link_world, log_world]
  split
  · rfl
  · split
    · exact V.turn_call _ (.channelClose Closing.success Closing.reason) Closing.channel
        fun _ => rfl
    · exact V.closeConnection_world _ l none

theorem closingResume_world (l : Nat) (s : Closing) :
    (V.closing s).resume l (V.world w) = V.turn V.closing (s.resume l w) := by
  cases s with
  | channel p =>
    simp only [closing, Closing.resume]
    exact V.turn_resolve w p (fun _ w' => V.closeConnection_world (w'.modifyLink l _) l none)
      fun fault w' => V.closeConnection_world w' l _
  | connection failure p =>
    simp only [closing, Closing.resume]
    exact V.turn_resolve w p (fun _ w' => V.conclude_world (w'.modifyLink l _) failure)
      fun fault w' => V.conclude_world w' _

theorem exchangeAnswered_world (f : σ → σ) (x : Exchange) (p : Pending) :
    Declaring.exchangeAnswered x (V.pending p) (V.world w) =
      V.turn f (Declaring.exchangeAnswered x p w) :=
  V.turn_resolve w p (fun _ w' => V.turn_told w' _ _) fun _ _ => rfl

theorem queueAnswered_world (f : σ → σ) (q : Queue) (p : Pending) :
    Declaring.queueAnswered q (V.pending p) (V.world w) =
      V.turn f (Declaring.queueAnswered q p w) :=
  V.turn_resolve w p (fun _ w' => V.turn_told w' _ _) fun _ _ => rfl

theorem bindingAnswered_world (f : σ → σ) (b : Binding) (p : Pending) :
    Declaring.bindingAnswered b (V.pending p) (V.world w) =
      V.turn f (Declaring.bindingAnswered b p w) :=
  V.turn_resolve w p (fun _ w' => V.turn_told w' _ _) fun _ _ => rfl

theorem subscribingStart_world (x : Exchange) :
    Subscribing.start x (V.world w) = V.turn V.subscribing (Subscribing.start x w) := by
  simp only [Subscribing.start, Declaring.exchange, log_world]
  exact V.turn_call _ (.declareExchange x) Subscribing.exchange fun _ => rfl

theorem subscribingResume_world (x : Exchange) (pattern : String) (s : Subscribing) :
    (V.subscribing s).resume x pattern (V.world w) =
      V.turn V.subscribing (s.resume x pattern w) := by
  cases s with
  | exchange p =>
    simp only [subscribing, Subscribing.resume]
    rw [V.exchangeAnswered_world w V.subscribing x p]
    refine V.turn_andThen _ (fun _ => rfl) fun result w' => ?_
    cases result with
    | error f => rfl
    | ok _ =>
      simp only [Declaring.queue, log_world]
      exact V.turn_call _ (.declareQueue .anonymous) Subscribing.queue fun _ => rfl
  | queue p =>
    simp only [subscribing, Subscribing.resume]
    rw [V.queueAnswered_world w V.subscribing .anonymous p]
    refine V.turn_andThen _ (fun _ => rfl) fun result w' => ?_
    cases result with
    | error f => rfl
    | ok name =>
      simp only [Declaring.binding, log_world]
      exact V.turn_call _ (.bind _) (Subscribing.binding _) fun _ => rfl
  | binding sub p =>
    simp only [subscribing, Subscribing.resume]
    rw [V.bindingAnswered_world w V.subscribing sub.binding p]
    refine V.turn_andThen _ (fun _ => rfl) fun result w' => ?_
    cases result with
    | error f => rfl
    | ok _ => exact V.turn_told w' _ _

/-! ## Receivers -/

theorem register_world (g : Registration) :
    Starting.register g (V.world w) = V.turn V.starting (Starting.register g w) := by
  have counted : ({ V.world w with registrations := (V.world w).registrations + 1 } : World) =
      V.world { w with registrations := w.registrations + 1 } := rfl
  simp only [Starting.register, counted]
  exact V.turn_call _ (.consume g.queue _ g.mode) (Starting.registering _) fun _ => rfl

theorem startingStart_world (g : Registration) :
    Starting.start g (V.world w) = V.turn V.starting (Starting.start g w) := by
  simp only [Starting.start]
  split
  · exact V.turn_call _ (.basicQos _ false) Starting.bounding fun _ => rfl
  · exact V.register_world w g

theorem registered_world (g : Registration) (tag : String) :
    Starting.registered g tag (V.world w) = V.turn V.starting (Starting.registered g tag w) := by
  simp only [Starting.registered, log_world]
  refine Prod.ext ?_ ?_ <;> simp [turn, world, Progress.mapStage, receiver, loop]

theorem startingResume_world (g : Registration) (s : Starting) :
    (V.starting s).resume g (V.world w) = V.turn V.starting (s.resume g w) := by
  cases s with
  | bounding p =>
    simp only [starting, Starting.resume]
    exact V.turn_resolve w p (fun _ w' => V.register_world w' g) fun _ _ => rfl
  | registering tag p =>
    simp only [starting, Starting.resume]
    exact V.turn_resolve w p (fun _ w' => V.registered_world w' g tag) fun _ _ => rfl

theorem cancellingStart_world (l : Nat) (tag : String) : Cancelling.start l tag (V.world w) =
    (V.world (Cancelling.start l tag w).1, (Cancelling.start l tag w).2.map V.pending) := by
  have called := V.call_world w (.basicCancel tag false)
  simp only [call] at called
  cases up : (w.link l).channelUp <;> simp [Cancelling.start, up, called]

theorem cancellingAnswered_world (f : σ → σ) (tag : String) (p : Pending) :
    Cancelling.answered tag (V.pending p) (V.world w) =
      V.turn f (Cancelling.answered tag p w) :=
  V.turn_resolve w p (fun _ _ => rfl) fun _ _ => rfl

theorem stoppingStart_world (r : Nat) :
    Stopping.start r (V.world w) = V.turn V.stopping (Stopping.start r w) := by
  have claimed := V.modifyReceiver_apart w
    (f := fun v => { v with joinable := false, cancelled := true }) (fun _ => rfl) r
  cases hj : (w.receiver r).joinable with
  | true =>
    simp only [Stopping.start, receiver_world, receiver, hj, claimed, if_true,
      cancellingStart_world]
    generalize Cancelling.start _ _ _ = t
    obtain ⟨w', _ | p⟩ := t <;> rfl
  | false =>
    simp only [Stopping.start, receiver_world, receiver, hj]
    exact V.turn_told w _ _

theorem joined_world (r : Nat) :
    Stopping.joined r (V.world w) = V.turn V.stopping (Stopping.joined r w) := by
  simp only [Stopping.joined, receiver_world, receiver]
  cases (w.receiver r).loop <;> exact V.turn_told w _ _

theorem stoppingResume_world (r : Nat) (s : Stopping) :
    (V.stopping s).resume r (V.world w) = V.turn V.stopping (s.resume r w) := by
  cases s with
  | cancelling p =>
    simp only [stopping, Stopping.resume, receiver_world]
    rw [V.cancellingAnswered_world w V.stopping]
    refine V.turn_andThen _ (fun _ => rfl) fun result w' => ?_
    cases result with
    | error f => exact congrArg (·, Progress.waiting Stopping.joining) (V.log_world w' _)
    | ok _ => rfl
  | joining => exact V.joined_world w r

/-! ## Receive loops -/

theorem ackAnswered_world (f : σ → σ) (tag : UInt64) (p : Pending) :
    Settlement.ackAnswered tag (V.pending p) (V.world w) =
      V.turn f (Settlement.ackAnswered tag p w) :=
  V.turn_resolve w p (fun _ _ => rfl) fun _ _ => rfl

theorem rejectAnswered_world (f : σ → σ) (tag : UInt64) (requeue : Bool) (p : Pending) :
    Settlement.rejectAnswered tag requeue (V.pending p) (V.world w) =
      V.turn f (Settlement.rejectAnswered tag requeue p w) :=
  V.turn_resolve w p (fun _ _ => rfl) fun _ _ => rfl

theorem foldl_log_world (entries : List LogEntry) :
    entries.foldl World.log (V.world w) = V.world (entries.foldl World.log w) := by
  induction entries generalizing w with
  | nil => rfl
  | cons e entries ih => rw [List.foldl_cons, log_world, ih, List.foldl_cons]

theorem extract_world (h : Headers) :
    (V.world w).extract h = (V.world (w.extract h).1, (w.extract h).2) := by
  have asked : (V.world w).propagation = w.propagation := rfl
  simp only [World.extract, asked]
  split
  · rfl
  · simp [foldl_log_world]

theorem openSpan_world (d : Delivery) (parent : TraceContext) :
    (V.world w).openSpan d parent = (V.world (w.openSpan d parent).1, (w.openSpan d parent).2) := by
  show ((((V.world { w with spans := w.spans + 1 }).emit _).emit _).emit _, _) = _
  simp [World.openSpan]

theorem processingStart_world (r : Nat) (kind : HandlerKind) (d : Delivery) (cue : Cue) :
    Processing.start r kind d cue (V.world w) =
      V.turn V.processing (Processing.start r kind d cue w) := by
  simp only [Processing.start, extract_world, openSpan_world, log_world]
  cases kind <;> simp [turn, Progress.mapStage, processing]

theorem processingSucceeded_world (mode : AckMode) (d : Delivery) (span : Nat) :
    Processing.succeeded mode d span (V.world w) =
      V.turn V.processing (Processing.succeeded mode d span w) := by
  cases mode with
  | auto => simp [Processing.succeeded, World.setStatus, World.endSpan, turn, Progress.mapStage]
  | manual requeue =>
    simp only [Processing.succeeded, log_world]
    exact V.turn_call _ (.basicAck d.tag false) (Processing.settling d span none) fun _ => rfl

theorem processingFailed_world (mode : AckMode) (d : Delivery) (span : Nat) (f : Failure) :
    Processing.failed mode d span f (V.world w) =
      V.turn V.processing (Processing.failed mode d span f w) := by
  have told : ((V.world w).recordFailure span f).setStatus span (.error f.message) =
      V.world ((w.recordFailure span f).setStatus span (.error f.message)) := by
    simp [World.recordFailure, World.setStatus]
  cases mode with
  | auto => simp [Processing.failed, told, World.endSpan, turn, Progress.mapStage]
  | manual requeue =>
    simp only [Processing.failed, told, log_world]
    exact V.turn_call _ (.basicReject d.tag requeue) (Processing.settling d span (some f))
      fun _ => rfl

theorem closing_processing (span : Nat) (t : Turn Processing ρ) :
    Processing.closing span (V.turn V.processing t) =
      V.turn V.processing (Processing.closing span t) := by
  obtain ⟨w, p⟩ := t
  cases p <;> simp [Processing.closing, turn, Progress.mapStage, World.endSpan]

theorem processingResume_world (r : Nat) (mode : AckMode) (s : Processing) :
    (V.processing s).resume r mode (V.world w) = V.turn V.processing (s.resume r mode w) := by
  cases s with
  | handling d span cue =>
    simp only [processing, Processing.resume]
    rw [V.emit_plain w (by simp) (by simp)]
    cases cue.result.failure? with
    | none => exact V.processingSucceeded_world _ mode d span
    | some f => exact V.processingFailed_world _ mode d span f
  | settling d span failure p =>
    cases failure with
    | none =>
      simp only [processing, Processing.resume]
      rw [← closing_processing, V.ackAnswered_world w V.processing]
      congr 1
      refine V.turn_andThen _ (fun _ => rfl) fun result w' => ?_
      cases result <;> simp [Processing.acknowledged, World.setStatus, World.recordFailure,
        World.endSpan, turn, Progress.mapStage]
    | some f =>
      simp only [processing, Processing.resume]
      rw [← closing_processing, V.rejectAnswered_world w V.processing]
      congr 1
      refine V.turn_andThen _ (fun _ => rfl) fun result w' => ?_
      cases result <;> simp [Processing.rejected, World.recordFailure, World.endSpan, turn,
        Progress.mapStage]

theorem setLoop_world (r : Nat) (l : Loop) :
    (V.world w).setLoop r (V.loop l) = V.world (w.setLoop r l) :=
  V.modifyReceiver_world w (f := fun v => { v with loop := l })
    (g := fun v => { v with loop := V.loop l }) (fun _ => rfl) r

theorem processed_world (r : Nat) (p : Progress Processing (Except Failure Unit)) :
    (V.world w).processed r (p.mapStage V.processing) = V.world (w.processed r p) := by
  cases p with
  | waiting s => exact V.setLoop_world w r (.processing s)
  | crashed payload => exact V.setLoop_world w r (.crashed payload)
  | finished result =>
    cases result with
    | ok _ => exact V.setLoop_world w r .receiving
    | error f =>
      simp only [Progress.mapStage, World.processed]
      exact V.modifyReceiver_world w (fun v => by simp [receiver, loop]) r

theorem receive_world (r : Nat) : (V.world w).receive r = V.world (w.receive r) := by
  simp only [World.receive, receiver_world, receiver]
  split
  · rw [log_world]
    exact V.setLoop_world _ r .ended
  · split
    · next d cue rest feed =>
      rw [V.emit_plain w (by simp) (by simp), V.modifyReceiver_apart, processingStart_world]
      · exact V.processed_world _ r _
      · exact fun _ => rfl
    · next fault rest feed =>
      rw [V.emit_plain w (by simp) (by simp), V.modifyReceiver_apart, log_world]
      exact fun _ => rfl
    · split
      · rw [V.emit_plain w (by simp) (by simp), log_world]
        exact V.modifyReceiver_world _ (fun v => by simp [receiver, loop]) r
      · rfl

/-- A receive loop does the same behind every veil. -/
theorem runReceiver_world (r : Nat) : (V.world w).runReceiver r = V.world (w.runReceiver r) := by
  simp only [World.runReceiver, receiver_world, receiver]
  cases (w.receiver r).loop with
  | receiving => exact V.receive_world w r
  | processing p =>
    simp only [loop, processingResume_world]
    exact V.processed_world _ r _
  | ended => rfl
  | crashed payload => rfl

/-! ## Teardowns and applications -/

theorem transition_world (next : Lifecycle) :
    (V.world w).transition next = V.world (w.transition next) := by
  have published : (V.world w).publish next = V.world (w.publish next) := by
    simp only [World.publish]
    rw [V.emit_plain w (by simp) (by simp)]
    rfl
  simp only [World.transition, published]
  exact V.log_world _ _

theorem teardownClosed_world (stopped : Except Failure Stats) (result : Except Failure Unit) :
    Teardown.closed stopped result (V.world w) =
      V.turn V.teardown (Teardown.closed stopped result w) := by
  simp only [Teardown.closed, transition_world]
  cases Teardown.outcome stopped result with
  | error f => rfl
  | ok stats => exact V.turn_told _ _ _

theorem teardownStopped_world (closer : Closer) (result : Except Failure Stats) :
    Teardown.stopped closer result (V.world w) =
      V.turn V.teardown (Teardown.stopped closer result w) := by
  cases closer with
  | link l =>
    cases result <;>
    · simp only [Teardown.stopped, log_world, closingStart_world]
      exact V.turn_andThen _ (fun _ => rfl) fun r w' => V.teardownClosed_world w' _ r
  | given op =>
    cases result <;>
    · simp only [Teardown.stopped, log_world]
      rw [V.emit_plain _ (by simp) (by simp)]
      rfl

theorem drain_world (stopper : Stopper) (closer : Closer) :
    Teardown.drain stopper closer (V.world w) =
      V.turn V.teardown (Teardown.drain stopper closer w) := by
  cases stopper with
  | receiver r =>
    simp only [Teardown.drain, stoppingStart_world]
    exact V.turn_andThen _ (fun _ => rfl) fun result w' => V.teardownStopped_world w' closer result
  | given op =>
    simp only [Teardown.drain]
    rw [V.emit_plain w (by simp) (by simp)]
    rfl

theorem ending_world {α : Type} {f : σ → σ} (e : Ending α)
    {next : Except Failure α → World → Turn σ ρ}
    (hn : ∀ r w, next r (V.world w) = V.turn f (next r w)) :
    e.andThen (V.world w) next = V.turn f (e.andThen w next) := by
  cases e with
  | returned result => exact hn result w
  | crashed payload => rfl

theorem teardownResume_world (s : Teardown) :
    (V.teardown s).resume (V.world w) = V.turn V.teardown (s.resume w) := by
  cases s with
  | blocked stopper closer =>
    simp only [teardown, Teardown.resume, transition_world]
    rfl
  | yielding stopper closer =>
    simp only [teardown, Teardown.resume, transition_world]
    exact V.drain_world _ stopper closer
  | stopping r closer s =>
    simp only [teardown, Teardown.resume, stoppingResume_world]
    exact V.turn_andThen _ (fun _ => rfl) fun result w' => V.teardownStopped_world w' closer result
  | stoppingGiven op closer =>
    exact V.ending_world w op.ending fun result w' => V.teardownStopped_world w' closer result
  | closing l result s =>
    simp only [teardown, Teardown.resume, closingResume_world]
    exact V.turn_andThen _ (fun _ => rfl) fun r w' => V.teardownClosed_world w' result r
  | closingGiven op result =>
    exact V.ending_world w op.ending fun r w' => V.teardownClosed_world w' result r

theorem abandon_world (l : Nat) (f : Failure) :
    App.abandon l f (V.world w) = V.turn V.app (App.abandon l f w) := by
  simp only [App.abandon, closingStart_world]
  exact V.turn_andThen _ (fun _ => rfl) fun _ _ => rfl

theorem started_world (l : Nat) (sub : Subscription) (result : Except Failure Nat) :
    App.started l sub result (V.world w) = V.turn V.app (App.started l sub result w) := by
  cases result with
  | error f => exact V.abandon_world w l f
  | ok r => exact congrArg (·, Progress.waiting _) (V.log_world w _)

theorem registration_setup (a : AppSetup) (l : Nat) (s : Subscription) :
    (V.setup a).registration l s = a.registration l s := rfl

theorem subscribed_world (a : AppSetup) (l : Nat) (result : Except Failure Subscription) :
    App.subscribed (V.setup a) l result (V.world w) =
      V.turn V.app (App.subscribed a l result w) := by
  cases result with
  | error f => exact V.abandon_world w l f
  | ok sub =>
    simp only [App.subscribed, registration_setup, startingStart_world]
    exact V.turn_andThen _ (fun _ => rfl) fun result w' => V.started_world w' l sub result

theorem opened_world (a : AppSetup) (result : Except Failure Nat) :
    App.opened (V.setup a) result (V.world w) = V.turn V.app (App.opened a result w) := by
  cases result with
  | error f => rfl
  | ok l =>
    simp only [App.opened, subscribingStart_world]
    exact V.turn_andThen _ (fun _ => rfl) fun result w' => V.subscribed_world w' a l result

/-- An application starts in the same way behind every veil, -/
theorem appStart_world (a : AppSetup) :
    App.start (V.setup a) (V.world w) = V.turn V.app (App.start a w) := by
  simp only [App.start]
  rw [show (V.setup a).config.name = a.config.name from rfl,
    show (V.setup a).config.endpoint = V.endpoint a.config.endpoint from rfl, openingStart_world]
  exact V.turn_andThen _ (fun _ => rfl) fun result w' => V.opened_world w' a result

/-- and goes on in the same way. -/
theorem appResume_world (a : AppSetup) (s : App) :
    (V.app s).resume (V.setup a) (V.world w) = V.turn V.app (s.resume a w) := by
  cases s with
  | opening s =>
    simp only [app, App.resume, openingResume_world]
    exact V.turn_andThen _ (fun _ => rfl) fun result w' => V.opened_world w' a result
  | subscribing l s =>
    simp only [app, App.resume, subscribingResume_world]
    exact V.turn_andThen _ (fun _ => rfl) fun result w' => V.subscribed_world w' a l result
  | starting l sub s =>
    simp only [app, App.resume, registration_setup, startingResume_world]
    exact V.turn_andThen _ (fun _ => rfl) fun result w' => V.started_world w' l sub result
  | running s =>
    simp only [app, App.resume, teardownResume_world]
    exact V.turn_andThen _ (fun _ => rfl) fun _ _ => rfl
  | abandoning l f s =>
    simp only [app, App.resume, closingResume_world]
    exact V.turn_andThen _ (fun _ => rfl) fun _ _ => rfl

end Turns

end Veil

end TopicWorker
