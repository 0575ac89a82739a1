import TopicWorker.Proofs.Links
import TopicWorker.Proofs.Rundown

/-!
# Those who close a link

Any number of callers may ask for one link to be closed, at any time and while others are at
it, and the broker may change the statuses of the link between any two of their turns. The life
of a link is told here by its callers alone: one after the other asks, whoever waits for an
answer takes it, and in between the world becomes another one in any way that leaves the mark of
the link alone. The first caller does the work, and everybody else finds the mark.

## Main definitions

* `Closers`: a world with those who have asked for a link of it to be closed.
* `Closers.close`, `Closers.goOn`, `Closers.Leads`, `Closers.Life`: the life of a link.
* `Closing.Account`: what the first caller has done with the broker, by how far he has come.
* `Closers.ClosedOnce`: the work is done once, by the first caller.

## Main results

* `Closers.Life.stage`: how far the callers have come at any time of a life.
* `Closers.Life.closedOnce`: in every life the work is done once.
-/

namespace TopicWorker

/-- Whether a call comes back to its caller. -/
def Answer.returns : Answer → Bool
  | done _ | refused _ => true
  | crashed _ => false

/-- The call that an event makes. -/
def Event.call? : Event → Option Call
  | called c => some c
  | _ => none

/-- Calls are among what concerns the broker. -/
theorem filterMap_acts (events : List Event) :
    (acts events).filterMap Event.call? = events.filterMap Event.call? := by
  rw [acts, List.filterMap_filter]
  refine List.filterMap_congr fun e _ => ?_
  cases e <;> rfl

namespace Closing

/-- What a close has failed with, if it has. -/
def failure? : Answer → Option Failure
  | .refused fault => some (.closing fault.message)
  | .done _ | .crashed _ => none

/-- What a closing comes to: the failure that there was, if any. -/
def ending : Option Failure → Except Failure Unit
  | none => .ok ()
  | some f => .error f

/-- What closing the channel and then the connection comes to, where either may have been
skipped: the first of the two failures. -/
def result (channel connection : Option Answer) : Except Failure Unit :=
  ending (channel.bind failure? <|> connection.bind failure?)

/-- Closing the channel and then the connection, each with its answer unless it is skipped. -/
def work (channel connection : Option Answer) : List Event :=
  exchange channelCall channel ++ exchange connectionCall connection

/-- What is told to whoever finds that closing has been asked for before. -/
def lateEntry : LogEntry := linkEntry .debug "connection already closed"

theorem conclude_eq (failure : Option Failure) (w : World) :
    conclude failure w =
      (w.log (linkEntry .info "amqp connection closed"), .finished (ending failure)) := by
  cases failure <;> rfl

/-- Whoever finds the mark is told so and does nothing. -/
theorem start_of_marked {l : Nat} {w : World} (h : (w.link l).closed = true) :
    start l w = (w.log lateEntry, .finished (.ok ())) := by
  simp [start, h, lateEntry]

/-- What the one who does the work has done with the broker, by how far he has come. -/
inductive Account : Progress Closing (Except Failure Unit) → List Event → Prop where
  | channel (p : Pending) (call : p.call = channelCall) :
    Account (.waiting (.channel p)) [.called channelCall]
  | connection (channel : Option Answer) (p : Pending) (call : p.call = connectionCall) :
    Account (.waiting (.connection (channel.bind failure?) p))
      (exchange channelCall channel ++ [.called connectionCall])
  | ended (channel connection : Option Answer) :
    Account (.finished (result channel connection)) (work channel connection)
  | died (payload : Option String) (channel connection : Option Answer) :
    Account (.crashed payload) (work channel connection)

/-- What has been done is a beginning of the work. -/
theorem Account.prefix_work {p : Progress Closing (Except Failure Unit)} {d : List Event}
    (h : Account p d) : ∃ channel connection, d <+: work channel connection := by
  cases h with
  | channel p call => exact ⟨some (.done none), none, ⟨[.answered channelCall (.done none)], rfl⟩⟩
  | connection channel p call =>
    exact ⟨channel, some (.done none), [.answered connectionCall (.done none)], by
      simp [work, exchange]⟩
  | ended channel connection => exact ⟨channel, connection, List.prefix_refl _⟩
  | died payload channel connection => exact ⟨channel, connection, List.prefix_refl _⟩

open Turn

section Turns

variable (w : World)

theorem accounts_conclude (channel connection : Option Answer) :
    (conclude (channel.bind failure? <|> connection.bind failure?) w).KeepsTo Account w
      (work channel connection) := by
  rw [conclude_eq]
  exact KeepsTo.rests (.ended channel connection) (acts_log w _)

theorem accounts_closeConnection (l : Nat) (channel : Option Answer) :
    (closeConnection l (channel.bind failure?) w).KeepsTo Account w
      (exchange channelCall channel) := by
  simp only [closeConnection]
  split
  · exact KeepsTo.log (keepsTo_call (.connection channel _ rfl))
  · have h := accounts_conclude w channel none
    simpa [work, exchange] using h

/-- A closing begins with the channel, with the connection, or at its end. -/
theorem accounts_start (l : Nat) : (start l w).KeepsTo Account w [] := by
  unfold start
  split
  · exact KeepsTo.rests (.ended none none) (acts_log w _)
  · dsimp only
    split
    · exact (KeepsTo.log (keepsTo_call (Account.channel _ rfl))).of_acts_eq rfl
    · exact (accounts_closeConnection _ l none).of_acts_eq rfl

/-- A closing goes on with the work, and remembers how the channel was closed. -/
theorem accounts_resume (l : Nat) {s : Closing} {d : List Event} (h : Account (.waiting s) d) :
    (s.resume l w).KeepsTo Account w d := by
  cases h with
  | channel p call =>
    have hdone : ∀ a, [Event.called channelCall] ++ [.answered p.call a] =
        exchange channelCall (some a) := fun a => by rw [call]; rfl
    refine keepsTo_resolve p (fun name w' => ?_) (fun fault w' => ?_) fun payload => ?_
    · rw [hdone]
      exact (accounts_closeConnection _ l (some (.done name))).of_acts_eq rfl
    · rw [hdone]
      exact accounts_closeConnection w' l (some (.refused fault))
    · rw [hdone, ← List.append_nil (exchange _ _)]
      exact .died payload _ none
  | connection channel p call =>
    have hdone : ∀ a, exchange channelCall channel ++ [.called connectionCall] ++
        [.answered p.call a] = work channel (some a) := fun a => by
      rw [call, List.append_assoc]
      rfl
    refine keepsTo_resolve p (fun name w' => ?_) (fun fault w' => ?_) fun payload => ?_
    · rw [hdone]
      have hfailure : (channel.bind failure? <|> (some (.done name)).bind failure?) =
          channel.bind failure? := by
        cases channel.bind failure? <;> rfl
      have hconclude := accounts_conclude (w'.modifyLink l fun v =>
        { v with channelUp := false, connectionUp := false }) channel (some (.done name))
      rw [hfailure] at hconclude
      exact hconclude.of_acts_eq rfl
    · rw [hdone]
      exact accounts_conclude w' channel (some (.refused fault))
    · rw [hdone]
      exact .died payload channel _

end Turns

end Closing

/-- A world with those who have asked for a link of it to be closed, in the order in which they
have asked. -/
structure Closers where
  world : World
  /-- How far each of them has come. -/
  progress : List (Progress Closing (Except Failure Unit)) := []
  /-- What each of them has done and told, by number. -/
  deeds : List (Nat × Event) := []

namespace Closers

/-- The callers after a turn of one of them. -/
def take (v : Closers) (k : Nat) (t : Turn Closing (Except Failure Unit)) : Closers where
  world := t.1
  progress := v.progress.set k t.2
  deeds := v.deeds ++ (t.1.trace.drop v.world.trace.length).map (k, ·)

/-- One more caller asks. -/
def close (v : Closers) (l : Nat) : Closers :=
  let t := Closing.start l v.world
  { v with progress := v.progress ++ [t.2] }.take v.progress.length t

/-- A caller takes the answer he waits for, if he waits for one. -/
def goOn (v : Closers) (l k : Nat) : Closers :=
  match v.progress[k]? with
  | some (.waiting s) => v.take k (s.resume l v.world)
  | _ => v

/-- What can become of the callers of a link in the course of time. -/
inductive Leads (l : Nat) (v : Closers) : Closers → Prop where
  | rests : Leads l v v
  /-- Somebody asks. -/
  | closes {v' : Closers} (leads : Leads l v v') (there : l < v'.world.links.length) :
    Leads l v (v'.close l)
  /-- Somebody goes on. -/
  | goesOn {v' : Closers} (leads : Leads l v v') (k : Nat) : Leads l v (v'.goOn l k)
  /-- The world becomes another, the statuses of the link included. -/
  | meanwhile {v' : Closers} (leads : Leads l v v') (w : World)
    (there : v'.world.links.length ≤ w.links.length)
    (mark : (w.link l).closed = (v'.world.link l).closed) : Leads l v { v' with world := w }

/-- The life of a link with those who close it begins when nobody has asked and the link has not
been marked. -/
def Life (l : Nat) (v : Closers) : Prop :=
  ∃ w : World, (w.link l).closed = false ∧ Leads l { world := w } v

theorem Leads.trans {l : Nat} {v v' v'' : Closers} (h : v.Leads l v') (h' : v'.Leads l v'') :
    v.Leads l v'' := by
  induction h' with
  | rests => exact h
  | closes leads there ih => exact ih.closes there
  | goesOn leads k ih => exact ih.goesOn k
  | meanwhile leads w there mark ih => exact ih.meanwhile w there mark

theorem Life.leads {l : Nat} {v v' : Closers} (life : v.Life l) (h : v.Leads l v') : v'.Life l := by
  obtain ⟨w, unmarked, hv⟩ := life
  exact ⟨w, unmarked, hv.trans h⟩

/-- What a caller has done with the broker. -/
def actsOf (v : Closers) (k : Nat) : List Event :=
  acts ((v.deeds.filter fun d => d.1 == k).map (·.2))

/-- The broker calls that have been made, each with the number of its caller. -/
def calls (v : Closers) : List (Nat × Call) :=
  v.deeds.filterMap fun d => d.2.call?.map (d.1, ·)

end Closers

/-! ## Single turns -/

namespace Closing

/-- What is asked of the broker at a stage that a closing has come to. -/
def asked : Progress Closing (Except Failure Unit) → List Call
  | .waiting s => [s.pending.call]
  | .finished _ | .crashed _ => []

section Turns

variable {w : World} {l : Nat}

theorem link_marked (w : World) (l : Nat) :
    ((w.modifyLink l fun v => { v with closed := true }).link l).channelUp = (w.link l).channelUp ∧
    ((w.modifyLink l fun v => { v with closed := true }).link l).connectionUp =
      (w.link l).connectionUp :=
  ⟨World.link_modifyLink w l l _ Link.channelUp fun _ => rfl,
    World.link_modifyLink w l l _ Link.connectionUp fun _ => rfl⟩

/-- The connection is asked to close if it is up. -/
theorem closeConnection_of_up (failure : Option Failure) (up : (w.link l).connectionUp = true) :
    ∃ p, p.call = connectionCall ∧
      (closeConnection l failure w).2 = .waiting (.connection failure p) := by
  simp only [closeConnection, up, if_true]
  exact ⟨_, rfl, rfl⟩

/-- Otherwise the closing is at its end. -/
theorem closeConnection_of_down (failure : Option Failure)
    (down : (w.link l).connectionUp = false) :
    (closeConnection l failure w).2 = .finished (ending failure) := by
  simp [closeConnection, down, conclude_eq]

/-- What is asked for where the connection is reached. -/
theorem asked_closeConnection (failure : Option Failure) (w : World) (l : Nat) :
    asked (closeConnection l failure w).2 =
      if (w.link l).connectionUp then [connectionCall] else [] := by
  cases hup : (w.link l).connectionUp with
  | true =>
    obtain ⟨p, hcall, hp⟩ := closeConnection_of_up failure hup
    simp [hp, asked, Closing.pending, hcall]
  | false => simp [closeConnection_of_down failure hup, asked]

/-- The first caller asks the channel to close if it is up, and goes on to the connection
otherwise. -/
theorem asked_start (unmarked : (w.link l).closed = false) :
    asked (start l w).2 =
      if (w.link l).channelUp then [channelCall]
      else if (w.link l).connectionUp then [connectionCall] else [] := by
  obtain ⟨hchannel, hconnection⟩ := link_marked w l
  simp only [start, unmarked, hchannel, Bool.false_eq_true, if_false]
  split
  · rfl
  · rw [asked_closeConnection, hconnection]

/-- Whoever has closed the channel, or could not, goes on to the connection as it is then. -/
theorem resume_channel {p : Pending} (returns : p.reply.answer.returns = true) :
    ∃ w', (w'.link l).connectionUp = (w.link l).connectionUp ∧
      (Closing.channel p).resume l w = closeConnection l (failure? p.reply.answer) w' := by
  simp only [resume]
  cases ha : p.reply.answer with
  | done name =>
    refine ⟨_, ?_, resolve_done ha w⟩
    exact World.link_modifyLink _ l l _ Link.connectionUp fun _ => rfl
  | refused fault =>
    exact ⟨(w.emit (.answered p.call (.refused fault))).log
      (faultEntry .link "failure to close the channel" [] fault), rfl, resolve_refused ha w⟩
  | crashed payload =>
    rw [ha] at returns
    cases returns

/-- Whoever has closed the connection, or could not, is done. -/
theorem resume_connection {p : Pending} (failure : Option Failure)
    (returns : p.reply.answer.returns = true) :
    ((Closing.connection failure p).resume l w).2 =
      .finished (ending (failure <|> failure? p.reply.answer)) := by
  simp only [resume]
  cases ha : p.reply.answer with
  | done name =>
    rw [resolve_done ha, conclude_eq]
    cases failure <;> rfl
  | refused fault =>
    rw [resolve_refused ha, conclude_eq]
    rfl
  | crashed payload =>
    rw [ha] at returns
    cases returns

/-- Nothing is asked for after the connection. -/
theorem asked_connection (failure : Option Failure) (p : Pending) :
    asked ((Closing.connection failure p).resume l w).2 = [] := by
  simp only [resume]
  refine resolve_induction (motive := fun t : Turn Closing (Except Failure Unit) => asked t.2 = [])
    (fun name w' => ?_) (fun fault w' => ?_) (fun _ _ => rfl) w
  · rw [conclude_eq]
    rfl
  · rw [conclude_eq]
    rfl

/-- A link that is there is marked by whoever asks for its end. -/
theorem marked_start (there : l < w.links.length) : ((start l w).1.link l).closed = true := by
  have mark : ((w.modifyLink l fun v => { v with closed := true }).link l).closed = true := by
    simp [World.link, World.modifyLink, there]
  have links : ∀ {w w' : World}, w'.links = w.links → (w'.link l).closed = (w.link l).closed :=
    fun h => by rw [World.link, World.link, h]
  cases hmark : (w.link l).closed with
  | true =>
    rw [start_of_marked hmark]
    exact hmark
  | false =>
    simp only [start, hmark, Bool.false_eq_true, if_false]
    split
    · exact mark
    · exact (links (keeps_closeConnection keptByCalls_links _ l none)).trans mark

end Turns

end Closing

namespace Closers

open Closing

variable {l k : Nat} {v : Closers} {t : Turn Closing (Except Failure Unit)}

/-! ## What a turn adds -/

/-- What a turn adds to a trace is done by its caller. -/
theorem deeds_take {news : List Event} (h : t.1.trace = v.world.trace ++ news) :
    (v.take k t).deeds = v.deeds ++ news.map (k, ·) := by
  simp [take, h]

theorem actsOf_take {news : List Event} (h : t.1.trace = v.world.trace ++ news) :
    (v.take k t).actsOf k = v.actsOf k ++ acts news := by
  have own : (news.map (k, ·)).filter (fun d => d.1 == k) = news.map (k, ·) := by simp
  simp [actsOf, deeds_take h, List.filter_append, own, Function.comp_def]

/-- A turn of a closing tells something, and asks for what it is going to wait for. -/
theorem calls_take {heard : List Event}
    (speaks : t.Speaks [] (some ∘ Closing.pending) v.world heard)
    (answers : ∀ e ∈ heard, ∃ c a, e = .answered c a) :
    (v.take k t).calls = v.calls ++ (asked t.2).map (k, ·) := by
  obtain ⟨told, htold, htrace⟩ := speaks
  have silent : ∀ events : List Event, (∀ e ∈ events, e.call? = none) →
      (events.map (k, ·)).filterMap (fun d => d.2.call?.map (d.1, ·)) = [] := by
    intro events hevents
    simp [List.filterMap_eq_nil_iff]
    exact hevents
  have hheard := silent heard fun e he => by
    obtain ⟨c, a, rfl⟩ := answers e he
    rfl
  have htold' := silent told fun e he => by
    have hetold := htold e he
    cases e with
    | called c => exact hetold.elim
    | _ => rfl
  simp only [calls, deeds_take htrace, List.map_append, List.filterMap_append, hheard, htold',
    List.nil_append]
  cases t.2 <;> rfl

theorem speaks_answer (s : Closing) : ∀ e ∈ [s.pending.heard], ∃ c a, e = .answered c a := by
  intro e he
  exact ⟨s.pending.call, s.pending.reply.answer, List.mem_singleton.mp he⟩

theorem calls_close (v : Closers) (l : Nat) :
    (v.close l).calls =
      v.calls ++ (asked (Closing.start l v.world).2).map (v.progress.length, ·) :=
  calls_take (v := { v with progress := _ }) (speaks_closingStart v.world l) (by simp)

theorem goOn_of_waiting {s : Closing} (h : v.progress[k]? = some (.waiting s)) :
    v.goOn l k = v.take k (s.resume l v.world) := by
  simp [goOn, h]

theorem calls_goOn {s : Closing} (h : v.progress[k]? = some (.waiting s)) :
    (v.goOn l k).calls = v.calls ++ (asked (s.resume l v.world).2).map (k, ·) := by
  rw [goOn_of_waiting h]
  exact calls_take (speaks_closingResume v.world l s) (speaks_answer s)

/-- Whoever asks for the end of a marked link is told so, and that is all. -/
theorem close_of_marked (h : (v.world.link l).closed = true) :
    v.close l = { world := v.world.log lateEntry, progress := v.progress ++ [.finished (.ok ())]
                  deeds := v.deeds ++ [(v.progress.length, .logged lateEntry)] } := by
  simp [close, start_of_marked h, take]

/-! ## How far the callers have come -/

/-- How far the callers have come. Either nobody has asked, or the first is at work and everybody
else has been told that he comes late. -/
inductive Stage (l : Nat) (v : Closers) : Prop where
  | untouched (nobody : v.progress = []) (nothing : v.deeds = [])
    (unmarked : (v.world.link l).closed = false)
  | asked (p : Progress Closing (Except Failure Unit))
    (others : List (Progress Closing (Except Failure Unit))) (progress : v.progress = p :: others)
    (marked : (v.world.link l).closed = true) (account : Account p (v.actsOf 0))
    (late : ∀ q ∈ others, q = .finished (.ok ()))
    (idle : ∀ d ∈ v.deeds, d.1 ≠ 0 → d.2 = .logged lateEntry)

/-- Where the first caller keeps to his work, the account is kept. -/
theorem account_take {d : List Event} (keeps : t.KeepsTo Account v.world d)
    (speaks : ∃ heard, t.Speaks [] (some ∘ Closing.pending) v.world heard) (hd : v.actsOf k = d) :
    Account t.2 ((v.take k t).actsOf k) := by
  obtain ⟨heard, told, -, htrace⟩ := speaks
  obtain ⟨more, hmore, haccount⟩ := keeps
  rw [htrace, acts_append, List.append_cancel_left_eq] at hmore
  rw [actsOf_take htrace, hmore, hd]
  exact haccount

theorem Stage.close (h : v.Stage l) (there : l < v.world.links.length) : (v.close l).Stage l := by
  cases h with
  | untouched nobody nothing unmarked =>
    have hmarked := marked_start there
    have haccount : Account (Closing.start l v.world).2 ((v.close l).actsOf 0) := by
      rw [Closers.close, nobody]
      exact account_take (v := { v with progress := _ }) (accounts_start v.world l)
        ⟨_, speaks_closingStart v.world l⟩ (by simp [actsOf, nothing, acts])
    refine .asked (Closing.start l v.world).2 [] ?_ hmarked haccount (by simp) fun d hd => ?_
    · simp [Closers.close, take, nobody]
    · simp only [Closers.close, take, nobody, nothing, List.length_nil, List.nil_append,
        List.mem_map] at hd
      obtain ⟨e, -, rfl⟩ := hd
      exact fun hne => absurd rfl hne
  | asked p others progress marked account late idle =>
    rw [close_of_marked marked]
    refine .asked p (others ++ [.finished (.ok ())]) (by simp [progress]) marked ?_ ?_ ?_
    · have hown : (0 : Nat) ≠ v.progress.length := by simp [progress]
      have hacts : actsOf { world := v.world.log lateEntry
                            progress := v.progress ++ [.finished (.ok ())]
                            deeds := v.deeds ++ [(v.progress.length, .logged lateEntry)] } 0 =
          v.actsOf 0 := by
        simp [actsOf, List.filter_append, hown.symm]
      rw [hacts]
      exact account
    · intro q hq
      rcases List.mem_append.mp hq with hq | hq
      · exact late q hq
      · exact List.mem_singleton.mp hq
    · intro d hd hne
      rcases List.mem_append.mp hd with hd | hd
      · exact idle d hd hne
      · rw [List.mem_singleton.mp hd]

theorem Stage.goOn (h : v.Stage l) (k : Nat) : (v.goOn l k).Stage l := by
  cases hk : v.progress[k]? with
  | none => simpa [Closers.goOn, hk] using h
  | some q =>
    cases q with
    | finished r => simpa [Closers.goOn, hk] using h
    | crashed payload => simpa [Closers.goOn, hk] using h
    | waiting s =>
      cases h with
      | untouched nobody nothing unmarked => simp [nobody] at hk
      | asked p others progress marked account late idle =>
        -- whoever waits is the first, for everybody else has been sent away at once
        obtain rfl : k = 0 := by
          cases k with
          | zero => rfl
          | succ k =>
            rw [progress, List.getElem?_cons_succ] at hk
            cases late _ (List.mem_of_getElem? hk)
        obtain rfl : p = .waiting s := by simpa [progress] using hk
        rw [goOn_of_waiting hk]
        refine .asked (s.resume l v.world).2 others (by simp [take, progress]) ?_ ?_ late ?_
        · have hspares := spares_closingResume (c := none) v.world l s
          exact (hspares.closed l nofun).trans marked
        · exact account_take (accounts_resume v.world l account)
            ⟨_, speaks_closingResume v.world l s⟩ rfl
        · intro d hd hne
          rcases List.mem_append.mp hd with hd | hd
          · exact idle d hd hne
          · obtain ⟨e, -, rfl⟩ := List.mem_map.mp hd
            exact absurd rfl hne

/-- How far the callers have come at any time. -/
theorem Life.stage (life : v.Life l) : v.Stage l := by
  obtain ⟨w, unmarked, leads⟩ := life
  induction leads with
  | rests => exact .untouched rfl rfl unmarked
  | closes leads there ih => exact ih.close there
  | goesOn leads k ih => exact ih.goOn k
  | meanwhile leads w there mark ih =>
    cases ih with
    | untouched nobody nothing unmarked =>
      exact .untouched nobody nothing (mark.trans unmarked)
    | asked p others progress marked account late idle =>
      exact .asked p others progress (mark.trans marked) account late idle

/-! ## The work is done once -/

/-- The calls of the first caller are what he has done with the broker, less the answers. -/
theorem calls_of_idle (idle : ∀ d ∈ v.deeds, d.1 ≠ 0 → d.2 = .logged lateEntry) :
    v.calls = ((v.actsOf 0).filterMap Event.call?).map (0, ·) := by
  simp only [calls, actsOf, filterMap_acts]
  generalize v.deeds = deeds at idle
  induction deeds with
  | nil => rfl
  | cons d deeds ih =>
    have hrest := ih fun d' hd' => idle d' (List.mem_cons_of_mem d hd')
    obtain ⟨j, e⟩ := d
    by_cases hj : j = 0
    · subst hj
      cases hc : e.call? <;> simpa [hc, List.filterMap_cons] using hrest
    · have hnone : e.call? = none := by rw [show e = _ from idle (j, e) List.mem_cons_self hj]; rfl
      simpa [hj, hnone] using hrest

theorem calls_work (channel connection : Option Answer) :
    ((work channel connection).filterMap Event.call?).Sublist Closing.calls := by
  cases channel <;> cases connection <;>
    simp [work, exchange, Closing.calls, Event.call?, List.filterMap_cons]

/-- The work of closing a link is done once. -/
structure ClosedOnce (l : Nat) (v : Closers) : Prop where
  /-- At most one close of the channel is issued and at most one of the connection, both by the
  first caller. -/
  calls : v.calls.Sublist (Closing.calls.map (0, ·))
  /-- What he has done with the broker is a beginning of the whole: the close of the channel with
  its answer unless it is skipped, and after that the same for the connection. -/
  order : ∃ channel connection, v.actsOf 0 <+: work channel connection
  /-- When he asks, the channel is closed if it is up at that moment. If it is not, the connection
  is reached at the same moment, and is closed if it is up. -/
  first : v.progress = [] → (v.close l).calls =
    if (v.world.link l).channelUp then [(0, channelCall)]
    else if (v.world.link l).connectionUp then [(0, connectionCall)] else []
  /-- When the close of the channel has returned, with a failure or without, the connection is
  reached. It is closed if it is up at that moment, and otherwise the caller is done. -/
  second : ∀ p, v.progress[0]? = some (.waiting (.channel p)) → p.reply.answer.returns = true →
    (v.goOn l 0).calls =
        v.calls ++ (if (v.world.link l).connectionUp then [(0, connectionCall)] else []) ∧
      ((v.world.link l).connectionUp = false →
        ∃ r, (v.goOn l 0).progress[0]? = some (.finished r))
  /-- When the close of the connection has returned, the caller is done. -/
  last : ∀ failure p, v.progress[0]? = some (.waiting (.connection failure p)) →
    p.reply.answer.returns = true → ∃ r, (v.goOn l 0).progress[0]? = some (.finished r)
  /-- No other turn of a caller makes a call. -/
  nothing : ∀ k, (∀ p, v.progress[k]? ≠ some (.waiting (.channel p))) →
    (v.goOn l k).calls = v.calls
  /-- The first caller's result is the first of the two failures, if there was one. -/
  result : ∀ r, v.progress[0]? = some (.finished r) →
    ∃ channel connection, v.actsOf 0 = work channel connection ∧
      r = Closing.result channel connection
  /-- Whoever asks later, while the first caller is at work or after that, is told so in an entry
  and is done, and nothing else changes. -/
  others : v.progress ≠ [] → v.close l =
    { world := v.world.log lateEntry, progress := v.progress ++ [.finished (.ok ())]
      deeds := v.deeds ++ [(v.progress.length, .logged lateEntry)] }
  /-- So all but the first are done at any time, and without a failure. -/
  late : ∀ k p, 0 < k → v.progress[k]? = some p → p = .finished (.ok ())

theorem progress_goOn {s : Closing} (h : v.progress[k]? = some (.waiting s)) :
    (v.goOn l k).progress[k]? = some (s.resume l v.world).2 := by
  have hlt : k < v.progress.length := (List.getElem?_eq_some_iff.mp h).1
  simp [goOn_of_waiting h, take, hlt]

/-- In every life of a link the work of closing it is done once. -/
theorem Life.closedOnce (life : v.Life l) : v.ClosedOnce l := by
  have stage := life.stage
  have begun : ∀ {p}, v.progress[0]? = some p → Account p (v.actsOf 0) := by
    intro p hp
    cases stage with
    | untouched nobody => simp [nobody] at hp
    | asked q others progress marked account =>
      rw [progress, List.getElem?_cons_zero, Option.some.injEq] at hp
      exact hp ▸ account
  constructor
  case calls =>
    cases stage with
    | untouched nobody nothing => simp [Closers.calls, nothing]
    | asked p others progress marked account late idle =>
      obtain ⟨channel, connection, hwork⟩ := account.prefix_work
      rw [calls_of_idle idle]
      exact ((hwork.sublist.filterMap _).trans (calls_work channel connection)).map _
  case order =>
    cases stage with
    | untouched nobody nothing =>
      exact ⟨none, none, by simp [actsOf, nothing, acts]⟩
    | asked p others progress marked account => exact account.prefix_work
  case first =>
    intro hnobody
    cases stage with
    | untouched nobody nothing unmarked =>
      rw [calls_close, asked_start unmarked, nobody]
      simp only [Closers.calls, nothing, List.filterMap_nil, List.nil_append, List.length_nil]
      split
      · rfl
      · split <;> rfl
    | asked p others progress => simp [progress] at hnobody
  case second =>
    intro p hp returns
    obtain ⟨w', hup, hresume⟩ := resume_channel (w := v.world) (l := l) returns
    rw [calls_goOn hp, progress_goOn hp, hresume, asked_closeConnection, hup]
    refine ⟨?_, fun down => ?_⟩
    · split <;> rfl
    · exact ⟨_, congrArg some (closeConnection_of_down _ (hup.trans down))⟩
  case last =>
    intro failure p hp returns
    rw [progress_goOn hp, resume_connection failure returns]
    exact ⟨_, rfl⟩
  case nothing =>
    intro k hk
    cases hp : v.progress[k]? with
    | none => simp [goOn, hp]
    | some q =>
      cases q with
      | finished r => simp [goOn, hp]
      | crashed payload => simp [goOn, hp]
      | waiting s =>
        cases s with
        | channel p => exact absurd hp (hk p)
        | connection failure p =>
          rw [calls_goOn hp, asked_connection, List.map_nil, List.append_nil]
  case result =>
    intro r hr
    generalize hacts : v.actsOf 0 = d
    have account := begun hr
    rw [hacts] at account
    cases account with
    | ended channel connection => exact ⟨channel, connection, rfl, rfl⟩
  case others =>
    intro hsome
    cases stage with
    | untouched nobody => exact absurd nobody hsome
    | asked p others progress marked => exact close_of_marked marked
  case late =>
    intro k p hk hp
    cases stage with
    | untouched nobody => simp [nobody] at hp
    | asked q others progress marked account late =>
      obtain ⟨j, rfl⟩ : ∃ j, k = j + 1 := ⟨k - 1, by omega⟩
      rw [progress, List.getElem?_cons_succ] at hp
      exact late p (List.mem_of_getElem? hp)

end Closers

end TopicWorker
