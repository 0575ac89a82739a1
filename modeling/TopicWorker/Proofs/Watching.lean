import TopicWorker.Proofs.Fixtures
import TopicWorker.Proofs.Progression

/-!
# Those who watch the lifecycle

An observer sees a stage when it is his turn, and it may be that several have been published since
he looked last; then he sees the latest one only. What he has seen, together with the stage that he
is going to see if it is his turn now, is his reading. It changes when something is published, and
in no other way: looking only turns what he is going to see into what he has seen.

## Main definitions

* `World.reading`: what an observer has seen, and what he is going to see.

## Main results

* `System.observers_move`: what a move does to those who watch.
* `System.reading_of_quiet`: where nothing is published, every reading stays the same.
-/

namespace TopicWorker

namespace World

variable {w : World} {i j : Nat}

/-- What an observer has seen, and what he is going to see when it is his turn. -/
def reading (w : World) (i : Nat) : List Lifecycle :=
  (w.observer i).seen ++ if w.isBehind i then [w.lifecycle] else []

theorem reading_of_behind (h : w.isBehind i = true) :
    w.reading i = (w.observer i).seen ++ [w.lifecycle] := by
  simp [reading, h]

theorem reading_of_caughtUp (h : w.isBehind i = false) : w.reading i = (w.observer i).seen := by
  simp [reading, h]

theorem observer_observe (hi : i < w.observers.length) (j : Nat) : (w.observe i).observer j =
    if i = j then { version := w.version, seen := (w.observer i).seen ++ [w.lifecycle] }
    else w.observer j := by
  by_cases h : i = j
  · subst h
    simp [observer, observe, hi]
  · simp [observer, observe, h, List.getElem?_modify_ne _ _ h]

theorem version_observe : (w.observe i).version = w.version := rfl

/-- Who looks is not behind, and nobody else notices. -/
theorem isBehind_observe (hi : i < w.observers.length) (j : Nat) :
    (w.observe i).isBehind j = (!decide (i = j) && w.isBehind j) := by
  simp only [isBehind, version_observe, observer_observe hi]
  by_cases h : i = j <;> simp [h]

theorem observer_subscribe (hi : i < w.observers.length) :
    w.subscribe.observer i = w.observer i := by
  simp only [observer, subscribe]
  rw [List.getElem?_append_left hi]

theorem isBehind_subscribe (hi : i < w.observers.length) :
    w.subscribe.isBehind i = w.isBehind i := by
  rw [isBehind, observer_subscribe hi]
  rfl

/-- Who begins to watch is not behind. -/
theorem isBehind_subscriber : w.subscribe.isBehind w.observers.length = false := by
  have same : w.subscribe.version = w.version := rfl
  rw [isBehind, same]
  simp [observer, subscribe]

theorem reading_subscriber : w.subscribe.reading w.observers.length = [] := by
  rw [reading_of_caughtUp isBehind_subscriber]
  simp [observer, subscribe]

end World

namespace System

variable {s : System} {m : Move}

/-- An observer may go on when he is behind. -/
theorem isRunnable_observer (s : System) (i : Nat) : s.isRunnable (.observer i) =
    (decide (i < s.world.observers.length) && s.world.isBehind i) := by
  by_cases h : i < s.world.observers.length
  · simp only [System.isRunnable, System.waitOf, h]
    rfl
  · simp [System.isRunnable, System.waitOf, h]

/-- Those who watch are left alone, unless one of them looks or somebody new begins to watch. -/
theorem observers_move (s : System) (m : Move) : (s.move m).world.observers = s.world.observers ∨
    (s.move m).world = s.world.subscribe ∨
      ∃ i < s.world.observers.length, s.world.isBehind i = true ∧
        (s.move m).world = s.world.observe i := by
  by_cases hturn : ∃ n u, s.Takes m n u
  · obtain ⟨n, u, takes⟩ := hturn
    exact .inl (takes.turned.world ▸ keptByJobs_observers.takes takes)
  · have idle : ∀ {n : Nat}, s.actorOf m = some (.job n) → s.move m = s := fun own =>
      move_of_no_turn own fun u takes => hturn ⟨_, u, takes⟩
    cases m with
    | begin q => exact .inl (congrArg (·.world.observers) (idle rfl))
    | launch env => exact .inl (congrArg (·.world.observers) (idle rfl))
    | act a =>
      cases a with
      | job n => exact .inl (congrArg (·.world.observers) (idle rfl))
      | receiver r =>
        refine .inl ?_
        simp only [move, act]
        split
        · exact keptByLoops_observers.runReceiver s.world r
        · rfl
      | observer i =>
        by_cases ready : s.isRunnable (.observer i) = true
        · have watches : i < s.world.observers.length ∧ s.world.isBehind i = true := by
            simpa [isRunnable_observer] using ready
          exact .inr (.inr ⟨i, watches.1, watches.2, by simp [move, act, ready, step]⟩)
        · simp [move, act, ready]
    | subscribe => exact .inr (.inl rfl)
    | _ => exact .inl rfl

/-- Nobody falls behind when nothing is published. -/
theorem isBehind_of_quiet (quiet : (s.move m).world.version = s.world.version) {i : Nat}
    (hi : i < (s.move m).world.observers.length) (behind : (s.move m).world.isBehind i = true) :
    i < s.world.observers.length ∧ s.world.isBehind i = true := by
  rcases s.observers_move m with same | subscribes | ⟨j, hj, -, looks⟩
  · have observer : (s.move m).world.observer i = s.world.observer i := by
      rw [World.observer, same]
      rfl
    rw [World.isBehind, quiet, observer] at behind
    exact ⟨same ▸ hi, behind⟩
  · rw [subscribes] at hi behind
    have old : i < s.world.observers.length := by
      by_contra h
      obtain rfl : i = s.world.observers.length := by
        have : i < s.world.observers.length + 1 := by simpa [World.subscribe] using hi
        omega
      rw [World.isBehind_subscriber] at behind
      cases behind
    exact ⟨old, World.isBehind_subscribe old ▸ behind⟩
  · rw [looks] at hi behind
    rw [World.isBehind_observe hj] at behind
    exact ⟨by simpa [World.observe] using hi, (Bool.and_eq_true_iff.mp behind).2⟩

/-- Nobody stops watching. -/
theorem length_observers_move (s : System) (m : Move) :
    s.world.observers.length ≤ (s.move m).world.observers.length := by
  rcases s.observers_move m with same | subscribes | ⟨i, -, -, looks⟩
  · exact Nat.le_of_eq (congrArg List.length same).symm
  · rw [subscribes]
    simp [World.subscribe]
  · rw [looks]
    simp [World.observe]

theorem length_observers_after (s : System) (h : List Move) :
    s.world.observers.length ≤ (s.after h).world.observers.length := by
  induction h generalizing s with
  | nil => exact Nat.le_refl _
  | cons m h ih => exact Nat.le_trans (s.length_observers_move m) (ih _)

/-- Where nothing is published, what an observer has seen and is going to see stays the same. -/
theorem reading_of_quiet (quiet : (s.move m).world.version = s.world.version)
    (kept : (s.move m).world.lifecycle = s.world.lifecycle) {i : Nat}
    (hi : i < s.world.observers.length) :
    (s.move m).world.reading i = s.world.reading i := by
  rcases s.observers_move m with same | subscribes | ⟨j, hj, behind, looks⟩
  · have observer : (s.move m).world.observer i = s.world.observer i := by
      rw [World.observer, same]
      rfl
    have behind : (s.move m).world.isBehind i = s.world.isBehind i := by
      rw [World.isBehind, observer, quiet, World.isBehind]
    rw [World.reading, observer, behind, kept, World.reading]
  · rw [subscribes, World.reading, World.observer_subscribe hi, World.isBehind_subscribe hi]
    rfl
  · rw [looks, World.reading, World.observer_observe hj, World.isBehind_observe hj]
    by_cases h : j = i
    · subst h
      simp [World.reading_of_behind behind]
    · simp [h, World.reading, World.observe]

end System

end TopicWorker
