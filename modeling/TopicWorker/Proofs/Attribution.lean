import Mathlib.Data.List.Induction
import TopicWorker.Session

/-!
# Attribution

The trace of a world says what has happened, but a call in it does not say who made it. A
history does: every move of an actor is marked with its name, and what the move adds to the
trace is the actor's doing. In the same way a history says what has arrived for a receiver,
whether or not the receiver has looked at it.

Nothing here is recorded by the worker. These are views of a history, taken from outside.

## Main definitions

* `System.actorOf`, `System.added`: who makes a move, and what it adds to the trace.
* `System.deeds`, `eventsBy`: who has done what in the course of a history.
* `System.arrivals`: what has arrived for a receiver in the course of a history.
-/

namespace TopicWorker

/-- What one actor has done, out of what everybody has done. -/
def eventsBy (who : Actor) (deeds : List (Actor × Event)) : List Event :=
  deeds.filterMap fun (a, e) => if a = who then some e else none

@[simp] theorem eventsBy_nil (who : Actor) : eventsBy who [] = [] := rfl

/-- What an actor has done comes with the rest of what it has done. -/
@[simp] theorem eventsBy_cons_self (who : Actor) (e : Event) (l : List (Actor × Event)) :
    eventsBy who ((who, e) :: l) = e :: eventsBy who l := by
  simp [eventsBy]

/-- What somebody else has done does not count. -/
theorem eventsBy_cons_of_ne {a who : Actor} (h : a ≠ who) (e : Event) (l : List (Actor × Event)) :
    eventsBy who ((a, e) :: l) = eventsBy who l := by
  simp [eventsBy, h]

@[simp] theorem eventsBy_append (who : Actor) (l l' : List (Actor × Event)) :
    eventsBy who (l ++ l') = eventsBy who l ++ eventsBy who l' := by
  simp [eventsBy]

theorem mem_eventsBy {who : Actor} {l : List (Actor × Event)} {e : Event} :
    e ∈ eventsBy who l ↔ (who, e) ∈ l := by
  simp [eventsBy]

/-- What is done under one name is that actor's. -/
@[simp] theorem eventsBy_map_same (who : Actor) (l : List Event) :
    eventsBy who (l.map (who, ·)) = l := by
  induction l with
  | nil => rfl
  | cons e l ih => rw [List.map_cons, eventsBy_cons_self, ih]

/-- What is done under one name is nobody else's. -/
theorem eventsBy_map_other {a who : Actor} (h : a ≠ who) (l : List Event) :
    eventsBy who (l.map (a, ·)) = [] := by
  induction l with
  | nil => rfl
  | cons e l ih => rw [List.map_cons, eventsBy_cons_of_ne h, ih]

namespace System

/-- Who makes a move. What comes from outside has no actor here. -/
def actorOf (s : System) : Move → Option Actor
  | .act a => some a
  | .begin _ | .launch _ => some (.job s.jobs.length)
  | _ => none

/-- What a move adds to the trace. -/
def added (s : System) (m : Move) : List Event :=
  (s.move m).world.trace.drop s.world.trace.length

/-- Who does what in a move. -/
def doing (s : System) (m : Move) : List (Actor × Event) :=
  match s.actorOf m with
  | some a => (s.added m).map (a, ·)
  | none => []

/-- Who does what in the course of a history, in order. -/
def deeds (s : System) : List Move → List (Actor × Event)
  | [] => []
  | m :: h => s.doing m ++ (s.move m).deeds h

/-- What a move puts into the feed of a receiver. Items for a receiver that is not there, or
whose feed has ended, are lost. -/
def arriving (r : Nat) (s : System) : Move → List Item
  | .deliver r' item =>
    if r' = r ∧ r < s.world.receivers.length ∧ (s.world.receiver r).feedClosed = false then [item]
    else []
  | _ => []

/-- What arrives for a receiver in the course of a history, in order. -/
def arrivals (r : Nat) (s : System) : List Move → List Item
  | [] => []
  | m :: h => s.arriving r m ++ (s.move m).arrivals r h

/-! ## Histories that go on -/

/-- A history and what follows it. -/
theorem deeds_append (s : System) (h h' : List Move) :
    s.deeds (h ++ h') = s.deeds h ++ (s.after h).deeds h' := by
  induction h generalizing s with
  | nil => rfl
  | cons m h ih => simp [deeds, ih]

/-- One more move. -/
theorem deeds_concat (s : System) (h : List Move) (m : Move) :
    s.deeds (h ++ [m]) = s.deeds h ++ (s.after h).doing m := by
  rw [deeds_append]
  simp [deeds]

/-- One more move. -/
theorem arrivals_concat (r : Nat) (s : System) (h : List Move) (m : Move) :
    s.arrivals r (h ++ [m]) = s.arrivals r h ++ (s.after h).arriving r m := by
  induction h generalizing s with
  | nil => simp [arrivals]
  | cons m' h ih => simp [arrivals, ih]

/-- One more move. -/
theorem after_concat (s : System) (h : List Move) (m : Move) :
    s.after (h ++ [m]) = (s.after h).move m := by
  simp

/-- What a move adds, where the trace is known to have grown. -/
theorem added_of_trace {s : System} {m : Move} {news : List Event}
    (h : (s.move m).world.trace = s.world.trace ++ news) : s.added m = news := by
  simp [added, h]

end System

end TopicWorker
