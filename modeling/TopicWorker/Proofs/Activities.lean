import TopicWorker.World

/-!
# Activities

Something that is done turn by turn, such as the handling of a delivery, is known here by its turns
only: by what it does when it is started, and when it is resumed where it has waited. What the world
has become in the meantime is open. Of its own it cannot take back anything that has happened.

Activities are put together out of others. For each way of doing so there is one rule, which says
what the whole has come to when its parts have come so far, and that it comes to nothing else. The
rules speak of what an activity adds to the trace by itself. What happens between its turns is not
part of that.

## Main definitions

* `Activity`: the turns.
* `Activity.Runs`: what an activity has come to, and what it has added to the trace.
* `done`, `noted`, `ending`, `bind`, `prepared`: activities out of others.

## Main results

* `runs_done`, `runs_noted`, `runs_ending`, `runs_bind`, `runs_prepared`: the rules.
* `ends_done`, `ends_noted`, `ends_ending`, `ends_bind`, `ends_prepared`: the rules for activities
  that are over.
* `exists_ends_iff_of_waits_once`: the one for an activity that waits once.
-/

namespace TopicWorker

variable {σ τ ρ ρ' α : Type}

/-- The world with more events at the end of its trace. -/
def World.emitAll (w : World) (es : List Event) : World := es.foldl World.emit w

theorem World.trace_emitAll (w : World) (es : List Event) :
    (w.emitAll es).trace = w.trace ++ es := by
  induction es generalizing w with
  | nil => simp [emitAll]
  | cons e es ih =>
    have step : w.emitAll (e :: es) = (w.emit e).emitAll es := rfl
    rw [step, ih, trace_emit, List.append_assoc, List.singleton_append]

/-- How something is over: with a result, or by a panic that nobody has caught, which may have left
a text. -/
abbrev Completion (ρ : Type) := Except (Option String) ρ

/-- Nothing is waited for any more. -/
def Progress.over : Completion ρ → Progress σ ρ
  | .ok r => .finished r
  | .error payload => .crashed payload

namespace Turn

/-- What a turn has added since the world that it began in. -/
def Adds (w : World) (es : List Event) (t : Turn σ ρ) : Prop := t.1.trace = w.trace ++ es

/-- It has added one thing only. -/
theorem Adds.unique {w : World} {es es' : List Event} {t : Turn σ ρ} (h : t.Adds w es)
    (h' : t.Adds w es') : es = es' :=
  List.append_cancel_left (h.symm.trans h')

/-- What a turn adds to something that has been added already. -/
theorem adds_append_iff {v w : World} {es es' : List Event} {t : Turn σ ρ}
    (h : v.trace = w.trace ++ es) : t.Adds w (es ++ es') ↔ t.Adds v es' := by
  rw [Adds, Adds, h, List.append_assoc]

/-- A turn of a part, seen as one of the whole. -/
def within (embed : σ → τ) (t : Turn σ ρ) : Turn τ ρ :=
  t.andThen embed fun r w => (w, .finished r)

/-- What is noted at the end of a turn. -/
def notes (f : Completion ρ → List Event × Completion ρ') (t : Turn σ ρ) : List Event :=
  match t.2 with
  | .waiting _ => []
  | .finished r => (f (.ok r)).1
  | .crashed payload => (f (.error payload)).1

/-- Something is noted where a turn is the last one, and the ending may become another. -/
def ending (f : Completion ρ → List Event × Completion ρ') (t : Turn σ ρ) : Turn σ ρ' :=
  (t.1.emitAll (t.notes f),
    match t.2 with
    | .waiting s => .waiting s
    | .finished r => .over (f (.ok r)).2
    | .crashed payload => .over (f (.error payload)).2)

end Turn

/-- Something that is done turn by turn. -/
structure Activity (σ ρ : Type) where
  start : World → Turn σ ρ
  resume : σ → World → Turn σ ρ
  /-- What has happened is not taken back. -/
  start_grows : ∀ w, ∃ es, (start w).Adds w es
  resume_grows : ∀ s w, ∃ es, (resume s w).Adds w es

namespace Activity

/-- What an activity that is started in a world has come to, and what it has added to the trace by
then. It may be resumed in any world. -/
inductive Runs (c : Activity σ ρ) (w : World) : List Event → Turn σ ρ → Prop
  | start {es : List Event} (adds : (c.start w).Adds w es) : Runs c w es (c.start w)
  | resume {es es' : List Event} {s : σ} {v v' : World} (before : Runs c w es (v, .waiting s))
    (adds : (c.resume s v').Adds v' es') : Runs c w (es ++ es') (c.resume s v')

/-! ## Activities out of others -/

/-- What takes no time. -/
def done (r : ρ) : Activity σ ρ where
  start w := (w, .finished r)
  resume _ w := (w, .finished r)
  start_grows w := ⟨[], by simp [Turn.Adds]⟩
  resume_grows _ w := ⟨[], by simp [Turn.Adds]⟩

/-- Something is noted first. -/
def noted (es : List Event) (c : Activity σ ρ) : Activity σ ρ where
  start w := c.start (w.emitAll es)
  resume := c.resume
  start_grows w := by
    obtain ⟨es', adds⟩ := c.start_grows (w.emitAll es)
    exact ⟨es ++ es', (Turn.adds_append_iff (w.trace_emitAll es)).mpr adds⟩
  resume_grows := c.resume_grows

theorem adds_ending_iff {t : Turn σ ρ} {w : World} {es : List Event}
    {f : Completion ρ → List Event × Completion ρ'} :
    (t.ending f).Adds w (es ++ t.notes f) ↔ t.Adds w es := by
  rw [Turn.Adds, Turn.ending, World.trace_emitAll, ← List.append_assoc, List.append_cancel_right_eq]
  exact Iff.rfl

/-- Something is noted at last, and the ending may become another. -/
def ending (f : Completion ρ → List Event × Completion ρ') (c : Activity σ ρ) : Activity σ ρ' where
  start w := (c.start w).ending f
  resume s w := (c.resume s w).ending f
  start_grows w := (c.start_grows w).imp' _ fun _ => adds_ending_iff.mpr
  resume_grows s w := (c.resume_grows s w).imp' _ fun _ => adds_ending_iff.mpr

theorem adds_within_iff {t : Turn σ ρ} {w : World} {es : List Event} {embed : σ → τ} :
    (t.within embed).Adds w es ↔ t.Adds w es := by
  obtain ⟨v, s | r | payload⟩ := t <;> exact Iff.rfl

/-- A turn after which something else is begun, if it is the last one. -/
def into (next : ρ → Activity τ ρ') (t : Turn σ ρ) : Turn (σ ⊕ ρ × τ) ρ' :=
  t.andThen .inl fun r w => ((next r).start w).within fun s => .inr (r, s)

theorem into_grows {t : Turn σ ρ} {w : World} (h : ∃ es, t.Adds w es) (next : ρ → Activity τ ρ') :
    ∃ es, (into next t).Adds w es := by
  obtain ⟨v, s | r | payload⟩ := t
  case waiting => exact h
  case crashed => exact h
  case finished =>
    obtain ⟨es, adds⟩ := h
    obtain ⟨es', adds'⟩ := (next r).start_grows v
    exact ⟨es ++ es', adds_within_iff.mpr ((Turn.adds_append_iff adds).mpr adds')⟩

/-- One activity, and after it another one, which is chosen by the result. -/
def bind (c : Activity σ ρ) (next : ρ → Activity τ ρ') : Activity (σ ⊕ ρ × τ) ρ' where
  start w := into next (c.start w)
  resume
    | .inl s, w => into next (c.resume s w)
    | .inr (r, s), w => ((next r).resume s w).within fun s => .inr (r, s)
  start_grows w := into_grows (c.start_grows w) next
  resume_grows
    | .inl s, w => into_grows (c.resume_grows s w) next
    | .inr (r, s), w => ((next r).resume_grows s w).imp fun _ => adds_within_iff.mpr

/-- An activity that depends on something to be done first, which takes no time. -/
def prepared (f : World → World × α) (grows : ∀ w, ∃ es, (f w).1.trace = w.trace ++ es)
    (c : α → Activity τ ρ) : Activity (α × τ) ρ where
  start w := ((c (f w).2).start (f w).1).within fun s => ((f w).2, s)
  resume s w := ((c s.1).resume s.2 w).within fun s' => (s.1, s')
  start_grows w := by
    obtain ⟨es, before⟩ := grows w
    obtain ⟨es', adds⟩ := (c (f w).2).start_grows (f w).1
    exact ⟨es ++ es', adds_within_iff.mpr ((Turn.adds_append_iff before).mpr adds)⟩
  resume_grows s w := ((c s.1).resume_grows s.2 w).imp fun _ => adds_within_iff.mpr

/-! ## The rules -/

section Rules

variable {c : Activity σ ρ} {w : World} {es : List Event}

theorem runs_done {r : ρ} {t : Turn σ ρ} :
    (done r).Runs w es t ↔ es = [] ∧ t = (w, .finished r) := by
  have nothing : ((done r).start w : Turn σ ρ).Adds w [] := (List.append_nil _).symm
  constructor
  · intro run
    induction run with
    | start adds => exact ⟨adds.unique nothing, rfl⟩
    | resume before adds ih => cases ih.2
  · rintro ⟨rfl, rfl⟩
    exact Runs.start nothing

theorem runs_noted {before : List Event} {t : Turn σ ρ} :
    (c.noted before).Runs w es t ↔ ∃ es', es = before ++ es' ∧ c.Runs (w.emitAll before) es' t := by
  have start_iff : ∀ {es'}, ((c.noted before).start w).Adds w (before ++ es') ↔
      (c.start (w.emitAll before)).Adds (w.emitAll before) es' :=
    Turn.adds_append_iff (w.trace_emitAll before)
  constructor
  · intro run
    induction run with
    | start adds =>
      obtain ⟨es', adds'⟩ := c.start_grows (w.emitAll before)
      exact ⟨es', adds.unique (start_iff.mpr adds'), .start adds'⟩
    | resume _ adds ih =>
      obtain ⟨es', rfl, run⟩ := ih
      exact ⟨es' ++ _, List.append_assoc .., .resume run adds⟩
  · rintro ⟨es', rfl, run⟩
    induction run with
    | start adds => exact Runs.start (start_iff.mpr adds)
    | resume _ adds ih =>
      rw [← List.append_assoc]
      exact Runs.resume ih adds

theorem runs_ending {f : Completion ρ → List Event × Completion ρ'} {t : Turn σ ρ'} :
    (c.ending f).Runs w es t ↔
      ∃ es' t', c.Runs w es' t' ∧ es = es' ++ t'.notes f ∧ t = t'.ending f := by
  constructor
  · intro run
    induction run with
    | start adds =>
      obtain ⟨es', adds'⟩ := c.start_grows w
      exact ⟨es', _, .start adds', adds.unique (adds_ending_iff.mpr adds'), rfl⟩
    | @resume es es₂ s v v' _ adds ih =>
      obtain ⟨es₁, ⟨v₁, p⟩, run, rfl, same⟩ := ih
      obtain ⟨rfl, rfl⟩ : v = v₁ ∧ p = .waiting s := by
        cases p with
        | waiting s' =>
          cases same
          exact ⟨rfl, rfl⟩
        | finished r =>
          revert same
          simp only [Turn.ending]
          cases (f (.ok r)).2 <;> simp [Progress.over]
        | crashed payload =>
          revert same
          simp only [Turn.ending]
          cases (f (.error payload)).2 <;> simp [Progress.over]
      obtain ⟨es', adds'⟩ := c.resume_grows s v'
      refine ⟨es₁ ++ es', _, .resume run adds', ?_, rfl⟩
      rw [adds.unique (adds_ending_iff.mpr adds')]
      simp [Turn.notes]
  · rintro ⟨es', t', run, rfl, rfl⟩
    induction run with
    | start adds => exact Runs.start (c := c.ending f) (adds_ending_iff.mpr adds)
    | @resume es _ s v v' _ adds ih =>
      have waits : (c.ending f).Runs w es (v, .waiting s) := by
        simpa [Turn.notes, Turn.ending, World.emitAll] using ih
      rw [List.append_assoc]
      exact Runs.resume waits (adds_ending_iff.mpr adds)

theorem runs_prepared {f : World → World × α} {grows : ∀ w, ∃ es, (f w).1.trace = w.trace ++ es}
    {c : α → Activity τ ρ} {t : Turn (α × τ) ρ} : (prepared f grows c).Runs w es t ↔
      ∃ before es' t', (f w).1.trace = w.trace ++ before ∧ (c (f w).2).Runs (f w).1 es' t' ∧
        es = before ++ es' ∧ t = t'.within fun s => ((f w).2, s) := by
  constructor
  · intro run
    obtain ⟨before, added⟩ := grows w
    induction run with
    | start adds =>
      obtain ⟨es', adds'⟩ := (c (f w).2).start_grows (f w).1
      refine ⟨before, es', _, added, .start adds', ?_, rfl⟩
      exact adds.unique (adds_within_iff.mpr ((Turn.adds_append_iff added).mpr adds'))
    | @resume es es₂ s v v' _ adds ih =>
      obtain ⟨before, es₁, ⟨v₁, p⟩, added, run, rfl, same⟩ := ih
      cases p with
      | waiting s' =>
        cases same
        exact ⟨before, es₁ ++ es₂, _, added, .resume run (adds_within_iff.mp adds),
          List.append_assoc .., rfl⟩
      | finished r | crashed payload => cases same
  · rintro ⟨before, es', t', added, run, rfl, rfl⟩
    induction run with
    | start adds =>
      exact Runs.start (c := prepared f grows c)
        (adds_within_iff.mpr ((Turn.adds_append_iff added).mpr adds))
    | resume _ adds ih =>
      rw [← List.append_assoc]
      exact Runs.resume (c := prepared f grows c) ih (adds_within_iff.mpr adds)

/-- How far one activity and then another have come: within the first, which may have died there,
or within the second. -/
inductive Along (c : Activity σ ρ) (next : ρ → Activity τ ρ') (w : World) :
    List Event → Turn (σ ⊕ ρ × τ) ρ' → Prop
  | first {es : List Event} {v : World} {s : σ} (run : c.Runs w es (v, .waiting s)) :
    Along c next w es (v, .waiting (.inl s))
  | died {es : List Event} {v : World} {payload : Option String}
    (run : c.Runs w es (v, .crashed payload)) : Along c next w es (v, .crashed payload)
  | second {es es' : List Event} {v : World} {r : ρ} {t : Turn τ ρ'}
    (run : c.Runs w es (v, .finished r)) (rest : (next r).Runs v es' t) :
    Along c next w (es ++ es') (t.within fun s => .inr (r, s))

/-- A turn of the first activity, and of the second one if that was the last. -/
theorem along_into {next : ρ → Activity τ ρ'} {es es' : List Event} {t : Turn σ ρ} {v : World}
    (run : ∀ es', t.Adds v es' → c.Runs w (es ++ es') t) (grows : ∃ es', t.Adds v es')
    (adds : (into next t).Adds v es') : c.Along next w (es ++ es') (into next t) := by
  obtain ⟨v', s | r | payload⟩ := t
  case waiting => exact .first (run es' adds)
  case crashed => exact .died (run es' adds)
  case finished =>
    obtain ⟨es₁, adds₁⟩ := grows
    obtain ⟨es₂, adds₂⟩ := (next r).start_grows v'
    rw [adds.unique (adds_within_iff.mpr ((Turn.adds_append_iff adds₁).mpr adds₂)),
      ← List.append_assoc]
    exact .second (run es₁ adds₁) (.start adds₂)

/-- The whole comes to where its first part has come, or goes on from there. -/
theorem runs_into {next : ρ → Activity τ ρ'} {t : Turn σ ρ} (run : c.Runs w es t)
    {es' : List Event} (adds : (into next t).Adds t.1 es') :
    (c.bind next).Runs w (es ++ es') (into next t) := by
  induction run generalizing es' with
  | start adds' => exact Runs.start (c := c.bind next) ((Turn.adds_append_iff adds').mpr adds)
  | @resume es es₂ s v v' _ adds' ih =>
    have waits : (c.bind next).Runs w es (v, .waiting (.inl s)) := by
      rw [← List.append_nil es]
      exact ih (List.append_nil _).symm
    rw [List.append_assoc]
    exact Runs.resume waits ((Turn.adds_append_iff adds').mpr adds)

theorem runs_bind {next : ρ → Activity τ ρ'} {t : Turn (σ ⊕ ρ × τ) ρ'} :
    (c.bind next).Runs w es t ↔ c.Along next w es t := by
  constructor
  · intro run
    induction run with
    | @start es adds =>
      show c.Along next w ([] ++ es) _
      exact along_into (fun _ => .start) (c.start_grows w) adds
    | @resume es es₂ s v v' before adds ih =>
      generalize ht : ((v, .waiting s) : Turn (σ ⊕ ρ × τ) ρ') = t at ih
      cases ih with
      | first run =>
        cases ht
        exact along_into (fun _ => .resume run) (c.resume_grows _ v') adds
      | died run => cases ht
      | @second es es' v r t run rest =>
        obtain ⟨v₁, s' | r' | payload⟩ := t
        case waiting =>
          cases ht
          rw [List.append_assoc]
          exact .second run (.resume rest (adds_within_iff.mp adds))
        case finished => cases ht
        case crashed => cases ht
  · have nothing : ∀ {v : World} {p : Progress (σ ⊕ ρ × τ) ρ'}, Turn.Adds v [] (v, p) :=
      (List.append_nil _).symm
    rintro (run | run | ⟨run, rest⟩)
    · rw [← List.append_nil es]
      exact runs_into run nothing
    · rw [← List.append_nil es]
      exact runs_into run nothing
    · induction rest with
      | start adds => exact runs_into run (adds_within_iff.mpr adds)
      | resume _ adds ih =>
        rw [← List.append_assoc]
        exact Runs.resume (c := c.bind next) ih (adds_within_iff.mpr adds)

end Rules

/-! ## Endings -/

/-- An activity that is started in a world is over in this way, and leaves this world behind. -/
def Ends (c : Activity σ ρ) (w : World) (es : List Event) (e : Completion ρ) (v : World) : Prop :=
  c.Runs w es (v, .over e)

section Endings

variable {c : Activity σ ρ} {w v : World} {es : List Event}

theorem over_inj {e e' : Completion ρ} (h : (Progress.over e : Progress σ ρ) = .over e') :
    e = e' := by
  cases e <;> cases e' <;> cases h <;> rfl

/-- A turn is over, or something is waited for. -/
theorem over_or_waiting (t : Turn σ ρ) :
    (∃ v e, t = (v, .over e)) ∨ ∃ v s, t = (v, .waiting s) := by
  obtain ⟨v, s | r | payload⟩ := t
  · exact .inr ⟨v, s, rfl⟩
  · exact .inl ⟨v, .ok r, rfl⟩
  · exact .inl ⟨v, .error payload, rfl⟩

theorem within_over (embed : σ → τ) (v : World) (e : Completion ρ) :
    Turn.within embed (v, .over e) = (v, .over e) := by
  cases e <;> rfl

theorem within_eq_over {t : Turn σ ρ} {embed : σ → τ} {e : Completion ρ} :
    (v, .over e) = t.within embed ↔ t = (v, .over e) := by
  constructor
  · intro same
    obtain ⟨v', e', rfl⟩ | ⟨v', s, rfl⟩ := over_or_waiting t
    · rw [within_over] at same
      obtain ⟨rfl, last⟩ := Prod.mk.inj same
      rw [over_inj last]
    · cases e <;> cases same
  · rintro rfl
    exact (within_over ..).symm

theorem ends_done {r : ρ} {e : Completion ρ} :
    (done r : Activity σ ρ).Ends w es e v ↔ es = [] ∧ e = .ok r ∧ v = w := by
  rw [Ends, runs_done, Prod.mk.injEq, And.comm (a := v = w)]
  refine and_congr_right fun _ => and_congr_left fun _ => ?_
  exact ⟨fun same => @over_inj _ _ e (.ok r) same, fun same => same ▸ rfl⟩

theorem ends_noted {before : List Event} {e : Completion ρ} : (c.noted before).Ends w es e v ↔
    ∃ es', es = before ++ es' ∧ c.Ends (w.emitAll before) es' e v :=
  runs_noted

theorem ends_ending {f : Completion ρ → List Event × Completion ρ'} {e : Completion ρ'} :
    (c.ending f).Ends w es e v ↔ ∃ es' e' v', c.Ends w es' e' v' ∧ es = es' ++ (f e').1 ∧
      e = (f e').2 ∧ v = v'.emitAll (f e').1 := by
  have last : ∀ (e' : Completion ρ) (v' : World),
      Turn.notes f ((v', .over e') : Turn σ ρ) = (f e').1 ∧
        Turn.ending f ((v', .over e') : Turn σ ρ) = (v'.emitAll (f e').1, .over (f e').2) := by
    intro e' v'
    cases e' <;> exact ⟨rfl, rfl⟩
  rw [Ends, runs_ending]
  constructor
  · rintro ⟨es', t, run, rfl, same⟩
    obtain ⟨v', e', rfl⟩ | ⟨v', s, rfl⟩ := over_or_waiting t
    · rw [(last e' v').2] at same
      obtain ⟨rfl, done⟩ := Prod.mk.inj same
      exact ⟨es', e', v', run, by rw [(last e' v').1], over_inj done, rfl⟩
    · cases e <;> cases same
  · rintro ⟨es', e', v', run, rfl, rfl, rfl⟩
    exact ⟨es', _, run, by rw [(last e' v').1], (last e' v').2.symm⟩

theorem ends_prepared {f : World → World × α} {grows : ∀ w, ∃ es, (f w).1.trace = w.trace ++ es}
    {c : α → Activity τ ρ} {e : Completion ρ} : (prepared f grows c).Ends w es e v ↔
      ∃ before es', (f w).1.trace = w.trace ++ before ∧ (c (f w).2).Ends (f w).1 es' e v ∧
        es = before ++ es' := by
  rw [Ends, runs_prepared]
  constructor
  · rintro ⟨before, es', t, added, run, rfl, same⟩
    rw [within_eq_over.mp same] at run
    exact ⟨before, es', added, run, rfl⟩
  · rintro ⟨before, es', added, run, rfl⟩
    exact ⟨before, es', _, added, run, rfl, (within_over ..).symm⟩

/-- Two activities are over when the second is, or when the first has died. -/
theorem ends_bind {next : ρ → Activity τ ρ'} {e : Completion ρ'} : (c.bind next).Ends w es e v ↔
    (∃ payload, e = .error payload ∧ c.Ends w es (.error payload) v) ∨
      ∃ es₁ es₂ r u, c.Ends w es₁ (.ok r) u ∧ (next r).Ends u es₂ e v ∧ es = es₁ ++ es₂ := by
  rw [Ends, runs_bind]
  constructor
  · intro along
    generalize ht : ((v, .over e) : Turn (σ ⊕ ρ × τ) ρ') = t at along
    cases along with
    | first => cases e <;> cases ht
    | @died es v' payload run =>
      obtain ⟨rfl, same⟩ := Prod.mk.inj ht
      exact .inl ⟨payload, @over_inj _ _ e (.error payload) same, run⟩
    | @second es₁ es₂ u r t run rest =>
      rw [within_eq_over.mp ht] at rest
      exact .inr ⟨es₁, es₂, r, u, run, rest, rfl⟩
  · rintro (⟨payload, rfl, run⟩ | ⟨es₁, es₂, r, u, run, rest, rfl⟩)
    · exact .died run
    · have along := Along.second run rest
      rwa [within_over] at along

/-- Something that waits once, and is over when it is resumed, comes to that and to nothing else. -/
theorem exists_ends_iff_of_waits_once {s : σ} {first last : List Event} {e e' : Completion ρ}
    (started : ∀ w, (c.start w).2 = .waiting s ∧ (c.start w).Adds w first)
    (resumed : ∀ w, (c.resume s w).2 = .over e ∧ (c.resume s w).Adds w last) :
    (∃ v, c.Ends w es e' v) ↔ e' = e ∧ es = first ++ last := by
  constructor
  · rintro ⟨v, ends⟩
    have stages : ∀ {es t}, c.Runs w es t →
        (t.2 = .waiting s ∧ es = first) ∨ (t.2 = .over e ∧ es = first ++ last) := by
      intro es t run
      induction run with
      | start adds => exact .inl ⟨(started w).1, adds.unique (started w).2⟩
      | @resume _ _ s' _ v' _ adds ih =>
        rcases ih with ⟨waits, rfl⟩ | ⟨past, -⟩
        · obtain rfl : s' = s := Progress.waiting.inj waits
          exact .inr ⟨(resumed v').1, by rw [adds.unique (resumed v').2]⟩
        · cases e <;> cases past
    rcases stages ends with ⟨waits, -⟩ | ⟨past, is⟩
    · cases e' <;> cases waits
    · exact ⟨over_inj past, is⟩
  · rintro ⟨rfl, rfl⟩
    have waits : c.Runs w first ((c.start w).1, .waiting s) := by
      rw [← (started w).1]
      exact .start (started w).2
    have ends := waits.resume (resumed (c.start w).1).2
    refine ⟨(c.resume s (c.start w).1).1, ?_⟩
    rw [Ends, ← (resumed (c.start w).1).1]
    exact ends

end Endings

end Activity

end TopicWorker
