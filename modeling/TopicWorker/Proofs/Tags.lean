import TopicWorker.Proofs.Registrations

/-!
# Tags tell receivers apart

A receiver has the tag that its registration was asked for with, and no two registrations are asked
for with the same one. A registration opens one receiver at most, for the job that has asked for it
waits for nothing else and goes on from its answer. So no two receivers have the same tag.

## Main definitions

* `System.Tagged`: tags belong to one receiver each, or to one job that waits for it.

## Main results

* `System.tagged_after`: so it is in every reachable system.
-/

namespace TopicWorker

namespace System

/-- A tag whose number has been given out. -/
def Given (s : System) (tag : String) : Prop :=
  ∃ k ≤ s.world.registrations, tag = consumerTag k

/-- A job waits for a consumer that it has asked for under a tag. -/
def AwaitsTag (s : System) (n : Nat) (tag : String) : Prop :=
  ∃ t g, s.jobs[n]? = some (.waiting t) ∧ t.registering? = some (g, tag)

/-- Every tag has been given out, and belongs to one receiver or to one job that waits for it. -/
structure Tagged (s : System) : Prop where
  opened : ∀ r < s.world.receivers.length, s.Given (s.world.receiver r).tag
  awaited : ∀ n tag, s.AwaitsTag n tag → s.Given tag
  apart : ∀ r < s.world.receivers.length, ∀ r' < s.world.receivers.length,
    (s.world.receiver r).tag = (s.world.receiver r').tag → r = r'
  unopened : ∀ n tag, s.AwaitsTag n tag → ∀ r < s.world.receivers.length,
    (s.world.receiver r).tag ≠ tag
  alone : ∀ n n' tag, s.AwaitsTag n tag → s.AwaitsTag n' tag → n = n'

section Moves

variable {s : System} {m : Move} {n r : Nat} {tag : String}

/-- A tag that has been given out stays so. -/
theorem registrations_le (s : System) (m : Move) :
    s.world.registrations ≤ (s.move m).world.registrations := by
  obtain ⟨news, -, ⟨same, -⟩ | ⟨more, -⟩⟩ := s.consumes_move m <;> omega

/-- The next tag has not been given out. -/
theorem Given.ne_next (h : s.Given tag) : tag ≠ consumerTag (s.world.registrations + 1) := by
  obtain ⟨k, hk, rfl⟩ := h
  intro same
  have := consumerTag_inj same
  omega

/-- A job that waits for a consumer has done so before and has had no turn, or it has just asked for
it under the next tag. -/
theorem AwaitsTag.of_move (h : (s.move m).AwaitsTag n tag) :
    (s.AwaitsTag n tag ∧ ∀ u, ¬ s.Takes m n u) ∨
      ((∃ u, s.Takes m n u) ∧ tag = consumerTag (s.world.registrations + 1) ∧
        (s.move m).world.registrations = s.world.registrations + 1) := by
  obtain ⟨t, g, job, registering⟩ := h
  rcases job_of_move job with ⟨before, idle⟩ | ⟨-, fresh⟩ | ⟨u, takes, waits, world⟩
  · exact .inl ⟨⟨t, g, before, registering⟩, idle⟩
  · cases fresh
    cases registering
  · refine .inr ⟨⟨u, takes⟩, ?_⟩
    have fits := takes.fits.of_waiting waits
    rcases takes.registers with ⟨-, quiet⟩ | ⟨more, t', p, g', waits', hp, asks, -⟩
    · -- a quiet turn does not leave its job at a registration
      obtain ⟨p, hp, is⟩ := Option.map_eq_some_iff.mp
        (fits.trans (Task.method?_of_registering registering))
      exact absurd is (quiet.of_waiting waits p hp)
    · rw [waits, Progress.waiting.injEq] at waits'
      subst waits'
      rw [registering, Option.some.injEq, Prod.mk.injEq] at asks
      exact ⟨asks.2, world ▸ more⟩

/-- A receiver has been there before, under the same tag, or it has just been opened for a job that
has waited for it. -/
theorem tag_of_move (hr : r < (s.move m).world.receivers.length) :
    (r < s.world.receivers.length ∧
      ((s.move m).world.receiver r).tag = (s.world.receiver r).tag) ∨
    (r = s.world.receivers.length ∧ ∃ n u, s.Takes m n u ∧
      s.AwaitsTag n ((s.move m).world.receiver r).tag) := by
  by_cases before : r < s.world.receivers.length
  · obtain ⟨-, undergoes⟩ := s.follows m before
    exact .inl ⟨before, undergoes.frame.1⟩
  · obtain ⟨-, -, opened⟩ := s.appears m (Nat.le_of_not_lt before)
    obtain ⟨n, t, g, tag, rfl, job, registering, new, is⟩ :=
      opened _ (World.getElem?_receivers hr)
    have acts : s.isRunnable (.job n) = true := by
      by_contra idle
      have still : s.move (.act (.job n)) = s := by simp [move, act, idle]
      rw [still] at hr
      exact before hr
    obtain ⟨t', job', ready⟩ := (isRunnable_job s n).mp acts
    refine .inr ⟨new, n, _, .goesOn job' ready, t, g, job, ?_⟩
    rw [is]
    exact registering

/-- Tags belong to one receiver each after a move, too. -/
theorem Tagged.move (h : s.Tagged) (m : Move) : (s.move m).Tagged := by
  have given : ∀ {tag}, s.Given tag → (s.move m).Given tag := by
    rintro tag ⟨k, hk, rfl⟩
    exact ⟨k, Nat.le_trans hk (s.registrations_le m), rfl⟩
  constructor
  case opened =>
    intro r hr
    rcases tag_of_move hr with ⟨before, same⟩ | ⟨-, n, u, -, awaited⟩
    · rw [same]
      exact given (h.opened r before)
    · exact given (h.awaited n _ awaited)
  case awaited =>
    intro n tag awaits
    rcases awaits.of_move with ⟨before, -⟩ | ⟨-, rfl, more⟩
    · exact given (h.awaited n tag before)
    · exact ⟨_, Nat.le_of_eq more.symm, rfl⟩
  case apart =>
    intro r hr r' hr' tags
    rcases tag_of_move hr with ⟨before, same⟩ | ⟨new, n, u, -, awaited⟩ <;>
      rcases tag_of_move hr' with ⟨before', same'⟩ | ⟨new', n', u', -, awaited'⟩
    · rw [same, same'] at tags
      exact h.apart r before r' before' tags
    · rw [same] at tags
      exact absurd tags (h.unopened n' _ awaited' r before)
    · rw [same'] at tags
      exact absurd tags.symm (h.unopened n _ awaited r' before')
    · rw [new, new']
  case unopened =>
    intro n tag awaits r hr tags
    rcases awaits.of_move with ⟨before, idle⟩ | ⟨-, rfl, -⟩ <;>
      rcases tag_of_move hr with ⟨there, same⟩ | ⟨-, n', u, takes, awaited⟩
    · rw [same] at tags
      exact h.unopened n tag before r there tags
    · rw [tags] at awaited
      obtain rfl := h.alone n n' tag before awaited
      exact idle u takes
    · rw [same] at tags
      exact (h.opened r there).ne_next tags
    · exact (h.awaited n' _ awaited).ne_next tags
  case alone =>
    intro n n' tag awaits awaits'
    rcases awaits.of_move with ⟨before, -⟩ | ⟨⟨u, takes⟩, fresh, -⟩ <;>
      rcases awaits'.of_move with ⟨before', -⟩ | ⟨⟨u', takes'⟩, fresh', -⟩
    · exact h.alone n n' tag before before'
    · exact absurd fresh' (h.awaited n tag before).ne_next
    · exact absurd fresh (h.awaited n' tag before').ne_next
    · exact (takes.unique takes').1

end Moves

/-- Every tag belongs to one receiver, or to one job that waits for it. -/
theorem tagged_after (setup : Setup) (h : List Move) : (setup.system.after h).Tagged := by
  induction h using List.reverseRecOn with
  | nil =>
    have nobody : ∀ n tag, ¬ setup.system.AwaitsTag n tag := by
      rintro n tag ⟨t, g, job, -⟩
      cases job
    have nothing : ∀ r, ¬ r < setup.system.world.receivers.length := fun r => Nat.not_lt_zero r
    exact ⟨fun r hr => absurd hr (nothing r), fun n tag a => absurd a (nobody n tag),
      fun r hr => absurd hr (nothing r), fun n tag a => absurd a (nobody n tag),
      fun n _ tag a => absurd a (nobody n tag)⟩
  | append_singleton h m ih =>
    rw [after_concat]
    exact ih.move m

end System

end TopicWorker
