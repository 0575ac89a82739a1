import Mathlib.Data.List.Sort
import TopicWorker.Proofs.Loop
import TopicWorker.Proofs.Replacement

/-!
# What is propagated

The publisher of a message decides what stands in its header table: texts and numbers, tables in
tables, bytes that are no text. Of all this only texts are propagated, under their very keys. So the
context of a message depends on nothing else, whichever names are asked for, in which order, and
however the next name depends on the last text. What is no text can be put into a table, taken out
of it or changed without any effect on the context, and what cannot be read does no harm: it is told
of, and counts as absent.

## Main definitions

* `Headers.Holds`, `Headers.Garbled`: what stands in a table under a key.
* `Headers.Alike`, `Headers.readable`: tables with the same texts, and what they have in common.
* `Propagator`: something that reads a context and asks for nothing but texts.
* `Headers.carried`: the context that the propagator of a worker reads.

## Main results

* `Headers.read_spec`: what is read under a key, and what is told.
* `Headers.readable_eq_iff`: tables with the same texts have the same readable part.
* `Propagator.context_congr`: they carry the same context.
* `Propagator.context_ofNames`: the propagator of a worker is one of many.
-/

namespace TopicWorker

open Text.Utf8

variable {γ : Type}

/-! ## Under a key -/

/-- The text that a value is. -/
def HeaderValue.text? : HeaderValue → Option String
  | longString bs => decode? bs
  | _ => none

theorem HeaderValue.text?_eq_some_iff {v : HeaderValue} {s : String} :
    v.text? = some s ↔ v = .longString s.toUTF8.data.toList := by
  cases v with
  | longString bs => rw [text?, decode?_eq_some_iff, longString.injEq]
  | _ => exact ⟨nofun, nofun⟩

namespace Headers

variable {h h' : Headers} {key s : String} {v : HeaderValue}

/-- A text stands in a table under a key. -/
def Holds (h : Headers) (key s : String) : Prop :=
  (key, .longString s.toUTF8.data.toList) ∈ h.entries

/-- Something stands in a table under a key that should be a text, and is none. -/
def Garbled (h : Headers) (key : String) : Prop :=
  ∃ bs, (key, .longString bs) ∈ h.entries ∧ ¬ WellFormed bs

/-- The value under a key is the one in its entry. -/
theorem get?_eq_some_iff : h.get? key = some v ↔ (key, v) ∈ h.entries := by
  rw [get?, List.lookup_eq_some_iff]
  constructor
  · rintro ⟨before, after, split, -⟩
    simp [split]
  · intro mem
    obtain ⟨before, after, split⟩ := List.append_of_mem mem
    refine ⟨before, after, split, fun e he => ?_⟩
    have order := h.ascending
    rw [split, List.pairwise_append] at order
    have less := order.2.2 e he _ List.mem_cons_self
    simpa using (Std.ne_of_lt less).symm

theorem entry_unique {v' : HeaderValue} (mem : (key, v) ∈ h.entries)
    (mem' : (key, v') ∈ h.entries) : v = v' :=
  Option.some.inj ((get?_eq_some_iff.mpr mem).symm.trans (get?_eq_some_iff.mpr mem'))

theorem read_longString {bs : List UInt8} (there : h.get? key = some (.longString bs)) :
    h.read key = match decode bs with
      | .ok cs => (some (String.ofList cs), [])
      | .error fault => (none, [fault.entry]) := by
  have same : h.text? key = (decode bs).map fun cs => some (String.ofList cs) := by
    rw [text?, there]
  rw [read, same]
  cases decode bs <;> rfl

theorem read_other (other : ∀ bs, h.get? key ≠ some (.longString bs)) :
    h.read key = (none, []) := by
  have absent : h.text? key = .ok none := by
    rw [text?]
    split
    · next bs there => exact absurd there (other bs)
    · rfl
  rw [read, absent]

/-- A text is read under its very key, and nothing else. What should be a text and is none is told
of once, and otherwise nothing is told. -/
theorem read_spec (h : Headers) (key : String) :
    (∀ s, (h.read key).1 = some s ↔ h.Holds key s) ∧
      (h.Garbled key → ∃ e, (h.read key).2 = [e] ∧ e.level = .error) ∧
      (¬ h.Garbled key → (h.read key).2 = []) := by
  by_cases text : ∃ bs, h.get? key = some (.longString bs)
  · obtain ⟨bs, there⟩ := text
    have entry := get?_eq_some_iff.mp there
    have value : ∀ bs', (key, .longString bs') ∈ h.entries → bs = bs' := by
      intro bs' mem
      exact HeaderValue.longString.inj (entry_unique entry mem)
    have holds : ∀ s, h.Holds key s ↔ decode? bs = some s := by
      intro s
      rw [decode?_eq_some_iff]
      exact ⟨value _, fun same => by rw [Holds, ← same]; exact entry⟩
    rw [read_longString there]
    cases read : decode bs with
    | ok cs =>
      have found : decode? bs = some (String.ofList cs) := by rw [decode?, read]; rfl
      refine ⟨fun s => by rw [holds, found], ?_, fun _ => rfl⟩
      rintro ⟨bs', mem, ill⟩
      obtain rfl := value bs' mem
      exact absurd ⟨_, decode?_eq_some_iff.mp found⟩ ill
    | error fault =>
      have missing : decode? bs = none := by rw [decode?, read]; rfl
      refine ⟨fun s => by rw [holds, missing], fun _ => ⟨_, rfl, rfl⟩, fun well => ?_⟩
      refine absurd ⟨bs, entry, ?_⟩ well
      rintro ⟨s, written⟩
      rw [decode?_eq_some_iff.mpr written] at missing
      cases missing
  · have none : ∀ bs, (key, .longString bs) ∉ h.entries := fun bs mem =>
      text ⟨bs, get?_eq_some_iff.mpr mem⟩
    rw [read_other fun bs there => text ⟨bs, there⟩]
    refine ⟨fun s => iff_of_false (by simp) (none _), ?_, fun _ => rfl⟩
    rintro ⟨bs, mem, -⟩
    exact absurd mem (none bs)

/-- Every key of a table is listed, whatever stands under it. -/
theorem mem_keys_iff_entry : key ∈ h.keys ↔ ∃ v, (key, v) ∈ h.entries := by
  rw [mem_keys_iff, Option.isSome_iff_exists]
  exact exists_congr fun _ => get?_eq_some_iff

/-! ## The same texts -/

/-- Two tables with the same texts. -/
def Alike (h h' : Headers) : Prop := ∀ key s, h.Holds key s ↔ h'.Holds key s

/-- The part of a table that is texts. -/
def readable (h : Headers) : Headers :=
  ⟨h.entries.filter fun e => e.2.text?.isSome, h.ascending.filter _⟩

theorem mem_readable_iff :
    (key, v) ∈ h.readable.entries ↔ ∃ s, v = .longString s.toUTF8.data.toList ∧ h.Holds key s := by
  simp only [readable, List.mem_filter, Option.isSome_iff_exists, HeaderValue.text?_eq_some_iff,
    Holds]
  constructor
  · rintro ⟨mem, s, rfl⟩
    exact ⟨s, rfl, mem⟩
  · rintro ⟨s, rfl, mem⟩
    exact ⟨mem, s, rfl⟩

theorem nodup_entries (h : Headers) : h.entries.Nodup := .of_map _ h.keys_nodup

/-- Tables with the same entries are the same. -/
theorem ext_entries (same : ∀ key v, (key, v) ∈ h.entries ↔ (key, v) ∈ h'.entries) : h = h' := by
  have permuted : h.entries.Perm h'.entries :=
    (List.perm_ext_iff_of_nodup h.nodup_entries h'.nodup_entries).mpr fun e => same e.1 e.2
  have equal : h.entries = h'.entries :=
    permuted.eq_of_pairwise (fun e e' _ _ less more => absurd less (String.lt_asymm more))
      h.ascending h'.ascending
  cases h
  cases h'
  cases equal
  rfl

/-- The readable part has the same texts. -/
theorem alike_readable (h : Headers) : h.Alike h.readable := by
  intro key s
  rw [Holds, Holds, mem_readable_iff]
  exact ⟨fun holds => ⟨s, rfl, holds⟩, fun ⟨t, written, holds⟩ => by rwa [written]⟩

/-- Tables have the same texts exactly when they have the same readable part. -/
theorem readable_eq_iff : h.readable = h'.readable ↔ h.Alike h' := by
  constructor
  · intro same key s
    rw [alike_readable h, alike_readable h', same]
  · intro alike
    refine ext_entries fun key v => ?_
    simp only [mem_readable_iff, alike key]

theorem mem_place_iff {k : String} {x : HeaderValue} {entries : List (String × HeaderValue)}
    (order : entries.Pairwise (fun a b => a.1 < b.1)) : (k, x) ∈ place key v entries ↔
      (k = key ∧ x = v) ∨ (k ≠ key ∧ (k, x) ∈ entries) := by
  induction entries with
  | nil => simp [place]
  | cons e entries ih =>
    obtain ⟨k', v'⟩ := e
    obtain ⟨below, order⟩ := List.pairwise_cons.mp order
    have behind : (k, x) ∈ entries → k' < k := below (k, x)
    simp only [place]
    split
    · next less =>
      have other : (k, x) ∈ (k', v') :: entries → k ≠ key := by
        rintro mem rfl
        rcases List.mem_cons.mp mem with same | mem
        · obtain ⟨rfl, -⟩ := Prod.mk.inj same
          exact String.lt_irrefl _ less
        · exact String.lt_asymm less (behind mem)
      rw [List.mem_cons, Prod.mk.injEq]
      exact or_congr_right ⟨fun mem => ⟨other mem, mem⟩, And.right⟩
    · split
      · next same =>
        subst same
        have other : (k, x) ∈ entries → k ≠ key := fun mem => (Std.ne_of_lt (behind mem)).symm
        simp only [List.mem_cons, Prod.mk.injEq]
        refine or_congr_right ⟨fun mem => ⟨other mem, .inr mem⟩, ?_⟩
        rintro ⟨apart, ⟨same, -⟩ | mem⟩
        · exact absurd same apart
        · exact mem
      · next differs =>
        simp only [List.mem_cons, Prod.mk.injEq, ih order]
        grind

/-- A table with something put into it has the new entry, and the old ones under other keys. -/
theorem mem_insert_iff {k : String} {x : HeaderValue} : (k, x) ∈ (h.insert key v).entries ↔
    (k = key ∧ x = v) ∨ (k ≠ key ∧ (k, x) ∈ h.entries) :=
  mem_place_iff h.ascending

/-- To put something into a table that is no text, where no text stands, leaves the texts as they
are. -/
theorem alike_insert (unread : v.text? = none) (free : ∀ s, ¬ h.Holds key s) :
    h.Alike (h.insert key v) := by
  intro k s
  simp only [Holds, mem_insert_iff]
  constructor
  · intro holds
    refine .inr ⟨?_, holds⟩
    rintro rfl
    exact free s holds
  · rintro (⟨rfl, rfl⟩ | ⟨-, holds⟩)
    · rw [HeaderValue.text?_eq_some_iff.mpr rfl] at unread
      cases unread
    · exact holds

end Headers

/-! ## Propagators -/

/-- Something that reads a context from a table. All that it asks for are texts under names; which
name is next may depend on the texts so far. -/
inductive Propagator (γ : Type) where
  | yields (context : γ)
  | asks (name : String) (next : Option String → Propagator γ)

/-- The context that headers carry, by the names that the propagator of a worker asks for. -/
def Headers.carried (h : Headers) : Option (List String) → TraceContext
  | none => {}
  | some names => (h.extract names).context

namespace Propagator

/-- The context that a propagator reads, and what is told on the way. -/
def run (h : Headers) : Propagator γ → γ × List LogEntry
  | yields context => (context, [])
  | asks name next =>
    let (context, told) := (next (h.read name).1).run h
    (context, (h.read name).2 ++ told)

/-- The context that a propagator reads. -/
def context (P : Propagator γ) (h : Headers) : γ := (P.run h).1

variable {h h' : Headers}

theorem read_congr (alike : h.Alike h') (name : String) : (h.read name).1 = (h'.read name).1 := by
  refine Option.ext fun s => ?_
  rw [(h.read_spec name).1, (h'.read_spec name).1, alike name s]

/-- Tables with the same texts carry the same context. -/
theorem context_congr (alike : h.Alike h') (P : Propagator γ) : P.context h = P.context h' := by
  induction P with
  | yields context => rfl
  | asks name next ih =>
    rw [context, context, run, run, read_congr alike name]
    exact ih _

/-- What is told while a context is read is told by the component that traces. -/
theorem component_run (P : Propagator γ) (h : Headers) :
    ∀ e ∈ (P.run h).2, e.component = .tracing := by
  induction P with
  | yields context => simp [run]
  | asks name next ih =>
    intro e he
    rcases List.mem_append.mp he with he | he
    · exact World.component_extractEntries h [name] e (by simpa [Headers.extractEntries] using he)
    · exact ih _ e he

/-- The names that are asked for one after another, where the first text is the context. -/
def ofNames : List String → Propagator TraceContext
  | [] => yields {}
  | name :: names => asks name fun text => rest text names
where
  /-- The names that are left are asked for, and what they are told is not used. -/
  rest (text : Option String) : List String → Propagator TraceContext
    | [] => yields ⟨text⟩
    | name :: names => asks name fun _ => rest text names

theorem context_rest (text : Option String) (names : List String) (h : Headers) :
    (ofNames.rest text names).context h = ⟨text⟩ := by
  induction names with
  | nil => rfl
  | cons name names ih => exact ih

/-- The propagator that a worker has installed is one of these. -/
theorem context_ofNames (names : List String) (h : Headers) :
    (ofNames names).context h = h.carried (some names) := by
  cases names with
  | nil => rfl
  | cons name names => exact context_rest ..

end Propagator

/-- A propagator that asks for a second text where it has found the first one. -/
def chained : Propagator (Option String × Option String) :=
  .asks "traceparent" fun
    | none => .yields (none, none)
    | some parent => .asks "tracestate" fun state => .yields (some parent, state)

/-- Tables with the same texts carry the same context, by whatever names a worker asks for. -/
theorem Headers.carried_congr {h h' : Headers} (alike : h.Alike h')
    (names : Option (List String)) : h.carried names = h'.carried names := by
  cases names with
  | none => rfl
  | some names =>
    rw [← Propagator.context_ofNames, ← Propagator.context_ofNames,
      Propagator.context_congr alike]

end TopicWorker
