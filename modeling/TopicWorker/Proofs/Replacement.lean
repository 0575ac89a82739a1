import Mathlib.Algebra.Group.Nat.Defs
import TopicWorker.Proofs.Encoding

/-!
# Reading what may be no text

Bytes that are no text are read all the same: every character that is there is kept, and U+FFFD
stands for the rest. How often it does so is settled by the Unicode standard. Where no character can
be read, the bytes that a text could begin with are taken together, as many of them as there are,
and one of them at least. They are the *maximal subpart* there, and one U+FFFD stands for all of
them.

The automaton does not look back: it is inside a character as long as some character is expected,
and what it has read by then is what a text could begin with. So it breaks off where the maximal
subpart ends.

## Main definitions

* `WellFormed`, `MaximalSubpart`, `Repaired`: the standard's terms, without the automaton.
* `Held`: what has been read where the automaton is inside a character.

## Main results

* `decodeLossy_eq_iff`: any bytes are read as the standard says.
* `decodeLossy_encode_append`: a text in front of other bytes is read by itself.
-/

namespace TopicWorker.Text.Utf8

/-! ## The standard's terms -/

/-- Bytes that are a text in UTF-8. -/
def WellFormed (bs : List UInt8) : Prop := ∃ s : String, bs = s.toUTF8.data.toList

/-- A single byte, or bytes that a text begins with. -/
def Subpart (part : List UInt8) : Prop :=
  part ≠ [] ∧ (part.length = 1 ∨ ∃ more, WellFormed (part ++ more))

/-- What one U+FFFD stands for at the beginning of bytes. -/
structure MaximalSubpart (part bs : List UInt8) : Prop where
  unconvertible : ∀ c, ¬ String.utf8EncodeChar c <+: bs
  begins : part <+: bs
  subpart : Subpart part
  longest : ∀ other, other <+: bs → Subpart other → other.length ≤ part.length

/-- What bytes are read as: the characters that are there, and U+FFFD for each maximal subpart of
what is none. -/
inductive Repaired : List UInt8 → List Char → Prop
  | nil : Repaired [] []
  | char {bs : List UInt8} {cs : List Char} (c : Char) (rest : Repaired bs cs) :
    Repaired (String.utf8EncodeChar c ++ bs) (c :: cs)
  | subpart {part bs : List UInt8} {cs : List Char} (maximal : MaximalSubpart part (part ++ bs))
    (rest : Repaired bs cs) : Repaired (part ++ bs) ('\uFFFD' :: cs)

section Terms

variable {bs part part' : List UInt8}

theorem wellFormed_iff : WellFormed bs ↔ ∃ cs, bs = encode cs := by
  constructor
  · rintro ⟨s, rfl⟩
    exact ⟨s.toList, (bytes_eq_toUTF8 s).symm⟩
  · rintro ⟨cs, rfl⟩
    exact ⟨String.ofList cs, by rw [← bytes_eq_toUTF8, bytes, String.toList_ofList]⟩

/-- There is one maximal subpart at most. -/
theorem MaximalSubpart.unique (h : MaximalSubpart part bs) (h' : MaximalSubpart part' bs) :
    part = part' := by
  have length : part.length = part'.length :=
    Nat.le_antisymm (h'.longest _ h.begins h.subpart) (h.longest _ h'.begins h'.subpart)
  have begins := List.prefix_of_prefix_length_le h.begins h'.begins (Nat.le_of_eq length)
  exact begins.eq_of_length length

/-- Bytes that a text begins with, but no character, are the beginning of a character. -/
theorem begun_of_wellFormed {more : List UInt8} (filled : part ≠ [])
    (unconvertible : ∀ c, ¬ encodeChar c <+: part) (text : WellFormed (part ++ more)) :
    ∃ c rest, encodeChar c = part ++ rest := by
  obtain ⟨cs, written⟩ := wellFormed_iff.mp text
  cases cs with
  | nil => exact absurd (List.append_eq_nil_iff.mp written).1 filled
  | cons c cs =>
    rw [encode_cons] at written
    rcases List.append_eq_append_iff.mp written with ⟨rest, split, -⟩ | ⟨rest, split, -⟩
    · exact ⟨c, rest, split⟩
    · exact absurd (split ▸ List.prefix_append _ _) (unconvertible c)

/-- A subpart is maximal if no character goes on with the byte behind it. -/
theorem maximalSubpart_of_stuck {rest : List UInt8} (subpart : Subpart part)
    (unconvertible : ∀ c, ¬ encodeChar c <+: part ++ rest)
    (stuck : ∀ b rest', rest = b :: rest' → ∀ c more, encodeChar c ≠ part ++ b :: more) :
    MaximalSubpart part (part ++ rest) where
  unconvertible := by simpa only [← encodeChar_eq_utf8EncodeChar] using unconvertible
  begins := List.prefix_append _ _
  subpart := subpart
  longest := by
    rintro other begins ⟨filled, kind⟩
    refine Nat.le_of_not_lt fun longer => ?_
    obtain ⟨x, rfl⟩ : part <+: other :=
      List.prefix_of_prefix_length_le (List.prefix_append _ _) begins (by omega)
    cases x with
    | nil => simp at longer
    | cons b x =>
      obtain ⟨y, split⟩ := begins
      rw [List.append_assoc, List.append_cancel_left_eq] at split
      rcases kind with one | ⟨more, text⟩
      · have long := List.length_pos_iff.mpr subpart.1
        simp only [List.length_append, List.length_cons] at one
        omega
      · have none : ∀ c, ¬ encodeChar c <+: part ++ b :: x := by
          rintro c front
          refine unconvertible c (front.trans ⟨y, ?_⟩)
          rw [List.append_assoc, split]
        obtain ⟨c, z, written⟩ := begun_of_wellFormed filled none text
        exact stuck b (x ++ y) split.symm c (x ++ z) (by rw [written, List.append_assoc]; rfl)

end Terms

/-! ## Inside a character -/

theorem above_mul_pow (m k : Nat) : above (m * 64 ^ k) k = m := by
  induction k generalizing m with
  | zero => simp [above]
  | succ k ih =>
    have shift : m * 64 ^ (k + 1) = m * 64 * 64 ^ k := by
      rw [Nat.pow_succ, Nat.mul_comm _ 64, Nat.mul_assoc]
    rw [shift, above_succ, ih, Nat.mul_div_cancel m (by decide)]

/-- Where the bounds leave room for an octet, a number is expected. -/
theorem Partial.Bounded.exists_expects {p : Partial} (bounded : p.Bounded)
    (room : p.low ≤ p.high) : ∃ n, p.Expects n := by
  have least := bounded.low
  have most := bounded.high
  refine ⟨(p.value * 64 + (p.low - 0x80)) * 64 ^ p.owed, ?_, ?_, ?_⟩
  · rw [above_succ, above_mul_pow]
    omega
  · rw [toNat_octet, above_mul_pow]
    omega
  · rw [toNat_octet, above_mul_pow]
    omega

theorem Begins.room {b : UInt8} {p : Partial} (h : Begins b p) : p.low ≤ p.high := by
  cases h with
  | two => exact show 0x80 ≤ 0xBF by decide
  | three octet most low_eq high_eq | four octet most low_eq high_eq =>
    simp only
    split at low_eq <;> split at high_eq <;> omega

theorem room_of_next {p q : Partial} {b : UInt8} (h : p.next b = .more q) : q.low ≤ q.high := by
  simp only [Partial.next] at h
  split at h
  · split at h
    · cases h
    · rw [← Reading.more.inj h]
      exact show 0x80 ≤ 0xBF by decide
  · cases h

/-- What has been read where the automaton is inside a character: the characters that are expected
are those that begin with it, and there are some. -/
structure Held (read : List UInt8) (p : Partial) : Prop where
  filled : read ≠ []
  bounded : p.Bounded
  room : p.low ≤ p.high
  written : ∀ n, p.Expects n → encodeChar (Char.ofNat n) = read ++ tail n (p.owed + 1)
  expects : ∀ c rest, encodeChar c = read ++ rest → p.Expects c.toNat

namespace Held

variable {read bs : List UInt8} {p q : Partial} {b : UInt8}

theorem of_begins (h : Begins b p) : Held [b] p where
  filled := List.cons_ne_nil _ _
  bounded := h.bounded
  room := h.room
  written n expects := (h.encodeChar expects).2
  expects c rest written := by
    rcases Nat.lt_or_ge c.toNat 0x80 with short | long
    · rw [encodeChar_of_lt short] at written
      have lead := congrArg UInt8.toNat (List.cons.inj written).1
      rw [toNat_toUInt8 (by omega)] at lead
      cases h <;> omega
    · obtain ⟨b', p', begins, expects, written'⟩ := begins_encodeChar long
      obtain rfl := (List.cons.inj (written'.symm.trans written)).1
      exact h.unique begins ▸ expects

/-- What was read could be the beginning of a text. -/
theorem subpart (held : Held read p) : Subpart read := by
  obtain ⟨n, expects⟩ := held.bounded.exists_expects held.room
  refine ⟨held.filled, .inr ⟨tail n (p.owed + 1), ?_⟩⟩
  rw [← held.written n expects]
  exact wellFormed_iff.mpr ⟨[Char.ofNat n], by simp [encode]⟩

/-- A character that goes on with an octet is expected, and the octet is the next one of it. -/
theorem expects_next (held : Held read p) {c : Char} {rest : List UInt8}
    (written : encodeChar c = read ++ b :: rest) :
    p.Expects c.toNat ∧ b = octet p.owed c.toNat := by
  have expects := held.expects c _ written
  have row := held.written _ expects
  rw [Char.ofNat_toNat, written, List.append_cancel_left_eq, tail, List.cons.injEq] at row
  exact ⟨expects, row.1⟩

theorem next (held : Held read p) (h : p.next b = .more q) : Held (read ++ [b]) q := by
  obtain ⟨bounded, owed, goesOn⟩ := next_eq_more held.bounded h
  refine ⟨by simp, bounded, room_of_next h, fun n expects => ?_, fun c rest written => ?_⟩
  · obtain ⟨expects', same⟩ := goesOn n expects
    rw [held.written n expects', tail, ← same, owed, List.append_assoc, List.singleton_append]
  · rw [List.append_assoc, List.singleton_append] at written
    obtain ⟨expects, same⟩ := held.expects_next written
    rcases next_octet expects with ⟨last, -⟩ | ⟨q', -, more, -, expects'⟩
    · omega
    · rw [← same, h] at more
      exact Reading.more.inj more ▸ expects'

/-- An octet that ends a character ends one that has begun so. -/
theorem encodeChar_of_next (held : Held read p) {c : Char} (h : p.next b = .char c) :
    encodeChar c = read ++ [b] := by
  obtain ⟨owed, n, rfl, expects, rfl⟩ := next_eq_char held.bounded h
  rw [held.written n expects, owed]
  rfl

/-- No character goes on with an octet that cannot stand there. -/
theorem stuck (held : Held read p) (h : p.next b = .fault) (c : Char) (more : List UInt8) :
    encodeChar c ≠ read ++ b :: more := by
  intro written
  obtain ⟨expects, same⟩ := held.expects_next written
  rcases next_octet expects with ⟨-, ends⟩ | ⟨q, -, goesOn, -⟩
  · rw [← same, h] at ends
    cases ends
  · rw [← same, h] at goesOn
    cases goesOn

end Held

/-! ## What is read -/

/-- An octet that cannot go on with a character is read again. -/
theorem lossyFrom_of_fault {p : Partial} {b : UInt8} (h : p.next b = .fault) (bs : List UInt8) :
    lossyFrom (some p) (b :: bs) = '\uFFFD' :: lossyFrom none (b :: bs) := by
  simp only [lossyFrom, h, replacement]

/-- Where no character can be read, U+FFFD is read for the maximal subpart, and reading goes on
behind it. -/
theorem Held.lossyFrom {read bs : List UInt8} {p : Partial} (held : Held read p)
    (unconvertible : ∀ c, ¬ encodeChar c <+: read ++ bs) :
    ∃ part rest, read ++ bs = part ++ rest ∧ MaximalSubpart part (part ++ rest) ∧
      Utf8.lossyFrom (some p) bs = '\uFFFD' :: Utf8.lossyFrom none rest := by
  induction bs generalizing read p with
  | nil =>
    exact ⟨read, [], rfl, maximalSubpart_of_stuck held.subpart unconvertible (by simp), rfl⟩
  | cons b bs ih =>
    cases hb : p.next b with
    | char c =>
      refine absurd ⟨bs, ?_⟩ (unconvertible c)
      rw [held.encodeChar_of_next hb, List.append_assoc, List.singleton_append]
    | more q =>
      have front : read ++ b :: bs = read ++ [b] ++ bs := by simp
      rw [front] at unconvertible ⊢
      obtain ⟨part, rest, split, maximal, reads⟩ := ih (held.next hb) unconvertible
      exact ⟨part, rest, split, maximal, by rw [← reads, Utf8.lossyFrom, hb]⟩
    | fault =>
      refine ⟨read, b :: bs, rfl, maximalSubpart_of_stuck held.subpart unconvertible ?_,
        lossyFrom_of_fault hb bs⟩
      rintro b' bs' same c more
      rw [← (List.cons.inj same).1]
      exact held.stuck hb c more

/-- No character begins with an octet that cannot stand there. -/
theorem encodeChar_ne_of_fault {b : UInt8} (h : first b = .fault) (c : Char) (more : List UInt8) :
    encodeChar c ≠ b :: more := by
  intro written
  have spells := spells_encodeChar c
  rw [written] at spells
  cases spells with
  | short ends =>
    rw [h] at ends
    cases ends
  | long begins =>
    rw [h] at begins
    cases begins

theorem decodeLossy_of_unconvertible {bs : List UInt8} (filled : bs ≠ [])
    (unconvertible : ∀ c, ¬ encodeChar c <+: bs) :
    ∃ part rest, bs = part ++ rest ∧ MaximalSubpart part (part ++ rest) ∧
      decodeLossy bs = '\uFFFD' :: decodeLossy rest := by
  obtain ⟨b, bs, rfl⟩ := List.exists_cons_of_ne_nil filled
  cases hb : first b with
  | char c =>
    refine absurd ⟨bs, ?_⟩ (unconvertible c)
    rw [← octets_of_first hb, List.singleton_append]
  | more p =>
    obtain ⟨part, rest, split, maximal, reads⟩ :=
      (Held.of_begins (begins_of_first hb)).lossyFrom unconvertible
    refine ⟨part, rest, split, maximal, ?_⟩
    rw [decodeLossy, lossyFrom, hb]
    exact reads
  | fault =>
    refine ⟨[b], bs, rfl, maximalSubpart_of_stuck ⟨by simp, .inl rfl⟩ unconvertible ?_, ?_⟩
    · exact fun _ _ _ c more => encodeChar_ne_of_fault hb c _
    · rw [decodeLossy, lossyFrom, hb]
      rfl

/-- The rest of a character that has begun is read, and reading goes on behind it. -/
theorem Partial.Ends.lossyFrom {p : Partial} {bs : List UInt8} {c : Char} (h : p.Ends bs c)
    (rest : List UInt8) :
    Utf8.lossyFrom (some p) (bs ++ rest) = c :: Utf8.lossyFrom none rest := by
  induction h with
  | last ends => simp [Utf8.lossyFrom, ends]
  | more goesOn _ ih =>
    rw [List.cons_append, Utf8.lossyFrom, goesOn]
    exact ih

/-- A character is read, and reading goes on behind it. -/
theorem decodeLossy_encodeChar_append (c : Char) (rest : List UInt8) :
    decodeLossy (encodeChar c ++ rest) = c :: decodeLossy rest := by
  have spells := spells_encodeChar c
  generalize encodeChar c = bs at spells
  cases spells with
  | short ends => simp [decodeLossy, lossyFrom, ends]
  | long begins ends =>
    rw [decodeLossy, List.cons_append, lossyFrom, begins]
    exact ends.lossyFrom rest

/-- A text in front of other bytes is read by itself. -/
theorem decodeLossy_encode_append (cs : List Char) (bs : List UInt8) :
    decodeLossy (encode cs ++ bs) = cs ++ decodeLossy bs := by
  induction cs with
  | nil => rfl
  | cons c cs ih =>
    rw [encode_cons, List.append_assoc, decodeLossy_encodeChar_append, ih, List.cons_append]

theorem decodeLossy_encode (cs : List Char) : decodeLossy (encode cs) = cs := by
  simpa using decodeLossy_encode_append cs []

/-- What is read can be written to the same bytes exactly when they are a text. -/
theorem encode_decodeLossy_eq_iff {bs : List UInt8} :
    encode (decodeLossy bs) = bs ↔ WellFormed bs := by
  rw [wellFormed_iff]
  constructor
  · exact fun same => ⟨_, same.symm⟩
  · rintro ⟨cs, rfl⟩
    rw [decodeLossy_encode]

theorem repaired_decodeLossy (bs : List UInt8) : Repaired bs (decodeLossy bs) := by
  induction h : bs.length using Nat.strongRecOn generalizing bs with
  | ind n ih =>
    subst h
    by_cases convertible : ∃ c, encodeChar c <+: bs
    · obtain ⟨c, rest, rfl⟩ := convertible
      rw [decodeLossy_encodeChar_append, encodeChar_eq_utf8EncodeChar]
      refine .char c (ih _ ?_ rest rfl)
      have long := c.utf8Size_pos
      rw [encodeChar_eq_utf8EncodeChar, List.length_append, String.length_utf8EncodeChar]
      omega
    · cases bs with
      | nil => exact .nil
      | cons b bs =>
        obtain ⟨part, rest, split, maximal, reads⟩ :=
          decodeLossy_of_unconvertible (List.cons_ne_nil b bs) (not_exists.mp convertible)
        have long := List.length_pos_iff.mpr maximal.subpart.1
        rw [reads, split]
        refine .subpart maximal (ih _ ?_ rest rfl)
        rw [split, List.length_append]
        omega

/-- Any bytes are read as the standard says. -/
theorem decodeLossy_eq_iff {bs : List UInt8} {cs : List Char} :
    decodeLossy bs = cs ↔ Repaired bs cs := by
  constructor
  · rintro rfl
    exact repaired_decodeLossy bs
  · intro repaired
    induction repaired with
    | nil => rfl
    | char c _ ih => rw [← encodeChar_eq_utf8EncodeChar, decodeLossy_encodeChar_append, ih]
    | @subpart part bs cs maximal _ ih =>
      have unconvertible := maximal.unconvertible
      simp only [← encodeChar_eq_utf8EncodeChar] at unconvertible
      have filled : part ++ bs ≠ [] := by simp [maximal.subpart.1]
      obtain ⟨part', rest, split, maximal', reads⟩ :=
        decodeLossy_of_unconvertible filled unconvertible
      obtain rfl := maximal.unique (split ▸ maximal')
      rw [reads, ← List.append_cancel_left split, ih]

end TopicWorker.Text.Utf8
