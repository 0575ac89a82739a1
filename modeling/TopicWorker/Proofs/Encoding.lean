import TopicWorker.Text.Utf8

/-!
# Reading what has been written

A text is written in UTF-8 character by character, and read again octet by octet. The two belong
together: bytes are read as a text exactly when they are the bytes of it, so that there is one text
for bytes at most, and a text that is written is never lost.

A character is written as a first octet, which says how many more there are and carries what is left
of the bits, and as octets of six bits each behind it. The automaton that reads them knows, inside a
character, the bits so far and the bounds of the next octet. A character is *expected* there when
its bits begin with those, and its next octet lies within the bounds. What an octet does to the
automaton is to go on with the characters that are expected, or to end one of them.

## Main results

* `Begins.encodeChar`, `begins_encodeChar`: the first octets, and the characters behind them.
* `next_octet`, `next_eq_more`, `next_eq_char`: an octet goes on with what is expected.
* `spells_encodeChar`: octet by octet a character is spelled as it is written.
* `bytes_eq_toUTF8`: what is written is UTF-8.
* `decode_eq_ok_iff`, `decode?_eq_some_iff`: bytes are read as the text that they are the bytes of.
-/

namespace TopicWorker.Text.Utf8

/-- What is left of a number without its last `k` groups of six bits. -/
def above (n : Nat) : Nat → Nat
  | 0 => n
  | k + 1 => above n k / 64

theorem above_zero (n : Nat) : above n 0 = n := rfl

theorem above_succ (n k : Nat) : above n (k + 1) = above n k / 64 := rfl

/-- The octet that carries six bits of a character, with `k` octets behind it. -/
def octet (k n : Nat) : UInt8 := (0x80 + above n k % 64).toUInt8

/-- The last `k` octets of a character. -/
def tail (n : Nat) : Nat → List UInt8
  | 0 => []
  | k + 1 => octet k n :: tail n k

theorem toNat_toUInt8 {n : Nat} (h : n < 256) : n.toUInt8.toNat = n :=
  UInt8.toNat_ofNat_of_lt' h

theorem toUInt8_of_eq {b : UInt8} {n : Nat} (h : n = b.toNat) : n.toUInt8 = b := by
  subst h
  exact UInt8.ofNat_toNat

theorem toNat_octet (k n : Nat) : (octet k n).toNat = 0x80 + above n k % 64 :=
  toNat_toUInt8 (by omega)

theorem toNat_ofNat {n : Nat} (h : n.isValidChar) : (Char.ofNat n).toNat = n := by
  rw [Char.ofNat, dif_pos h]
  rfl

section Characters

variable {c : Char}

theorem encodeChar_of_lt (h : c.toNat < 0x80) :
    encodeChar c = c.toNat.toUInt8 :: tail c.toNat 0 := by
  simp only [encodeChar]
  rw [if_pos h]
  rfl

theorem encodeChar_two (low : 0x80 ≤ c.toNat) (high : c.toNat < 0x800) :
    encodeChar c = (0xC0 + above c.toNat 1).toUInt8 :: tail c.toNat 1 := by
  simp only [encodeChar]
  rw [if_neg (by omega), if_pos high]
  rfl

theorem encodeChar_three (low : 0x800 ≤ c.toNat) (high : c.toNat < 0x10000) :
    encodeChar c = (0xE0 + above c.toNat 2).toUInt8 :: tail c.toNat 2 := by
  simp only [encodeChar]
  rw [if_neg (by omega), if_neg (by omega), if_pos high]
  simp only [tail, octet, above, Nat.div_div_eq_div_mul, Nat.reduceMul]

theorem encodeChar_four (low : 0x10000 ≤ c.toNat) :
    encodeChar c = (0xF0 + above c.toNat 3).toUInt8 :: tail c.toNat 3 := by
  simp only [encodeChar]
  rw [if_neg (by omega), if_neg (by omega), if_neg (by omega)]
  simp only [tail, octet, above, Nat.div_div_eq_div_mul, Nat.reduceMul]

end Characters

/-- A character that begins in this way: its bits so far are the ones that have been read, and the
next octet lies within the bounds. -/
structure Partial.Expects (p : Partial) (n : Nat) : Prop where
  value : above n (p.owed + 1) = p.value
  low : p.low ≤ (octet p.owed n).toNat
  high : (octet p.owed n).toNat ≤ p.high

/-- The first octet of a character says how many octets follow it, and carries bits of the
character itself. The bounds keep out what is longer than it has to be, and what is no character. -/
inductive Begins (b : UInt8) : Partial → Prop
  | two {v : Nat} (octet : b.toNat = 0xC0 + v) (least : 2 ≤ v) (most : v < 32) :
    Begins b ⟨v, 0, 0x80, 0xBF⟩
  | three {v low high : Nat} (octet : b.toNat = 0xE0 + v) (most : v < 16)
    (low_eq : low = if v = 0 then 0xA0 else 0x80)
    (high_eq : high = if v = 0xD then 0x9F else 0xBF) :
    Begins b ⟨v, 1, low, high⟩
  | four {v low high : Nat} (octet : b.toNat = 0xF0 + v) (most : v ≤ 4)
    (low_eq : low = if v = 0 then 0x90 else 0x80)
    (high_eq : high = if v = 4 then 0x8F else 0xBF) :
    Begins b ⟨v, 2, low, high⟩

/-- A character that is one octet is written as that. -/
theorem octets_of_first {b : UInt8} {c : Char} (h : first b = .char c) : [b] = encodeChar c := by
  simp only [first] at h
  split at h
  · next short =>
    have same : (Char.ofNat b.toNat).toNat = b.toNat := toNat_ofNat (.inl (by omega))
    rw [← Reading.char.inj h, encodeChar_of_lt (by omega), same, toUInt8_of_eq rfl]
    rfl
  · repeat' split at h
    all_goals cases h

/-- A character that is longer begins. -/
theorem begins_of_first {b : UInt8} {p : Partial} (h : first b = .more p) : Begins b p := by
  simp only [first] at h
  -- one octet, and those that begin nothing
  split at h
  · cases h
  split at h
  · cases h
  -- two octets
  split at h
  · rw [← Reading.more.inj h]
    exact .two (by omega) (by omega) (by omega)
  -- three: overlong forms, surrogates and all others are kept apart
  split at h
  · rw [← Reading.more.inj h]
    exact .three (by omega) (by omega) rfl rfl
  split at h
  · rw [← Reading.more.inj h]
    exact .three (by omega) (by omega) rfl rfl
  split at h
  · rw [← Reading.more.inj h]
    exact .three (by omega) (by omega) (by rw [if_neg (by omega)]) (by rw [if_neg (by omega)])
  -- four: overlong forms, and what lies past the last character
  split at h
  · rw [← Reading.more.inj h]
    exact .four (by omega) (by omega) rfl rfl
  split at h
  · rw [← Reading.more.inj h]
    exact .four (by omega) (by omega) (by rw [if_neg (by omega)]) (by rw [if_neg (by omega)])
  split at h
  · rw [← Reading.more.inj h]
    exact .four (by omega) (by omega) rfl rfl
  · cases h

/-- There is only one way to begin with an octet. -/
theorem Begins.unique {b : UInt8} {p q : Partial} (hp : Begins b p) (hq : Begins b q) : p = q := by
  cases hp with
  | two octet =>
    cases hq with
    | two octet' =>
      rw [octet, Nat.add_left_cancel_iff] at octet'
      rw [octet']
    | three octet' | four octet' => omega
  | three octet most low_eq high_eq =>
    cases hq with
    | three octet' most' low_eq' high_eq' =>
      rw [octet, Nat.add_left_cancel_iff] at octet'
      subst octet' low_eq high_eq low_eq' high_eq'
      rfl
    | two octet' | four octet' => omega
  | four octet most low_eq high_eq =>
    cases hq with
    | four octet' most' low_eq' high_eq' =>
      rw [octet, Nat.add_left_cancel_iff] at octet'
      subst octet' low_eq high_eq low_eq' high_eq'
      rfl
    | two octet' | three octet' => omega

/-- Every octet that can begin a character is read as that. -/
theorem Begins.first {b : UInt8} {p : Partial} (h : Begins b p) : first b = .more p := by
  have low : 0xC2 ≤ b.toNat := by
    cases h with
    | two octet least most => omega
    | three octet | four octet => omega
  have high : b.toNat ≤ 0xF4 := by cases h <;> omega
  have some : ∃ q, Utf8.first b = .more q := by
    simp only [Utf8.first]
    rw [if_neg (by omega), if_neg (by omega)]
    repeat' split
    all_goals first | exact ⟨_, rfl⟩ | omega
  obtain ⟨q, hq⟩ := some
  rw [hq, (begins_of_first hq).unique h]

/-- What is expected behind a first octet is a character, and the octets of it begin with that. -/
theorem Begins.encodeChar {b : UInt8} {p : Partial} {n : Nat} (h : Begins b p)
    (expects : p.Expects n) :
    n.isValidChar ∧ encodeChar (Char.ofNat n) = b :: tail n (p.owed + 1) := by
  obtain ⟨value, low, high⟩ := expects
  rw [toNat_octet] at low high
  cases h with
  | two octet least most =>
    simp only [above] at value low high
    have valid : n.isValidChar := by left; omega
    have same := toNat_ofNat valid
    refine ⟨valid, ?_⟩
    rw [encodeChar_two (by omega) (by omega), same,
      toUInt8_of_eq (b := b) (by simp only [above]; omega)]
  | three octet most low_eq high_eq =>
    simp only [above] at value low high
    have valid : n.isValidChar := by
      rcases Nat.lt_or_ge n 0xD800 with h | h
      · exact .inl h
      · refine .inr ⟨?_, ?_⟩ <;> split at high_eq <;> omega
    have same := toNat_ofNat valid
    refine ⟨valid, ?_⟩
    have least : 0x800 ≤ n := by split at low_eq <;> omega
    rw [encodeChar_three (by omega) (by omega), same,
      toUInt8_of_eq (b := b) (by simp only [above]; omega)]
  | four octet most low_eq high_eq =>
    simp only [above] at value low high
    have least : 0x10000 ≤ n := by split at low_eq <;> omega
    have valid : n.isValidChar := .inr ⟨by omega, by split at high_eq <;> omega⟩
    have same := toNat_ofNat valid
    refine ⟨valid, ?_⟩
    rw [encodeChar_four (by omega), same,
      toUInt8_of_eq (b := b) (by simp only [above]; omega)]

/-- A character that is not one octet begins with an octet behind which it is expected. -/
theorem begins_encodeChar {c : Char} (long : 0x80 ≤ c.toNat) :
    ∃ b p, Begins b p ∧ p.Expects c.toNat ∧ encodeChar c = b :: tail c.toNat (p.owed + 1) := by
  have valid : c.toNat < 0xD800 ∨ 0xDFFF < c.toNat ∧ c.toNat < 0x110000 := c.valid
  have expects : ∀ {v k low high : Nat}, above c.toNat (k + 1) = v →
      low ≤ 0x80 + above c.toNat k % 64 → 0x80 + above c.toNat k % 64 ≤ high →
      Partial.Expects ⟨v, k, low, high⟩ c.toNat := fun value low high =>
    ⟨value, by rwa [toNat_octet], by rwa [toNat_octet]⟩
  have one : above c.toNat 1 = c.toNat / 64 := rfl
  have two : above c.toNat 2 = c.toNat / 64 / 64 := rfl
  have three : above c.toNat 3 = c.toNat / 64 / 64 / 64 := rfl
  rcases Nat.lt_or_ge c.toNat 0x800 with least | more
  · have begins : Begins (0xC0 + above c.toNat 1).toUInt8 ⟨above c.toNat 1, 0, 0x80, 0xBF⟩ :=
      .two (toNat_toUInt8 (by omega)) (by omega) (by omega)
    exact ⟨_, _, begins, expects rfl (by omega) (by omega), encodeChar_two long least⟩
  rcases Nat.lt_or_ge c.toNat 0x10000 with less | most
  · have begins : Begins (0xE0 + above c.toNat 2).toUInt8 ⟨above c.toNat 2, 1, _, _⟩ :=
      .three (toNat_toUInt8 (by omega)) (by omega) rfl rfl
    exact ⟨_, _, begins, expects rfl (by split <;> omega) (by split <;> omega),
      encodeChar_three more less⟩
  · have begins : Begins (0xF0 + above c.toNat 3).toUInt8 ⟨above c.toNat 3, 2, _, _⟩ :=
      .four (toNat_toUInt8 (by omega)) (by omega) rfl rfl
    exact ⟨_, _, begins, expects rfl (by split <;> omega) (by split <;> omega),
      encodeChar_four most⟩

/-! ## Octets that follow -/

theorem above_eq (n k : Nat) : above n k = above n (k + 1) * 64 + above n k % 64 := by
  rw [above_succ]
  omega

/-- An octet within the bounds carries six bits. -/
structure Partial.Bounded (p : Partial) : Prop where
  low : 0x80 ≤ p.low
  high : p.high ≤ 0xBF

theorem Begins.bounded {b : UInt8} {p : Partial} (h : Begins b p) : p.Bounded := by
  cases h with
  | two => exact ⟨Nat.le_refl _, Nat.le_refl _⟩
  | three octet most low_eq high_eq | four octet most low_eq high_eq =>
    constructor <;> simp only
    · split at low_eq <;> omega
    · split at high_eq <;> omega

/-- The bits of an octet are those of the characters that it goes on with. -/
theorem Partial.Bounded.expects {p : Partial} {b : UInt8} {n : Nat} (bounded : p.Bounded)
    (low : p.low ≤ b.toNat) (high : b.toNat ≤ p.high)
    (value : above n p.owed = p.value * 64 + (b.toNat - 0x80)) :
    p.Expects n ∧ b = octet p.owed n := by
  have least := bounded.low
  have most := bounded.high
  have split := above_eq n p.owed
  have same : b = octet p.owed n := by
    rw [← UInt8.toNat_inj, toNat_octet]
    omega
  exact ⟨⟨by omega, same ▸ low, same ▸ high⟩, same⟩

/-- An octet that goes on with a character goes on with the characters that are expected then. -/
theorem next_eq_more {p q : Partial} {b : UInt8} (bounded : p.Bounded) (h : p.next b = .more q) :
    q.Bounded ∧ p.owed = q.owed + 1 ∧ ∀ n, q.Expects n → p.Expects n ∧ b = octet p.owed n := by
  obtain ⟨v, owed, low, high⟩ := p
  simp only [Partial.next] at h
  split at h
  · next within =>
    cases owed with
    | zero => exact absurd h (by simp)
    | succ k =>
      rw [← Reading.more.inj h]
      refine ⟨⟨Nat.le_refl _, Nat.le_refl _⟩, rfl, fun n expects => ?_⟩
      exact bounded.expects within.1 within.2 expects.value
  · exact absurd h (by simp)

/-- An octet that ends a character ends one that is expected. -/
theorem next_eq_char {p : Partial} {b : UInt8} {c : Char} (bounded : p.Bounded)
    (h : p.next b = .char c) :
    p.owed = 0 ∧ ∃ n, c = Char.ofNat n ∧ p.Expects n ∧ b = octet 0 n := by
  obtain ⟨v, owed, low, high⟩ := p
  simp only [Partial.next] at h
  split at h
  · next within =>
    cases owed with
    | zero =>
      refine ⟨rfl, _, (Reading.char.inj h).symm, ?_⟩
      exact bounded.expects within.1 within.2 (above_zero _)
    | succ k => exact absurd h (by simp)
  · exact absurd h (by simp)

/-- The next octet of a character that is expected goes on with it, or ends it. -/
theorem next_octet {p : Partial} {n : Nat} (expects : p.Expects n) :
    (p.owed = 0 ∧ p.next (octet p.owed n) = .char (Char.ofNat n)) ∨
      ∃ q, p.owed = q.owed + 1 ∧ p.next (octet p.owed n) = .more q ∧ q.Bounded ∧ q.Expects n := by
  obtain ⟨v, owed, low, high⟩ := p
  obtain ⟨value, within⟩ := expects
  simp only at value within
  have bits : v * 64 + ((octet owed n).toNat - 0x80) = above n owed := by
    have split := above_eq n owed
    rw [toNat_octet]
    omega
  simp only [Partial.next]
  rw [if_pos ⟨within, ‹_›⟩]
  cases owed with
  | zero => exact .inl ⟨rfl, by simp only [bits, above_zero]⟩
  | succ k =>
    refine .inr ⟨_, rfl, rfl, ⟨Nat.le_refl _, Nat.le_refl _⟩, bits.symm, ?_, ?_⟩
    · show 0x80 ≤ (octet k n).toNat
      rw [toNat_octet]
      omega
    · show (octet k n).toNat ≤ 0xBF
      rw [toNat_octet]
      omega

/-! ## Texts -/

theorem encode_cons (c : Char) (cs : List Char) :
    encode (c :: cs) = encodeChar c ++ encode cs := rfl

/-- Octets that go on with a character that has begun, and end it. -/
inductive Partial.Ends : Partial → List UInt8 → Char → Prop
  | last {p : Partial} {b : UInt8} {c : Char} (ends : p.next b = .char c) : Ends p [b] c
  | more {p q : Partial} {b : UInt8} {bs : List UInt8} {c : Char} (goesOn : p.next b = .more q)
    (rest : Ends q bs c) : Ends p (b :: bs) c

/-- The octets of a character, one of them or more. -/
inductive Spells : List UInt8 → Char → Prop
  | short {b : UInt8} {c : Char} (ends : first b = .char c) : Spells [b] c
  | long {b : UInt8} {p : Partial} {bs : List UInt8} {c : Char} (begins : first b = .more p)
    (rest : p.Ends bs c) : Spells (b :: bs) c

/-- A character that is expected is ended by its last octets. -/
theorem Partial.Expects.ends {p : Partial} {n : Nat} (expects : p.Expects n) :
    p.Ends (tail n (p.owed + 1)) (Char.ofNat n) := by
  generalize hk : p.owed = k
  induction k generalizing p with
  | zero =>
    rcases next_octet expects with ⟨-, ends⟩ | ⟨q, owed, -⟩
    · rw [hk] at ends
      exact .last ends
    · omega
  | succ k ih =>
    rcases next_octet expects with ⟨owed, -⟩ | ⟨q, owed, more, -, expects'⟩
    · omega
    · rw [hk] at more
      exact .more more (ih expects' (by omega))

/-- A character is spelled as it is written. -/
theorem spells_encodeChar (c : Char) : Spells (encodeChar c) c := by
  rcases Nat.lt_or_ge c.toNat 0x80 with short | long
  · rw [encodeChar_of_lt short]
    apply Spells.short
    simp only [first]
    rw [toNat_toUInt8 (by omega), if_pos short, Char.ofNat_toNat]
  · obtain ⟨b, p, begins, expects, written⟩ := begins_encodeChar long
    rw [written]
    apply Spells.long begins.first
    simpa only [Char.ofNat_toNat] using expects.ends

/-- The rest of a character that has begun is read, and reading goes on behind it. -/
theorem Partial.Ends.decodeFrom {p : Partial} {bs : List UInt8} {c : Char} (h : p.Ends bs c)
    (done held : Nat) (rest : List UInt8) :
    ∃ done', Utf8.decodeFrom done held (some p) (bs ++ rest) =
      (Utf8.decodeFrom done' 0 none rest).map (c :: ·) := by
  induction h generalizing held with
  | last ends => exact ⟨done + held + 1, by simp [Utf8.decodeFrom, ends]⟩
  | more goesOn _ ih =>
    obtain ⟨done', read⟩ := ih (held + 1)
    exact ⟨done', by rw [← read, List.cons_append, Utf8.decodeFrom, goesOn]⟩

/-- A character is read, and reading goes on behind it. -/
theorem decodeFrom_encodeChar (c : Char) (done held : Nat) (rest : List UInt8) :
    ∃ done', decodeFrom done held none (encodeChar c ++ rest) =
      (decodeFrom done' 0 none rest).map (c :: ·) := by
  have spells := spells_encodeChar c
  generalize encodeChar c = bs at spells
  cases spells with
  | short ends => exact ⟨done + 1, by simp [decodeFrom, ends]⟩
  | long begins ends =>
    obtain ⟨done', read⟩ := ends.decodeFrom done 1 rest
    exact ⟨done', by rw [← read, List.cons_append, decodeFrom, begins]⟩

/-- A text is read from its octets. -/
theorem decodeFrom_encode (done held : Nat) (cs : List Char) :
    decodeFrom done held none (encode cs) = .ok cs := by
  induction cs generalizing done held with
  | nil => rfl
  | cons c cs ih =>
    obtain ⟨done', read⟩ := decodeFrom_encodeChar c done held (encode cs)
    rw [encode_cons, read, ih]
    rfl

theorem map_cons_eq_ok {c : Char} {e : Except Fault (List Char)} {cs : List Char}
    (h : e.map (c :: ·) = .ok cs) : ∃ ds, e = .ok ds ∧ cs = c :: ds := by
  cases e with
  | error fault => cases h
  | ok ds => exact ⟨ds, rfl, (Except.ok.inj h).symm⟩

/-- What octets are the rest of: between two characters they are those of a whole text, and inside
one they go on with it. -/
def Written (bs : List UInt8) (cs : List Char) : Option Partial → Prop
  | none => bs = encode cs
  | some p => p.Bounded → ∃ n ds, p.Expects n ∧ bs = tail n (p.owed + 1) ++ encode ds ∧
      cs = Char.ofNat n :: ds

/-- Octets that are read are the rest of what they are read as. -/
theorem written_of_decodeFrom {done held : Nat} {p? : Option Partial} {bs : List UInt8}
    {cs : List Char} (h : decodeFrom done held p? bs = .ok cs) : Written bs cs p? := by
  induction bs generalizing done held p? cs with
  | nil =>
    cases p? with
    | none =>
      cases h
      rfl
    | some p => cases h
  | cons b bs ih =>
    cases p? with
    | none =>
      rw [decodeFrom] at h
      cases hb : first b with
      | char c =>
        rw [hb] at h
        obtain ⟨ds, read, rfl⟩ := map_cons_eq_ok h
        have rest : bs = encode ds := ih read
        rw [Written, encode_cons, ← octets_of_first hb, rest]
        rfl
      | more p =>
        rw [hb] at h
        obtain ⟨n, ds, expects, rfl, rfl⟩ := ih h (begins_of_first hb).bounded
        obtain ⟨valid, written⟩ := (begins_of_first hb).encodeChar expects
        rw [Written, encode_cons, written, List.cons_append]
      | fault =>
        rw [hb] at h
        cases h
    | some p =>
      rw [decodeFrom] at h
      intro bounded
      cases hb : p.next b with
      | char c =>
        rw [hb] at h
        obtain ⟨ds, read, rfl⟩ := map_cons_eq_ok h
        obtain ⟨owed, n, rfl, expects, rfl⟩ := next_eq_char bounded hb
        refine ⟨n, ds, expects, ?_, rfl⟩
        have rest : bs = encode ds := ih read
        rw [owed, tail, tail, rest]
        rfl
      | more q =>
        rw [hb] at h
        obtain ⟨bounded', owed, goesOn⟩ := next_eq_more bounded hb
        obtain ⟨n, ds, expects, rfl, rfl⟩ := ih h bounded'
        obtain ⟨expects', rfl⟩ := goesOn n expects
        refine ⟨n, ds, expects', ?_, rfl⟩
        show octet p.owed n :: (tail n (q.owed + 1) ++ encode ds) =
          octet p.owed n :: tail n p.owed ++ encode ds
        rw [owed, List.cons_append]
      | fault =>
        rw [hb] at h
        cases h

/-- What is read from octets is the text that they are the octets of. -/
theorem decode_eq_ok_iff {bs : List UInt8} {cs : List Char} :
    decode bs = .ok cs ↔ bs = encode cs := by
  constructor
  · exact fun h => written_of_decodeFrom h
  · rintro rfl
    exact decodeFrom_encode 0 0 cs

/-- The octets of a character are those of UTF-8, -/
theorem encodeChar_eq_utf8EncodeChar (c : Char) : encodeChar c = String.utf8EncodeChar c := by
  have top : c.toNat < 0xD800 ∨ 0xDFFF < c.toNat ∧ c.toNat < 0x110000 := c.valid
  simp only [encodeChar, String.utf8EncodeChar, Char.toNat_val, Nat.toUInt8_eq]
  split
  · next one => rw [if_pos (show c.toNat ≤ 127 by omega)]
  rw [if_neg (show ¬ c.toNat ≤ 127 by omega)]
  split
  · next two =>
    have lead : c.toNat / 64 % 32 + 192 = 192 + c.toNat / 64 := by omega
    rw [if_pos (show c.toNat ≤ 2047 by omega), lead, Nat.add_comm (_ % _) 128]
  rw [if_neg (show ¬ c.toNat ≤ 2047 by omega)]
  split
  · next three =>
    have lead : c.toNat / 4096 % 16 + 224 = 224 + c.toNat / 4096 := by omega
    rw [if_pos (show c.toNat ≤ 65535 by omega), lead, Nat.add_comm (_ % _) 128,
      Nat.add_comm (_ % _) 128]
  · have lead : c.toNat / 262144 % 8 + 240 = 240 + c.toNat / 262144 := by omega
    rw [if_neg (show ¬ c.toNat ≤ 65535 by omega), lead, Nat.add_comm (_ % _) 128,
      Nat.add_comm (_ % _) 128, Nat.add_comm (_ % _) 128]

/-- and so are the bytes of a string. -/
theorem bytes_eq_toUTF8 (s : String) : bytes s = s.toUTF8.data.toList := by
  have same : encodeChar = String.utf8EncodeChar := funext encodeChar_eq_utf8EncodeChar
  rw [String.toUTF8, ← String.utf8Encode_toList, bytes, encode, same, List.utf8Encode]
  exact List.toList_data_toByteArray.symm

/-- Bytes are read as a string exactly when they are its bytes in UTF-8. -/
theorem decode?_eq_some_iff {bs : List UInt8} {s : String} :
    decode? bs = some s ↔ bs = s.toUTF8.data.toList := by
  rw [← bytes_eq_toUTF8, decode?, Option.map_eq_some_iff, bytes, ← decode_eq_ok_iff]
  constructor
  · rintro ⟨cs, read, rfl⟩
    rw [String.toList_ofList]
    cases hd : decode bs with
    | error fault =>
      rw [hd] at read
      cases read
    | ok ds =>
      rw [hd] at read
      rw [Option.some.inj read]
  · intro read
    exact ⟨s.toList, by rw [read]; rfl, String.ofList_toList⟩

/-- A surrogate is no text. -/
example : decode? [0xED, 0xA0, 0x80] = none := by decide

end TopicWorker.Text.Utf8
