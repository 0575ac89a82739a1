import TopicWorker.Config

/-!
# What a setting accepts

A number or a truth value is read out of a text in two steps: the white space around it is taken
away, and what is left has to be a literal. Both are functions. Here they are told by what they
find, without saying how: the text that is left begins and ends with something that is not white
space, and a literal is written in one of a few ways. A number may have a plus sign before it and
zeros without end, and it denotes what its digits denote, however many there are.

## Main definitions

* `Trims`: a text, and what is left of it without the white space around it.
* `IsNumber`, `IsTruth`: the literals, and what they denote.

## Main results

* `trim_eq_iff`: what is left of a text is one thing only.
* `word16?_eq_some_iff`, `truth?_eq_some_iff`: what is read is a literal, and every literal is read.
* `isNumber_toDigits`: a number that is written in decimal denotes itself, whatever is put in front.
-/

namespace TopicWorker.Text

/-! ## White space around a text -/

/-- A text is what is left of another one without the white space around it. -/
structure Trims (cs t : List Char) : Prop where
  /-- Before and after it there is white space only, -/
  around : ∃ before after, cs = before ++ t ++ after ∧
    allBlank before = true ∧ allBlank after = true
  /-- and it neither begins with any -/
  head : ∀ c, t.head? = some c → isBlank c = false
  /-- nor ends with any. -/
  last : ∀ c, t.getLast? = some c → isBlank c = false

theorem allBlank_eq_true {cs : List Char} : allBlank cs = true ↔ ∀ c ∈ cs, isBlank c = true :=
  List.all_eq_true

theorem allBlank_eq_false {cs : List Char} : allBlank cs = false ↔ ∃ c ∈ cs, isBlank c = false := by
  simp [allBlank]

/-- White space at the beginning is dropped. -/
theorem dropWhile_of_blank {before : List Char} (h : allBlank before = true) (cs : List Char) :
    (before ++ cs).dropWhile isBlank = cs.dropWhile isBlank :=
  List.dropWhile_append_of_pos (allBlank_eq_true.mp h)

/-- A text that does not begin with white space is kept. -/
theorem dropWhile_of_head {cs : List Char} (h : ∀ c, cs.head? = some c → isBlank c = false) :
    cs.dropWhile isBlank = cs := by
  cases cs with
  | nil => rfl
  | cons c cs =>
    have hc : isBlank c = false := h c rfl
    simp [hc]

/-- What is left after that does not begin with white space. -/
theorem head_dropWhile {cs : List Char} {c : Char} (h : (cs.dropWhile isBlank).head? = some c) :
    isBlank c = false := by
  have hnot := List.head?_dropWhile_not isBlank cs
  rw [h] at hnot
  simpa using hnot

/-- White space at the two ends does not matter. -/
theorem trim_append {before after : List Char} (hb : allBlank before = true)
    (ha : allBlank after = true) (cs : List Char) : trim (before ++ cs ++ after) = trim cs := by
  have reversed : allBlank after.reverse = true := by simpa [allBlank] using ha
  rw [trim, trim, List.append_assoc, dropWhile_of_blank hb]
  by_cases blank : allBlank cs = true
  · -- nothing is left before the end, either
    rw [dropWhile_of_blank blank, (dropWhile_isBlank_eq_nil_iff _).mpr ha,
      (dropWhile_isBlank_eq_nil_iff _).mpr blank]
  · have left : cs.dropWhile isBlank ≠ [] := fun h =>
      blank ((dropWhile_isBlank_eq_nil_iff cs).mp h)
    have kept : (cs ++ after).dropWhile isBlank = cs.dropWhile isBlank ++ after := by
      rw [List.dropWhile_append, if_neg]
      simpa using left
    rw [kept, List.reverse_append, dropWhile_of_blank reversed]

/-- Trimming leaves what there is between the white space. -/
theorem trims_trim (cs : List Char) : Trims cs (trim cs) := by
  -- what trimming keeps of the text without its beginning, and what it takes from the end of that
  obtain ⟨after, blank, cut⟩ : ∃ after, allBlank after = true ∧
      cs.dropWhile isBlank = trim cs ++ after := by
    refine ⟨((cs.dropWhile isBlank).reverse.takeWhile isBlank).reverse, ?_, ?_⟩
    · rw [allBlank, List.all_reverse]
      exact List.all_takeWhile
    · rw [trim, ← List.reverse_append, List.takeWhile_append_dropWhile, List.reverse_reverse]
  constructor
  case around =>
    refine ⟨cs.takeWhile isBlank, after, ?_, List.all_takeWhile, blank⟩
    rw [List.append_assoc, ← cut, List.takeWhile_append_dropWhile]
  case head =>
    intro c hc
    refine @head_dropWhile cs c ?_
    rw [cut, List.head?_append, hc]
    rfl
  case last =>
    intro c hc
    rw [trim, List.getLast?_reverse] at hc
    exact head_dropWhile hc

/-- What is left of a text is one thing only. -/
theorem trim_eq_iff {cs t : List Char} : trim cs = t ↔ Trims cs t := by
  constructor
  · rintro rfl
    exact trims_trim cs
  · rintro ⟨⟨before, after, rfl, hb, ha⟩, head, last⟩
    have ends : ∀ c, t.reverse.head? = some c → isBlank c = false := by
      simpa using last
    rw [trim_append hb ha, trim, dropWhile_of_head head, dropWhile_of_head ends,
      List.reverse_reverse]

/-- A text without any white space is left whole, whatever white space is put around it. -/
theorem trims_of_solid {before after t : List Char} (solid : ∀ c ∈ t, isBlank c = false)
    (hb : allBlank before = true) (ha : allBlank after = true) :
    Trims (before ++ t ++ after) t where
  around := ⟨before, after, rfl, hb, ha⟩
  head c hc := solid c (List.mem_of_mem_head? hc)
  last c hc := solid c (List.mem_of_getLast? hc)

/-! ## Literals -/

/-- A number, written with at least one digit, and with one plus sign before the digits or none. -/
def IsNumber (t : List Char) (n : Nat) : Prop :=
  ∃ plus digits, t = plus ++ digits ∧ (plus = [] ∨ plus = ['+']) ∧ digits ≠ [] ∧
    (∀ c ∈ digits, c.isDigit = true) ∧ Nat.ofDigitChars 10 digits 0 = n

/-- A truth value. -/
def IsTruth (t : List Char) (b : Bool) : Prop :=
  t = if b then ['t', 'r', 'u', 'e'] else ['f', 'a', 'l', 's', 'e']

theorem digit?_eq (c : Char) :
    digit? c = if c.isDigit then some (c.toNat - '0'.toNat) else none := by
  have same : ('0' ≤ c ∧ c ≤ '9') ↔ c.isDigit = true := by
    rw [Char.isDigit_iff_toNat]
    exact Iff.rfl
  simp only [digit?, same]

/-- What digits denote after others that denote `acc`. -/
theorem digitsFrom_eq (acc : Nat) (cs : List Char) : digitsFrom acc cs =
    if cs.all Char.isDigit = true then some (Nat.ofDigitChars 10 cs acc) else none := by
  induction cs generalizing acc with
  | nil => rfl
  | cons c cs ih =>
    rw [digitsFrom, digit?_eq]
    by_cases hc : c.isDigit = true
    · rw [if_pos hc, Option.bind_some, ih, Nat.ofDigitChars_cons, Nat.mul_comm acc 10,
        List.all_cons, hc, Bool.true_and]
    · rw [if_neg hc, Option.bind_none, if_neg fun all => hc (List.all_eq_true.mp all c
        List.mem_cons_self)]

/-- A text that is read as a number consists of digits, and it is the number that they denote. -/
theorem natural?_eq_some_iff {cs : List Char} {n : Nat} :
    natural? cs = some n ↔
      cs ≠ [] ∧ (∀ c ∈ cs, c.isDigit = true) ∧ Nat.ofDigitChars 10 cs 0 = n := by
  rw [natural?, digitsFrom_eq]
  cases cs with
  | nil => simp
  | cons c cs => simp

theorem dropPlus_of_digits {digits : List Char} (h : ∀ c ∈ digits, c.isDigit = true) :
    dropPlus digits = digits := by
  cases digits with
  | nil => rfl
  | cons c cs =>
    have hc : c ≠ '+' := by
      rintro rfl
      exact absurd (h '+' List.mem_cons_self) (by decide)
    simp [dropPlus, hc]

/-- A text begins with a plus sign, or it has none to drop. -/
theorem dropPlus_spec (t : List Char) :
    ∃ plus, t = plus ++ dropPlus t ∧ (plus = [] ∨ plus = ['+']) := by
  rw [dropPlus.eq_def]
  split
  · exact ⟨['+'], rfl, .inr rfl⟩
  · exact ⟨[], rfl, .inl rfl⟩

theorem isNumber_iff {t : List Char} {n : Nat} : IsNumber t n ↔ natural? (dropPlus t) = some n := by
  rw [natural?_eq_some_iff]
  constructor
  · rintro ⟨plus, digits, rfl, rfl | rfl, some, all, value⟩
    · rw [List.nil_append, dropPlus_of_digits all]
      exact ⟨some, all, value⟩
    · exact ⟨some, all, value⟩
  · rintro ⟨some, all, value⟩
    obtain ⟨plus, split, sign⟩ := dropPlus_spec t
    exact ⟨plus, dropPlus t, split, sign, some, all, value⟩

/-- What is read as a number of sixteen bits is a literal, and every literal that fits is read. -/
theorem word16?_eq_some_iff {t : List Char} {n : UInt16} :
    word16? t = some n ↔ IsNumber t n.toNat := by
  rw [isNumber_iff, word16?, Option.bind_eq_some_iff]
  constructor
  · rintro ⟨m, read, fits⟩
    split at fits
    · next small =>
      cases fits
      rwa [UInt16.toNat_ofNat_of_lt' small]
    · cases fits
  · intro read
    exact ⟨n.toNat, read, by simp [n.toNat_lt]⟩

/-- A text is not read as a number exactly when it denotes none that fits. -/
theorem word16?_eq_none_iff {t : List Char} :
    word16? t = none ↔ ¬ ∃ n, IsNumber t n ∧ n ≤ 65535 := by
  constructor
  · rintro unread ⟨n, number, fits⟩
    have small : n < 65536 := by omega
    have word : (UInt16.ofNat n).toNat = n := UInt16.toNat_ofNat_of_lt' small
    have read := word16?_eq_some_iff.mpr (word ▸ number)
    rw [unread] at read
    cases read
  · intro unfit
    cases read : word16? t with
    | none => rfl
    | some n =>
      have small : n.toNat < 65536 := n.toNat_lt
      exact absurd ⟨n.toNat, word16?_eq_some_iff.mp read, by omega⟩ unfit

theorem truth?_eq_some_iff {t : List Char} {b : Bool} : truth? t = some b ↔ IsTruth t b := by
  have words : "true".toList = ['t', 'r', 'u', 'e'] ∧ "false".toList = ['f', 'a', 'l', 's', 'e'] :=
    ⟨rfl, rfl⟩
  rw [truth?, words.1, words.2, IsTruth]
  cases b <;> grind

theorem truth?_eq_none_iff {t : List Char} : truth? t = none ↔ ¬ ∃ b, IsTruth t b := by
  simp [← truth?_eq_some_iff, Option.eq_none_iff_forall_ne_some]

/-- In decimal a number denotes itself, also with zeros before its digits, and with a plus sign
before these. -/
theorem isNumber_toDigits (n : Nat) {plus zeros : List Char} (sign : plus = [] ∨ plus = ['+'])
    (zero : ∀ c ∈ zeros, c = '0') : IsNumber (plus ++ (zeros ++ Nat.toDigits 10 n)) n := by
  refine ⟨plus, zeros ++ Nat.toDigits 10 n, rfl, sign, by simp [Nat.toDigits_ne_nil], ?_, ?_⟩
  · intro c hc
    rcases List.mem_append.mp hc with hc | hc
    · rw [zero c hc]
      rfl
    · exact Nat.isDigit_of_mem_toDigits (by decide) (by decide) hc
  · have nothing : ∀ zs : List Char, (∀ c ∈ zs, c = '0') → Nat.ofDigitChars 10 zs 0 = 0 := by
      intro zs hzs
      induction zs with
      | nil => rfl
      | cons c zs ih =>
        obtain ⟨rfl, rest⟩ := List.forall_mem_cons.mp hzs
        exact ih rest
    rw [Nat.ofDigitChars_append, nothing zeros zero, Nat.ofDigitChars_ten_toDigits]

/-! ## Literals and white space -/

theorem isBlank_of_isDigit {c : Char} (h : c.isDigit = true) : isBlank c = false := by
  rw [Char.isDigit_iff_toNat] at h
  have low : 48 ≤ c.toNat := h.1
  have high : c.toNat ≤ 57 := h.2
  simp only [isBlank, Bool.or_eq_false_iff, Bool.and_eq_false_iff, decide_eq_false_iff_not,
    beq_eq_false_iff_ne]
  omega

/-- There is no white space in a number, -/
theorem IsNumber.solid {t : List Char} {n : Nat} (h : IsNumber t n) :
    ∀ c ∈ t, isBlank c = false := by
  obtain ⟨plus, digits, rfl, sign, -, all, -⟩ := h
  intro c hc
  rcases List.mem_append.mp hc with hc | hc
  · rcases sign with rfl | rfl
    · cases hc
    · rw [List.mem_singleton.mp hc]
      decide
  · exact isBlank_of_isDigit (all c hc)

/-- nor in a truth value. -/
theorem IsTruth.solid {t : List Char} {b : Bool} (h : IsTruth t b) :
    ∀ c ∈ t, isBlank c = false := by
  have solid : t.all (fun c => !isBlank c) = true := by
    subst h
    cases b <;> rfl
  simpa using solid

end TopicWorker.Text
