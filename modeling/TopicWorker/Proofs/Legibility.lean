import Mathlib.Data.List.Forall2
import TopicWorker.Config

/-!
# What a shown configuration tells

A configuration that is shown tells every one of its settings, except for the password, of which it
tells nothing. The texts in it may hold anything, also quotes, braces and whatever else looks like
the text around them. Since a text is quoted it ends at its own closing quote all the same, and a
number ends where no digit follows. So no value runs on into what stands behind it, and a record is
read field by field.

Nothing is said here about which characters are hidden. Every way of hiding some of them would do.

## Main definitions

* `Stops`: something that does not go on with a word or a number.
* `Legible`: a way to show values in which each can be read again, whatever follows.
* `Delimits`: two texts of values that can be told apart whatever follows them.

## Main results

* `escape_append_inj`, `legible_quoted`: a quoted text is read again.
* `record_append_inj`, `legible_optional`: so is a record, and a value that may be missing.
* `Config.shape_eq_iff`: which configurations are shown alike.
-/

namespace TopicWorker.Text

/-! ## Words and numbers -/

/-- Something that does not go on with a letter or a digit. -/
def Stops (x : List Char) : Prop := ∀ c ∈ x.head?, c.isAlphanum = false

theorem stops_nil : Stops [] := by simp [Stops]

theorem stops_cons {c : Char} (h : c.isAlphanum = false) (x : List Char) : Stops (c :: x) := by
  simpa [Stops] using h

/-- A text of letters and digits. -/
def IsWord (v : List Char) : Prop := ∀ c ∈ v, c.isAlphanum = true

/-- A word ends where something stops. -/
theorem takeWhile_word {v x : List Char} (word : IsWord v) (stops : Stops x) :
    (v ++ x).takeWhile Char.isAlphanum = v := by
  rw [List.takeWhile_append_of_pos word]
  cases x with
  | nil => simp
  | cons c x => simp [stops c rfl]

theorem word_append_inj {v u x y : List Char} (hv : IsWord v) (hu : IsWord u) (hx : Stops x)
    (hy : Stops y) (h : v ++ x = u ++ y) : v = u ∧ x = y := by
  have same : v = u := by
    rw [← takeWhile_word hv hx, h, takeWhile_word hu hy]
  subst same
  exact ⟨rfl, List.append_cancel_left h⟩

section Digits

variable {b m n : Nat}

theorem digitChar_alphanum : ∀ d < 16, d.digitChar.isAlphanum = true := by decide

theorem digitChar_inj : ∀ d < 16, ∀ e < 16, d.digitChar = e.digitChar → d = e := by decide

/-- In a base that has letters enough, numbers are words. -/
theorem isWord_toDigits (one : 1 < b) (few : b ≤ 16) (n : Nat) : IsWord (Nat.toDigits b n) := by
  induction n using Nat.strongRecOn with
  | ind n ih =>
    intro c hc
    rw [Nat.toDigits_eq_if one] at hc
    split at hc
    · rw [List.mem_singleton.mp hc]
      exact digitChar_alphanum n (by omega)
    · rcases List.mem_append.mp hc with hc | hc
      · exact ih (n / b) (Nat.div_lt_self (by omega) one) c hc
      · rw [List.mem_singleton.mp hc]
        exact digitChar_alphanum _ (Nat.lt_of_lt_of_le (Nat.mod_lt n (by omega)) few)

/-- The digits of a number say which one it is. -/
theorem toDigits_inj (one : 1 < b) (few : b ≤ 16) (h : Nat.toDigits b m = Nat.toDigits b n) :
    m = n := by
  induction m using Nat.strongRecOn generalizing n with
  | ind m ih =>
    have last : ∀ k, k % b < 16 := fun k => Nat.lt_of_lt_of_le (Nat.mod_lt k (by omega)) few
    rw [Nat.toDigits_eq_if one, Nat.toDigits_eq_if (n := n) one] at h
    split at h <;> split at h
    · exact digitChar_inj m (by omega) n (by omega) (List.singleton_inj.mp h)
    · have length := congrArg List.length h
      have long := List.length_pos_of_ne_nil (Nat.toDigits_ne_nil (n := n / b) (b := b))
      simp only [List.length_append, List.length_singleton] at length
      omega
    · have length := congrArg List.length h
      have long := List.length_pos_of_ne_nil (Nat.toDigits_ne_nil (n := m / b) (b := b))
      simp only [List.length_append, List.length_singleton] at length
      omega
    · next more _ =>
      obtain ⟨front, back⟩ := List.append_inj' h rfl
      have quotient : m / b = n / b := ih (m / b) (Nat.div_lt_self (by omega) one) front
      have remainder : m % b = n % b :=
        digitChar_inj _ (last m) _ (last n) (List.singleton_inj.mp back)
      rw [← Nat.div_add_mod m b, quotient, remainder, Nat.div_add_mod]

end Digits

/-! ## Quoted texts -/

/-- The characters that have a short escape, each with the letter of its escape. -/
def shortEscapes : List (Char × Char) :=
  [('\x00', '0'), ('\t', 't'), ('\r', 'r'), ('\n', 'n'), ('\\', '\\'), ('"', '"')]

/-- What stands for a character between quotes: the character, a short escape, or its number. -/
inductive Escaped (c : Char) : List Char → Prop
  | plain (slash : c ≠ '\\') (quote : c ≠ '"') : Escaped c [c]
  | short {k : Char} (named : (c, k) ∈ shortEscapes) : Escaped c ['\\', k]
  | number : Escaped c ('\\' :: 'u' :: '\x7b' :: (Nat.toDigits 16 c.toNat ++ ['\x7d']))

theorem escaped_escape (c : Char) : Escaped c (escape c) := by
  unfold escape
  repeat' split
  case isFalse.isFalse.isFalse.isFalse.isFalse.isFalse.isTrue => exact .number
  case isFalse.isFalse.isFalse.isFalse.isFalse.isFalse.isFalse slash quote _ =>
    exact .plain slash quote
  all_goals
    subst_vars
    exact .short (by decide)

/-- No two short escapes are the same, and none is a number. -/
theorem shortEscapes_spec : ∀ p ∈ shortEscapes, p.2 ≠ 'u' ∧
    ∀ q ∈ shortEscapes, p.2 = q.2 → p.1 = q.1 := by
  decide

/-- What stands for a character says which one it is, and where the next one begins. -/
theorem Escaped.append_inj {c d : Char} {e f x y : List Char} (he : Escaped c e)
    (hf : Escaped d f) (h : e ++ x = f ++ y) : c = d ∧ x = y := by
  cases he with
  | plain slash quote =>
    cases hf with
    | plain => simpa using h
    | short => exact absurd (List.cons.inj h).1 slash
    | number => exact absurd (List.cons.inj h).1 slash
  | @short k named =>
    cases hf with
    | plain slash => exact absurd (List.cons.inj h).1.symm slash
    | @short k' named' =>
      simp only [List.cons_append, List.nil_append, List.cons.injEq, true_and] at h
      exact ⟨(shortEscapes_spec _ named).2 _ named' h.1, h.2⟩
    | number =>
      simp only [List.cons_append, List.nil_append, List.cons.injEq, true_and] at h
      exact absurd h.1 (shortEscapes_spec _ named).1
  | number =>
    cases hf with
    | plain slash => exact absurd (List.cons.inj h).1.symm slash
    | @short k' named' =>
      simp only [List.cons_append, List.nil_append, List.cons.injEq, true_and] at h
      exact absurd h.1.symm (shortEscapes_spec _ named').1
    | number =>
      simp only [List.cons_append, List.append_assoc, List.nil_append, List.cons.injEq,
        true_and] at h
      obtain ⟨digits, rest⟩ := word_append_inj (isWord_toDigits (by decide) (by decide) _)
        (isWord_toDigits (by decide) (by decide) _) (stops_cons (by decide) _)
        (stops_cons (by decide) _) h
      exact ⟨Char.toNat_inj.mp (toDigits_inj (by decide) (by decide) digits),
        (List.cons.inj rest).2⟩

theorem escape_append_inj {c d : Char} {x y : List Char} (h : escape c ++ x = escape d ++ y) :
    c = d ∧ x = y :=
  (escaped_escape c).append_inj (escaped_escape d) h

/-- Nothing that stands for a character begins with a quote. -/
theorem escape_append_ne (c : Char) (x y : List Char) : escape c ++ x ≠ '"' :: y := by
  intro h
  have escaped := escaped_escape c
  generalize escape c = e at *
  cases escaped with
  | plain slash quote => exact quote (List.cons.inj h).1
  | short => exact absurd (List.cons.inj h).1 (by decide)
  | number => exact absurd (List.cons.inj h).1 (by decide)

/-- The text between two quotes is read up to the second one. -/
theorem escapeAll_quote_inj {s t x y : List Char}
    (h : escapeAll s ++ '"' :: x = escapeAll t ++ '"' :: y) : s = t ∧ x = y := by
  induction s generalizing t with
  | nil =>
    cases t with
    | nil => simpa using h
    | cons d t =>
      rw [escapeAll_cons, List.append_assoc] at h
      exact absurd h.symm (escape_append_ne _ _ _)
  | cons c s ih =>
    rw [escapeAll_cons, List.append_assoc] at h
    cases t with
    | nil => exact absurd h (escape_append_ne _ _ _)
    | cons d t =>
      rw [escapeAll_cons, List.append_assoc] at h
      obtain ⟨rfl, rest⟩ := escape_append_inj h
      obtain ⟨rfl, same⟩ := ih rest
      exact ⟨rfl, same⟩

/-! ## Values -/

section Values

variable {α β : Type} {text : α → String}

/-- Two texts of values that can be told apart whatever follows them, as long as it does not go on
with a word or a number. -/
def Delimits (v u : String) : Prop :=
  ∀ x y, Stops x → Stops y → v.toList ++ x = u.toList ++ y → v = u ∧ x = y

/-- A way to show values in which each of them can be read again, whatever follows. -/
def Legible (text : α → String) : Prop :=
  ∀ a b x y, Stops x → Stops y → (text a).toList ++ x = (text b).toList ++ y → a = b ∧ x = y

theorem delimits_self (v : String) : Delimits v v :=
  fun _ _ _ _ h => ⟨rfl, List.append_cancel_left h⟩

theorem Legible.delimits (legible : Legible text) (a b : α) : Delimits (text a) (text b) := by
  intro x y hx hy h
  obtain ⟨rfl, rest⟩ := legible a b x y hx hy h
  exact ⟨rfl, rest⟩

theorem Legible.inj (legible : Legible text) {a b : α} (h : text a = text b) : a = b :=
  (legible a b [] [] stops_nil stops_nil (by rw [h])).1

/-- What is shown of a value may be something else that says which one it is. -/
theorem Legible.comp (legible : Legible text) {f : β → α} (inj : ∀ b b', f b = f b' → b = b') :
    Legible fun b => text (f b) := by
  intro b b' x y hx hy h
  obtain ⟨same, rest⟩ := legible _ _ x y hx hy h
  exact ⟨inj b b' same, rest⟩

theorem legible_of_words (words : ∀ a, IsWord (text a).toList)
    (inj : ∀ a b, text a = text b → a = b) : Legible text := by
  intro a b x y hx hy h
  obtain ⟨same, rest⟩ := word_append_inj (words a) (words b) hx hy h
  exact ⟨inj a b (String.toList_inj.mp same), rest⟩

theorem toList_toString (n : Nat) : (toString n).toList = Nat.toDigits 10 n := by
  rw [Nat.toString_eq_repr, Nat.toList_repr]

theorem legible_number : Legible fun n : Nat => toString n := by
  refine legible_of_words (fun n => ?_) fun m n same => ?_
  · rw [toList_toString]
    exact isWord_toDigits (by decide) (by decide) n
  · refine toDigits_inj (b := 10) (by decide) (by decide) ?_
    rw [← toList_toString, same, toList_toString]

theorem legible_truthText : Legible truthText := by
  refine legible_of_words (fun b => ?_) fun b b' same => ?_
  · cases b <;> simp [IsWord, truthText]
  · cases b <;> cases b' <;> first | rfl | exact absurd same (by decide)

theorem legible_quoted : Legible quoted := by
  intro s t x y _ _ h
  simp only [toList_quoted, List.cons_append, List.append_assoc, List.nil_append, List.cons.injEq,
    true_and] at h
  obtain ⟨same, rest⟩ := escapeAll_quote_inj h
  exact ⟨String.toList_inj.mp same, rest⟩

/-- A text that begins with a word, or is that word. -/
def Named (name v : String) : Prop := IsWord name.toList ∧
  ∃ rest, v.toList = name.toList ++ rest ∧ ∀ x, Stops x → Stops (rest ++ x)

theorem named_self {v : String} (word : IsWord v.toList) : Named v v :=
  ⟨word, [], by simp, fun _ => id⟩

/-- Texts that begin with different words are never mistaken for each other. -/
theorem Named.ne {n m v u : String} (hv : Named n v) (hu : Named m u) (other : n ≠ m)
    {x y : List Char} (hx : Stops x) (hy : Stops y) : v.toList ++ x ≠ u.toList ++ y := by
  obtain ⟨wordN, rest, isV, stopsV⟩ := hv
  obtain ⟨wordM, rest', isU, stopsU⟩ := hu
  intro h
  rw [isV, isU, List.append_assoc, List.append_assoc] at h
  exact other (String.toList_inj.mp
    (word_append_inj wordN wordM (stopsV x hx) (stopsU y hy) h).1)

end Values

namespace Shape

/-! ## Records -/

/-- The fields of a record behind its first one, and its end. -/
def more (fields : List (String × String)) : List Char :=
  fields.flatMap (fun (f, v) => ", ".toList ++ (f.toList ++ (": ".toList ++ v.toList))) ++
    " \x7d".toList

theorem stops_more (fields : List (String × String)) (x : List Char) :
    Stops (more fields ++ x) := by
  cases fields with
  | nil => exact stops_cons (by decide) _
  | cons f fields => exact stops_cons (by decide) _

theorem toList_record (name f v : String) (fields : List (String × String)) :
    (record name ((f, v) :: fields)).toList = name.toList ++
      (" \x7b ".toList ++ (f.toList ++ (": ".toList ++ (v.toList ++ more fields)))) := by
  have row : ∀ (a : String) (l : List String), (String.intercalate ", " (a :: l)).toList =
      a.toList ++ l.flatMap fun b => ", ".toList ++ b.toList := by
    intro a l
    induction l generalizing a with
    | nil => simp
    | cons b l ih =>
      have next := ih b
      simp only [String.toList_intercalate, List.map_cons] at next ⊢
      rw [List.intercalate_cons_cons, next]
      simp
  rw [record, List.map_cons, String.toList_append, String.toList_append, String.toList_append, row]
  simp [more, List.flatMap_map]

theorem named_record {name : String} (word : IsWord name.toList) (f v : String)
    (fields : List (String × String)) : Named name (record name ((f, v) :: fields)) :=
  ⟨word, _, toList_record name f v fields, fun _ _ => stops_cons (by decide) _⟩

/-- Two fields of the same name whose values can be told apart. -/
def Field.Delimits (f g : String × String) : Prop := f.1 = g.1 ∧ Text.Delimits f.2 g.2

variable {name : String} {fs gs : List (String × String)}

theorem more_append_inj (fields : List.Forall₂ Field.Delimits fs gs) {x y : List Char}
    (h : more fs ++ x = more gs ++ y) : fs = gs ∧ x = y := by
  induction fields with
  | nil => exact ⟨rfl, List.append_cancel_left h⟩
  | @cons f g fs gs field _ ih =>
    obtain ⟨f, v⟩ := f
    obtain ⟨g, u⟩ := g
    obtain ⟨rfl : f = g, value⟩ := field
    have split : ∀ (v : String) (fs : List (String × String)) (x : List Char),
        more ((f, v) :: fs) ++ x =
          (", ".toList ++ (f.toList ++ ": ".toList)) ++ (v.toList ++ (more fs ++ x)) := by
      intro v fs x
      simp [more]
    rw [split, split] at h
    obtain ⟨rfl, rest⟩ := value _ _ (stops_more _ _) (stops_more _ _) (List.append_cancel_left h)
    obtain ⟨rfl, same⟩ := ih rest
    exact ⟨rfl, same⟩

/-- Records of the same name and with the same names of fields are read field by field. -/
theorem record_append_inj (fields : List.Forall₂ Field.Delimits fs gs) (filled : fs ≠ [])
    {x y : List Char} (h : (record name fs).toList ++ x = (record name gs).toList ++ y) :
    fs = gs ∧ x = y := by
  cases fields with
  | nil => exact absurd rfl filled
  | @cons f g fs gs field fields =>
    obtain ⟨f, v⟩ := f
    obtain ⟨g, u⟩ := g
    obtain ⟨rfl : f = g, value⟩ := field
    have split : ∀ (v : String) (fs : List (String × String)) (x : List Char),
        (record name ((f, v) :: fs)).toList ++ x =
          (name.toList ++ (" \x7b ".toList ++ (f.toList ++ ": ".toList))) ++
            (v.toList ++ (more fs ++ x)) := by
      intro v fs x
      rw [toList_record]
      simp
    rw [split, split] at h
    obtain ⟨rfl, rest⟩ := value _ _ (stops_more _ _) (stops_more _ _) (List.append_cancel_left h)
    obtain ⟨rfl, same⟩ := more_append_inj fields rest
    exact ⟨rfl, same⟩

theorem record_inj (fields : List.Forall₂ Field.Delimits fs gs) (filled : fs ≠ [])
    (h : record name fs = record name gs) : fs = gs :=
  (record_append_inj fields filled (x := []) (y := []) (by rw [h])).1

theorem delimits_record (fields : List.Forall₂ Field.Delimits fs gs) (filled : fs ≠ []) :
    Delimits (record name fs) (record name gs) := by
  intro x y _ _ h
  obtain ⟨rfl, rest⟩ := record_append_inj fields filled h
  exact ⟨rfl, rest⟩

/-! ## Values that may be missing -/

theorem named_none : Named "None" (optional none) := named_self (by simp [IsWord])

theorem toList_some (v : String) :
    (optional (some v)).toList = "Some".toList ++ ('(' :: (v.toList ++ [')'])) := by
  have one : String.intercalate ", " [v] = v := rfl
  simp [optional, case, one]

theorem named_some (v : String) : Named "Some" (optional (some v)) :=
  ⟨by simp [IsWord], _, toList_some v, fun _ _ => stops_cons (by decide) _⟩

theorem legible_optional {α : Type} {text : α → String} (legible : Legible text) :
    Legible fun o : Option α => optional (o.map text) := by
  intro o p x y hx hy h
  cases o with
  | none =>
    cases p with
    | none => exact ⟨rfl, List.append_cancel_left h⟩
    | some b => exact absurd h (named_none.ne (named_some _) (by decide) hx hy)
  | some a =>
    cases p with
    | none => exact absurd h ((named_some _).ne named_none (by decide) hx hy)
    | some b =>
      simp only [Option.map_some, toList_some, List.append_assoc, List.cons_append,
        List.append_cancel_left_eq, List.cons.injEq, true_and] at h
      obtain ⟨rfl, rest⟩ := legible a b _ _ (stops_cons (by decide) _) (stops_cons (by decide) _) h
      exact ⟨rfl, (List.cons.inj rest).2⟩

end Shape

end TopicWorker.Text

namespace TopicWorker

open Text Text.Shape

/-! ## Configurations -/

namespace AckMode

theorem named_auto : Named "Auto" (shape .auto) := named_self (by simp [IsWord])

theorem named_manual (requeue : Bool) : Named "Manual" (shape (.manual requeue)) :=
  named_record (by simp [IsWord]) _ _ _

theorem fields_delimit (requeue requeue' : Bool) : List.Forall₂ Field.Delimits
    [("requeue_on_failure", truthText requeue)] [("requeue_on_failure", truthText requeue')] :=
  .cons ⟨rfl, legible_truthText.delimits requeue requeue'⟩ .nil

theorem legible_shape : Legible shape := by
  intro a b x y hx hy h
  cases a with
  | auto =>
    cases b with
    | auto => exact ⟨rfl, List.append_cancel_left h⟩
    | manual requeue => exact absurd h (named_auto.ne (named_manual requeue) (by decide) hx hy)
  | manual requeue =>
    cases b with
    | auto => exact absurd h ((named_manual requeue).ne named_auto (by decide) hx hy)
    | manual requeue' =>
      obtain ⟨fields, rest⟩ := record_append_inj (fields_delimit requeue requeue') (by simp) h
      simp only [List.cons.injEq, Prod.mk.injEq, true_and, and_true] at fields
      rw [legible_truthText.inj fields]
      exact ⟨rfl, rest⟩

end AckMode

namespace Endpoint

variable (e e' : Endpoint)

/-- The fields of an endpoint, with a text in the place of the password that is always the same. -/
theorem fields_delimit : List.Forall₂ Field.Delimits
    [("host", quoted e.host), ("user", quoted e.user), ("password", quoted "***"),
      ("port", toString e.port.toNat), ("vhost", quoted e.vhost)]
    [("host", quoted e'.host), ("user", quoted e'.user), ("password", quoted "***"),
      ("port", toString e'.port.toNat), ("vhost", quoted e'.vhost)] :=
  .cons ⟨rfl, legible_quoted.delimits _ _⟩ <| .cons ⟨rfl, legible_quoted.delimits _ _⟩ <|
    .cons ⟨rfl, delimits_self _⟩ <| .cons ⟨rfl, legible_number.delimits _ _⟩ <|
      .cons ⟨rfl, legible_quoted.delimits _ _⟩ .nil

theorem delimits_shape : Delimits e.shape e'.shape :=
  delimits_record (fields_delimit e e') (by simp)

variable {e e'}

theorem shape_iff : e.shape = e'.shape ↔
    e.host = e'.host ∧ e.user = e'.user ∧ e.port = e'.port ∧ e.vhost = e'.vhost := by
  constructor
  · intro h
    have fields := record_inj (fields_delimit e e') (by simp) h
    simp only [List.cons.injEq, Prod.mk.injEq, true_and, and_true] at fields
    obtain ⟨host, user, port, vhost⟩ := fields
    exact ⟨legible_quoted.inj host, legible_quoted.inj user,
      UInt16.toNat_inj.mp (legible_number.inj port), legible_quoted.inj vhost⟩
  · rintro ⟨host, user, port, vhost⟩
    simp only [shape, host, user, port, vhost]

end Endpoint

namespace Config

theorem legible_prefetch :
    Legible fun o : Option UInt16 => optional (o.map fun n => toString n.toNat) :=
  legible_optional (legible_number.comp fun _ _ => UInt16.toNat_inj.mp)

/-- The fields of a configuration. -/
theorem fields_delimit (c c' : Config) : List.Forall₂ Field.Delimits
    [("name", quoted c.name), ("endpoint", c.endpoint.shape), ("ack_mode", c.ackMode.shape),
      ("prefetch", optional (c.prefetch.map fun n => toString n.toNat))]
    [("name", quoted c'.name), ("endpoint", c'.endpoint.shape), ("ack_mode", c'.ackMode.shape),
      ("prefetch", optional (c'.prefetch.map fun n => toString n.toNat))] :=
  .cons ⟨rfl, legible_quoted.delimits _ _⟩ <| .cons ⟨rfl, Endpoint.delimits_shape _ _⟩ <|
    .cons ⟨rfl, AckMode.legible_shape.delimits _ _⟩ <|
      .cons ⟨rfl, legible_prefetch.delimits _ _⟩ .nil

/-- Two configurations are shown alike exactly when they differ in the password at most. -/
theorem shape_eq_iff (c c' : Config) : c.shape = c'.shape ↔
    c.name = c'.name ∧ c.ackMode = c'.ackMode ∧ c.prefetch = c'.prefetch ∧
      c.endpoint.host = c'.endpoint.host ∧ c.endpoint.user = c'.endpoint.user ∧
      c.endpoint.port = c'.endpoint.port ∧ c.endpoint.vhost = c'.endpoint.vhost := by
  rw [← Endpoint.shape_iff]
  constructor
  · intro h
    have fields := record_inj (fields_delimit c c') (by simp) h
    simp only [List.cons.injEq, Prod.mk.injEq, true_and, and_true] at fields
    obtain ⟨name, endpoint, mode, prefetch⟩ := fields
    exact ⟨legible_quoted.inj name, AckMode.legible_shape.inj mode, legible_prefetch.inj prefetch,
      endpoint⟩
  · rintro ⟨name, mode, prefetch, endpoint⟩
    simp only [shape, name, mode, prefetch, endpoint]

end Config

end TopicWorker
