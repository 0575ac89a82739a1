import TopicWorker.Text.Hidden

/-!
# Values as texts

The values of a worker stand in texts of two kinds. Settings are read from texts that somebody has
written. There may be white space around them, by which is meant the Unicode property `White_Space`
and not the four characters of ASCII, and a setting that holds nothing else counts as not given. A
number may carry one plus sign and any number of leading zeros, and has to fit in sixteen bits; a
truth value is one of two words.

Other texts show values to an operator, on one line. A text is shown in double quotes. Inside them a
quote, a backslash and the usual controls have short escapes, a hidden character is written by its
number in hexadecimal, and every other character stands for itself. So a quoted text ends at its own
closing quote whatever it holds. A record lists its fields in braces, and a case with arguments
lists them in parentheses.

## Main definitions

* `isBlank`, `trim`, `allBlank`: white space, and texts without it and with nothing else.
* `natural?`, `word16?`, `truth?`: the numbers and truth values that texts denote.
* `escape`, `quoted`: what stands for one character, and a text in quotes.
* `Shape.record`, `Shape.case`, `Shape.optional`: the forms of a value that is shown.

`trim_eq_nil_iff` says that a text is trimmed to nothing exactly if it is blank.
-/

namespace TopicWorker.Text

/-! ## White space -/

/-- The characters with the Unicode property `White_Space`. -/
def isBlank (c : Char) : Bool :=
  let n := c.toNat
  (0x09 ≤ n && n ≤ 0x0D) || n == 0x20 || n == 0x85 || n == 0xA0 || n == 0x1680
    || (0x2000 ≤ n && n ≤ 0x200A) || n == 0x2028 || n == 0x2029 || n == 0x202F
    || n == 0x205F || n == 0x3000

/-- The white space of ASCII is blank. -/
theorem isBlank_of_isWhitespace {c : Char} (h : c.isWhitespace = true) : isBlank c = true := by
  simp only [Char.isWhitespace, Bool.or_eq_true, decide_eq_true_eq] at h
  rcases h with ((rfl | rfl) | rfl) | rfl <;> decide

/-- A text that holds blank characters only; the empty text is one. -/
def allBlank (cs : List Char) : Bool := cs.all isBlank

/-- The text without its leading and trailing blank characters. -/
def trim (cs : List Char) : List Char :=
  ((cs.dropWhile isBlank).reverse.dropWhile isBlank).reverse

theorem dropWhile_isBlank_eq_nil_iff (cs : List Char) :
    cs.dropWhile isBlank = [] ↔ allBlank cs = true := by
  induction cs with
  | nil => simp [allBlank]
  | cons c cs ih => by_cases h : isBlank c <;> simp_all [allBlank]

/-- Trimming leaves nothing exactly of a blank text. -/
theorem trim_eq_nil_iff (cs : List Char) : trim cs = [] ↔ allBlank cs = true := by
  simp only [trim, List.reverse_eq_nil_iff]
  rw [dropWhile_isBlank_eq_nil_iff, allBlank, List.all_reverse, ← dropWhile_isBlank_eq_nil_iff cs]
  constructor
  · intro h
    rcases hd : cs.dropWhile isBlank with _ | ⟨c, rest⟩
    · rfl
    · have hc := List.head_dropWhile_not isBlank (l := cs) (by simp [hd])
      simp [hd] at hc h
      simp [hc] at h
  · intro h
    simp [h]

/-! ## Numbers and truth values -/

/-- The value of an ASCII digit. -/
def digit? (c : Char) : Option Nat :=
  if '0' ≤ c ∧ c ≤ '9' then some (c.toNat - '0'.toNat) else none

/-- The number denoted by digits that follow a part with the value `acc`. -/
def digitsFrom (acc : Nat) : List Char → Option Nat
  | [] => some acc
  | c :: cs => (digit? c).bind fun d => digitsFrom (acc * 10 + d) cs

/-- The number that one or more ASCII digits denote. -/
def natural? (cs : List Char) : Option Nat :=
  if cs.isEmpty then none else digitsFrom 0 cs

/-- A text without the one plus sign it may begin with. -/
def dropPlus : List Char → List Char
  | '+' :: cs => cs
  | cs => cs

/-- A sixteen-bit number: an optional plus sign and one or more digits. -/
def word16? (cs : List Char) : Option UInt16 :=
  (natural? (dropPlus cs)).bind fun n => if n < 65536 then some (UInt16.ofNat n) else none

/-- A truth value, written out in lower case. -/
def truth? (cs : List Char) : Option Bool :=
  if cs = "true".toList then some true
  else if cs = "false".toList then some false
  else none

/-- How a truth value is written. -/
def truthText (b : Bool) : String := if b then "true" else "false"

@[simp] theorem truth?_truthText (b : Bool) : truth? (truthText b).toList = some b := by
  cases b <;> decide

/-! ## Quoted texts -/

/-- What stands for a character between quotes. -/
def escape (c : Char) : List Char :=
  if c = '\x00' then ['\\', '0']
  else if c = '\t' then ['\\', 't']
  else if c = '\r' then ['\\', 'r']
  else if c = '\n' then ['\\', 'n']
  else if c = '\\' then ['\\', '\\']
  else if c = '"' then ['\\', '"']
  else if isHidden c then ['\\', 'u', '\x7b'] ++ Nat.toDigits 16 c.toNat ++ ['\x7d']
  else [c]

/-- The text between the quotes. -/
def escapeAll (cs : List Char) : List Char := cs.flatMap escape

/-- A text in double quotes. -/
def quoted (s : String) : String := String.ofList ('"' :: escapeAll s.toList ++ ['"'])

@[simp] theorem escapeAll_nil : escapeAll [] = [] := rfl

@[simp] theorem escapeAll_cons (c : Char) (cs : List Char) :
    escapeAll (c :: cs) = escape c ++ escapeAll cs := rfl

@[simp] theorem toList_quoted (s : String) :
    (quoted s).toList = '"' :: escapeAll s.toList ++ ['"'] := by
  simp [quoted]

/-! ## Values that are shown -/

namespace Shape

/-- A record: its name and its fields, each with the text of its value. -/
def record (name : String) (fields : List (String × String)) : String :=
  name ++ " \x7b " ++ String.intercalate ", " (fields.map fun (f, v) => f ++ ": " ++ v) ++ " \x7d"

/-- A case: its name alone, or followed by the texts of its arguments. -/
def case (name : String) : List String → String
  | [] => name
  | args => name ++ "(" ++ String.intercalate ", " args ++ ")"

/-- A value that may be missing. -/
def optional : Option String → String
  | none => "None"
  | some v => case "Some" [v]

end Shape

end TopicWorker.Text
