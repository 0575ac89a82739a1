/-!
# UTF-8

Message bodies and header values are bytes that may or may not be UTF-8. Reading them is one
automaton that takes an octet at a time: between two characters it looks at the first octet
of the next one, inside a character it knows how many octets are still owed and in which
range the next one has to lie. The ranges of the Unicode standard's table of well-formed
sequences are what keeps overlong forms, surrogates and values past U+10FFFF out.

## Main definitions

* `encode`: the bytes of a text.
* `decodeLossy`: the text of any bytes; every maximal ill-formed part becomes one U+FFFD.
* `decode`: the text of well-formed bytes, or the first fault.
-/

namespace TopicWorker.Text.Utf8

/-- The octets of one character. -/
def encodeChar (c : Char) : List UInt8 :=
  let n := c.toNat
  if n < 0x80 then [n.toUInt8]
  else if n < 0x800 then [(0xC0 + n / 0x40).toUInt8, (0x80 + n % 0x40).toUInt8]
  else if n < 0x10000 then
    [(0xE0 + n / 0x1000).toUInt8, (0x80 + n / 0x40 % 0x40).toUInt8, (0x80 + n % 0x40).toUInt8]
  else
    [(0xF0 + n / 0x40000).toUInt8, (0x80 + n / 0x1000 % 0x40).toUInt8,
      (0x80 + n / 0x40 % 0x40).toUInt8, (0x80 + n % 0x40).toUInt8]

/-- The octets of a text. -/
def encode (cs : List Char) : List UInt8 := cs.flatMap encodeChar

/-- A character that has begun: what its octets have said so far, how many octets are owed
besides the next one, and the range of the next one. -/
structure Partial where
  value : Nat
  owed : Nat
  low : Nat
  high : Nat
  deriving DecidableEq, Repr

/-- What an octet does where it is read. -/
inductive Reading where
  /-- It ends a character. -/
  | char (c : Char)
  /-- It begins a character or goes on with one. -/
  | more (p : Partial)
  /-- It cannot stand there. -/
  | fault
  deriving DecidableEq, Repr

/-- An octet read between two characters. -/
def first (b : UInt8) : Reading :=
  let n := b.toNat
  if n < 0x80 then .char (Char.ofNat n)
  else if n < 0xC2 then .fault
  else if n < 0xE0 then .more ⟨n - 0xC0, 0, 0x80, 0xBF⟩
  else if n = 0xE0 then .more ⟨0, 1, 0xA0, 0xBF⟩
  else if n = 0xED then .more ⟨0xD, 1, 0x80, 0x9F⟩
  else if n < 0xF0 then .more ⟨n - 0xE0, 1, 0x80, 0xBF⟩
  else if n = 0xF0 then .more ⟨0, 2, 0x90, 0xBF⟩
  else if n < 0xF4 then .more ⟨n - 0xF0, 2, 0x80, 0xBF⟩
  else if n = 0xF4 then .more ⟨4, 2, 0x80, 0x8F⟩
  else .fault

/-- An octet read inside a character. -/
def Partial.next (p : Partial) (b : UInt8) : Reading :=
  let n := b.toNat
  if p.low ≤ n ∧ n ≤ p.high then
    let value := p.value * 0x40 + (n - 0x80)
    match p.owed with
    | 0 => .char (Char.ofNat value)
    | owed + 1 => .more ⟨value, owed, 0x80, 0xBF⟩
  else .fault

/-- U+FFFD, which stands for what could not be read. -/
def replacement : Char := '\uFFFD'

/-- Reads on from a character that has begun, or from between two characters.

An octet that cannot go on with a character ends the ill-formed part before it and is read
again as a first octet. -/
def lossyFrom : Option Partial → List UInt8 → List Char
  | none, [] => []
  | some _, [] => [replacement]
  | none, b :: rest =>
    match first b with
    | .char c => c :: lossyFrom none rest
    | .more p => lossyFrom (some p) rest
    | .fault => replacement :: lossyFrom none rest
  | some p, b :: rest =>
    match p.next b with
    | .char c => c :: lossyFrom none rest
    | .more p => lossyFrom (some p) rest
    | .fault =>
      replacement ::
        match first b with
        | .char c => c :: lossyFrom none rest
        | .more p => lossyFrom (some p) rest
        | .fault => replacement :: lossyFrom none rest

/-- The text of any bytes: each maximal ill-formed part is replaced by one U+FFFD. -/
def decodeLossy (bs : List UInt8) : List Char := lossyFrom none bs

/-- Where bytes stop being UTF-8: the number of octets that are well-formed before it, and the
length of the ill-formed part, which is not known where the bytes end inside a character. -/
structure Fault where
  validUpTo : Nat
  length : Option Nat
  deriving DecidableEq, Repr

/-- Reads on strictly: `done` octets are read whole, and `held` more belong to the character
that has begun. -/
def decodeFrom (done held : Nat) : Option Partial → List UInt8 → Except Fault (List Char)
  | none, [] => .ok []
  | some _, [] => .error ⟨done, none⟩
  | none, b :: rest =>
    match first b with
    | .char c => (decodeFrom (done + 1) 0 none rest).map (c :: ·)
    | .more p => decodeFrom done 1 (some p) rest
    | .fault => .error ⟨done, some 1⟩
  | some p, b :: rest =>
    match p.next b with
    | .char c => (decodeFrom (done + held + 1) 0 none rest).map (c :: ·)
    | .more p => decodeFrom done (held + 1) (some p) rest
    | .fault => .error ⟨done, some held⟩

/-- The text of well-formed bytes, or the first fault. -/
def decode (bs : List UInt8) : Except Fault (List Char) := decodeFrom 0 0 none bs

/-- The text of well-formed bytes as a string. -/
def decode? (bs : List UInt8) : Option String := (decode bs).toOption.map String.ofList

/-- The bytes of a string. -/
def bytes (s : String) : List UInt8 := encode s.toList

@[simp] theorem encode_nil : encode [] = [] := rfl

@[simp] theorem encode_append (s t : List Char) : encode (s ++ t) = encode s ++ encode t := by
  simp [encode]

@[simp] theorem decodeLossy_nil : decodeLossy [] = [] := rfl

end TopicWorker.Text.Utf8
