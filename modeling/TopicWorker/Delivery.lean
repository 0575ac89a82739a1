import TopicWorker.Failure
import TopicWorker.Journal
import TopicWorker.Text.Literal
import TopicWorker.Text.Utf8

/-!
# Deliveries

A delivery is one message handed over by the broker, with its routing data and its header
table. A table holds values of many types under distinct keys; the worker itself reads only
texts, and only those that are UTF-8. Somebody settles a delivery: the broker at the moment it
sends it (at most once), or the worker after its handler has returned (at least once).

## Main definitions

* `HeaderValue`, `Headers`: header tables. `Headers.ofList` keeps the last of two values with
  one key and orders the keys.
* `Headers.text?`: the text under a key.
* `Delivery`, `Delivery.bodyText`, `Delivery.announcement`.
* `AckMode`: who settles.
* `HandlerResult`, `Cue`, `HandlerKind`: who handles, and how that ends.
-/

namespace TopicWorker

/-- Header values that hold no further values. A real number is a mantissa and a number of
decimal places. -/
inductive Scalar where
  | boolean (b : Bool)
  | shortShortInt (n : Int8)
  | shortShortUInt (n : UInt8)
  | shortInt (n : Int16)
  | shortUInt (n : UInt16)
  | longInt (n : Int32)
  | longUInt (n : UInt32)
  | longLongInt (n : Int64)
  | float (mantissa : Int) (places : Nat)
  | double (mantissa : Int) (places : Nat)
  | decimal (mantissa : Int) (places : Nat)
  | shortString (s : String)
  | timestamp (n : UInt64)
  | byteArray (bytes : List UInt8)
  | void
  deriving DecidableEq, Repr

/-- The label of a scalar's type. -/
def Scalar.label : Scalar → String
  | boolean _ => "Boolean"
  | shortShortInt _ => "ShortShortInt"
  | shortShortUInt _ => "ShortShortUInt"
  | shortInt _ => "ShortInt"
  | shortUInt _ => "ShortUInt"
  | longInt _ => "LongInt"
  | longUInt _ => "LongUInt"
  | longLongInt _ => "LongLongInt"
  | float _ _ => "Float"
  | double _ _ => "Double"
  | decimal _ _ => "DecimalValue"
  | shortString _ => "ShortString"
  | timestamp _ => "Timestamp"
  | byteArray _ => "ByteArray"
  | void => "Void"

/-- A header value. -/
inductive HeaderValue where
  /-- A text of any length; nothing makes sure that it is UTF-8. -/
  | longString (bytes : List UInt8)
  | scalar (value : Scalar)
  | array (items : List HeaderValue)
  | table (entries : List (String × HeaderValue))
  deriving Repr, Inhabited

namespace HeaderValue

mutual

/-- Equality of header values is decided along their structure. -/
def decEq : (a b : HeaderValue) → Decidable (a = b)
  | .longString x, .longString y => decidable_of_iff (x = y) (by simp)
  | .scalar x, .scalar y => decidable_of_iff (x = y) (by simp)
  | .array xs, .array ys =>
    match decEqItems xs ys with
    | isTrue h => isTrue (by simp [h])
    | isFalse h => isFalse (by simp [h])
  | .table xs, .table ys =>
    match decEqEntries xs ys with
    | isTrue h => isTrue (by simp [h])
    | isFalse h => isFalse (by simp [h])
  | .longString _, .scalar _ | .longString _, .array _ | .longString _, .table _
  | .scalar _, .longString _ | .scalar _, .array _ | .scalar _, .table _
  | .array _, .longString _ | .array _, .scalar _ | .array _, .table _
  | .table _, .longString _ | .table _, .scalar _ | .table _, .array _ => isFalse (by simp)

/-- Equality of the items of two arrays. -/
def decEqItems : (xs ys : List HeaderValue) → Decidable (xs = ys)
  | [], [] => isTrue rfl
  | [], _ :: _ | _ :: _, [] => isFalse (by simp)
  | x :: xs, y :: ys =>
    match decEq x y, decEqItems xs ys with
    | isTrue h, isTrue hs => isTrue (by simp [h, hs])
    | isFalse h, _ => isFalse (by simp [h])
    | _, isFalse hs => isFalse (by simp [hs])

/-- Equality of the entries of two tables. -/
def decEqEntries : (xs ys : List (String × HeaderValue)) → Decidable (xs = ys)
  | [], [] => isTrue rfl
  | [], _ :: _ | _ :: _, [] => isFalse (by simp)
  | (k, x) :: xs, (l, y) :: ys =>
    match decEq x y, decEqEntries xs ys with
    | isTrue h, isTrue hs => decidable_of_iff (k = l) (by simp [h, hs])
    | isFalse h, _ => isFalse (by simp [h])
    | _, isFalse hs => isFalse (by simp [hs])

end

instance : DecidableEq HeaderValue := decEq

/-- The label of a value's type. -/
def label : HeaderValue → String
  | longString _ => "LongString"
  | scalar s => s.label
  | array _ => "FieldArray"
  | table _ => "FieldTable"

end HeaderValue

/-- A header table: its entries in the order of their keys, each key once. -/
structure Headers where
  entries : List (String × HeaderValue) := []
  ascending : entries.Pairwise (fun a b => a.1 < b.1) := by exact .nil
  deriving DecidableEq, Repr

namespace Headers

instance : Inhabited Headers := ⟨{}⟩

/-- Puts an entry in its place among ordered entries; one with the same key makes room. -/
def place (key : String) (value : HeaderValue) :
    List (String × HeaderValue) → List (String × HeaderValue)
  | [] => [(key, value)]
  | (k, v) :: rest =>
    if key < k then (key, value) :: (k, v) :: rest
    else if key = k then (key, value) :: rest
    else (k, v) :: place key value rest

/-- Nothing but the new entry is added. -/
theorem eq_or_mem_of_mem_place {key : String} {value : HeaderValue} {e : String × HeaderValue}
    {entries : List (String × HeaderValue)} (h : e ∈ place key value entries) :
    e = (key, value) ∨ e ∈ entries := by
  induction entries with
  | nil => simpa [place] using h
  | cons head rest ih =>
    obtain ⟨k, v⟩ := head
    simp only [place] at h
    split at h
    · simpa using h
    · split at h
      · rcases List.mem_cons.1 h with h | h
        · exact .inl h
        · exact .inr (List.mem_cons_of_mem _ h)
      · rcases List.mem_cons.1 h with h | h
        · exact .inr (h ▸ List.mem_cons_self)
        · exact (ih h).imp_right (List.mem_cons_of_mem _)

/-- The order of the keys is kept. -/
theorem pairwise_place (key : String) (value : HeaderValue)
    {entries : List (String × HeaderValue)} (h : entries.Pairwise (fun a b => a.1 < b.1)) :
    (place key value entries).Pairwise (fun a b => a.1 < b.1) := by
  induction entries with
  | nil => simp [place]
  | cons head rest ih =>
    obtain ⟨k, v⟩ := head
    obtain ⟨below, ordered⟩ := List.pairwise_cons.1 h
    simp only [place]
    split
    · next lt =>
      refine List.pairwise_cons.2 ⟨fun e he => ?_, h⟩
      rcases List.mem_cons.1 he with rfl | he
      · exact lt
      · exact String.lt_trans lt (below e he)
    · next notLt =>
      split
      · next eq =>
        subst eq
        exact List.pairwise_cons.2 ⟨below, ordered⟩
      · next ne =>
        refine List.pairwise_cons.2 ⟨fun e he => ?_, ih ordered⟩
        rcases eq_or_mem_of_mem_place he with rfl | he
        · exact Std.lt_of_le_of_ne (String.not_lt.1 notLt) (Ne.symm ne)
        · exact below e he

/-- The table with a value under a key. -/
def insert (h : Headers) (key : String) (value : HeaderValue) : Headers :=
  ⟨place key value h.entries, pairwise_place key value h.ascending⟩

/-- The table of a list of entries, of which a later one replaces an earlier one. -/
def ofList (entries : List (String × HeaderValue)) : Headers :=
  entries.foldl (fun h (key, value) => h.insert key value) {}

/-- The value under a key. -/
def get? (h : Headers) (key : String) : Option HeaderValue := h.entries.lookup key

/-- The keys of the table. -/
def keys (h : Headers) : List String := h.entries.map (·.1)

/-- No key stands in a table twice. -/
theorem keys_nodup (h : Headers) : h.keys.Nodup :=
  List.pairwise_map.2 (h.ascending.imp fun lt => Std.ne_of_lt lt)

/-- A table has exactly the keys that it has values for. -/
theorem mem_keys_iff (h : Headers) (key : String) : key ∈ h.keys ↔ (h.get? key).isSome := by
  simp [keys, get?]

/-- The text under a key. Values of other types count as absent; a text that is not UTF-8 is
reported by its fault. -/
def text? (h : Headers) (key : String) : Except Text.Utf8.Fault (Option String) :=
  match h.get? key with
  | some (.longString bytes) => (Text.Utf8.decode bytes).map fun cs => some (String.ofList cs)
  | _ => .ok none

end Headers

/-- One message from the queue. -/
structure Delivery where
  body : List UInt8 := []
  routingKey : String := "user.event.created"
  tag : UInt64 := 1
  exchange : String := "users"
  redelivered : Bool := false
  headers : Headers := default
  deriving DecidableEq, Repr, Inhabited

namespace Delivery

/-- The body as text, with U+FFFD for what is not UTF-8. -/
def bodyText (d : Delivery) : String := String.ofList (Text.Utf8.decodeLossy d.body)

/-- What the logging handler says about a delivery. -/
def announcement (d : Delivery) : LogEntry :=
  { level := .info, component := .handling
    message := "received '" ++ d.routingKey ++ "': '" ++ d.bodyText ++ "'"
    fields := [("delivery_tag", .number d.tag.toNat)] }

end Delivery

/-! ## Who settles, and who handles -/

/-- The settlement policy of a consumer registration. -/
inductive AckMode where
  /-- The broker treats a message as acknowledged when it is sent; a failing handler loses
  it. -/
  | auto
  /-- The worker acknowledges after a handler that succeeded and rejects otherwise, with or
  without a request to queue the message again. -/
  | manual (requeue : Bool)
  deriving DecidableEq, Repr, Inhabited

namespace AckMode

/-- Whether the broker settles. -/
def isAuto : AckMode → Bool
  | auto => true
  | manual _ => false

/-- The mode as a value. -/
def shape : AckMode → String
  | auto => "Auto"
  | manual requeue =>
    Text.Shape.record "Manual" [("requeue_on_failure", Text.truthText requeue)]

end AckMode

/-- How a handler ends. -/
inductive HandlerResult where
  | succeeded
  | failed (f : Failure)
  /-- The handler panicked, with a text or with something else. -/
  | panicked (payload : Option String)
  deriving DecidableEq, Repr

/-- The failure that a handler's end amounts to. -/
def HandlerResult.failure? : HandlerResult → Option Failure
  | succeeded => none
  | failed f => some (.ofHandler f)
  | panicked none => some (.handler "handler panicked")
  | panicked (some text) => some (.handler ("handler panicked: " ++ text))

/-- What a handler does with one delivery: it may wait for a gate, and then it ends. -/
structure Cue where
  gate : Option String := none
  result : HandlerResult := .succeeded
  deriving DecidableEq, Repr, Inhabited

/-- Who handles the deliveries of a consumer. -/
inductive HandlerKind where
  /-- Writes each delivery to the journal and succeeds. -/
  | logging
  /-- Follows the cue of each delivery. -/
  | cued
  deriving DecidableEq, Repr

end TopicWorker
