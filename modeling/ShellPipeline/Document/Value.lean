import ShellPipeline.Document.Fault

/-!
# Document values

What a configuration document may hold. A mapping keeps its entries in the order in which they were
written, and its keys may be any value that does not itself hold values. Two keys are one if they
compare as equal; a whole number, a floating-point number and a truth value that stand for the same
number do.

A text that is torn, with half of a surrogate pair in it, is kept apart from those that are strings
(`Wording.IsWhole`). A collection that holds itself is written with `again` where it comes back.

* `Value` — the values;
* `Value.get?` — what a mapping holds under a text;
* `Value.truth` — whether a value counts as true where a truth value is wanted;
* `Value.plain`, `Value.detail` — a value as text, by itself and inside a collection;
* `Value.writeFault?` — what is in the way of writing a value out.
-/

namespace ShellPipeline.Document

open Number (Binary64 Layout)

/-- **What a document may hold.** -/
inductive Value where
  /-- No value. -/
  | null
  /-- A truth value. -/
  | bool (b : Bool)
  /-- A whole number. -/
  | int (n : Int)
  /-- A floating-point number. -/
  | float (x : Binary64)
  /-- A text that is a string. -/
  | text (s : String)
  /-- A torn text. -/
  | torn (w : Wording.Torn)
  /-- Bytes. -/
  | bytes (content : List UInt8)
  /-- A day. -/
  | date (d : CivilDate)
  /-- A time of day. -/
  | time (t : ClockTime)
  /-- A time of a day. -/
  | moment (m : Moment)
  /-- Values in order. -/
  | list (items : List Value)
  /-- A fixed number of values in order. -/
  | tuple (items : List Value)
  /-- Values without order or repetition. -/
  | set (members : List Value)
  /-- Values under keys. -/
  | map (entries : List (Value × Value))
  /-- A collection around this place; `true` for a mapping, `false` for a list. -/
  | again (ofMap : Bool)
deriving Repr, Inhabited

namespace Value

/-- A text as a value. -/
def ofWording (w : Wording) : Value := if h : w.IsWhole then text w.string else torn ⟨w, h⟩

/-- The text that a value is. -/
def wording? : Value → Option Wording
  | text s => some (.ofString s)
  | torn w => some w.val
  | _ => none

/-! ### Keys -/

/-- The whole number that a number or a truth value is, as far as it is one. -/
def asInt? : Value → Option Int
  | bool b => some (if b then 1 else 0)
  | int n => some n
  | _ => none

/-- Whether two keys are one key. -/
def sameKey : Value → Value → Bool
  | null, null => true
  | text s, text t => s == t
  | torn v, torn w => v.val == w.val
  | bytes a, bytes b => a == b
  | date d, date e => d == e
  | time t, time u => t == u
  | moment m, moment n => m.same n
  | float x, float y => x.sameValue y
  | float x, v | v, float x => match v.asInt? with
    | some n => x.isInt n
    | none => false
  | v, w => match v.asInt?, w.asInt? with
    | some m, some n => m == n
    | _, _ => false

/-- Entries with a value put under a key: in its old place, with its old key, where the key is
there, and at the end otherwise. -/
def put (key value : Value) : List (Value × Value) → List (Value × Value)
  | [] => [(key, value)]
  | (k, v) :: rest => if k.sameKey key then (k, value) :: rest else (k, v) :: put key value rest

/-! ### Look-up -/

/-- The value under a text, among entries. -/
def lookup (name : String) : List (Value × Value) → Option Value
  | [] => none
  | (key, value) :: rest => if key.sameKey (text name) then some value else lookup name rest

/-- **What a mapping holds under a text.** Nothing is held by a value that is not a mapping. -/
def get? (v : Value) (name : String) : Option Value :=
  match v with
  | map entries => lookup name entries
  | _ => none

/-- Whether a value is a mapping. -/
def isMap : Value → Bool
  | map _ | again true => true
  | _ => false

/-! ### Truth and kind -/

/-- **Whether a value counts as true.** The empty values and the zeros do not. -/
def truth : Value → Bool
  | null => false
  | bool b => b
  | int n => n != 0
  | float x => !x.isZero
  | text s => !s.isEmpty
  | bytes b => !b.isEmpty
  | list items | tuple items | set items => !items.isEmpty
  | map entries => !entries.isEmpty
  | torn _ | date _ | time _ | moment _ | again _ => true

/-- The name of a value's kind. -/
def kindName : Value → String
  | null => "NoneType"
  | bool _ => "bool"
  | int _ => "int"
  | float _ => "float"
  | text _ | torn _ => "str"
  | bytes _ => "bytes"
  | date _ => "date"
  | time _ => "time"
  | moment _ => "datetime"
  | list _ => "list"
  | tuple _ => "tuple"
  | set _ => "set"
  | map _ => "dict"
  | again ofMap => if ofMap then "dict" else "list"

/-! ### Texts -/

/-- Floating-point numbers are written without an exponent from a ten-thousandth up to ten to the
sixteenth; a whole one gets a zero behind its point. -/
def numberLayout : Layout where
  positionalBelow := 16
  positionalFrom := -4
  wholeEnding := ".0"
  exponentWidth := 2
  infinity := "inf"
  nan := "nan"

/-- One byte between quote marks: printable ASCII stands for itself. -/
def escapeByte (mark : Char) (b : UInt8) : List Char :=
  let c := Char.ofNat b.toNat
  if b < 0x7F then Text.escapeChar mark c else '\\' :: 'x' :: Text.hexDigits 2 b.toNat

/-- Bytes between quote marks. -/
def quoteBytes (content : List UInt8) : String :=
  let mark := Text.markFor (content.map fun b => Char.ofNat b.toNat)
  "b" ++ String.ofList (mark :: (content.flatMap (escapeByte mark) ++ [mark]))

mutual

/-- **A value as it stands in a collection**: texts are quoted, dates name their kind. -/
def detail : Value → String
  | null => "None"
  | bool b => if b then "True" else "False"
  | int n => toString n
  | float x => numberLayout.text x
  | text s => Text.quote s
  | torn w => w.val.quote
  | bytes content => quoteBytes content
  | date d => d.detail
  | time t => t.detail
  | moment m => m.detail
  | list items => "[" ++ ", ".intercalate (details items) ++ "]"
  | tuple items =>
    "(" ++ ", ".intercalate (details items) ++ (if items.length = 1 then ",)" else ")")
  | set members =>
    if members.isEmpty then "set()" else "\x7b" ++ ", ".intercalate (details members) ++ "\x7d"
  | map entries => "\x7b" ++ ", ".intercalate (entryDetails entries) ++ "\x7d"
  | again ofMap => if ofMap then "\x7b...\x7d" else "[...]"

/-- The values of a collection. -/
def details : List Value → List String
  | [] => []
  | v :: rest => v.detail :: details rest

/-- The entries of a mapping. -/
def entryDetails : List (Value × Value) → List String
  | [] => []
  | (key, value) :: rest => (key.detail ++ ": " ++ value.detail) :: entryDetails rest

end

/-- **A value by itself.** A text is itself and a date is plain; all else is as in a collection. Of
a torn text there is what can be shown. -/
def plain : Value → String
  | text s => s
  | torn w => w.val.string
  | date d => d.text
  | time t => t.text
  | moment m => m.text
  | v => v.detail

/-! ### Writing -/

/-- What is in the way of writing a value out. -/
inductive WriteFault where
  /-- A whole number has more decimal digits than are written. -/
  | overlong
  /-- There are values inside each other beyond the limits of the run. -/
  | tooDeep
deriving DecidableEq, Repr

mutual

/-- **The first thing in the way of writing a value out**, from its beginning on, where a number of
values can be written inside each other. The members of a set are written as a list inside it. -/
def writeFault? : Nat → Value → Option WriteFault
  | 0, _ => some .tooDeep
  | _ + 1, int n => if digitLimit < (Nat.repr n.natAbs).length then some .overlong else none
  | room + 1, list items | room + 1, tuple items => firstFault? room items
  | room + 1, set members => firstFault? (room - 1) members
  | room + 1, map entries => firstEntryFault? room entries
  | _ + 1, _ => none

/-- The same for some values in order. -/
def firstFault? : Nat → List Value → Option WriteFault
  | _, [] => none
  | room, v :: rest => (writeFault? room v).or (firstFault? room rest)

/-- The same for some entries in order, each with its key first. -/
def firstEntryFault? : Nat → List (Value × Value) → Option WriteFault
  | _, [] => none
  | room, (key, value) :: rest =>
    ((writeFault? room key).or (writeFault? room value)).or (firstEntryFault? room rest)

end

end Value

end ShellPipeline.Document
