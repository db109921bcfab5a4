import ShellPipeline.Document.Value

/-!
# Tables of a TOML document

How the keys of a document build its tables. A dotted key leads through tables that are made where
they are missing; where it meets an array of tables it goes on in the last of them. Two marks guard
what has been written: a key may be *declared*, after which no header may name it again, and it may
be *frozen*, after which nothing below it may change.

* `Marks` — the marks that have been set;
* `changeWithin` — a change at the end of a dotted key;
* `insertWithin`, `openTable`, `appendTable` — the three changes that occur.
-/

namespace ShellPipeline.Document.Toml

/-- A dotted key. -/
abbrev Key := List String

/-- The entries of a table. -/
abbrev Entries := List (Value × Value)

/-- The keys that are guarded. -/
structure Marks where
  /-- The keys that no header may name again. -/
  declared : List Key
  /-- The keys below which nothing may change. -/
  frozen : List Key

namespace Marks

/-- No key is guarded. -/
def empty : Marks := ⟨[], []⟩

/-- Whether a key is declared. -/
def isDeclared (marks : Marks) (key : Key) : Bool := marks.declared.contains key

/-- Whether a key, or one above it, is frozen. -/
def isFrozen (marks : Marks) (key : Key) : Bool := marks.frozen.any (·.isPrefixOf key)

/-- Declares a key. -/
def declare (marks : Marks) (key : Key) : Marks := { marks with declared := key :: marks.declared }

/-- Freezes a key. -/
def freeze (marks : Marks) (key : Key) : Marks := { marks with frozen := key :: marks.frozen }

/-- Frees a key and all keys below it. -/
def release (marks : Marks) (key : Key) : Marks where
  declared := marks.declared.filter fun other => !key.isPrefixOf other
  frozen := marks.frozen.filter fun other => !key.isPrefixOf other

end Marks

/-- Whether a value is a table or an array. -/
def isCollection : Value → Bool
  | .map _ | .list _ => true
  | _ => false

/-- Changes the entries of the table at the end of a dotted key. Tables on the way are made where
they are missing; the last table of an array stands for the array if `throughArrays` is set. There
is no result where the way meets another value. -/
def changeWithin (throughArrays : Bool) (change : Entries → Option Entries) :
    Key → Entries → Option Entries
  | [], entries => change entries
  | name :: rest, entries =>
    let deeper := changeWithin throughArrays change rest
    match Value.lookup name entries with
    | none => do
      let made ← deeper []
      return Value.put (.text name) (.map made) entries
    | some (.map inner) => do
      let changed ← deeper inner
      return Value.put (.text name) (.map changed) entries
    | some (.list items) =>
      if throughArrays then
        match items.getLast? with
        | some (.map inner) => do
          let changed ← deeper inner
          return Value.put (.text name) (.list (items.dropLast ++ [.map changed])) entries
        | _ => none
      else none
    | some _ => none

/-- Puts a value under a dotted key. There is no result where the key is taken. -/
def insertWithin (throughArrays : Bool) (table key : Key) (value : Value) (entries : Entries) :
    Option Entries :=
  let insert := fun (inner : Entries) =>
    match key.getLast? with
    | none => none
    | some name =>
      if (Value.lookup name inner).isSome then none
      else some (Value.put (.text name) value inner)
  changeWithin throughArrays insert (table ++ key.dropLast) entries

/-- Makes the table at a dotted key, if it is missing. -/
def openTable (key : Key) (entries : Entries) : Option Entries :=
  changeWithin true some key entries

/-- Adds an empty table to the array at a dotted key; the array is made, if it is missing. -/
def appendTable (key : Key) (entries : Entries) : Option Entries :=
  let append := fun (inner : Entries) =>
    match key.getLast? with
    | none => none
    | some name =>
      match Value.lookup name inner with
      | none => some (Value.put (.text name) (.list [.map []]) inner)
      | some (.list items) => some (Value.put (.text name) (.list (items ++ [.map []])) inner)
      | some _ => none
  changeWithin true append key.dropLast entries

/-- An inline table in the making: its entries and its marks. -/
structure InlineTable where
  /-- The entries so far. -/
  entries : Entries
  /-- The keys that are guarded. -/
  marks : Marks

/-- Adds an entry to an inline table. -/
def InlineTable.add (table : InlineTable) (key : Key) (value : Value) : Option InlineTable :=
  if table.marks.isFrozen key then none
  else
    (insertWithin false [] key value table.entries).map fun entries =>
      ⟨entries, if isCollection value then table.marks.freeze key else table.marks⟩

end ShellPipeline.Document.Toml
