import ShellPipeline.Document.Toml.Statement

/-!
# TOML documents

The value of a TOML document: a mapping. The statements are carried out in order, on the table that
the last header opened. The first fault ends the document, whether a statement cannot be read or
cannot be carried out.

* `Build` — a document in the making;
* `Build.step` — one statement carried out;
* `read` — the value of a document.
-/

namespace ShellPipeline.Document.Toml

/-- A document in the making. -/
structure Build where
  /-- The entries of the document so far. -/
  entries : Entries
  /-- The keys that are guarded. -/
  marks : Marks
  /-- The keys that the next header will guard: the tables that dotted keys went through. -/
  pending : List Key
  /-- The key of the table that is open. -/
  header : Key

namespace Build

/-- The document before its first statement. -/
def empty : Build := ⟨[], .empty, [], []⟩

/-- A header guards what the dotted keys before it went through. -/
def settle (build : Build) : Build where
  entries := build.entries
  marks := build.pending.foldl Marks.declare build.marks
  pending := []
  header := build.header

/-- Opens a table. -/
def openAt (build : Build) (key : Key) : Option Build :=
  if build.marks.isDeclared key || build.marks.isFrozen key then none
  else
    (openTable key build.entries).map fun entries =>
      { build with entries := entries, marks := build.marks.declare key, header := key }

/-- Adds a table to an array of tables. -/
def appendAt (build : Build) (key : Key) : Option Build :=
  if build.marks.isFrozen key then none
  else
    (appendTable key build.entries).map fun entries =>
      { build with
        entries := entries, marks := (build.marks.release key).declare key, header := key }

/-- The keys that a dotted key goes through, below a table. -/
def passed (header key : Key) : List Key :=
  (List.range' 1 (key.length - 1)).map fun n => header ++ key.take n

/-- Puts a value under a key of the open table. -/
def insert (build : Build) (key : Key) (value : Value) : Option Build :=
  let through := passed build.header key
  let parent := build.header ++ key.dropLast
  if through.any build.marks.isDeclared || build.marks.isFrozen parent then none
  else
    (insertWithin true build.header key value build.entries).map fun entries =>
      { build with
        entries := entries
        pending := build.pending ++ through
        marks :=
          if isCollection value then build.marks.freeze (build.header ++ key) else build.marks }

/-- **One statement carried out.** -/
def step (build : Build) : Statement → Option Build
  | .table key => build.settle.openAt key
  | .arrayTable key => build.settle.appendAt key
  | .entry key value => build.insert key value

/-- Statements carried out in order. -/
def run (build : Build) : List Statement → Option Build
  | [] => some build
  | statement :: rest =>
    match build.step statement with
    | none => none
    | some build => run build rest

end Build

/-- Line ends as single newlines: a carriage return in front of a newline is dropped. -/
def unifyNewlines : List Char → List Char
  | [] => []
  | '\r' :: '\n' :: rest => '\n' :: unifyNewlines rest
  | c :: rest => c :: unifyNewlines rest

/-- **The value of a document.** -/
def read [Limits] (s : String) : Except DocumentFault Value :=
  let text := unifyNewlines s.toList
  let (statements, fault) := readStatements (text.length + 1) text
  match Build.empty.run statements with
  | none => .error .malformed
  | some build =>
    match fault with
    | some fault => .error fault
    | none => .ok (.map build.entries)

end ShellPipeline.Document.Toml
