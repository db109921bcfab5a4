import ShellPipeline.Document.Value

/-!
# Documents with shared parts

In a document a collection may stand in several places, and also inside itself. So a document is a
graph: its objects have numbers, and a collection names its parts by number. One of the objects is
the outermost one.

A value that shares nothing is a graph of one object. What is found inside a graph is the same graph
with another object as the outermost one.

* `Graph` — the documents;
* `Graph.get?`, `Graph.sectionAt` — what a mapping holds under a text;
* `Graph.truth`, `Graph.kindName` — an object as a truth value, and the name of its kind;
* `Graph.value` — a document as a value, in which a collection inside itself is only marked.
-/

namespace ShellPipeline.Document

/-- **What stands under a number** in a document. -/
inductive Object where
  /-- A value that shares nothing. -/
  | value (v : Value)
  /-- Objects in order. -/
  | list (items : List Nat)
  /-- Pairs of objects in order. -/
  | pairs (items : List (Nat × Nat))
  /-- Objects without order or repetition. -/
  | set (members : List Nat)
  /-- Objects under objects. -/
  | map (entries : List (Nat × Nat))
deriving Repr, Inhabited

/-- **A document**, with parts that may be shared. -/
structure Graph where
  /-- The objects, in the order of their numbers. -/
  objects : Array Object
  /-- The number of the outermost object. -/
  root : Nat
deriving Repr

namespace Graph

/-- A value as a document. -/
def ofValue (v : Value) : Graph := ⟨#[.value v], 0⟩

/-- The object under a number. -/
def object (g : Graph) (n : Nat) : Object := g.objects.getD n (.value .null)

/-- The outermost object. -/
def outermost (g : Graph) : Object := g.object g.root

/-- The same document seen from another object. -/
def seenFrom (g : Graph) (n : Nat) : Graph := { g with root := n }

@[simp] theorem outermost_ofValue (v : Value) : (ofValue v).outermost = .value v := rfl

/-! ### Look-up -/

/-- Whether an object is a text. -/
def isText (g : Graph) (s : String) (n : Nat) : Bool :=
  match g.object n with
  | .value v => v.sameKey (.text s)
  | _ => false

/-- **What a mapping holds under a text.** Nothing is held by an object that is not a mapping. -/
def get? (g : Graph) (name : String) : Option Graph :=
  match g.outermost with
  | .value v => (v.get? name).map ofValue
  | .map entries => (entries.find? fun entry => g.isText name entry.1).map (g.seenFrom ·.2)
  | _ => none

/-- Whether a document is a mapping. -/
def isMap (g : Graph) : Bool :=
  match g.outermost with
  | .value v => v.isMap
  | .map _ => true
  | _ => false

/-- What a mapping holds under a text, if that is a mapping; otherwise an empty mapping. -/
def sectionAt (g : Graph) (name : String) : Graph :=
  match g.get? name with
  | some held => if held.isMap then held else ofValue (.map [])
  | none => ofValue (.map [])

@[simp] theorem get?_ofValue (v : Value) (name : String) :
    (ofValue v).get? name = (v.get? name).map ofValue := rfl

/-! ### Truth and kind -/

/-- **Whether a document counts as true.** The empty ones and the zeros do not. -/
def truth (g : Graph) : Bool :=
  match g.outermost with
  | .value v => v.truth
  | .list items => !items.isEmpty
  | .pairs items => !items.isEmpty
  | .set members => !members.isEmpty
  | .map entries => !entries.isEmpty

/-- The name of a document's kind. -/
def kindName (g : Graph) : String :=
  match g.outermost with
  | .value v => v.kindName
  | .list _ | .pairs _ => (Value.list []).kindName
  | .set _ => (Value.set []).kindName
  | .map _ => (Value.map []).kindName

/-! ### Values -/

/-- The value of an object inside some others, whose numbers are given. A collection has a value of
its own unless it is one of those. The bound is no less than the number of collections that are not
among them. -/
def valueWithin (g : Graph) : Nat → List Nat → Nat → Value
  | 0, _, _ => .null
  | bound + 1, around, n =>
    let part := valueWithin g bound (n :: around)
    match g.object n with
    | .value v => v
    | .list items => if around.contains n then .again false else .list (items.map part)
    | .pairs items =>
      if around.contains n then .again false
      else .list (items.map fun pair => .tuple [part pair.1, part pair.2])
    | .set members => .set (members.map part)
    | .map entries =>
      if around.contains n then .again true
      else .map (entries.map fun entry => (part entry.1, part entry.2))

/-- **A document as a value.** -/
def value (g : Graph) : Value := g.valueWithin (g.objects.size + 1) [] g.root

@[simp] theorem value_ofValue (v : Value) : (ofValue v).value = v := rfl

end Graph

end ShellPipeline.Document
