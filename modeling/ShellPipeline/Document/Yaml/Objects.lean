import ShellPipeline.Document.Graph
import ShellPipeline.Document.MemberOrder
import ShellPipeline.Document.Yaml.Merge
import ShellPipeline.Document.Yaml.ScalarValue

/-!
# Objects of YAML nodes

What the nodes of a document stand for. Each node stands for one object, wherever it stands, so the
objects have the numbers of the nodes.

Objects are made level by level. Where a collection is come across it is made empty and set down to
be filled; a text gets its value at once. The collections set down while one level is filled are the
next level. The first fault on that way is the one that counts. A mapping takes over the entries it
asks for when it is filled.

* `Nodes.scalar` — the value of a node that is no collection;
* `Building.make`, `Building.fill` — an object made, a collection filled;
* `Nodes.graph` — the document.
-/

namespace ShellPipeline.Document.Yaml

/-! ### Texts -/

/-- Whether a kind of value is made of a text. -/
def Tag.isScalar : Tag → Bool
  | null | bool | int | float | binary | timestamp | str => true
  | _ => false

/-- The text of a node: its own, or the one that stands in a mapping under the mark `=`; `room` is
the number of mappings that can be gone through for it. A mapping that leads to itself has no text,
however much room there is. -/
def Nodes.textOf (nodes : Nodes) (room n : Nat) : Except DocumentFault Wording :=
  match (nodes.get n).content with
  | .text w => .ok w
  | .items _ => .error .malformed
  | .entries parts =>
    match parts.find? fun entry => (nodes.get entry.1).tag == .value with
    | none => .error .malformed
    | some (_, held) =>
      match room with
      | 0 => refuse .tooDeep
      | room + 1 => textOf nodes room held

/-- The text of a node that is no collection. -/
def Nodes.scalarText [Limits] (nodes : Nodes) (n : Nat) : Except DocumentFault Wording :=
  if (nodes.get n).tag.isScalar then nodes.textOf Limits.lending n else .error .malformed

/-- **The value of a node that is no collection.** The text of a moment may not stand in a
mapping. -/
def Nodes.scalar [Limits] (nodes : Nodes) (n : Nat) : Except DocumentFault Value := do
  let text ← nodes.scalarText n
  if (nodes.get n).tag = .timestamp ∧ (nodes.entries? n).isSome then refuse .momentInMapping
  else scalarValue (nodes.get n).tag text

/-- Whether a node stands for the value of the word for no number. -/
def Nodes.isNanWord [Limits] (nodes : Nodes) (n : Nat) : Bool :=
  (nodes.get n).tag == .float &&
    match nodes.scalarText n with
    | .ok text => Yaml.isNanWord text
    | .error _ => false

/-! ### Collections -/

/-- How far the objects of a document are made. -/
structure Building where
  /-- The nodes. -/
  nodes : Nodes
  /-- The number of their entries at the beginning. -/
  entries : Nat
  /-- The objects so far. -/
  objects : Array (Option Object)
  /-- The nodes that stand for the value of the word for no number, so far. -/
  nans : List Nat
  /-- The collections that are to be filled next, the last one first. -/
  waiting : List Nat

/-- The object of a collection that is not filled yet; none for the other kinds. -/
def Tag.emptyObject? : Tag → Option Object
  | seq => some (.list [])
  | omap | pairs => some (.pairs [])
  | set => some (.set [])
  | map => some (.map [])
  | _ => none

namespace Building

/-- Nothing made yet. -/
def start (nodes : Nodes) : Building where
  nodes := nodes
  entries := nodes.entryCount
  objects := Array.replicate nodes.size none
  nans := []
  waiting := []

/-- The object of a node, if it has been made. -/
def object? (b : Building) (n : Nat) : Option Object := b.objects.getD n none

/-- Sets the object of a node. -/
def put (b : Building) (n : Nat) (object : Object) : Building :=
  { b with objects := b.objects.setIfInBounds n (some object) }

/-- Sets down a collection to be filled. -/
def await (b : Building) (n : Nat) : Building := { b with waiting := n :: b.waiting }

/-- Remembers a node that stands for the value of the word for no number. -/
def noteNan [Limits] (b : Building) (n : Nat) : Building :=
  if b.nodes.isNanWord n then { b with nans := n :: b.nans } else b

/-- **Makes the object of a node**, unless it has been made. -/
def make [Limits] (b : Building) (n : Nat) : Except DocumentFault Building :=
  if (b.object? n).isSome then .ok b
  else
    match (b.nodes.get n).tag.emptyObject? with
    | some object => .ok ((b.put n object).await n)
    | none => (b.nodes.scalar n).map fun v => (b.noteNan n).put n (.value v)

/-- Whether an object may be a key. A collection may not. -/
def isKey (b : Building) (n : Nat) : Bool :=
  match b.object? n with
  | some (.value _) => true
  | _ => false

/-- Whether two keys are one key. What is no number is one key with itself, and each place where the
word for it stands is the same one. -/
def sameKey (b : Building) (m n : Nat) : Bool :=
  m == n ||
    match b.object? m, b.object? n with
    | some (.value v), some (.value w) => v.sameKey w || (b.nans.contains m && b.nans.contains n)
    | _, _ => false

/-- Entries with one more: where the key is there, the value under it is replaced. -/
def putEntry (b : Building) (entry : Nat × Nat) : List (Nat × Nat) → List (Nat × Nat)
  | [] => [entry]
  | other :: rest =>
    if b.sameKey other.1 entry.1 then (other.1, entry.2) :: rest
    else other :: b.putEntry entry rest

/-- Makes the objects of an entry, the key first. -/
def makeEntry [Limits] (b : Building) (entry : Nat × Nat) : Except DocumentFault Building := do
  let b ← b.make entry.1
  if b.isKey entry.1 then b.make entry.2 else .error .malformed

/-- The entries of a mapping, all of them made and each key there once. -/
def fillEntries [Limits] (b : Building) (n : Nat) :
    Except DocumentFault (Building × List (Nat × Nat)) := do
  let nodes ← b.nodes.takeOver b.entries n
  let parts := (nodes.entries? n).getD []
  let b ← parts.foldlM makeEntry { b with nodes := nodes }
  return (b, parts.foldl (fun done entry => b.putEntry entry done) [])

/-- The pairs of a list, all of them made. Each is a mapping with one entry. -/
def fillPairs [Limits] (b : Building) :
    List Nat → Except DocumentFault (Building × List (Nat × Nat))
  | [] => .ok (b, [])
  | item :: rest =>
    match b.nodes.entries? item with
    | some [(key, value)] => do
      let b ← b.make key
      let b ← b.make value
      let (b, pairs) ← b.fillPairs rest
      return (b, (key, value) :: pairs)
    | _ => .error .malformed

/-- The value of an object; a collection has none here. -/
def valueOf (b : Building) (n : Nat) : Value :=
  match b.object? n with
  | some (.value v) => v
  | _ => .null

/-- The members of a set, which are the keys of a mapping, in the order in which they are shown. -/
def members (b : Building) (entries : List (Nat × Nat)) : List Nat :=
  memberOrder (entries.map fun entry => (entry.1, b.valueOf entry.1))

/-- **Fills a collection.** -/
def fill [Limits] (b : Building) (n : Nat) : Except DocumentFault Building :=
  let node := b.nodes.get n
  match node.tag, node.content with
  | .seq, .items items => (items.foldlM make b).map (·.put n (.list items))
  | .omap, .items items | .pairs, .items items =>
    (b.fillPairs items).map fun (b, pairs) => b.put n (.pairs pairs)
  | .set, .entries _ =>
    (b.fillEntries n).map fun (b, entries) => b.put n (.set (b.members entries))
  | .map, .entries _ => (b.fillEntries n).map fun (b, entries) => b.put n (.map entries)
  | _, _ => .error .malformed

/-- Fills all collections, level by level; of the levels there is the given number at most. -/
def fillAll [Limits] : Nat → Building → Except DocumentFault Building
  | 0, b => .ok b
  | bound + 1, b => do
    if b.waiting.isEmpty then return b
    else fillAll bound (← b.waiting.reverse.foldlM fill { b with waiting := [] })

end Building

/-- **The document of some nodes**, of which one is the outermost. -/
def Nodes.graph [Limits] (nodes : Nodes) (root : Nat) : Except DocumentFault Graph := do
  let b ← (Building.start nodes).make root
  let b ← b.fillAll (nodes.size + 1)
  return ⟨b.objects.map fun object => object.getD (.value .null), root⟩

end ShellPipeline.Document.Yaml
