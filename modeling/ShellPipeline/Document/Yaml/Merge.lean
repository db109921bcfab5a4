import ShellPipeline.Document.Yaml.Node

/-!
# Entries taken over

In a mapping, the mark `<<` in place of a key asks for the entries of another mapping, or of several
in order. They come in front of the entries of the mapping itself, which so have the last word; of
several mappings the first has the last word. A mapping that lends entries takes over its own ones
first.

The nodes are changed in place: a mapping that has taken over its entries has them wherever it
stands. Each step uses up one mark, so the marks bound the steps, also where mappings ask for each
other's entries. How many mappings can wait for each other is a matter of the limits of the run.

* `Nodes.splitMerge?` — the first mark of a mapping;
* `Nodes.takeOver` — a mapping with all its entries in place.
-/

namespace ShellPipeline.Document.Yaml

namespace Nodes

/-- The entries of a node; none where it is no mapping. -/
def entries? (nodes : Nodes) (n : Nat) : Option (List (Nat × Nat)) :=
  match (nodes.get n).content with
  | .entries parts => some parts
  | _ => none

/-- The same with other entries in a node. -/
def setEntries (nodes : Nodes) (n : Nat) (parts : List (Nat × Nat)) : Nodes :=
  nodes.set n ⟨(nodes.get n).tag, .entries parts⟩

/-- Whether a key is the mark `<<`. -/
def isMerge (nodes : Nodes) (entry : Nat × Nat) : Bool := (nodes.get entry.1).tag == .merge

/-- The first entry under the mark `<<`: what stands under it, and the other entries. -/
def splitMerge? (nodes : Nodes) (parts : List (Nat × Nat)) : Option (Nat × List (Nat × Nat)) :=
  match parts.dropWhile (!nodes.isMerge ·) with
  | (_, lender) :: rest => some (lender, parts.takeWhile (!nodes.isMerge ·) ++ rest)
  | [] => none

/-- The same with a key that is the mark `=` made a text. -/
def plainKey (nodes : Nodes) (key : Nat) : Nodes :=
  let node := nodes.get key
  if node.tag = .value then nodes.set key { node with tag := .str } else nodes

/-- The same with entries put in front of those of a mapping, whose keys become plain keys. -/
def prepend (nodes : Nodes) (n : Nat) (taken : List (Nat × Nat)) : Nodes :=
  let own := (nodes.entries? n).getD []
  (own.foldl (fun nodes entry => nodes.plainKey entry.1) nodes).setEntries n (taken ++ own)

/-- A mapping takes over its entries, up to a number of steps; `room` is the number of mappings that
can still be made to wait, and `taken` are the entries that it has taken over so far. -/
def takeOverAll : Nat → Nat → Nodes → Nat → List (Nat × Nat) → Except DocumentFault Nodes
  | 0, _, nodes, n, taken => .ok (nodes.prepend n taken)
  | bound + 1, room, nodes, n, taken =>
    let complete (nodes : Nodes) (lender : Nat) : Except DocumentFault Nodes :=
      match room with
      | 0 => .error (.value .tooDeep)
      | room + 1 => takeOverAll bound room nodes lender []
    match nodes.splitMerge? ((nodes.entries? n).getD []) with
    | none => .ok (nodes.prepend n taken)
    | some (lender, own) =>
      let nodes := nodes.setEntries n own
      match (nodes.get lender).content with
      | .entries _ => do
        let nodes ← complete nodes lender
        takeOverAll bound room nodes n (taken ++ (nodes.entries? lender).getD [])
      | .items items => do
        let (nodes, lent) ← items.foldlM (fun (nodes, lent) item =>
          if (nodes.entries? item).isNone then .error .malformed
          else do
            let nodes ← complete nodes item
            return (nodes, (nodes.entries? item).getD [] ++ lent)) (nodes, [])
        takeOverAll bound room nodes n (taken ++ lent)
      | .text _ => .error .malformed

/-- Whether a key is one of the marks `<<` and `=`. -/
def isMark (nodes : Nodes) (entry : Nat × Nat) : Bool :=
  nodes.isMerge entry || (nodes.get entry.1).tag == .value

/-- **A mapping takes over its entries.** Without any marks it stays as it is. The bound is no less
than the number of marks in all nodes. -/
def takeOver [Limits] (nodes : Nodes) (bound n : Nat) : Except DocumentFault Nodes :=
  if ((nodes.entries? n).getD []).any nodes.isMark then
    takeOverAll (bound + 1) Limits.lending nodes n []
  else .ok nodes

end Nodes

end ShellPipeline.Document.Yaml
