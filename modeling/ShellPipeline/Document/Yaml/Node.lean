import ShellPipeline.Document.Yaml.Tag
import ShellPipeline.Document.Yaml.TokenList
import ShellPipeline.Limits

/-!
# Nodes of a YAML document

The structure of a document: texts, sequences and mappings, each with the kind of value it stands
for. The nodes of a document are numbered, and a collection names its parts by number. So a node
with an anchor can stand in several places, and also inside itself: an alias is the number of the
node again.

The structure is read off the token list. Every reader takes the tokens from a place on and returns
the number of a node, with what is known by then and the tokens behind it. A reader looks at one
token at a time; a fault among the tokens counts once it is looked at.

* `Node`, `Nodes` — the structure;
* `readNode` and its kin — the grammar;
* `Nodes.ofTokens?` — the nodes of a document, if it has one.
-/

namespace ShellPipeline.Document.Yaml

/-- What a node holds. -/
inductive Content where
  /-- A text. -/
  | text (w : Wording)
  /-- Nodes in order. -/
  | items (parts : List Nat)
  /-- Nodes under nodes. -/
  | entries (parts : List (Nat × Nat))
deriving Inhabited, Repr

/-- **A node**: the kind of value it stands for, and what it holds. -/
structure Node where
  /-- The kind of value. -/
  tag : Tag
  /-- What the node holds. -/
  content : Content
deriving Repr

/-- The node of a place where nothing stands. -/
def Node.empty : Node := ⟨.null, .text []⟩

/-- **The nodes of a document**, each under its number. -/
structure Nodes where
  /-- The nodes, in the order of their numbers. -/
  all : Array Node
deriving Repr

namespace Nodes

/-- The node under a number. -/
def get (nodes : Nodes) (n : Nat) : Node := nodes.all.getD n .empty

/-- The same with another node under a number. -/
def set (nodes : Nodes) (n : Nat) (node : Node) : Nodes := ⟨nodes.all.setIfInBounds n node⟩

/-- The number of nodes. -/
def size (nodes : Nodes) : Nat := nodes.all.size

/-- The number of entries of all mappings. -/
def entryCount (nodes : Nodes) : Nat :=
  nodes.all.foldl (fun count node =>
    match node.content with
    | .entries parts => count + parts.length
    | _ => count) 0

end Nodes

/-- What is known at a place of a document. -/
structure Known where
  /-- The tag handles, with what they stand for. -/
  handles : List (String × String)
  /-- The anchors, with the nodes they name. -/
  anchors : List (String × Nat)
  /-- The nodes so far. -/
  nodes : Nodes
  /-- The number of collections that can still be opened inside each other. -/
  room : Nat

/-- What reading a part of the structure gives: the part, what is known behind it, and the tokens
from there on. -/
abbrev Parse (α : Type) := Except DocumentFault (α × Known × List Token)

/-- The number of one more node, and what is known then. -/
def Known.add (known : Known) (node : Node) : Nat × Known :=
  let n := known.nodes.size
  (n, { known with nodes := ⟨known.nodes.all.push node⟩ })

/-- The same inside one more collection. -/
def Known.enter (known : Known) : Except DocumentFault Known :=
  match known.room with
  | 0 => .error (.value .tooDeep)
  | room + 1 => .ok { known with room := room }

/-- The same behind a collection, whose node is complete now. -/
def Known.leave (known : Known) (n : Nat) (node : Node) : Known :=
  { known with nodes := known.nodes.set n node, room := known.room + 1 }

/-- A node of a place where nothing stands, in front of some tokens. -/
def readEmpty (known : Known) (tokens : List Token) : Nat × Known × List Token :=
  let (n, known) := known.add .empty
  (n, known, tokens)

/-- Some tokens whose first one is about to be looked at, unless a fault stands in its place. -/
def sound : List Token → Except DocumentFault (List Token)
  | .broken fault :: _ => .error fault
  | tokens => .ok tokens

/-- The fault of tokens that do not fit where they stand. -/
def unexpected {α : Type} (tokens : List Token) : Except DocumentFault α := do
  let _ ← sound tokens
  .error .malformed

/-- What may be set in front of a node. -/
structure Properties where
  /-- The anchor. -/
  anchor : Option String
  /-- The tag. -/
  tag : Option TagName

/-- The properties in front of a node, in any order. -/
def readProperties : List Token → Except DocumentFault (Properties × List Token)
  | .anchor name :: rest => do
    match ← sound rest with
    | .tag tag :: rest => return (⟨some name, some tag⟩, rest)
    | rest => return (⟨some name, none⟩, rest)
  | .tag tag :: rest => do
    match ← sound rest with
    | .anchor name :: rest => return (⟨some name, some tag⟩, rest)
    | rest => return (⟨none, some tag⟩, rest)
  | tokens => .ok (⟨none, none⟩, tokens)

/-- What a tag asks for: a kind, or whatever the node suggests. -/
def Known.tag? (known : Known) : Option TagName → Except DocumentFault (Option Tag)
  | none => .ok none
  | some name =>
    match name.handle with
    | none => .ok (if name.suffix = "!" then none else some (.ofName name.suffix))
    | some handle =>
      match known.handles.lookup handle with
      | none => .error .malformed
      | some start =>
        let whole := start ++ name.suffix
        .ok (if whole = "!" then none else some (.ofName whole))

/-- The same with an anchor set; one that is set already may not be set again. -/
def Known.bind (known : Known) (anchor : Option String) (n : Nat) : Except DocumentFault Known :=
  match anchor with
  | none => .ok known
  | some name =>
    if (known.anchors.lookup name).isSome then .error .malformed
    else .ok { known with anchors := (name, n) :: known.anchors }

/-- One more node under an anchor, if there is one. -/
def Known.addNamed (known : Known) (anchor : Option String) (node : Node) :
    Except DocumentFault (Nat × Known) :=
  let (n, known) := known.add node
  (known.bind anchor n).map fun known => (n, known)

/-- One more collection under an anchor, if there is one, and what is known inside it. -/
def Known.openNamed (known : Known) (anchor : Option String) (node : Node) :
    Except DocumentFault (Nat × Known) := do
  let (n, known) ← known.addNamed anchor node
  return (n, ← known.enter)

/-- Where a node may stand, which decides the forms it may have. -/
inductive Context where
  /-- In brackets or braces. -/
  | flow
  /-- Outside of them. -/
  | block
  /-- Outside of them as a key or a value of a mapping: a sequence need not be set off further. -/
  | entry
deriving DecidableEq

/-- Whether a token, if there is one, is one of several. -/
def nextIs (tokens : List Token) (candidates : List Token) : Bool :=
  match tokens with
  | token :: _ => candidates.contains token
  | [] => false

mutual

/-- A node. In all of these readers the first argument bounds the number of steps. -/
def readNode : Nat → Context → Known → List Token → Except DocumentFault (Nat × Known × List Token)
  | 0, _, _, _ => .error .malformed
  | _ + 1, _, known, .alias name :: rest =>
    match known.anchors.lookup name with
    | some n => .ok (n, known, rest)
    | none => .error .malformed
  | bound + 1, context, known, tokens => do
    let (properties, tokens) ← readProperties tokens
    let tag ← known.tag? properties.tag
    let anchor := properties.anchor
    let outside := context ≠ .flow
    let sequence := tag.getD .seq
    let mapping := tag.getD .map
    match ← sound tokens with
    | .scalar text plain :: rest =>
      let suggested := if plain || properties.tag.isSome then Tag.ofWording text else .str
      let (n, known) ← known.addNamed anchor ⟨tag.getD suggested, .text text⟩
      return (n, known, rest)
    | .flowSequenceStart :: rest =>
      let (n, known) ← known.openNamed anchor ⟨sequence, .items []⟩
      let (items, known, rest) ← readFlowItems bound true known rest
      return (n, known.leave n ⟨sequence, .items items⟩, rest)
    | .flowMappingStart :: rest =>
      let (n, known) ← known.openNamed anchor ⟨mapping, .entries []⟩
      let (entries, known, rest) ← readFlowPairs bound true known rest
      return (n, known.leave n ⟨mapping, .entries entries⟩, rest)
    | .blockSequenceStart :: rest =>
      if outside then
        let (n, known) ← known.openNamed anchor ⟨sequence, .items []⟩
        let (items, known, rest) ← readBlockItems bound known rest
        return (n, known.leave n ⟨sequence, .items items⟩, rest)
      else readNothing anchor tag properties known tokens
    | .blockMappingStart :: rest =>
      if outside then
        let (n, known) ← known.openNamed anchor ⟨mapping, .entries []⟩
        let (entries, known, rest) ← readBlockPairs bound known rest
        return (n, known.leave n ⟨mapping, .entries entries⟩, rest)
      else readNothing anchor tag properties known tokens
    | .blockEntry :: _ =>
      if context = .entry then
        let (n, known) ← known.openNamed anchor ⟨sequence, .items []⟩
        let (items, known, rest) ← readEntryItems bound known tokens
        return (n, known.leave n ⟨sequence, .items items⟩, rest)
      else readNothing anchor tag properties known tokens
    | tokens => readNothing anchor tag properties known tokens

/-- A node of which only the properties are there; without any of them there is no node. -/
def readNothing (anchor : Option String) (tag : Option Tag) (properties : Properties)
    (known : Known) (tokens : List Token) : Except DocumentFault (Nat × Known × List Token) :=
  if anchor.isNone && properties.tag.isNone then .error .malformed
  else (known.addNamed anchor ⟨tag.getD .null, .text []⟩).map fun (n, known) => (n, known, tokens)

/-- The items of a sequence set off by indentation, up to its end. -/
def readBlockItems : Nat → Known → List Token →
    Except DocumentFault (List Nat × Known × List Token)
  | 0, _, _ => .error .malformed
  | bound + 1, known, .blockEntry :: rest => do
    let rest ← sound rest
    let (item, known, rest) ←
      if nextIs rest [.blockEntry, .blockEnd] then .ok (readEmpty known rest)
      else readNode bound .block known rest
    let (items, known, rest) ← readBlockItems bound known rest
    return (item :: items, known, rest)
  | _ + 1, known, .blockEnd :: rest => .ok ([], known, rest)
  | _ + 1, _, tokens => unexpected tokens

/-- The items of a sequence that is not set off from the mapping around it. -/
def readEntryItems : Nat → Known → List Token →
    Except DocumentFault (List Nat × Known × List Token)
  | 0, _, _ => .error .malformed
  | bound + 1, known, .blockEntry :: rest => do
    let rest ← sound rest
    let (item, known, rest) ←
      if nextIs rest [.blockEntry, .key, .value, .blockEnd] then .ok (readEmpty known rest)
      else readNode bound .block known rest
    let (items, known, rest) ← readEntryItems bound known rest
    return (item :: items, known, rest)
  | _ + 1, known, tokens => (sound tokens).map fun tokens => ([], known, tokens)

/-- The entries of a mapping set off by indentation, up to its end. -/
def readBlockPairs : Nat → Known → List Token →
    Except DocumentFault (List (Nat × Nat) × Known × List Token)
  | 0, _, _ => .error .malformed
  | bound + 1, known, .key :: rest => do
    let rest ← sound rest
    let (key, known, rest) ←
      if nextIs rest [.key, .value, .blockEnd] then .ok (readEmpty known rest)
      else readNode bound .entry known rest
    let (value, known, rest) ← readBlockValue bound known rest
    let (entries, known, rest) ← readBlockPairs bound known rest
    return ((key, value) :: entries, known, rest)
  | _ + 1, known, .blockEnd :: rest => .ok ([], known, rest)
  | _ + 1, _, tokens => unexpected tokens

/-- The value of an entry outside brackets and braces, which may be missing. -/
def readBlockValue : Nat → Known → List Token → Except DocumentFault (Nat × Known × List Token)
  | 0, _, _ => .error .malformed
  | bound + 1, known, .value :: rest => do
    let rest ← sound rest
    if nextIs rest [.key, .value, .blockEnd] then return readEmpty known rest
    else readNode bound .entry known rest
  | _ + 1, known, tokens => (sound tokens).map (readEmpty known)

/-- The items of a sequence in brackets, up to the closing one. An item may be a single entry. -/
def readFlowItems : Nat → Bool → Known → List Token →
    Except DocumentFault (List Nat × Known × List Token)
  | 0, _, _, _ => .error .malformed
  | _ + 1, _, known, .flowSequenceEnd :: rest => .ok ([], known, rest)
  | bound + 1, first, known, tokens => do
    let tokens ← match first, tokens with
      | true, tokens => sound tokens
      | false, .flowEntry :: rest => sound rest
      | false, tokens => unexpected tokens
    match tokens with
    | .flowSequenceEnd :: rest => return ([], known, rest)
    | .key :: rest =>
      let (item, known) ← known.openNamed none ⟨.map, .entries []⟩
      let rest ← sound rest
      let (key, known, rest) ←
        if nextIs rest [.value, .flowEntry, .flowSequenceEnd] then .ok (readEmpty known rest)
        else readNode bound .flow known rest
      let (value, known, rest) ← readFlowValue bound .flowSequenceEnd known rest
      let known := known.leave item ⟨.map, .entries [(key, value)]⟩
      let (items, known, rest) ← readFlowItems bound false known rest
      return (item :: items, known, rest)
    | tokens =>
      let (item, known, rest) ← readNode bound .flow known tokens
      let (items, known, rest) ← readFlowItems bound false known rest
      return (item :: items, known, rest)

/-- The entries of a mapping in braces, up to the closing one. A key may stand alone. -/
def readFlowPairs : Nat → Bool → Known → List Token →
    Except DocumentFault (List (Nat × Nat) × Known × List Token)
  | 0, _, _, _ => .error .malformed
  | _ + 1, _, known, .flowMappingEnd :: rest => .ok ([], known, rest)
  | bound + 1, first, known, tokens => do
    let tokens ← match first, tokens with
      | true, tokens => sound tokens
      | false, .flowEntry :: rest => sound rest
      | false, tokens => unexpected tokens
    match tokens with
    | .flowMappingEnd :: rest => return ([], known, rest)
    | .key :: rest =>
      let rest ← sound rest
      let (key, known, rest) ←
        if nextIs rest [.value, .flowEntry, .flowMappingEnd] then .ok (readEmpty known rest)
        else readNode bound .flow known rest
      let (value, known, rest) ← readFlowValue bound .flowMappingEnd known rest
      let (entries, known, rest) ← readFlowPairs bound false known rest
      return ((key, value) :: entries, known, rest)
    | tokens =>
      let (key, known, rest) ← readNode bound .flow known tokens
      let (value, known, rest) := readEmpty known rest
      let (entries, known, rest) ← readFlowPairs bound false known rest
      return ((key, value) :: entries, known, rest)

/-- The value of an entry in brackets or braces, which may be missing. -/
def readFlowValue : Nat → Token → Known → List Token →
    Except DocumentFault (Nat × Known × List Token)
  | 0, _, _, _ => .error .malformed
  | bound + 1, closing, known, .value :: rest => do
    let rest ← sound rest
    if nextIs rest [.flowEntry, closing] then return readEmpty known rest
    else readNode bound .flow known rest
  | _ + 1, _, known, tokens => (sound tokens).map (readEmpty known)

end

/-! ### Documents -/

/-- The lines in front of a document. There may be one version, of the first edition, and one
meaning for each handle. -/
def readDirectives (version : Bool) (handles : List (String × String)) :
    List Token → Except DocumentFault (List (String × String) × List Token)
  | .version major _ :: rest =>
    if version ∨ major ≠ 1 then .error .malformed else readDirectives true handles rest
  | .tagHandle handle meaning :: rest =>
    if (handles.lookup handle).isSome then .error .malformed
    else readDirectives version ((handle, meaning) :: handles) rest
  | .otherDirective :: rest => readDirectives version handles rest
  | tokens => (sound tokens).map fun tokens => (handles, tokens)

/-- The handles that need no setting. -/
def usualHandles : List (String × String) := [("!", "!"), ("!!", Tag.family)]

/-- The tokens behind any marks at the end of a document. -/
def skipDocumentEnds : List Token → Except DocumentFault (List Token)
  | .documentEnd :: rest => skipDocumentEnds rest
  | tokens => sound tokens

/-- What follows a document, which may not be another one. -/
def readEnd (tokens : List Token) : Except DocumentFault Unit := do
  match ← skipDocumentEnds tokens with
  | [] => return ()
  | tokens =>
    let (_, tokens) ← readDirectives false [] tokens
    unexpected tokens

/-- The number of the outermost node of a document, with what is known behind it, read from behind
the mark in front of the document. -/
def readContent [Limits] (handles : List (String × String)) (tokens : List Token) : Parse Nat :=
  let known : Known := ⟨handles, [], ⟨#[]⟩, Limits.openCollections⟩
  match tokens with
  | [] | .documentStart :: _ | .documentEnd :: _ | .version .. :: _ | .tagHandle .. :: _ |
      .otherDirective :: _ => .ok (readEmpty known tokens)
  | _ => readNode (4 * tokens.length + 4) .block known tokens

/-- **The nodes of a document**, with the number of the outermost one; none where the text holds no
document. There may not be a second document behind it. -/
def Nodes.ofTokens? [Limits] (tokens : List Token) :
    Except DocumentFault (Option (Nodes × Nat)) := do
  let (root, known, rest) ← match tokens with
    | [] => return none
    | .documentStart :: _ | .version .. :: _ | .tagHandle .. :: _ | .otherDirective :: _ =>
      let (handles, rest) ← readDirectives false [] tokens
      match rest with
      | .documentStart :: rest => readContent (handles ++ usualHandles) rest
      | tokens => unexpected tokens
    | .documentEnd :: _ => .error .malformed
    | _ => readContent usualHandles tokens
  readEnd rest
  return some (known.nodes, root)

end ShellPipeline.Document.Yaml
