import ShellPipeline.Document.Yaml.Objects
import ShellPipeline.Document.Yaml.TokenList
import ShellPipeline.Text.Lines

/-!
# YAML documents

Reading a YAML document, in the first edition of the format. A text may hold no document at all; it
may not hold two.

The bytes of a file are decoded a stretch at a time, and what has been decoded is looked at before
the next stretch. So where the bytes are no text, the document may turn out to be faulty in another
way first.

* `read` — the document of a text;
* `readFile` — the document of a file.
-/

namespace ShellPipeline.Document.Yaml

/-- The document of a list of tokens; no value where there is none. -/
def readTokens [Limits] (tokens : List Token) : Except DocumentFault Graph := do
  match ← Nodes.ofTokens? tokens with
  | none => return .ofValue .null
  | some (nodes, root) => nodes.graph root

/-- **The document of a text**; no value where the text holds none. -/
def read [Limits] (s : String) : Except DocumentFault Graph :=
  readTokens (tokensOf (Text.unifyNewlines s.toList))

/-- The characters from a position of some bytes on, in front of the first bytes that are no text.
`bound` is at least the number of bytes that are left. -/
def textFrom (content : ByteArray) : Nat → Nat → List Char
  | 0, _ => []
  | bound + 1, position =>
    match content.utf8DecodeChar? position with
    | none => []
    | some c => c :: textFrom content bound (position + c.utf8Size)

/-- **The document of a file.** Where its bytes are no text as a whole, a fault of the part that is
looked at before comes first. -/
def readFile [Limits] (content : ByteArray) : Except DocumentFault Graph :=
  match String.fromUTF8? content with
  | some text => read text
  | none =>
    let front := textFrom content content.size 0
    let seen := front.take (Limits.readAhead front.length)
    readTokens (tokensOf (Text.unifyNewlines seen) ++ [.broken .notText])

end ShellPipeline.Document.Yaml
