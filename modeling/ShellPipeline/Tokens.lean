import ShellPipeline.Fault
import ShellPipeline.Text.Words

/-!
# The tokens of a segment

A segment is read word by word. Each word is an operator, the filename of the operator before it, or
a plain word. What is remembered from one word to the next is the operator that still waits for its
filename, if there is one. A segment is rejected where an operator stands in the place of a
filename, and where it ends with an operator.

* `classify` — the tokens of a list of words, with the operator that waits;
* `tokenize` — the tokens of a segment.
-/

namespace ShellPipeline

/-- The tokens of a list of words. `waiting` is the operator before the first of them, where it has
no filename yet. -/
def classify (waiting : Option Redirect) : List String → Except SyntaxFault (List Token)
  | [] =>
    match waiting with
    | some operator => .error (.filenameMissing operator)
    | none => .ok []
  | word :: rest =>
    match waiting, Redirect.ofSymbol? word with
    | some operator, some _ => .error (.filenameExpected operator word)
    | some _, none => (classify none rest).map (⟨word, .filename⟩ :: ·)
    | none, some operator => (classify (some operator) rest).map (⟨word, .redirect operator⟩ :: ·)
    | none, none => (classify none rest).map (⟨word, .normal⟩ :: ·)

/-- **The tokens of a segment**, or the first fault among its words. -/
def tokenize (segment : String) : Except SyntaxFault (List Token) :=
  classify none (Text.words segment)

@[simp] theorem classify_nil : classify none [] = .ok [] := rfl

@[simp] theorem classify_waiting_nil (r : Redirect) :
    classify (some r) [] = .error (.filenameMissing r) := rfl

end ShellPipeline
