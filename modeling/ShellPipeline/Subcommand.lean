import ShellPipeline.Fault

/-!
# Subcommands

A subcommand is what a segment asks for: the words to run, an input, and an output with its mode.
`assemble` folds a list of tokens into one. The last input redirection wins, and so does the last
output redirection, whose operator sets the mode. Every operator has to stand directly before a
filename and every filename directly behind an operator; this is checked here again, because tokens
can be built by hand.

The words of a subcommand end with a mark, held as `none`, that closes the vector handed to a new
process.
-/

namespace ShellPipeline

/-- **A subcommand.** -/
structure Subcommand where
  /-- The words to run, closed by the mark `none`. -/
  execArgs : List (Option String)
  /-- The file that is read, where one is named. -/
  input : Option String
  /-- The file that is written, where one is named. -/
  output : Option String
  /-- How the output is opened. -/
  mode : OutputMode
deriving DecidableEq, Repr

/-- The words to run, without any mark. -/
def Subcommand.argv (sub : Subcommand) : List String := sub.execArgs.filterMap id

/-- The mark at the end of the vector is no word. -/
@[simp] theorem Subcommand.argv_mk (words : List String) (input output : Option String)
    (mode : OutputMode) :
    (Subcommand.mk (words.map some ++ [none]) input output mode).argv = words := by
  simp [Subcommand.argv]

/-- A subcommand in the making. -/
structure Draft where
  /-- The plain words so far. -/
  words : List String
  /-- The input named last. -/
  input : Option String
  /-- The output named last. -/
  output : Option String
  /-- The mode of that output. -/
  mode : OutputMode
deriving DecidableEq, Repr

namespace Draft

/-- The draft before the first token. -/
def empty : Draft := ⟨[], none, none, .none⟩

/-- Adds a plain word. -/
def addWord (draft : Draft) (word : String) : Draft := { draft with words := draft.words ++ [word] }

/-- Points an operator at a file; an earlier file of the same direction is forgotten. -/
def redirect (draft : Draft) (filename : String) : Redirect → Draft
  | .input => { draft with input := some filename }
  | .append => { draft with output := some filename, mode := .append }
  | .truncate => { draft with output := some filename, mode := .truncate }

/-- The finished subcommand; a draft without a plain word is not one. -/
def finish (draft : Draft) : Except SyntaxFault Subcommand :=
  if draft.words.isEmpty then .error .commandMissing
  else .ok ⟨draft.words.map some ++ [none], draft.input, draft.output, draft.mode⟩

end Draft

/-- Adds tokens to a draft. `waiting` is the operator before the first of them, where it has no
filename yet. -/
def gather (waiting : Option Redirect) (draft : Draft) : List Token → Except SyntaxFault Draft
  | [] =>
    match waiting with
    | some operator => .error (.filenameMissing operator)
    | none => .ok draft
  | token :: rest =>
    match waiting, token.kind with
    | some operator, .filename => gather none (draft.redirect token.contents operator) rest
    | some operator, _ => .error (.filenameExpected operator token.contents)
    | none, .redirect operator => gather (some operator) draft rest
    | none, .filename => .error (.filenameUnbound token.contents)
    | none, .normal => gather none (draft.addWord token.contents) rest

/-- **The subcommand of a list of tokens**, or the first fault in the list. -/
def assemble (tokens : List Token) : Except SyntaxFault Subcommand := do
  (← gather none .empty tokens).finish

/-- Assembles a list of tokens and uses it up: the list is cleared in the end, whether it was
accepted or not. What comes of it stands beside what is left of the list. -/
def assembleAll (tokens : List Token) : Except SyntaxFault Subcommand × List Token :=
  let action : ExceptT SyntaxFault (StateM (List Token)) Subcommand :=
    try MonadExcept.ofExcept (assemble tokens) finally set ([] : List Token)
  action.run.run tokens

theorem assembleAll_eq (tokens : List Token) : assembleAll tokens = (assemble tokens, []) := by
  unfold assembleAll
  cases assemble tokens <;> rfl

end ShellPipeline
