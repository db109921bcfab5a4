import ShellPipeline.Display
import ShellPipeline.Settings
import ShellPipeline.Text.Blank
import ShellPipeline.Text.Lines

/-!
# The dialogue

In the dialogue the lines of the input are parsed and shown one by one, each after a prompt. A blank
line is passed over, and one that says to leave ends the dialogue. The lines know nothing of each
other. Where the input ends without such a line, a newline closes the output.

* `Turn`, `turn` — what one line asks for;
* `Reply`, `reply` — what becomes of the dialogue at one line;
* `dialogue` — the effects of the dialogue over some lines;
* `runDialogue` — the same over an input, with the record at the end.
-/

namespace ShellPipeline

/-- What one line of the dialogue asks for. -/
inductive Turn where
  /-- Nothing. -/
  | pass
  /-- To leave. -/
  | leave
  /-- To parse and show it. -/
  | answer
deriving DecidableEq, Repr

/-- The words that end the dialogue. -/
def leavingWords : List String := ["exit", "quit"]

/-- **What a line asks for.** -/
def turn (line : String) : Turn :=
  let line := Text.trim line
  if line.isEmpty then .pass else if line ∈ leavingWords then .leave else .answer

/-- What becomes of the dialogue at a line or at the end of the input. -/
structure Reply where
  /-- What is done. -/
  effects : List Effect
  /-- Whether the dialogue goes on. -/
  goesOn : Bool

/-- **The reply to a line**, or to the end of the input. -/
def reply (settings : Settings) : Option String → Reply
  | none => ⟨[.echo ""], false⟩
  | some line =>
    match turn line with
    | .pass => ⟨[], true⟩
    | .leave => ⟨[], false⟩
    | .answer => ⟨runLine settings.strict settings.showTokens line, true⟩

/-- **The dialogue over some lines.** -/
def dialogue (settings : Settings) : List String → List Effect
  | [] => .echoPrompt settings.prompt :: (reply settings none).effects
  | line :: rest =>
    let answer := reply settings (some line)
    .echoPrompt settings.prompt ::
      (answer.effects ++ if answer.goesOn then dialogue settings rest else [])

/-- The record at the end of a dialogue. -/
def dialogueRecord : Record where
  level := .debug
  source := "pipeparse.cli"
  message := "repl finished"

/-- **The dialogue over an input.** -/
def runDialogue (settings : Settings) (input : String) : List Effect :=
  dialogue settings (Text.lines input) ++ [.log dialogueRecord]

end ShellPipeline
