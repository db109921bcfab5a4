import ShellPipeline.Pipeline
import ShellPipeline.Text.Quoted

/-!
# The records of a parse

A parse leaves records for the journal: one for the cutting of the line, and for each segment that
is looked at one per step that succeeds, or one that says why the segment is rejected. Only the
rejections are more than a matter of debugging. Every text taken from the line stands between quote
marks with its unprintable characters escaped, so a record is one line whatever the line holds.

* `Subcommand.detail` — a subcommand with all its parts, on one line;
* `Attempt.records` — the records of one segment;
* `parseRecords` — the records of a whole parse, in order.
-/

namespace ShellPipeline

/-- An item that may be missing, quoted. -/
def quoteOption : Option String → String
  | none => "None"
  | some s => Text.quote s

/-- Texts in brackets, quoted and separated by commas. -/
def quoteList (items : List String) : String :=
  "[" ++ ", ".intercalate (items.map Text.quote) ++ "]"

/-- Items in parentheses, quoted and separated by commas. A single item keeps its comma. -/
def quoteVector : List (Option String) → String
  | [item] => "(" ++ quoteOption item ++ ",)"
  | items => "(" ++ ", ".intercalate (items.map quoteOption) ++ ")"

/-- A subcommand with all its parts, on one line. -/
def Subcommand.detail (sub : Subcommand) : String :=
  "Subcommand(exec_args=" ++ quoteVector sub.execArgs ++ ", input=" ++ quoteOption sub.input ++
    ", output=" ++ quoteOption sub.output ++ ", mode=<RedirectMode." ++ sub.mode.name ++ ": '" ++
    sub.mode.word ++ "'>)"

/-- The record of a line that was cut. -/
def splitRecord (line : String) (commandline : Commandline) : Record where
  level := .debug
  source := "pipeparse.splitter"
  message := "Split " ++ Text.quote line ++ " into " ++ toString commandline.num ++ " subcommands"

/-- The record of a segment whose tokens were all found. -/
def tokensRecord (segment : String) (tokens : List Token) : Record where
  level := .debug
  source := "pipeparse.tokens"
  message :=
    "Tokenized " ++ Text.quote segment ++ " into " ++ toString tokens.length ++ " arguments"

/-- The record of a subcommand that was assembled. -/
def assembledRecord (sub : Subcommand) : Record where
  level := .debug
  source := "pipeparse.assembler"
  message := "Assembled " ++ sub.detail

/-- The record of a segment that is rejected. -/
def rejectedRecord (notice : Notice) : Record where
  level := .info
  source := "pipeparse.pipeline"
  message := "Rejected " ++ notice.text

/-- The records of tokenizing a segment and assembling its tokens, as far as that goes. -/
def segmentRecords (segment : String) : List Record :=
  match tokenize segment with
  | .error _ => []
  | .ok tokens =>
    tokensRecord segment tokens ::
      match assemble tokens with
      | .error _ => []
      | .ok sub => [assembledRecord sub]

/-- The records of the attempt on one segment. -/
def Attempt.records (attempt : Attempt) : List Record :=
  segmentRecords attempt.segment ++
    (attempt.error?.map fun error => rejectedRecord error.notice).toList

/-- **The records of a parse**, in order. -/
def parseRecords (strict : Bool) (line : String) : List Record :=
  let commandline := Commandline.ofLine line
  splitRecord line commandline :: (attempts strict commandline).flatMap (·.records)

end ShellPipeline
