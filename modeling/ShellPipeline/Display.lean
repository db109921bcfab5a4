import ShellPipeline.Effect
import ShellPipeline.Report

/-!
# Display

The reports, echoed, and what happens to one line from beginning to end. A subcommand goes to the
output stream block by block; the notices about rejected segments go to the error stream.

* `displayTokens`, `ParseResult.display` — the echoes of the tokens of a segment and of a result;
* `ParseResult.displayAllTokens` — the tokens of every segment, or why there are none;
* `runLine` — a line parsed and shown.
-/

namespace ShellPipeline

/-- Echoes the number of segments. -/
def displayCount (number : Int) : List Effect := [.echo (renderCount number)]

/-- Echoes the segments of a line. -/
def Commandline.display (commandline : Commandline) : List Effect := [.echo commandline.render]

/-- Echoes tokens; an empty text is not echoed. -/
def displayTokens (tokens : List Token) : List Effect :=
  let text := renderTokens tokens
  if text.isEmpty then [] else [.echo text]

/-- Echoes a subcommand. -/
def Subcommand.display (sub : Subcommand) (index : Option Int) : List Effect :=
  [.echo (sub.render index)]

/-- Echoes an accepted segment. -/
def ParsedSegment.display (segment : ParsedSegment) : List Effect :=
  segment.subcommand.display (some segment.index)

/-- Echoes the notice about a rejected segment. -/
def SegmentError.display (error : SegmentError) : List Effect :=
  [.echoError ("error: " ++ error.notice.text)]

namespace ParseResult

/-- **Echoes a result**: its subcommands, then its notices. -/
def display (result : ParseResult) : List Effect :=
  result.segments.flatMap (·.display) ++ result.errors.flatMap (·.display)

/-- What is shown of the tokens of one segment: the tokens, or why there are none. Of two errors
about one segment the later one counts. -/
def displayTokensOf (result : ParseResult) (index : Nat) : List Effect :=
  let tokens := result.tokensFor index
  if tokens.isEmpty then
    match result.errors.reverse.find? (·.index == (index : Int)) with
    | some error => [.echo ("  <no tokens: " ++ error.notice.message ++ ">")]
    | none =>
      if result.segments.any (·.index == (index : Int)) then [] else [.echo "  <not parsed>"]
  else displayTokens tokens

/-- **Echoes the tokens of every segment**, each under a heading of its own. -/
def displayAllTokens (result : ParseResult) : List Effect :=
  (List.range' 1 result.commandline.num).flatMap fun index =>
    .echo ("Tokens " ++ toString index ++ ":") :: result.displayTokensOf index

end ParseResult

/-- **A line parsed and shown**: the records of the parse, the count, the segments, their tokens
where they are asked for, and the result. -/
def runLine (strict showTokens : Bool) (line : String) : List Effect :=
  let result := parse strict line
  (parseRecords strict line).map .log ++ displayCount result.commandline.num ++
    result.commandline.display ++ (if showTokens then result.displayAllTokens else []) ++
    result.display

end ShellPipeline
