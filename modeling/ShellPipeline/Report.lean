import ShellPipeline.Trace

/-!
# Reports

The texts that show what was found at each stage: the number of segments, the segments, the tokens
of one of them, a subcommand, and all subcommands of a result. A report is lines joined by newlines,
without a newline at its end.
-/

namespace ShellPipeline

/-- Lines joined by newlines. -/
def joinLines (lines : List String) : String := "\n".intercalate lines

/-- The number of segments. -/
def renderCount (number : Int) : String := "Number of subcommands: " ++ toString number

/-- Segments as they stand in the line, numbered from `index` on, one line each. -/
def segmentLines (index : Nat) : List String → List String
  | [] => []
  | segment :: rest =>
    ("Subcommand " ++ toString index ++ ": '" ++ segment ++ "'") :: segmentLines (index + 1) rest

/-- The segments of a line. -/
def Commandline.render (commandline : Commandline) : String :=
  joinLines (segmentLines 1 commandline.segments)

/-- One token: the part it plays, and its contents. -/
def Token.line (token : Token) : String := token.kind.name ++ " '" ++ token.contents ++ "'"

/-- Tokens, one line each. -/
def renderTokens (tokens : List Token) : String := joinLines (tokens.map Token.line)

/-- The five lines on a subcommand. -/
def Subcommand.lines (sub : Subcommand) (index : Option Int) : List String :=
  [ match index with
    | none => "Subcommand:"
    | some n => "Subcommand " ++ toString n ++ ":",
    "  argv:   " ++ quoteList sub.argv,
    "  input:  " ++ sub.input.getD "<stdin>",
    "  output: " ++ sub.output.getD "<stdout>",
    "  mode:   " ++ sub.mode.word ]

/-- **A subcommand**, with its number where it has one. -/
def Subcommand.render (sub : Subcommand) (index : Option Int) : String :=
  joinLines (sub.lines index)

/-- An accepted segment, with its number. -/
def ParsedSegment.render (segment : ParsedSegment) : String :=
  segment.subcommand.render (some segment.index)

/-- **All subcommands of a result.** -/
def ParseResult.render (result : ParseResult) : String :=
  joinLines (result.segments.map (·.render))

end ShellPipeline
