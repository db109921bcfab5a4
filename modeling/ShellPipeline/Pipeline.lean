import ShellPipeline.Commandline
import ShellPipeline.Record
import ShellPipeline.Subcommand
import ShellPipeline.Tokens

/-!
# Pipelines

A line is parsed segment by segment, each for itself. A segment that is rejected is kept as an error
and the segments behind it are parsed all the same; under the strict rule the first rejected segment
is the last one looked at.

What happens to one segment is an `Attempt`: its tokens as far as they were found, and the
subcommand or the fault. The result of a parse is read off its attempts, the accepted ones and the
rejected ones each in order.

* `Attempt.ofSegment` — one segment;
* `attempts` — the segments that are looked at, in order;
* `ParseResult` — what a parse found;
* `parse` — the result for a line, and `parseUnder`, the same where copies may fail.
-/

namespace ShellPipeline

/-- The subcommand of a segment. -/
def parseSubcommand (segment : String) : Except SyntaxFault Subcommand := do
  assemble (← tokenize segment)

/-- What happens to one segment. -/
structure Attempt where
  /-- The number of the segment, counted from one. -/
  index : Nat
  /-- The segment as it stands in the line. -/
  segment : String
  /-- Its tokens; none where a fault was found while they were read. -/
  tokens : List Token
  /-- What came of it. -/
  outcome : Except SyntaxFault Subcommand

namespace Attempt

/-- Tokenizes a segment and assembles its tokens. -/
def ofSegment (index : Nat) (segment : String) : Attempt :=
  match tokenize segment with
  | .error fault => ⟨index, segment, [], .error fault⟩
  | .ok tokens => ⟨index, segment, tokens, assemble tokens⟩

/-- Whether the segment is rejected. -/
def failed (attempt : Attempt) : Bool :=
  match attempt.outcome with
  | .error _ => true
  | .ok _ => false

end Attempt

/-- An accepted segment. -/
structure ParsedSegment where
  /-- The number of the segment. -/
  index : Int
  /-- What the segment asks for. -/
  subcommand : Subcommand
  /-- The tokens it was assembled from. -/
  tokens : List Token
deriving DecidableEq, Repr

/-- A rejected segment. -/
structure SegmentError where
  /-- The number of the segment. -/
  index : Int
  /-- The segment as it stands in the line. -/
  segment : String
  /-- Why it is rejected. -/
  fault : SyntaxFault
  /-- The number that the notice about it shows. -/
  shown : Option Int
  /-- Its tokens, where all of them were found. -/
  tokens : List Token
deriving DecidableEq, Repr

/-- The notice about a rejected segment. -/
def SegmentError.notice (error : SegmentError) : Notice := error.fault.notice error.shown

namespace Attempt

/-- The accepted segment of an attempt. -/
def parsed? (attempt : Attempt) : Option ParsedSegment :=
  match attempt.outcome with
  | .ok sub => some ⟨attempt.index, sub, attempt.tokens⟩
  | .error _ => none

/-- The rejected segment of an attempt. -/
def error? (attempt : Attempt) : Option SegmentError :=
  match attempt.outcome with
  | .ok _ => none
  | .error fault => some ⟨attempt.index, attempt.segment, fault, some attempt.index, attempt.tokens⟩

end Attempt

/-- **What a parse found.** -/
structure ParseResult where
  /-- The line, cut. -/
  commandline : Commandline
  /-- The accepted segments, in order. -/
  segments : List ParsedSegment
  /-- The rejected segments, in order. -/
  errors : List SegmentError
deriving DecidableEq, Repr

namespace ParseResult

/-- The result that a list of attempts adds up to. -/
def ofAttempts (commandline : Commandline) (attempts : List Attempt) : ParseResult where
  commandline := commandline
  segments := attempts.filterMap (·.parsed?)
  errors := attempts.filterMap (·.error?)

/-- The subcommands of the accepted segments. -/
def subcommands (result : ParseResult) : List Subcommand := result.segments.map (·.subcommand)

/-- The tokens kept for the segment of a number; none where there is no such segment. -/
def tokensFor (result : ParseResult) (index : Int) : List Token :=
  match result.segments.find? (·.index == index) with
  | some segment => segment.tokens
  | none => ((result.errors.find? (·.index == index)).map (·.tokens)).getD []

/-- Whether nothing is rejected. -/
def ok (result : ParseResult) : Bool := result.errors.isEmpty

/-- The notice about the first rejected segment, where there is one. -/
def firstNotice? (result : ParseResult) : Option Notice :=
  result.errors.head?.map (·.notice)

end ParseResult

/-- A list up to and including the first member that passes a test. -/
def takeThrough {α : Type} (test : α → Bool) : List α → List α
  | [] => []
  | a :: rest => if test a then [a] else a :: takeThrough test rest

/-- Every segment of a list attempted, numbered from `index` on. -/
def attemptAll (index : Nat) : List String → List Attempt
  | [] => []
  | segment :: rest => .ofSegment index segment :: attemptAll (index + 1) rest

/-- **The attempts on the segments of a line.** The strict rule stops behind the first one that
fails. -/
def attempts (strict : Bool) (commandline : Commandline) : List Attempt :=
  let all := attemptAll 1 commandline.segments
  if strict then takeThrough Attempt.failed all else all

/-- The result for a line that has been cut. -/
def Commandline.parse (strict : Bool) (commandline : Commandline) : ParseResult :=
  .ofAttempts commandline (attempts strict commandline)

/-- **The result of parsing a line.** -/
def parse (strict : Bool) (line : String) : ParseResult := (Commandline.ofLine line).parse strict

/-- The result of parsing a line, where the copies of some segments may fail; a failed copy stops
the line as a whole. -/
def parseUnder (fails : Nat → Bool) (strict : Bool) (line : String) :
    Except SplitFault ParseResult :=
  (Commandline.split fails line).map (·.parse strict)

/-- Where memory suffices, both ways to parse agree. -/
theorem parseUnder_of_none_fails (strict : Bool) (line : String) :
    parseUnder (fun _ => false) strict line = .ok (parse strict line) := by
  simp [parseUnder, Commandline.split_of_none_fails, Except.map, parse]

end ShellPipeline
