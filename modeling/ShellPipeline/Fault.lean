import ShellPipeline.Token

/-!
# Faults

What may be wrong with a line, as causes. A *syntax fault* belongs to one segment and leaves the
others alone; a *split fault* stops the line as a whole. The wording of each cause is in one place,
`message`. A notice is a worded fault, with the number of the segment that it is about once that is
known.

The kinds of fault form a family: every one is a parser fault, and a wrong count is at the same time
an index fault and so a lookup fault.
-/

namespace ShellPipeline

/-- **Why a segment is rejected.** -/
inductive SyntaxFault where
  /-- Something other than a filename stands behind an operator. -/
  | filenameExpected (operator : Redirect) (found : String)
  /-- The segment ends behind an operator. -/
  | filenameMissing (operator : Redirect)
  /-- A filename stands behind something other than an operator. -/
  | filenameUnbound (filename : String)
  /-- No plain word is there to be run. -/
  | commandMissing
deriving DecidableEq, Repr

/-- **Why a line is not cut into segments.** -/
inductive SplitFault where
  /-- The number of segments asked for is not the number that the line has. -/
  | wrongCount (expected actual : Int)
  /-- Memory ran out while the segment of this number, counted from one, was copied. -/
  | copyFailed (number : Nat)
deriving DecidableEq, Repr

/-- The kinds of fault, and the wider families they belong to. -/
inductive FaultKind where
  /-- Any fault of a line. -/
  | parser
  /-- Memory ran out. -/
  | allocation
  /-- A wrong number of segments. -/
  | count
  /-- Any fault of one segment. -/
  | syntactic
  /-- An operator and a filename that do not belong together. -/
  | redirect
  /-- A segment without a command. -/
  | emptyCommand
  /-- A position outside its range. -/
  | index
  /-- A look-up that finds nothing. -/
  | lookup
deriving DecidableEq, Repr

namespace FaultKind

/-- The families a kind belongs to, itself first. -/
def families : FaultKind → List FaultKind
  | parser => [parser]
  | allocation => [allocation, parser]
  | count => [count, parser, index, lookup]
  | syntactic => [syntactic, parser]
  | redirect => [redirect, syntactic, parser]
  | emptyCommand => [emptyCommand, syntactic, parser]
  | index => [index, lookup]
  | lookup => [lookup]

end FaultKind

namespace SyntaxFault

/-- The wording of a cause. -/
def message : SyntaxFault → String
  | filenameExpected operator found =>
    "expected filename after '" ++ operator.symbol ++ "', got '" ++ found ++ "'"
  | filenameMissing operator => "missing filename after '" ++ operator.symbol ++ "'"
  | filenameUnbound filename => "filename '" ++ filename ++ "' has no redirect operator"
  | commandMissing => "no command to execute"

/-- A missing command is a kind of its own; the other causes are malformed redirections. -/
def kind : SyntaxFault → FaultKind
  | commandMissing => .emptyCommand
  | _ => .redirect

end SyntaxFault

namespace SplitFault

/-- The wording of a cause. -/
def message : SplitFault → String
  | wrongCount expected actual =>
    "expected " ++ toString expected ++ " subcommands, line has " ++ toString actual
  | copyFailed number => "cannot copy subcommand " ++ toString number

/-- A failed copy is a lack of memory, the other cause a wrong count. -/
def kind : SplitFault → FaultKind
  | wrongCount .. => .count
  | copyFailed _ => .allocation

end SplitFault

/-- **A worded fault of a segment**, with the segment's number once it is known. -/
structure Notice where
  /-- What kind of fault it is. -/
  kind : FaultKind
  /-- The wording, without the segment's number. -/
  message : String
  /-- The number of the segment, where one was given. -/
  segment : Option Int
deriving DecidableEq, Repr

/-- The text of a notice: the wording, led by the number of the segment where there is one. -/
def Notice.text (notice : Notice) : String :=
  match notice.segment with
  | none => notice.message
  | some n => "segment " ++ toString n ++ ": " ++ notice.message

/-- A fault as a notice about the segment of a number. -/
def SyntaxFault.notice (fault : SyntaxFault) (segment : Option Int) : Notice :=
  ⟨fault.kind, fault.message, segment⟩

end ShellPipeline
