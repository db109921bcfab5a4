/-!
# Records

A record is one message for the journal: how urgent it is, which part of the program it comes from,
and its text. Urgency is a number, and the larger the more urgent; five of the numbers have names.
-/

namespace ShellPipeline

/-- How urgent a record is. -/
abbrev Level := Int

namespace Level

/-- What only someone looking for a mistake wants to know. -/
def debug : Level := 10

/-- What happens in the normal course. -/
def info : Level := 20

/-- What may need attention. -/
def warning : Level := 30

/-- What went wrong. -/
def error : Level := 40

/-- What stops the program. -/
def critical : Level := 50

end Level

/-- **A message for the journal.** -/
structure Record where
  /-- How urgent it is. -/
  level : Level
  /-- The part of the program it comes from. -/
  source : String
  /-- What it says. -/
  message : String
deriving DecidableEq, Repr

end ShellPipeline
