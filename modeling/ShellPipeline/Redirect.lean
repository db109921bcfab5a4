import ShellPipeline.Text.Quoted

/-!
# Redirections

A redirection is an operator and the filename after it. There are three operators, two of which name
an output; the mode of an output is the operator's.

* `Redirect` — the operators, with their spelling `symbol` and its inverse `ofSymbol?`;
* `OutputMode` — how an output is opened, or that there is none.
-/

namespace ShellPipeline

/-- The redirection operators. -/
inductive Redirect where
  /-- `<`, the input. -/
  | input
  /-- `>>`, the output, written behind what the file holds. -/
  | append
  /-- `>`, the output, written in place of what the file holds. -/
  | truncate
deriving DecidableEq, Repr

/-- How the output of a subcommand is opened. -/
inductive OutputMode where
  /-- Behind what the file holds. -/
  | append
  /-- In place of what the file holds. -/
  | truncate
  /-- There is no output redirection. -/
  | none
deriving DecidableEq, Repr

namespace Redirect

/-- The spelling of an operator. -/
def symbol : Redirect → String
  | input => "<"
  | append => ">>"
  | truncate => ">"

/-- The operator a word spells; none for any other word. -/
def ofSymbol? (word : String) : Option Redirect :=
  if word = "<" then some input
  else if word = ">>" then some append
  else if word = ">" then some truncate
  else none

@[simp] theorem ofSymbol?_symbol (r : Redirect) : ofSymbol? r.symbol = some r := by
  cases r <;> decide

theorem ofSymbol?_eq_some_iff {word : String} {r : Redirect} :
    ofSymbol? word = some r ↔ word = r.symbol := by
  constructor
  · unfold ofSymbol?
    intro h
    repeat' split at h
    all_goals cases h
    all_goals assumption
  · rintro rfl
    exact ofSymbol?_symbol r

end Redirect

namespace OutputMode

/-- The word that names a mode. -/
def word : OutputMode → String
  | append => "append"
  | truncate => "truncate"
  | none => "none"

/-- The mode a word names. -/
def ofWord? (s : String) : Option OutputMode :=
  if s = "append" then some append
  else if s = "truncate" then some truncate
  else if s = "none" then some none
  else Option.none

/-- What is said about a word that names no mode. -/
def unknownWord (s : String) : String := Text.quote s ++ " is not a valid RedirectMode"

/-- The identifier of a mode, as diagnostics show it. -/
def name : OutputMode → String
  | append => "APPEND"
  | truncate => "TRUNCATE"
  | none => "NONE"

@[simp] theorem ofWord?_word (m : OutputMode) : ofWord? m.word = some m := by
  cases m <;> decide

end OutputMode

end ShellPipeline
