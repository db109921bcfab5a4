import ShellPipeline.Record
import ShellPipeline.Text.ControlSequence

/-!
# Effects

What a step of the program does to the world around it, as a list in order of time: it prints, it
reports on the error stream, or it hands a record to the journal. A step is a pure function to such
a list, and whoever runs the step carries the list out.

Echoing is printing a text, closed by a newline, without its terminal control sequences. Each echo
is stripped on its own.

* `Effect` — one effect;
* `echo`, `echoError`, `echoPrompt` — the effects of echoing;
* `printed`, `reported`, `recorded` — what a list of effects amounts to on each of its ways.
-/

namespace ShellPipeline

/-- One effect on the world. -/
inductive Effect where
  /-- Writes to the output stream. -/
  | print (text : String)
  /-- Writes to the error stream. -/
  | report (text : String)
  /-- Hands a record to the journal. -/
  | log (record : Record)
deriving DecidableEq, Repr

namespace Effect

/-- Echoes a line. -/
def echo (text : String) : Effect := .print (Text.stripSequences (text ++ "\n"))

/-- Echoes a line on the error stream. -/
def echoError (text : String) : Effect := .report (Text.stripSequences (text ++ "\n"))

/-- Echoes a text without a newline. -/
def echoPrompt (text : String) : Effect := .print (Text.stripSequences text)

/-- What one effect puts on the output stream. -/
def printed : Effect → String
  | print text => text
  | _ => ""

/-- What one effect puts on the error stream by itself, records aside. -/
def reported : Effect → String
  | report text => text
  | _ => ""

/-- The record that one effect hands on. -/
def record? : Effect → Option Record
  | log record => some record
  | _ => none

end Effect

/-- What a list of effects puts on the output stream. -/
def printed (effects : List Effect) : String := String.join (effects.map Effect.printed)

/-- What a list of effects puts on the error stream by itself, records aside. -/
def reported (effects : List Effect) : String := String.join (effects.map Effect.reported)

/-- The records that a list of effects hands on. -/
def recorded (effects : List Effect) : List Record := effects.filterMap Effect.record?

@[simp] theorem printed_nil : printed [] = "" := rfl

@[simp] theorem reported_nil : reported [] = "" := rfl

@[simp] theorem recorded_nil : recorded [] = [] := rfl

@[simp] theorem printed_append (a b : List Effect) : printed (a ++ b) = printed a ++ printed b := by
  simp [printed]

@[simp] theorem reported_append (a b : List Effect) :
    reported (a ++ b) = reported a ++ reported b := by
  simp [reported]

@[simp] theorem recorded_append (a b : List Effect) :
    recorded (a ++ b) = recorded a ++ recorded b :=
  List.filterMap_append

end ShellPipeline
