/-!
# Options

The arguments of a command line are words and options. An option is written with two dashes and its
name, and the name of a switch is all there is to it. An option that has a value takes it from
behind an equals sign or from the next argument, whatever that is; it may also have a letter,
written with a single dash, and then the value may follow the letter directly. A single dash by
itself is a word. Behind two dashes by themselves there are only words.

Options may be mixed with words, or end at the first word; a reader says which.

* `OptionForm` — the options that there are;
* `UsageFault` — what can be wrong with arguments;
* `ArgumentRole` — what one argument is by itself;
* `Reading`, `readArguments` — the options and the words of a list of arguments.
-/

namespace ShellPipeline

/-- **The form of an option.** -/
inductive OptionForm where
  /-- An option without a value. -/
  | switch (name : String)
  /-- An option with a value, and perhaps with a letter. -/
  | valued (name : String) (letter : Option Char)
deriving DecidableEq, Repr

/-- An option as it was given. -/
inductive GivenOption where
  /-- An option without a value. -/
  | switch (name : String)
  /-- An option with its value. -/
  | valued (name value : String)
deriving DecidableEq, Repr

/-- What can be wrong with the arguments of a command line. -/
inductive UsageFault where
  /-- There is no option of that name. -/
  | unknownOption (name : String)
  /-- The arguments end where a value is due. -/
  | missingValue (name : String)
  /-- A value is given to a switch. -/
  | unwantedValue (name : String)
  /-- No command is named. -/
  | missingCommand
  /-- There is no command of that name. -/
  | unknownCommand (name : String)
  /-- There is no line to parse. -/
  | missingLine
  /-- There is a word too many. -/
  | extraWord (word : String)
deriving DecidableEq, Repr

/-- The wording of a fault. -/
def UsageFault.message : UsageFault → String
  | unknownOption name => "there is no option " ++ name
  | missingValue name => "option " ++ name ++ " needs a value"
  | unwantedValue name => "option " ++ name ++ " takes no value"
  | missingCommand => "a command is missing"
  | unknownCommand name => "there is no command " ++ name
  | missingLine => "a line is missing"
  | extraWord word => "there is a word too many: " ++ word

/-- The name of the option that a form describes. -/
def OptionForm.name : OptionForm → String
  | switch name => name
  | valued name _ => name

/-- Whether a letter stands for the option that a form describes. -/
def OptionForm.hasLetter (c : Char) : OptionForm → Bool
  | switch _ => false
  | valued _ letter => letter == some c

/-- **What one argument is by itself.** -/
inductive ArgumentRole where
  /-- A word. -/
  | word
  /-- The two dashes behind which there are only words. -/
  | separator
  /-- An option with all that belongs to it. -/
  | given (option : GivenOption)
  /-- An option whose value is the next argument. -/
  | awaiting (name : String)
  /-- Not an option, though written like one. -/
  | refused (fault : UsageFault)
deriving DecidableEq, Repr

namespace ArgumentRole

/-- An option written with its letter. -/
def ofLetter (forms : List OptionForm) (c : Char) (rest : List Char) : ArgumentRole :=
  match forms.find? (·.hasLetter c) with
  | none => .refused (.unknownOption (String.ofList ['-', c]))
  | some form =>
    if rest.isEmpty then .awaiting form.name else .given (.valued form.name (String.ofList rest))

/-- An option written with its name, and what is behind its equals sign. -/
def ofForm (value : Option String) : OptionForm → ArgumentRole
  | .switch name => if value.isSome then .refused (.unwantedValue name) else .given (.switch name)
  | .valued name _ =>
    match value with
    | some value => .given (.valued name value)
    | none => .awaiting name

/-- What is behind the first equals sign of an argument, if there is one. -/
def attachedValue? (s : List Char) : Option String :=
  match s.dropWhile (· != '=') with
  | [] => none
  | _ :: value => some (String.ofList value)

/-- **What an argument is**, where options of some forms are expected. -/
def ofArgument (forms : List OptionForm) (argument : String) : ArgumentRole :=
  let s := argument.toList
  let name := String.ofList (s.takeWhile (· != '='))
  match s with
  | '-' :: '-' :: rest =>
    if rest.isEmpty then .separator
    else
      match forms.find? (·.name == name) with
      | some form => ofForm (attachedValue? s) form
      | none => .refused (.unknownOption name)
  | '-' :: c :: rest => ofLetter forms c rest
  | _ => .word

end ArgumentRole

/-- **The options and the words** of a list of arguments, each in order. -/
structure Reading where
  /-- The options. -/
  options : List GivenOption
  /-- The words. -/
  words : List String
deriving DecidableEq, Repr

namespace Reading

/-- A reading with one more option in front. -/
def withOption (option : GivenOption) (reading : Reading) : Reading :=
  { reading with options := option :: reading.options }

/-- A reading with one more word in front. -/
def withWord (word : String) (reading : Reading) : Reading :=
  { reading with words := word :: reading.words }

/-- The value of an option; of several the last one counts. -/
def value? (reading : Reading) (name : String) : Option String :=
  reading.options.reverse.findSome? fun
    | .valued other value => if other = name then some value else none
    | .switch _ => none

/-- Which of two opposite switches is given, the first one as true; of several the last one
counts. -/
def choice? (reading : Reading) (on off : String) : Option Bool :=
  reading.options.reverse.findSome? fun
    | .switch name => if name = on then some true else if name = off then some false else none
    | .valued _ _ => none

end Reading

/-- **Reads arguments**, where options of some forms are expected; `mixed` says whether there may be
options behind a word. -/
def readArguments (forms : List OptionForm) (mixed : Bool) :
    List String → Except UsageFault Reading
  | [] => .ok ⟨[], []⟩
  | argument :: rest =>
    match ArgumentRole.ofArgument forms argument with
    | .separator => .ok ⟨[], rest⟩
    | .refused fault => .error fault
    | .given option => (readArguments forms mixed rest).map (·.withOption option)
    | .word =>
      if mixed then (readArguments forms mixed rest).map (·.withWord argument)
      else .ok ⟨[], argument :: rest⟩
    | .awaiting name =>
      match rest with
      | [] => .error (.missingValue name)
      | value :: rest => (readArguments forms mixed rest).map (·.withOption (.valued name value))

end ShellPipeline
