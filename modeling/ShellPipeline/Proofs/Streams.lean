import ShellPipeline.Program

/-!
# The streams of a run

Carrying out effects adds to the two streams, and what it adds does not depend on what is there
already. On the output stream it is what the effects print. On the error stream it is what they
report, and between that the lines of the records that the journal sends to the console; the journal
stays the same throughout, so it can be left out of the account of what has happened so far.

Nothing is printed before a run comes to its command, and a command that is carried out leaves
nothing to be said about how the run ended. So the output of such a run is what its command prints.

* `World.perform_output`, `World.perform_errors` — what carrying out effects adds;
* `Environment.command?`, `Environment.run_of_command` — a run that comes to a command;
* `Environment.run_output`, `Environment.run_errors` — the streams of such a run.
-/

namespace ShellPipeline

/-! ### What effects add -/

/-- What a delivery puts on the error stream. -/
def Delivery.said : Delivery → String
  | .file _ _ => ""
  | .console text => text

/-- What a list of deliveries puts on the error stream. -/
def saidOf (deliveries : List Delivery) : String := String.join (deliveries.map Delivery.said)

/-- What one effect puts on the error stream, the lines of records among it. -/
def Effect.said (journal : Journal) (clock : String) : Effect → String
  | .print _ => ""
  | .report text => text
  | .log record => saidOf (journal.deliveries clock record)

/-- **What a list of effects puts on the error stream**, the lines of records among it. -/
def said (journal : Journal) (clock : String) (effects : List Effect) : String :=
  String.join (effects.map (·.said journal clock))

namespace World

variable (world : World) (clock : String)

@[simp] theorem report_empty : world.report "" = world := by simp [report]

/-- **What one delivery does** to the streams and to the journal. A line for the file is not said,
whether it gets into the file or not. -/
theorem deliver_adds (delivery : Delivery) :
    (world.deliver delivery).output = world.output ∧
      (world.deliver delivery).journal = world.journal ∧
      (world.deliver delivery).errors = world.errors ++ delivery.said := by
  cases delivery with
  | file path line => exact ⟨rfl, rfl, String.append_empty.symm⟩
  | console text => exact ⟨rfl, rfl, rfl⟩

/-- A list of deliveries prints nothing, leaves the journal as it is, and says what its members say.
-/
theorem foldl_deliver (deliveries : List Delivery) :
    (deliveries.foldl deliver world).output = world.output ∧
      (deliveries.foldl deliver world).journal = world.journal ∧
      (deliveries.foldl deliver world).errors = world.errors ++ saidOf deliveries := by
  induction deliveries generalizing world with
  | nil => exact ⟨rfl, rfl, String.append_empty.symm⟩
  | cons delivery rest ih =>
    obtain ⟨houtput, hjournal, herrors⟩ := world.deliver_adds delivery
    obtain ⟨hrestOutput, hrestJournal, hrestErrors⟩ := ih (world.deliver delivery)
    refine ⟨hrestOutput.trans houtput, hrestJournal.trans hjournal, ?_⟩
    -- what the first one says stands before what the rest say
    rw [List.foldl_cons, hrestErrors, herrors, String.append_assoc]
    simp [saidOf]

/-- **What one effect adds** to the streams. -/
theorem performOne_adds (effect : Effect) :
    (performOne clock world effect).output = world.output ++ effect.printed ∧
      (performOne clock world effect).journal = world.journal ∧
      (performOne clock world effect).errors =
        world.errors ++ effect.said world.journal clock := by
  cases effect with
  | print text => exact ⟨rfl, rfl, String.append_empty.symm⟩
  | report text => exact ⟨String.append_empty.symm, rfl, rfl⟩
  | log record =>
    -- a record is its deliveries, and they print nothing
    obtain ⟨houtput, hjournal, herrors⟩ :=
      foldl_deliver world (world.journal.deliveries clock record)
    exact ⟨houtput.trans String.append_empty.symm, hjournal, herrors⟩

/-- What a list of effects adds to the streams. -/
theorem perform_adds (effects : List Effect) :
    (world.perform clock effects).output = world.output ++ printed effects ∧
      (world.perform clock effects).errors =
        world.errors ++ said world.journal clock effects := by
  induction effects generalizing world with
  | nil => exact ⟨String.append_empty.symm, String.append_empty.symm⟩
  | cons effect rest ih =>
    obtain ⟨houtput, hjournal, herrors⟩ := performOne_adds world clock effect
    obtain ⟨hrestOutput, hrestErrors⟩ := ih (performOne clock world effect)
    constructor
    · rw [perform_cons, hrestOutput, houtput, String.append_assoc]
      simp [printed]
    · -- the journal that the rest meets is the one the effect met
      rw [perform_cons, hrestErrors, hjournal, herrors, String.append_assoc]
      simp [said]

/-- **On the output stream stands what was printed.** -/
theorem perform_output (effects : List Effect) :
    (world.perform clock effects).output = world.output ++ printed effects :=
  (perform_adds world clock effects).1

/-- **On the error stream stands what was reported**, and what the journal sent there. -/
theorem perform_errors (effects : List Effect) :
    (world.perform clock effects).errors = world.errors ++ said world.journal clock effects :=
  (perform_adds world clock effects).2

/-- Setting up the journal prints nothing, whether it succeeds or not. -/
theorem setUp_output (cwd : List String) (level : String) (dir : Option Path)
    (consoleLevel : String) : (world.setUp cwd level dir consoleLevel).1.output = world.output := by
  unfold setUp
  dsimp only
  -- the directory may fail to be made, and the file to be opened
  split
  · rfl
  · split
    · rfl
    · rfl

end World

/-! ### Runs that come to their command -/

namespace Environment

variable [Limits] {env : Environment}

/-- Loading the settings and setting up the journal prints nothing. -/
theorem prepare_output (env : Environment) (invocation : Invocation) :
    (env.prepare invocation).1.output = "" := by
  unfold prepare
  dsimp only
  -- of what was loaded, only whether there are settings decides how it goes on
  generalize env.load invocation.config invocation.baseDir = loaded
  cases loaded.settings with
  | error fault => rfl
  | ok settings =>
    dsimp only
    have hsetUp := World.setUp_output ((World.start env.tree).report loaded.report) env.cwd
      settings.fileLevel (some settings.logsDir) settings.consoleLevel
    rcases h : World.setUp ((World.start env.tree).report loaded.report) env.cwd
      settings.fileLevel (some settings.logsDir) settings.consoleLevel with ⟨after, fault | path⟩
    all_goals
      rw [h] at hsetUp
      exact hsetUp

/-- **Nothing is printed before the command.** -/
theorem start_output (env : Environment) (arguments : List String) :
    (env.start arguments).1.output = "" := by
  unfold start
  dsimp only
  cases Invocation.ofArguments arguments with
  | error fault => rfl
  | ok invocation =>
    dsimp only
    split
    · rfl
    · cases invocation.verb with
      | error fault => rfl
      | ok named =>
        have hprepare := env.prepare_output invocation
        rcases h : env.prepare invocation with ⟨after, fault | settings⟩
        all_goals
          rw [h] at hprepare
          exact hprepare

/-- **What a run comes to**: the settings and the command, where the settings could be loaded, the
journal could be set up and the arguments spell a command. -/
def command? (env : Environment) (arguments : List String) : Option (Settings × Command) :=
  match (env.start arguments).2 with
  | .error _ => none
  | .ok started =>
    (Command.read started.verb started.arguments).toOption.map (started.settings, ·)

/-- The input as the program reads it. -/
def inputText (input : String) : String := String.ofList (Text.unifyNewlines input.toList)

section Run

variable {arguments : List String} {settings : Settings} {command : Command}

/-- **A run that comes to a command carries it out**, and ends as the command decides. -/
theorem run_of_command (h : env.command? arguments = some (settings, command)) (input : String) :
    env.run input arguments =
      ((env.start arguments).1.perform env.clock (command.effects settings (inputText input)),
        if command.accepts settings then .accepted else .rejected) := by
  have hnotice :
      Ending.notice (if command.accepts settings then .accepted else .rejected) = "" := by
    split <;> rfl
  rcases hstart : env.start arguments with ⟨world, ending | started⟩
  · -- a run that ends before its command comes to none
    rw [command?, hstart] at h
    cases h
  · rw [command?, hstart] at h
    dsimp only at h
    cases hread : Command.read started.verb started.arguments with
    | error fault =>
      rw [hread] at h
      cases h
    | ok read =>
      -- the command that is read is the one the run comes to
      rw [hread] at h
      cases h
      simp only [run, hstart, Started.finish, hread, hnotice, World.report_empty, inputText]

/-- **The output of a run is what its command prints.** -/
theorem run_output (h : env.command? arguments = some (settings, command)) (input : String) :
    (env.run input arguments).1.output = printed (command.effects settings (inputText input)) := by
  rw [run_of_command h, World.perform_output, start_output, String.empty_append]

/-- The error stream of a run: what was said before the command, and what the command says. -/
theorem run_errors (h : env.command? arguments = some (settings, command)) (input : String) :
    (env.run input arguments).1.errors = (env.start arguments).1.errors ++
      said (env.start arguments).1.journal env.clock
        (command.effects settings (inputText input)) := by
  rw [run_of_command h, World.perform_errors]

end Run

end Environment

end ShellPipeline
