import ShellPipeline.Proofs.Cutoff
import ShellPipeline.Proofs.Lines
import ShellPipeline.Proofs.Streams

/-!
# The dialogue as a fold

The dialogue keeps nothing from one line to the next. What it does at a line is the `utterance` of
that line: the prompt, and behind it the line parsed and shown, unless the line is blank or says to
leave (`Leaves`). So the dialogue is the utterances of the lines in order, up to and with the first
line that says to leave; where there is no such line, the `farewell` comes behind all of them
(`dialogue_eq`).

Everything else about the dialogue is read off this equation. What stands behind a line that says to
leave is not read (`dialogue_append_of_leaves`), and a first part without such a line is answered as
if nothing followed, the farewell aside (`dialogue_append`). Cutting a text into lines respects a
cut behind a newline, so the same holds of texts.

* `turn_eq_leave_iff`, `turn_eq_pass_iff` — what the two kinds of lines look like;
* `dialogue_cons` — the dialogue at one line;
* `dialogue_eq` — the dialogue over all lines;
* `runDialogue_append_of_leaves`, `runDialogue_append` — two texts, one behind the other;
* `dialogue_is_fold_of_lines` — all of it, and what a run of the program makes of it.
-/

namespace ShellPipeline

open Text (AllBlank Closed)

/-! ### Lines that say to leave -/

/-- **A line that says to leave**: one of the two words, with blanks around it or without. -/
def Leaves (line : String) : Prop :=
  ∃ word ∈ leavingWords, ∃ before after, AllBlank before ∧ AllBlank after ∧
    line.toList = before ++ word.toList ++ after

theorem isWord_of_mem_leavingWords {word : String} (h : word ∈ leavingWords) :
    Text.IsWord word.toList := by
  have hall : ∀ word ∈ leavingWords, Text.IsWord word.toList := by decide +kernel
  exact hall word h

theorem turn_eq_pass_iff {line : String} : turn line = .pass ↔ AllBlank line.toList := by
  rw [← Text.trim_eq_empty_iff]
  unfold turn
  dsimp only
  split
  · simp_all
  · split <;> simp_all

theorem turn_eq_leave_iff {line : String} : turn line = .leave ↔ Leaves line := by
  have hmem : Leaves line ↔ Text.trim line ∈ leavingWords := by
    constructor
    · rintro ⟨word, hword, hspaced⟩
      rwa [(Text.trim_eq_iff (isWord_of_mem_leavingWords hword)).mpr hspaced]
    · intro h
      exact ⟨_, h, (Text.trim_eq_iff (isWord_of_mem_leavingWords h)).mp rfl⟩
  rw [hmem]
  unfold turn
  dsimp only
  by_cases hempty : (Text.trim line).isEmpty = true
  · -- a word is not empty, so the order of the two tests does not matter
    have hnot : Text.trim line ∉ leavingWords := by
      rw [String.isEmpty_iff.mp hempty]
      decide
    simp [hempty, hnot]
  · by_cases h : Text.trim line ∈ leavingWords <;> simp [hempty, h]

instance (line : String) : Decidable (Leaves line) := decidable_of_iff _ turn_eq_leave_iff

/-! ### One line -/

/-- **What the dialogue does at a line.** -/
def utterance (settings : Settings) (line : String) : List Effect :=
  .echoPrompt settings.prompt ::
    if AllBlank line.toList ∨ Leaves line then []
    else runLine settings.strict settings.showTokens line

/-- What the dialogue does at the end of the input. -/
def farewell (settings : Settings) : List Effect := [.echoPrompt settings.prompt, .echo ""]

section Dialogue

variable (settings : Settings)

theorem dialogue_nil : dialogue settings [] = farewell settings := rfl

/-- **The dialogue at one line** is the utterance of the line, and goes on unless it says to leave.
-/
theorem dialogue_cons (line : String) (rest : List String) :
    dialogue settings (line :: rest) =
      utterance settings line ++ if Leaves line then [] else dialogue settings rest := by
  -- one case for each thing that a line may ask for; they exclude each other
  cases h : turn line with
  | pass =>
    have hblank : AllBlank line.toList := turn_eq_pass_iff.mp h
    have hstays : ¬ Leaves line := fun hleaves => by
      rw [turn_eq_leave_iff.mpr hleaves] at h
      cases h
    simp [dialogue, reply, utterance, h, hblank, hstays]
  | leave =>
    have hleaves : Leaves line := turn_eq_leave_iff.mp h
    simp [dialogue, reply, utterance, h, hleaves]
  | answer =>
    have hblank : ¬ AllBlank line.toList := fun hblank => by
      rw [turn_eq_pass_iff.mpr hblank] at h
      cases h
    have hstays : ¬ Leaves line := fun hleaves => by
      rw [turn_eq_leave_iff.mpr hleaves] at h
      cases h
    simp [dialogue, reply, utterance, h, hblank, hstays]

/-! ### All lines -/

/-- **The dialogue over all lines**: their utterances, up to and with the first one that says to
leave, or with the farewell behind all of them. -/
theorem dialogue_eq (lines : List String) :
    dialogue settings lines =
      (takeThrough (fun line => decide (Leaves line)) lines).flatMap (utterance settings) ++
        if ∃ line ∈ lines, Leaves line then [] else farewell settings := by
  induction lines with
  | nil => simp [dialogue_nil, takeThrough]
  | cons line rest ih =>
    rw [dialogue_cons, ih, takeThrough]
    by_cases h : Leaves line
    · -- the dialogue ends with this line, and so does the list
      have hsome : ∃ l ∈ line :: rest, Leaves l := ⟨line, List.mem_cons_self, h⟩
      rw [if_pos h, if_pos (decide_eq_true h), if_pos hsome, List.flatMap_singleton]
    · -- a line that does not leave has no say in whether one does
      have hiff : (∃ l ∈ line :: rest, Leaves l) ↔ ∃ l ∈ rest, Leaves l := by
        simp [h]
      have htest : ¬ decide (Leaves line) = true := fun h' => h (of_decide_eq_true h')
      rw [if_neg h, if_neg htest, List.flatMap_cons, List.append_assoc]
      simp only [hiff]

/-- Lines of which none says to leave. -/
theorem dialogue_of_stays {lines : List String} (h : ∀ line ∈ lines, ¬ Leaves line) :
    dialogue settings lines = lines.flatMap (utterance settings) ++ farewell settings := by
  have hnone : ¬ ∃ line ∈ lines, Leaves line := fun ⟨line, hmem, hleaves⟩ => h line hmem hleaves
  rw [dialogue_eq, if_neg hnone, takeThrough_eq_self fun line hmem => decide_eq_false (h line hmem)]

/-- **Lines of which none says to leave are answered as if nothing followed.** -/
theorem dialogue_append {lines : List String} (h : ∀ line ∈ lines, ¬ Leaves line)
    (rest : List String) :
    dialogue settings (lines ++ rest) =
      lines.flatMap (utterance settings) ++ dialogue settings rest := by
  -- whether there is a farewell is decided behind the first part
  have hiff : (∃ line ∈ lines ++ rest, Leaves line) ↔ ∃ line ∈ rest, Leaves line := by
    constructor
    · rintro ⟨line, hmem, hleaves⟩
      rcases List.mem_append.mp hmem with hmem | hmem
      · exact absurd hleaves (h line hmem)
      · exact ⟨line, hmem, hleaves⟩
    · rintro ⟨line, hmem, hleaves⟩
      exact ⟨line, List.mem_append_right lines hmem, hleaves⟩
  rw [dialogue_eq, dialogue_eq,
    takeThrough_append_of_none fun line hmem => decide_eq_false (h line hmem),
    List.flatMap_append, List.append_assoc]
  simp only [hiff]

/-- **What stands behind a line that says to leave is not read.** -/
theorem dialogue_append_of_leaves {lines : List String} (h : ∃ line ∈ lines, Leaves line)
    (rest : List String) : dialogue settings (lines ++ rest) = dialogue settings lines := by
  obtain ⟨line, hmem, hleaves⟩ := h
  have htest : ∃ line ∈ lines, decide (Leaves line) = true :=
    ⟨line, hmem, decide_eq_true hleaves⟩
  have hsome : ∃ line ∈ lines ++ rest, Leaves line :=
    ⟨line, List.mem_append_left rest hmem, hleaves⟩
  rw [dialogue_eq, dialogue_eq, takeThrough_append_of_some htest, if_pos hsome,
    if_pos ⟨line, hmem, hleaves⟩]

/-! ### Texts -/

/-- A text without a line that says to leave, and another one behind it. -/
theorem runDialogue_append {first : String} (hclosed : Closed first)
    (h : ∀ line ∈ Text.lines first, ¬ Leaves line) (second : String) :
    runDialogue settings (first ++ second) =
      (Text.lines first).flatMap (utterance settings) ++ runDialogue settings second := by
  rw [runDialogue, Text.lines_append_of_closed hclosed, dialogue_append settings h,
    List.append_assoc, runDialogue]

/-- A text behind a line that says to leave. -/
theorem runDialogue_append_of_leaves {before line : String} (hclosed : Closed before)
    (hline : '\n' ∉ line.toList) (hleaves : Leaves line) (rest : String) :
    runDialogue settings (before ++ line ++ "\n" ++ rest) =
      runDialogue settings (before ++ line) := by
  -- the empty line does not leave, so this one counts without its newline, too
  have hne : line ≠ "" := by
    rintro rfl
    exact absurd hleaves (by decide +kernel)
  have hsome : ∃ l ∈ Text.lines before ++ [line], Leaves l :=
    ⟨line, List.mem_append_right _ List.mem_cons_self, hleaves⟩
  -- the lines up to this one are the same, and they hold one that says to leave
  have hwhole : Text.lines (before ++ line ++ "\n" ++ rest) =
      (Text.lines before ++ [line]) ++ Text.lines rest := by
    rw [String.append_assoc, String.append_assoc, Text.lines_append_of_closed hclosed,
      ← String.append_assoc, Text.lines_newline hline, List.append_assoc, List.singleton_append]
  rw [runDialogue, hwhole, dialogue_append_of_leaves settings hsome, runDialogue,
    Text.lines_append_of_closed hclosed, Text.lines_of_notMem hne hline]

end Dialogue

/-- The farewell is the prompt and a newline. -/
theorem printed_farewell (settings : Settings) :
    printed (farewell settings) = Text.stripSequences settings.prompt ++ "\n" := by
  have hnewline : Text.stripSequences "\n" = "\n" := by decide +kernel
  simp [farewell, printed, Effect.printed, Effect.echoPrompt, Effect.echo, hnewline]

/-! ### The law -/

/-- **The dialogue is a fold of its lines.** A text is cut at its newlines and nowhere else. The
lines are answered one by one, each by its own utterance, up to and with the first one that says to
leave; without such a line the prompt and a newline end the output. What stands behind a line that
says to leave has no influence. A text that is closed and has no such line is answered as if nothing
followed, the farewell aside, and what follows as if nothing stood before it. A run of the program
that comes to the dialogue puts just this on its streams and succeeds, whatever the lines are. -/
theorem dialogue_is_fold_of_lines [Limits] (settings : Settings) (text : String) :
    ((∀ line ∈ Text.lines text, '\n' ∉ line.toList) ∧
      Text.unlines (Text.lines text) = if Closed text then text else text ++ "\n") ∧
    runDialogue settings text =
      (takeThrough (fun line => decide (Leaves line)) (Text.lines text)).flatMap
          (utterance settings) ++
        (if ∃ line ∈ Text.lines text, Leaves line then [] else farewell settings) ++
        [.log dialogueRecord] ∧
    printed (farewell settings) = Text.stripSequences settings.prompt ++ "\n" ∧
    (∀ line rest, Closed text → '\n' ∉ line.toList → Leaves line →
      runDialogue settings (text ++ line ++ "\n" ++ rest) = runDialogue settings (text ++ line)) ∧
    (Closed text → (∀ line ∈ Text.lines text, ¬ Leaves line) → ∃ answers,
      runDialogue settings text = answers ++ farewell settings ++ [.log dialogueRecord] ∧
      ∀ rest, runDialogue settings (text ++ rest) = answers ++ runDialogue settings rest) ∧
    ∀ (env : Environment) (arguments : List String) (input : String),
      env.command? arguments = some (settings, .repl) → Environment.inputText input = text →
        (env.run input arguments).2.status = 0 ∧
        (env.run input arguments).1.output = printed (runDialogue settings text) ∧
        (env.run input arguments).1.errors = (env.start arguments).1.errors ++
          said (env.start arguments).1.journal env.clock (runDialogue settings text) := by
  refine ⟨⟨fun line => Text.notMem_of_mem_lines, Text.unlines_lines text⟩, ?fold,
    printed_farewell settings, fun line rest hclosed hline hleaves =>
      runDialogue_append_of_leaves settings hclosed hline hleaves rest, ?cut, ?run⟩
  case fold => rw [runDialogue, dialogue_eq]
  case cut =>
    intro hclosed hstays
    refine ⟨(Text.lines text).flatMap (utterance settings), ?_,
      runDialogue_append settings hclosed hstays⟩
    rw [runDialogue, dialogue_of_stays settings hstays]
  case run =>
    rintro env arguments input hcommand rfl
    refine ⟨?_, Environment.run_output hcommand input, Environment.run_errors hcommand input⟩
    -- the dialogue is a command that always succeeds
    rw [Environment.run_of_command hcommand]
    rfl

/-- A good line, a blank one and one that fails; then a padded word that ends the dialogue, and a
line behind it. -/
theorem dialogue_is_fold_of_lines_session :
    let env : Environment := ⟨⟨[]⟩, [], [], none, "12:00"⟩
    let settings : Settings := ⟨⟨.single, []⟩, ⟨.single, ["logs"]⟩, false, false, "$ ", "WARNING",
      false⟩
    runDialogue settings ("ls\n\t\n>\n" ++ " quit " ++ "\n" ++ "pwd") =
        runDialogue settings ("ls\n\t\n>\n" ++ " quit ") ∧
      (∀ rest, runDialogue settings ("ls\n\t\n>\n" ++ rest) =
        ["ls", "\t", ">"].flatMap (utterance settings) ++ runDialogue settings rest) ∧
      (env.run "ls\r\n\t\n>\r" ["repl"]).2.status = 0 := by
  intro env settings
  obtain ⟨-, -, -, hleave, hcut, hrun⟩ := dialogue_is_fold_of_lines settings "ls\n\t\n>\n"
  have hclosed : Closed "ls\n\t\n>\n" := by decide +kernel
  have hlines : Text.lines "ls\n\t\n>\n" = ["ls", "\t", ">"] := by decide +kernel
  have hstays : ∀ line ∈ Text.lines "ls\n\t\n>\n", ¬ Leaves line := by decide +kernel
  refine ⟨hleave " quit " "pwd" hclosed (by decide) (by decide +kernel), ?_, ?_⟩
  · obtain ⟨answers, hwhole, hrest⟩ := hcut hclosed hstays
    have hanswers : answers = ["ls", "\t", ">"].flatMap (utterance settings) := by
      rw [runDialogue, dialogue_of_stays settings hstays, hlines] at hwhole
      exact (List.append_cancel_right (List.append_cancel_right hwhole)).symm
    rw [← hanswers]
    exact hrest
  · exact (hrun env ["repl"] "ls\r\n\t\n>\r" (by decide +kernel) (by decide +kernel)).1

end ShellPipeline
