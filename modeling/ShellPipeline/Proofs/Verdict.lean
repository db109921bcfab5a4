import ShellPipeline.Proofs.LineReport
import ShellPipeline.Proofs.Streams

/-!
# The verdict on a line

The strict rule cuts the attempts of a parse off, so both lists of a strict result are first parts
of those of the other result (`segments_true_prefix_false`, `errors_true_prefix_false`). Each entry
of the lists is shown by itself: what is printed about an accepted segment, or reported about a
rejected one, does not depend on the entries around it. Hence a line that is shown under the strict
rule puts on either stream a first part of what it puts there without the rule.

Whether a run succeeds is a matter of the line alone. A parse is in order just where every segment
parses alone (`ok_parse_iff`), under either rule, and showing the tokens has no say in it. The rule
and the tokens may be chosen by an option or left to the settings; a run that comes to parsing the
line ends the same way for every choice (`Environment.run_parse`).

* `printed_prefix_of_strict`, `reported_prefix_of_strict` — the two streams;
* `parseOptions`, `read_parseOptions` — every choice can be spelled;
* `status_eq_one_iff`, `status_eq_zero_iff` — the exit status.
-/

namespace ShellPipeline

open Text (unlines)

/-! ### First parts -/

theorem unlines_prefix_unlines {a b : List String} (h : a <+: b) :
    (unlines a).toList <+: (unlines b).toList := by
  rw [Text.toList_unlines, Text.toList_unlines]
  exact h.flatMap _

section Prefix

variable (line : String)

theorem attempts_true_prefix_false (commandline : Commandline) :
    attempts true commandline <+: attempts false commandline :=
  attempts_prefix_attemptAll true commandline

theorem segments_true_prefix_false :
    (parse true line).segments <+: (parse false line).segments := by
  rw [segments_parse, segments_parse]
  exact (attempts_true_prefix_false (.ofLine line)).filterMap _

theorem errors_true_prefix_false : (parse true line).errors <+: (parse false line).errors := by
  rw [errors_parse, errors_parse]
  exact (attempts_true_prefix_false (.ofLine line)).filterMap _

/-- **The strict rule cuts the output off.** -/
theorem printed_prefix_of_strict :
    (printed (runLine true false line)).toList <+: (printed (runLine false false line)).toList := by
  have hplain : ∀ strict, printed (runLine strict false line) =
      unlines (Commandline.ofLine line).listing ++
        unlines ((parse strict line).segments.flatMap ParsedSegment.block) := by
    intro strict
    rw [printed_runLine, if_neg Bool.false_ne_true, String.append_empty]
  -- the listing is the same, and behind it stand the blocks of a first part of the segments
  rw [hplain, hplain, String.toList_append, String.toList_append, List.prefix_append_right_inj]
  exact unlines_prefix_unlines ((segments_true_prefix_false line).flatMap _)

/-- **The strict rule cuts the notices off.** -/
theorem reported_prefix_of_strict :
    (reported (runLine true false line)).toList <+:
      (reported (runLine false false line)).toList := by
  rw [reported_runLine, reported_runLine]
  exact unlines_prefix_unlines ((errors_true_prefix_false line).map _)

end Prefix

/-! ### Choices on the command line -/

/-- A choice as the option that spells it; none where it is left open. -/
def choiceOption (on off : String) : Option Bool → List String
  | none => []
  | some true => [on]
  | some false => [off]

/-- **The options for parsing a line**: the strict rule and the showing of tokens, each chosen or
left open. -/
def parseOptions (strict tokens : Option Bool) : List String :=
  choiceOption "--strict" "--no-strict" strict ++ choiceOption "--tokens" "--no-tokens" tokens

/-- **Every choice can be spelled**, whatever the line is: behind two dashes it is a word. -/
theorem read_parseOptions (strict tokens : Option Bool) (line : String) :
    Command.read .parse (parseOptions strict tokens ++ ["--", line]) =
      .ok (.parse line strict tokens) := by
  have hswitch : ∀ name ∈ ["--strict", "--no-strict", "--tokens", "--no-tokens"],
      ArgumentRole.ofArgument Command.parseForms name = .given (.switch name) := by
    decide +kernel
  simp only [List.forall_mem_cons] at hswitch
  obtain ⟨hstrict, hloose, htokens, hbare, -⟩ := hswitch
  have hdashes : ArgumentRole.ofArgument Command.parseForms "--" = .separator := by decide +kernel
  -- nine choices, each at most two switches in front of the dashes
  rcases strict with - | - | - <;> rcases tokens with - | - | - <;>
    simp [Command.read, Command.readParse, parseOptions, choiceOption, readArguments, hstrict,
      hloose, htokens, hbare, hdashes, Except.map, Reading.withOption, Reading.choice?, bind,
      Except.bind]

/-! ### The exit status -/

theorem ok_parse_iff (strict : Bool) {line : String} :
    (parse strict line).ok = true ↔ AllParse (Commandline.ofLine line).segments := by
  rw [ParseResult.ok, List.isEmpty_iff]
  exact errors_parse_eq_nil_iff

/-- A list of segments that do not all parse alone has one that is rejected. -/
theorem not_allParse_iff {segments : List String} :
    ¬ AllParse segments ↔ ∃ s ∈ segments, ∃ fault, parseSubcommand s = .error fault := by
  constructor
  · intro h
    rcases exists_first_failure segments with hall | ⟨good, bad, rest, fault, hfirst⟩
    · exact absurd hall h
    · refine ⟨bad, ?_, fault, hfirst.bad⟩
      rw [hfirst.cut]
      exact List.mem_append_right good List.mem_cons_self
  · rintro ⟨s, hs, fault, hfault⟩ hall
    obtain ⟨sub, hsub⟩ := hall s hs
    rw [hfault] at hsub
    cases hsub

section Run

variable [Limits] {env : Environment} {arguments : List String} {settings : Settings}
  {line : String} {strict tokens : Option Bool}

/-- **A run that comes to parsing a line** ends as the line decides, whoever chose the rule. -/
theorem Environment.run_parse
    (h : env.command? arguments = some (settings, .parse line strict tokens)) (input : String) :
    (env.run input arguments).2 =
      if (ShellPipeline.parse (strict.getD settings.strict) line).ok then .accepted
      else .rejected := by
  rw [Environment.run_of_command h]
  rfl

theorem status_eq_zero_iff
    (h : env.command? arguments = some (settings, .parse line strict tokens)) (input : String) :
    (env.run input arguments).2.status = 0 ↔ AllParse (Commandline.ofLine line).segments := by
  rw [Environment.run_parse h, ← ok_parse_iff (strict.getD settings.strict)]
  split
  · next hok => exact ⟨fun _ => hok, fun _ => rfl⟩
  · next hok => exact ⟨fun hstatus => absurd hstatus (by decide), fun h => absurd h hok⟩

theorem status_eq_one_iff
    (h : env.command? arguments = some (settings, .parse line strict tokens)) (input : String) :
    (env.run input arguments).2.status = 1 ↔
      ∃ s ∈ (Commandline.ofLine line).segments, ∃ fault, parseSubcommand s = .error fault := by
  rw [Environment.run_parse h, ← not_allParse_iff,
    ← ok_parse_iff (strict.getD settings.strict)]
  split
  · next hok => exact ⟨fun hstatus => absurd hstatus (by decide), fun hnot => absurd hok hnot⟩
  · next hok => exact ⟨fun _ => hok, fun _ => rfl⟩

end Run

/-- **The strict rule truncates what is shown of a line and leaves the verdict alone.** Without the
tokens, what a line puts on either stream under the strict rule is a first part of what it puts
there without the rule, records aside. The rule and the tokens can each be chosen by an option or be
left to the settings, in any combination, for any line. Every run that comes to parsing the line, in
any environment and under any settings, exits with one where some segment of the line does not parse
alone, and with zero where all of them do; the choices have no influence. -/
theorem strict_truncates_and_keeps_verdict [Limits] (line : String) :
    (printed (runLine true false line)).toList <+:
      (printed (runLine false false line)).toList ∧
    (reported (runLine true false line)).toList <+:
      (reported (runLine false false line)).toList ∧
    (∀ strict tokens : Option Bool,
      Command.read .parse (parseOptions strict tokens ++ ["--", line]) =
        .ok (.parse line strict tokens)) ∧
    ∀ (env : Environment) (input : String) (arguments : List String) (settings : Settings)
      (strict tokens : Option Bool),
      env.command? arguments = some (settings, .parse line strict tokens) →
        ((env.run input arguments).2.status = 1 ↔
          ∃ s ∈ (Commandline.ofLine line).segments, ∃ fault, parseSubcommand s = .error fault) ∧
        ((env.run input arguments).2.status = 0 ↔
          ∀ s ∈ (Commandline.ofLine line).segments, ∃ sub, parseSubcommand s = .ok sub) := by
  refine ⟨printed_prefix_of_strict line, reported_prefix_of_strict line,
    fun strict tokens => read_parseOptions strict tokens line,
    fun env input arguments settings strict tokens h => ⟨?_, ?_⟩⟩
  · exact status_eq_one_iff h input
  · exact status_eq_zero_iff h input

/-- A configuration that asks for the strict rule, followed once and overruled once, on a line with
a bad segment between two good ones. -/
theorem strict_truncates_and_keeps_verdict_configured :
    let env : Environment :=
      ⟨⟨[(["pipeparse.toml"], .file "[parser]\nstrict = true\n".toUTF8)]⟩, [], [], none, "12:00"⟩
    let settings : Settings := ⟨⟨.single, []⟩, ⟨.single, ["logs"]⟩, true, false, "$ ", "WARNING",
      false⟩
    (env.command? ["parse", "ls||wc"] = some (settings, .parse "ls||wc" none none) ∧
        (env.run "" ["parse", "ls||wc"]).2.status = 1) ∧
      env.command? ["parse", "--no-strict", "--tokens", "ls||wc"] =
          some (settings, .parse "ls||wc" (some false) (some true)) ∧
        (env.run "" ["parse", "--no-strict", "--tokens", "ls||wc"]).2.status = 1 := by
  intro env settings
  have hbad : ∃ s ∈ (Commandline.ofLine "ls||wc").segments, ∃ fault,
      parseSubcommand s = .error fault :=
    ⟨"", by decide +kernel, .commandMissing, by decide +kernel⟩
  have hleft : env.command? ["parse", "ls||wc"] = some (settings, .parse "ls||wc" none none) := by
    decide +kernel
  have hchosen : env.command? ["parse", "--no-strict", "--tokens", "ls||wc"] =
      some (settings, .parse "ls||wc" (some false) (some true)) := by decide +kernel
  obtain ⟨-, -, -, hverdict⟩ := strict_truncates_and_keeps_verdict "ls||wc"
  exact ⟨⟨hleft, (hverdict env "" _ settings none none hleft).1.mpr hbad⟩, hchosen,
    (hverdict env "" _ settings _ _ hchosen).1.mpr hbad⟩

end ShellPipeline
