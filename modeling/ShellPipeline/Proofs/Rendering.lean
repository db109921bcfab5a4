import ShellPipeline.Proofs.Continuation
import ShellPipeline.Proofs.Echoes
import ShellPipeline.Proofs.Unquoting

/-!
# What a report tells of a subcommand

A subcommand is shown in five lines: a heading, the words that are run, the input, the output, and
the mode. The lines are joined by newlines and none of them has one inside, since a quoted list and
the word of a mode are printable and a filename is a word of its segment (`oneLine_of_mem_lines`).
So the text gives back its lines (`joinLines_inj`), and two subcommands read alike just where they
do so line by line (`render_eq_iff`).

The words are quoted, and a quoted list is read in one way. A filename is shown as it is, and where
there is none another text stands in its place, which might be a filename itself. For the input
nothing tells the two apart. For the output the mode does: there is one just where there is an
output.
-/

namespace ShellPipeline

open Text (AllPrintable OneLine newlines)

/-! ### Lines -/

/-- **Joined lines are read back.** -/
theorem joinLines_inj {lines lines' : List String} (hne : lines ≠ []) (hne' : lines' ≠ [])
    (h : ∀ l ∈ lines, newlines l = 0) (h' : ∀ l ∈ lines', newlines l = 0) :
    joinLines lines = joinLines lines' ↔ lines = lines' := by
  -- what is cut at the newlines are the lines that were joined
  have hcut : ∀ {ls : List String}, ls ≠ [] → (∀ l ∈ ls, newlines l = 0) →
      (joinLines ls).toList.splitOn '\n' = ls.map String.toList := by
    intro ls hls hzero
    have hpieces : ∀ piece ∈ ls.map String.toList, '\n' ∉ piece := by
      intro piece hpiece
      obtain ⟨l, hl, rfl⟩ := List.mem_map.mp hpiece
      exact Text.newlines_eq_zero_iff.mp (hzero l hl)
    have hnewline : "\n".toList = ['\n'] := rfl
    rw [joinLines, String.toList_intercalate, hnewline,
      List.splitOn_intercalate '\n' hpieces (by simpa using hls)]
  constructor
  · intro heq
    have hpieces := hcut hne h
    rw [heq, hcut hne' h'] at hpieces
    exact (List.map_injective_iff.mpr (fun _ _ => String.toList_injective) hpieces).symm
  · rintro rfl
    rfl

/-! ### The lines of a subcommand -/

section Lines

variable {segment segment' : String} {sub sub' : Subcommand}

/-- The file of a redirection is a word. -/
theorem isWord_of_mem_lastTarget {tokens : List Token} (h : tokenize segment = .ok tokens)
    {output : Bool} {f : String} (hf : f ∈ (lastTarget output tokens).map (·.2)) :
    Text.IsWord f.toList := by
  obtain ⟨x, hx, rfl⟩ := Option.map_eq_some_iff.mp hf
  obtain ⟨t, ht, hcontents⟩ := exists_filename_of_mem (mem_of_lastTarget hx).1
  rw [← hcontents]
  exact Text.isWord_of_mem_words (contents_mem_words h ht)

/-- The files of an accepted segment are words. -/
theorem isWord_of_mem_files (h : parseSubcommand segment = .ok sub) :
    (∀ f ∈ sub.input, Text.IsWord f.toList) ∧ ∀ f ∈ sub.output, Text.IsWord f.toList := by
  obtain ⟨tokens, htokens, -, rfl⟩ := parseSubcommand_eq_ok h
  exact ⟨fun f hf => isWord_of_mem_lastTarget htokens hf,
    fun f hf => isWord_of_mem_lastTarget htokens hf⟩

/-- A line with a filename, or with what stands for a missing one, is one line. -/
theorem oneLine_fileLine {head missing : String} {file : Option String} (hhead : OneLine head)
    (hmissing : OneLine missing) (h : ∀ f ∈ file, Text.IsWord f.toList) :
    OneLine (head ++ file.getD missing) := by
  refine hhead.append ?_
  cases file with
  | none => exact hmissing
  | some f => exact (h f rfl).oneLine

theorem Subcommand.lines_ne_nil (sub : Subcommand) (index : Option Int) : sub.lines index ≠ [] :=
  List.cons_ne_nil _ _

/-- **The lines on a subcommand are lines** for every reader. -/
theorem oneLine_of_mem_lines (h : parseSubcommand segment = .ok sub) (index : Option Int) :
    ∀ l ∈ sub.lines index, OneLine l := by
  obtain ⟨hinput, houtput⟩ := isWord_of_mem_files h
  have hin := oneLine_fileLine (show OneLine "  input:  " by decide)
    (show OneLine "<stdin>" by decide) hinput
  have hout := oneLine_fileLine (show OneLine "  output: " by decide)
    (show OneLine "<stdout>" by decide) houtput
  simp only [Subcommand.lines, List.forall_mem_cons]
  refine ⟨?_, (allPrintable_argvLine sub).oneLine, hin, hout, (allPrintable_modeLine sub).oneLine,
    fun l hl => absurd hl List.not_mem_nil⟩
  cases index with
  | none => decide
  | some n => exact (allPrintable_heading (by decide) n).oneLine

theorem newlines_of_mem_lines (h : parseSubcommand segment = .ok sub) (index : Option Int) :
    ∀ l ∈ sub.lines index, newlines l = 0 :=
  fun l hl => (oneLine_of_mem_lines h index l hl).newlines

theorem OutputMode.word_injective : Function.Injective OutputMode.word := by
  intro m n h
  have hread := congrArg OutputMode.ofWord? h
  rw [OutputMode.ofWord?_word, OutputMode.ofWord?_word] at hread
  exact Option.some.inj hread

/-- **Two subcommands read alike** just where each of their parts does. -/
theorem render_eq_iff (h : parseSubcommand segment = .ok sub)
    (h' : parseSubcommand segment' = .ok sub') (index : Option Int) :
    sub.render index = sub'.render index ↔ sub.argv = sub'.argv ∧
      sub.input.getD "<stdin>" = sub'.input.getD "<stdin>" ∧
      sub.output.getD "<stdout>" = sub'.output.getD "<stdout>" ∧ sub.mode = sub'.mode := by
  rw [Subcommand.render, Subcommand.render,
    joinLines_inj (sub.lines_ne_nil index) (sub'.lines_ne_nil index)
      (newlines_of_mem_lines h index) (newlines_of_mem_lines h' index)]
  simp only [Subcommand.lines, List.cons.injEq, String.append_right_inj, true_and, and_true,
    quoteList_injective.eq_iff, OutputMode.word_injective.eq_iff]

end Lines

/-! ### What stands for a missing part -/

/-- Two values with the same text in place of a missing one. -/
theorem getD_eq_getD_iff {α : Type} {a b : Option α} {missing : α} :
    a.getD missing = b.getD missing ↔
      a = b ∨ (a = none ∧ b = some missing) ∨ (a = some missing ∧ b = none) := by
  cases a <;> cases b <;> simp [eq_comm]

section Parts

variable {segment segment' : String} {sub sub' : Subcommand}

/-- The vector of an accepted segment is its words, and the mark that closes it. -/
theorem execArgs_eq_of_parseSubcommand (h : parseSubcommand segment = .ok sub) :
    sub.execArgs = sub.argv.map some ++ [none] := by
  obtain ⟨tokens, -, -, rfl⟩ := parseSubcommand_eq_ok h
  rw [Subcommand.argv_mk]

theorem execArgs_eq_iff (h : parseSubcommand segment = .ok sub)
    (h' : parseSubcommand segment' = .ok sub') :
    sub.execArgs = sub'.execArgs ↔ sub.argv = sub'.argv := by
  constructor
  · intro heq
    rw [Subcommand.argv, Subcommand.argv, heq]
  · intro heq
    rw [execArgs_eq_of_parseSubcommand h, execArgs_eq_of_parseSubcommand h', heq]

theorem mode_eq_none_iff (h : parseSubcommand segment = .ok sub) :
    sub.mode = .none ↔ sub.output = none := by
  obtain ⟨tokens, -, -, rfl⟩ := parseSubcommand_eq_ok h
  exact outputTarget_mode_eq_none_iff

/-- **With its mode an output is told from none.** -/
theorem output_eq_of_getD_eq (h : parseSubcommand segment = .ok sub)
    (h' : parseSubcommand segment' = .ok sub') (hmode : sub.mode = sub'.mode)
    (hshown : sub.output.getD "<stdout>" = sub'.output.getD "<stdout>") :
    sub.output = sub'.output := by
  have hnone : sub.output = none ↔ sub'.output = none := by
    rw [← mode_eq_none_iff h, ← mode_eq_none_iff h', hmode]
  rcases getD_eq_getD_iff.mp hshown with heq | ⟨hleft, hright⟩ | ⟨hleft, hright⟩
  · exact heq
  · rw [hleft, hnone.mp hleft]
  · rw [hright, hnone.mpr hright]

/-- **A report tells two subcommands apart**, up to one thing. Where two segments are accepted, and
both subcommands are shown with the same number or both without one, the texts are the same just
where the vectors, the outputs and the modes are, and where the inputs are the same, or one is
missing and the other one is the file with the name that stands for a missing input. A file with the
name that stands for a missing output is not taken for one that is missing. -/
theorem report_tells_subcommands_apart (h : parseSubcommand segment = .ok sub)
    (h' : parseSubcommand segment' = .ok sub') (index : Option Int) :
    (sub.render index = sub'.render index ↔
      sub.execArgs = sub'.execArgs ∧ sub.output = sub'.output ∧ sub.mode = sub'.mode ∧
        (sub.input = sub'.input ∨ (sub.input = none ∧ sub'.input = some "<stdin>") ∨
          (sub.input = some "<stdin>" ∧ sub'.input = none))) ∧
    (sub.output = some "<stdout>" → sub'.output = none →
      sub.render index ≠ sub'.render index) := by
  have hparts : sub.render index = sub'.render index ↔
      sub.execArgs = sub'.execArgs ∧ sub.output = sub'.output ∧ sub.mode = sub'.mode ∧
        (sub.input = sub'.input ∨ (sub.input = none ∧ sub'.input = some "<stdin>") ∨
          (sub.input = some "<stdin>" ∧ sub'.input = none)) := by
    rw [render_eq_iff h h', execArgs_eq_iff h h', ← getD_eq_getD_iff]
    constructor
    · rintro ⟨hargv, hinput, houtput, hmode⟩
      exact ⟨hargv, output_eq_of_getD_eq h h' hmode houtput, hmode, hinput⟩
    · rintro ⟨hargv, houtput, hmode, hinput⟩
      exact ⟨hargv, hinput, congrArg (·.getD "<stdout>") houtput, hmode⟩
  refine ⟨hparts, fun hsome hnone heq => ?_⟩
  have houtput := (hparts.mp heq).2.1
  rw [hsome, hnone] at houtput
  cases houtput

/-- A missing input reads like a file of that name, a missing output does not. -/
theorem report_tells_subcommands_apart_placeholders :
    let plain : Subcommand := ⟨[some "cat", none], none, none, .none⟩
    let input : Subcommand := ⟨[some "cat", none], some "<stdin>", none, .none⟩
    let output : Subcommand := ⟨[some "cat", none], none, some "<stdout>", .truncate⟩
    (parseSubcommand "cat" = .ok plain ∧ parseSubcommand "cat < <stdin>" = .ok input ∧
      parseSubcommand "cat > <stdout>" = .ok output) ∧
      plain.render (some 1) = input.render (some 1) ∧
      output.render none ≠ plain.render none := by
  intro plain input output
  have hplain : parseSubcommand "cat" = .ok plain := by decide +kernel
  have hinput : parseSubcommand "cat < <stdin>" = .ok input := by decide +kernel
  have houtput : parseSubcommand "cat > <stdout>" = .ok output := by decide +kernel
  exact ⟨⟨hplain, hinput, houtput⟩,
    (report_tells_subcommands_apart hplain hinput (some 1)).1.mpr
      ⟨rfl, rfl, rfl, .inr (.inl ⟨rfl, rfl⟩)⟩,
    (report_tells_subcommands_apart houtput hplain none).2 rfl rfl⟩

end Parts

end ShellPipeline
