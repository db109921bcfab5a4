import ShellPipeline.Proofs.Explanation
import ShellPipeline.Proofs.LastRedirection
import ShellPipeline.Proofs.Outcomes
import ShellPipeline.Proofs.Spacing

/-!
# Segments that are continued

Behind a run of blanks a segment can go on with another one, and then it has the words of both. What
matters at the joint is whether an operator waits there. None does behind an accepted segment, so
the second one is read as it would be alone (`classify_append_of_ok`); and a meeting of two
operators is found before the joint is reached (`classify_append_of_expected`).

The tokens of both are a row behind a row. Its plain words are those of the first and then those of
the second, and of either direction the second has the last say, if it says anything
(`inputTarget_append`, `outputTarget_append`). So a segment that holds redirections only, and would
be rejected alone, is of use beside a command.
-/

namespace ShellPipeline

/-! ### Words behind words -/

section Words

variable {waiting : Option Redirect} {first : List String}

/-- **Behind accepted words nothing waits**, and what follows is read as it would be alone. -/
theorem classify_append_of_ok {tokens : List Token} (h : classify waiting first = .ok tokens)
    (second : List String) :
    classify waiting (first ++ second) = (classify none second).map (tokens ++ ·) := by
  induction first generalizing waiting tokens with
  | nil =>
    cases waiting with
    | some operator => cases h -- an operator that waits in the end is a fault
    | none =>
      obtain rfl := Except.ok.inj h
      rw [List.nil_append]
      cases classify none second <;> rfl
  | cons word rest ih =>
    cases hw : waiting <;> cases hword : Redirect.ofSymbol? word <;>
      simp only [classify, hw, hword, List.cons_append, reduceCtorEq] at h ⊢
    -- three cases are left, and in each the word has one token in front of those of the rest
    all_goals
      obtain ⟨more, hmore, rfl⟩ := map_eq_ok_iff.mp h
      rw [ih hmore]
      cases classify none second <;> rfl

/-- **A meeting of two operators stays the fault**, whatever follows. -/
theorem classify_append_of_expected {operator : Redirect} {found : String}
    (h : classify waiting first = .error (.filenameExpected operator found))
    (second : List String) :
    classify waiting (first ++ second) = .error (.filenameExpected operator found) := by
  induction first generalizing waiting with
  | nil => cases waiting <;> cases h -- the end of a segment is no meeting
  | cons word rest ih =>
    cases hw : waiting <;> cases hword : Redirect.ofSymbol? word <;>
      simp only [classify, hw, hword, List.cons_append] at h ⊢
    · exact map_eq_error_iff.mpr (ih (map_eq_error_iff.mp h))
    · exact map_eq_error_iff.mpr (ih (map_eq_error_iff.mp h))
    · exact map_eq_error_iff.mpr (ih (map_eq_error_iff.mp h))
    · exact h

end Words

/-- A segment behind another one and a run of blanks adds its words. -/
theorem words_append_run (a b : String) {run : String} (hblank : Text.AllBlank run.toList)
    (hne : run ≠ "") : Text.words (a ++ run ++ b) = Text.words a ++ Text.words b := by
  have hchars : run.toList ≠ [] := fun h => hne (String.toList_eq_nil_iff.mp h)
  rw [Text.words, String.toList_append, String.toList_append,
    Text.wordChars_append_run hblank hchars, List.map_append]
  rfl

/-! ### Rows behind rows -/

section Rows

variable {first second : List Token}

theorem paired_of_tokenize {segment : String} {tokens : List Token}
    (h : tokenize segment = .ok tokens) : Paired tokens :=
  paired_of_gather (gather_of_tokenize h)

/-- **The outcome of a segment that has tokens** is decided by its plain words, its last input, and
its last output with the mode of the operator that names it. -/
theorem parseSubcommand_of_tokenize {segment : String} {tokens : List Token}
    (h : tokenize segment = .ok tokens) :
    parseSubcommand segment = Draft.finish ⟨plainWords tokens, inputTarget tokens,
      (outputTarget tokens).1, (outputTarget tokens).2⟩ := by
  rw [parseSubcommand, h]
  exact assemble_of_gather_ok (gather_of_paired_targets (paired_of_tokenize h))

/-- What an accepted segment asks for. -/
theorem parseSubcommand_eq_ok {segment : String} {sub : Subcommand}
    (h : parseSubcommand segment = .ok sub) :
    ∃ tokens, tokenize segment = .ok tokens ∧ plainWords tokens ≠ [] ∧
      sub = ⟨(plainWords tokens).map some ++ [none], inputTarget tokens,
        (outputTarget tokens).1, (outputTarget tokens).2⟩ := by
  obtain ⟨tokens, htokens, -⟩ := parseSubcommand_eq_ok_iff.mp h
  rw [parseSubcommand_of_tokenize htokens] at h
  exact ⟨tokens, htokens, Draft.finish_eq_ok h⟩

theorem Paired.append (h : Paired first) (h' : Paired second) : Paired (first ++ second) := by
  induction h with
  | nil => exact h'
  | word kind _ ih => exact .word kind ih
  | redirection operator filename _ ih => exact .redirection operator filename ih

/-- **The second row names the input**, unless it has no input redirection. -/
theorem inputTarget_append (h : Paired first) (h' : Paired second) :
    inputTarget (first ++ second) =
      if ∃ s ∈ second, s.kind = .redirect .input then inputTarget second
      else inputTarget first := by
  rw [inputTarget, lastTarget_append_of_paired false h]
  split
  · next hsome =>
    obtain ⟨s, hs, hkind⟩ := hsome
    obtain ⟨x, hx⟩ : ∃ x, lastTarget false second = some x := exists_lastTarget h' hs hkind rfl
    rw [inputTarget, hx]
    rfl
  · next hnone =>
    rw [lastTarget_eq_none fun s hs operator hkind hinput =>
      hnone ⟨s, hs, exists_input_iff.mp ⟨operator, hkind, hinput⟩⟩]
    rfl

/-- **The second row names the output and its mode**, unless it has no output redirection. -/
theorem outputTarget_append (h : Paired first) (h' : Paired second) :
    outputTarget (first ++ second) =
      if ∃ s ∈ second, s.kind = .redirect .append ∨ s.kind = .redirect .truncate then
        outputTarget second
      else outputTarget first := by
  rw [outputTarget, lastTarget_append_of_paired true h]
  split
  · next hsome =>
    obtain ⟨s, hs, hkind⟩ := hsome
    obtain ⟨operator, hkind, houtput⟩ := exists_output_iff.mpr hkind
    obtain ⟨x, hx⟩ := exists_lastTarget h' hs hkind houtput
    rw [outputTarget, hx]
    rfl
  · next hnone =>
    rw [lastTarget_eq_none fun s hs operator hkind houtput =>
      hnone ⟨s, hs, exists_output_iff.mp ⟨operator, hkind, houtput⟩⟩]
    rfl

end Rows

/-! ### The continued segment -/

/-- **A segment continued behind blanks.** Where the first segment is accepted, the second one is
read behind it as it would be alone, tokens and faults alike. Where operators meet in the first
segment, that stays the fault whatever the second one is. Where both have tokens and either has a
plain word, the two are a subcommand, even if one of them alone lacks a command: its words are those
of the first and then those of the second, and its input, and its output together with the mode,
each come from the second where that has a redirection of the direction, and from the first
otherwise. -/
theorem continued_segment_merges (a b : String) {run : String}
    (hblank : Text.AllBlank run.toList) (hne : run ≠ "") :
    (∀ first, tokenize a = .ok first →
      (∀ second, tokenize b = .ok second → tokenize (a ++ run ++ b) = .ok (first ++ second)) ∧
      ∀ fault, tokenize b = .error fault → tokenize (a ++ run ++ b) = .error fault) ∧
    (∀ operator found, tokenize a = .error (.filenameExpected operator found) →
      tokenize (a ++ run ++ b) = .error (.filenameExpected operator found)) ∧
    ∀ first second, tokenize a = .ok first → tokenize b = .ok second →
      (∃ t ∈ first ++ second, t.kind = .normal) →
      ∃ sub, parseSubcommand (a ++ run ++ b) = .ok sub ∧
        sub.argv = plainWords first ++ plainWords second ∧
        sub.input = (if ∃ s ∈ second, s.kind = .redirect .input then inputTarget second
          else inputTarget first) ∧
        (sub.output, sub.mode) =
          if ∃ s ∈ second, s.kind = .redirect .append ∨ s.kind = .redirect .truncate then
            outputTarget second
          else outputTarget first := by
  have hwords := words_append_run a b hblank hne
  -- the one equation behind the first and the third part
  have haccepted : ∀ first, tokenize a = .ok first →
      tokenize (a ++ run ++ b) = (tokenize b).map (first ++ ·) := by
    intro first hfirst
    rw [tokenize, hwords]
    exact classify_append_of_ok hfirst _
  refine ⟨fun first hfirst => ⟨fun second hsecond => ?_, fun fault hfault => ?_⟩,
    fun operator found hfault => ?_, fun first second hfirst hsecond hword => ?_⟩
  · rw [haccepted first hfirst, hsecond]
    rfl
  · rw [haccepted first hfirst, hfault]
    rfl
  · rw [tokenize, hwords]
    exact classify_append_of_expected hfault _
  · have htokens : tokenize (a ++ run ++ b) = .ok (first ++ second) := by
      rw [haccepted first hfirst, hsecond]
      rfl
    have hrow := paired_of_tokenize hfirst
    have hrow' := paired_of_tokenize hsecond
    refine ⟨_, parseSubcommand_eq_ok_iff.mpr
      ⟨_, htokens, assemble_of_paired (hrow.append hrow') hword⟩, ?_, ?_, ?_⟩
    · simp [Subcommand.argv]
    · exact inputTarget_append hrow hrow'
    · exact outputTarget_append hrow hrow'

/-- A command that is continued by redirections alone, by a segment that is rejected, and one that
is rejected before the joint. -/
theorem continued_segment_merges_redirections :
    (∃ sub, parseSubcommand "< a sort > b\t\u3000>> c" = .ok sub ∧ sub.argv = ["sort"] ∧
        sub.input = some "a" ∧ (sub.output, sub.mode) = (some "c", .append)) ∧
      tokenize "sort\t\u3000> <" = .error (.filenameExpected .truncate "<") ∧
      tokenize "> <\t\u3000sort" = .error (.filenameExpected .truncate "<") := by
  have hblank : Text.AllBlank "\t\u3000".toList := by decide +kernel
  have hne : "\t\u3000" ≠ "" := by decide +kernel
  have hcommand : tokenize "< a sort > b" = .ok [⟨"<", .redirect .input⟩, ⟨"a", .filename⟩,
      ⟨"sort", .normal⟩, ⟨">", .redirect .truncate⟩, ⟨"b", .filename⟩] := by decide +kernel
  have hmore : tokenize ">> c" = .ok [⟨">>", .redirect .append⟩, ⟨"c", .filename⟩] := by
    decide +kernel
  have hsort : tokenize "sort" = .ok [⟨"sort", .normal⟩] := by decide +kernel
  have hmeet : tokenize "> <" = .error (.filenameExpected .truncate "<") := by decide +kernel
  refine ⟨?_, ?_, ?_⟩
  · obtain ⟨sub, hsub, hargv, hinput, houtput⟩ :=
      (continued_segment_merges "< a sort > b" ">> c" hblank hne).2.2 _ _ hcommand hmore (by decide)
    refine ⟨sub, hsub, hargv.trans (by decide +kernel), hinput.trans (by decide +kernel),
      houtput.trans (by decide +kernel)⟩
  · exact ((continued_segment_merges "sort" "> <" hblank hne).1 _ hsort).2 _ hmeet
  · exact (continued_segment_merges "> <" "sort" hblank hne).2.1 _ _ hmeet

end ShellPipeline
