import ShellPipeline.Proofs.Continuation

/-!
# Tokens that are spelt again

The tokens of a segment hold its words, and words with a space between them are read back as they
are. So a segment whose words are spelt again, with single spaces, is tokenized as before
(`tokenize_respelt`). Of its words the plain ones may also be spelt alone. A word changes its part
only with the operator before it, and among plain words there is none: each of them stays a plain
word whatever stood between them (`tokenize_of_no_operator`), and together they are the same command
without its redirections (`parseSubcommand_of_no_operator`).
-/

namespace ShellPipeline

/-- **Words that are spelt again are tokenized as they were**, whether they are accepted or not. -/
theorem tokenize_respelt (segment : String) :
    tokenize (" ".intercalate (Text.words segment)) = tokenize segment := by
  rw [tokenize, Text.words_intercalate fun w hw => Text.isWord_of_mem_words hw, tokenize]

section PlainWords

variable {words : List String}

/-- **Words without an operator among them are plain words**, all of them. -/
theorem tokenize_of_no_operator (hword : ∀ w ∈ words, Text.IsWord w.toList)
    (hplain : ∀ w ∈ words, ¬ IsOperator w) :
    tokenize (" ".intercalate words) = .ok (words.map (Token.mk · .normal)) := by
  have hsound : ∀ piece ∈ words.map Piece.word, piece.Sound := by
    intro piece hpiece
    obtain ⟨w, hw, rfl⟩ := List.mem_map.mp hpiece
    exact hplain w hw
  have hread := tokenize_pieces hsound
  rw [flatMap_words_word, flatMap_tokens_word] at hread
  exact hread hword

/-- Words without an operator among them are a command without a redirection. -/
theorem parseSubcommand_of_no_operator (hne : words ≠ [])
    (hword : ∀ w ∈ words, Text.IsWord w.toList) (hplain : ∀ w ∈ words, ¬ IsOperator w) :
    parseSubcommand (" ".intercalate words) =
      .ok ⟨words.map some ++ [none], none, none, .none⟩ := by
  have htokens := tokenize_of_no_operator hword hplain
  rw [← flatMap_tokens_word] at htokens
  rw [parseSubcommand_of_pieces htokens, foldl_take_word]
  exact Draft.finish_of_words hne

/-- The plain words of a segment are words, and none of them is an operator. -/
theorem plain_of_mem_plainWords {segment : String} {tokens : List Token}
    (h : tokenize segment = .ok tokens) {w : String} (hw : w ∈ plainWords tokens) :
    Text.IsWord w.toList ∧ ¬ IsOperator w := by
  obtain ⟨t, ht, rfl⟩ := List.mem_map.mp hw
  obtain ⟨ht, hkind⟩ := List.mem_filter.mp ht
  have hnormal : t.kind = .normal := by simpa using hkind
  have hmem := contents_mem_words h ht
  obtain ⟨-, -, rfl⟩ := tokenize_eq_ok h
  exact ⟨Text.isWord_of_mem_words hmem, not_isOperator_of_mem_placed ht (by rw [hnormal]; rfl)⟩

end PlainWords

/-- **Tokens survive being spelt again.** Where a segment has tokens, their contents with a space
between each two have the same tokens, contents and kinds alike, and its plain words alone, with a
space between each two, are read as those words in that order, all of them plain. So where a segment
asks for a subcommand, the words that this one runs, spelt alone, ask for the same vector without an
input and without an output, and to spell the words of the outcome once more changes nothing. -/
theorem tokens_survive_respelling (segment : String) :
    (∀ tokens, tokenize segment = .ok tokens →
      tokenize (" ".intercalate (tokens.map (·.contents))) = .ok tokens ∧
      tokenize (" ".intercalate (plainWords tokens)) =
        .ok ((plainWords tokens).map (Token.mk · .normal))) ∧
    ∀ sub, parseSubcommand segment = .ok sub →
      ∃ bare, parseSubcommand (" ".intercalate sub.argv) = .ok bare ∧
        bare.execArgs = sub.execArgs ∧ bare.input = none ∧ bare.output = none ∧
        bare.mode = .none ∧ parseSubcommand (" ".intercalate bare.argv) = .ok bare := by
  refine ⟨fun tokens htokens => ⟨?_, ?_⟩, fun sub hsub => ?_⟩
  · rw [contents_of_tokenize htokens, tokenize_respelt, htokens]
  · exact tokenize_of_no_operator (fun w hw => (plain_of_mem_plainWords htokens hw).1)
      fun w hw => (plain_of_mem_plainWords htokens hw).2
  · obtain ⟨tokens, htokens, hne, rfl⟩ := parseSubcommand_eq_ok hsub
    have hbare := parseSubcommand_of_no_operator hne
      (fun w hw => (plain_of_mem_plainWords htokens hw).1)
      fun w hw => (plain_of_mem_plainWords htokens hw).2
    rw [Subcommand.argv_mk]
    refine ⟨_, hbare, rfl, rfl, rfl, rfl, ?_⟩
    -- the outcome runs the same words, so it is spelt as they are
    rw [Subcommand.argv_mk, hbare]

/-- A segment whose plain words stand between redirections, spaced by other blanks. -/
theorem tokens_survive_respelling_interleaved :
    let tokens : List Token := [⟨">", .redirect .truncate⟩, ⟨"sort", .filename⟩,
      ⟨"sort", .normal⟩, ⟨"<", .redirect .input⟩, ⟨"in", .filename⟩, ⟨"-r", .normal⟩]
    tokenize "> sort\tsort <\u3000in -r" = .ok tokens ∧
      tokenize "> sort sort < in -r" = .ok tokens ∧
      tokenize "sort -r" = .ok [⟨"sort", .normal⟩, ⟨"-r", .normal⟩] ∧
      ∃ bare, parseSubcommand "sort -r" = .ok bare ∧
        bare.execArgs = [some "sort", some "-r", none] ∧ bare.output = none := by
  intro tokens
  have htokens : tokenize "> sort\tsort <\u3000in -r" = .ok tokens := by decide +kernel
  have hsub : parseSubcommand "> sort\tsort <\u3000in -r" =
      .ok ⟨[some "sort", some "-r", none], some "in", some "sort", .truncate⟩ := by decide +kernel
  have hspelt : " ".intercalate (tokens.map (·.contents)) = "> sort sort < in -r" := by
    decide +kernel
  have hplain : " ".intercalate (plainWords tokens) = "sort -r" := by decide +kernel
  obtain ⟨hstable, hcommand⟩ := tokens_survive_respelling "> sort\tsort <\u3000in -r"
  obtain ⟨hsame, hwords⟩ := hstable tokens htokens
  obtain ⟨bare, hbare, hargs, -, houtput, -, -⟩ := hcommand _ hsub
  rw [hspelt] at hsame
  rw [hplain] at hwords
  exact ⟨htokens, hsame, hwords, bare, hbare, hargs, houtput⟩

end ShellPipeline
