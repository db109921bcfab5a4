import ShellPipeline.Proofs.Echoes
import ShellPipeline.Proofs.Spacing

/-!
# What stands under a heading

The tokens of a line are shown segment by segment, each segment under a heading with its number.
What stands there is found out from three sources, asked one after the other: the tokens kept for
the number, the errors, and the accepted segments. If none of them answers, nothing is shown, and
the heading is left bare.

That does not come about. Under a heading stands one of three things, a `Body`: tokens, a line that
says why there are none, or a line that says that the segment was passed over. For a segment that
the parse gets to, the segment alone decides which of the first two it is (`Body.ofSegment`): where
it has tokens, these are kept, and where it has none it does not parse, so that exactly one error
has its number (`find?_reverse_errors`). For any other number none of the sources knows anything,
and the line about it says so (`displayTokensOf_of_not_reached`).

* `Body.lines` — a body on the output stream; the three kinds cannot be taken for one another there;
* `printed_displayTokensOf_of_reached` — the body of a segment that the parse gets to;
* `tokensFor_ne_nil` — an accepted segment has tokens.
-/

namespace ShellPipeline

open Text (AllBlank AllPrintable OneLine newlines unlines)

/-! ### Bodies -/

/-- **What stands under a heading.** -/
inductive Body where
  /-- The tokens of the segment. -/
  | tokens (shown : List Token)
  /-- Why the segment has no tokens. -/
  | noTokens (message : String)
  /-- The segment was passed over. -/
  | notParsed
deriving DecidableEq, Repr

namespace Body

/-- The lines of a body, as they stand on the output stream. -/
def lines : Body → List String
  | .tokens shown => shown.map fun t => Text.stripSequences t.line
  | .noTokens message => ["  <no tokens: " ++ message ++ ">"]
  | .notParsed => ["  <not parsed>"]

/-- The body of a segment that the parse gets to. -/
def ofSegment (segment : String) : Body :=
  match tokenize segment with
  | .error fault => .noTokens fault.message
  | .ok [] => .noTokens SyntaxFault.commandMissing.message
  | .ok (t :: rest) => .tokens (t :: rest)

/-- The line of a token begins with the name of its kind. -/
theorem stripSequences_tokenLine_ne (t : Token) :
    Text.stripSequences t.line ≠ "  <not parsed>" := by
  have hname : '\x1b' ∉ t.kind.name.toList ∧
      ¬ t.kind.name.toList <+: "  <not parsed>".toList := by
    match t.kind with
    | .redirect .input | .redirect .append | .redirect .truncate => decide
    | .normal | .filename => decide
  intro h
  rw [Token.line, String.append_assoc, String.append_assoc,
    Text.stripSequences_append hname.1] at h
  refine hname.2 ?_
  rw [← h, String.toList_append]
  exact List.prefix_append _ _

/-- **That a segment was passed over is said of no other one.** -/
theorem eq_notParsed_of_lines {body : Body} (h : body.lines = ["  <not parsed>"]) :
    body = notParsed := by
  cases body with
  | notParsed => rfl
  | tokens tokens =>
    obtain ⟨t, -, ht⟩ := List.mem_map.mp
      (show "  <not parsed>" ∈ lines (.tokens tokens) by rw [h]; exact List.mem_cons_self)
    exact absurd ht (stripSequences_tokenLine_ne t)
  | noTokens message =>
    -- the two lines differ where the reason begins
    have hprefix : "  <no tokens: ".toList <+: "  <not parsed>".toList := by
      rw [← List.singleton_inj.mp h, String.append_assoc, String.toList_append]
      exact List.prefix_append _ _
    exact absurd hprefix (by decide)

end Body

/-- A segment without words is read as no tokens, and no other one is. -/
theorem tokenize_eq_ok_nil_iff {segment : String} :
    tokenize segment = .ok [] ↔ Text.words segment = [] := by
  constructor
  · intro h
    rw [← contents_of_tokenize h, List.map_nil]
  · intro h
    rw [tokenize, h, classify_nil]

namespace Body

/-- **The two bodies of a segment**: a segment with tokens shows them, and one without does not
parse, so that there is a fault to be shown. -/
theorem ofSegment_cases (segment : String) :
    (∃ tokens, tokens ≠ [] ∧ keptTokens segment = tokens ∧
      ofSegment segment = .tokens tokens) ∨
    ∃ fault, parseSubcommand segment = .error fault ∧ keptTokens segment = [] ∧
      ofSegment segment = .noTokens fault.message := by
  unfold ofSegment
  cases h : tokenize segment with
  | error fault =>
    exact .inr ⟨fault, parseSubcommand_eq_error_iff.mpr (.inl h), keptTokens_of_error h, rfl⟩
  | ok tokens =>
    cases tokens with
    | nil =>
      have hmissing : parseSubcommand segment = .error .commandMissing :=
        parseSubcommand_eq_error_iff.mpr (.inr ⟨[], h, rfl⟩)
      exact .inr ⟨.commandMissing, hmissing, keptTokens_of_ok h, rfl⟩
    | cons t rest => exact .inl ⟨t :: rest, List.cons_ne_nil t rest, keptTokens_of_ok h, rfl⟩

theorem ofSegment_eq_tokens_iff {segment : String} {tokens : List Token} :
    ofSegment segment = .tokens tokens ↔
      tokenize segment = .ok tokens ∧ Text.words segment ≠ [] := by
  rw [Ne, ← tokenize_eq_ok_nil_iff]
  unfold ofSegment
  cases h : tokenize segment with
  | error fault => simp
  | ok found => cases found <;> simp

theorem ofSegment_eq_noTokens_iff {segment message : String} :
    ofSegment segment = .noTokens message ↔
      (∃ fault, tokenize segment = .error fault ∧ message = fault.message) ∨
        AllBlank segment.toList ∧ message = SyntaxFault.commandMissing.message := by
  rw [← Text.words_eq_nil_iff, ← tokenize_eq_ok_nil_iff]
  unfold ofSegment
  cases h : tokenize segment with
  | error fault => simp [eq_comm]
  | ok found => cases found <;> simp [eq_comm]

theorem ofSegment_ne_notParsed (segment : String) : ofSegment segment ≠ .notParsed := by
  rcases ofSegment_cases segment with ⟨tokens, -, -, h⟩ | ⟨fault, -, -, h⟩ <;> rw [h] <;> nofun

end Body

/-! ### The lines of tokens -/

/-- The line of a token whose contents are a word. -/
theorem oneLine_tokenLine {t : Token} (h : OneLine t.contents) : OneLine t.line := by
  have hname : OneLine t.kind.name := by
    match t.kind with
    | .redirect .input | .redirect .append | .redirect .truncate => decide
    | .normal | .filename => decide
  have hopen : OneLine " '" := by decide
  have hclose : OneLine "'" := by decide
  exact ((hname.append hopen).append h).append hclose

theorem Token.line_ne_empty (t : Token) : t.line ≠ "" := by
  intro hempty
  rw [Token.line, String.append_eq_empty_iff] at hempty
  exact absurd hempty.2 (by decide)

theorem renderTokens_ne_empty {tokens : List Token} (h : tokens ≠ []) :
    renderTokens tokens ≠ "" := by
  obtain ⟨t, rest, rfl⟩ := List.exists_cons_of_ne_nil h
  cases rest with
  | nil =>
    rw [renderTokens, List.map_singleton, joinLines, String.intercalate_singleton]
    exact t.line_ne_empty
  | cons next rest =>
    rw [renderTokens, List.map_cons, List.map_cons, joinLines, String.intercalate_cons_cons]
    intro hempty
    rw [String.append_eq_empty_iff, String.append_eq_empty_iff] at hempty
    exact t.line_ne_empty hempty.1.1

/-- **Tokens that are shown take one line each.** -/
theorem printed_displayTokens {tokens : List Token} (h : tokens ≠ []) :
    printed (displayTokens tokens) = unlines (Body.tokens tokens).lines := by
  have htext : ¬ (renderTokens tokens).isEmpty = true := fun hempty =>
    renderTokens_ne_empty h (String.isEmpty_iff.mp hempty)
  have hlines : tokens.map Token.line ≠ [] := fun hnil => h (List.map_eq_nil_iff.mp hnil)
  rw [displayTokens, if_neg htext, renderTokens, printed_echo_joinLines hlines, List.map_map]
  rfl

/-- The tokens that are kept of a segment hold words, so each of them is on one line. -/
theorem oneLine_of_mem_keptTokens {segment : String} {t : Token} (h : t ∈ keptTokens segment) :
    OneLine t.contents := by
  cases htokens : tokenize segment with
  | error fault =>
    rw [keptTokens_of_error htokens] at h
    exact absurd h List.not_mem_nil
  | ok tokens =>
    rw [keptTokens_of_ok htokens] at h
    exact (Text.isWord_of_mem_words (contents_mem_words htokens h)).oneLine

theorem allPrintable_noTokens {segment : String} {fault : SyntaxFault}
    (h : parseSubcommand segment = .error fault) :
    AllPrintable ("  <no tokens: " ++ fault.message ++ ">") := by
  have hopen : AllPrintable "  <no tokens: " := by decide
  exact (hopen.append (allPrintable_message h)).append (by decide)

theorem allPrintable_notParsed : AllPrintable "  <not parsed>" := by decide

namespace Body

/-- **A segment has a line for each token**, or one that says why there are none. -/
theorem length_lines_ofSegment (segment : String) :
    (ofSegment segment).lines.length = max 1 (keptTokens segment).length := by
  rcases ofSegment_cases segment with ⟨tokens, hne, hkept, h⟩ | ⟨fault, -, hkept, h⟩
  · have hpos : 0 < tokens.length := List.length_pos_of_ne_nil hne
    rw [h, lines, List.length_map, hkept]
    omega
  · rw [h, hkept]
    rfl

/-- The lines of a body are lines. -/
theorem newlines_of_mem_lines_ofSegment {segment l : String}
    (hl : l ∈ (ofSegment segment).lines) : newlines l = 0 := by
  rcases ofSegment_cases segment with ⟨tokens, -, hkept, h⟩ | ⟨fault, hfault, -, h⟩
  · rw [h] at hl
    obtain ⟨t, ht, rfl⟩ := List.mem_map.mp hl
    rw [Text.newlines_stripSequences]
    exact (oneLine_tokenLine (oneLine_of_mem_keptTokens (hkept ▸ ht))).newlines
  · rw [h] at hl
    rw [List.mem_singleton.mp hl]
    exact (allPrintable_noTokens hfault).newlines

end Body

/-! ### One heading -/

section Heading

variable {strict : Bool} {line : String} {k : Nat} {segment : String}

/-- **An accepted segment has tokens.** -/
theorem tokensFor_ne_nil {p : ParsedSegment} (h : p ∈ (parse strict line).segments) :
    (parse strict line).tokensFor p.index ≠ [] := by
  obtain ⟨k, segment, sub, hget, hreached, hsub, rfl⟩ := mem_segments_iff.mp h
  obtain ⟨-, t, ht, -⟩ := assemble_keptTokens hsub
  intro hnil
  rw [tokensFor_of_reached hget hreached] at hnil
  rw [hnil] at ht
  exact absurd ht List.not_mem_nil

/-- **The error of a number**: of a reached segment that does not parse there is one, and none of
another segment is found in its place. -/
theorem find?_reverse_errors {fault : SyntaxFault}
    (hget : (Commandline.ofLine line).segments[k]? = some segment)
    (hreached : Reached strict (Commandline.ofLine line).segments k)
    (hfault : parseSubcommand segment = .error fault) :
    (parse strict line).errors.reverse.find? (·.index == (k + 1 : Int)) =
      some (.ofFault (k + 1) segment fault) := by
  have hmem : SegmentError.ofFault (k + 1) segment fault ∈ (parse strict line).errors :=
    mem_errors_iff.mpr ⟨k, segment, fault, hget, hreached, hfault, rfl⟩
  cases hfind : (parse strict line).errors.reverse.find? (·.index == (k + 1 : Int)) with
  | none =>
    have hother := List.find?_eq_none.mp hfind _ (List.mem_reverse.mpr hmem)
    exact absurd (beq_iff_eq.mpr rfl) hother
  | some e =>
    -- what is found is about a segment of the same number, so about the same segment
    have he := List.mem_reverse.mp (List.mem_of_find?_eq_some hfind)
    obtain ⟨k', segment', fault', hget', -, hfault', rfl⟩ := mem_errors_iff.mp he
    have hsame := List.find?_some hfind
    have hindex : (k' + 1 : Int) = k + 1 := beq_iff_eq.mp hsame
    obtain rfl : k' = k := by omega
    cases hget.symm.trans hget'
    rw [Except.error.inj (hfault.symm.trans hfault')]

/-- **Under the heading of a reached segment stands its body.** -/
theorem printed_displayTokensOf_of_reached
    (hget : (Commandline.ofLine line).segments[k]? = some segment)
    (hreached : Reached strict (Commandline.ofLine line).segments k) :
    printed ((parse strict line).displayTokensOf (k + 1)) =
      unlines (Body.ofSegment segment).lines := by
  have hnumber : ((k + 1 : Nat) : Int) = k + 1 := by omega
  unfold ParseResult.displayTokensOf
  dsimp only
  rw [hnumber, tokensFor_of_reached hget hreached]
  rcases Body.ofSegment_cases segment with ⟨tokens, hne, hkept, h⟩ | ⟨fault, hfault, hkept, h⟩
  · have hempty : ¬ tokens.isEmpty = true := fun hnil => hne (List.isEmpty_iff.mp hnil)
    rw [h, hkept, if_neg hempty, printed_displayTokens hne]
  · rw [h, hkept, if_pos List.isEmpty_nil, find?_reverse_errors hget hreached hfault]
    exact printed_echo_of_allPrintable (allPrintable_noTokens hfault)

/-- **Under any other heading stands that the segment was passed over.** -/
theorem displayTokensOf_of_not_reached {index : Nat}
    (h : ¬ ∃ k : Nat, (index : Int) = k + 1 ∧
      Reached strict (Commandline.ofLine line).segments k) :
    (parse strict line).displayTokensOf index = [.echo "  <not parsed>"] := by
  -- the number is in neither list
  have hnone := h
  rw [← mem_accepted_or_rejected_iff_reached, not_or] at hnone
  have hfind : (parse strict line).errors.reverse.find? (·.index == (index : Int)) = none := by
    rw [List.find?_eq_none]
    intro e he hindex
    exact hnone.2 (List.mem_map.mpr ⟨e, List.mem_reverse.mp he, beq_iff_eq.mp hindex⟩)
  have hany : ¬ (parse strict line).segments.any (·.index == (index : Int)) = true := by
    intro hany
    obtain ⟨p, hp, hindex⟩ := List.any_eq_true.mp hany
    exact hnone.1 (List.mem_map.mpr ⟨p, hp, beq_iff_eq.mp hindex⟩)
  unfold ParseResult.displayTokensOf
  dsimp only
  rw [tokensFor_eq_nil h, if_pos List.isEmpty_nil, hfind]
  dsimp only
  rw [if_neg hany]

/-- **Under each heading stands a line for each token**, or one that says why there are none. -/
theorem newlines_displayTokensOf (strict : Bool) (line : String) (index : Nat) :
    newlines (printed ((parse strict line).displayTokensOf index)) =
      max 1 ((parse strict line).tokensFor index).length := by
  by_cases hreached : ∃ k : Nat, (index : Int) = k + 1 ∧
      Reached strict (Commandline.ofLine line).segments k
  · obtain ⟨k, hindex, hk⟩ := hreached
    obtain rfl : index = k + 1 := by omega
    obtain ⟨segment, hget⟩ := lt_num_iff.mp (length_segments_ofLine line ▸ hk.inside)
    have hzero : ∀ n ∈ (Body.ofSegment segment).lines.map newlines, n = 0 := by
      intro n hn
      obtain ⟨l, hl, rfl⟩ := List.mem_map.mp hn
      exact Body.newlines_of_mem_lines_ofSegment hl
    rw [printed_displayTokensOf_of_reached hget hk, hindex, tokensFor_of_reached hget hk,
      Text.newlines_unlines, List.sum_eq_zero hzero, Body.length_lines_ofSegment, Nat.zero_add]
  · rw [displayTokensOf_of_not_reached hreached, tokensFor_eq_nil hreached,
      newlines_echo_of_allPrintable allPrintable_notParsed]
    rfl

/-- **No heading is left bare.** -/
theorem displayTokensOf_ne_nil (strict : Bool) (line : String) (index : Nat) :
    (parse strict line).displayTokensOf index ≠ [] := by
  intro hnil
  have hlines := newlines_displayTokensOf strict line index
  rw [hnil, printed_nil, Text.newlines_empty] at hlines
  omega

/-- Nothing about tokens is said on the error stream. -/
theorem reported_displayTokensOf (result : ParseResult) (index : Nat) :
    reported (result.displayTokensOf index) = "" := by
  unfold ParseResult.displayTokensOf displayTokens
  dsimp only
  repeat' split
  all_goals rfl

end Heading

/-! ### All headings -/

theorem reported_displayAllTokens (result : ParseResult) :
    reported result.displayAllTokens = "" :=
  flatMap_eq_empty reported_nil reported_append fun index _ => by
    rw [← List.singleton_append, reported_append, reported_displayTokensOf, String.append_empty]
    rfl

/-- The headings with what stands under each. -/
theorem printed_displayAllTokens {result : ParseResult} {body : Nat → Body}
    (h : ∀ i ∈ List.range' 1 result.commandline.num,
      printed (result.displayTokensOf i) = unlines (body i).lines) :
    printed result.displayAllTokens =
      unlines ((List.range' 1 result.commandline.num).flatMap fun i =>
        ("Tokens " ++ toString i ++ ":") :: (body i).lines) := by
  refine flatMap_eq_unlines printed_nil printed_append fun i hi => ?_
  have hheading : AllPrintable ("Tokens " ++ toString i ++ ":") :=
    allPrintable_heading (by decide) (i : Int)
  rw [← List.singleton_append, printed_append, printed_echo_of_allPrintable hheading, h i hi,
    ← Text.unlines_append, List.singleton_append]

/-- **The body at a place**: that of its segment where the parse gets there. -/
theorem exists_body (strict : Bool) (line : String) (i : Nat) :
    ∃ body : Body, printed ((parse strict line).displayTokensOf i) = unlines body.lines ∧
      ∀ (k : Nat) (segment : String), i = k + 1 →
        (Commandline.ofLine line).segments[k]? = some segment →
        (Reached strict (Commandline.ofLine line).segments k → body = .ofSegment segment) ∧
        (¬ Reached strict (Commandline.ofLine line).segments k → body = .notParsed) := by
  by_cases hreached : ∃ k : Nat, (i : Int) = k + 1 ∧
      Reached strict (Commandline.ofLine line).segments k
  · obtain ⟨k, hindex, hk⟩ := hreached
    obtain rfl : i = k + 1 := by omega
    obtain ⟨segment, hget⟩ := lt_num_iff.mp (length_segments_ofLine line ▸ hk.inside)
    refine ⟨.ofSegment segment, printed_displayTokensOf_of_reached hget hk,
      fun k' segment' hk' hget' => ?_⟩
    obtain rfl : k' = k := by omega
    cases hget.symm.trans hget'
    exact ⟨fun _ => rfl, fun h => absurd hk h⟩
  · refine ⟨.notParsed, ?_, fun k segment hi _ => ⟨fun hk => ?_, fun _ => rfl⟩⟩
    · rw [displayTokensOf_of_not_reached hreached]
      exact printed_echo_of_allPrintable allPrintable_notParsed
    · exact absurd ⟨k, by omega, hk⟩ hreached

/-- **Under every heading stands exactly one body.** What is printed of the tokens of a line is a
heading for each number, in order, with the lines of a body behind it. The body is the tokens of
the segment just where the parse gets to it, it is tokenized, and it has a word; the tokens then
hold the words of the segment, one each. It is a line that says why there are no tokens just where
the parse gets to the segment and it is not tokenized, which gives the wording, or is blank, which
lacks a command. It is the line that says that the segment was passed over just where the strict
rule does so, behind the first segment that fails; no other body reads like that line. A body has at
least one line, and none of its lines has a newline in it. An accepted segment has tokens, so the
chain of questions never ends in silence. -/
theorem every_heading_has_one_body (strict : Bool) (line : String) :
    let result := parse strict line
    let segments := result.commandline.segments
    ∃ body : Nat → Body,
      printed result.displayAllTokens =
        unlines ((List.range' 1 result.commandline.num).flatMap fun i =>
          ("Tokens " ++ toString i ++ ":") :: (body i).lines) ∧
      reported result.displayAllTokens = "" ∧
      (∀ k < result.commandline.num, ∃ segment, segments[k]? = some segment ∧
        (∀ tokens, body (k + 1) = .tokens tokens ↔
          Reached strict segments k ∧ tokenize segment = .ok tokens ∧ Text.words segment ≠ []) ∧
        (∀ tokens, body (k + 1) = .tokens tokens →
          tokens.map (·.contents) = Text.words segment) ∧
        (∀ message, body (k + 1) = .noTokens message ↔ Reached strict segments k ∧
          ((∃ fault, tokenize segment = .error fault ∧ message = fault.message) ∨
            AllBlank segment.toList ∧ message = "no command to execute")) ∧
        (body (k + 1) = .notParsed ↔ strict = true ∧ ∃ good bad rest fault,
          FirstFailure segments good bad rest fault ∧ good.length < k) ∧
        ((body (k + 1)).lines = ["  <not parsed>"] → body (k + 1) = .notParsed) ∧
        (body (k + 1)).lines ≠ [] ∧ ∀ l ∈ (body (k + 1)).lines, newlines l = 0) ∧
      (∀ p ∈ result.segments, result.tokensFor p.index ≠ []) ∧
      ∀ i : Nat, result.displayTokensOf i ≠ [] := by
  intro result segments
  choose body hprinted hbody using exists_body strict line
  refine ⟨body, printed_displayAllTokens fun i _ => hprinted i, reported_displayAllTokens result,
    fun k hk => ?_, fun p hp => tokensFor_ne_nil hp, displayTokensOf_ne_nil strict line⟩
  obtain ⟨segment, hget⟩ := lt_num_iff.mp hk
  obtain ⟨hin, hout⟩ := hbody (k + 1) k segment rfl hget
  have hinside : k < segments.length := (List.getElem?_eq_some_iff.mp hget).1
  rw [← not_reached_iff hinside]
  refine ⟨segment, hget, ?_⟩
  by_cases hreached : Reached strict segments k
  · -- the segment decides
    rw [hin hreached]
    refine ⟨fun tokens => ?_, fun tokens h => ?_, fun message => ?_, ?_, Body.eq_notParsed_of_lines,
      fun hnil => ?_, fun l hl => Body.newlines_of_mem_lines_ofSegment hl⟩
    · rw [Body.ofSegment_eq_tokens_iff, and_iff_right hreached]
    · exact contents_of_tokenize (Body.ofSegment_eq_tokens_iff.mp h).1
    · rw [Body.ofSegment_eq_noTokens_iff, and_iff_right hreached]
      rfl
    · exact iff_of_false (Body.ofSegment_ne_notParsed segment) (not_not.mpr hreached)
    · have hlength := Body.length_lines_ofSegment segment
      rw [hnil, List.length_nil] at hlength
      omega
  · -- the segment is not looked at
    rw [hout hreached]
    refine ⟨fun tokens => ?_, fun tokens h => ?_, fun message => ?_, ?_, fun _ => rfl,
      List.cons_ne_nil _ _, fun l hl => ?_⟩
    · exact iff_of_false nofun fun h => hreached h.1
    · cases h
    · exact iff_of_false nofun fun h => hreached h.1
    · exact iff_of_true rfl hreached
    · rw [List.mem_singleton.mp hl]
      exact allPrintable_notParsed.newlines

/-- A strict parse with one body of each kind. -/
theorem every_heading_has_one_body_strict :
    let result := parse true "wc|<|cat"
    (0 < result.commandline.num ∧ 1 < result.commandline.num ∧ 2 < result.commandline.num) ∧
      printed result.displayAllTokens =
        "Tokens 1:\nNORMAL 'wc'\nTokens 2:\n  <no tokens: missing filename after '<'>\n" ++
          "Tokens 3:\n  <not parsed>\n" := by
  intro result
  have hcut : Commandline.ofLine "wc|<|cat" = ⟨3, ["wc", "<", "cat"]⟩ := by decide +kernel
  have htokens : tokenize "wc" = .ok [⟨"wc", .normal⟩] := by decide +kernel
  have hword : Text.words "wc" ≠ [] := by decide +kernel
  have hmissing : tokenize "<" = .error (.filenameMissing .input) := by decide +kernel
  have hgood : AllParse ["wc"] := by
    intro s hs
    rw [List.mem_singleton.mp hs]
    exact ⟨⟨[some "wc", none], none, none, .none⟩, by decide +kernel⟩
  have hfirst : FirstFailure ["wc", "<", "cat"] ["wc"] "<" ["cat"] (.filenameMissing .input) :=
    ⟨rfl, hgood, by decide +kernel⟩
  obtain ⟨body, hprinted, -, hplace, -⟩ := every_heading_has_one_body true "wc|<|cat"
  simp only [commandline_parse, hcut] at hprinted hplace
  obtain ⟨first, hfirstGet, hone, -⟩ := hplace 0 (by decide)
  obtain ⟨second, hsecondGet, -, -, htwo, -⟩ := hplace 1 (by decide)
  obtain ⟨-, -, -, -, -, hthree, -⟩ := hplace 2 (by decide)
  cases hfirstGet
  cases hsecondGet
  have htokensBody : body 1 = .tokens [⟨"wc", .normal⟩] :=
    (hone _).mpr ⟨⟨by decide, fun _ s hs => absurd hs List.not_mem_nil⟩, htokens, hword⟩
  have hnoTokensBody : body 2 = .noTokens "missing filename after '<'" :=
    (htwo _).mpr ⟨⟨by decide, fun _ => hgood⟩, .inl ⟨_, hmissing, rfl⟩⟩
  have hnotParsedBody : body 3 = .notParsed :=
    hthree.mpr ⟨trivial, _, _, _, _, hfirst, by decide⟩
  refine ⟨?_, hprinted.trans ?_⟩
  · simp only [result, commandline_parse, hcut]
    decide
  · simp only [List.range'_succ, List.range'_zero, List.flatMap_cons, List.flatMap_nil,
      htokensBody, hnoTokensBody, hnotParsedBody]
    decide +kernel

end ShellPipeline
