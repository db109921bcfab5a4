import ShellPipeline.Proofs.Records

/-!
# Reports that no word can forge

A newline is not the only character that may end a line, and a reader of a report may take any of
them for the end of one. Such a reader finds the lines that were joined, as long as each of them is
one line for every reader (`Text.cutAtBreaks_joinLines`). A word is one: every line break is blank,
and a word has no blank (`Text.IsWord.oneLine`). So the contents of a token and the names of files
can stand in a report as they are.

A line about a token gives the token back, whatever its contents are: what stands before the first
space is the name of a kind, and of the rest only the two marks are no contents
(`Token.ofLine?_line`). That the tokens come from a segment is needed for the cut alone.
-/

namespace ShellPipeline

/-! ### Lines for every reader -/

namespace Text

/-- The lines of a list of characters, with a line break at the end of each but the last one, which
may lack it. A carriage return and a newline behind it are one break. -/
def cutCharsAtBreaks : List Char → List (List Char)
  | [] => []
  | '\r' :: '\n' :: rest => [] :: cutCharsAtBreaks rest
  | c :: rest =>
    if c ∈ lineBreaks then [] :: cutCharsAtBreaks rest
    else
      match cutCharsAtBreaks rest with
      | [] => [[c]]
      | line :: lines => (c :: line) :: lines

/-- **The lines of a text for a reader that takes every line break for one.** -/
def cutAtBreaks (s : String) : List String := (cutCharsAtBreaks s.toList).map String.ofList

example : cutAtBreaks "a\r\nb\u2028\x0bc\n" = ["a", "b", "", "c"] := by decide +kernel

section Chars

variable {l : List Char}

theorem cutCharsAtBreaks_newline (t : List Char) :
    cutCharsAtBreaks ('\n' :: t) = [] :: cutCharsAtBreaks t := by
  have hbreak : '\n' ∈ lineBreaks := by decide
  rw [cutCharsAtBreaks, if_pos hbreak]
  nofun

/-- A character that is no line break joins the line behind it. -/
theorem cutCharsAtBreaks_cons {c : Char} (h : c ∉ lineBreaks) (t : List Char) :
    cutCharsAtBreaks (c :: t) =
      match cutCharsAtBreaks t with
      | [] => [[c]]
      | line :: lines => (c :: line) :: lines := by
  rw [cutCharsAtBreaks, if_neg h]
  -- the break of two characters begins with one that is a break by itself
  rintro rest rfl
  exact absurd (by decide) h

/-- **A newline ends a line** without a break in it, and what stands behind is read as it would be
alone. -/
theorem cutCharsAtBreaks_append_newline (h : ∀ c ∈ l, c ∉ lineBreaks) (t : List Char) :
    cutCharsAtBreaks (l ++ '\n' :: t) = l :: cutCharsAtBreaks t := by
  induction l with
  | nil => exact cutCharsAtBreaks_newline t
  | cons c l ih =>
    rw [List.cons_append, cutCharsAtBreaks_cons (h c List.mem_cons_self),
      ih fun d hd => h d (List.mem_cons_of_mem c hd)]

/-- The last line may lack its break. -/
theorem cutCharsAtBreaks_of_notMem (hne : l ≠ []) (h : ∀ c ∈ l, c ∉ lineBreaks) :
    cutCharsAtBreaks l = [l] := by
  induction l with
  | nil => exact absurd rfl hne
  | cons c l ih =>
    rw [cutCharsAtBreaks_cons (h c List.mem_cons_self)]
    cases l with
    | nil => rfl
    | cons d l => rw [ih (List.cons_ne_nil d l) fun e he => h e (List.mem_cons_of_mem c he)]

end Chars

/-- **Joined lines are what every reader finds**, where each of them is one line and not empty. -/
theorem cutAtBreaks_joinLines {lines : List String} (hne : ∀ l ∈ lines, l ≠ "")
    (h : ∀ l ∈ lines, OneLine l) : cutAtBreaks (joinLines lines) = lines := by
  induction lines with
  | nil => rfl
  | cons line rest ih =>
    have hline : line.toList ≠ [] := fun hnil =>
      hne line List.mem_cons_self (String.toList_eq_nil_iff.mp hnil)
    cases rest with
    | nil =>
      rw [joinLines, String.intercalate_singleton, cutAtBreaks,
        cutCharsAtBreaks_of_notMem hline (h line List.mem_cons_self), List.map_singleton,
        String.ofList_toList]
    | cons next rest =>
      have hjoin : (joinLines (line :: next :: rest)).toList =
          line.toList ++ '\n' :: (joinLines (next :: rest)).toList := by
        rw [joinLines, String.intercalate_cons_cons, String.toList_append, String.toList_append,
          List.append_assoc, joinLines]
        rfl
      have hrest : cutAtBreaks (joinLines (next :: rest)) = next :: rest :=
        ih (fun l hl => hne l (List.mem_cons_of_mem line hl))
          fun l hl => h l (List.mem_cons_of_mem line hl)
      rw [cutAtBreaks, hjoin, cutCharsAtBreaks_append_newline (h line List.mem_cons_self),
        List.map_cons, String.ofList_toList, ← cutAtBreaks, hrest]

end Text

open Text (OneLine)

/-! ### Tokens read back -/

/-- The kinds of token. -/
def TokenKind.all : List TokenKind :=
  [.redirect .input, .redirect .append, .redirect .truncate, .normal, .filename]

/-- The kind of a name, as diagnostics show it. -/
def TokenKind.ofName? (name : List Char) : Option TokenKind :=
  TokenKind.all.find? (·.name.toList == name)

theorem TokenKind.ofName?_name (kind : TokenKind) :
    TokenKind.ofName? kind.name.toList = some kind := by
  match kind with
  | redirect .input | redirect .append | redirect .truncate => decide
  | normal | filename => decide

/-- **The token that a line is about**: the name of a kind up to the first space, then the contents
between two marks. -/
def Token.ofLine? (line : String) : Option Token :=
  let name := line.toList.takeWhile (· != ' ')
  (TokenKind.ofName? name).map fun kind =>
    ⟨String.ofList ((line.toList.drop (name.length + 2)).dropLast), kind⟩

/-- **A line about a token gives the token back**, whatever its contents are. -/
theorem Token.ofLine?_line (t : Token) : Token.ofLine? t.line = some t := by
  have hspace : ∀ c ∈ t.kind.name.toList, (c != ' ') = true := by
    rw [← List.all_eq_true]
    match t.kind with
    | .redirect .input | .redirect .append | .redirect .truncate => rfl
    | .normal | .filename => rfl
  have hline : t.line.toList =
      t.kind.name.toList ++ ' ' :: '\'' :: (t.contents.toList ++ ['\'']) := by
    rw [Token.line]
    simp only [String.toList_append, List.append_assoc]
    rfl
  have hname : t.line.toList.takeWhile (· != ' ') = t.kind.name.toList := by
    rw [hline, List.takeWhile_append_of_pos hspace]
    simp
  have hdrop : t.line.toList.drop (t.kind.name.toList.length + 2) =
      t.contents.toList ++ ['\''] := by
    rw [hline, List.drop_length_add_append]
    rfl
  rw [Token.ofLine?, hname, TokenKind.ofName?_name, hdrop, List.dropLast_concat,
    String.ofList_toList, Option.map_some]

/-- **The tokens that a report is about**, line by line. -/
def tokensOfReport? (report : String) : Option (List Token) :=
  (Text.cutAtBreaks report).mapM Token.ofLine?

section Reports

variable {segment segment' : String} {tokens tokens' : List Token} {sub : Subcommand}

/-- **A report on the tokens of a segment** has one line for each token, for every reader. -/
theorem cutAtBreaks_renderTokens (h : tokenize segment = .ok tokens) :
    Text.cutAtBreaks (renderTokens tokens) = tokens.map Token.line := by
  apply Text.cutAtBreaks_joinLines
  · intro l hl
    obtain ⟨t, -, rfl⟩ := List.mem_map.mp hl
    exact t.line_ne_empty
  · intro l hl
    obtain ⟨t, ht, rfl⟩ := List.mem_map.mp hl
    exact oneLine_tokenLine (Text.isWord_of_mem_words (contents_mem_words h ht)).oneLine

/-- **The tokens of a segment are read back** from the report on them. -/
theorem tokensOfReport?_renderTokens (h : tokenize segment = .ok tokens) :
    tokensOfReport? (renderTokens tokens) = some tokens := by
  rw [tokensOfReport?, cutAtBreaks_renderTokens h]
  clear h
  induction tokens with
  | nil => rfl
  | cons t rest ih => simp [Token.ofLine?_line, ih]

theorem ne_empty_of_mem_lines (sub : Subcommand) (index : Option Int) :
    ∀ l ∈ sub.lines index, l ≠ "" := by
  cases index <;> simp [Subcommand.lines]

/-- **A report on a subcommand** has its five lines, for every reader. -/
theorem cutAtBreaks_render (h : parseSubcommand segment = .ok sub) (index : Option Int) :
    Text.cutAtBreaks (sub.render index) = sub.lines index :=
  Text.cutAtBreaks_joinLines (ne_empty_of_mem_lines sub index) (oneLine_of_mem_lines h index)

/-- A text begins with what the first part of it begins with. -/
theorem toList_prefix_append {head lead : String} (h : head.toList <+: lead.toList)
    (rest : String) : head.toList <+: (lead ++ rest).toList := by
  rw [String.toList_append]
  exact h.trans (List.prefix_append _ _)

/-- Each line on a subcommand begins with a text of its own. -/
theorem forall₂_prefix_lines (sub : Subcommand) (index : Option Int) :
    List.Forall₂ (fun head line => head.toList <+: line.toList)
      ["Subcommand", "  argv:", "  input:", "  output:", "  mode:"] (sub.lines index) := by
  refine .cons ?_ (.cons ?_ (.cons ?_ (.cons ?_ (.cons ?_ .nil))))
  · cases index with
    | none => decide
    | some n => exact toList_prefix_append (toList_prefix_append (by decide) (toString n)) ":"
  · exact toList_prefix_append (by decide) _
  · exact toList_prefix_append (by decide) _
  · exact toList_prefix_append (by decide) _
  · exact toList_prefix_append (by decide) _

/-- **No word can forge a line of a report.** For a reader that takes every line break for the end
of a line, a report on the tokens of an accepted segment has one line for each token, which is the
line about that token. The tokens are read back from these lines, so the reports on two segments
differ where their tokens do. A report on the subcommand of an accepted segment, with any number or
without one, has the five lines that it was made of, each with a beginning of its own. -/
theorem reports_cannot_be_forged :
    (∀ segment tokens, tokenize segment = .ok tokens →
      (Text.cutAtBreaks (renderTokens tokens)).length = tokens.length ∧
      Text.cutAtBreaks (renderTokens tokens) = tokens.map Token.line ∧
      tokensOfReport? (renderTokens tokens) = some tokens ∧
      ∀ segment' tokens', tokenize segment' = .ok tokens' → tokens ≠ tokens' →
        renderTokens tokens ≠ renderTokens tokens') ∧
    ∀ segment sub, parseSubcommand segment = .ok sub → ∀ index : Option Int,
      (Text.cutAtBreaks (sub.render index)).length = 5 ∧
      Text.cutAtBreaks (sub.render index) = sub.lines index ∧
      List.Forall₂ (fun head line => head.toList <+: line.toList)
        ["Subcommand", "  argv:", "  input:", "  output:", "  mode:"]
        (Text.cutAtBreaks (sub.render index)) := by
  refine ⟨fun segment tokens h => ?_, fun segment sub h index => ?_⟩
  · have hcut := cutAtBreaks_renderTokens h
    have hread := tokensOfReport?_renderTokens h
    refine ⟨by rw [hcut, List.length_map], hcut, hread, fun segment' tokens' h' hne heq => hne ?_⟩
    -- both lists are what one and the same text is read into
    rw [heq, tokensOfReport?_renderTokens h'] at hread
    exact (Option.some.inj hread).symm
  · have hcut := cutAtBreaks_render h index
    rw [hcut]
    exact ⟨rfl, rfl, forall₂_prefix_lines sub index⟩

/-- Words that look like lines of a report, with marks and the names of kinds in them. -/
theorem reports_cannot_be_forged_marks :
    let segment := "NORMAL 'a' > FILENAME\u2028'"
    let tokens : List Token := [⟨"NORMAL", .normal⟩, ⟨"'a'", .normal⟩, ⟨">", .redirect .truncate⟩,
      ⟨"FILENAME", .filename⟩, ⟨"'", .normal⟩]
    let sub : Subcommand := ⟨[some "NORMAL", some "'a'", some "'", none], none, some "FILENAME",
      .truncate⟩
    (tokenize segment = .ok tokens ∧ (Text.cutAtBreaks (renderTokens tokens)).length = 5 ∧
      tokensOfReport? (renderTokens tokens) = some tokens) ∧
      (tokenize "NORMAL" = .ok [⟨"NORMAL", .normal⟩] ∧
        renderTokens tokens ≠ renderTokens [⟨"NORMAL", .normal⟩]) ∧
      parseSubcommand segment = .ok sub ∧
        Text.cutAtBreaks (sub.render (some (-1))) = sub.lines (some (-1)) := by
  intro segment tokens sub
  have htokens : tokenize segment = .ok tokens := by decide +kernel
  have hother : tokenize "NORMAL" = .ok [⟨"NORMAL", .normal⟩] := by decide +kernel
  have hsub : parseSubcommand segment = .ok sub := by decide +kernel
  obtain ⟨hreport, hlines⟩ := reports_cannot_be_forged
  obtain ⟨hlength, -, hread, hdiffer⟩ := hreport segment tokens htokens
  exact ⟨⟨htokens, hlength, hread⟩, ⟨hother, hdiffer _ _ hother (by decide)⟩, hsub,
    (hlines segment sub hsub (some (-1))).2.1⟩

/-- A token that is built by hand can hold a line break, and is then read as two lines. -/
example : Text.cutAtBreaks (renderTokens [⟨"a'\nNORMAL 'b", .normal⟩]) =
    ["NORMAL 'a'", "NORMAL 'b'"] := by decide +kernel

end Reports

end ShellPipeline
