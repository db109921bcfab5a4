import ShellPipeline.Proofs.Headings
import ShellPipeline.Proofs.Rendering

/-!
# What is reported about a line

A line that is parsed and shown reports each segment in one place: a notice on the error stream for
each rejected segment, a block of five lines on the output stream for each accepted one. Both are
rows of lines, each with a newline behind it, and the rows follow the two lists of the result
(`reported_runLine`, `printed_runLine`).

That a notice is one line and a block is five rests on what stands in them: the wording of a fault
that a parse finds is printable, and no line of what is rendered of a subcommand has a newline. The
segments themselves are shown as they stand in the line, so their newlines are printed, and there
are as many of these as the line has (`newlines_listing`). Stripping takes away no newline, and from
the notices nothing.

The number of newlines on the output stream is then the sum over the parts
(`newlines_printed_runLine`). Under each heading among the tokens stands at least one line
(`newlines_displayAllTokens`).
-/

namespace ShellPipeline

open Text (AllPrintable newlines unlines)

/-! ### The count and the segments -/

theorem newlines_intercalate {separator : String} (h : newlines separator = 0)
    (pieces : List String) :
    newlines (separator.intercalate pieces) = (pieces.map newlines).sum := by
  induction pieces with
  | nil => rfl
  | cons piece pieces ih =>
    cases pieces with
    | nil => simp
    | cons next pieces =>
      rw [String.intercalate_cons_cons, Text.newlines_append, Text.newlines_append, h, ih,
        Nat.add_zero, ← List.sum_cons, ← List.map_cons]

/-- The newlines of a line are those of its segments. -/
theorem sum_newlines_segments (line : String) :
    ((Commandline.ofLine line).segments.map newlines).sum = newlines line := by
  rw [← newlines_intercalate (show newlines "|" = 0 by decide), intercalate_segments]

/-- What is shown of a line before its segments are looked at: how many there are, and each of them
as it stands in the line. -/
def Commandline.listing (commandline : Commandline) : List String :=
  renderCount commandline.num :: (segmentLines 1 commandline.segments).map Text.stripSequences

theorem segments_ne_nil (line : String) : (Commandline.ofLine line).segments ≠ [] := by
  rw [segments_ofLine]
  exact fun h => List.splitOn_ne_nil pipe line.toList (List.map_eq_nil_iff.mp h)

theorem allPrintable_renderCount (number : Int) : AllPrintable (renderCount number) := by
  have hcount : AllPrintable "Number of subcommands: " := by decide
  exact hcount.append (Text.allPrintable_toString number)

theorem printed_listing (line : String) :
    printed (displayCount (Commandline.ofLine line).num) ++
        printed (Commandline.ofLine line).display =
      unlines (Commandline.ofLine line).listing := by
  have hne : segmentLines 1 (Commandline.ofLine line).segments ≠ [] := by
    obtain ⟨segment, rest, h⟩ := List.exists_cons_of_ne_nil (segments_ne_nil line)
    rw [h, segmentLines]
    exact List.cons_ne_nil _ _
  rw [displayCount, printed_echo_of_allPrintable (allPrintable_renderCount _),
    Commandline.display, Commandline.render, printed_echo_joinLines hne, ← Text.unlines_append,
    List.singleton_append, Commandline.listing]

/-- A segment that is listed has the newlines of the segment. -/
theorem map_newlines_segmentLines (index : Nat) (segments : List String) :
    (segmentLines index segments).map newlines = segments.map newlines := by
  induction segments generalizing index with
  | nil => rfl
  | cons segment rest ih =>
    -- what stands around the segment is printable
    have hindex : newlines (toString index) = 0 :=
      (Text.allPrintable_toString (index : Int)).newlines
    have hhead : newlines "Subcommand " = 0 := by decide
    have hopen : newlines ": '" = 0 := by decide
    have hclose : newlines "'" = 0 := by decide
    rw [segmentLines, List.map_cons, ih, List.map_cons]
    simp only [Text.newlines_append, hindex, hhead, hopen, hclose, Nat.zero_add, Nat.add_zero]

theorem length_segmentLines (index : Nat) (segments : List String) :
    (segmentLines index segments).length = segments.length := by
  rw [← List.length_map newlines, map_newlines_segmentLines, List.length_map]

/-- **The newlines of the listing**: one for the count, one for each segment, and those of the line.
-/
theorem newlines_listing (line : String) :
    newlines (unlines (Commandline.ofLine line).listing) =
      1 + (Commandline.ofLine line).num + newlines line := by
  have hstrip : (fun s => newlines (Text.stripSequences s)) = newlines :=
    funext Text.newlines_stripSequences
  rw [Text.newlines_unlines, Commandline.listing, List.map_cons, List.sum_cons,
    (allPrintable_renderCount _).newlines, List.map_map, Function.comp_def, hstrip,
    map_newlines_segmentLines, sum_newlines_segments, List.length_cons, List.length_map,
    length_segmentLines, length_segments_ofLine]
  omega

/-! ### The two places -/

/-- **The notice about a rejected segment**: one line, as it stands on the error stream. -/
def SegmentError.line (error : SegmentError) : String :=
  "error: segment " ++ toString error.index ++ ": " ++ error.notice.message

/-- **The block about an accepted segment**: five lines, as they stand on the output stream. Only
the filenames can lose anything to stripping. -/
def ParsedSegment.block (segment : ParsedSegment) : List String :=
  [ "Subcommand " ++ toString segment.index ++ ":",
    "  argv:   " ++ quoteList segment.subcommand.argv,
    "  input:  " ++ Text.stripSequences (segment.subcommand.input.getD "<stdin>"),
    "  output: " ++ Text.stripSequences (segment.subcommand.output.getD "<stdout>"),
    "  mode:   " ++ segment.subcommand.mode.word ]

section Places

variable {strict : Bool} {line : String}

theorem allPrintable_line {e : SegmentError} (h : e ∈ (parse strict line).errors) :
    AllPrintable e.line := by
  obtain ⟨k, segment, fault, -, -, hfault, rfl⟩ := mem_errors_iff.mp h
  have herror : AllPrintable "error: segment " := by decide
  have hcolon : AllPrintable ": " := by decide
  exact ((herror.append (Text.allPrintable_toString _)).append hcolon).append
    (allPrintable_message hfault)

/-- **A notice is one line**, and nothing of it is stripped. -/
theorem reported_display {e : SegmentError} (h : e ∈ (parse strict line).errors) :
    reported e.display = unlines [e.line] := by
  have hline : "error: " ++ e.notice.text = e.line := by
    have hhead : "error: " ++ "segment " = "error: segment " := by decide
    -- the number that the notice shows is the number of the error
    obtain ⟨k, segment, fault, -, -, -, rfl⟩ := mem_errors_iff.mp h
    calc "error: " ++ (SegmentError.ofFault (k + 1) segment fault).notice.text
        = "error: " ++ "segment " ++ toString ((k + 1 : Nat) : Int) ++ ": " ++ fault.message := by
          simp only [String.append_assoc, SegmentError.notice, SegmentError.ofFault,
            SyntaxFault.notice, Notice.text]
      _ = (SegmentError.ofFault (k + 1) segment fault).line := by
          rw [hhead]
          rfl
  rw [SegmentError.display, hline]
  exact reported_echoError_of_allPrintable (allPrintable_line h)

/-- A block is what is rendered of a subcommand, stripped. -/
theorem map_stripSequences_lines (p : ParsedSegment) :
    (p.subcommand.lines (some p.index)).map Text.stripSequences = p.block := by
  have hheading : AllPrintable ("Subcommand " ++ toString p.index ++ ":") :=
    allPrintable_heading (by decide) p.index
  have hinput : '\x1b' ∉ "  input:  ".toList := by decide
  have houtput : '\x1b' ∉ "  output: ".toList := by decide
  -- the lines with a filename are stripped behind their heads, the others not at all
  simp only [Subcommand.lines, List.map_cons, List.map_nil, hheading.stripSequences,
    (allPrintable_argvLine p.subcommand).stripSequences, Text.stripSequences_append hinput,
    Text.stripSequences_append houtput, (allPrintable_modeLine p.subcommand).stripSequences,
    ParsedSegment.block]

theorem printed_display (p : ParsedSegment) : printed p.display = unlines p.block := by
  rw [ParsedSegment.display, Subcommand.display, Subcommand.render,
    printed_echo_joinLines (p.subcommand.lines_ne_nil _), map_stripSequences_lines]

/-- **The lines of a block are lines.** -/
theorem newlines_of_mem_block {p : ParsedSegment} (h : p ∈ (parse strict line).segments) :
    ∀ l ∈ p.block, newlines l = 0 := by
  intro l hl
  obtain ⟨k, segment, -, -, -, hsub⟩ := segment_of_mem_segments h
  -- a block is what is rendered of the subcommand, and stripping adds no newline
  rw [← map_stripSequences_lines] at hl
  obtain ⟨rendered, hrendered, rfl⟩ := List.mem_map.mp hl
  rw [Text.newlines_stripSequences]
  exact newlines_of_mem_lines hsub _ rendered hrendered

/-! ### The tokens -/

/-- **The newlines of the tokens**: one for each heading, and those under it. -/
theorem newlines_displayAllTokens (strict : Bool) (line : String) :
    newlines (printed (parse strict line).displayAllTokens) =
      (Commandline.ofLine line).num +
        ((List.range' 1 (Commandline.ofLine line).num).map fun index : Nat =>
          max 1 ((parse strict line).tokensFor index).length).sum := by
  -- for any list of numbers, so that the row can be taken apart at its first heading
  have hall : ∀ indices : List Nat, newlines (printed (indices.flatMap fun index =>
      .echo ("Tokens " ++ toString index ++ ":") ::
        (parse strict line).displayTokensOf index)) =
      indices.length + (indices.map fun index : Nat =>
        max 1 ((parse strict line).tokensFor index).length).sum := by
    intro indices
    induction indices with
    | nil => rfl
    | cons index indices ih =>
      have hheading : AllPrintable ("Tokens " ++ toString index ++ ":") :=
        allPrintable_heading (by decide) (index : Int)
      rw [List.flatMap_cons, ← List.singleton_append, printed_append, printed_append,
        Text.newlines_append, Text.newlines_append, newlines_echo_of_allPrintable hheading,
        newlines_displayTokensOf, ih, List.length_cons, List.map_cons, List.sum_cons]
      omega
  have hnumbers := hall (List.range' 1 (Commandline.ofLine line).num)
  rwa [List.length_range'] at hnumbers

/-! ### The whole report -/

/-- **On the error stream stand the notices** about the rejected segments. -/
theorem reported_runLine (strict showTokens : Bool) (line : String) :
    reported (runLine strict showTokens line) =
      unlines ((parse strict line).errors.map SegmentError.line) := by
  -- part by part: only the notices go to the error stream
  have hsilent : ∀ text : String, reported [.echo text] = "" := fun text => rfl
  have hrecords : reported ((parseRecords strict line).map .log) = "" := by
    rw [List.map_eq_flatMap]
    exact flatMap_eq_empty reported_nil reported_append fun record _ => rfl
  have hblocks : reported ((parse strict line).segments.flatMap (·.display)) = "" :=
    flatMap_eq_empty reported_nil reported_append fun p _ => hsilent _
  have hnotices : reported ((parse strict line).errors.flatMap (·.display)) =
      unlines ((parse strict line).errors.map SegmentError.line) := by
    rw [List.map_eq_flatMap]
    exact flatMap_eq_unlines reported_nil reported_append fun e he => reported_display he
  have hshown :
      reported (if showTokens then (parse strict line).displayAllTokens else []) = "" := by
    cases showTokens with
    | false => rfl
    | true => exact reported_displayAllTokens _
  simp only [runLine, ParseResult.display, displayCount, Commandline.display, reported_append,
    hrecords, hsilent, hshown, hblocks, hnotices, String.empty_append]

/-- Notices do not go to the output stream. -/
theorem printed_notices (errors : List SegmentError) :
    printed (errors.flatMap (·.display)) = "" :=
  flatMap_eq_empty printed_nil printed_append fun _ _ => rfl

/-- **On the output stream stand the listing, the tokens where they are asked for, and the blocks**
about the accepted segments. -/
theorem printed_runLine (strict showTokens : Bool) (line : String) :
    printed (runLine strict showTokens line) =
      unlines (Commandline.ofLine line).listing ++
        (if showTokens then printed (parse strict line).displayAllTokens else "") ++
        unlines ((parse strict line).segments.flatMap ParsedSegment.block) := by
  have hrecords : printed ((parseRecords strict line).map .log) = "" := by
    rw [List.map_eq_flatMap]
    exact flatMap_eq_empty printed_nil printed_append fun record _ => rfl
  have hblocks : printed ((parse strict line).segments.flatMap (·.display)) =
      unlines ((parse strict line).segments.flatMap ParsedSegment.block) :=
    flatMap_eq_unlines printed_nil printed_append fun p _ => printed_display p
  have hshown : printed (if showTokens then (parse strict line).displayAllTokens else []) =
      if showTokens then printed (parse strict line).displayAllTokens else "" := by
    cases showTokens <;> rfl
  simp only [runLine, ParseResult.display, commandline_parse, printed_append, hrecords, hshown,
    hblocks, printed_notices, String.empty_append, String.append_empty, printed_listing]

/-- **The newlines on the output stream.** -/
theorem newlines_printed_runLine (strict showTokens : Bool) (line : String) :
    newlines (printed (runLine strict showTokens line)) =
      1 + (Commandline.ofLine line).num + newlines line +
        5 * (parse strict line).segments.length +
        if showTokens then
          (Commandline.ofLine line).num +
            ((List.range' 1 (Commandline.ofLine line).num).map fun index : Nat =>
              max 1 ((parse strict line).tokensFor index).length).sum
        else 0 := by
  have hblocks : newlines (unlines ((parse strict line).segments.flatMap ParsedSegment.block)) =
      5 * (parse strict line).segments.length := by
    -- five lines a block, and no newline inside any of them
    have hfive : ∀ p ∈ (parse strict line).segments, p.block.length = 5 := fun p _ => rfl
    have hzero : ∀ n ∈ ((parse strict line).segments.flatMap ParsedSegment.block).map newlines,
        n = 0 := by
      intro n hn
      obtain ⟨l, hl, rfl⟩ := List.mem_map.mp hn
      obtain ⟨p, hp, hl⟩ := List.mem_flatMap.mp hl
      exact newlines_of_mem_block hp l hl
    rw [Text.newlines_unlines, List.sum_eq_zero hzero, List.length_flatMap,
      List.map_congr_left hfive, List.map_const', List.sum_replicate_nat, Nat.mul_comm,
      Nat.zero_add]
  rw [printed_runLine, Text.newlines_append, Text.newlines_append, newlines_listing, hblocks]
  cases showTokens with
  | false => simp
  | true =>
    simp only [if_true, newlines_displayAllTokens]
    omega

/-- A number is on neither side just where the strict rule passes its segment over. -/
theorem not_mem_either_iff {i : Int} (hpos : 1 ≤ i) (hle : i ≤ (Commandline.ofLine line).num) :
    i ∉ (parse strict line).accepted ∧ i ∉ (parse strict line).rejected ↔
      strict = true ∧ ∃ good bad rest fault,
        FirstFailure (Commandline.ofLine line).segments good bad rest fault ∧
          (good.length + 1 : Int) < i := by
  obtain ⟨k, rfl⟩ : ∃ k : Nat, i = k + 1 := ⟨(i - 1).toNat, by omega⟩
  have hk : k < (Commandline.ofLine line).segments.length := by
    rw [length_segments_ofLine]
    omega
  have hreached : (∃ k' : Nat, (k + 1 : Int) = k' + 1 ∧
      Reached strict (Commandline.ofLine line).segments k') ↔
      Reached strict (Commandline.ofLine line).segments k := by
    constructor
    · rintro ⟨k', heq, h⟩
      obtain rfl : k = k' := by omega
      exact h
    · exact fun h => ⟨k, rfl, h⟩
  have hlt : ∀ n : Nat, (n + 1 : Int) < k + 1 ↔ n < k := fun n => by omega
  rw [← not_or, mem_accepted_or_rejected_iff_reached, hreached, not_reached_iff hk]
  simp only [hlt]

/-- **Every segment is reported in exactly one place.** The error stream, records aside, is the
notices about the rejected segments, one line each, from which nothing is stripped; the numbers in
them grow, and they are those of the segments that the parse gets to and that do not parse alone,
each with the wording of its fault. The output stream is the listing, the tokens where they are
asked for, and a block of five lines for each accepted segment; the numbers of the blocks grow, and
they are those of the segments that the parse gets to and that parse alone, each with its
subcommand. No number is on both sides, and one that is on neither is passed over by the strict
rule, behind the first segment that fails. The newlines on the output stream are one for the count,
one for each segment, those of the line, five for each accepted segment, and where the tokens are
shown, one for each segment and one for each of its tokens, at least one. -/
theorem runLine_reports_each_segment_once (strict showTokens : Bool) (line : String) :
    let result := parse strict line
    let num := result.commandline.num
    let segments := result.commandline.segments
    reported (runLine strict showTokens line) = unlines (result.errors.map SegmentError.line) ∧
    result.rejected.Pairwise (· < ·) ∧
    (∀ (i : Int) (message : String),
      (∃ e ∈ result.errors, e.index = i ∧ e.notice.message = message) ↔
        ∃ (k : Nat) (segment : String) (fault : SyntaxFault), i = k + 1 ∧
          segments[k]? = some segment ∧ Reached strict segments k ∧
          parseSubcommand segment = .error fault ∧ message = fault.message) ∧
    (∀ e ∈ result.errors, newlines e.line = 0 ∧ Text.stripSequences e.line = e.line) ∧
    printed (runLine strict showTokens line) =
      unlines result.commandline.listing ++
        (if showTokens then printed result.displayAllTokens else "") ++
        unlines (result.segments.flatMap ParsedSegment.block) ∧
    result.accepted.Pairwise (· < ·) ∧
    (∀ (i : Int) (sub : Subcommand),
      (∃ p ∈ result.segments, p.index = i ∧ p.subcommand = sub) ↔
        ∃ (k : Nat) (segment : String), i = k + 1 ∧ segments[k]? = some segment ∧
          Reached strict segments k ∧ parseSubcommand segment = .ok sub) ∧
    (∀ p ∈ result.segments, p.block.length = 5 ∧ ∀ l ∈ p.block, newlines l = 0) ∧
    result.accepted.Disjoint result.rejected ∧
    (∀ i : Int, 1 ≤ i → i ≤ num → (i ∉ result.accepted ∧ i ∉ result.rejected ↔
      strict = true ∧ ∃ good bad rest fault,
        FirstFailure segments good bad rest fault ∧ (good.length + 1 : Int) < i)) ∧
    newlines (printed (runLine strict showTokens line)) =
      1 + num + newlines line + 5 * result.segments.length +
        if showTokens then
          num + ((List.range' 1 num).map fun i : Nat => max 1 (result.tokensFor i).length).sum
        else 0 := by
  intro result num segments
  refine ⟨reported_runLine strict showTokens line,
    List.pairwise_map.mpr (errors_pairwise strict line), fun i message => ?_, fun e he => ?_,
    printed_runLine strict showTokens line, List.pairwise_map.mpr (segments_pairwise strict line),
    fun i sub => ?_, fun p hp => ⟨rfl, newlines_of_mem_block hp⟩,
    accepted_disjoint_rejected strict line, fun i hpos hle => not_mem_either_iff hpos hle,
    newlines_printed_runLine strict showTokens line⟩
  · constructor
    · rintro ⟨e, he, rfl, rfl⟩
      obtain ⟨k, segment, fault, hget, hreached, hfault, rfl⟩ := mem_errors_iff.mp he
      exact ⟨k, segment, fault, rfl, hget, hreached, hfault, rfl⟩
    · rintro ⟨k, segment, fault, rfl, hget, hreached, hfault, rfl⟩
      exact ⟨_, mem_errors_iff.mpr ⟨k, segment, fault, hget, hreached, hfault, rfl⟩, rfl, rfl⟩
  · exact ⟨(allPrintable_line he).newlines, (allPrintable_line he).stripSequences⟩
  · constructor
    · rintro ⟨p, hp, rfl, rfl⟩
      obtain ⟨k, segment, sub, hget, hreached, hsub, rfl⟩ := mem_segments_iff.mp hp
      exact ⟨k, segment, rfl, hget, hreached, hsub⟩
    · rintro ⟨k, segment, rfl, hget, hreached, hsub⟩
      exact ⟨_, mem_segments_iff.mpr ⟨k, segment, sub, hget, hreached, hsub, rfl⟩, rfl, rfl⟩

/-- A strict parse of a segment that is good, one that is bad and one that is passed over, with the
tokens shown. -/
theorem runLine_reports_each_segment_once_strict :
    reported (runLine true true "cat < in|>|wc") =
        "error: segment 2: missing filename after '>'\n" ∧
      (3 ∉ (parse true "cat < in|>|wc").accepted ∧ 3 ∉ (parse true "cat < in|>|wc").rejected) ∧
      newlines (printed (runLine true true "cat < in|>|wc")) = 1 + 3 + 0 + 5 * 1 + (3 + 5) := by
  have hcut : Commandline.ofLine "cat < in|>|wc" = ⟨3, ["cat < in", ">", "wc"]⟩ := by decide +kernel
  have hfirst : FirstFailure (parse true "cat < in|>|wc").commandline.segments ["cat < in"] ">"
      ["wc"] (.filenameMissing .truncate) := by
    refine ⟨congrArg (·.segments) hcut, fun s hs => ?_, by decide +kernel⟩
    rw [List.mem_singleton.mp hs]
    exact ⟨⟨[some "cat", none], some "in", none, .none⟩, by decide +kernel⟩
  obtain ⟨hreported, -, -, -, -, -, -, -, -, hneither, hcount⟩ :=
    runLine_reports_each_segment_once true true "cat < in|>|wc"
  refine ⟨hreported.trans (by decide +kernel), ?_, hcount.trans (by decide +kernel)⟩
  exact (hneither 3 (by decide) (by decide +kernel)).mpr
    ⟨rfl, ["cat < in"], ">", ["wc"], _, hfirst, by decide⟩

end Places

end ShellPipeline
