import Mathlib.Data.List.Induction
import Mathlib.Logic.Relation
import ShellPipeline.Proofs.Composition
import ShellPipeline.Proofs.Words

/-!
# Spacing

How the words of a line are spaced does not matter to its parse. A *change of spacing* replaces one
run of blanks by another (`Respacing`): between two words neither run may be empty, at either end of
a segment both may. A line is *respaced* by any number of such changes (`Respaced`).

No blank is a pipe, so a change stays inside one segment, between a first part that follows the pipe
before it and a last part that ends at the pipe behind it (`exists_last_piece`,
`exists_first_piece`). There a run of blanks separates the words on its two sides, whatever blanks
it is made of (`wordChars_append_run`), or stands beside words that are all on one side. So a change
leaves every segment its words (`pieceWords_of_respacing`), and by induction a respaced line has the
words of the line it comes from, segment by segment.

Tokens are made of words, and so is everything behind them. Two lines with the same words in each
segment are parsed alike (`attempts_withoutText`), apart from the texts of the segments.

* `Respacing`, `Respaced` — the changes;
* `pieceWords` — the words of a line, piece by piece;
* `Attempt.withoutText`, `SegmentError.withoutText` — all but the text of a segment;
* `parse_of_respaced` — the law.
-/

namespace ShellPipeline

open Text (AllBlank isBlank wordChars)

/-! ### Runs of blanks -/

namespace Text

theorem wordChars_run_append {run : List Char} (h : AllBlank run) (s : List Char) :
    wordChars (run ++ s) = wordChars s := by
  induction run with
  | nil => rfl
  | cons c run ih =>
    have hcut := wordChars_append_blank (h c List.mem_cons_self) [] (run ++ s)
    rw [List.nil_append, wordChars_nil, List.nil_append] at hcut
    rw [List.cons_append, hcut, ih fun d hd => h d (List.mem_cons_of_mem c hd)]

/-- **A run of blanks separates words**, whatever blanks it is made of. -/
theorem wordChars_append_run {run : List Char} (h : AllBlank run) (hne : run ≠ [])
    (s t : List Char) : wordChars (s ++ run ++ t) = wordChars s ++ wordChars t := by
  -- the first blank cuts, and the others stand in front of the second part
  obtain ⟨c, run, rfl⟩ := List.exists_cons_of_ne_nil hne
  rw [List.append_assoc, List.cons_append, wordChars_append_blank (h c List.mem_cons_self),
    wordChars_run_append fun d hd => h d (List.mem_cons_of_mem c hd)]

theorem wordChars_append_run_nil {run : List Char} (h : AllBlank run) (s : List Char) :
    wordChars (s ++ run) = wordChars s := by
  by_cases hne : run = []
  · rw [hne, List.append_nil]
  · have hcut := wordChars_append_run h hne s []
    rwa [List.append_nil, wordChars_nil, List.append_nil] at hcut

/-- **Only blank texts have no words.** -/
theorem wordChars_eq_nil_iff {s : List Char} : wordChars s = [] ↔ AllBlank s := by
  constructor
  · intro h
    induction s with
    | nil => exact fun c hc => absurd hc List.not_mem_nil
    | cons c s ih =>
      cases hc : isBlank c with
      | true =>
        have hrun : AllBlank [c] := List.forall_mem_singleton.mpr hc
        have hrest : wordChars s = [] := (wordChars_run_append hrun s).symm.trans h
        exact List.forall_mem_cons.mpr ⟨hc, ih hrest⟩
      | false =>
        -- the character belongs to a word, and that is found
        rw [wordChars, List.foldr_cons, OpenWords.push_of_not_blank hc] at h
        cases h
  · intro h
    have hrun := wordChars_run_append h []
    rwa [List.append_nil, wordChars_nil] at hrun

theorem words_eq_nil_iff {s : String} : words s = [] ↔ AllBlank s.toList := by
  rw [words, List.map_eq_nil_iff, wordChars_eq_nil_iff]

end Text

theorem pipe_notMem_of_allBlank {run : List Char} (h : AllBlank run) : pipe ∉ run := by
  intro hmem
  have hblank := h pipe hmem
  revert hblank
  decide

/-! ### Changes of spacing -/

/-- **A change of spacing**: a run of blanks in a line is replaced by another one. -/
inductive Respacing : List Char → List Char → Prop where
  /-- Between two words there are blanks before the change and behind it. -/
  | between (before run run' after : List Char) (hrun : AllBlank run) (hrun' : AllBlank run')
      (hne : run ≠ []) (hne' : run' ≠ []) :
      Respacing (before ++ run ++ after) (before ++ run' ++ after)
  /-- At the start of a segment blanks come and go. -/
  | atStart (before run run' after : List Char) (hrun : AllBlank run) (hrun' : AllBlank run')
      (hstart : ∀ c ∈ before.getLast?, c = pipe) :
      Respacing (before ++ run ++ after) (before ++ run' ++ after)
  /-- At its end they do, too. -/
  | atEnd (before run run' after : List Char) (hrun : AllBlank run) (hrun' : AllBlank run')
      (hend : ∀ c ∈ after.head?, c = pipe) :
      Respacing (before ++ run ++ after) (before ++ run' ++ after)

/-- **A line that comes from another one by changes of spacing.** -/
def Respaced (line line' : String) : Prop :=
  Relation.ReflTransGen Respacing line.toList line'.toList

/-! ### The segment around a place -/

/-- Behind a place stands the rest of its segment, and then the segments that follow. -/
theorem exists_first_piece (s : List Char) :
    ∃ first rest, ((∀ c ∈ s.head?, c = pipe) → first = []) ∧
      ∀ t, pipe ∉ t → (t ++ s).splitOn pipe = (t ++ first) :: rest := by
  by_cases hmem : pipe ∈ s
  · obtain ⟨first, behind, rfl, hfirst⟩ := List.eq_append_cons_of_mem hmem
    refine ⟨first, behind.splitOn pipe, fun hhead => ?_, fun t ht => ?_⟩
    · cases first with
      | nil => rfl
      | cons c first => exact absurd (hhead c rfl ▸ List.mem_cons_self) hfirst
    · have hpiece : pipe ∉ t ++ first := fun h => (List.mem_append.mp h).elim ht hfirst
      rw [← List.append_assoc, List.splitOn_append_cons_self_of_not_mem hpiece]
  · -- without a pipe the segment runs to the end of the line
    refine ⟨s, [], fun hhead => ?_, fun t ht => ?_⟩
    · cases s with
      | nil => rfl
      | cons c s => exact absurd (hhead c rfl ▸ List.mem_cons_self) hmem
    · exact List.splitOn_eq_singleton fun h => (List.mem_append.mp h).elim ht hmem

/-- Before a place stand the segments that are over, and then the beginning of its own. -/
theorem exists_last_piece (s : List Char) :
    ∃ init last, pipe ∉ last ∧ ((∀ c ∈ s.getLast?, c = pipe) → last = []) ∧
      ∀ t, (s ++ t).splitOn pipe = init ++ (last ++ t).splitOn pipe := by
  induction s using List.reverseRecOn with
  | nil => exact ⟨[], [], List.not_mem_nil, fun _ => rfl, fun t => rfl⟩
  | append_singleton s c ih =>
    obtain ⟨init, last, hlast, -, hsplit⟩ := ih
    by_cases hc : c = pipe
    · -- the pipe closes the segment, and the next one has not begun
      subst hc
      refine ⟨init ++ [last], [], List.not_mem_nil, fun _ => rfl, fun t => ?_⟩
      rw [List.append_assoc, hsplit, List.singleton_append,
        List.splitOn_append_cons_self_of_not_mem hlast, List.append_assoc, List.nil_append,
        List.singleton_append]
    · -- any other character belongs to the segment
      refine ⟨init, last ++ [c], fun h => ?_, fun hend => ?_, fun t => ?_⟩
      · rcases List.mem_append.mp h with h | h
        · exact hlast h
        · exact hc (List.mem_singleton.mp h).symm
      · exact absurd (hend c (by simp)) hc
      · rw [List.append_assoc, hsplit, List.append_assoc]

/-! ### The words of a line, piece by piece -/

/-- **The words of the pieces of a line.** -/
def pieceWords (s : List Char) : List (List (List Char)) := (s.splitOn pipe).map wordChars

/-- **A change of spacing leaves every piece its words.** -/
theorem pieceWords_of_respacing {s s' : List Char} (h : Respacing s s') :
    pieceWords s = pieceWords s' := by
  -- around the run stand whole pieces, a beginning and an end, and the run has no pipe
  have hpieces : ∀ (before after : List Char), ∃ init last first rest,
      ((∀ c ∈ before.getLast?, c = pipe) → last = []) ∧
      ((∀ c ∈ after.head?, c = pipe) → first = []) ∧
      ∀ run, AllBlank run → pieceWords (before ++ run ++ after) =
        init ++ wordChars (last ++ run ++ first) :: rest := by
    intro before after
    obtain ⟨init, last, hlast, hstart, hbefore⟩ := exists_last_piece before
    obtain ⟨first, rest, hend, hafter⟩ := exists_first_piece after
    refine ⟨init.map wordChars, last, first, rest.map wordChars, hstart, hend, fun run hrun => ?_⟩
    have hmiddle : pipe ∉ last ++ run := fun hmem =>
      (List.mem_append.mp hmem).elim hlast (pipe_notMem_of_allBlank hrun)
    rw [pieceWords, List.append_assoc, hbefore, ← List.append_assoc, hafter _ hmiddle,
      List.map_append, List.map_cons]
  cases h with
  | between before run run' after hrun hrun' hne hne' =>
    obtain ⟨init, last, first, rest, -, -, hwords⟩ := hpieces before after
    rw [hwords _ hrun, hwords _ hrun', Text.wordChars_append_run hrun hne,
      Text.wordChars_append_run hrun' hne']
  | atStart before run run' after hrun hrun' hstart =>
    -- nothing of the segment stands before the run
    obtain ⟨init, last, first, rest, hlast, -, hwords⟩ := hpieces before after
    rw [hwords _ hrun, hwords _ hrun', hlast hstart, List.nil_append, List.nil_append,
      Text.wordChars_run_append hrun, Text.wordChars_run_append hrun']
  | atEnd before run run' after hrun hrun' hend =>
    -- nothing of it stands behind the run
    obtain ⟨init, last, first, rest, -, hfirst, hwords⟩ := hpieces before after
    rw [hwords _ hrun, hwords _ hrun', hfirst hend, List.append_nil, List.append_nil,
      Text.wordChars_append_run_nil hrun, Text.wordChars_append_run_nil hrun']

/-- Any number of changes leaves every piece its words. -/
theorem pieceWords_of_reflTransGen {s s' : List Char}
    (h : Relation.ReflTransGen Respacing s s') : pieceWords s = pieceWords s' := by
  induction h with
  | refl => rfl
  | tail _ hstep ih => exact ih.trans (pieceWords_of_respacing hstep)

/-- **A respaced line has the words of the line it comes from**, segment by segment. -/
theorem words_segments_of_respaced {line line' : String} (h : Respaced line line') :
    (Commandline.ofLine line).segments.map Text.words =
      (Commandline.ofLine line').segments.map Text.words := by
  have hwords : ∀ line : String, (Commandline.ofLine line).segments.map Text.words =
      (pieceWords line.toList).map (·.map String.ofList) := by
    intro line
    rw [segments_ofLine, pieceWords, List.map_map, List.map_map]
    refine List.map_congr_left fun piece _ => ?_
    rw [Function.comp_apply, Function.comp_apply, Text.words, String.toList_ofList]
  rw [hwords, hwords, pieceWords_of_reflTransGen h]

/-! ### Parsing words -/

/-- All that an attempt comes to, without the text of its segment. -/
def Attempt.withoutText (a : Attempt) : Attempt := { a with segment := "" }

/-- **All that is kept of a rejected segment**, without its text. -/
def SegmentError.withoutText (e : SegmentError) : SegmentError := { e with segment := "" }

theorem error?_withoutText (a : Attempt) :
    a.withoutText.error? = a.error?.map (·.withoutText) := by
  cases a with
  | mk index segment tokens outcome => cases outcome <;> rfl

/-- An attempt is made on the words of its segment. -/
theorem ofSegment_withoutText {segment segment' : String}
    (h : Text.words segment = Text.words segment') (index : Nat) :
    (Attempt.ofSegment index segment).withoutText =
      (Attempt.ofSegment index segment').withoutText := by
  have htokens : tokenize segment = tokenize segment' := by rw [tokenize, tokenize, h]
  unfold Attempt.ofSegment
  rw [htokens]
  cases tokenize segment' <;> rfl

theorem attemptAll_withoutText {segments segments' : List String}
    (h : segments.map Text.words = segments'.map Text.words) (index : Nat) :
    (attemptAll index segments).map (·.withoutText) =
      (attemptAll index segments').map (·.withoutText) := by
  induction segments generalizing index segments' with
  | nil =>
    cases segments' with
    | nil => rfl
    | cons segment' rest' => cases h
  | cons segment rest ih =>
    cases segments' with
    | nil => cases h
    | cons segment' rest' =>
      rw [List.map_cons, List.map_cons, List.cons.injEq] at h
      rw [attemptAll, attemptAll, List.map_cons, List.map_cons, ofSegment_withoutText h.1,
        ih h.2]

/-- **The attempts on two lines with the same words in each segment** come to the same. -/
theorem attempts_withoutText {first second : Commandline} (strict : Bool)
    (h : first.segments.map Text.words = second.segments.map Text.words) :
    (attempts strict first).map (·.withoutText) =
      (attempts strict second).map (·.withoutText) := by
  have hall := attemptAll_withoutText h 1
  cases strict with
  | false => exact hall
  | true =>
    -- the rule looks at outcomes only, so it stops at the same place
    have hcut : ∀ commandline : Commandline,
        (attempts true commandline).map (·.withoutText) =
          takeThrough Attempt.failed
            ((attemptAll 1 commandline.segments).map (·.withoutText)) := by
      intro commandline
      rw [takeThrough_map, attempts_true]
      rfl
    rw [hcut, hcut, hall]

/-- **The spacing of a line does not matter to its parse.** A line that comes from another one by
changes of spacing has as many segments, and under either rule the same of them are accepted, with
the same numbers, subcommands and tokens, and the same are rejected, with the same numbers, faults,
notices and tokens. What the results keep of the line differs in the texts of the segments only. -/
theorem parse_of_respaced {line line' : String} (h : Respaced line line') (strict : Bool) :
    (parse strict line).commandline.num = (parse strict line').commandline.num ∧
    (parse strict line).segments = (parse strict line').segments ∧
    (parse strict line).errors.map (·.withoutText) =
      (parse strict line').errors.map (·.withoutText) := by
  have hwords := words_segments_of_respaced h
  have hattempts := attempts_withoutText strict hwords
  refine ⟨?_, ?_, ?_⟩
  · have hlength := congrArg List.length hwords
    rwa [List.length_map, List.length_map, length_segments_ofLine, length_segments_ofLine]
      at hlength
  · -- what is kept of an accepted segment is read off the attempt without its text
    have hsegments : ∀ line : String, (parse strict line).segments =
        ((attempts strict (.ofLine line)).map (·.withoutText)).filterMap (·.parsed?) := by
      intro line
      rw [segments_parse, List.filterMap_map]
      rfl
    rw [hsegments, hsegments, hattempts]
  · have herrors : ∀ line : String, (parse strict line).errors.map (·.withoutText) =
        ((attempts strict (.ofLine line)).map (·.withoutText)).filterMap (·.error?) := by
      intro line
      rw [errors_parse, filterMap_map_of_map error?_withoutText]
    rw [herrors, herrors, hattempts]

/-- Two blanks become an ideographic space, and the empty segment behind the pipe becomes a blank
one. -/
theorem parse_of_respaced_blank_segment :
    Respaced "ls  -l|" "ls　-l| 	" ∧
      (parse true "ls  -l|").segments = (parse true "ls　-l| 	").segments ∧
      (parse true "ls　-l| 	").errors.map (·.withoutText) =
        [⟨2, "", .commandMissing, some 2, []⟩] := by
  have hbetween : Respacing "ls  -l|".toList "ls　-l|".toList :=
    .between ['l', 's'] [' ', ' '] ['　'] ['-', 'l', '|'] (by decide)
      (by decide) (by decide) (by decide)
  have hstart : Respacing "ls　-l|".toList "ls　-l| 	".toList :=
    .atStart ['l', 's', '　', '-', 'l', '|'] [] [' ', '	'] [] (by decide)
      (by decide) fun c hc => by
        cases hc
        rfl
  have hrespaced : Respaced "ls  -l|" "ls　-l| 	" := .tail (.tail .refl hbetween) hstart
  obtain ⟨-, hsegments, herrors⟩ := parse_of_respaced hrespaced true
  refine ⟨hrespaced, hsegments, herrors.symm.trans ?_⟩
  decide +kernel

end ShellPipeline
