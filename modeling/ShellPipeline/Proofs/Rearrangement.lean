import Mathlib.Logic.Relation
import ShellPipeline.Proofs.Continuation

/-!
# Redirections may stand anywhere

A segment that has tokens is made of pieces (`exists_pieces_of_tokenize`), and these are read alike
in any order. What they come to are three things that do not meet: the plain words in order, the
last input, and the last output with its operator.

So two segments that agree in these three have one outcome (`parseSubcommand_congr`), and the pieces
of a segment may be put in any order in which the plain words follow each other as before, the
inputs do, and the outputs do; a redirection that a later one overrides may also be left out. One
such *rewriting* keeps the three things (`Rewriting.plainWords_eq`, `Rewriting.lastTarget_eq`), and
by induction any number of them do.
-/

namespace ShellPipeline

/-! ### Pieces -/

namespace Piece

/-- The direction of a redirection, which is whether it is one of the output; a plain word has
none. -/
def direction? : Piece → Option Bool
  | word _ => none
  | redirection operator _ => some operator.isOutput

/-- The operator and the filename of a redirection. -/
def redirection? : Piece → Option (Redirect × String)
  | word _ => none
  | redirection operator filename => some (operator, filename)

end Piece

/-- **A segment that has tokens is made of pieces.** -/
theorem exists_pieces_of_tokenize {segment : String} {tokens : List Token}
    (h : tokenize segment = .ok tokens) :
    ∃ pieces : List Piece, tokens = pieces.flatMap Piece.tokens := by
  refine exists_pieces (paired_of_tokenize h) fun t ht operator hkind => ?_
  obtain ⟨-, -, rfl⟩ := tokenize_eq_ok h
  exact contents_of_mem_placed ht hkind

/-- The pieces of a segment are sound. -/
theorem sound_of_tokenize {segment : String} {pieces : List Piece}
    (h : tokenize segment = .ok (pieces.flatMap Piece.tokens)) :
    ∀ piece ∈ pieces, piece.Sound := by
  intro piece hpiece
  obtain ⟨-, -, hplaced⟩ := tokenize_eq_ok h
  -- no word or filename that adjacency gives spells an operator
  have hplain : ∀ t ∈ piece.tokens, t.kind.isRedirect = false → ¬ IsOperator t.contents := by
    intro t ht hkind
    have hmem : t ∈ placed none (Text.words segment) := by
      rw [← hplaced]
      exact List.mem_flatMap_of_mem hpiece ht
    exact not_isOperator_of_mem_placed hmem hkind
  cases piece with
  | word contents => exact hplain _ List.mem_cons_self rfl
  | redirection operator filename =>
    exact hplain ⟨filename, .filename⟩ (List.mem_cons_of_mem _ List.mem_cons_self) rfl

/-! ### What pieces come to -/

/-- The plain words are those of the pieces without a direction. -/
theorem plainWords_pieces (pieces : List Piece) :
    plainWords (pieces.flatMap Piece.tokens) =
      (pieces.filter (·.direction? = none)).flatMap Piece.words := by
  induction pieces with
  | nil => rfl
  | cons piece pieces ih =>
    rw [List.flatMap_cons, plainWords_append, ih]
    cases piece <;> simp [plainWords, Piece.tokens, Piece.direction?, Piece.words]

/-- The last redirection of a direction is the last of the pieces that have it. -/
theorem lastTarget_pieces (output : Bool) (pieces : List Piece) :
    lastTarget output (pieces.flatMap Piece.tokens) =
      ((pieces.filter (·.direction? = some output)).filterMap Piece.redirection?).getLast? := by
  have hall : (redirectionsOf (pieces.flatMap Piece.tokens)).filter (·.1.isOutput == output) =
      (pieces.filter (·.direction? = some output)).filterMap Piece.redirection? := by
    induction pieces with
    | nil => rfl
    | cons piece pieces ih =>
      rw [List.flatMap_cons]
      cases piece with
      | word contents =>
        rw [Piece.tokens, List.singleton_append, redirectionsOf_cons_of_not_redirect rfl, ih]
        simp [Piece.direction?]
      | redirection operator filename =>
        rw [Piece.tokens, List.cons_append, List.singleton_append,
          redirectionsOf_cons_redirect rfl, redirectionsOf_cons_of_not_redirect rfl]
        by_cases h : operator.isOutput = output
        · simp [Piece.direction?, Piece.redirection?, h, ih]
        · simp [Piece.direction?, h, ih]
  rw [lastTarget, hall]

/-! ### Rewriting -/

/-- **A rewriting of a segment.** -/
inductive Rewriting : List Piece → List Piece → Prop where
  /-- The pieces stand in another order, in which the plain words follow each other as before, the
  inputs do, and the outputs do. -/
  | reorder {pieces pieces' : List Piece}
      (order : ∀ direction, pieces'.filter (·.direction? = direction) =
        pieces.filter (·.direction? = direction)) : Rewriting pieces pieces'
  /-- A redirection is left out, operator and filename, where a later one of its direction overrides
  it. -/
  | leaveOut (before : List Piece) (operator : Redirect) (filename : String) (after : List Piece)
      (overridden : ∃ piece ∈ after, piece.direction? = some operator.isOutput) :
      Rewriting (before ++ .redirection operator filename :: after) (before ++ after)

section Rewriting

variable {pieces pieces' : List Piece}

/-- A rewriting brings no piece in. -/
theorem Rewriting.subset (h : Rewriting pieces pieces') : pieces' ⊆ pieces := by
  cases h with
  | reorder order =>
    intro piece hpiece
    -- it is in the part of its own direction, which is the same on both sides
    have hmem : piece ∈ pieces'.filter (·.direction? = piece.direction?) :=
      List.mem_filter.mpr ⟨hpiece, by simp⟩
    rw [order] at hmem
    exact (List.mem_filter.mp hmem).1
  | leaveOut before operator filename after =>
    exact List.append_subset.mpr ⟨List.subset_append_left _ _,
      List.subset_append_of_subset_right _ (List.subset_cons_self _ _)⟩

/-- **A rewriting keeps the plain words.** -/
theorem Rewriting.plainWords_eq (h : Rewriting pieces pieces') :
    plainWords (pieces'.flatMap Piece.tokens) = plainWords (pieces.flatMap Piece.tokens) := by
  rw [plainWords_pieces, plainWords_pieces]
  cases h with
  | reorder order => rw [order]
  | leaveOut before operator filename after =>
    rw [List.filter_append, List.filter_append,
      List.filter_cons_of_neg (by simp [Piece.direction?])]

/-- **A rewriting keeps the last redirection of either direction.** -/
theorem Rewriting.lastTarget_eq (h : Rewriting pieces pieces') (output : Bool) :
    lastTarget output (pieces'.flatMap Piece.tokens) =
      lastTarget output (pieces.flatMap Piece.tokens) := by
  rw [lastTarget_pieces, lastTarget_pieces]
  cases h with
  | reorder order => rw [order]
  | leaveOut before operator filename after overridden =>
    rw [List.filter_append, List.filter_append]
    by_cases houtput : operator.isOutput = output
    · -- the one that overrides it stands behind it, and so does the last one
      obtain ⟨piece, hpiece, hdirection⟩ := overridden
      have hlater :
          (after.filter (·.direction? = some output)).filterMap Piece.redirection? ≠ [] := by
        cases piece with
        | word contents => cases hdirection
        | redirection r f =>
          have hmem : .redirection r f ∈ after.filter (·.direction? = some output) :=
            List.mem_filter.mpr ⟨hpiece, by simpa [houtput] using hdirection⟩
          exact List.ne_nil_of_mem (List.mem_filterMap.mpr ⟨_, hmem, rfl⟩)
      rw [List.filter_cons_of_pos (by simpa [Piece.direction?] using houtput),
        List.filterMap_append, List.filterMap_append, List.getLast?_append_of_ne_nil _ hlater,
        List.filterMap_cons_some (by rfl), List.getLast?_append_of_ne_nil _ (List.cons_ne_nil _ _),
        List.getLast?_cons_of_ne_nil hlater]
    · rw [List.filter_cons_of_neg (by simpa [Piece.direction?] using houtput)]

/-- **Any number of rewritings** keeps the plain words and the last redirections, and brings no
piece in. -/
theorem targets_of_rewritten (h : Relation.ReflTransGen Rewriting pieces pieces') :
    pieces' ⊆ pieces ∧
      plainWords (pieces'.flatMap Piece.tokens) = plainWords (pieces.flatMap Piece.tokens) ∧
      ∀ output, lastTarget output (pieces'.flatMap Piece.tokens) =
        lastTarget output (pieces.flatMap Piece.tokens) := by
  induction h with
  | refl => exact ⟨fun _ hpiece => hpiece, rfl, fun _ => rfl⟩
  | tail _ hstep ih =>
    obtain ⟨hsubset, hwords, hlast⟩ := ih
    exact ⟨fun _ hpiece => hsubset (hstep.subset hpiece), hstep.plainWords_eq.trans hwords,
      fun output => (hstep.lastTarget_eq output).trans (hlast output)⟩

end Rewriting

/-! ### Equal outcomes -/

section Outcome

variable {a b : String} {first second : List Token}

/-- **Segments that agree in their plain words, their last input and their last output have one
outcome.** -/
theorem parseSubcommand_congr (ha : tokenize a = .ok first) (hb : tokenize b = .ok second)
    (hwords : plainWords first = plainWords second)
    (hinput : inputTarget first = inputTarget second)
    (houtput : lastTarget true first = lastTarget true second) :
    parseSubcommand a = parseSubcommand b := by
  rw [parseSubcommand_of_tokenize ha, parseSubcommand_of_tokenize hb, hwords, hinput, outputTarget,
    outputTarget, houtput]

/-- A segment that has tokens asks for a subcommand, or it lacks a command. -/
theorem parseSubcommand_cases (ha : tokenize a = .ok first) :
    (∃ sub, parseSubcommand a = .ok sub) ∨ parseSubcommand a = .error .commandMissing := by
  rw [parseSubcommand_of_tokenize ha, Draft.finish]
  split
  · exact .inr rfl
  · exact .inl ⟨_, rfl⟩

end Outcome

/-- **Where redirections are written does not matter.** Two segments that have tokens, the same
plain words in the same order, the same file named by their last input, if they have one, and the
same operator and file in their last output, if they have one, ask for the same subcommand, or both
lack a command. Every segment that has tokens is made of pieces, each a plain word or an operator
with its filename. Put these pieces in any order in which the plain words follow each other as
before, the inputs do and the outputs do, leave out redirections that later ones override, and do so
any number of times: a segment with the words of these pieces has their tokens, and the outcome is
the one before. -/
theorem redirections_may_stand_anywhere :
    (∀ (a b : String) (first second : List Token), tokenize a = .ok first →
      tokenize b = .ok second → plainWords first = plainWords second →
      inputTarget first = inputTarget second →
      lastTarget true first = lastTarget true second →
      (∃ sub, parseSubcommand a = .ok sub ∧ parseSubcommand b = .ok sub) ∨
        RejectedWith (parseSubcommand a) .emptyCommand "no command to execute" ∧
          RejectedWith (parseSubcommand b) .emptyCommand "no command to execute") ∧
    (∀ (a : String) (tokens : List Token), tokenize a = .ok tokens →
      ∃ pieces : List Piece, tokens = pieces.flatMap Piece.tokens) ∧
    ∀ (a b : String) (pieces pieces' : List Piece),
      tokenize a = .ok (pieces.flatMap Piece.tokens) →
      Relation.ReflTransGen Rewriting pieces pieces' →
      Text.words b = pieces'.flatMap Piece.words →
      tokenize b = .ok (pieces'.flatMap Piece.tokens) ∧ parseSubcommand b = parseSubcommand a := by
  refine ⟨fun a b first second ha hb hwords hinput houtput => ?_,
    fun a tokens ha => exists_pieces_of_tokenize ha, fun a b pieces pieces' ha hrewritten hb => ?_⟩
  · have hsame := parseSubcommand_congr ha hb hwords hinput houtput
    rcases parseSubcommand_cases ha with ⟨sub, hsub⟩ | hmissing
    · exact .inl ⟨sub, hsub, hsame ▸ hsub⟩
    · exact .inr ⟨⟨_, hmissing, rfl, rfl⟩, ⟨_, hsame ▸ hmissing, rfl, rfl⟩⟩
  · obtain ⟨hsubset, hwords, hlast⟩ := targets_of_rewritten hrewritten
    have htokens : tokenize b = .ok (pieces'.flatMap Piece.tokens) := by
      rw [tokenize, hb]
      exact classify_pieces fun piece hpiece => sound_of_tokenize ha piece (hsubset hpiece)
    refine ⟨htokens, parseSubcommand_congr htokens ha hwords ?_ (hlast true)⟩
    rw [inputTarget, hlast false, inputTarget]

/-- Two commands with the same last redirections, two segments without a command, and a segment
whose overridden output is left out and whose other redirections are moved to its end. -/
theorem redirections_may_stand_anywhere_moved :
    (∃ sub, parseSubcommand "> x sort < in >> out -r" = .ok sub ∧
        parseSubcommand "< y >> out sort < in -r" = .ok sub) ∧
      (RejectedWith (parseSubcommand "> x < in") .emptyCommand "no command to execute" ∧
        RejectedWith (parseSubcommand "< in >> y > x") .emptyCommand "no command to execute") ∧
      tokenize "sort -r >> out < in" = .ok [⟨"sort", .normal⟩, ⟨"-r", .normal⟩,
        ⟨">>", .redirect .append⟩, ⟨"out", .filename⟩, ⟨"<", .redirect .input⟩,
        ⟨"in", .filename⟩] ∧
      parseSubcommand "sort -r >> out < in" = parseSubcommand "> x sort < in >> out -r" := by
  let sort : Subcommand := ⟨[some "sort", some "-r", none], some "in", some "out", .append⟩
  let pieces : List Piece := [.redirection .truncate "x", .word "sort", .redirection .input "in",
    .redirection .append "out", .word "-r"]
  let moved : List Piece := [.word "sort", .word "-r", .redirection .append "out",
    .redirection .input "in"]
  have htokens : tokenize "> x sort < in >> out -r" = .ok (pieces.flatMap Piece.tokens) := by
    decide +kernel
  have hother : tokenize "< y >> out sort < in -r" = .ok [⟨"<", .redirect .input⟩,
      ⟨"y", .filename⟩, ⟨">>", .redirect .append⟩, ⟨"out", .filename⟩, ⟨"sort", .normal⟩,
      ⟨"<", .redirect .input⟩, ⟨"in", .filename⟩, ⟨"-r", .normal⟩] := by decide +kernel
  have hfirst : tokenize "> x < in" = .ok [⟨">", .redirect .truncate⟩, ⟨"x", .filename⟩,
      ⟨"<", .redirect .input⟩, ⟨"in", .filename⟩] := by decide +kernel
  have hsecond : tokenize "< in >> y > x" = .ok [⟨"<", .redirect .input⟩, ⟨"in", .filename⟩,
      ⟨">>", .redirect .append⟩, ⟨"y", .filename⟩, ⟨">", .redirect .truncate⟩,
      ⟨"x", .filename⟩] := by decide +kernel
  have hsort : parseSubcommand "> x sort < in >> out -r" = .ok sort := by decide +kernel
  have hmissing : parseSubcommand "> x < in" = .error .commandMissing := by decide +kernel
  have hmoved : Relation.ReflTransGen Rewriting pieces moved := by
    -- the output `x` is overridden, and then each of the three orders is kept
    refine .tail (.single (.leaveOut [] .truncate "x" _ ⟨.redirection .append "out", ?_, rfl⟩))
      (.reorder fun direction => ?_)
    · decide
    · rcases direction with _ | _ | _ <;> rfl
  obtain ⟨hsame, -, hrewritten⟩ := redirections_may_stand_anywhere
  refine ⟨?_, ?_, hrewritten _ "sort -r >> out < in" pieces moved htokens hmoved
    (by decide +kernel)⟩
  · refine (hsame _ _ _ _ htokens hother (by decide) (by decide) (by decide)).resolve_right ?_
    rintro ⟨⟨fault, hfault, -⟩, -⟩
    rw [hsort] at hfault
    cases hfault
  · refine (hsame _ _ _ _ hfirst hsecond (by decide) (by decide) (by decide)).resolve_left ?_
    rintro ⟨sub, hsub, -⟩
    rw [hmissing] at hsub
    cases hsub

end ShellPipeline
