import ShellPipeline.Proofs.Cutoff
import ShellPipeline.Proofs.Pieces

/-!
# Subcommands and their spelling

A subcommand that comes from a line has plain words only, and whether it has an output decides
whether it has a mode (`Subcommand.WellFormed`). Every such subcommand can be written: its words
first, then the input, then the output behind the operator of its mode (`Subcommand.spelling`), and
a row of subcommands with a pipe between each two (`spellLine`). Reading what is written gives the
subcommands back, and nothing else is ever read.

What is written are pieces, the words of the subcommand and then its redirections, and pieces are
read as they stand (`parseSubcommand_intercalate`). Along a reading nothing but plain words and
filenames gets into a draft (`Draft.Plain.absorb`), so what comes of it is well formed.
-/

namespace ShellPipeline

/-! ### Well-formed subcommands -/

/-- **A word that can stand in a line for itself**: a word without a pipe that is no operator. -/
structure IsPlain (word : String) : Prop where
  /-- It is not empty and has no blank. -/
  isWord : Text.IsWord word.toList
  /-- It has no pipe. -/
  no_pipe : pipe ∉ word.toList
  /-- It is no operator. -/
  not_operator : ¬ IsOperator word

instance (word : String) : Decidable (IsPlain word) :=
  decidable_of_iff (Text.IsWord word.toList ∧ pipe ∉ word.toList ∧ ¬ IsOperator word)
    ⟨fun h => ⟨h.1, h.2.1, h.2.2⟩, fun h => ⟨h.1, h.2, h.3⟩⟩

/-- **A subcommand that a line can ask for.** -/
structure Subcommand.WellFormed (sub : Subcommand) : Prop where
  /-- The vector is at least one plain word, and the mark once, at its end. -/
  args : ∃ words : List String, words ≠ [] ∧ (∀ w ∈ words, IsPlain w) ∧
    sub.execArgs = words.map some ++ [none]
  /-- The mode says that there is no output just where there is none. -/
  mode : sub.mode = .none ↔ sub.output = none
  /-- The input is a plain word. -/
  input : ∀ f ∈ sub.input, IsPlain f
  /-- The output is a plain word. -/
  output : ∀ f ∈ sub.output, IsPlain f

/-! ### Writing -/

/-- The redirections of a subcommand: its input, then its output with the operator of its mode. -/
def Subcommand.redirections (sub : Subcommand) : List (Redirect × String) :=
  (sub.input.map (Redirect.input, ·)).toList ++
    match sub.mode with
    | .append => (sub.output.map (Redirect.append, ·)).toList
    | .truncate => (sub.output.map (Redirect.truncate, ·)).toList
    | .none => []

/-- The words of redirections: each operator with its filename. -/
def redirectionWords (redirections : List (Redirect × String)) : List String :=
  redirections.flatMap fun x => [x.1.symbol, x.2]

/-- **A subcommand as it is written**, with single spaces. -/
def Subcommand.spelling (sub : Subcommand) : String :=
  " ".intercalate (sub.argv ++ redirectionWords sub.redirections)

/-- **A row of subcommands as it is written**, with a pipe between each two. -/
def spellLine (subs : List Subcommand) : String := "|".intercalate (subs.map (·.spelling))

/-- The tokens of redirections. -/
def redirectionTokens (redirections : List (Redirect × String)) : List Token :=
  redirections.flatMap fun x => [⟨x.1.symbol, .redirect x.1⟩, ⟨x.2, .filename⟩]

/-! ### Reading -/

/-- An operator is a word like any other. -/
theorem isWord_symbol (operator : Redirect) : Text.IsWord operator.symbol.toList := by
  cases operator <;> decide +kernel

/-- **Plain words with redirections behind them are read as they stand.** -/
theorem parseSubcommand_intercalate {words : List String}
    {redirections : List (Redirect × String)} (hwords : ∀ w ∈ words, IsPlain w)
    (hfiles : ∀ x ∈ redirections, IsPlain x.2) :
    parseSubcommand (" ".intercalate (words ++ redirectionWords redirections)) =
      (redirections.foldl (fun (d : Draft) x => d.redirect x.2 x.1)
        { Draft.empty with words }).finish := by
  have hword : ∀ w ∈ words ++ redirectionWords redirections, Text.IsWord w.toList := by
    intro w hw
    rcases List.mem_append.mp hw with hw | hw
    · exact (hwords w hw).isWord
    · obtain ⟨x, hx, hw⟩ := List.mem_flatMap.mp hw
      rcases List.mem_pair.mp hw with rfl | rfl
      · exact isWord_symbol x.1
      · exact (hfiles x hx).isWord
  -- the words and the redirections are pieces, and none of them spells an operator
  let pieces := words.map Piece.word ++ redirections.map fun x => .redirection x.1 x.2
  have hpieces : pieces.flatMap Piece.words = words ++ redirectionWords redirections := by
    rw [List.flatMap_append, flatMap_words_word, List.flatMap_map]
    rfl
  have hsound : ∀ piece ∈ pieces, piece.Sound := by
    intro piece hpiece
    rcases List.mem_append.mp hpiece with hpiece | hpiece
    · obtain ⟨w, hw, rfl⟩ := List.mem_map.mp hpiece
      exact (hwords w hw).not_operator
    · obtain ⟨x, hx, rfl⟩ := List.mem_map.mp hpiece
      exact (hfiles x hx).not_operator
  rw [← hpieces] at hword ⊢
  rw [parseSubcommand_of_pieces (tokenize_pieces hsound hword), List.foldl_append, foldl_take_word,
    List.foldl_map]
  rfl

/-! ### What is written is read back -/

theorem Subcommand.WellFormed.argv {sub : Subcommand} (h : sub.WellFormed) :
    sub.argv ≠ [] ∧ (∀ w ∈ sub.argv, IsPlain w) ∧
      sub.execArgs = sub.argv.map some ++ [none] := by
  obtain ⟨words, hne, hplain, hargs⟩ := h.args
  have hargv : sub.argv = words := by
    rw [Subcommand.argv, hargs]
    simp
  rw [hargv]
  exact ⟨hne, hplain, hargs⟩

theorem Subcommand.WellFormed.redirections {sub : Subcommand} (h : sub.WellFormed) :
    ∀ x ∈ sub.redirections, IsPlain x.2 := by
  intro x hx
  rcases List.mem_append.mp hx with hx | hx
  · obtain ⟨f, hf, rfl⟩ := Option.map_eq_some_iff.mp (Option.mem_toList.mp hx)
    exact h.input f hf
  · -- the mode only picks the operator, the filename is the output under either
    cases hm : sub.mode <;> simp only [hm] at hx
    · obtain ⟨f, hf, rfl⟩ := Option.map_eq_some_iff.mp (Option.mem_toList.mp hx)
      exact h.output f hf
    · obtain ⟨f, hf, rfl⟩ := Option.map_eq_some_iff.mp (Option.mem_toList.mp hx)
      exact h.output f hf
    · cases hx

/-- The redirections of a well-formed subcommand lead a draft to its input, output and mode. -/
theorem Subcommand.WellFormed.foldl_redirections {sub : Subcommand} (h : sub.WellFormed)
    (words : List String) :
    sub.redirections.foldl (fun (d : Draft) x => d.redirect x.2 x.1) { Draft.empty with words } =
      ⟨words, sub.input, sub.output, sub.mode⟩ := by
  have hmode := h.mode
  unfold Subcommand.redirections
  rw [List.foldl_append]
  -- a mode without an output and an output without a mode contradict `hmode`
  cases sub.input <;> cases hm : sub.mode <;> cases ho : sub.output <;>
    first
    | rfl
    | (rw [hm, ho] at hmode; simp at hmode)

/-- **A well-formed subcommand that is written is read back.** -/
theorem parseSubcommand_spelling {sub : Subcommand} (h : sub.WellFormed) :
    parseSubcommand sub.spelling = .ok sub := by
  obtain ⟨hne, hplain, hargs⟩ := h.argv
  rw [Subcommand.spelling, parseSubcommand_intercalate hplain h.redirections,
    h.foldl_redirections, Draft.finish_of_words hne]
  simp only [← hargs]

/-- What a well-formed subcommand is written with has no pipe. -/
theorem pipe_notMem_spelling {sub : Subcommand} (h : sub.WellFormed) :
    pipe ∉ sub.spelling.toList := by
  intro hpipe
  -- the pipe would be in a space, in a word, in an operator or in a filename
  rw [Subcommand.spelling, String.toList_intercalate] at hpipe
  obtain hspace | ⟨piece, hpiece, hpipe⟩ := mem_intercalate hpipe
  · exact absurd hspace (by decide)
  · obtain ⟨w, hw, rfl⟩ := List.mem_map.mp hpiece
    rcases List.mem_append.mp hw with hw | hw
    · exact (h.argv.2.1 w hw).no_pipe hpipe
    · obtain ⟨x, hx, hw⟩ := List.mem_flatMap.mp hw
      rcases List.mem_pair.mp hw with rfl | rfl
      · revert hpipe
        cases x.1 <;> decide
      · exact (h.redirections x hx).no_pipe hpipe

/-! ### A row of subcommands -/

/-- The attempts on written subcommands are those subcommands, numbered from `index` on. -/
theorem filterMap_parsed?_spelling {subs : List Subcommand} (h : ∀ s ∈ subs, s.WellFormed)
    (index : Nat) :
    ((attemptAll index (subs.map (·.spelling))).filterMap (·.parsed?)).map
        (fun p => (p.index, p.subcommand)) =
      (subs.zipIdx index).map fun x => ((x.2 : Int), x.1) := by
  induction subs generalizing index with
  | nil => rfl
  | cons sub subs ih =>
    have hparsed : (Attempt.ofSegment index sub.spelling).parsed? =
        some ⟨index, sub, keptTokens sub.spelling⟩ := by
      rw [ofSegment_eq, parsed?_eq_some_iff]
      exact ⟨sub, parseSubcommand_spelling (h sub List.mem_cons_self), rfl⟩
    rw [List.map_cons, attemptAll, List.filterMap_cons_some hparsed, List.map_cons,
      ih (fun s hs => h s (List.mem_cons_of_mem sub hs)), List.zipIdx_cons, List.map_cons]

/-- **A row of well-formed subcommands that is written is read back**, under either rule. -/
theorem parse_spellLine (strict : Bool) {subs : List Subcommand} (hne : subs ≠ [])
    (h : ∀ s ∈ subs, s.WellFormed) :
    (parse strict (spellLine subs)).errors = [] ∧
      (parse strict (spellLine subs)).commandline.num = subs.length ∧
      (parse strict (spellLine subs)).segments.map (fun p => (p.index, p.subcommand)) =
        (subs.zipIdx 1).map fun x => ((x.2 : Int), x.1) := by
  have hcut : (Commandline.ofLine (spellLine subs)).segments = subs.map (·.spelling) := by
    refine ofLine_intercalate (by simpa using hne) fun s hs => ?_
    obtain ⟨sub, hsub, rfl⟩ := List.mem_map.mp hs
    exact pipe_notMem_spelling (h sub hsub)
  have hok : AllParse (Commandline.ofLine (spellLine subs)).segments := by
    intro s hs
    rw [hcut] at hs
    obtain ⟨sub, hsub, rfl⟩ := List.mem_map.mp hs
    exact ⟨sub, parseSubcommand_spelling (h sub hsub)⟩
  refine ⟨errors_parse_eq_nil_iff.mpr hok, ?_, ?_⟩
  · have hlength := length_segments_ofLine (spellLine subs)
    rw [hcut, List.length_map] at hlength
    exact hlength.symm
  · -- nothing is cut off, so the attempts are those on the whole row
    rw [segments_parse, attempts_eq_attemptAll strict hok, hcut]
    exact filterMap_parsed?_spelling h 1

/-! ### What is read is well formed -/

/-- **What a draft may hold** while plain words and filenames are gathered. -/
structure Draft.Plain (draft : Draft) : Prop where
  /-- The words. -/
  words : ∀ w ∈ draft.words, IsPlain w
  /-- The mode. -/
  mode : draft.mode = .none ↔ draft.output = none
  /-- The input. -/
  input : ∀ f ∈ draft.input, IsPlain f
  /-- The output. -/
  output : ∀ f ∈ draft.output, IsPlain f

theorem Draft.Plain.redirect {draft : Draft} (h : draft.Plain) {f : String} (hf : IsPlain f)
    (operator : Redirect) : (draft.redirect f operator).Plain := by
  have hfile : ∀ g ∈ some f, IsPlain g := fun g hg => Option.mem_some.mp hg ▸ hf
  cases operator with
  | input => exact ⟨h.words, h.mode, hfile, h.output⟩
  | append => exact ⟨h.words, by simp [Draft.redirect], h.input, hfile⟩
  | truncate => exact ⟨h.words, by simp [Draft.redirect], h.input, hfile⟩

/-- **One token** keeps a draft plain, when its contents are. -/
theorem Draft.Plain.absorb {draft : Draft} (h : draft.Plain) (waiting : Option Redirect)
    {t : Token} (ht : t.kind.isRedirect = false → IsPlain t.contents) :
    (draft.absorb waiting t).Plain := by
  unfold Draft.absorb
  split
  · next hkind =>
      -- a plain word
      have hword : IsPlain t.contents := ht (by rw [hkind]; rfl)
      refine ⟨fun w hw => ?_, h.mode, h.input, h.output⟩
      rcases List.mem_append.mp hw with hw | hw
      · exact h.words w hw
      · exact List.mem_singleton.mp hw ▸ hword
  · next hkind =>
      -- a filename behind its operator
      exact h.redirect (ht (by rw [hkind]; rfl)) _
  · -- anything else leaves the draft alone
    exact h

/-- **A list of tokens** keeps a draft plain, when their contents are. -/
theorem Draft.Plain.absorbAll {draft : Draft} (h : draft.Plain) (previous : Option Token)
    {tokens : List Token}
    (ht : ∀ t ∈ tokens, t.kind.isRedirect = false → IsPlain t.contents) :
    (draft.absorbAll previous tokens).Plain := by
  induction tokens generalizing draft previous with
  | nil => exact h
  | cons t tokens ih =>
    exact ih (h.absorb _ (ht t List.mem_cons_self)) _ fun u hu => ht u (List.mem_cons_of_mem t hu)

/-- Plain words and filenames of a segment without a pipe are plain. -/
theorem isPlain_of_mem_placed {segment : String} {t : Token} (hpipe : pipe ∉ segment.toList)
    (ht : t ∈ placed none (Text.words segment)) (hkind : t.kind.isRedirect = false) :
    IsPlain t.contents := by
  have hword : t.contents ∈ Text.words segment := by
    rw [← contents_placed none (Text.words segment)]
    exact List.mem_map_of_mem ht
  exact ⟨Text.isWord_of_mem_words hword, fun h => hpipe (Text.mem_of_mem_words hword h),
    not_isOperator_of_mem_placed ht hkind⟩

/-- **What a segment asks for is well formed.** -/
theorem wellFormed_of_parseSubcommand {segment : String} {sub : Subcommand}
    (hpipe : pipe ∉ segment.toList) (h : parseSubcommand segment = .ok sub) : sub.WellFormed := by
  obtain ⟨tokens, htokens, hsub⟩ := parseSubcommand_eq_ok_iff.mp h
  -- the subcommand is the draft that the tokens of adjacency add up to
  obtain ⟨-, -, rfl⟩ := tokenize_eq_ok htokens
  obtain ⟨-, hne, rfl⟩ := assemble_eq_ok hsub
  have hempty : Draft.empty.Plain :=
    ⟨fun w hw => absurd hw List.not_mem_nil, by simp [Draft.empty],
      fun f hf => absurd hf (Option.not_mem_none f), fun f hf => absurd hf (Option.not_mem_none f)⟩
  have hplain := hempty.absorbAll none fun t ht hkind => isPlain_of_mem_placed hpipe ht hkind
  exact ⟨⟨_, hne, hplain.words, rfl⟩, hplain.mode, hplain.input, hplain.output⟩

theorem wellFormed_of_mem_segments {strict : Bool} {line : String} {p : ParsedSegment}
    (h : p ∈ (parse strict line).segments) : p.subcommand.WellFormed := by
  obtain ⟨k, segment, hget, -, -, hsub⟩ := segment_of_mem_segments h
  exact wellFormed_of_parseSubcommand
    (pipe_notMem_of_mem_segments (List.mem_of_getElem? hget)) hsub

/-! ### The image of the parser -/

/-- **The well-formed subcommands are what lines ask for.** Under either rule, a row of well-formed
subcommands that is written is read back: nothing is rejected, there are as many segments as
subcommands, and the accepted segments are the subcommands in order, numbered from one. Under either
rule, every subcommand that any line asks for is well formed. So a subcommand is asked for by some
line just when it is well formed. -/
theorem parse_image_is_wellFormed (strict : Bool) :
    (∀ subs : List Subcommand, subs ≠ [] → (∀ s ∈ subs, s.WellFormed) →
      let result := parse strict (spellLine subs)
      result.errors = [] ∧ result.commandline.num = subs.length ∧
        result.segments.map (fun p => (p.index, p.subcommand)) =
          (subs.zipIdx 1).map fun x => ((x.2 : Int), x.1)) ∧
    (∀ line, ∀ p ∈ (parse strict line).segments, p.subcommand.WellFormed) ∧
    ∀ sub : Subcommand, sub.WellFormed ↔
      ∃ line, ∃ p ∈ (parse strict line).segments, p.subcommand = sub := by
  refine ⟨fun subs hne h => parse_spellLine strict hne h,
    fun line p hp => wellFormed_of_mem_segments hp, fun sub => ⟨fun h => ?_, ?_⟩⟩
  · -- the line that asks for it is its spelling
    obtain ⟨-, -, hsegments⟩ := parse_spellLine strict (List.cons_ne_nil sub [])
      fun s hs => List.mem_singleton.mp hs ▸ h
    have hmem : ((1 : Int), sub) ∈ (parse strict (spellLine [sub])).segments.map
        fun p => (p.index, p.subcommand) := by
      rw [hsegments]
      exact List.mem_singleton.mpr rfl
    obtain ⟨p, hp, hpair⟩ := List.mem_map.mp hmem
    exact ⟨_, p, hp, congrArg Prod.snd hpair⟩
  · rintro ⟨line, p, hp, rfl⟩
    exact wellFormed_of_mem_segments hp

/-- Two subcommands in a row, one of them with an input and an output. -/
theorem parse_image_is_wellFormed_two :
    let sort : Subcommand := ⟨[some "sort", some "-r", none], some "in", some "out", .append⟩
    let count : Subcommand := ⟨[some "wc", none], none, none, .none⟩
    let result := parse true "sort -r < in >> out|wc"
    result.errors = [] ∧ result.commandline.num = 2 ∧
      result.segments.map (fun p => (p.index, p.subcommand)) = [(1, sort), (2, count)] := by
  intro sort count
  have hline : spellLine [sort, count] = "sort -r < in >> out|wc" := by decide +kernel
  have hplain : ∀ w ∈ ["sort", "-r", "in", "out", "wc"], IsPlain w := by decide +kernel
  have hsort : sort.WellFormed :=
    { args := ⟨["sort", "-r"], by decide, fun w hw => hplain w (by revert w; decide), rfl⟩
      mode := by decide
      input := fun f hf => hplain f (by cases hf; decide)
      output := fun f hf => hplain f (by cases hf; decide) }
  have hcount : count.WellFormed :=
    { args := ⟨["wc"], by decide, fun w hw => hplain w (by revert w; decide), rfl⟩
      mode := by decide
      input := fun f hf => absurd hf (Option.not_mem_none f)
      output := fun f hf => absurd hf (Option.not_mem_none f) }
  have hread := (parse_image_is_wellFormed true).1 [sort, count] (List.cons_ne_nil _ _) (by
    intro s hs
    rcases List.mem_pair.mp hs with rfl | rfl
    · exact hsort
    · exact hcount)
  rw [hline] at hread
  exact hread

end ShellPipeline
