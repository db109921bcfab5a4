import ShellPipeline.Proofs.Assembly
import ShellPipeline.Proofs.Classification
import ShellPipeline.Proofs.Cutoff
import ShellPipeline.Proofs.Words

/-!
# Every word is kept

The tokens that a result keeps of a segment hold the words of that segment, each once and in order.
A line cut at its pipes has, piece by piece, the words that it has with a space in place of each
pipe, so the tokens of a parse without an error hold the words of the whole line. From the words of
a segment its subcommand takes those that are left when every operator and every word directly
behind one is struck out (`unstruck`).

* `tokensFor_of_number` — the tokens kept for the number of a segment;
* `words_spacedPipes` — the words of a line, segment by segment;
* `argv_of_parseSubcommand` — the words that are run.
-/

namespace ShellPipeline

/-! ### Tokens by number -/

section Tokens

variable {strict : Bool} {line : String} {k : Nat} {segment : String}

/-- **The tokens kept for a number** are those of the segment at that place, in whichever of the two
lists the number is. -/
theorem tokensFor_of_number (hget : (Commandline.ofLine line).segments[k]? = some segment)
    (h : (k + 1 : Int) ∈ (parse strict line).accepted ∨
      (k + 1 : Int) ∈ (parse strict line).rejected) :
    (parse strict line).tokensFor (k + 1) = keptTokens segment := by
  unfold ParseResult.tokensFor
  cases hp : (parse strict line).segments.find? (·.index == (k + 1 : Int)) with
  | some p =>
    obtain ⟨k', segment', hget', hindex, htokens, -⟩ :=
      segment_of_mem_segments (List.mem_of_find?_eq_some hp)
    have hnumber : p.index = k + 1 := by simpa using List.find?_some hp
    rw [segment_of_index_unique hnumber hindex hget hget']
    exact htokens
  | none =>
    cases he : (parse strict line).errors.find? (·.index == (k + 1 : Int)) with
    | some e =>
      obtain ⟨k', hget', hindex, -, htokens, -⟩ :=
        segment_of_mem_errors (List.mem_of_find?_eq_some he)
      have hnumber : e.index = k + 1 := by simpa using List.find?_some he
      rw [segment_of_index_unique hnumber hindex hget hget']
      exact htokens
    | none =>
      -- the number would be in neither list
      rw [List.find?_eq_none] at hp he
      rcases h with h | h
      · obtain ⟨p, hmem, hindex⟩ := List.mem_map.mp h
        exact absurd (beq_iff_eq.mpr hindex) (hp p hmem)
      · obtain ⟨e, hmem, hindex⟩ := List.mem_map.mp h
        exact absurd (beq_iff_eq.mpr hindex) (he e hmem)

/-- The tokens kept of a segment hold its words. -/
theorem contents_keptTokens {tokens : List Token} (h : tokenize segment = .ok tokens) :
    (keptTokens segment).map (·.contents) = Text.words segment := by
  rw [keptTokens_of_ok h, contents_of_tokenize h]

end Tokens

/-! ### The words of a whole line -/

/-- A line with a space in place of each pipe. -/
def spacedPipes (line : String) : String := line.map fun c => if c = pipe then ' ' else c

theorem map_intercalate {α β : Type} (f : α → β) (separator : List α) (pieces : List (List α)) :
    (separator.intercalate pieces).map f =
      (separator.map f).intercalate (pieces.map (·.map f)) := by
  induction pieces with
  | nil => rfl
  | cons piece pieces ih =>
    cases pieces with
    | nil => rw [List.intercalate_singleton, List.map_singleton, List.intercalate_singleton]
    | cons next pieces =>
      rw [List.intercalate_cons_cons, List.map_append, List.map_append, ih, List.map_cons,
        List.map_cons, List.map_cons, List.intercalate_cons_cons]

/-- A line with spaces for its pipes is its segments with a space between each two. -/
theorem toList_spacedPipes (line : String) :
    (spacedPipes line).toList = [' '].intercalate (line.toList.splitOn pipe) := by
  have hpieces : (line.toList.splitOn pipe).map (·.map fun c => if c = pipe then ' ' else c) =
      line.toList.splitOn pipe := by
    refine (List.map_congr_left fun piece hpiece => ?_).trans (List.map_id _)
    -- a piece has no pipe, so nothing in it changes
    refine (List.map_congr_left fun c hc => ?_).trans (List.map_id _)
    rw [if_neg]
    · rfl
    · rintro rfl
      exact notMem_of_mem_splitOn hpiece hc
  calc (spacedPipes line).toList
      = line.toList.map fun c => if c = pipe then ' ' else c := String.toList_map
    _ = ([pipe].intercalate (line.toList.splitOn pipe)).map
          fun c => if c = pipe then ' ' else c := by rw [List.intercalate_splitOn]
    _ = [' '].intercalate (line.toList.splitOn pipe) := by
        rw [map_intercalate, hpieces]
        rfl

/-- **The words of a line are the words of its segments**, one segment after the other. -/
theorem words_spacedPipes (line : String) :
    Text.words (spacedPipes line) = (Commandline.ofLine line).segments.flatMap Text.words := by
  rw [Text.words, toList_spacedPipes, Text.wordChars_intercalate_blank (by decide),
    segments_ofLine, List.flatMap_map, List.map_flatMap]
  refine List.flatMap_congr fun piece _ => ?_
  rw [Text.words, String.toList_ofList]

/-- A list can be gone through by its places. -/
theorem flatMap_range_length {α β : Type} {l : List α} {f : α → List β} {g : Nat → List β}
    (h : ∀ k a, l[k]? = some a → g k = f a) : (List.range l.length).flatMap g = l.flatMap f := by
  have hmap : (List.range l.length).map g = l.map f := by
    apply List.ext_getElem
    · rw [List.length_map, List.length_map, List.length_range]
    · intro k _ hk
      rw [List.length_map] at hk
      rw [List.getElem_map, List.getElem_map, List.getElem_range]
      exact h k l[k] (List.getElem?_eq_getElem hk)
  rw [List.flatMap_def, List.flatMap_def, hmap]

/-- Where nothing is rejected, every number has its words kept. -/
theorem contents_tokensFor_of_allParse {strict : Bool} {line : String} {k : Nat} {segment : String}
    (hall : AllParse (Commandline.ofLine line).segments)
    (hget : (Commandline.ofLine line).segments[k]? = some segment) :
    ((parse strict line).tokensFor (k + 1)).map (·.contents) = Text.words segment := by
  obtain ⟨sub, hsub⟩ := hall segment (List.mem_of_getElem? hget)
  obtain ⟨tokens, htokens, -⟩ := parseSubcommand_eq_ok_iff.mp hsub
  rw [parse_of_allParse strict hall,
    tokensFor_of_number hget (.inl ((mem_accepted_iff hget).mpr ⟨sub, hsub⟩)),
    contents_keptTokens htokens]

/-! ### The words that are run -/

/-- A place among words that holds an operator or is directly behind one. -/
def StruckAt (words : List String) (p : Nat) : Prop :=
  (∃ w ∈ words[p]?, IsOperator w) ∨ ∃ u ∈ before? none words p, IsOperator u

instance (words : List String) (p : Nat) : Decidable (StruckAt words p) :=
  inferInstanceAs (Decidable (_ ∨ _))

/-- **The words that are left**, in order, when every operator and every word directly behind one is
struck out. -/
def unstruck (words : List String) : List String :=
  (words.zipIdx.filter fun x => ¬ StruckAt words x.2).map (·.1)

/-- The plain words among the tokens of adjacency are those that are left. -/
theorem contents_normal_placed (words : List String) :
    ((placed none words).filter (·.kind = .normal)).map (·.contents) = unstruck words := by
  have hplaced : placed none words =
      words.zipIdx.map fun x => ⟨x.1, role (before? none words x.2) x.1⟩ :=
    List.mapIdx_eq_zipIdx_map
  have hnormal : ∀ x ∈ words.zipIdx,
      decide (role (before? none words x.2) x.1 = .normal) = decide (¬ StruckAt words x.2) := by
    rintro ⟨w, p⟩ hx
    have hw : words[p]? = some w := List.mk_mem_zipIdx_iff_getElem?.mp hx
    rw [decide_eq_decide, role_eq_normal_iff, StruckAt, hw]
    simp only [Option.mem_some_iff, exists_eq_left']
  rw [hplaced, List.filter_map, List.map_map, unstruck]
  exact congrArg (List.map _) (List.filter_congr hnormal)

/-- **The words that are run** are those that are left when operators and filenames are struck
out. -/
theorem argv_of_parseSubcommand {segment : String} {sub : Subcommand}
    (h : parseSubcommand segment = .ok sub) : sub.argv = unstruck (Text.words segment) := by
  obtain ⟨tokens, htokens, hsub⟩ := parseSubcommand_eq_ok_iff.mp h
  obtain ⟨-, -, rfl⟩ := tokenize_eq_ok htokens
  obtain ⟨-, -, rfl⟩ := assemble_eq_ok hsub
  have hwords := absorbAll_words none .empty (placed none (Text.words segment))
  rw [contents_normal_placed] at hwords
  rw [Subcommand.argv, hwords]
  simp [Draft.empty]

/-! ### Every word -/

/-- **No word is lost, invented, doubled, moved or altered.** Under either rule, a number in one of
the two lists belongs to a segment of the line, and where that segment has tokens, the tokens kept
for the number hold its words. Where nothing is rejected, the tokens of all numbers one after the
other hold the words of the line with a space in place of each pipe. And what an accepted segment
runs is what is left of its words when every operator and every word directly behind one is struck
out. -/
theorem parse_keeps_every_word (strict : Bool) (line : String) :
    let result := parse strict line
    (∀ i, i ∈ result.accepted ∨ i ∈ result.rejected →
      ∃ (k : Nat) (segment : String), i = k + 1 ∧
        result.commandline.segments[k]? = some segment ∧
        ∀ tokens, tokenize segment = .ok tokens →
          (result.tokensFor i).map (·.contents) = Text.words segment) ∧
    (result.ok = true →
      (List.range result.commandline.num).flatMap
          (fun k : Nat => (result.tokensFor (k + 1)).map (·.contents)) =
        Text.words (spacedPipes line)) ∧
    ∀ p ∈ result.segments, ∃ (k : Nat) (segment : String), p.index = k + 1 ∧
      result.commandline.segments[k]? = some segment ∧
      p.subcommand.argv = unstruck (Text.words segment) := by
  intro result
  refine ⟨fun i hi => ?_, fun hok => ?_, fun p hp => ?_⟩
  · obtain ⟨hpos, hle⟩ := number_of_mem hi
    obtain ⟨k, rfl⟩ : ∃ k : Nat, i = k + 1 := ⟨(i - 1).toNat, by omega⟩
    obtain ⟨segment, hget⟩ := lt_num_iff.mp (show k < (Commandline.ofLine line).num by omega)
    refine ⟨k, segment, rfl, hget, fun tokens htokens => ?_⟩
    rw [tokensFor_of_number hget hi, contents_keptTokens htokens]
  · have hall : AllParse (Commandline.ofLine line).segments :=
      errors_parse_eq_nil_iff.mp (List.isEmpty_iff.mp hok)
    have hnum : result.commandline.num = (Commandline.ofLine line).segments.length :=
      (length_segments_ofLine line).symm
    rw [hnum, words_spacedPipes]
    exact flatMap_range_length fun k segment hget => contents_tokensFor_of_allParse hall hget
  · obtain ⟨k, segment, hget, hindex, -, hsub⟩ := segment_of_mem_segments hp
    exact ⟨k, segment, hindex, hget, argv_of_parseSubcommand hsub⟩

/-- Two segments with redirections in between: all words are kept, and the filenames are not run. -/
theorem parse_keeps_every_word_two :
    let result := parse true "sort < in -r|> out wc"
    (1 ∈ result.accepted ∧
      (result.tokensFor 1).map (·.contents) = ["sort", "<", "in", "-r"]) ∧
    (result.ok = true ∧ result.commandline.num = 2 ∧
      (List.range 2).flatMap (fun k : Nat => (result.tokensFor (k + 1)).map (·.contents)) =
        ["sort", "<", "in", "-r", ">", "out", "wc"]) ∧
    ∃ p ∈ result.segments, p.index = 2 ∧ p.subcommand.argv = ["wc"] := by
  intro result
  have hcut : result.commandline = ⟨2, ["sort < in -r", "> out wc"]⟩ := by decide +kernel
  have hsegments : result.commandline.segments = ["sort < in -r", "> out wc"] :=
    congrArg (·.segments) hcut
  have hnum : result.commandline.num = 2 := congrArg (·.num) hcut
  have hone : 1 ∈ result.accepted := by decide +kernel
  have hok : result.ok = true := by decide +kernel
  have htokens : tokenize "sort < in -r" = .ok [⟨"sort", .normal⟩, ⟨"<", .redirect .input⟩,
      ⟨"in", .filename⟩, ⟨"-r", .normal⟩] := by decide +kernel
  have hwords : Text.words "sort < in -r" = ["sort", "<", "in", "-r"] := by decide +kernel
  have hline : Text.words (spacedPipes "sort < in -r|> out wc") =
      ["sort", "<", "in", "-r", ">", "out", "wc"] := by decide +kernel
  have hleft : unstruck (Text.words "> out wc") = ["wc"] := by decide +kernel
  obtain ⟨hkept, hall, hrun⟩ := parse_keeps_every_word true "sort < in -r|> out wc"
  refine ⟨⟨hone, ?_⟩, ⟨hok, hnum, ?_⟩, ?_⟩
  · obtain ⟨k, segment, hk, hget, hcontents⟩ := hkept 1 (.inl hone)
    obtain rfl : k = 0 := by omega
    have hfirst : result.commandline.segments[0]? = some segment := hget
    rw [hsegments] at hfirst
    cases hfirst
    exact (hcontents _ htokens).trans hwords
  · have hjoined := hall hok
    rw [hline] at hjoined
    rw [← hnum]
    exact hjoined
  · obtain ⟨p, hp, hindex⟩ : ∃ p ∈ result.segments, p.index = 2 := by decide +kernel
    obtain ⟨k, segment, hk, hget, hargv⟩ := hrun p hp
    obtain rfl : k = 1 := by omega
    have hsecond : result.commandline.segments[1]? = some segment := hget
    rw [hsegments] at hsecond
    cases hsecond
    exact ⟨p, hp, hindex, hargv.trans hleft⟩

end ShellPipeline
