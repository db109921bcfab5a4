import ShellPipeline.Proofs.KeptWords
import ShellPipeline.Proofs.Reach
import ShellPipeline.Proofs.Spelling

/-!
# The tokens kept explain the outcome

A segment is looked at twice, as words and then as tokens, and either look checks that every
operator has its filename. What the first look lets pass is in order for the second
(`gather_of_tokenize`), so a malformed redirection is always found among the words and leaves no
tokens, and tokens that are kept beside an error are redirections without a command. Kept tokens are
those of the segment of their number and of no other: assembled once more they give the outcome once
more.

* `assemble_eq_error_of_tokenize` — the only fault that is left for the second look;
* `eq_redirectionTokens` — tokens without a plain word;
* `tokensFor_of_reached`, `tokensFor_eq_nil` — the tokens kept for a number.
-/

namespace ShellPipeline

/-! ### Two looks at a segment -/

section Looks

variable {segment : String} {tokens : List Token} {fault : SyntaxFault}

/-- Where every operator has its filename, no place is out of order. -/
theorem Bound.not_misplaced (h : Bound tokens) (p : Nat) : ¬ MisplacedAt none tokens p := by
  rintro (⟨⟨f, hf, hkind⟩, hunbound⟩ | ⟨⟨t, ht, hkind⟩, s, hs, hredirect⟩)
  · -- a filename has its operator before it
    obtain ⟨s, hs, hredirect⟩ := h.preceded p f hf hkind
    rw [hunbound s hs] at hredirect
    cases hredirect
  · -- an operator has its filename behind it
    cases p with
    | zero => cases hs
    | succ p =>
      obtain ⟨f, hf, hname⟩ := h.followed p s hs hredirect
      obtain rfl : t = f := Option.mem_unique ht hf
      exact hkind hname

/-- Where every operator has its filename, the last token is no operator. -/
theorem Bound.last (h : Bound tokens) : ∀ s ∈ tokens.getLast?, s.kind.isRedirect = false := by
  intro s hs
  by_contra hne
  have hlast : s ∈ tokens[tokens.length - 1]? := by rwa [← List.getLast?_eq_getElem?]
  obtain ⟨f, hf, -⟩ := h.followed _ s hlast (by simpa using hne)
  -- nothing stands behind the last token
  have hbehind := (List.getElem?_eq_some_iff.mp hf).1
  omega

/-- **The second look finds nothing out of order.** -/
theorem gather_of_tokenize (h : tokenize segment = .ok tokens) :
    gather none .empty tokens = .ok (Draft.absorbAll none .empty tokens) :=
  gather_of_order (bound_of_tokenize h).not_misplaced (bound_of_tokenize h).last

/-- What the second look still finds is that there is no command. -/
theorem assemble_eq_error_of_tokenize (h : tokenize segment = .ok tokens)
    (hfault : assemble tokens = .error fault) : fault = .commandMissing := by
  rw [assemble_of_gather_ok (gather_of_tokenize h)] at hfault
  by_cases hnil : (Draft.absorbAll none .empty tokens).words = []
  · rw [Draft.finish_of_no_words hnil] at hfault
    exact (Except.error.inj hfault).symm
  · rw [Draft.finish_of_words hnil] at hfault
    cases hfault

/-- A fault among the words is one about operators and filenames. -/
theorem kind_of_tokenize_error (h : tokenize segment = .error fault) : fault.kind = .redirect := by
  rcases tokenize_eq_error h with ⟨operator, found, rfl⟩ | ⟨operator, rfl⟩ <;> rfl

/-- **A malformed redirection is found among the words.** -/
theorem tokenize_of_kind_redirect (h : parseSubcommand segment = .error fault)
    (hkind : fault.kind = .redirect) : tokenize segment = .error fault := by
  rcases parseSubcommand_eq_error_iff.mp h with hfault | ⟨tokens, htokens, hfault⟩
  · exact hfault
  · rw [assemble_eq_error_of_tokenize htokens hfault] at hkind
    cases hkind

/-- **A missing command is found among the tokens.** -/
theorem tokenize_of_kind_emptyCommand (h : parseSubcommand segment = .error fault)
    (hkind : fault.kind = .emptyCommand) :
    tokenize segment = .ok (keptTokens segment) ∧
      assemble (keptTokens segment) = .error .commandMissing := by
  rcases parseSubcommand_eq_error_iff.mp h with hfault | ⟨tokens, htokens, hfault⟩
  · rw [kind_of_tokenize_error hfault] at hkind
    cases hkind
  · rw [keptTokens_of_ok htokens]
    exact ⟨htokens, assemble_eq_error_of_tokenize htokens hfault ▸ hfault⟩

theorem kind_of_parseSubcommand_error (h : parseSubcommand segment = .error fault) :
    fault.kind = .redirect ∨ fault.kind = .emptyCommand := by
  rcases parseSubcommand_eq_error_iff.mp h with hfault | ⟨tokens, htokens, hfault⟩
  · exact .inl (kind_of_tokenize_error hfault)
  · rw [assemble_eq_error_of_tokenize htokens hfault]
    exact .inr rfl

/-- The tokens of an accepted segment have a plain word, and they are assembled again. -/
theorem assemble_keptTokens {sub : Subcommand} (h : parseSubcommand segment = .ok sub) :
    assemble (keptTokens segment) = .ok sub ∧ ∃ t ∈ keptTokens segment, t.kind = .normal := by
  obtain ⟨tokens, htokens, hsub⟩ := parseSubcommand_eq_ok_iff.mp h
  rw [keptTokens_of_ok htokens]
  exact ⟨hsub, (exists_assemble_eq_ok_iff.mp ⟨sub, hsub⟩).2⟩

end Looks

/-! ### Tokens without a plain word -/

/-- **A row without a plain word is made of redirections.** -/
theorem eq_redirectionTokens {tokens : List Token} (h : Paired tokens)
    (hnone : ∀ t ∈ tokens, t.kind ≠ .normal)
    (hspelt : ∀ t ∈ tokens, ∀ operator, t.kind = .redirect operator →
      t.contents = operator.symbol) :
    ∃ redirections, tokens = redirectionTokens redirections := by
  obtain ⟨pieces, rfl⟩ := exists_pieces h hspelt
  clear h hspelt
  induction pieces with
  | nil => exact ⟨[], rfl⟩
  | cons piece pieces ih =>
    obtain ⟨redirections, hrest⟩ := ih fun t ht => hnone t (List.mem_append_right _ ht)
    cases piece with
    | word contents => exact absurd rfl (hnone ⟨contents, .normal⟩ List.mem_cons_self)
    | redirection operator filename =>
      refine ⟨(operator, filename) :: redirections, ?_⟩
      rw [List.flatMap_cons, hrest]
      rfl

/-- The tokens of a segment without a command are redirections. -/
theorem redirections_of_tokenize {segment : String} {tokens : List Token}
    (h : tokenize segment = .ok tokens) (hmissing : assemble tokens = .error .commandMissing) :
    ∃ redirections, tokens = redirectionTokens redirections := by
  have hrun := gather_of_tokenize h
  refine eq_redirectionTokens (paired_of_gather hrun) ?_ ?_
  · -- with a plain word the list would be accepted
    intro t ht hkind
    obtain ⟨sub, hsub⟩ := exists_assemble_eq_ok_iff.mpr ⟨paired_of_gather hrun, t, ht, hkind⟩
    rw [hsub] at hmissing
    cases hmissing
  · intro t ht operator hkind
    obtain ⟨-, -, rfl⟩ := tokenize_eq_ok h
    exact contents_of_mem_placed ht hkind

/-! ### Tokens by number -/

section Number

variable {strict : Bool} {line : String}

/-- **The tokens kept for a reached number** are those of its segment. -/
theorem tokensFor_of_reached {k : Nat} {segment : String}
    (hget : (Commandline.ofLine line).segments[k]? = some segment)
    (h : Reached strict (Commandline.ofLine line).segments k) :
    (parse strict line).tokensFor (k + 1) = keptTokens segment :=
  tokensFor_of_number hget (mem_accepted_or_rejected_iff_reached.mpr ⟨k, rfl, h⟩)

/-- **For any other number none are kept.** -/
theorem tokensFor_eq_nil {i : Int}
    (h : ¬ ∃ k : Nat, i = k + 1 ∧ Reached strict (Commandline.ofLine line).segments k) :
    (parse strict line).tokensFor i = [] := by
  rw [← mem_accepted_or_rejected_iff_reached, not_or] at h
  have hsegments : (parse strict line).segments.find? (·.index == i) = none := by
    rw [List.find?_eq_none]
    intro p hp hindex
    exact h.1 (List.mem_map.mpr ⟨p, hp, beq_iff_eq.mp hindex⟩)
  have herrors : (parse strict line).errors.find? (·.index == i) = none := by
    rw [List.find?_eq_none]
    intro e he hindex
    exact h.2 (List.mem_map.mpr ⟨e, he, beq_iff_eq.mp hindex⟩)
  rw [ParseResult.tokensFor, hsegments, herrors]
  rfl

/-- Where a number is not reached, or its segment is not tokenized, none are kept. -/
theorem tokensFor_eq_nil_of_forall {i : Int}
    (h : ∀ (k : Nat) (segment : String) (tokens : List Token), i = k + 1 →
      (Commandline.ofLine line).segments[k]? = some segment →
      Reached strict (Commandline.ofLine line).segments k → tokenize segment ≠ .ok tokens) :
    (parse strict line).tokensFor i = [] := by
  by_cases hreached : ∃ k : Nat, i = k + 1 ∧ Reached strict (Commandline.ofLine line).segments k
  · obtain ⟨k, rfl, hk⟩ := hreached
    obtain ⟨segment, hget⟩ := lt_num_iff.mp (length_segments_ofLine line ▸ hk.inside)
    rw [tokensFor_of_reached hget hk]
    cases htokens : tokenize segment with
    | error fault => exact keptTokens_of_error htokens
    | ok tokens => exact absurd htokens (h k segment tokens rfl hget hk)
  · exact tokensFor_eq_nil hreached

end Number

/-! ### The explanation -/

/-- **The tokens kept explain the outcome.** Under either rule, the tokens of an accepted segment
hold a plain word and assemble to its subcommand again. An error is about a malformed redirection or
about a missing command. One about a redirection keeps no tokens and is the fault among the words;
no fault about a redirection comes from assembling the tokens of a segment. One about a missing
command keeps the tokens of its segment, which are redirections and nothing else, and to assemble
them lacks a command again. An index is that of an entry just where the parse gets to it. For the
indices that it gets to, the tokens kept are those of the segment at that place, where it has
tokens; for every other integer there are none. -/
theorem tokens_explain_outcome (strict : Bool) (line : String) :
    let result := parse strict line
    let segments := result.commandline.segments
    (∀ p ∈ result.segments, (assembleAll p.tokens).1 = .ok p.subcommand ∧
      ∃ t ∈ p.tokens, t.kind = .normal) ∧
    (∀ e ∈ result.errors, e.notice.kind = .redirect ∨ e.notice.kind = .emptyCommand) ∧
    (∀ e ∈ result.errors, e.notice.kind = .redirect →
      e.tokens = [] ∧ tokenize e.segment = .error e.fault) ∧
    (∀ segment tokens fault, tokenize segment = .ok tokens →
      (assembleAll tokens).1 = .error fault → fault.kind ≠ .redirect) ∧
    (∀ e ∈ result.errors, e.notice.kind = .emptyCommand →
      tokenize e.segment = .ok e.tokens ∧
      (∃ redirections, e.tokens = redirectionTokens redirections) ∧
      RejectedWith (assembleAll e.tokens).1 .emptyCommand "no command to execute") ∧
    (∀ i, i ∈ result.accepted ∨ i ∈ result.rejected ↔
      ∃ k : Nat, i = k + 1 ∧ Reached strict segments k) ∧
    (∀ (k : Nat) (segment : String) (tokens : List Token), segments[k]? = some segment →
      Reached strict segments k → tokenize segment = .ok tokens →
      result.tokensFor (k + 1) = tokens) ∧
    ∀ i : Int, (∀ (k : Nat) (segment : String) (tokens : List Token), i = k + 1 →
        segments[k]? = some segment → Reached strict segments k → tokenize segment ≠ .ok tokens) →
      result.tokensFor i = [] := by
  intro result segments
  have hassemble : ∀ tokens, (assembleAll tokens).1 = assemble tokens := fun tokens =>
    congrArg Prod.fst (assembleAll_eq tokens)
  refine ⟨fun p hp => ?_, fun e he => ?_, fun e he hkind => ?_,
    fun segment tokens fault h hfault => ?_, fun e he hkind => ?_,
    fun i => mem_accepted_or_rejected_iff_reached,
    fun k segment tokens hget hreached htokens => ?_, fun i h => tokensFor_eq_nil_of_forall h⟩
  · obtain ⟨k, segment, sub, -, -, hsub, rfl⟩ := mem_segments_iff.mp hp
    rw [hassemble]
    exact assemble_keptTokens hsub
  · obtain ⟨k, segment, fault, -, -, hfault, rfl⟩ := mem_errors_iff.mp he
    exact kind_of_parseSubcommand_error hfault
  · obtain ⟨k, segment, fault, -, -, hfault, rfl⟩ := mem_errors_iff.mp he
    have htokens := tokenize_of_kind_redirect hfault hkind
    exact ⟨keptTokens_of_error htokens, htokens⟩
  · rw [hassemble] at hfault
    rw [assemble_eq_error_of_tokenize h hfault]
    decide
  · obtain ⟨k, segment, fault, -, -, hfault, rfl⟩ := mem_errors_iff.mp he
    obtain ⟨htokens, hmissing⟩ := tokenize_of_kind_emptyCommand hfault hkind
    rw [hassemble]
    exact ⟨htokens, redirections_of_tokenize htokens hmissing, _, hmissing, rfl, rfl⟩
  · exact (tokensFor_of_reached hget hreached).trans (keptTokens_of_ok htokens)

/-- A command, redirections without one, and a malformed redirection: the tokens kept for each, and
for an index before the first. -/
theorem tokens_explain_outcome_three :
    let result := parse false "wc|> out|< >"
    let p : ParsedSegment := ⟨1, ⟨[some "wc", none], none, none, .none⟩, [⟨"wc", .normal⟩]⟩
    let d : SegmentError := ⟨2, "> out", .commandMissing, some 2,
      [⟨">", .redirect .truncate⟩, ⟨"out", .filename⟩]⟩
    let e : SegmentError := ⟨3, "< >", .filenameExpected .input ">", some 3, []⟩
    (p ∈ result.segments ∧ (assembleAll p.tokens).1 = .ok p.subcommand) ∧
      (d ∈ result.errors ∧ tokenize d.segment = .ok d.tokens ∧ result.tokensFor 2 = d.tokens) ∧
      (e ∈ result.errors ∧ tokenize e.segment = .error e.fault) ∧ result.tokensFor 0 = [] := by
  intro result p d e
  have hsegments : result.segments = [p] := by decide +kernel
  have herrors : result.errors = [d, e] := by decide +kernel
  have hget : result.commandline.segments[1]? = some d.segment := by decide +kernel
  have hp : p ∈ result.segments := hsegments ▸ List.mem_cons_self
  have hd : d ∈ result.errors := herrors ▸ List.mem_cons_self
  have he : e ∈ result.errors := herrors ▸ List.mem_cons_of_mem d List.mem_cons_self
  have hreached : Reached false result.commandline.segments 1 :=
    ⟨(List.getElem?_eq_some_iff.mp hget).1, fun h => absurd h (by decide)⟩
  obtain ⟨hparsed, -, hredirect, -, hempty, -, hkept, hnone⟩ :=
    tokens_explain_outcome false "wc|> out|< >"
  have htokens : tokenize d.segment = .ok d.tokens := (hempty d hd rfl).1
  refine ⟨⟨hp, (hparsed p hp).1⟩, ⟨hd, htokens, hkept 1 d.segment d.tokens hget hreached htokens⟩,
    ⟨he, (hredirect e he rfl).2⟩, hnone 0 fun k segment tokens hk => ?_⟩
  omega

end ShellPipeline
