import ShellPipeline.Proofs.Accounting

/-!
# The strict rule

Under the strict rule a parse stops behind the first segment that is rejected. The segments of a
line either all parse alone (`AllParse`), or they are good ones, a bad one and a rest
(`FirstFailure`). In the first case the rule has nothing to cut off. In the second the
strict parse makes the attempts on the good segments and on the bad one, and the other parse makes
the same attempts first; what it finds in the rest has higher numbers throughout. So the strict
parse is the other one, cut off at its first error.

* `attempts_eq_attemptAll`, `attempts_true_of_first_failure` — the attempts of a strict parse;
* `errors_parse_eq_nil_iff` — nothing is rejected just where every segment parses alone;
* `accepted_of_allParse` — the numbers of segments that all parse are an interval.
-/

namespace ShellPipeline

/-- Every segment of a list parses alone. -/
def AllParse (segments : List String) : Prop := ∀ s ∈ segments, ∃ sub, parseSubcommand s = .ok sub

/-- **The first segment that does not parse alone**, with the good ones before it. -/
structure FirstFailure (segments good : List String) (bad : String) (rest : List String)
    (fault : SyntaxFault) : Prop where
  /-- Where it is. -/
  cut : segments = good ++ bad :: rest
  /-- The segments before it parse. -/
  good : AllParse good
  /-- It does not. -/
  bad : parseSubcommand bad = .error fault

/-- The error of a segment that does not parse alone, as the segment of a number. -/
def SegmentError.ofFault (index : Nat) (segment : String) (fault : SyntaxFault) : SegmentError :=
  ⟨index, segment, fault, some (index : Int), keptTokens segment⟩

/-! ### Lists up to a member -/

section TakeThrough

variable {α : Type} {test : α → Bool}

/-- A first part without the member that is looked for is kept. -/
theorem takeThrough_append_of_none {l : List α} (h : ∀ a ∈ l, test a = false) (m : List α) :
    takeThrough test (l ++ m) = l ++ takeThrough test m := by
  induction l with
  | nil => rfl
  | cons a l ih =>
    have hrest := ih fun b hb => h b (List.mem_cons_of_mem a hb)
    rw [List.cons_append, takeThrough, h a List.mem_cons_self, hrest]
    rfl

/-- Behind a first part with such a member nothing is kept. -/
theorem takeThrough_append_of_some {l : List α} (h : ∃ a ∈ l, test a = true) (m : List α) :
    takeThrough test (l ++ m) = takeThrough test l := by
  induction l with
  | nil =>
    obtain ⟨a, ha, -⟩ := h
    exact absurd ha List.not_mem_nil
  | cons a l ih =>
    rw [List.cons_append, takeThrough, takeThrough]
    by_cases ha : test a = true
    · rw [if_pos ha, if_pos ha]
    · -- the member is behind the first one
      obtain ⟨b, hb, htest⟩ := h
      have hmem : b ∈ l := by
        rcases List.mem_cons.mp hb with rfl | hb
        · exact absurd htest ha
        · exact hb
      rw [if_neg ha, if_neg ha, ih ⟨b, hmem, htest⟩]

theorem takeThrough_map {β : Type} (f : β → α) (l : List β) :
    takeThrough test (l.map f) = (takeThrough (fun b => test (f b)) l).map f := by
  induction l with
  | nil => rfl
  | cons b l ih =>
    rw [List.map_cons, takeThrough, takeThrough, ih]
    by_cases h : test (f b) = true
    · rw [if_pos h, if_pos h, List.map_singleton]
    · rw [if_neg h, if_neg h, List.map_cons]

theorem takeThrough_eq_self {l : List α} (h : ∀ a ∈ l, test a = false) :
    takeThrough test l = l := by
  have hself := takeThrough_append_of_none h []
  rw [List.append_nil] at hself
  exact hself.trans (List.append_nil l)

end TakeThrough

/-! ### Attempts in a row -/

section Row

variable {segment : String} {segments : List String} {sub : Subcommand} {fault : SyntaxFault}

theorem attemptAll_append (index : Nat) (first second : List String) :
    attemptAll index (first ++ second) =
      attemptAll index first ++ attemptAll (index + first.length) second := by
  rw [attemptAll_eq_map, attemptAll_eq_map, attemptAll_eq_map, List.zipIdx_append,
    List.map_append]

theorem parsed?_ofSegment_of_ok (h : parseSubcommand segment = .ok sub) (index : Nat) :
    (Attempt.ofSegment index segment).parsed? = some ⟨index, sub, keptTokens segment⟩ := by
  rw [ofSegment_eq, Attempt.parsed?, h]

theorem parsed?_ofSegment_of_error (h : parseSubcommand segment = .error fault) (index : Nat) :
    (Attempt.ofSegment index segment).parsed? = none := by
  rw [ofSegment_eq, Attempt.parsed?, h]

theorem error?_ofSegment_of_error (h : parseSubcommand segment = .error fault) (index : Nat) :
    (Attempt.ofSegment index segment).error? = some (.ofFault index segment fault) := by
  rw [ofSegment_eq, Attempt.error?, h]
  rfl

theorem failed_ofSegment_of_error (h : parseSubcommand segment = .error fault) (index : Nat) :
    (Attempt.ofSegment index segment).failed = true := by
  rw [ofSegment_eq, Attempt.failed, h]

/-- Attempts on segments that all parse come to a subcommand. -/
theorem outcome_of_allParse (h : AllParse segments) {index : Nat} {a : Attempt}
    (ha : a ∈ attemptAll index segments) : ∃ sub, a.outcome = .ok sub := by
  obtain ⟨k, segment, hget, rfl⟩ := mem_attemptAll_iff.mp ha
  rw [ofSegment_eq]
  exact h segment (List.mem_of_getElem? hget)

theorem not_failed_of_allParse (h : AllParse segments) {index : Nat} {a : Attempt}
    (ha : a ∈ attemptAll index segments) : a.failed = false := by
  obtain ⟨sub, hsub⟩ := outcome_of_allParse h ha
  rw [Attempt.failed, hsub]

/-- Segments that all parse leave no error. -/
theorem filterMap_error?_of_allParse (h : AllParse segments) (index : Nat) :
    (attemptAll index segments).filterMap (·.error?) = [] := by
  rw [List.filterMap_eq_nil_iff]
  intro a ha
  obtain ⟨sub, hsub⟩ := outcome_of_allParse h ha
  rw [Attempt.error?, hsub]

/-- **Segments that all parse have numbers without a gap.** -/
theorem accepted_of_allParse (h : AllParse segments) (index : Nat) :
    ((attemptAll index segments).filterMap (·.parsed?)).map (·.index) =
      (List.range' index segments.length).map fun i : Nat => (i : Int) := by
  induction segments generalizing index with
  | nil => rfl
  | cons segment rest ih =>
    obtain ⟨sub, hsub⟩ := h segment List.mem_cons_self
    have hrest := ih (fun s hs => h s (List.mem_cons_of_mem segment hs)) (index + 1)
    rw [attemptAll, List.filterMap_cons_some (parsed?_ofSegment_of_ok hsub index), List.map_cons,
      hrest, List.length_cons, List.range'_succ, List.map_cons]

/-- The number of an accepted segment is that of its place. -/
theorem index_of_mem_filterMap_parsed? {index : Nat} {p : ParsedSegment}
    (hp : p ∈ (attemptAll index segments).filterMap (·.parsed?)) :
    ∃ k < segments.length, p.index = ((index + k : Nat) : Int) := by
  obtain ⟨a, ha, hparsed⟩ := List.mem_filterMap.mp hp
  obtain ⟨k, segment, hget, rfl⟩ := mem_attemptAll_iff.mp ha
  rw [ofSegment_eq] at hparsed
  obtain ⟨sub, -, rfl⟩ := parsed?_eq_some_iff.mp hparsed
  exact ⟨k, (List.getElem?_eq_some_iff.mp hget).1, rfl⟩

/-- **Either all segments parse, or there is a first one that does not.** -/
theorem exists_first_failure (segments : List String) :
    AllParse segments ∨ ∃ good bad rest fault, FirstFailure segments good bad rest fault := by
  induction segments with
  | nil => exact .inl fun s hs => absurd hs List.not_mem_nil
  | cons segment segments ih =>
    cases hparse : parseSubcommand segment with
    | error fault =>
      exact .inr ⟨[], segment, segments, fault, rfl, fun s hs => absurd hs List.not_mem_nil,
        hparse⟩
    | ok sub =>
      -- what holds of the segments behind it holds with it in front
      have hcons : ∀ {good : List String}, AllParse good → AllParse (segment :: good) := by
        intro good hgood s hs
        rcases List.mem_cons.mp hs with rfl | hs
        · exact ⟨sub, hparse⟩
        · exact hgood s hs
      rcases ih with hall | ⟨good, bad, rest, fault, rfl, hgood, hbad⟩
      · exact .inl (hcons hall)
      · exact .inr ⟨segment :: good, bad, rest, fault, rfl, hcons hgood, hbad⟩

end Row

/-! ### The attempts of a strict parse -/

/-- Where every segment parses alone, the strict rule has nothing to cut off. -/
theorem attempts_eq_attemptAll {commandline : Commandline} (strict : Bool)
    (h : AllParse commandline.segments) :
    attempts strict commandline = attemptAll 1 commandline.segments := by
  cases strict with
  | false => rfl
  | true => exact takeThrough_eq_self fun a ha => not_failed_of_allParse h ha

section FirstFailure

variable {commandline : Commandline} {line : String} {good rest : List String} {bad : String}
  {fault : SyntaxFault}

/-- **The strict rule stops behind the first segment that does not parse alone.** -/
theorem attempts_true_of_first_failure
    (h : FirstFailure commandline.segments good bad rest fault) :
    attempts true commandline = attemptAll 1 good ++ [.ofSegment (1 + good.length) bad] := by
  -- the rule passes over the good segments and finds the bad one directly behind them
  rw [attempts_true, h.cut, attemptAll_append,
    takeThrough_append_of_none fun a ha => not_failed_of_allParse h.good ha, attemptAll,
    takeThrough, if_pos (failed_ofSegment_of_error h.bad _)]

/-- The strict parse has the error of the first bad segment and no other. -/
theorem errors_true_of_first_failure
    (h : FirstFailure (Commandline.ofLine line).segments good bad rest fault) :
    (parse true line).errors = [.ofFault (1 + good.length) bad fault] := by
  rw [errors_parse, attempts_true_of_first_failure h, List.filterMap_append,
    filterMap_error?_of_allParse h.good, List.nil_append,
    List.filterMap_cons_some (error?_ofSegment_of_error h.bad _), List.filterMap_nil]

/-- The strict parse accepts the good segments before it. -/
theorem segments_true_of_first_failure
    (h : FirstFailure (Commandline.ofLine line).segments good bad rest fault) :
    (parse true line).segments = (attemptAll 1 good).filterMap (·.parsed?) := by
  rw [segments_parse, attempts_true_of_first_failure h, List.filterMap_append,
    List.filterMap_cons_none (parsed?_ofSegment_of_error h.bad _), List.filterMap_nil,
    List.append_nil]

/-- Without the strict rule the same error comes first. -/
theorem errors_false_of_first_failure
    (h : FirstFailure (Commandline.ofLine line).segments good bad rest fault) :
    (parse false line).errors = .ofFault (1 + good.length) bad fault ::
      (attemptAll (1 + good.length + 1) rest).filterMap (·.error?) := by
  rw [errors_parse, attempts_false, h.cut, attemptAll_append, List.filterMap_append,
    filterMap_error?_of_allParse h.good, List.nil_append, attemptAll,
    List.filterMap_cons_some (error?_ofSegment_of_error h.bad _)]

/-- Without the strict rule the same segments are accepted first. -/
theorem segments_false_of_first_failure
    (h : FirstFailure (Commandline.ofLine line).segments good bad rest fault) :
    (parse false line).segments = (attemptAll 1 good).filterMap (·.parsed?) ++
      (attemptAll (1 + good.length + 1) rest).filterMap (·.parsed?) := by
  rw [segments_parse, attempts_false, h.cut, attemptAll_append, List.filterMap_append, attemptAll,
    List.filterMap_cons_none (parsed?_ofSegment_of_error h.bad _)]

end FirstFailure

/-! ### A parse without an error -/

/-- Where every segment parses alone, the strict rule makes no difference. -/
theorem parse_of_allParse {line : String} (strict : Bool)
    (h : AllParse (Commandline.ofLine line).segments) : parse strict line = parse false line := by
  unfold parse Commandline.parse
  rw [attempts_eq_attemptAll strict h, attempts_eq_attemptAll false h]

/-- **Nothing is rejected just where every segment parses alone**, under either rule. -/
theorem errors_parse_eq_nil_iff {strict : Bool} {line : String} :
    (parse strict line).errors = [] ↔ AllParse (Commandline.ofLine line).segments := by
  constructor
  · intro hnil
    rcases exists_first_failure (Commandline.ofLine line).segments with
      hall | ⟨good, bad, rest, fault, h⟩
    · exact hall
    · -- the first bad segment would be an error
      cases strict with
      | false =>
        rw [errors_false_of_first_failure h] at hnil
        exact absurd hnil (List.cons_ne_nil _ _)
      | true =>
        rw [errors_true_of_first_failure h] at hnil
        exact absurd hnil (List.cons_ne_nil _ _)
  · intro hall
    rw [errors_parse, attempts_eq_attemptAll strict hall]
    exact filterMap_error?_of_allParse hall 1

/-! ### The cut -/

section Cut

variable {line : String} {good rest : List String} {bad : String} {fault : SyntaxFault}

/-- **The strict parse has the first error of the other parse**, where there is one, and no
other. -/
theorem errors_true_eq_head? (line : String) :
    (parse true line).errors = (parse false line).errors.head?.toList := by
  rcases exists_first_failure (Commandline.ofLine line).segments with
    hall | ⟨good, bad, rest, fault, h⟩
  · rw [errors_parse_eq_nil_iff.mpr hall, errors_parse_eq_nil_iff.mpr hall]
    rfl
  · rw [errors_true_of_first_failure h, errors_false_of_first_failure h]
    rfl

/-- What the first error says of the line: it is that of the first bad segment. -/
theorem first_failure_of_mem_head? {e : SegmentError} (he : e ∈ (parse false line).errors.head?) :
    ∃ good bad rest fault, FirstFailure (Commandline.ofLine line).segments good bad rest fault ∧
      e = .ofFault (1 + good.length) bad fault := by
  rcases exists_first_failure (Commandline.ofLine line).segments with
    hall | ⟨good, bad, rest, fault, h⟩
  · -- there would be no error at all
    rw [errors_parse_eq_nil_iff.mpr hall] at he
    cases he
  · rw [errors_false_of_first_failure h, List.head?_cons, Option.mem_some_iff] at he
    exact ⟨good, bad, rest, fault, h, he.symm⟩

/-- The segments accepted before the first bad one are those with a lower number. -/
theorem filter_segments_of_first_failure
    (h : FirstFailure (Commandline.ofLine line).segments good bad rest fault) :
    (parse false line).segments.filter (fun p => p.index < ((1 + good.length : Nat) : Int)) =
      (attemptAll 1 good).filterMap (·.parsed?) := by
  have hbefore : ∀ p ∈ (attemptAll 1 good).filterMap (·.parsed?),
      decide (p.index < ((1 + good.length : Nat) : Int)) = true := by
    intro p hp
    obtain ⟨k, hk, hindex⟩ := index_of_mem_filterMap_parsed? hp
    rw [decide_eq_true_iff, hindex]
    omega
  have hbehind : ∀ p ∈ (attemptAll (1 + good.length + 1) rest).filterMap (·.parsed?),
      ¬ decide (p.index < ((1 + good.length : Nat) : Int)) = true := by
    intro p hp
    obtain ⟨k, hk, hindex⟩ := index_of_mem_filterMap_parsed? hp
    rw [decide_eq_true_iff, hindex]
    omega
  rw [segments_false_of_first_failure h, List.filter_append, List.filter_eq_self.mpr hbefore,
    List.filter_eq_nil_iff.mpr hbehind, List.append_nil]

/-- **What the strict parse accepts** is what the other accepts before its first error, one segment
for each number below. -/
theorem segments_true_of_mem_head? {e : SegmentError} (he : e ∈ (parse false line).errors.head?) :
    (parse true line).segments <+: (parse false line).segments ∧
      (parse true line).segments =
        (parse false line).segments.filter (fun p => p.index < e.index) ∧
      ∃ n : Nat, e.index = n + 1 ∧
        (parse true line).accepted = (List.range' 1 n).map fun i : Nat => (i : Int) := by
  obtain ⟨good, bad, rest, fault, h, rfl⟩ := first_failure_of_mem_head? he
  have hstrict := segments_true_of_first_failure h
  refine ⟨?_, ?_, good.length, ?_, ?_⟩
  · rw [hstrict, segments_false_of_first_failure h]
    exact List.prefix_append _ _
  · rw [hstrict]
    exact (filter_segments_of_first_failure h).symm
  · show ((1 + good.length : Nat) : Int) = good.length + 1
    omega
  · rw [ParseResult.accepted, hstrict]
    exact accepted_of_allParse h.good 1

/-- **The first error is about the first segment that does not parse alone.** -/
theorem notice_of_mem_head? {e : SegmentError} (he : e ∈ (parse false line).errors.head?) :
    ∃ (k : Nat) (segment : String) (fault : SyntaxFault),
      (Commandline.ofLine line).segments[k]? = some segment ∧
      parseSubcommand segment = .error fault ∧ e.notice = fault.notice (some (k + 1 : Int)) ∧
      ∀ j < k, ∀ s ∈ (Commandline.ofLine line).segments[j]?,
        ∃ sub, parseSubcommand s = .ok sub := by
  obtain ⟨good, bad, rest, fault, h, rfl⟩ := first_failure_of_mem_head? he
  refine ⟨good.length, bad, fault, ?_, h.bad, ?_, fun j hj s hs => ?_⟩
  · rw [h.cut, List.getElem?_append_right (Nat.le_refl _), Nat.sub_self,
      List.getElem?_cons_zero]
  · have hnumber : ((1 + good.length : Nat) : Int) = good.length + 1 := by
      push_cast
      rw [Int.add_comm]
    rw [SegmentError.notice, SegmentError.ofFault, hnumber]
  · rw [h.cut, List.getElem?_append_left hj] at hs
    exact h.good s (List.mem_of_getElem? hs)

end Cut

/-- **The strict parse is the other one, cut off at its first error.** Both cut the line alike.
Where nothing is rejected, both accept the same. Otherwise the strict parse has the first error of
the other parse and no other error, and it accepts what the other accepts before that error, which
is one segment for each number below. So both are in order or neither is, and both raise the same
notice or none. None is raised where every segment parses alone; else it is the notice about the
first segment that does not. -/
theorem strict_parse_is_cut_off (line : String) :
    let full := parse false line
    let strict := parse true line
    strict.commandline = full.commandline ∧
    (full.errors = [] → strict.segments = full.segments ∧ strict.errors = []) ∧
    (∀ e ∈ full.errors.head?,
      strict.errors = [e] ∧ strict.segments <+: full.segments ∧
      strict.segments = full.segments.filter (fun p => p.index < e.index) ∧
      ∃ n : Nat, e.index = n + 1 ∧
        strict.accepted = (List.range' 1 n).map fun i : Nat => (i : Int)) ∧
    strict.ok = full.ok ∧ strict.firstNotice? = full.firstNotice? ∧
    (full.firstNotice? = none ↔
      ∀ s ∈ full.commandline.segments, ∃ sub, parseSubcommand s = .ok sub) ∧
    ∀ notice ∈ full.firstNotice?, ∃ (k : Nat) (segment : String) (fault : SyntaxFault),
      full.commandline.segments[k]? = some segment ∧ parseSubcommand segment = .error fault ∧
      notice = fault.notice (some (k + 1 : Int)) ∧
      ∀ j < k, ∀ s ∈ full.commandline.segments[j]?, ∃ sub, parseSubcommand s = .ok sub := by
  intro full strict
  have herrors : strict.errors = full.errors.head?.toList := errors_true_eq_head? line
  have hline : strict.commandline = full.commandline :=
    (commandline_parse true line).trans (commandline_parse false line).symm
  refine ⟨hline, fun hnil => ?_, fun e he => ⟨?_, segments_true_of_mem_head? he⟩, ?_, ?_, ?_,
    fun notice hnotice => ?_⟩
  · have hall : AllParse (Commandline.ofLine line).segments := errors_parse_eq_nil_iff.mp hnil
    exact ⟨congrArg (·.segments) (parse_of_allParse true hall), errors_parse_eq_nil_iff.mpr hall⟩
  · rw [herrors, Option.mem_def.mp he]
    rfl
  · rw [ParseResult.ok, ParseResult.ok, herrors]
    cases full.errors <;> rfl
  · rw [ParseResult.firstNotice?, ParseResult.firstNotice?, herrors]
    cases full.errors <;> rfl
  · rw [ParseResult.firstNotice?, Option.map_eq_none_iff, List.head?_eq_none_iff]
    exact errors_parse_eq_nil_iff
  · obtain ⟨e, he, rfl⟩ := Option.map_eq_some_iff.mp hnotice
    exact notice_of_mem_head? he

/-- A line with a good segment, two bad ones of different kinds and a good one again: the second
failure and what stands behind it are cut off. -/
theorem strict_parse_is_cut_off_two_failures :
    let line := "ls|cat <||wc"
    let e : SegmentError := ⟨2, "cat <", .filenameMissing .input, some 2, []⟩
    (parse false line).errors.head? = some e ∧ (parse true line).errors = [e] ∧
      (parse true line).accepted = [1] ∧
      (parse true line).firstNotice? =
        some ⟨.redirect, "missing filename after '<'", some 2⟩ := by
  intro line e
  have he : (parse false line).errors.head? = some e := by decide +kernel
  obtain ⟨-, -, hcut, -, hnotice, -⟩ := strict_parse_is_cut_off line
  obtain ⟨herrors, -, -, n, hindex, haccepted⟩ := hcut e he
  refine ⟨he, herrors, ?_, ?_⟩
  · obtain rfl : n = 1 := by
      have htwo : e.index = 2 := rfl
      omega
    exact haccepted
  · rw [hnotice, ParseResult.firstNotice?, he]
    rfl

end ShellPipeline
