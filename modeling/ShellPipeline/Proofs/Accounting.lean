import ShellPipeline.Pipeline
import ShellPipeline.Proofs.Segments

/-!
# Every segment is accounted for

A parse makes one attempt on each segment, and its two lists, accepted and rejected, are read off
the attempts. An attempt tokenizes and assembles by itself; `ofSegment_eq` says that this is what
parsing the segment alone does. The attempts are numbered without gaps, so each number is in exactly
one of the lists, at its place in the order.

* `mem_attemptAll_iff` — the attempts, one for each position of a list of segments;
* `attempts_prefix_attemptAll` — the strict rule only cuts the attempts off;
* `segment_of_mem_segments`, `segment_of_mem_errors` — what an entry of either list says of its
  segment;
* `mem_segments_of_ok`, `mem_errors_of_error` — which entry a segment has.
-/

namespace ShellPipeline

/-! ### One attempt -/

/-- The tokens that are kept of a segment: all of them, or none where a fault is among its words. -/
def keptTokens (segment : String) : List Token := (tokenize segment).toOption.getD []

theorem keptTokens_of_ok {segment : String} {tokens : List Token}
    (h : tokenize segment = .ok tokens) : keptTokens segment = tokens := by
  rw [keptTokens, h]
  rfl

theorem keptTokens_of_error {segment : String} {fault : SyntaxFault}
    (h : tokenize segment = .error fault) : keptTokens segment = [] := by
  rw [keptTokens, h]
  rfl

/-- **An attempt is the parse of its segment alone**, with the tokens kept. -/
theorem ofSegment_eq (index : Nat) (segment : String) :
    Attempt.ofSegment index segment =
      ⟨index, segment, keptTokens segment, parseSubcommand segment⟩ := by
  unfold Attempt.ofSegment keptTokens parseSubcommand
  cases tokenize segment <;> rfl

/-- A segment that parses has tokens, and they are assembled. -/
theorem parseSubcommand_eq_ok_iff {segment : String} {sub : Subcommand} :
    parseSubcommand segment = .ok sub ↔
      ∃ tokens, tokenize segment = .ok tokens ∧ assemble tokens = .ok sub := by
  unfold parseSubcommand
  cases tokenize segment with
  | error fault => exact ⟨fun h => (by cases h), fun ⟨_, h, _⟩ => (by cases h)⟩
  | ok tokens => exact ⟨fun h => ⟨tokens, rfl, h⟩, fun ⟨_, h, hsub⟩ => Except.ok.inj h ▸ hsub⟩

/-- A segment that does not parse has a fault among its words or one among its tokens. -/
theorem parseSubcommand_eq_error_iff {segment : String} {fault : SyntaxFault} :
    parseSubcommand segment = .error fault ↔ tokenize segment = .error fault ∨
      ∃ tokens, tokenize segment = .ok tokens ∧ assemble tokens = .error fault := by
  unfold parseSubcommand
  cases tokenize segment with
  | error found =>
    constructor
    · intro h
      exact .inl (congrArg Except.error (Except.error.inj h))
    · rintro (h | ⟨_, h, -⟩)
      · exact congrArg Except.error (Except.error.inj h)
      · cases h
  | ok tokens =>
    constructor
    · intro h
      exact .inr ⟨tokens, rfl, h⟩
    · rintro (h | ⟨_, h, hfault⟩)
      · cases h
      · exact Except.ok.inj h ▸ hfault

theorem parsed?_eq_some_iff {a : Attempt} {p : ParsedSegment} :
    a.parsed? = some p ↔ ∃ sub, a.outcome = .ok sub ∧ p = ⟨a.index, sub, a.tokens⟩ := by
  unfold Attempt.parsed?
  cases a.outcome <;> simp [eq_comm]

theorem error?_eq_some_iff {a : Attempt} {e : SegmentError} :
    a.error? = some e ↔
      ∃ fault, a.outcome = .error fault ∧
        e = ⟨a.index, a.segment, fault, some a.index, a.tokens⟩ := by
  unfold Attempt.error?
  cases a.outcome <;> simp [eq_comm]

/-! ### The attempts on a line -/

theorem attemptAll_eq_map (index : Nat) (segments : List String) :
    attemptAll index segments =
      (segments.zipIdx index).map fun x => Attempt.ofSegment x.2 x.1 := by
  induction segments generalizing index with
  | nil => rfl
  | cons segment rest ih => rw [attemptAll, ih, List.zipIdx_cons, List.map_cons]

/-- **There is one attempt for each position.** -/
theorem mem_attemptAll_iff {index : Nat} {segments : List String} {a : Attempt} :
    a ∈ attemptAll index segments ↔
      ∃ k segment, segments[k]? = some segment ∧ a = .ofSegment (index + k) segment := by
  rw [attemptAll_eq_map, List.mem_map]
  constructor
  · rintro ⟨⟨segment, n⟩, hmem, rfl⟩
    obtain ⟨hle, hget⟩ := List.mk_mem_zipIdx_iff_le_and_getElem?_sub.mp hmem
    refine ⟨n - index, segment, hget, ?_⟩
    rw [Nat.add_sub_cancel' hle]
  · rintro ⟨k, segment, hget, rfl⟩
    exact ⟨(segment, index + k), List.mk_add_mem_zipIdx_iff_getElem?.mpr hget, rfl⟩

/-- The numbers of the attempts grow along the list. -/
theorem attemptAll_pairwise (index : Nat) (segments : List String) :
    (attemptAll index segments).Pairwise fun a b => a.index < b.index := by
  -- the numbers are an interval
  have hindex : (attemptAll index segments).map (·.index) = List.range' index segments.length := by
    rw [attemptAll_eq_map, List.map_map, ← List.zipIdx_map_snd]
    refine List.map_congr_left fun x _ => ?_
    rw [Function.comp_apply, ofSegment_eq]
  rw [← List.pairwise_map (f := Attempt.index) (R := (· < ·)), hindex]
  exact List.pairwise_lt_range'

theorem takeThrough_prefix_self {α : Type} (test : α → Bool) (l : List α) :
    takeThrough test l <+: l := by
  induction l with
  | nil => exact List.prefix_rfl
  | cons a rest ih =>
    unfold takeThrough
    split
    · exact ⟨rest, rfl⟩
    · exact List.cons_prefix_cons.mpr ⟨rfl, ih⟩

@[simp] theorem attempts_false (commandline : Commandline) :
    attempts false commandline = attemptAll 1 commandline.segments := rfl

theorem attempts_true (commandline : Commandline) :
    attempts true commandline =
      takeThrough Attempt.failed (attemptAll 1 commandline.segments) := rfl

/-- The strict rule looks at a first part of the attempts. -/
theorem attempts_prefix_attemptAll (strict : Bool) (commandline : Commandline) :
    attempts strict commandline <+: attemptAll 1 commandline.segments := by
  unfold attempts
  cases strict with
  | false => exact List.prefix_rfl
  | true => exact takeThrough_prefix_self _ _

theorem attempts_pairwise (strict : Bool) (commandline : Commandline) :
    (attempts strict commandline).Pairwise fun a b => a.index < b.index :=
  (attemptAll_pairwise 1 commandline.segments).sublist
    (attempts_prefix_attemptAll strict commandline).sublist

/-! ### The two lists of a result -/

section Lists

variable {strict : Bool} {line : String}

theorem commandline_parse (strict : Bool) (line : String) :
    (parse strict line).commandline = .ofLine line := rfl

theorem segments_parse (strict : Bool) (line : String) :
    (parse strict line).segments = (attempts strict (.ofLine line)).filterMap (·.parsed?) := rfl

theorem errors_parse (strict : Bool) (line : String) :
    (parse strict line).errors = (attempts strict (.ofLine line)).filterMap (·.error?) := rfl

/-- The numbers of the accepted segments grow along the list. -/
theorem segments_pairwise (strict : Bool) (line : String) :
    (parse strict line).segments.Pairwise fun p q => p.index < q.index := by
  -- what is kept of an attempt has its number
  refine List.Pairwise.filterMap _ ?_ (attempts_pairwise strict (.ofLine line))
  intro a b hab p hp q hq
  obtain ⟨_, -, rfl⟩ := parsed?_eq_some_iff.mp hp
  obtain ⟨_, -, rfl⟩ := parsed?_eq_some_iff.mp hq
  exact Int.ofNat_lt.mpr hab

/-- The numbers of the rejected segments grow along the list. -/
theorem errors_pairwise (strict : Bool) (line : String) :
    (parse strict line).errors.Pairwise fun d e => d.index < e.index := by
  refine List.Pairwise.filterMap _ ?_ (attempts_pairwise strict (.ofLine line))
  intro a b hab d hd e he
  obtain ⟨_, -, rfl⟩ := error?_eq_some_iff.mp hd
  obtain ⟨_, -, rfl⟩ := error?_eq_some_iff.mp he
  exact Int.ofNat_lt.mpr hab

/-- An accepted segment is what parsing the segment of its number alone gives. -/
theorem segment_of_mem_segments {p : ParsedSegment} (h : p ∈ (parse strict line).segments) :
    ∃ (k : Nat) (segment : String), (Commandline.ofLine line).segments[k]? = some segment ∧
      p.index = k + 1 ∧ p.tokens = keptTokens segment ∧
      parseSubcommand segment = .ok p.subcommand := by
  rw [segments_parse, List.mem_filterMap] at h
  obtain ⟨a, ha, hp⟩ := h
  obtain ⟨k, segment, hget, rfl⟩ :=
    mem_attemptAll_iff.mp ((attempts_prefix_attemptAll _ _).subset ha)
  rw [ofSegment_eq] at hp
  obtain ⟨sub, hsub, rfl⟩ := parsed?_eq_some_iff.mp hp
  refine ⟨k, segment, hget, ?_, rfl, hsub⟩
  push_cast
  omega

/-- A rejected segment is the fault of parsing the segment of its number alone. -/
theorem segment_of_mem_errors {e : SegmentError} (h : e ∈ (parse strict line).errors) :
    ∃ k : Nat, (Commandline.ofLine line).segments[k]? = some e.segment ∧
      e.index = k + 1 ∧ e.shown = some (k + 1 : Int) ∧ e.tokens = keptTokens e.segment ∧
      parseSubcommand e.segment = .error e.fault := by
  rw [errors_parse, List.mem_filterMap] at h
  obtain ⟨a, ha, he⟩ := h
  obtain ⟨k, segment, hget, rfl⟩ :=
    mem_attemptAll_iff.mp ((attempts_prefix_attemptAll _ _).subset ha)
  rw [ofSegment_eq] at he
  obtain ⟨fault, hfault, rfl⟩ := error?_eq_some_iff.mp he
  refine ⟨k, hget, ?_, ?_, rfl, hfault⟩
  · push_cast
    omega
  · push_cast
    rw [Int.add_comm]

/-- A number belongs to one place of the line, and so to one segment. -/
theorem segment_of_index_unique {k k' : Nat} {i : Int} {segment segment' : String}
    (hindex : i = k + 1) (hindex' : i = k' + 1)
    (hget : (Commandline.ofLine line).segments[k]? = some segment)
    (hget' : (Commandline.ofLine line).segments[k']? = some segment') : segment = segment' := by
  obtain rfl : k = k' := by omega
  exact Option.some.inj (hget.symm.trans hget')

/-- The accepted segment of a number is the parse of the segment at that place. -/
theorem parseSubcommand_of_index {p : ParsedSegment} {k : Nat} {segment : String}
    (h : p ∈ (parse strict line).segments) (hindex : p.index = k + 1)
    (hget : (Commandline.ofLine line).segments[k]? = some segment) :
    parseSubcommand segment = .ok p.subcommand := by
  obtain ⟨k', segment', hget', hindex', -, hsub⟩ := segment_of_mem_segments h
  rw [segment_of_index_unique hindex hindex' hget hget']
  exact hsub

/-- No number is both that of an accepted segment and that of a rejected one. -/
theorem index_ne_of_mem {p : ParsedSegment} {e : SegmentError}
    (hp : p ∈ (parse strict line).segments) (he : e ∈ (parse strict line).errors) :
    p.index ≠ e.index := by
  intro hindex
  -- the same segment would parse alone and fail to
  obtain ⟨k, hget, hk, -, -, hfault⟩ := segment_of_mem_errors he
  rw [parseSubcommand_of_index hp (hindex.trans hk) hget] at hfault
  cases hfault

/-- Without the strict rule every segment that parses alone is accepted. -/
theorem mem_segments_of_ok {k : Nat} {segment : String} {sub : Subcommand}
    (hget : (Commandline.ofLine line).segments[k]? = some segment)
    (hsub : parseSubcommand segment = .ok sub) :
    ⟨k + 1, sub, keptTokens segment⟩ ∈ (parse false line).segments := by
  rw [segments_parse, attempts_false, List.mem_filterMap]
  refine ⟨_, mem_attemptAll_iff.mpr ⟨k, segment, hget, rfl⟩, ?_⟩
  rw [ofSegment_eq, parsed?_eq_some_iff]
  refine ⟨sub, hsub, ?_⟩
  push_cast
  rw [Int.add_comm]

/-- Without the strict rule every segment that does not parse alone is rejected. -/
theorem mem_errors_of_error {k : Nat} {segment : String} {fault : SyntaxFault}
    (hget : (Commandline.ofLine line).segments[k]? = some segment)
    (hfault : parseSubcommand segment = .error fault) :
    ⟨k + 1, segment, fault, some (k + 1 : Int), keptTokens segment⟩ ∈
      (parse false line).errors := by
  rw [errors_parse, attempts_false, List.mem_filterMap]
  refine ⟨_, mem_attemptAll_iff.mpr ⟨k, segment, hget, rfl⟩, ?_⟩
  rw [ofSegment_eq, error?_eq_some_iff]
  refine ⟨fault, hfault, ?_⟩
  push_cast
  rw [Int.add_comm]

end Lists

/-! ### The numbers in the two lists -/

/-- The numbers of the accepted segments. -/
def ParseResult.accepted (result : ParseResult) : List Int := result.segments.map (·.index)

/-- The numbers of the rejected segments. -/
def ParseResult.rejected (result : ParseResult) : List Int := result.errors.map (·.index)

section Numbers

variable {line : String}

theorem accepted_disjoint_rejected (strict : Bool) (line : String) :
    (parse strict line).accepted.Disjoint (parse strict line).rejected := by
  intro i hi hj
  obtain ⟨p, hp, rfl⟩ := List.mem_map.mp hi
  obtain ⟨e, he, hindex⟩ := List.mem_map.mp hj
  exact index_ne_of_mem hp he hindex.symm

/-- Every number in one of the lists is the number of a segment. -/
theorem number_of_mem {strict : Bool} {i : Int}
    (h : i ∈ (parse strict line).accepted ∨ i ∈ (parse strict line).rejected) :
    1 ≤ i ∧ i ≤ (Commandline.ofLine line).num := by
  -- an entry of either list comes from a place of the line
  have hplace : ∃ k : Nat, k < (Commandline.ofLine line).num ∧ i = k + 1 := by
    rcases h with h | h
    · obtain ⟨p, hp, rfl⟩ := List.mem_map.mp h
      obtain ⟨k, segment, hget, hindex, -⟩ := segment_of_mem_segments hp
      exact ⟨k, lt_num_iff.mpr ⟨segment, hget⟩, hindex⟩
    · obtain ⟨e, he, rfl⟩ := List.mem_map.mp h
      obtain ⟨k, hget, hindex, -⟩ := segment_of_mem_errors he
      exact ⟨k, lt_num_iff.mpr ⟨_, hget⟩, hindex⟩
  obtain ⟨k, hk, rfl⟩ := hplace
  omega

/-- Without the strict rule a number is accepted just where its segment parses alone. -/
theorem mem_accepted_iff {k : Nat} {segment : String}
    (hget : (Commandline.ofLine line).segments[k]? = some segment) :
    (k + 1 : Int) ∈ (parse false line).accepted ↔ ∃ sub, parseSubcommand segment = .ok sub := by
  constructor
  · intro h
    obtain ⟨p, hp, hindex⟩ := List.mem_map.mp h
    exact ⟨p.subcommand, parseSubcommand_of_index hp hindex hget⟩
  · rintro ⟨sub, hsub⟩
    exact List.mem_map.mpr ⟨_, mem_segments_of_ok hget hsub, rfl⟩

/-- Without the strict rule the numbers in the two lists are those of the segments. -/
theorem mem_accepted_or_rejected_iff {i : Int} :
    i ∈ (parse false line).accepted ∨ i ∈ (parse false line).rejected ↔
      1 ≤ i ∧ i ≤ (Commandline.ofLine line).num := by
  refine ⟨number_of_mem, fun ⟨hpos, hle⟩ => ?_⟩
  obtain ⟨k, rfl⟩ : ∃ k : Nat, i = k + 1 := ⟨(i - 1).toNat, by omega⟩
  obtain ⟨segment, hget⟩ := lt_num_iff.mp (show k < (Commandline.ofLine line).num by omega)
  -- which of the lists it is in depends on the segment alone
  cases hparse : parseSubcommand segment with
  | ok sub => exact .inl ((mem_accepted_iff hget).mpr ⟨sub, hparse⟩)
  | error fault => exact .inr (List.mem_map.mpr ⟨_, mem_errors_of_error hget hparse, rfl⟩)

end Numbers

/-! ### The account -/

/-- **Every segment is accounted for exactly once**, and as parsing it alone says. The numbers of
the accepted segments and those of the rejected ones grow along their lists, no number is in both,
and together they are the numbers from one to the number of segments. The segment of a number is
accepted just where it parses alone, with the subcommand that it gives there; otherwise it is
rejected, as it stands in the line, with a notice of the kind and the wording of the fault it has
there and with its number. -/
theorem parse_accounts_for_every_segment (line : String) :
    let result := parse false line
    result.accepted.Pairwise (· < ·) ∧ result.rejected.Pairwise (· < ·) ∧
    result.accepted.Disjoint result.rejected ∧
    (∀ i : Int, i ∈ result.accepted ∨ i ∈ result.rejected ↔
      1 ≤ i ∧ i ≤ result.commandline.num) ∧
    ∀ k < result.commandline.num, ∃ segment, result.commandline.segments[k]? = some segment ∧
      ((k + 1 : Int) ∈ result.accepted ↔ ∃ sub, parseSubcommand segment = .ok sub) ∧
      (∀ p ∈ result.segments, p.index = k + 1 → parseSubcommand segment = .ok p.subcommand) ∧
      ∀ fault, parseSubcommand segment = .error fault →
        ∃ e ∈ result.errors, e.index = k + 1 ∧ e.segment = segment ∧
          e.notice = fault.notice (some (k + 1 : Int)) := by
  intro result
  refine ⟨List.pairwise_map.mpr (segments_pairwise false line),
    List.pairwise_map.mpr (errors_pairwise false line), accepted_disjoint_rejected false line,
    fun i => mem_accepted_or_rejected_iff, fun k hk => ?_⟩
  obtain ⟨segment, hget⟩ := lt_num_iff.mp hk
  refine ⟨segment, hget, mem_accepted_iff hget, fun p hp hindex => ?_, fun fault hfault => ?_⟩
  · exact parseSubcommand_of_index hp hindex hget
  · exact ⟨_, mem_errors_of_error hget hfault, rfl, rfl, rfl⟩

/-- A line with good, blank and malformed segments: its first segment is accepted, and its third is
rejected for what is wrong with it alone. -/
theorem parse_accounts_for_every_segment_mixed :
    1 ∈ (parse false "ls -l| |cat <|wc").accepted ∧
      ∃ e ∈ (parse false "ls -l| |cat <|wc").errors, e.index = 3 ∧ e.segment = "cat <" ∧
        e.notice = ⟨.redirect, "missing filename after '<'", some 3⟩ := by
  have hcut : Commandline.ofLine "ls -l| |cat <|wc" = ⟨4, ["ls -l", " ", "cat <", "wc"]⟩ := by
    decide +kernel
  have hfirst : parseSubcommand "ls -l" =
      .ok ⟨[some "ls", some "-l", none], none, none, .none⟩ := by decide +kernel
  have hthird : parseSubcommand "cat <" = .error (.filenameMissing .input) := by decide +kernel
  have hnum : (parse false "ls -l| |cat <|wc").commandline.num = 4 := congrArg (·.num) hcut
  have hsegments : (parse false "ls -l| |cat <|wc").commandline.segments =
      ["ls -l", " ", "cat <", "wc"] := congrArg (·.segments) hcut
  obtain ⟨-, -, -, -, haccount⟩ := parse_accounts_for_every_segment "ls -l| |cat <|wc"
  constructor
  · obtain ⟨segment, hget, haccepted, -⟩ := haccount 0 (by rw [hnum]; decide)
    rw [hsegments] at hget
    cases hget
    exact haccepted.mpr ⟨_, hfirst⟩
  · obtain ⟨segment, hget, -, -, hrejected⟩ := haccount 2 (by rw [hnum]; decide)
    rw [hsegments] at hget
    cases hget
    exact hrejected _ hthird

end ShellPipeline
