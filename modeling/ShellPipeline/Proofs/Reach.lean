import ShellPipeline.Proofs.Cutoff

/-!
# How far a parse gets

Without the strict rule a parse looks at every segment. Under the strict rule it looks at a segment
only where all segments before it parse alone. `Reached` says this of a place among the segments,
without the list of attempts, and the two lists of a result are read off the reached places: a
reached segment is accepted or rejected as it parses alone, and no other segment leaves a trace.

* `getElem?_attempts_eq_some_iff` — the attempts, one for each reached place;
* `mem_segments_iff`, `mem_errors_iff` — the entries of the two lists;
* `mem_accepted_or_rejected_iff_reached` — the numbers of the two lists together;
* `not_reached_iff` — the segments that are passed over lie behind the first failure.
-/

namespace ShellPipeline

/-- **A place that a parse gets to.** -/
structure Reached (strict : Bool) (segments : List String) (k : Nat) : Prop where
  /-- There is a segment. -/
  inside : k < segments.length
  /-- Under the strict rule the segments before it parse. -/
  before : strict = true → AllParse (segments.take k)

/-! ### Lists up to a member, by place -/

section TakeThrough

variable {α : Type} {test : α → Bool}

/-- **A member is kept** where it is no member before it that is looked for. -/
theorem getElem?_takeThrough_eq_some_iff {l : List α} {k : Nat} {a : α} :
    (takeThrough test l)[k]? = some a ↔ l[k]? = some a ∧ ∀ b ∈ l.take k, test b = false := by
  induction l generalizing k with
  | nil => simp [takeThrough]
  | cons c l ih =>
    cases k with
    | zero => by_cases hc : test c = true <;> simp [takeThrough, hc]
    | succ k =>
      by_cases hc : test c = true
      · -- nothing is kept behind the first member
        simp [takeThrough, hc]
      · -- the first member passes, and what is behind it is asked the same
        rw [takeThrough, if_neg hc, List.getElem?_cons_succ, List.getElem?_cons_succ,
          List.take_succ_cons, List.forall_mem_cons, ih]
        simp [hc]

end TakeThrough

/-! ### Attempts by place -/

section Attempts

variable {segments : List String} {commandline : Commandline} {strict : Bool} {k : Nat}

theorem getElem?_attemptAll (index : Nat) (segments : List String) (k : Nat) :
    (attemptAll index segments)[k]? = segments[k]?.map (Attempt.ofSegment (index + k)) := by
  rw [attemptAll_eq_map, List.getElem?_map, List.getElem?_zipIdx, Option.map_map]
  rfl

theorem attemptAll_take (index : Nat) (segments : List String) (k : Nat) :
    (attemptAll index segments).take k = attemptAll index (segments.take k) := by
  induction segments generalizing index k with
  | nil => rw [List.take_nil, attemptAll, List.take_nil]
  | cons segment rest ih =>
    cases k with
    | zero => rfl
    | succ k => rw [List.take_succ_cons, attemptAll, attemptAll, List.take_succ_cons, ih]

/-- No attempt fails just where all segments parse alone. -/
theorem forall_not_failed_iff {index : Nat} :
    (∀ a ∈ attemptAll index segments, a.failed = false) ↔ AllParse segments := by
  constructor
  · intro h s hs
    obtain ⟨k, hk⟩ := List.mem_iff_getElem?.mp hs
    have hfailed := h _ (mem_attemptAll_iff.mpr ⟨k, s, hk, rfl⟩)
    -- an attempt fails with its segment
    cases hparse : parseSubcommand s with
    | ok sub => exact ⟨sub, rfl⟩
    | error fault =>
      rw [failed_ofSegment_of_error hparse] at hfailed
      cases hfailed
  · intro h a ha
    exact not_failed_of_allParse h ha

/-- **The attempts of a parse**: one for each place it gets to. -/
theorem getElem?_attempts_eq_some_iff {a : Attempt} :
    (attempts strict commandline)[k]? = some a ↔
      ∃ segment, commandline.segments[k]? = some segment ∧
        Reached strict commandline.segments k ∧ a = .ofSegment (1 + k) segment := by
  have hall : (attemptAll 1 commandline.segments)[k]? = some a ↔
      ∃ segment, commandline.segments[k]? = some segment ∧ a = .ofSegment (1 + k) segment := by
    rw [getElem?_attemptAll, Option.map_eq_some_iff]
    exact exists_congr fun segment => and_congr_right fun _ => eq_comm
  have hinside : ∀ {segment}, commandline.segments[k]? = some segment →
      k < commandline.segments.length := fun h => (List.getElem?_eq_some_iff.mp h).1
  cases strict with
  | false =>
    rw [attempts_false, hall]
    constructor
    · rintro ⟨segment, hget, rfl⟩
      exact ⟨segment, hget, ⟨hinside hget, fun h => absurd h (by decide)⟩, rfl⟩
    · rintro ⟨segment, hget, -, rfl⟩
      exact ⟨segment, hget, rfl⟩
  | true =>
    -- the rule keeps an attempt where none before it fails
    rw [attempts_true, getElem?_takeThrough_eq_some_iff, hall, attemptAll_take,
      forall_not_failed_iff]
    constructor
    · rintro ⟨⟨segment, hget, rfl⟩, hbefore⟩
      exact ⟨segment, hget, ⟨hinside hget, fun _ => hbefore⟩, rfl⟩
    · rintro ⟨segment, hget, hreached, rfl⟩
      exact ⟨⟨segment, hget, rfl⟩, hreached.before rfl⟩

end Attempts

/-! ### The two lists of a result -/

section Lists

variable {strict : Bool} {line : String}

/-- **The accepted segments** are the reached ones that parse alone. -/
theorem mem_segments_iff {p : ParsedSegment} :
    p ∈ (parse strict line).segments ↔
      ∃ (k : Nat) (segment : String) (sub : Subcommand),
        (Commandline.ofLine line).segments[k]? = some segment ∧
        Reached strict (Commandline.ofLine line).segments k ∧
        parseSubcommand segment = .ok sub ∧ p = ⟨k + 1, sub, keptTokens segment⟩ := by
  have hnumber : ∀ k : Nat, ((1 + k : Nat) : Int) = k + 1 := fun k => by omega
  rw [segments_parse, List.mem_filterMap]
  constructor
  · rintro ⟨a, ha, hp⟩
    obtain ⟨k, hk⟩ := List.mem_iff_getElem?.mp ha
    obtain ⟨segment, hget, hreached, rfl⟩ := getElem?_attempts_eq_some_iff.mp hk
    rw [ofSegment_eq, parsed?_eq_some_iff] at hp
    obtain ⟨sub, hsub, rfl⟩ := hp
    exact ⟨k, segment, sub, hget, hreached, hsub, by rw [hnumber]⟩
  · rintro ⟨k, segment, sub, hget, hreached, hsub, rfl⟩
    have ha := getElem?_attempts_eq_some_iff.mpr ⟨segment, hget, hreached, rfl⟩
    refine ⟨_, List.mem_of_getElem? ha, ?_⟩
    rw [parsed?_ofSegment_of_ok hsub, hnumber]

/-- **The rejected segments** are the reached ones that do not parse alone. -/
theorem mem_errors_iff {e : SegmentError} :
    e ∈ (parse strict line).errors ↔
      ∃ (k : Nat) (segment : String) (fault : SyntaxFault),
        (Commandline.ofLine line).segments[k]? = some segment ∧
        Reached strict (Commandline.ofLine line).segments k ∧
        parseSubcommand segment = .error fault ∧ e = .ofFault (k + 1) segment fault := by
  rw [errors_parse, List.mem_filterMap]
  constructor
  · rintro ⟨a, ha, he⟩
    obtain ⟨k, hk⟩ := List.mem_iff_getElem?.mp ha
    obtain ⟨segment, hget, hreached, rfl⟩ := getElem?_attempts_eq_some_iff.mp hk
    rw [ofSegment_eq, error?_eq_some_iff] at he
    obtain ⟨fault, hfault, rfl⟩ := he
    exact ⟨k, segment, fault, hget, hreached, hfault, by rw [Nat.add_comm k 1]; rfl⟩
  · rintro ⟨k, segment, fault, hget, hreached, hfault, rfl⟩
    have ha := getElem?_attempts_eq_some_iff.mpr ⟨segment, hget, hreached, rfl⟩
    refine ⟨_, List.mem_of_getElem? ha, ?_⟩
    rw [error?_ofSegment_of_error hfault, Nat.add_comm 1 k]

/-- **Every reached segment is in one of the lists**, and nothing else is. -/
theorem mem_accepted_or_rejected_iff_reached {i : Int} :
    i ∈ (parse strict line).accepted ∨ i ∈ (parse strict line).rejected ↔
      ∃ k : Nat, i = k + 1 ∧ Reached strict (Commandline.ofLine line).segments k := by
  constructor
  · rintro (h | h)
    · obtain ⟨p, hp, rfl⟩ := List.mem_map.mp h
      obtain ⟨k, segment, sub, -, hreached, -, rfl⟩ := mem_segments_iff.mp hp
      exact ⟨k, rfl, hreached⟩
    · obtain ⟨e, he, rfl⟩ := List.mem_map.mp h
      obtain ⟨k, segment, fault, -, hreached, -, rfl⟩ := mem_errors_iff.mp he
      exact ⟨k, rfl, hreached⟩
  · rintro ⟨k, rfl, hreached⟩
    obtain ⟨segment, hget⟩ := lt_num_iff.mp (length_segments_ofLine line ▸ hreached.inside)
    -- which of the lists it is in depends on the segment alone
    cases hparse : parseSubcommand segment with
    | ok sub =>
      have hp := mem_segments_iff.mpr ⟨k, segment, sub, hget, hreached, hparse, rfl⟩
      exact .inl (List.mem_map.mpr ⟨_, hp, rfl⟩)
    | error fault =>
      have he := mem_errors_iff.mpr ⟨k, segment, fault, hget, hreached, hparse, rfl⟩
      exact .inr (List.mem_map.mpr ⟨_, he, rfl⟩)

end Lists

/-! ### What is passed over -/

/-- **Only the strict rule passes a segment over**, and only behind the first one that does not
parse alone. -/
theorem not_reached_iff {strict : Bool} {segments : List String} {k : Nat}
    (hk : k < segments.length) :
    ¬ Reached strict segments k ↔ strict = true ∧
      ∃ good bad rest fault, FirstFailure segments good bad rest fault ∧ good.length < k := by
  constructor
  · intro h
    have hstrict : strict = true := by
      by_contra hne
      exact h ⟨hk, fun hs => absurd hs hne⟩
    refine ⟨hstrict, ?_⟩
    rcases exists_first_failure segments with hall | ⟨good, bad, rest, fault, hfirst⟩
    · -- every place would be reached
      exact absurd ⟨hk, fun _ s hs => hall s (List.mem_of_mem_take hs)⟩ h
    · refine ⟨good, bad, rest, fault, hfirst, ?_⟩
      by_contra hle
      -- up to the failure the segments are good ones
      have htake : segments.take k = good.take k := by
        rw [hfirst.cut, List.take_append_of_le_length (by omega)]
      exact h ⟨hk, fun _ s hs => hfirst.good s (List.mem_of_mem_take (htake ▸ hs))⟩
  · rintro ⟨hstrict, good, bad, rest, fault, hfirst, hlt⟩ hreached
    -- the bad segment would have to parse
    have hbad : bad ∈ segments.take k := by
      obtain ⟨n, hn⟩ : ∃ n, k - good.length = n + 1 := ⟨k - good.length - 1, by omega⟩
      rw [hfirst.cut, List.take_append, hn, List.take_succ_cons]
      exact List.mem_append_right _ List.mem_cons_self
    obtain ⟨sub, hsub⟩ := hreached.before hstrict bad hbad
    rw [hfirst.bad] at hsub
    cases hsub

end ShellPipeline
