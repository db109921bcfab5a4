import ShellPipeline.Proofs.Cutoff

/-!
# Lines joined by a pipe

Two lines with a pipe between them have the segments of the one and then those of the other, also
where a line ends with a pipe, begins with one or is empty. Each segment is parsed for itself and
only its number depends on what stands before it. So the parse of the joined line is the parse of
the first line followed by that of the second with its numbers moved up (`shift`). Under the strict
rule this is so when the first line has no error; when it has one, the second line is not looked at.

* `ofLine_pipe` — the cut of a joined line;
* `attemptAll_shift` — attempts on the same segments under higher numbers;
* `attempts_true_of_allParse_append`, `attempts_true_of_failure_append` — what the strict rule
  leaves of a joined line.
-/

namespace ShellPipeline

/-! ### Numbers moved up -/

/-- An attempt with its number moved up. -/
def Attempt.shift (n : Nat) (a : Attempt) : Attempt := { a with index := a.index + n }

/-- An accepted segment with its number moved up. -/
def ParsedSegment.shift (n : Nat) (p : ParsedSegment) : ParsedSegment :=
  { p with index := p.index + n }

/-- A rejected segment with its number moved up, and the number that its notice shows with it. -/
def SegmentError.shift (n : Nat) (e : SegmentError) : SegmentError :=
  { e with index := e.index + n, shown := e.shown.map (· + (n : Int)) }

theorem parsed?_shift (n : Nat) (a : Attempt) :
    (a.shift n).parsed? = a.parsed?.map (·.shift n) := by
  cases a with
  | mk index segment tokens outcome => cases outcome <;> rfl

theorem error?_shift (n : Nat) (a : Attempt) : (a.shift n).error? = a.error?.map (·.shift n) := by
  cases a with
  | mk index segment tokens outcome => cases outcome <;> rfl

/-- Where each kept entry moves with its attempt, the list of them does. -/
theorem filterMap_map_of_map {α β : Type} {keep : α → Option β} {f : α → α} {g : β → β}
    (h : ∀ a, keep (f a) = (keep a).map g) (l : List α) :
    (l.map f).filterMap keep = (l.filterMap keep).map g := by
  rw [List.filterMap_map, List.map_filterMap]
  exact congrArg (List.filterMap · l) (funext h)

/-- The number is all that an attempt knows of what stands before its segment. -/
theorem ofSegment_shift (index n : Nat) (segment : String) :
    Attempt.ofSegment (index + n) segment = (Attempt.ofSegment index segment).shift n := by
  rw [ofSegment_eq, ofSegment_eq, Attempt.shift]

/-- **The same segments under higher numbers** give the same attempts under higher numbers. -/
theorem attemptAll_shift (index n : Nat) (segments : List String) :
    attemptAll (index + n) segments = (attemptAll index segments).map (·.shift n) := by
  induction segments generalizing index with
  | nil => rfl
  | cons segment rest ih =>
    have hrest : attemptAll (index + n + 1) rest =
        (attemptAll (index + 1) rest).map (·.shift n) := by
      rw [Nat.add_right_comm]
      exact ih (index + 1)
    rw [attemptAll, attemptAll, List.map_cons, hrest, ofSegment_shift]

/-! ### The segments of a joined line -/

/-- **The segments of a joined line** are those of the first line and then those of the second. -/
theorem ofLine_pipe (a b : String) :
    Commandline.ofLine (a ++ "|" ++ b) =
      ⟨(Commandline.ofLine a).num + (Commandline.ofLine b).num,
        (Commandline.ofLine a).segments ++ (Commandline.ofLine b).segments⟩ := by
  have hline : (a ++ "|" ++ b).toList = a.toList ++ pipe :: b.toList := by
    rw [String.toList_append, String.toList_append, List.append_assoc]
    rfl
  have hsegments : (Commandline.ofLine (a ++ "|" ++ b)).segments =
      (Commandline.ofLine a).segments ++ (Commandline.ofLine b).segments := by
    rw [segments_ofLine, segments_ofLine, segments_ofLine, hline,
      List.splitOn_append_cons_self, List.map_append]
  rw [ofLine_eq_of_segments hsegments, List.length_append, length_segments_ofLine,
    length_segments_ofLine]

/-! ### The attempts on a joined line -/

section Attempts

variable {first second joined : Commandline}

/-- Every segment is attempted, those of the second line under higher numbers. -/
theorem attempts_false_append (hjoin : joined.segments = first.segments ++ second.segments) :
    attempts false joined = attempts false first ++
      (attempts false second).map (·.shift first.segments.length) := by
  rw [attempts_false, attempts_false, attempts_false, hjoin, attemptAll_append, attemptAll_shift]

/-- **Where the first line is in order, the strict rule goes on with the second.** -/
theorem attempts_true_of_allParse_append
    (hjoin : joined.segments = first.segments ++ second.segments)
    (hall : AllParse first.segments) :
    attempts true joined = attempts true first ++
      (attempts true second).map (·.shift first.segments.length) := by
  rw [attempts_true joined, hjoin, attemptAll_append,
    takeThrough_append_of_none fun a ha => not_failed_of_allParse hall ha, attemptAll_shift,
    takeThrough_map, attempts_eq_attemptAll true hall, attempts_true second]
  -- whether an attempt fails does not depend on its number
  rfl

/-- **Where the first line has an error, the second is not looked at.** -/
theorem attempts_true_of_failure_append
    (hjoin : joined.segments = first.segments ++ second.segments)
    (hfail : ¬ AllParse first.segments) : attempts true joined = attempts true first := by
  have hsome : ∃ a ∈ attemptAll 1 first.segments, a.failed = true := by
    rcases exists_first_failure first.segments with hall | ⟨good, bad, rest, fault, h⟩
    · exact absurd hall hfail
    · refine ⟨.ofSegment (1 + good.length) bad, ?_, failed_ofSegment_of_error h.bad _⟩
      rw [h.cut, attemptAll_append, attemptAll]
      exact List.mem_append_right _ List.mem_cons_self
  rw [attempts_true joined, hjoin, attemptAll_append, takeThrough_append_of_some hsome,
    attempts_true first]

end Attempts

/-! ### The parse of a joined line -/

section Parse

variable {strict : Bool} {a b : String}

/-- Where the attempts are put one behind the other, so are the two lists of the result. -/
theorem lists_of_attempts_append
    (h : attempts strict (.ofLine (a ++ "|" ++ b)) = attempts strict (.ofLine a) ++
      (attempts strict (.ofLine b)).map (·.shift (Commandline.ofLine a).segments.length)) :
    (parse strict (a ++ "|" ++ b)).segments = (parse strict a).segments ++
        (parse strict b).segments.map (·.shift (parse strict a).commandline.num) ∧
      (parse strict (a ++ "|" ++ b)).errors = (parse strict a).errors ++
        (parse strict b).errors.map (·.shift (parse strict a).commandline.num) := by
  rw [length_segments_ofLine] at h
  rw [commandline_parse]
  constructor
  · rw [segments_parse, h, List.filterMap_append, filterMap_map_of_map (parsed?_shift _),
      ← segments_parse, ← segments_parse]
  · rw [errors_parse, h, List.filterMap_append, filterMap_map_of_map (error?_shift _),
      ← errors_parse, ← errors_parse]

end Parse

/-- **The parse of a joined line is put together from two.** The cut of the joined line is that of
the first line followed by that of the second. Without the strict rule so are the accepted and the
rejected segments, with the numbers of the second line moved up by the segments of the first and
nothing else changed. Under the strict rule a first line with an error is all there is: both lists
are the ones it has alone, and no segment of the second line is attempted. Where the first line has
no error, what the second accepts and rejects follows with its numbers moved up. -/
theorem parse_of_joined_lines (a b : String) :
    (∀ strict, (parse strict (a ++ "|" ++ b)).commandline =
      ⟨(parse strict a).commandline.num + (parse strict b).commandline.num,
        (parse strict a).commandline.segments ++ (parse strict b).commandline.segments⟩) ∧
    ((parse false (a ++ "|" ++ b)).segments = (parse false a).segments ++
        (parse false b).segments.map (·.shift (parse false a).commandline.num) ∧
      (parse false (a ++ "|" ++ b)).errors = (parse false a).errors ++
        (parse false b).errors.map (·.shift (parse false a).commandline.num)) ∧
    ((parse true a).errors ≠ [] →
      (parse true (a ++ "|" ++ b)).segments = (parse true a).segments ∧
      (parse true (a ++ "|" ++ b)).errors = (parse true a).errors ∧
      attempts true (.ofLine (a ++ "|" ++ b)) = attempts true (.ofLine a)) ∧
    ((parse true a).errors = [] →
      (parse true (a ++ "|" ++ b)).segments = (parse true a).segments ++
        (parse true b).segments.map (·.shift (parse true a).commandline.num) ∧
      (parse true (a ++ "|" ++ b)).errors =
        (parse true b).errors.map (·.shift (parse true a).commandline.num)) := by
  have hjoin : (Commandline.ofLine (a ++ "|" ++ b)).segments =
      (Commandline.ofLine a).segments ++ (Commandline.ofLine b).segments :=
    congrArg (·.segments) (ofLine_pipe a b)
  refine ⟨fun strict => ?_, ?_, fun hfail => ?_, fun hnil => ?_⟩
  · rw [commandline_parse, commandline_parse, commandline_parse]
    exact ofLine_pipe a b
  · exact lists_of_attempts_append (attempts_false_append hjoin)
  · rw [Ne, errors_parse_eq_nil_iff] at hfail
    have hattempts := attempts_true_of_failure_append hjoin hfail
    refine ⟨?_, ?_, hattempts⟩
    · rw [segments_parse, hattempts, ← segments_parse]
    · rw [errors_parse, hattempts, ← errors_parse]
  · have hall := errors_parse_eq_nil_iff.mp hnil
    have hlists := lists_of_attempts_append (attempts_true_of_allParse_append hjoin hall)
    rw [hnil, List.nil_append] at hlists
    exact hlists

/-- A first line that ends with a pipe, and so with an error, and one that is in order. -/
theorem parse_of_joined_lines_either :
    ((parse true "ls|").errors ≠ [] ∧ (parse true ("ls|" ++ "|" ++ "wc <")).errors =
        [⟨2, "", .commandMissing, some 2, []⟩]) ∧
      (parse true "ls").errors = [] ∧ (parse true ("ls" ++ "|" ++ "|wc")).errors =
        [⟨2, "", .commandMissing, some 2, []⟩] := by
  have hbad : (parse true "ls|").errors = [⟨2, "", .commandMissing, some 2, []⟩] := by
    decide +kernel
  have hgood : (parse true "ls").errors = [] := by decide +kernel
  have hsecond : (parse true "|wc").errors = [⟨1, "", .commandMissing, some 1, []⟩] := by
    decide +kernel
  refine ⟨⟨?_, ?_⟩, hgood, ?_⟩
  · rw [hbad]
    exact List.cons_ne_nil _ _
  · obtain ⟨-, -, hfail, -⟩ := parse_of_joined_lines "ls|" "wc <"
    obtain ⟨-, herrors, -⟩ := hfail (by rw [hbad]; exact List.cons_ne_nil _ _)
    exact herrors.trans hbad
  · obtain ⟨-, -, -, hgo⟩ := parse_of_joined_lines "ls" "|wc"
    obtain ⟨-, herrors⟩ := hgo hgood
    rw [herrors, hsecond]
    decide +kernel

end ShellPipeline
