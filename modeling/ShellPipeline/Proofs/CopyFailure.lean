import ShellPipeline.Proofs.Explanation
import ShellPipeline.Proofs.Outcomes

/-!
# Copies that fail

A line is cut by copying its segments one after the other, and each copy may run out of memory.
Which ones would is given as a test on the number of the copy. Copying stops at the first one that
does, so the fault names the least of the numbers (`failedCopies`) and says nothing of those above
it; where there is none, all segments are there. A count that is not the line's own is refused
before anything is copied, so the test does not matter there.

The parse of a line stands behind the cut: it never comes to its segments where a copy fails, under
either rule and whatever is wrong with them.

* `copyCuts_eq_error_iff`, `copyCuts_eq_ok_iff` — the copies at given places;
* `split_eq_error_iff`, `split_eq_ok_iff` — the cut of a line;
* `parseUnder_eq_error_iff`, `parseUnder_eq_ok_iff` — the parse of a line.
-/

namespace ShellPipeline

/-- **The copies that run out of memory**, by their numbers, among `count` copies that are numbered
from `first` on. -/
def failedCopies (fails : Nat → Bool) (first count : Nat) : Set Nat :=
  {j | first ≤ j ∧ j < first + count ∧ fails j = true}

/-! ### Copies that fail -/

section Copies

variable {fails : Nat → Bool} {line : String} {first : Nat} {places : List Cut}

/-- Either no copy fails, or there is a first one that does. -/
theorem failedCopies_eq_empty_or (fails : Nat → Bool) (first count : Nat) :
    failedCopies fails first count = ∅ ∨ ∃ k, IsLeast (failedCopies fails first count) k := by
  rcases Set.eq_empty_or_nonempty (failedCopies fails first count) with hempty | ⟨j, hj⟩
  · exact .inl hempty
  · exact .inr (exists_isLeast hj)

/-- The copies behind the first one, where that does not fail. -/
theorem failedCopies_succ {count : Nat} (h : fails first = false) :
    failedCopies fails first (count + 1) = failedCopies fails (first + 1) count := by
  ext j
  constructor
  · rintro ⟨hle, hlt, hfails⟩
    -- the first copy is not among them
    have hne : j ≠ first := by
      rintro rfl
      rw [h] at hfails
      cases hfails
    exact ⟨by omega, by omega, hfails⟩
  · rintro ⟨hle, hlt, hfails⟩
    exact ⟨by omega, by omega, hfails⟩

/-! ### The copies at given places -/

/-- **The first copy that fails is named**, and the others are not made. -/
theorem copyCuts_of_isLeast {k : Nat}
    (h : IsLeast (failedCopies fails first places.length) k) :
    copyCuts fails line first places = .error (.copyFailed k) := by
  induction places generalizing first with
  | nil =>
    obtain ⟨hle, hlt, -⟩ := h.1
    rw [List.length_nil] at hlt
    omega
  | cons cut rest ih =>
    by_cases hfails : fails first = true
    · -- no lower number is left
      have hfirst : first ∈ failedCopies fails first (cut :: rest).length :=
        ⟨Nat.le_refl _, by rw [List.length_cons]; omega, hfails⟩
      have hle := h.2 hfirst
      obtain rfl : first = k := Nat.le_antisymm h.1.1 hle
      rw [copyCuts, if_pos hfails]
    · have hrest := h
      rw [List.length_cons, failedCopies_succ (by simpa using hfails)] at hrest
      rw [copyCuts, if_neg hfails, ih hrest]
      rfl

/-- **Where no copy fails all are made.** -/
theorem copyCuts_of_empty (h : failedCopies fails first places.length = ∅) :
    copyCuts fails line first places = .ok (places.map (·.segment line)) := by
  induction places generalizing first with
  | nil => rfl
  | cons cut rest ih =>
    have hfails : fails first = false := by
      by_contra hne
      have hfirst : first ∈ failedCopies fails first (cut :: rest).length :=
        ⟨Nat.le_refl _, by rw [List.length_cons]; omega, by simpa using hne⟩
      rw [h] at hfirst
      exact hfirst
    rw [List.length_cons, failedCopies_succ hfails] at h
    rw [copyCuts, if_neg (by simp [hfails]), ih h]
    rfl

theorem copyCuts_eq_error_iff {fault : SplitFault} :
    copyCuts fails line first places = .error fault ↔
      ∃ k, IsLeast (failedCopies fails first places.length) k ∧ fault = .copyFailed k := by
  constructor
  · intro h
    rcases failedCopies_eq_empty_or fails first places.length with hempty | ⟨k, hk⟩
    · rw [copyCuts_of_empty hempty] at h
      cases h
    · rw [copyCuts_of_isLeast hk] at h
      exact ⟨k, hk, (Except.error.inj h).symm⟩
  · rintro ⟨k, hk, rfl⟩
    exact copyCuts_of_isLeast hk

theorem copyCuts_eq_ok_iff {segments : List String} :
    copyCuts fails line first places = .ok segments ↔
      failedCopies fails first places.length = ∅ ∧ segments = places.map (·.segment line) := by
  constructor
  · intro h
    rcases failedCopies_eq_empty_or fails first places.length with hempty | ⟨k, hk⟩
    · rw [copyCuts_of_empty hempty] at h
      exact ⟨hempty, (Except.ok.inj h).symm⟩
    · rw [copyCuts_of_isLeast hk] at h
      cases h
  · rintro ⟨hempty, rfl⟩
    exact copyCuts_of_empty hempty

end Copies

/-! ### The segments of a line -/

section Line

variable {fails : Nat → Bool} {line : String}

/-- **A count that is not the line's own is refused**, whatever the copies would do. -/
theorem copySegments_of_ne {number : Int} (h : number ≠ countSegments line) :
    copySegments fails line number = .error (.wrongCount number (countSegments line)) := by
  rw [copySegments, if_pos h]

theorem copySegments_self :
    copySegments fails line (countSegments line) =
      copyCuts fails line 1 (cuts line.toList (countSegments line) 0) := by
  rw [copySegments, if_neg (not_not.mpr rfl)]

/-- Copying fails for a wrong count, or names the first copy that fails. -/
theorem copySegments_eq_error_iff {number : Int} {fault : SplitFault} :
    copySegments fails line number = .error fault ↔
      (number ≠ countSegments line ∧ fault = .wrongCount number (countSegments line)) ∨
      (number = countSegments line ∧
        ∃ k, IsLeast (failedCopies fails 1 (countSegments line)) k ∧ fault = .copyFailed k) := by
  by_cases hnumber : number = countSegments line
  · subst hnumber
    rw [copySegments_self, copyCuts_eq_error_iff, length_cuts]
    simp
  · rw [copySegments_of_ne hnumber]
    simp [hnumber, eq_comm]

/-- Copying gives all segments, for the line's own count and where no copy fails. -/
theorem copySegments_eq_ok_iff {number : Int} {segments : List String} :
    copySegments fails line number = .ok segments ↔
      number = countSegments line ∧ failedCopies fails 1 (countSegments line) = ∅ ∧
        segments = (Commandline.ofLine line).segments := by
  by_cases hnumber : number = countSegments line
  · subst hnumber
    rw [copySegments_self, copyCuts_eq_ok_iff, length_cuts]
    simp [Commandline.ofLine]
  · rw [copySegments_of_ne hnumber]
    simp [hnumber]

/-- The cut of a line fails for its first copy that fails, and for nothing else. -/
theorem split_eq_error_iff {fault : SplitFault} :
    Commandline.split fails line = .error fault ↔
      ∃ k, IsLeast (failedCopies fails 1 (countSegments line)) k ∧ fault = .copyFailed k := by
  rw [Commandline.split, map_eq_error_iff, copySegments_eq_error_iff]
  simp

/-- Where no copy fails, a line is cut as it is without any failure. -/
theorem split_eq_ok_iff {commandline : Commandline} :
    Commandline.split fails line = .ok commandline ↔
      failedCopies fails 1 (countSegments line) = ∅ ∧ commandline = .ofLine line := by
  rw [Commandline.split, map_eq_ok_iff]
  constructor
  · rintro ⟨segments, hcopies, rfl⟩
    obtain ⟨-, hempty, rfl⟩ := copySegments_eq_ok_iff.mp hcopies
    exact ⟨hempty, rfl⟩
  · rintro ⟨hempty, rfl⟩
    exact ⟨_, copySegments_eq_ok_iff.mpr ⟨rfl, hempty, rfl⟩, rfl⟩

/-! ### The parse of a line -/

theorem parseUnder_eq_error_iff {strict : Bool} {fault : SplitFault} :
    parseUnder fails strict line = .error fault ↔
      ∃ k, IsLeast (failedCopies fails 1 (countSegments line)) k ∧ fault = .copyFailed k := by
  rw [parseUnder, map_eq_error_iff, split_eq_error_iff]

theorem parseUnder_eq_ok_iff {strict : Bool} {result : ParseResult} :
    parseUnder fails strict line = .ok result ↔
      failedCopies fails 1 (countSegments line) = ∅ ∧ result = parse strict line := by
  rw [parseUnder, map_eq_ok_iff]
  constructor
  · rintro ⟨commandline, hsplit, rfl⟩
    obtain ⟨hempty, rfl⟩ := split_eq_ok_iff.mp hsplit
    exact ⟨hempty, rfl⟩
  · rintro ⟨hempty, rfl⟩
    exact ⟨_, split_eq_ok_iff.mpr ⟨hempty, rfl⟩, rfl⟩

/-- No error of a segment is about a lack of memory. -/
theorem allocation_notMem_families {strict : Bool} {e : SegmentError}
    (h : e ∈ (parse strict line).errors) : FaultKind.allocation ∉ e.notice.kind.families := by
  obtain ⟨k, segment, fault, -, -, hfault, rfl⟩ := mem_errors_iff.mp h
  have hkind : (SegmentError.ofFault (k + 1) segment fault).notice.kind = fault.kind := rfl
  rw [hkind]
  rcases kind_of_parseSubcommand_error hfault with h | h <;> rw [h] <;> decide

end Line

/-! ### The rule -/

/-- **A failed copy stops everything, and only the first one counts.** Copying for a count that is
not the line's own is refused with both counts, whatever the copies would do, also if every one of
them would fail. For the line's own count it names the least number of a copy that fails, and where
none fails it gives the pieces between the pipes. To cut or to parse a line never finds a wrong
count. Either names the same copy just where one fails, under both rules and whatever is wrong with
the segments, and then there is no result. Where none fails, either does what it does without any
failure. A failed copy is a lack of memory, and no error of a segment is one. -/
theorem copies_fail_or_all (fails : Nat → Bool) (line : String) :
    let count := line.toList.count '|' + 1
    let failed := failedCopies fails 1 count
    (∀ (number : Int) (fault : SplitFault), copySegments fails line number = .error fault ↔
      (number ≠ count ∧ fault = .wrongCount number count) ∨
      (number = count ∧ ∃ k, IsLeast failed k ∧ fault = .copyFailed k)) ∧
    (∀ (number : Int) (segments : List String), copySegments fails line number = .ok segments ↔
      number = count ∧ failed = ∅ ∧ segments = (line.toList.splitOn '|').map String.ofList) ∧
    (∀ fault, Commandline.split fails line = .error fault ↔
      ∃ k, IsLeast failed k ∧ fault = .copyFailed k) ∧
    (∀ strict fault, parseUnder fails strict line = .error fault ↔
      ∃ k, IsLeast failed k ∧ fault = .copyFailed k) ∧
    (failed = ∅ →
      Commandline.split fails line = Commandline.split (fun _ => false) line ∧
      ∀ strict, parseUnder fails strict line = parseUnder (fun _ => false) strict line ∧
        parseUnder fails strict line = .ok (parse strict line)) ∧
    (∀ k, (SplitFault.copyFailed k).kind = .allocation ∧
      (SplitFault.copyFailed k).message = "cannot copy subcommand " ++ toString k) ∧
    (∀ expected actual, (SplitFault.wrongCount expected actual).kind = .count) ∧
    ∀ strict, ∀ e ∈ (parse strict line).errors,
      FaultKind.allocation ∉ e.notice.kind.families := by
  intro count failed
  refine ⟨fun number fault => copySegments_eq_error_iff, fun number segments => ?_,
    fun fault => split_eq_error_iff, fun strict fault => parseUnder_eq_error_iff,
    fun hempty => ⟨?_, fun strict => ?_⟩, fun k => ⟨rfl, rfl⟩, fun expected actual => rfl,
    fun strict e he => allocation_notMem_families he⟩
  · rw [copySegments_eq_ok_iff, segments_ofLine]
    rfl
  · rw [split_eq_ok_iff.mpr ⟨hempty, rfl⟩, Commandline.split_of_none_fails]
  · have hparse : parseUnder fails strict line = .ok (parse strict line) :=
      parseUnder_eq_ok_iff.mpr ⟨hempty, rfl⟩
    exact ⟨hparse.trans (parseUnder_of_none_fails strict line).symm, hparse⟩

/-- The second and the third of three copies fail, with something wrong in the first segment: the
second copy is named, and under a wrong count none is. The same line where none of its copies
fails. -/
theorem copies_fail_or_all_three :
    parseUnder (fun j => 2 ≤ j) true "<|a|b" = .error (.copyFailed 2) ∧
      copySegments (fun j => 2 ≤ j) "<|a|b" (-1) = .error (.wrongCount (-1) 3) ∧
      failedCopies (fun j => 4 ≤ j) 1 3 = ∅ ∧
      parseUnder (fun j => 4 ≤ j) true "<|a|b" = .ok (parse true "<|a|b") := by
  have hcount : "<|a|b".toList.count '|' + 1 = 3 := by decide
  have hleast : IsLeast (failedCopies (fun j => 2 ≤ j) 1 3) 2 := by
    refine ⟨⟨by omega, by omega, by decide⟩, ?_⟩
    rintro j ⟨-, -, hj⟩
    exact of_decide_eq_true hj
  have hempty : failedCopies (fun j => 4 ≤ j) 1 3 = ∅ := by
    ext j
    constructor
    · rintro ⟨-, hlt, hj⟩
      have hle : 4 ≤ j := of_decide_eq_true hj
      omega
    · intro hj
      exact absurd hj (Set.notMem_empty j)
  obtain ⟨hcopy, -, -, hparse, -⟩ := copies_fail_or_all (fun j => 2 ≤ j) "<|a|b"
  obtain ⟨-, -, -, -, hnone, -⟩ := copies_fail_or_all (fun j => 4 ≤ j) "<|a|b"
  rw [hcount] at hcopy hparse hnone
  exact ⟨(hparse true _).mpr ⟨2, hleast, rfl⟩, (hcopy (-1) _).mpr (.inl ⟨by decide, rfl⟩), hempty,
    ((hnone hempty).2 true).2⟩

end ShellPipeline
