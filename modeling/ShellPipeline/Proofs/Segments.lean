import ShellPipeline.Commandline
import Mathlib.Data.List.Basic

/-!
# Segments and pipes

A line is cut by counting its pipes first and then copying so many pieces, each up to the next pipe.
The two scans are independent of each other; `map_cuts` says that they agree at every place of the
line, so what comes out is the list of the pieces between the pipes, as `List.splitOn` gives it.

* `segments_ofLine` — the segments of a line;
* `pipe_notMem_of_mem_segments` — no segment holds a pipe;
* `ofLine_intercalate` — segments with a pipe between them are cut apart again;
* `intercalate_segments` — the segments of a line, joined, are the line.
-/

namespace ShellPipeline

/-! ### One copy -/

theorem findIdx?_pipe_eq_none {piece : List Char} (h : pipe ∉ piece) :
    piece.findIdx? (· == pipe) = none := by
  rw [List.findIdx?_eq_none_iff]
  intro c hc
  rw [beq_eq_false_iff_ne]
  rintro rfl
  exact h hc

/-- Behind the last pipe no further one is found. -/
theorem nextPipe_eq_none {done rest : List Char} (h : pipe ∉ rest) :
    nextPipe (done ++ rest) done.length = none := by
  rw [nextPipe, List.drop_left, findIdx?_pipe_eq_none h]
  rfl

/-- The next pipe stands behind a piece without one. -/
theorem nextPipe_eq_some {done piece rest : List Char} (h : pipe ∉ piece) :
    nextPipe (done ++ (piece ++ pipe :: rest)) done.length =
      some (done.length + piece.length) := by
  rw [nextPipe, List.drop_left, List.findIdx?_append, findIdx?_pipe_eq_none h,
    List.findIdx?_cons]
  simp

/-- A slice from the end of one part to the end of the next is that part. -/
theorem sliceChars_append (done piece rest : List Char) :
    Text.sliceChars (done ++ (piece ++ rest)) done.length
      ((done.length + piece.length : Nat) : Int) = piece := by
  have hstop : done.length + piece.length ≤ (done ++ (piece ++ rest)).length := by
    simp only [List.length_append]
    omega
  have hstart : done.length ≤ (done ++ (piece ++ rest)).length := by omega
  rw [Text.sliceChars, Text.clampIndex_of_le hstop, Text.clampIndex_of_le hstart,
    ← List.append_assoc, ← List.length_append, List.take_left, List.drop_left]

/-! ### All copies -/

/-- The characters of one copy. -/
def Cut.chars (line : List Char) (cut : Cut) : List Char :=
  Text.sliceChars line cut.start (cut.stop line)

/-- **The copies are the pieces between the pipes.** From any place on, as many copies as the rest
of the line has pieces are those pieces; `done` is the part of the line before that place. -/
theorem map_cuts (done rest : List Char) :
    (cuts (done ++ rest) (rest.count pipe + 1) done.length).map (Cut.chars (done ++ rest)) =
      rest.splitOn pipe := by
  induction hn : rest.count pipe generalizing done rest with
  | zero =>
    -- no pipe is left, and the one copy runs to the end of the line
    have hnone : pipe ∉ rest := List.count_eq_zero.mp hn
    have hcopy : Cut.chars (done ++ rest) ⟨done.length, none⟩ = rest := by
      have hslice := sliceChars_append done rest []
      rw [List.append_nil] at hslice
      rw [Cut.chars, Cut.stop, Option.getD_none, List.length_append]
      exact hslice
    rw [List.splitOn_eq_singleton hnone, cuts, nextPipe_eq_none hnone]
    exact congrArg (fun copy => [copy]) hcopy
  | succ n ih =>
    have hmem : pipe ∈ rest := List.count_pos_iff.mp (by omega)
    obtain ⟨piece, behind, rfl, hpiece⟩ := List.eq_append_cons_of_mem hmem
    have hcount : behind.count pipe = n := by
      rw [List.count_append, List.count_eq_zero.mpr hpiece, List.count_cons_self] at hn
      omega
    -- the copy ends before the pipe, and the next one starts behind it
    have hcopy : Cut.chars (done ++ (piece ++ pipe :: behind))
        ⟨done.length, some (done.length + piece.length)⟩ = piece :=
      sliceChars_append done piece (pipe :: behind)
    have hline : done ++ (piece ++ pipe :: behind) = (done ++ piece ++ [pipe]) ++ behind := by
      simp
    have hstart : done.length + piece.length + 1 = (done ++ piece ++ [pipe]).length := by
      simp [Nat.add_assoc]
    have hmore := ih (done ++ piece ++ [pipe]) behind hcount
    rw [← hline, ← hstart] at hmore
    -- one copy on the left, one piece on the right, and the same list behind both
    rw [List.splitOn_append_cons_self_of_not_mem hpiece, cuts, nextPipe_eq_some hpiece,
      List.map_cons, hcopy, Cut.stop, Option.getD_some, hmore]

/-! ### The segments of a line -/

/-- **The segments of a line are the pieces between its pipes.** -/
theorem segments_ofLine (line : String) :
    (Commandline.ofLine line).segments = (line.toList.splitOn pipe).map String.ofList := by
  have hcuts := map_cuts [] line.toList
  rw [List.nil_append] at hcuts
  -- the text of a copy is its characters put together again
  rw [← hcuts, List.map_map]
  rfl

theorem length_cuts (line : List Char) (number start : Nat) :
    (cuts line number start).length = number := by
  induction number generalizing start with
  | zero => rfl
  | succ number ih => rw [cuts, List.length_cons, ih]

/-- A line has as many segments as it says. -/
theorem length_segments_ofLine (line : String) :
    (Commandline.ofLine line).segments.length = (Commandline.ofLine line).num := by
  rw [Commandline.ofLine, List.length_map, length_cuts]

/-- The segments of a line say everything about its cut. -/
theorem ofLine_eq_of_segments {line : String} {segments : List String}
    (h : (Commandline.ofLine line).segments = segments) :
    Commandline.ofLine line = ⟨segments.length, segments⟩ := by
  calc Commandline.ofLine line
      = ⟨(Commandline.ofLine line).num, (Commandline.ofLine line).segments⟩ := rfl
    _ = ⟨segments.length, segments⟩ := by rw [← length_segments_ofLine, h]

/-- The numbers of a line are the places of its segments. -/
theorem lt_num_iff {line : String} {k : Nat} :
    k < (Commandline.ofLine line).num ↔
      ∃ segment, (Commandline.ofLine line).segments[k]? = some segment := by
  rw [← length_segments_ofLine, ← Option.isSome_iff_exists, isSome_getElem?]

/-- No piece holds what the list was split at. -/
theorem notMem_of_mem_splitOn {separator : Char} {l piece : List Char}
    (h : piece ∈ l.splitOn separator) : separator ∉ piece := by
  induction l generalizing piece with
  | nil =>
    rw [List.splitOn_nil, List.mem_singleton] at h
    rw [h]
    exact List.not_mem_nil
  | cons c l ih =>
    rw [List.splitOn_cons_eq_if_modifyHead] at h
    split at h
    · -- a separator starts a new piece
      rcases List.mem_cons.mp h with rfl | h
      · exact List.not_mem_nil
      · exact ih h
    · next hc =>
      -- any other character joins the first piece
      obtain ⟨first, others, hsplit⟩ :=
        List.exists_cons_of_ne_nil (List.splitOn_ne_nil separator l)
      rw [hsplit, List.modifyHead_cons] at h
      rcases List.mem_cons.mp h with rfl | h
      · have hfirst : separator ∉ first := ih (by rw [hsplit]; exact List.mem_cons_self)
        intro hmem
        rcases List.mem_cons.mp hmem with hpc | hmem
        · exact hc (by rw [hpc, beq_self_eq_true])
        · exact hfirst hmem
      · exact ih (by rw [hsplit]; exact List.mem_cons_of_mem first h)

/-- **No segment holds a pipe.** -/
theorem pipe_notMem_of_mem_segments {line segment : String}
    (h : segment ∈ (Commandline.ofLine line).segments) : pipe ∉ segment.toList := by
  rw [segments_ofLine] at h
  obtain ⟨piece, hpiece, rfl⟩ := List.mem_map.mp h
  rw [String.toList_ofList]
  exact notMem_of_mem_splitOn hpiece

/-- **Segments with a pipe between them are cut apart again.** -/
theorem ofLine_intercalate {segments : List String} (hne : segments ≠ [])
    (h : ∀ s ∈ segments, pipe ∉ s.toList) :
    (Commandline.ofLine ("|".intercalate segments)).segments = segments := by
  have hpieces : ∀ piece ∈ segments.map String.toList, pipe ∉ piece := by
    intro piece hpiece
    obtain ⟨s, hs, rfl⟩ := List.mem_map.mp hpiece
    exact h s hs
  have hpipe : "|".toList = [pipe] := rfl
  rw [segments_ofLine, String.toList_intercalate, hpipe,
    List.splitOn_intercalate pipe hpieces (by simpa using hne), List.map_map]
  exact (List.map_congr_left fun s _ => String.ofList_toList).trans (List.map_id segments)

/-! ### Cutting and joining -/

/-- What stands in joined pieces stands between them or in one of them. -/
theorem mem_intercalate {α : Type} {separator : List α} {pieces : List (List α)} {c : α}
    (h : c ∈ separator.intercalate pieces) : c ∈ separator ∨ ∃ piece ∈ pieces, c ∈ piece := by
  induction pieces with
  | nil => exact absurd h List.not_mem_nil
  | cons piece pieces ih =>
    cases pieces with
    | nil =>
      -- there is no separator behind the last piece
      rw [List.intercalate_singleton] at h
      exact .inr ⟨piece, List.mem_cons_self, h⟩
    | cons next pieces =>
      rw [List.intercalate_cons_cons, List.append_assoc, List.mem_append, List.mem_append] at h
      rcases h with h | h | h
      · exact .inr ⟨piece, List.mem_cons_self, h⟩
      · exact .inl h
      · obtain hsep | ⟨found, hfound, hc⟩ := ih h
        · exact .inl hsep
        · exact .inr ⟨found, List.mem_cons_of_mem piece hfound, hc⟩

/-- **The segments with a pipe between them are the line**, character for character. -/
theorem intercalate_segments (line : String) :
    "|".intercalate (Commandline.ofLine line).segments = line := by
  have hpipe : "|".toList = [pipe] := rfl
  have hpieces : (Commandline.ofLine line).segments.map String.toList =
      line.toList.splitOn pipe := by
    rw [segments_ofLine, List.map_map]
    exact (List.map_congr_left fun piece _ => String.toList_ofList).trans (List.map_id _)
  apply String.toList_injective
  calc ("|".intercalate (Commandline.ofLine line).segments).toList
      = [pipe].intercalate (line.toList.splitOn pipe) := by
        rw [String.toList_intercalate, hpipe, hpieces]
    _ = line.toList := List.intercalate_splitOn pipe

/-- **Cutting is the inverse of joining.** Where memory suffices every line is cut, into one segment
more than it has pipes. No segment holds a pipe, and the segments with a pipe between them are the
line again, so nothing is trimmed and every pipe, at an end or doubled, leaves a segment on either
side. And texts without a pipe that are joined by pipes, at least one of them, come back as they
were. -/
theorem split_is_inverse_of_join :
    (∀ line : String, ∃ commandline : Commandline,
      Commandline.split (fun _ => false) line = .ok commandline ∧
      commandline.num = commandline.segments.length ∧
      commandline.num = line.toList.count '|' + 1 ∧
      (∀ s ∈ commandline.segments, '|' ∉ s.toList) ∧
      "|".intercalate commandline.segments = line) ∧
    ∀ segments : List String, segments ≠ [] → (∀ s ∈ segments, '|' ∉ s.toList) →
      Commandline.split (fun _ => false) ("|".intercalate segments) =
        .ok ⟨segments.length, segments⟩ := by
  constructor
  · intro line
    exact ⟨.ofLine line, Commandline.split_of_none_fails line, (length_segments_ofLine line).symm,
      rfl, fun s hs => pipe_notMem_of_mem_segments hs, intercalate_segments line⟩
  · intro segments hne h
    rw [Commandline.split_of_none_fails, ofLine_eq_of_segments (ofLine_intercalate hne h)]

/-- A pipe at either end and two pipes in a row: empty segments, and blanks left alone. -/
theorem split_is_inverse_of_join_empty_segments :
    Commandline.split (fun _ => false) "| ls  ||wc|" = .ok ⟨5, ["", " ls  ", "", "wc", ""]⟩ := by
  have hjoin : "|".intercalate ["", " ls  ", "", "wc", ""] = "| ls  ||wc|" := by decide +kernel
  rw [← hjoin]
  exact split_is_inverse_of_join.2 ["", " ls  ", "", "wc", ""] (List.cons_ne_nil _ _)
    (by decide +kernel)

end ShellPipeline
